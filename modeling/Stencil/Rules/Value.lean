/-
Values of attributes. A list of names or types is searched for the matches of a pattern, from left
to right. Every item knows the stretch of the value that its match takes, blanks around it included.
-/
import Stencil.Identifier
import Stencil.Pattern.Match
import Stencil.TargetName

namespace Stencil

/-- The word that asks for nothing. -/
def noneWord : Text := "NONE".toList

/-! ### Patterns of lists -/

namespace Node

/-- A blank. -/
def blank : Node := .char (.set .exact false [.cls ⟨.blank, false, false⟩])

/-- A character that is no blank. -/
def ink : Node := .char (.set .exact false [.cls ⟨.blank, true, false⟩])

/-- As many rounds as possible. -/
def zeroOrMore (body : Node) : Node := .loop .greedy 0 none body

/-- As many rounds as possible, and one at least. -/
def oneOrMore (body : Node) : Node := .loop .greedy 1 none body

/-- A text that has nothing but blanks. -/
def allBlank : Node :=
  .capture 1 (.sequence [.anchor .textStart, .zeroOrMore .blank, .anchor .textEnd])

/-- A run without blanks. -/
def inkRun : Node := .capture 5 (.oneOrMore .ink)

/-- Something and the blanks on both sides of it. -/
def padded (body : Node) : Node := .sequence [.zeroOrMore .blank, body, .zeroOrMore .blank]

end Node

/-! ### Lists of names -/

/-- An item of a list of names. -/
inductive NameItem where
  /-- A value without any word. -/
  | blank (text : Text)
  /-- The word that asks for nothing, alone. -/
  | nothing (text : Text)
  | name (word : Text) (bestEffort : Bool)
  | invalid (text : Text)
deriving Repr, DecidableEq

namespace NameItem

/-- The pattern of an item, as it is written: blanks alone or the word that asks for nothing alone,
if they are all there is, and else a dotted name, perhaps with a question mark, or any other run
without blanks; the blanks on both sides belong to the item. -/
def patternText : Text :=
  ("(?x) (?P<whitespace_only> \\A [\\s]* \\Z ) |" ++
  " (?P<none_keyword> \\A [\\s]* NONE [\\s]* \\Z ) |" ++
  " [\\s]* (?: (?P<name> [^\\W\\d][\\w$]* (?: [.] [^\\W\\d][\\w$]* )* )" ++
  " (?P<best_effort_mark> [?] )? (?= [\\s] | \\Z ) | (?P<invalid_syntax> [\\S]+ ) ) [\\s]*").toList

/-- A segment of a name: a word character that is no digit, and then word characters and dollar
signs. -/
def segmentNodes : List Node :=
  [.char (.set .exact true [.cls ⟨.word, true, false⟩, .cls ⟨.digit, false, false⟩]),
    .zeroOrMore (.char (.set .exact false [.cls ⟨.word, false, false⟩, .code '$'.toNat]))]

/-- A dotted name. -/
def nameNode : Node :=
  .sequence (segmentNodes ++ [.zeroOrMore (.sequence (.exactly '.' :: segmentNodes))])

/-- A dotted name, perhaps with a question mark, before a blank or the end. -/
def markedNode : Node :=
  .sequence [.capture 3 nameNode,
    .loop .greedy 0 (some 1) (.capture 4 (.exactly '?')),
    .ahead false (.alt .blank (.anchor .textEnd))]

/-- The word that asks for nothing, if it is all there is. -/
def noneNode : Node :=
  .capture 2 (.sequence ([.anchor .textStart, .zeroOrMore .blank] ++ noneWord.map Node.exactly ++
    [.zeroOrMore .blank, .anchor .textEnd]))

/-- An item without the blanks around it. -/
def itemNode : Node := .alt markedNode .inkRun

/-- The pattern of an item. -/
def pattern : Pattern where
  root := .alt .allBlank (.alt noneNode (.padded itemNode))
  groupCount := 5
  names := [("whitespace_only".toList, 1), ("none_keyword".toList, 2), ("name".toList, 3),
    ("best_effort_mark".toList, 4), ("invalid_syntax".toList, 5)]

/-- The item of a match, by the groups that took part in it. -/
def ofMatch (found : Match) : NameItem :=
  match pattern.named? found "whitespace_only" with
  | some text => .blank text
  | none =>
  match pattern.named? found "invalid_syntax" with
  | some text => .invalid text
  | none =>
  match pattern.named? found "none_keyword" with
  | some text => .nothing text
  | none =>
    .name ((pattern.named? found "name").getD [])
      (pattern.named? found "best_effort_mark").isSome

/-- The items of a value. -/
def ofValue (value : Text) : List (Spanned NameItem) :=
  (pattern.findAll value).map (·.map ofMatch)

/-- The names of a list, or the item that is refused. Question marks are refused unless best effort
is allowed. -/
def collect (bestEffortAllowed : Bool) : List (Spanned NameItem) → Except Text (List (Text × Bool))
  | [] => .ok []
  | ⟨_, _, item⟩ :: items =>
    match item with
    | .blank _ => .error []
    | .invalid text => .error text
    | .nothing _ => .ok []
    | .name word bestEffort =>
      if bestEffort && !bestEffortAllowed then .error (word ++ ['?'])
      else
        match collect bestEffortAllowed items with
        | .ok names => .ok ((word, bestEffort) :: names)
        | .error text => .error text

end NameItem

/-- The names of a value, each with whether it is best effort. -/
def namesOfValue (bestEffortAllowed : Bool) (value : Text) : Except Text (List (Text × Bool)) :=
  NameItem.collect bestEffortAllowed (NameItem.ofValue value)

/-! ### Lists of types -/

/-- An item of a list of types. -/
inductive TypeItem where
  /-- A value without any type. -/
  | blank (text : Text)
  | doubleQuoted (type : Text)
  | singleQuoted (type : Text)
  | bare (type : Text)
  | invalid (text : Text)
deriving Repr, DecidableEq

namespace TypeItem

/-- The pattern of an item, as it is written: blanks alone, if they are all there is, and else a
type between quotation marks, one without any, or any other run without blanks; the blanks on both
sides belong to the item. -/
def patternText : Text :=
  ("(?x) (?P<whitespace_only> \\A [\\s]* \\Z ) |" ++
  " [\\s]* (?: \"(?P<double_quoted_type> [^\"]+ )\" | '(?P<single_quoted_type> [^']+ )' |" ++
  " (?P<bare_type> [^\\s\"']+ ) | (?P<invalid_syntax> [\\S]+ ) ) [\\s]*").toList

/-- A type between two marks. -/
def quotedNode (mark : Char) (group : Nat) : Node :=
  .sequence [.exactly mark, .capture group (.oneOrMore (.char (.literal .exact true mark.toNat))),
    .exactly mark]

/-- A type without marks. -/
def bareNode : Node :=
  .capture 4 (.oneOrMore (.char (.set .exact true
    [.cls ⟨.blank, false, false⟩, .code '"'.toNat, .code '\''.toNat])))

/-- An item without the blanks around it. -/
def itemNode : Node :=
  .alt (quotedNode '"' 2) <| .alt (quotedNode '\'' 3) <| .alt bareNode .inkRun

/-- The pattern of an item. -/
def pattern : Pattern where
  root := .alt .allBlank (.padded itemNode)
  groupCount := 5
  names := [("whitespace_only".toList, 1), ("double_quoted_type".toList, 2),
    ("single_quoted_type".toList, 3), ("bare_type".toList, 4), ("invalid_syntax".toList, 5)]

/-- The item of a match, by the groups that took part in it. -/
def ofMatch (found : Match) : TypeItem :=
  match pattern.named? found "whitespace_only" with
  | some text => .blank text
  | none =>
  match pattern.named? found "invalid_syntax" with
  | some text => .invalid text
  | none =>
  match pattern.named? found "double_quoted_type" with
  | some type => .doubleQuoted type
  | none =>
  match pattern.named? found "single_quoted_type" with
  | some type => .singleQuoted type
  | none => .bare ((pattern.named? found "bare_type").getD [])

/-- The items of a value. -/
def ofValue (value : Text) : List (Spanned TypeItem) :=
  (pattern.findAll value).map (·.map ofMatch)

/-- The types of a list, or the item that is refused. -/
def collect : List (Spanned TypeItem) → Except Text (List Text)
  | [] => .ok []
  | ⟨_, _, item⟩ :: items =>
    match item with
    | .blank _ => .error []
    | .invalid text => .error text
    | .doubleQuoted type | .singleQuoted type | .bare type =>
      match collect items with
      | .ok types => .ok (type :: types)
      | .error text => .error text

end TypeItem

/-- The types of a value. -/
def typesOfValue (value : Text) : Except Text (List Text) :=
  TypeItem.collect (TypeItem.ofValue value)

/-! ### Single words -/

/-- A placement, or the value that is none. -/
def placementOfValue (value : Text) : Except Text Placement :=
  match Placement.ofText value.trim with
  | .unknown word => .error word
  | placement => .ok placement

/-- A sigil: one character that is neither blank nor part of a word. -/
def sigilOfValue (value : Text) : Except Text Text :=
  match value.trim with
  | [c] => if isWordChar c then .error [c] else .ok [c]
  | word => .error word

/-- A simple name, or nothing where that is asked for. -/
def targetOfValue (value : Text) : Except Text (Option Text) :=
  let word := value.trim
  if word = noneWord then .ok none
  else if isSimpleName word then .ok (some word)
  else .error word

end Stencil
