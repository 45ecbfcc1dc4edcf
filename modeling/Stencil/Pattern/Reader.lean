/-
Reading patterns. A pattern is a choice between sequences of pieces; a piece is a character, a set, an
anchor, a group or a loop of the piece before it. Reading resolves flags, group numbers and names, so
that the tree needs none of them, and it stops at the first fault.

Groups nest, so reading is a recursion on a bound of the number of tokens; every step takes at least
one token, and the bound that `Pattern.ofText` starts with is never reached.
-/
import Stencil.Text.CharName
import Stencil.Text.NameChar
import Stencil.Pattern.Basic
import Stencil.Pattern.Flags
import Stencil.Pattern.Token

namespace Stencil

/-- What has been read so far besides the tree: the flags given for the whole pattern, the names of
groups, the width of every group (none while it is open), the first group of the look behind that is
being read, and the groups that conditions ask about, with the positions where they do. -/
structure ReaderState where
  stream : TokenStream
  given : List Flag
  names : List (Text × Nat)
  widths : List (Option Width)
  lookbehindFloor : Option Nat
  conditions : List (Nat × Nat)
deriving Repr, DecidableEq

/-- Readers take tokens, or refuse. -/
abbrev Reader := StateT ReaderState (Except Refusal)

/-- A piece of a sequence. A loop must not follow an anchor or another loop directly. -/
inductive Piece where
  | anchor (place : Anchor)
  | loop (node : Node)
  | other (node : Node)
deriving Repr, DecidableEq

/-- The node of a piece. -/
def Piece.node : Piece → Node
  | .anchor place => .anchor place
  | .loop node => node
  | .other node => node

variable [CharacterNames]

namespace Reader

/-! ### Tokens -/

/-- The next token, which stays where it is. -/
def peek : Reader (Option Token) := do return (← get).stream.ahead.head?

/-- The present position. -/
def position : Reader Nat := do return (← get).stream.position

/-- Runs an action of the token stream. -/
def onStream {Result : Type} (action : TokenStream → Except Refusal (Result × TokenStream)) :
    Reader Result := do
  let state ← get
  let (result, stream) ← liftM (action state.stream)
  set { state with stream := stream }
  return result

/-- Takes the next token. -/
def next : Reader (Option Token) := onStream TokenStream.next

/-- Takes the next token if it is the given character. -/
def accept (c : Char) : Reader Bool := onStream (·.accept c)

/-- Takes at most `count` characters of a class. -/
def takeChars (inClass : Char → Bool) (count : Nat) : Reader Text :=
  onStream (TokenStream.takeWhile inClass count)

/-- Takes all ASCII digits that come next. -/
def takeDigits : Reader Text := do
  takeChars isAsciiDigit (← get).stream.ahead.length

/-- Takes a name and its terminator. -/
def takeName (terminator : Char) (what : String) : Reader Text :=
  onStream (·.name terminator what.toList)

/-- Refuses with a fault that shows `before` characters before the present position. -/
def faultBefore {Result : Type} (before : Nat) (cause : FaultCause) : Reader Result := do
  throw ((← get).stream.faultBefore before cause)

/-- Refuses with a fault at a position. -/
def faultAt {Result : Type} (position : Nat) (cause : FaultCause) : Reader Result :=
  throw (.fault ⟨cause, some position⟩)

/-! ### Groups -/

/-- One more than the number of groups opened so far. -/
def groupLimit : Reader Nat := do return (← get).widths.length + 1

/-- The width of a group that has been closed. -/
def closedWidth? (group : Nat) : Reader (Option Width) := do
  if group = 0 then return none
  return ((← get).widths[group - 1]?).join

/-- Within a look behind only groups closed before it can be referred to. -/
def checkLookbehind (group : Nat) : Reader Unit := do
  match (← get).lookbehindFloor with
  | none => return
  | some floor =>
    if (← closedWidth? group).isNone then faultBefore 0 .groupStillOpen
    if floor ≤ group then faultBefore 0 .groupOfSameLookbehind

/-- Opens the next group. -/
def openGroup (name : Option Text) : Reader Nat := do
  let group ← groupLimit
  match name with
  | none => modify fun state => { state with widths := state.widths ++ [none] }
  | some name =>
    match (← get).names.lookup name with
    | some earlier => faultBefore (name.length + 1) (.redefinedGroupName name group earlier)
    | none =>
      modify fun state =>
        { state with widths := state.widths ++ [none], names := state.names ++ [(name, group)] }
  return group

/-- Closes a group. -/
def closeGroup (group : Nat) (body : Node) : Reader Unit :=
  modify fun state => { state with widths := state.widths.set (group - 1) (some body.width) }

/-! ### Escapes -/

/-- Escapes that stand for a control character or the backslash. -/
def controlEscape? : Char → Option Nat
  | 'a' => some 7
  | 'b' => some 8
  | 't' => some 9
  | 'n' => some 10
  | 'v' => some 11
  | 'f' => some 12
  | 'r' => some 13
  | '\\' => some 0x5C
  | _ => none

/-- Escapes that stand for a class of characters. -/
def classEscape? (flags : Flags) : Char → Option CharClass
  | 'd' => some ⟨.digit, false, flags.ascii⟩
  | 'D' => some ⟨.digit, true, flags.ascii⟩
  | 's' => some ⟨.blank, false, flags.ascii⟩
  | 'S' => some ⟨.blank, true, flags.ascii⟩
  | 'w' => some ⟨.word, false, flags.ascii⟩
  | 'W' => some ⟨.word, true, flags.ascii⟩
  | _ => none

/-- Escapes that stand for an anchor. -/
def anchorEscape? (flags : Flags) : Char → Option Anchor
  | 'A' => some .textStart
  | 'Z' => some .textEnd
  | 'b' => some (.boundary flags.ascii false)
  | 'B' => some (.boundary flags.ascii true)
  | _ => none

/-- A code point by exactly `count` hexadecimal digits. -/
def hexEscape (lead : Char) (count : Nat) : Reader Nat := do
  let digits ← takeChars isHexDigit count
  let escape := '\\' :: lead :: digits
  if digits.length ≠ count then faultBefore escape.length (.incompleteEscape escape)
  let value := digitsValue 16 digits
  if 0x10FFFF < value then faultBefore escape.length (.badEscape escape)
  return value

/-- A character by its name. -/
def namedEscape : Reader Nat := do
  if !(← accept '{') then faultBefore 0 .missingBrace
  let name ← takeName '}' "character name"
  match CharacterNames.character? name with
  | some c => return c.toNat
  | none => faultBefore (name.length + 4) (.undefinedCharacterName name)

/-- Refuses an escape of one character. -/
def badEscape {Result : Type} (c : Char) : Reader Result :=
  faultBefore 2 (.badEscape ['\\', c])

/-- An octal escape, refused above three hundred and seventy-seven. -/
def octalEscape (digits : Text) : Reader Nat := do
  let value := digitsValue 8 digits
  let escape := '\\' :: digits
  if 0o377 < value then faultBefore escape.length (.octalTooLarge escape)
  return value

/-- An escape by code point that is written alike inside and outside of sets. -/
def codeEscape? (c : Char) : Option (Reader Nat) :=
  match c with
  | 'x' => some (hexEscape 'x' 2)
  | 'u' => some (hexEscape 'u' 4)
  | 'U' => some (hexEscape 'U' 8)
  | 'N' => some namedEscape
  | _ => none

/-- The text of a group that is closed, once more. `width` characters have been taken for it. -/
def groupAgain (flags : Flags) (group width : Nat) : Reader Piece := do
  match ← closedWidth? group with
  | none => faultBefore width .groupStillOpen
  | some groupWidth =>
    checkLookbehind group
    return .other (.again flags.fold group groupWidth)

/-- A literal character. -/
def literalPiece (flags : Flags) (code : Nat) : Piece :=
  .other (.char (.literal flags.fold false code))

/-- A digit after a backslash: three octal digits are a character, all else is a group. -/
def digitEscape (flags : Flags) (c : Char) : Reader Piece := do
  let second ← takeChars isAsciiDigit 1
  let third ←
    if isOctalDigit c && !second.isEmpty && second.all isOctalDigit then takeChars isOctalDigit 1
    else pure []
  let digits := c :: second ++ third
  if third.isEmpty then
    let group := digitsValue 10 digits
    if group < (← groupLimit) then groupAgain flags group (digits.length + 1)
    else faultBefore digits.length (.invalidGroup group)
  else return literalPiece flags (← octalEscape digits)

/-- The piece that an escape outside of sets stands for. -/
def escapePiece (flags : Flags) (c : Char) : Reader Piece := do
  match anchorEscape? flags c with
  | some place => return .anchor place
  | none =>
  match classEscape? flags c with
  | some named => return .other (.char (.set flags.fold false [.cls named]))
  | none =>
  match controlEscape? c with
  | some code => return literalPiece flags code
  | none =>
  match codeEscape? c with
  | some reader => return literalPiece flags (← reader)
  | none =>
    if c = '0' then
      return literalPiece flags (digitsValue 8 (← takeChars isOctalDigit 2))
    else if isAsciiDigit c then digitEscape flags c
    else if isAsciiLetter c then badEscape c
    else return literalPiece flags c.toNat

/-! ### Sets -/

/-- The member that an escape inside a set stands for. -/
def escapeMember (flags : Flags) (c : Char) : Reader SetMember := do
  match controlEscape? c with
  | some code => return .code code
  | none =>
  match classEscape? flags c with
  | some named => return .cls named
  | none =>
  match codeEscape? c with
  | some reader => return .code (← reader)
  | none =>
    if isOctalDigit c then return .code (← octalEscape (c :: (← takeChars isOctalDigit 2)))
    else if isAsciiDigit c || isAsciiLetter c then badEscape c
    else return .code c.toNat

/-- The member that a token inside a set stands for. -/
def tokenMember (flags : Flags) : Token → Reader SetMember
  | .plain c => return .code c.toNat
  | .escape c => escapeMember flags c

/-- The members of a set up to its closing bracket; `start` is the position of the opening one. -/
def setMembers (flags : Flags) (start : Nat) : (fuel : Nat) → List SetMember → Reader (List SetMember)
  | 0, members => return members
  | fuel + 1, members => do
    match ← next with
    | none => faultAt start .unterminatedSet
    | some first =>
      if first.isPlain ']' && !members.isEmpty then return members
      let low ← tokenMember flags first
      if !(← accept '-') then setMembers flags start fuel (members ++ [low])
      else
        match ← next with
        | none => faultAt start .unterminatedSet
        | some last =>
          if last.isPlain ']' then return members ++ [low, .code '-'.toNat]
          let high ← tokenMember flags last
          match low, high with
          | .code low, .code high =>
            if high < low then
              faultBefore (first.width + 1 + last.width) (.badRange first.text last.text)
            setMembers flags start fuel (members ++ [.range ⟨low, high⟩])
          | _, _ => faultBefore (first.width + 1 + last.width) (.badRange first.text last.text)

/-- A set whose opening bracket has been taken. A set of one character is that character. -/
def setPiece (flags : Flags) : Reader Piece := do
  let start := (← position) - 1
  let negated ← accept '^'
  let members ← setMembers flags start ((← get).stream.ahead.length + 1) []
  match members.eraseDups with
  | [.code code] => return .other (.char (.literal flags.fold negated code))
  | members => return .other (.char (.set flags.fold negated members))

/-! ### Loops -/

/-- Numbers of rounds from this one on are refused. -/
def roundLimit : Nat := 4294967295

/-- A number of rounds, or nothing where no digit is given. -/
def roundCount (digits : Text) : Reader (Option Nat) := do
  if digits.isEmpty then return none
  let count := digitsValue 10 digits
  if roundLimit ≤ count then throw .repetitionTooLarge
  return some count

/-- The rounds between braces whose opening one has been taken, or nothing if what follows is no
number of rounds and the brace stands for itself. -/
def bracedRounds : Reader (Option (Nat × Option Nat)) := do
  let start := (← get).stream
  if start.ahead.head? == some (.plain '}') then return none
  let low ← takeDigits
  let high ← if ← accept ',' then takeDigits else pure low
  if !(← accept '}') then
    modify fun state => { state with stream := start }
    return none
  let least := (← roundCount low).getD 0
  let most ← roundCount high
  if most.any (· < least) then faultAt start.position .leastAboveMost
  return some (least, most)

/-- The rounds that a repetition sign asks for. -/
def rounds (sign : Char) : Reader (Option (Nat × Option Nat)) := do
  match sign with
  | '?' => return some (0, some 1)
  | '*' => return some (0, none)
  | '+' => return some (1, none)
  | _ => bracedRounds

/-- How the sign behind a repetition sign changes its greed. -/
def greed : Reader Greed := do
  if ← accept '?' then return .reluctant
  if ← accept '+' then return .possessive
  return .greedy

/-- The pieces, last one first, after a repetition sign has been taken: the last piece becomes a loop,
or the sign stands for itself. -/
def repeatPiece (flags : Flags) (sign : Char) (pieces : List Piece) : Reader (List Piece) := do
  let start ← position
  match ← rounds sign with
  | none => return literalPiece flags sign.toNat :: pieces
  | some (least, most) =>
    match pieces with
    | [] | .anchor _ :: _ => faultAt (start - 1) .nothingToRepeat
    | .loop _ :: _ => faultAt (start - 1) .multipleRepeat
    | .other node :: pieces => return .loop (.loop (← greed) least most node) :: pieces

/-! ### Flags -/

/-- Reads on after a flag's letter: the letters that follow and the character that ends them. -/
def flagsOn : (fuel : Nat) → Flag → List Flag → Reader (List Flag × Char)
  | 0, _, on => return (on, ')')
  | fuel + 1, flag, on => do
    if flag = .locale then faultBefore 0 .localeFlag
    let on := on ++ [flag]
    if flag.isType && on.any (fun other => other.isType && other != flag) then
      faultBefore 0 .typeFlagsClash
    match ← next with
    | none => faultBefore 0 .missingFlagEnd
    | some token =>
      match token with
      | .plain c =>
        if c = ')' || c = '-' || c = ':' then return (on, c)
        match Flag.ofChar? c with
        | some flag => flagsOn fuel flag on
        | none => faultBefore 1 (if isLetter c then .unknownFlag else .missingFlagEnd)
      | .escape _ => faultBefore 2 .missingFlagEnd

/-- Reads on after the letter of a flag to be turned off, up to the colon. -/
def flagsOff : (fuel : Nat) → Flag → List Flag → Reader (List Flag)
  | 0, _, off => return off
  | fuel + 1, flag, off => do
    if flag.isType then faultBefore 0 .typeFlagOff
    let off := off ++ [flag]
    match ← next with
    | none => faultBefore 0 .missingColon
    | some token =>
      match token with
      | .plain c =>
        if c = ':' then return off
        match Flag.ofChar? c with
        | some flag => flagsOff fuel flag off
        | none => faultBefore 1 (if isLetter c then .unknownFlag else .missingColon)
      | .escape _ => faultBefore 2 .missingColon

/-- The first letter of the flags to be turned off. -/
def firstFlagOff : Reader Flag := do
  match ← next with
  | none => faultBefore 0 .missingFlag
  | some (.escape _) => faultBefore 2 .missingFlag
  | some (.plain c) =>
    match Flag.ofChar? c with
    | some flag => return flag
    | none => faultBefore 1 (if isLetter c then .unknownFlag else .missingFlag)

/-- Flags for a group of their own, after those to be turned on and the character that ended them. -/
def scopedFlags (fuel : Nat) (on : List Flag) (ending : Char) : Reader (List Flag × List Flag) := do
  if on.any Flag.isGlobal then faultBefore 1 .globalFlagOn
  let off ← if ending = '-' then flagsOff fuel (← firstFlagOff) [] else pure []
  if off.any Flag.isGlobal then faultBefore 1 .globalFlagOff
  if on.any off.contains then faultBefore 1 .flagOnAndOff
  return (on, off)

/-! ### Openings of groups -/

/-- What an opening parenthesis begins. -/
inductive Opening where
  | capture (name : Option Text)
  | plain (on off : List Flag)
  | atomic
  | ahead (negated : Bool)
  | behind (negated : Bool)
  | ifCaptured (group : Nat)
  /-- A group's text once more; the parenthesis has been closed. -/
  | again (group : Nat)
  /-- Flags for the whole pattern; the parenthesis has been closed. -/
  | flags (on : List Flag)
  /-- A comment; the parenthesis has been closed. -/
  | comment
deriving Repr, DecidableEq

/-- Refuses a name that no group can have. `name` and its terminator have been taken. -/
def checkGroupName (name : Text) : Reader Unit := do
  if !isGroupName name then faultBefore (name.length + 1) (.badGroupName name)

/-- Passes over a comment whose parenthesis is at `start`. -/
def skipComment (start : Nat) : (fuel : Nat) → Reader Unit
  | 0 => return
  | fuel + 1 => do
    match ← next with
    | none => faultAt start .unterminatedComment
    | some token => if token.isPlain ')' then return else skipComment start fuel

/-- The groups named by `(?P<`, and the references to them by `(?P=`. -/
def namedOpening : Reader Opening := do
  if ← accept '<' then
    let name ← takeName '>' "group name"
    checkGroupName name
    return .capture (some name)
  else if ← accept '=' then
    let name ← takeName ')' "group name"
    checkGroupName name
    match (← get).names.lookup name with
    | none => faultBefore (name.length + 1) (.unknownGroupName name)
    | some group =>
      if (← closedWidth? group).isNone then faultBefore (name.length + 1) .groupStillOpen
      checkLookbehind group
      return .again group
  else
    match ← next with
    | none => faultBefore 0 .unexpectedEnd
    | some token => faultBefore (token.width + 2) (.unknownExtension ('P' :: token.text))

/-- A look behind, whose angle bracket has been taken. -/
def behindOpening : Reader Opening := do
  match ← next with
  | none => faultBefore 0 .unexpectedEnd
  | some token =>
    if token.isPlain '=' then return .behind false
    else if token.isPlain '!' then return .behind true
    else faultBefore (token.width + 2) (.unknownExtension ('<' :: token.text))

/-- No pattern has as many groups. -/
def groupBound : Nat := 1073741823

/-- The group that a condition asks about, by name or by number. -/
def conditionOpening : Reader Opening := do
  let name ← takeName ')' "group name"
  let before := name.length + 1
  let group ←
    if isGroupName name then
      match (← get).names.lookup name with
      | some group => pure group
      | none => faultBefore before (.unknownGroupName name)
    else
      match groupNumber? name with
      | none => faultBefore before (.badGroupName name)
      | some 0 => faultBefore before .groupZero
      | some group =>
        if groupBound ≤ group then faultBefore before (.invalidGroup group)
        let place := (← position) - before
        modify fun state =>
          { state with
            conditions :=
              if (state.conditions.lookup group).isSome then state.conditions
              else state.conditions ++ [(group, place)] }
        pure group
  checkLookbehind group
  return .ifCaptured group

/-- The flags that begin with a letter or a hyphen. -/
def flagsOpening (first : Option Flag) : Reader Opening := do
  let fuel := (← get).stream.ahead.length + 1
  let (on, ending) ←
    match first with
    | some flag => flagsOn fuel flag []
    | none => pure ([], '-')
  if ending = ')' then return .flags on
  let (on, off) ← scopedFlags fuel on ending
  return .plain on off

/-- Reads what an opening parenthesis at `start` begins. -/
def opening (start : Nat) : Reader Opening := do
  if !(← accept '?') then return .capture none
  match ← next with
  | none => faultBefore 0 .unexpectedEnd
  | some token =>
    match token with
    | .plain 'P' => namedOpening
    | .plain ':' => return .plain [] []
    | .plain '#' => do
      skipComment start ((← get).stream.ahead.length + 1)
      return .comment
    | .plain '=' => return .ahead false
    | .plain '!' => return .ahead true
    | .plain '<' => behindOpening
    | .plain '(' => conditionOpening
    | .plain '>' => return .atomic
    | .plain '-' => flagsOpening none
    | .plain c =>
      match Flag.ofChar? c with
      | some flag => flagsOpening (some flag)
      | none => faultBefore 2 (.unknownExtension [c])
    | .escape c => faultBefore 3 (.unknownExtension ['\\', c])

/-! ### Sequences and choices -/

/-- Where a sequence stands: the flags that hold, whether it is outside of all groups, and whether it
is the first alternative there. -/
structure Scope where
  flags : Flags
  top : Bool
  first : Bool
deriving Repr, DecidableEq

/-- A sequence inside a group. -/
def Scope.inner (flags : Flags) : Scope := ⟨flags, false, false⟩

/-- The closing parenthesis of the group that began at `start`. -/
def closing (start : Nat) : Reader Unit := do
  if !(← accept ')') then faultAt start .unterminatedGroup

/-- Blanks that do not count under the verbose flag. -/
def isPadding (c : Char) : Bool := CharKind.blank.holds true c

/-- Passes over the rest of a line under the verbose flag. -/
def skipLine : (fuel : Nat) → Reader Unit
  | 0 => return
  | fuel + 1 => do
    match ← next with
    | none => return
    | some token => if token.isPlain '\n' then return else skipLine fuel

/-- The pieces of a sequence, last one first, as one node. -/
def assemble (pieces : List Piece) : Node :=
  Node.sequence (pieces.reverse.map Piece.node)

/-- The anchors that have a sign of their own. -/
def anchorSign? (flags : Flags) : Char → Option Anchor
  | '^' => some (if flags.multiline then .lineStart else .textStart)
  | '$' => some (if flags.multiline then .lineEnd else .lastLineEnd)
  | _ => none

/-- Whether a sign repeats the piece before it. -/
def isRepetition (c : Char) : Bool := c == '*' || c == '+' || c == '?' || c == '{'

mutual

/-- Alternatives, up to a closing parenthesis or the end. -/
def choice : (fuel : Nat) → Scope → Reader Node
  | 0, _ => return .empty
  | fuel + 1, scope => do
    let first ← sequence fuel scope []
    if ← accept '|' then
      let given := (← get).given
      let flags := if scope.top then Flags.ofRules.set given [] else scope.flags
      let second ← choice fuel { scope with flags := flags, first := false }
      return .alt first second
    else return first

/-- A sequence of pieces, up to a bar, a closing parenthesis or the end; `pieces` are those read
already, last one first. -/
def sequence : (fuel : Nat) → Scope → List Piece → Reader Node
  | 0, _, pieces => return assemble pieces
  | fuel + 1, scope, pieces => do
    match ← peek with
    | none => return assemble pieces
    | some token =>
      if token.isPlain '|' || token.isPlain ')' then return assemble pieces
      let _ ← next
      match token with
      | .escape c => sequence fuel scope ((← escapePiece scope.flags c) :: pieces)
      | .plain c =>
        if scope.flags.verbose && isPadding c then sequence fuel scope pieces
        else if scope.flags.verbose && c == '#' then
          skipLine ((← get).stream.ahead.length + 1)
          sequence fuel scope pieces
        else if c = '[' then sequence fuel scope ((← setPiece scope.flags) :: pieces)
        else if isRepetition c then sequence fuel scope (← repeatPiece scope.flags c pieces)
        else if c = '.' then
          sequence fuel scope (.other (.char (.any scope.flags.dotAll)) :: pieces)
        else if c = '(' then group fuel scope pieces
        else
          match anchorSign? scope.flags c with
          | some place => sequence fuel scope (.anchor place :: pieces)
          | none => sequence fuel scope (literalPiece scope.flags c.toNat :: pieces)

/-- A group whose opening parenthesis has been taken, and the rest of the sequence. -/
def group : (fuel : Nat) → Scope → List Piece → Reader Node
  | 0, _, pieces => return assemble pieces
  | fuel + 1, scope, pieces => do
    let start := (← position) - 1
    match ← opening start with
    | .comment => sequence fuel scope pieces
    | .flags on =>
      modify fun state => { state with given := state.given ++ on }
      if !scope.first || !pieces.isEmpty then faultAt start .globalFlagsNotFirst
      let given := (← get).given
      sequence fuel { scope with flags := Flags.ofRules.set given [] } pieces
    | .again index =>
      sequence fuel scope ((← groupAgain scope.flags index 0) :: pieces)
    | .capture name =>
      let index ← openGroup name
      let body ← choice fuel (.inner scope.flags)
      closing start
      closeGroup index body
      sequence fuel scope (.other (.capture index body) :: pieces)
    | .plain on off =>
      let body ← choice fuel (.inner (scope.flags.set on off))
      closing start
      sequence fuel scope (.other body :: pieces)
    | .atomic =>
      let body ← choice fuel (.inner scope.flags)
      closing start
      sequence fuel scope (.other (.atomic body) :: pieces)
    | .ahead negated =>
      let body ← choice fuel (.inner scope.flags)
      closing start
      sequence fuel scope (.other (.ahead negated body) :: pieces)
    | .behind negated =>
      let floor := (← get).lookbehindFloor
      if floor.isNone then
        let limit ← groupLimit
        modify fun state => { state with lookbehindFloor := some limit }
      let body ← choice fuel (.inner scope.flags)
      modify fun state => { state with lookbehindFloor := floor }
      closing start
      sequence fuel scope (.other (.behind negated body.width body) :: pieces)
    | .ifCaptured index =>
      let yes ← sequence fuel (.inner scope.flags) []
      let no ← if ← accept '|' then sequence fuel (.inner scope.flags) [] else pure .empty
      if (← peek) == some (.plain '|') then faultBefore 0 .tooManyBranches
      closing start
      sequence fuel scope (.other (.ifCaptured index yes no) :: pieces)

end

end Reader

/-! ### Checks on the whole tree -/

/-- The spelling of a loop's greed in the message that refuses loops. -/
def Greed.operator : Greed → Text
  | .greedy => "MAX_REPEAT".toList
  | .reluctant => "MIN_REPEAT".toList
  | .possessive => "POSSESSIVE_REPEAT".toList

/-- No look behind may step back further than this. -/
def lookbehindBound : Nat := 4294967295

/-- The first look behind whose width is not fixed, or, where loops are not allowed, the first
loop. -/
def Node.cause? (loopFree : Bool) : Node → Option FaultCause
  | .empty | .char _ | .anchor _ | .again _ _ _ => none
  | .seq first second => first.cause? loopFree <|> second.cause? loopFree
  | .alt first second => first.cause? loopFree <|> second.cause? loopFree
  | .capture _ body => body.cause? loopFree
  | .loop greed _ _ body =>
    if loopFree then some (.loopNotAllowed greed.operator) else body.cause? loopFree
  | .atomic body => body.cause? loopFree
  | .ahead _ body => body.cause? loopFree
  | .behind _ width body =>
    if lookbehindBound < width.least then some .lookbehindTooFar
    else if width.least ≠ width.most then some .variableLookbehind
    else body.cause? loopFree
  | .ifCaptured _ yes no => yes.cause? loopFree <|> no.cause? loopFree

namespace Pattern

/-- Checks what can only be told at the end: that the flags agree, that no parenthesis is left over,
that the groups of all conditions exist, and that every look behind has a fixed width. -/
def finish (root : Node) (state : ReaderState) : Except Refusal Pattern :=
  let groupCount := state.widths.length
  if state.given.contains .ascii && state.given.contains .unicode then .error .incompatibleFlags
  else if !state.stream.ahead.isEmpty then
    .error (state.stream.faultBefore 0 .unbalancedParenthesis)
  else
    match state.conditions.find? fun condition => groupCount < condition.1 with
    | some (group, position) => .error (.fault ⟨.invalidGroup group, some position⟩)
    | none =>
      match root.cause? (state.given.contains .loopFree) with
      | some cause => .error (.fault ⟨cause, none⟩)
      | none => .ok ⟨root, groupCount, state.names⟩

/-- Reads a pattern. -/
def ofText (text : Text) : Except Refusal Pattern := do
  let stream ← TokenStream.ofText text
  let bound := 3 * stream.ahead.length + 3
  let (root, state) ←
    (Reader.choice bound ⟨Flags.ofRules, true, true⟩).run ⟨stream, [], [], [], none, []⟩
  finish root state

end Pattern

end Stencil
