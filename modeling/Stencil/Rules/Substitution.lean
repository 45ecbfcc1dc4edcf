/-
Substitutions. A substitution is a bullet, a pattern, an arrow and a substitute. Arrows are made of
hyphens or tildes, two or more, and the longest one in the text is the arrow of the substitution, so
that shorter ones can be part of pattern and substitute. Both may stand between quotation marks;
without them the blanks around them do not count.
-/
import Stencil.Text.Basic

namespace Stencil

/-- How a text is written. -/
inductive Written where
  | doubleQuoted (text : Text)
  | singleQuoted (text : Text)
  | bare (text : Text)
deriving Repr, DecidableEq

/-- The text itself. -/
def Written.text : Written → Text
  | .doubleQuoted text | .singleQuoted text | .bare text => text

/-- The parts of a substitution. -/
structure Substitution where
  bullet : Char
  pattern : Written
  arrow : Text
  substitute : Written
deriving Repr, DecidableEq

namespace Substitution

/-- The arrows of a text, in order; `count` signs `sign` have just been passed. -/
def arrowsFrom : (sign : Char) → (count : Nat) → Text → List Text
  | _, _, [] => []
  | sign, count, c :: rest =>
    if c = '>' && 2 ≤ count then
      (List.replicate count sign ++ ['>']) :: arrowsFrom ' ' 0 rest
    else if c = '-' || c = '~' then
      if c = sign then arrowsFrom sign (count + 1) rest else arrowsFrom c 1 rest
    else arrowsFrom ' ' 0 rest

/-- The first of the longest texts. -/
def longest? : List Text → Option Text
  | [] => none
  | text :: texts =>
    match longest? texts with
    | some other => if text.length < other.length then some other else some text
    | none => some text

/-- What follows an arrow, perhaps behind blanks. -/
def afterArrow? (arrow text : Text) : Option Text := Text.after? arrow text.dropBlanks

/-- A text up to the first closing quotation mark that an arrow follows, and what follows the
arrow. -/
def quotedBefore? (mark : Char) (arrow : Text) : Text → Option (Text × Text)
  | [] => none
  | c :: rest =>
    match if c = mark then afterArrow? arrow rest else none with
    | some after => some ([], after)
    | none => (quotedBefore? mark arrow rest).map fun (text, after) => (c :: text, after)

/-- A text up to the first arrow, without the blanks before that, and what follows the arrow. -/
def bareBefore? (arrow : Text) : Text → Option (Text × Text)
  | [] => (afterArrow? arrow []).map fun after => ([], after)
  | c :: rest =>
    match afterArrow? arrow (c :: rest) with
    | some after => some ([], after)
    | none => (bareBefore? arrow rest).map fun (text, after) => (c :: text, after)

/-- The pattern before the arrow, and what follows the arrow. -/
def pattern? (arrow text : Text) : Option (Written × Text) :=
  let quoted (mark : Char) (written : Text → Written) : Option (Written × Text) :=
    match text with
    | c :: rest =>
      if c = mark then
        (quotedBefore? mark arrow rest).map fun (text, after) => (written text, after)
      else none
    | [] => none
  (quoted '"' .doubleQuoted).or <| (quoted '\'' .singleQuoted).or <|
    (bareBefore? arrow text).map fun (text, after) => (.bare text, after)

/-- What stands between a quotation mark at the front and the same mark at the end. -/
def between? (mark : Char) : Text → Option Text
  | c :: rest => if c = mark && rest.getLast? == some mark then some rest.dropLast else none
  | [] => none

/-- The substitute behind the arrow. -/
def substituteOf (text : Text) : Written :=
  let text := text.trim
  match between? '"' text with
  | some text => .doubleQuoted text
  | none =>
    match between? '\'' text with
    | some text => .singleQuoted text
    | none => .bare text

/-- Reads a substitution; nothing if it has no arrow or no bullet. -/
def ofText? (text : Text) : Option Substitution :=
  match longest? (arrowsFrom ' ' 0 text), text with
  | some arrow, bullet :: ' ' :: rest =>
    if bullet = '*' || bullet = '?' then
      (pattern? arrow (Text.dropBlanks rest)).map fun (pattern, after) =>
        ⟨bullet, pattern, arrow, substituteOf after⟩
    else none
  | _, _ => none

end Substitution

end Stencil
