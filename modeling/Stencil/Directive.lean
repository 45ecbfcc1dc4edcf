/-
Directives. A directive is a sigil, a name and arguments in parentheses; it steers the expansion and
has no place in the result. Removing one tidies the blanks around it: two or more before it become one
empty line, and those after it go.
-/
import Stencil.Bracket
import Stencil.Failure

namespace Stencil

/-- A directive to be removed. If presence is enforced, a text without it is refused. -/
structure Marker where
  name : Text
  enforced : Bool
deriving Repr, DecidableEq

/-- An occurrence of a directive: the text before it and the text from its opening parenthesis on. -/
structure DirectivePlace where
  lead : Text
  arguments : Text
deriving Repr, DecidableEq

namespace Directive

/-- The directive at the front of `ahead`, if there is one. -/
def at? (sigil name behind ahead : Text) : Option DirectivePlace := do
  let rest ← Text.after? sigil ahead
  (Text.afterRuns isBlank rest).findSome? fun rest => do
    let rest ← Text.after? name rest
    match rest.dropBlanks with
    | '(' :: arguments => some ⟨behind.reverse, '(' :: arguments⟩
    | _ => none

/-- The first directive of a text. -/
def find? (sigil name text : Text) : Option DirectivePlace :=
  Text.firstPlace (at? sigil name) [] text

/-- The text before a removed directive: trailing blanks, if there are several, become an empty
line. -/
def tidyLead (lead : Text) : Text :=
  if lead.length < lead.trimRight.length + 2 then lead else lead.trimRight ++ ['\n', '\n']

/-- Removes an occurrence with its arguments. -/
def remove (text : Text) (place : DirectivePlace) : Except Failure Text :=
  match afterBalanced .round (text.length - place.arguments.length) place.arguments with
  | .ok rest => .ok (tidyLead place.lead ++ rest.dropBlanks)
  | .error fault => .error (.unbalanced fault)

/-- Removes the first occurrence, which must exist. -/
def strip (sigil name text : Text) : Except Failure Text :=
  match find? sigil name text with
  | some place => remove text place
  | none => .error (.directiveNotFound sigil name)

/-- Removes occurrences until there are none. Every removal shortens the text, so that its length
bounds their number. -/
def stripRest (sigil name : Text) : (fuel : Nat) → Text → Except Failure Text
  | 0, text => .ok text
  | fuel + 1, text =>
    match find? sigil name text with
    | none => .ok text
    | some place =>
      match remove text place with
      | .ok text => stripRest sigil name fuel text
      | .error failure => .error failure

/-- Removes all occurrences of a directive. -/
def stripAll (sigil : Text) (marker : Marker) (text : Text) : Except Failure Text :=
  if marker.enforced && (find? sigil marker.name text).isNone then
    .error (.directiveNotFound sigil marker.name)
  else stripRest sigil marker.name text.length text

end Directive

end Stencil
