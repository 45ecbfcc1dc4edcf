/-
Import lines. Erasing the import of a name takes out its lines together with the blank lines around
them, and puts back as many empty lines as there were on the side that had more; at the very start of
a text nothing is put back. A dotted name may have blanks around its dots, line ends included.
-/
import Stencil.Name
import Stencil.Text.Lines

namespace Stencil

namespace Import

/-- The first way to pass over the segments of a name, with their dots and the blanks around these,
after which the continuation succeeds. -/
def afterSegments (next : Text → Option Text) : (segments : List Text) → Text → Option Text
  | [], text => next text
  | [segment], text => (Text.after? segment text).bind next
  | segment :: segments, text =>
    match Text.after? segment text with
    | none => none
    | some rest =>
      (Text.afterRuns isBlank rest).findSome? fun rest =>
        match rest with
        | '.' :: rest =>
          (Text.afterRuns isBlank rest).findSome? fun rest => afterSegments next segments rest
        | _ => none

/-- What follows the end of a line. -/
def afterLineEnd? : Text → Option Text
  | [] => some []
  | '\n' :: rest => some rest
  | _ => none

/-- What follows an optional semicolon, the one with it first. -/
def afterSemicolon : Text → List Text
  | ';' :: rest => [rest, ';' :: rest]
  | text => [text]

/-- What may follow the name in an import line. -/
def afterName? (text : Text) : Option Text :=
  (Text.afterRuns isInlineBlank text).findSome? fun rest =>
    (afterSemicolon rest).findSome? fun rest =>
      (Text.afterRuns isInlineBlank rest).findSome? afterLineEnd?

/-- What follows the import line of a name at the front of a text. -/
def afterStatement? (segments : List Text) (text : Text) : Option Text :=
  (Text.afterRuns isInlineBlank text).findSome? fun rest =>
    (Text.after? "import".toList rest).bind fun rest =>
      (Text.afterSomeRuns isInlineBlank rest).findSome? fun rest =>
        afterSegments afterName? segments rest

/-- The blank lines at the front of a text, their ends included. -/
def blankLines (text : Text) : Text :=
  ((text.takeWhile isBlank).reverse.dropWhile (· != '\n')).reverse

/-- A line with its end, and what follows it. -/
def splitLine (text : Text) : Text × Text :=
  match text.dropWhile (· != '\n') with
  | [] => (text, [])
  | lineEnd :: rest => (text.takeWhile (· != '\n') ++ [lineEnd], rest)

/-- Erases import lines from the start of a line on. `first` tells that it is the first of the text;
`fuel` is more than the number of lines. -/
def eraseFrom (segments : List Text) : (fuel : Nat) → (first : Bool) → Text → Text
  | 0, _, text => text
  | fuel + 1, first, text =>
    let before := blankLines text
    let line := text.drop before.length
    match afterStatement? segments line with
    | some rest =>
      let after := blankLines rest
      let filler :=
        if first then [] else List.replicate (max before.lineFeeds after.lineFeeds) '\n'
      filler ++ eraseFrom segments fuel false (rest.drop after.length)
    | none =>
      match splitLine line with
      | (line, []) => before ++ line
      | (line, rest) => before ++ line ++ eraseFrom segments fuel false rest

/-- Erases the import lines of a name. -/
def erase (name text : Text) : Text :=
  eraseFrom (nameSegments name) (text.length + 1) true text

end Import

end Stencil
