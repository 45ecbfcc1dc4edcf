/-
Identifiers in source text. An identifier character is a word character or the dollar sign, and an
identifier occurs as a whole when no identifier character touches it on either side, so that `T`
occurs neither in `Then` nor in `T$Inner`.
-/
import Stencil.Text.Basic
import Stencil.Text.Alphanumeric
import Stencil.Text.Digit

namespace Stencil

/-- Word characters and the dollar sign. -/
def isIdentifierChar (c : Char) : Bool :=
  c == '$' || isWordChar c

/-- The word characters that may begin a name: all but the digits. -/
def isNameStart (c : Char) : Bool :=
  isWordChar c && !isDecimalDigit c

/-- No identifier character comes first. -/
def endsWord : Text → Bool
  | [] => true
  | c :: _ => !isIdentifierChar c

/-- What follows a name that stands at the front of `ahead` as a whole identifier; `behind` is what
precedes it, nearest first. -/
def afterWholeName? (name behind ahead : Text) : Option Text :=
  match Text.after? name ahead with
  | some rest => if endsWord behind && endsWord rest then some rest else none
  | none => none

/-- A simple name: a start followed by identifier characters. -/
def isSimpleName : Text → Bool
  | [] => false
  | c :: rest => isNameStart c && rest.all isIdentifierChar

/-- A dotted name: simple names with single dots between them. -/
def isDottedName (text : Text) : Bool :=
  (Text.splitAtAll (· == '.') text).all isSimpleName

/-- The longest runs of identifier characters, in order, each with what follows it. -/
def identifierRuns : Text → List (Text × Text)
  | [] => []
  | c :: rest =>
    if isIdentifierChar c then
      match endsWord rest, identifierRuns rest with
      | false, (run, after) :: runs => (c :: run, after) :: runs
      | _, runs => ([c], rest) :: runs
    else identifierRuns rest

/-- The words of a text: its longest runs of identifier characters. -/
def words (text : Text) : List Text := (identifierRuns text).map Prod.fst

end Stencil
