/-
Lines of rules. A line is a comment, blank, the opening of a declaration, the start of an attribute or
of a substitution, or the continuation of one of these; any other line is refused.
-/
import Stencil.Identifier
import Stencil.Pattern.Token

namespace Stencil

/-- What a declaration is about: an id behind a hash sign, or a qualified name. -/
inductive Subject where
  | id (id : Text)
  | name (name : Text)
deriving Repr, DecidableEq

/-- The kinds of lines. -/
inductive Line where
  | comment
  | blank
  | opening (className : Text) (subject : Subject)
  | attribute (name value : Text)
  | substitution (text : Text)
  | continuation (text : Text)
  | other
deriving Repr, DecidableEq

namespace Line

/-- A line that begins with a hash sign. -/
def isComment : Text → Bool
  | '#' :: _ => true
  | _ => false

/-- The characters of ids. -/
def isIdChar (c : Char) : Bool :=
  isAsciiLetter c || isAsciiDigit c || c == '_' || c == '.' || c == '-'

/-- The subject of a declaration. -/
def subject? : Text → Option Subject
  | '#' :: id => if !id.isEmpty && id.all isIdChar then some (.id id) else none
  | name => if isDottedName name then some (.name name) else none

/-- The opening of a declaration: a word, a colon, blanks and a subject. -/
def opening? (line : Text) : Option (Text × Subject) :=
  let className := line.takeWhile isAsciiLetter
  if className.isEmpty then none
  else
    match line.dropWhile isAsciiLetter with
    | ':' :: c :: rest =>
      if isBlank c then
        (subject? (Text.trim rest)).map fun subject => (className, subject)
      else none
    | _ => none

/-- The characters of attribute names. -/
def isAttributeChar (c : Char) : Bool := ('a' ≤ c && c ≤ 'z') || c == '_'

/-- The start of an attribute: a hyphen, a space, a name, a colon and the value. -/
def attribute? : Text → Option (Text × Text)
  | '-' :: ' ' :: rest =>
    let name := rest.takeWhile isAttributeChar
    if name.isEmpty then none
    else
      match rest.dropWhile isAttributeChar with
      | ':' :: value => some (name, value)
      | _ => none
  | _ => none

/-- The start of a substitution: a bullet and a space. -/
def isSubstitution : Text → Bool
  | '*' :: ' ' :: _ => true
  | '?' :: ' ' :: _ => true
  | _ => false

/-- A line that begins with a blank and is not blank. -/
def isContinuation : Text → Bool
  | [] => false
  | c :: rest => isBlank c && !Text.isAllBlank rest

/-- The kind of a line. -/
def ofText (line : Text) : Line :=
  if isComment line then .comment
  else if line.isAllBlank then .blank
  else
    match opening? line with
    | some (className, subject) => .opening className subject
    | none =>
      match attribute? line with
      | some (name, value) => .attribute name value
      | none =>
        if isSubstitution line then .substitution line
        else if isContinuation line then .continuation line
        else .other

end Line

end Stencil
