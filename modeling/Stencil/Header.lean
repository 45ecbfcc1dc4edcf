/-
Declaration headers. A declaration is a keyword, blanks and the declared name as a whole identifier;
it is generic if an angle bracket follows the name. The header of a generic declaration reaches from
its name to the bracket that opens its body or its components, type parameters included. Mentions of
the name without a keyword before it are no declarations.
-/
import Stencil.Bracket
import Stencil.Failure
import Stencil.Identifier
import Stencil.Placeholder

namespace Stencil

/-- The words that a declaration begins with. -/
def declarationKeywords : List Text :=
  ["class".toList, "interface".toList, "enum".toList, "record".toList]

/-- Where a name is declared: the text before the name and the text behind it. -/
structure DeclaredName where
  lead : Text
  tail : Text
deriving Repr, DecidableEq

/-- The header of a generic declaration: the text before it, the bracket that ends it (nothing if
there is none) and the text behind it. -/
structure Header where
  lead : Text
  opening : Text
  tail : Text
deriving Repr, DecidableEq

namespace Header

/-- The declaration of a name whose keyword is at the front of `ahead` and whose tail passes a test.
The blanks between keyword and name are as many as possible. -/
def declaredAt? (passes : Text → Bool) (name behind ahead : Text) : Option DeclaredName :=
  if endsWord behind then
    declarationKeywords.findSome? fun keyword =>
      (Text.after? keyword ahead).bind fun rest =>
        (Text.afterSomeRuns isBlank rest).findSome? fun start =>
          match Text.after? name start with
          | some tail =>
            if endsWord tail && passes tail then
              some ⟨behind.reverse ++ ahead.take (ahead.length - start.length), tail⟩
            else none
          | none => none
  else none

/-- Type parameters follow, perhaps after blanks. -/
def isGenericTail (tail : Text) : Bool := tail.dropBlanks.head? == some '<'

/-- The first declaration of a name. -/
def findDeclared? (name text : Text) : Option DeclaredName :=
  Text.firstPlace (declaredAt? (fun _ => true) name) [] text

/-- The first generic declaration of a name. -/
def findGeneric? (name text : Text) : Option DeclaredName :=
  Text.firstPlace (declaredAt? isGenericTail name) [] text

/-- The bracket that opens a body or components, if it comes first, and what follows. -/
def splitOpening : Text → Text × Text
  | '(' :: rest => (['('], rest)
  | '{' :: rest => (['{'], rest)
  | text => ([], text)

/-- The header of the first generic declaration of a name. -/
def find (name text : Text) : Except Failure Header :=
  match findGeneric? name text with
  | none =>
    .error (.declarationNotFound ("generic declaration `" ++ name.str ++ "<...>` not found"))
  | some declared =>
    let parameters := declared.tail.dropBlanks
    match afterBalanced .angle (text.length - parameters.length) parameters with
    | .error fault => .error (.unbalanced fault)
    | .ok rest =>
      let (opening, tail) := splitOpening rest.dropBlanks
      .ok ⟨declared.lead, opening, tail⟩

/-- The header of a target, with the bracket that ended the header it replaces. -/
def target (name opening : Text) : Text :=
  if opening = ['('] then name ++ ['(']
  else if opening = ['{'] then name ++ [' ', '{']
  else name ++ [' ']

/-- Replaces the header of a generic declaration by a hidden target header. -/
def replaceGeneric (placeholder : Placeholder) (source name text : Text) : Except Failure Text :=
  match find source text with
  | .ok header =>
    .ok (header.lead ++ placeholder.protect (target name header.opening) ++ header.tail)
  | .error failure => .error failure

/-- Replaces the declared name by a hidden target name and keeps what follows it. -/
def replaceDerived (placeholder : Placeholder) (source name text : Text) : Except Failure Text :=
  match findDeclared? source text with
  | some declared => .ok (declared.lead ++ placeholder.protect name ++ declared.tail)
  | none => .error (.declarationNotFound ("declaration of `" ++ source.str ++ "` not found"))

end Header

end Stencil
