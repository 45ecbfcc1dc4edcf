/-
Type parameters, as a source text declares them. The list between the angle brackets of a header is
cut at the commas outside of inner brackets, and each part names a parameter behind its annotations
and before its bound.
-/
import Stencil.Header

namespace Stencil

/-! ### Cutting lists -/

/-- The first part of a text and the further ones, cut at separators that stand at depth zero. -/
def splitFrom (separator : Text) : (depth : Int) → Text → Text × List Text
  | _, [] => ([], [])
  | depth, c :: rest =>
    if c = '<' || c = '(' then
      let (part, parts) := splitFrom separator (depth + 1) rest
      (c :: part, parts)
    else if c = '>' || c = ')' then
      let (part, parts) := splitFrom separator (depth - 1) rest
      (c :: part, parts)
    else if separator = [c] && depth = 0 then
      let (part, parts) := splitFrom separator depth rest
      ([], part :: parts)
    else
      let (part, parts) := splitFrom separator depth rest
      (c :: part, parts)

/-- Cuts a text at the separators that are not inside angle brackets or parentheses. -/
def splitTopLevel (separator text : Text) : List Text :=
  let (part, parts) := splitFrom separator 0 text
  part :: parts

/-! ### Names of parameters -/

/-- The characters of an annotation's name. -/
def isAnnotationChar (c : Char) : Bool := c == '.' || isIdentifierChar c

/-- The characters that a parameter's name may begin with. -/
def isParameterStart (c : Char) : Bool := c == '$' || isNameStart c

/-- The parameter name at the front of a text. -/
def leadingName? : Text → Option Text
  | [] => none
  | c :: rest => if isParameterStart c then some (c :: rest.takeWhile isIdentifierChar) else none

/-- The last name inside an annotation's own name, not at its start: what is found where nothing after
the annotation is a name. -/
def innerName? : Text → Option Text
  | [] => none
  | _ :: rest =>
    match innerName? rest with
    | some name => some name
    | none => leadingName? rest

/-- What follows arguments in parentheses, which end at the first closing one. -/
def afterArguments? : Text → Option Text
  | '(' :: rest =>
    match rest.dropWhile (· != ')') with
    | [] => none
    | _ :: rest => some rest
  | _ => none

/-- The parameter name behind blanks and annotations. The arguments of an annotation are passed over
first; if no name is found then, they count as what follows it. `fuel` is more than the length of the
text. -/
def nameBehindAnnotations? : (fuel : Nat) → Text → Option Text
  | 0, _ => none
  | fuel + 1, text =>
    match text.dropBlanks with
    | '@' :: rest =>
      let named := Text.dropBlanks rest
      let annotation := named.takeWhile isAnnotationChar
      if annotation.isEmpty then none
      else
        let rest := Text.dropBlanks (named.dropWhile isAnnotationChar)
        ((afterArguments? rest).bind (nameBehindAnnotations? fuel)).or
          ((nameBehindAnnotations? fuel rest).or (innerName? annotation))
    | text => leadingName? text

/-- The name of a declared type parameter; the whole declaration if it has none. -/
def parameterName (declaration : Text) : Text :=
  (nameBehindAnnotations? (declaration.length + 1) declaration).getD declaration.trim

/-- The names of the type parameters that a text declares for a name, in order. -/
def parameterNames (text name : Text) : Except Failure (List Text) :=
  match Header.findGeneric? name text with
  | none => .ok []
  | some declared =>
    let parameters := declared.tail.dropBlanks
    match afterBalanced .angle (text.length - parameters.length) parameters with
    | .error fault => .error (.unbalanced fault)
    | .ok rest =>
      let inner := (parameters.take (parameters.length - rest.length - 1)).drop 1
      let declarations :=
        (splitTopLevel [','] inner).filter fun declaration => !declaration.isAllBlank
      .ok (declarations.map parameterName)

end Stencil
