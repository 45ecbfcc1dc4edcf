/-
Units and specs. A unit is a source text with what has to be known to expand it; a spec asks for one
concrete unit made from it, either an instantiation at concrete types or a derivation, which keeps
the type parameters and changes only the name.
-/
import Stencil.Directive
import Stencil.Name
import Stencil.Rule
import Stencil.TypeParameter

namespace Stencil

/-- A generic source unit: its qualified name and text, its type parameters, the directives and
imports that its expansions must not have, and the sigil of directives. -/
structure SourceUnit where
  name : Text
  text : Text
  parameters : List Text
  markers : List Marker
  imports : List Text
  sigil : Text
deriving Repr, DecidableEq

namespace SourceUnit

/-- The sigil unless another one is given. -/
def defaultSigil : Text := ['@']

/-- The directives to be removed unless others are given. -/
def defaultMarkers : List Marker := [⟨"Template".toList, true⟩]

/-- The simple name of the unit. -/
def simple (unit : SourceUnit) : Text := simpleName unit.name

/-- The package of the unit. -/
def package (unit : SourceUnit) : Text := packageName unit.name

/-- A simple name in the package of the unit. -/
def qualify (unit : SourceUnit) (name : Text) : Text := qualifyName unit.package name

/-- A unit whose type parameters are those given, or else those that its text declares. -/
def ofText (name text : Text) (parameters : Option (List Text)) (markers : Option (List Marker))
    (imports : List Text) (sigil : Text) : Except Failure SourceUnit :=
  let unit (parameters : List Text) : SourceUnit :=
    ⟨name, text, parameters, markers.getD defaultMarkers, imports, sigil⟩
  match parameters with
  | some parameters => .ok (unit parameters)
  | none =>
    match parameterNames text (simpleName name) with
    | .ok parameters => .ok (unit parameters)
    | .error failure => .error failure

end SourceUnit

/-- A request for one concrete unit: its simple name, the types for the parameters, the rules to
apply, and whether it is a derivation. -/
structure Spec where
  target : Text
  types : List Text
  rules : List Rule
  derivation : Bool
deriving Repr, DecidableEq

end Stencil
