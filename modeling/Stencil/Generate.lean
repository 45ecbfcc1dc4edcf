/-
Generating the text of one concrete unit. The steps, in order: directives are removed and imports
erased; the header is replaced by a hidden target header; the rules of the spec are applied; type
parameters become their types and the source name becomes the target name, as whole identifiers; the
header is unhidden; a comment that names the source goes in front.
-/
import Stencil.Header
import Stencil.Import
import Stencil.Log
import Stencil.Unit

namespace Stencil

variable [CharacterNames]

namespace Generate

/-- The texts among which a marker for placeholders must not occur. -/
def markerSeed (unit : SourceUnit) (spec : Spec) : Text :=
  unit.text ++ spec.types.flatten ++ (spec.rules.map Rule.substitute).flatten

/-- Says what a step made of a text. -/
def transformed (label : String) (before after : Text) : Run Text := do
  Run.say (.transformation label before after)
  return after

/-- A step that can fail, and its before and after. -/
def step (label : String) (transform : Text → Except Abort Text) (text : Text) : Run Text := do
  let after ← Run.quiet (transform text)
  transformed label text after

/-- The same failure as the end of a call. -/
def ending {Result : Type} : Except Failure Result → Except Abort Result
  | .ok result => .ok result
  | .error failure => .error (.failure failure)

/-- Removes the unit's directives. -/
def withoutDirectives (unit : SourceUnit) : List Marker → Text → Run Text
  | [], text => return text
  | marker :: markers, text => do
    let label := "directive `" ++ marker.name.str ++ "`"
    let text ← step label (fun text => ending (Directive.stripAll unit.sigil marker text)) text
    withoutDirectives unit markers text

/-- Erases imports. -/
def withoutImports : List Text → Text → Run Text
  | [], text => return text
  | name :: names, text => do
    let text ← step ("import `" ++ name.str ++ "`") (fun text => .ok (Import.erase name text)) text
    withoutImports names text

/-- Hides the target header in place of the source header. -/
def withHeader (unit : SourceUnit) (spec : Spec) (placeholder : Placeholder) (text : Text) :
    Run Text :=
  let replace := if spec.derivation then Header.replaceDerived else Header.replaceGeneric
  step ("header `" ++ unit.simple.str ++ "`")
    (fun text => ending (replace placeholder unit.simple spec.target text)) text

/-- The label of a rule's own before and after. -/
def ruleLabel (rule : Rule) : String :=
  "`" ++ rule.pattern.str ++ "` --> `" ++ rule.substitute.str ++ "`"

/-- Applies a rule. -/
def withRule (owner : Text) (label : String) (rule : Rule) (text : Text) : Run Text :=
  step label (rule.apply owner) text

/-- Applies rules in order. -/
def withRules (owner : Text) : List Rule → Text → Run Text
  | [], text => return text
  | rule :: rules, text => do
    let text ← withRule owner (ruleLabel rule) rule text
    withRules owner rules text

/-- Substitutes types for type parameters, one after the other. -/
def withTypes (owner : Text) : List (Text × Text) → Text → Run Text
  | [], text => return text
  | (parameter, type) :: bindings, text => do
    let label := "type parameter `" ++ parameter.str ++ "` --> `" ++ type.str ++ "`"
    let text ← withRule owner label (.wholeIdentifier parameter type) text
    withTypes owner bindings text

/-- Renames the source. -/
def withName (unit : SourceUnit) (spec : Spec) (text : Text) : Run Text :=
  withRule unit.name ("rename `" ++ unit.simple.str ++ "` --> `" ++ spec.target.str ++ "`")
    (.wholeIdentifier unit.simple spec.target) text

/-- The comment that names the source. -/
def provenance (unit : SourceUnit) : Text :=
  "// generated from ".toList ++ unit.name ++ ['\n']

/-- The types that a spec binds to the unit's parameters. -/
def bindings (unit : SourceUnit) (spec : Spec) : List (Text × Text) :=
  if spec.derivation then [] else unit.parameters.zip spec.types

end Generate

open Generate in
/-- The text of the concrete unit that a spec asks for. -/
def generate (unit : SourceUnit) (spec : Spec) : Run Text := do
  let placeholder ← Run.quiet (Placeholder.choose (markerSeed unit spec))
  let text ← withoutDirectives unit unit.markers unit.text
  let text ← withoutImports unit.imports text
  let text ← withHeader unit spec placeholder text
  let text ← withRules unit.name spec.rules text
  let text ← withTypes unit.name (bindings unit spec) text
  let text ← withName unit spec text
  let text ← placeholder.unprotect text
  return provenance unit ++ text

end Stencil
