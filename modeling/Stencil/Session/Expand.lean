/-
Expanding in a session. The steps are those of generating, expanding and reading rules, in the same
order, and each is printed when it has been taken.
-/
import Stencil.Rules.Expand
import Stencil.Session

namespace Stencil

namespace Session

variable [CharacterNames] {World : Type}

/-! ### Generating -/

/-- A step that can fail, and its before and after. -/
def step (label : String) (transform : Text → Except Abort Text) (text : Text) :
    Session World Text := do
  let after ← settle (transform text)
  say (.transformation label text after)
  return after

/-- One step for each item. -/
def steps {Item : Type} (label : Item → String) (transform : Item → Text → Except Abort Text) :
    List Item → Text → Session World Text
  | [], text => return text
  | item :: items, text => do
    let text ← step (label item) (transform item) text
    steps label transform items text

/-- Unhides a text, with a warning for every placeholder that spells none. -/
def unprotect (placeholder : Placeholder) (text : Text) : Session World Text := do
  let run := placeholder.unprotect text
  sayAll run.log
  settle run.outcome

open Generate in
/-- The text of the concrete unit that a spec asks for. -/
def generate (unit : SourceUnit) (spec : Spec) : Session World Text := do
  let placeholder ← settle (Placeholder.choose (markerSeed unit spec))
  let text ← steps (fun marker => "directive `" ++ marker.name.str ++ "`")
    (fun marker text => ending (Directive.stripAll unit.sigil marker text)) unit.markers unit.text
  let text ← steps (fun name => "import `" ++ name.str ++ "`")
    (fun name text => .ok (Import.erase name text)) unit.imports text
  let replace := if spec.derivation then Header.replaceDerived else Header.replaceGeneric
  let text ← step ("header `" ++ unit.simple.str ++ "`")
    (fun text => ending (replace placeholder unit.simple spec.target text)) text
  let text ← steps ruleLabel (fun rule text => rule.apply unit.name text) spec.rules text
  let text ← steps
    (fun binding => "type parameter `" ++ binding.1.str ++ "` --> `" ++ binding.2.str ++ "`")
    (fun binding text => (Rule.wholeIdentifier binding.1 binding.2).apply unit.name text)
    (bindings unit spec) text
  let text ← step ("rename `" ++ unit.simple.str ++ "` --> `" ++ spec.target.str ++ "`")
    (fun text => (Rule.wholeIdentifier unit.simple spec.target).apply unit.name text) text
  let text ← unprotect placeholder text
  return provenance unit ++ text

/-! ### Expanding units -/

/-- Validates, generates and emits one spec. -/
def attempt (workspace : Workspace World) (unit : SourceUnit) (used : List Text) (spec : Spec) :
    Session World Unit := do
  settle (Generate.ending (Expand.validate unit used spec))
  let text ← generate unit spec
  emit workspace (unit.qualify spec.target) text

/-- Takes specs in order; `used` are the target names asked for before. -/
def records (workspace : Workspace World) (unit : SourceUnit) :
    (used : List Text) → List Spec → Session World (List Record)
  | _, [] => return []
  | used, spec :: specs => do
    let target := unit.qualify spec.target
    match ← caught (attempt workspace unit used spec) with
    | .ok () =>
      say (Expand.emissionEvent unit.name target)
      let rest ← records workspace unit (used ++ [spec.target]) specs
      return .emitted target :: rest
    | .error failure =>
      say (Expand.failureEvent unit.name target failure)
      let rest ← records workspace unit (used ++ [spec.target]) specs
      return .failed target failure :: rest

/-- Expands a unit into one concrete unit per spec. A batch without specs is refused. -/
def unit (workspace : Workspace World) (source : SourceUnit) (specs : List Spec) :
    Session World Report :=
  if specs.isEmpty then settle (.error (.noSpecs source.name))
  else do
    let list ← records workspace source [] specs
    return ⟨source.name, list⟩

/-- The records of specs whose source cannot be read. -/
def failed (source : Text) (failure : Failure) : List Spec → Session World (List Record)
  | [] => return []
  | spec :: specs => do
    let target := qualifyName (packageName source) spec.target
    say (Expand.failureEvent source target failure)
    let rest ← failed source failure specs
    return .failed target failure :: rest

/-! ### Expanding what rules declare -/

/-- Expands an entry of a store. -/
def entry (workspace : Workspace World) (entry : StoreEntry) : Session World Report := do
  let specs ← settle entry.specs
  say (entry.event specs)
  match entry.unit workspace (← world) with
  | .ok source => unit workspace source specs
  | .error (.failure (.sourceNotFound reason)) =>
    let list ← failed entry.template.name (.sourceNotFound reason) specs
    return ⟨entry.template.name, list⟩
  | .error abort => settle (.error abort)

/-- Expands the templates of a store, in order. -/
def store (workspace : Workspace World) : Store → Session World (List Report)
  | [] => return []
  | first :: entries => do
    let report ← entry workspace first
    let reports ← store workspace entries
    return report :: reports

/-- Reads the rules of a file into a store that is empty. -/
def readRules (file text : Text) : Session World Store :=
  match Reading.all [] text with
  | (reading, none) => return reading.store
  | (_, some (.refused error)) => do
    sayAll (error.events file)
    settle (.error .rulesRefused)
  | (_, some (.aborted abort)) => settle (.error abort)

/-- Reads rules and expands the templates that they declare. -/
def expandRules (workspace : Workspace World) (file text : Text) : Session World (List Report) := do
  let declared ← readRules file text
  store workspace declared

end Session

end Stencil
