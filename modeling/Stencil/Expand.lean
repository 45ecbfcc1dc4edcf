/-
Expanding a unit. The specs of a batch are taken in order, each on its own: a spec that fails is
reported and the next one is taken. A target name counts as used once a spec has asked for it, whether
it was emitted or not. Anything but a failure ends the batch.
-/
import Stencil.Generate
import Stencil.Report
import Stencil.Workspace

namespace Stencil

variable [CharacterNames]

namespace Expand

/-- Refuses a spec whose types do not fit the unit or whose target name is not free. -/
def validate (unit : SourceUnit) (used : List Text) (spec : Spec) : Except Failure Unit :=
  if spec.derivation && !spec.types.isEmpty then
    .error (.derivationWithTypes spec.target spec.types.length)
  else if !spec.derivation && spec.types.length ≠ unit.parameters.length then
    .error (.typeCountMismatch spec.types.length unit.parameters)
  else if spec.target = unit.simple then .error (.targetIsSource spec.target)
  else if used.contains spec.target then .error (.targetTaken spec.target)
  else .ok ()

/-- Validates, generates and emits one spec. -/
def attempt {World : Type} (workspace : Workspace World) (unit : SourceUnit) (used : List Text)
    (world : World) (spec : Spec) : Work World Unit :=
  match validate unit used spec with
  | .error failure => ⟨world, [], .error (.failure failure)⟩
  | .ok () =>
    let run := generate unit spec
    match run.outcome with
    | .error abort => ⟨world, run.log, .error abort⟩
    | .ok text =>
      match workspace.emit world (unit.qualify spec.target) text with
      | (world, .ok ()) => ⟨world, run.log, .ok ()⟩
      | (world, .error failure) => ⟨world, run.log, .error (.failure failure)⟩

/-- The error line of a failed spec. -/
def failureEvent (source target : Text) (failure : Failure) : Event :=
  .error ("cannot expand `" ++ source.str ++ "` to `" ++ target.str ++ "`: " ++ failure.message)

/-- The note on an emitted unit. -/
def emissionEvent (source target : Text) : Event :=
  .note ("generated `" ++ target.str ++ "` from `" ++ source.str ++ "`")

/-- Takes specs in order; `used` are the target names asked for before. -/
def records {World : Type} (workspace : Workspace World) (unit : SourceUnit) :
    (used : List Text) → World → List Spec → Work World (List Record)
  | _, world, [] => ⟨world, [], .ok []⟩
  | used, world, spec :: specs =>
    let target := unit.qualify spec.target
    let tried := attempt workspace unit used world spec
    let rest := records workspace unit (used ++ [spec.target]) tried.world specs
    match tried.outcome with
    | .ok () =>
      ⟨rest.world, tried.log ++ emissionEvent unit.name target :: rest.log,
        rest.outcome.map (.emitted target :: ·)⟩
    | .error (.failure failure) =>
      ⟨rest.world, tried.log ++ failureEvent unit.name target failure :: rest.log,
        rest.outcome.map (.failed target failure :: ·)⟩
    | .error abort => ⟨tried.world, tried.log, .error abort⟩

/-- Expands a unit into one concrete unit per spec. A batch without specs is refused. -/
def unit {World : Type} (workspace : Workspace World) (source : SourceUnit) (world : World)
    (specs : List Spec) : Work World Report :=
  if specs.isEmpty then ⟨world, [], .error (.noSpecs source.name)⟩
  else
    let work := records workspace source [] world specs
    ⟨work.world, work.log, work.outcome.map fun records => ⟨source.name, records⟩⟩

/-- The report on specs whose source cannot be read. -/
def failAll (source : Text) (specs : List Spec) (failure : Failure) : Run Report :=
  let target (spec : Spec) := qualifyName (packageName source) spec.target
  ⟨specs.map fun spec => failureEvent source (target spec) failure,
    .ok ⟨source, specs.map fun spec => .failed (target spec) failure⟩⟩

end Expand

end Stencil
