/-
Expanding what rules declare. Every template of a store is read from the workspace and expanded into
its subordinates. A source that is not found fails all of them; whatever else keeps a unit from being
read ends the whole run.
-/
import Stencil.Expand
import Stencil.Rules.Reading

namespace Stencil

variable [CharacterNames]

namespace StoreEntry

/-- The specs of an entry, in order. -/
def specs (entry : StoreEntry) : Except Abort (List Spec) :=
  entry.subordinates.mapM fun subordinate => subordinate.spec entry.template

/-- The note that an entry is about to be expanded. -/
def event (entry : StoreEntry) (specs : List Spec) : Event :=
  .note ("expanding `" ++ entry.template.name.str ++ "` into " ++
    (Text.quotedList (specs.map Spec.target)).str)

/-- The unit of an entry, as the workspace has it. -/
def unit {World : Type} (workspace : Workspace World) (world : World) (entry : StoreEntry) :
    Except Abort SourceUnit :=
  match workspace.read world entry.template.name with
  | .error abort => .error abort
  | .ok text =>
    Generate.ending <|
      SourceUnit.ofText entry.template.name text entry.template.parameters entry.template.markers
        entry.template.imports entry.template.sigil

/-- Expands an entry. -/
def expand {World : Type} (workspace : Workspace World) (world : World) (entry : StoreEntry) :
    Work World Report :=
  match entry.specs with
  | .error abort => ⟨world, [], .error abort⟩
  | .ok specs =>
    let note := entry.event specs
    match entry.unit workspace world with
    | .ok unit =>
      let work := Expand.unit workspace unit world specs
      ⟨work.world, note :: work.log, work.outcome⟩
    | .error (.failure (.sourceNotFound reason)) =>
      let run := Expand.failAll entry.template.name specs (.sourceNotFound reason)
      ⟨world, note :: run.log, run.outcome⟩
    | .error abort => ⟨world, [note], .error abort⟩

end StoreEntry

/-- Expands the templates of a store, in order. -/
def Store.expand {World : Type} (workspace : Workspace World) :
    Store → World → Work World (List Report)
  | [], world => ⟨world, [], .ok []⟩
  | entry :: entries, world =>
    let first := entry.expand workspace world
    match first.outcome with
    | .error abort => ⟨first.world, first.log, .error abort⟩
    | .ok report =>
      let rest := Store.expand workspace entries first.world
      ⟨rest.world, first.log ++ rest.log, rest.outcome.map (report :: ·)⟩

/-- Reads rules and expands the templates that they declare. -/
def expandRules {World : Type} (workspace : Workspace World) (file text : Text) (world : World) :
    Work World (List Report) :=
  let read := Store.readRules [] file text
  match read.outcome with
  | .error abort => ⟨world, read.log, .error abort⟩
  | .ok () =>
    let work := read.world.expand workspace world
    ⟨work.world, read.log ++ work.log, work.outcome⟩

end Stencil
