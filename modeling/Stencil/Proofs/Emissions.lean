/-
This file proves what expansion does with a workspace. It reads and emits, and looks at nothing
else: where one world is a view of another, expanding in the view is the view of expanding. So a
workspace can be made to keep a record of the names it is asked to emit, and nothing but the record
is new. Expansion only ever asks to emit a target that one of the specs has, in the package of its
template; whatever these emissions keep, a whole run keeps.
-/
import Stencil.Proofs.StoreExpansion

namespace Stencil

/-! ### Views of worlds -/

/-- The same work, seen in another world. -/
def Work.view {First Second Result : Type} (view : First → Second) (work : Work First Result) :
    Work Second Result :=
  ⟨view work.world, work.log, work.outcome⟩

/-- The second workspace does in the view of a world what the first one does in the world. -/
structure Workspace.Views {First Second : Type} (first : Workspace First)
    (second : Workspace Second) (view : First → Second) : Prop where
  read : ∀ world name, second.read (view world) name = first.read world name
  emit : ∀ world name text, second.emit (view world) name text =
    (view (first.emit world name text).1, (first.emit world name text).2)

section

variable {First Second : Type} {first : Workspace First} {second : Workspace Second}
  {view : First → Second}

namespace Expand

theorem attempt_view [CharacterNames] (views : first.Views second view) (unit : SourceUnit)
    (used : List Text) (world : First) (spec : Spec) :
    attempt second unit used (view world) spec =
      (attempt first unit used world spec).view view := by
  rw [attempt, attempt]
  cases validate unit used spec with
  | error failure => rfl
  | ok valid =>
    generalize generate unit spec = run
    obtain ⟨log, outcome⟩ := run
    cases outcome with
    | error abort => rfl
    | ok text =>
      simp only [views.emit]
      obtain ⟨after, emitted⟩ := first.emit world (unit.qualify spec.target) text
      cases emitted <;> rfl

theorem records_view [CharacterNames] (views : first.Views second view) (unit : SourceUnit)
    (used : List Text) (world : First) (specs : List Spec) :
    records second unit used (view world) specs =
      (records first unit used world specs).view view := by
  induction specs generalizing used world with
  | nil => rfl
  | cons spec specs inductionHypothesis =>
    rw [records, records, attempt_view views]
    generalize attempt first unit used world spec = tried
    obtain ⟨after, log, outcome⟩ := tried
    simp only [Work.view, inductionHypothesis]
    rcases outcome with abort | done
    · cases abort <;> rfl
    · rfl

theorem unit_view [CharacterNames] (views : first.Views second view) (source : SourceUnit)
    (world : First) (specs : List Spec) :
    unit second source (view world) specs = (unit first source world specs).view view := by
  rw [unit, unit]
  split
  · rfl
  · rw [records_view views]
    rfl

end Expand

theorem StoreEntry.expand_view [CharacterNames] (views : first.Views second view) (world : First)
    (entry : StoreEntry) :
    entry.expand second (view world) = (entry.expand first world).view view := by
  have same : entry.unit second (view world) = entry.unit first world := by
    rw [StoreEntry.unit, StoreEntry.unit, views.read]
  rw [StoreEntry.expand, StoreEntry.expand, same]
  cases entry.specs with
  | error abort => rfl
  | ok specs =>
    rcases entry.unit first world with abort | unit
    · rcases abort with failure | _
      · cases failure <;> rfl
      all_goals rfl
    · simp only [Expand.unit_view views]
      rfl

theorem Store.expand_view [CharacterNames] (views : first.Views second view) (store : Store)
    (world : First) :
    store.expand second (view world) = (store.expand first world).view view := by
  induction store generalizing world with
  | nil => rfl
  | cons entry entries inductionHypothesis =>
    rw [Store.expand, Store.expand, StoreEntry.expand_view views]
    generalize entry.expand first world = expanded
    obtain ⟨after, log, outcome⟩ := expanded
    cases outcome with
    | error abort => rfl
    | ok report =>
      simp only [Work.view, inductionHypothesis]

end

/-! ### What a run keeps -/

section

variable {World : Type} {workspace : Workspace World} {motive : World → Prop}

namespace Expand

theorem holds_attempt [CharacterNames] {unit : SourceUnit} {used : List Text} {world : World}
    {spec : Spec}
    (emits : ∀ world text, motive world →
      motive (workspace.emit world (unit.qualify spec.target) text).1)
    (here : motive world) : motive (attempt workspace unit used world spec).world := by
  rw [attempt]
  cases validate unit used spec with
  | error failure => exact here
  | ok valid =>
    generalize generate unit spec = run
    obtain ⟨log, outcome⟩ := run
    cases outcome with
    | error abort => exact here
    | ok text =>
      have kept := emits world text here
      dsimp only
      generalize workspace.emit world (unit.qualify spec.target) text = done at kept ⊢
      obtain ⟨after, emitted⟩ := done
      cases emitted <;> exact kept

theorem holds_records [CharacterNames] {unit : SourceUnit} {used : List Text} {world : World}
    {specs : List Spec}
    (emits : ∀ spec ∈ specs, ∀ world text, motive world →
      motive (workspace.emit world (unit.qualify spec.target) text).1)
    (here : motive world) : motive (records workspace unit used world specs).world := by
  induction specs generalizing used world with
  | nil => exact here
  | cons spec specs inductionHypothesis =>
    have tried : motive (attempt workspace unit used world spec).world :=
      holds_attempt (emits spec List.mem_cons_self) here
    have rest : motive (records workspace unit (used ++ [spec.target])
        (attempt workspace unit used world spec).world specs).world :=
      inductionHypothesis (fun other later => emits other (List.mem_cons_of_mem _ later)) tried
    rw [records]
    split
    · exact rest
    · exact rest
    · exact tried

theorem holds_unit [CharacterNames] {source : SourceUnit} {world : World} {specs : List Spec}
    (emits : ∀ spec ∈ specs, ∀ world text, motive world →
      motive (workspace.emit world (source.qualify spec.target) text).1)
    (here : motive world) : motive (unit workspace source world specs).world := by
  rw [unit]
  split
  · exact here
  · exact holds_records emits here

end Expand

theorem StoreEntry.holds_expand [CharacterNames] {entry : StoreEntry} {world : World}
    (emits : ∀ specs spec, entry.specs = .ok specs → spec ∈ specs → ∀ world text, motive world →
      motive (workspace.emit world (qualifyName (packageName entry.template.name) spec.target)
        text).1)
    (here : motive world) : motive (entry.expand workspace world).world := by
  rw [StoreEntry.expand]
  cases made : entry.specs with
  | error abort => exact here
  | ok specs =>
    dsimp only
    split
    · next unit isUnit =>
      refine Expand.holds_unit (fun spec member => ?_) here
      rw [SourceUnit.qualify, SourceUnit.package, StoreEntry.name_of_unit isUnit]
      exact emits specs spec made member
    · exact here
    · exact here

theorem Store.holds_expand [CharacterNames] {store : Store} {world : World}
    (emits : ∀ entry ∈ store, ∀ specs spec, entry.specs = .ok specs → spec ∈ specs →
      ∀ world text, motive world →
        motive (workspace.emit world (qualifyName (packageName entry.template.name) spec.target)
          text).1)
    (here : motive world) : motive (store.expand workspace world).world := by
  induction store generalizing world with
  | nil => exact here
  | cons entry entries inductionHypothesis =>
    have first : motive (entry.expand workspace world).world :=
      entry.holds_expand (emits entry List.mem_cons_self) here
    rw [Store.expand]
    dsimp only
    split
    · exact first
    · exact inductionHypothesis
        (fun other later => emits other (List.mem_cons_of_mem _ later)) first

end

/-! ### Keeping a record -/

/-- A workspace that keeps the names it is asked to emit, the last one last. -/
def Workspace.recording {World : Type} (workspace : Workspace World) :
    Workspace (World × List Text) where
  read world name := workspace.read world.1 name
  emit world name text :=
    let (after, emitted) := workspace.emit world.1 name text
    ((after, world.2 ++ [name]), emitted)

theorem Workspace.views_recording {World : Type} (workspace : Workspace World) :
    workspace.recording.Views workspace Prod.fst :=
  ⟨fun _ _ => rfl, fun _ _ _ => rfl⟩

/-- The names that a run asks to emit are targets of specs, each in the package of its template. -/
theorem Store.exists_spec_of_recorded [CharacterNames] {World : Type} {workspace : Workspace World}
    {store : Store} {world : World} {name : Text}
    (recorded : name ∈ (store.expand workspace.recording (world, [])).world.2) :
    ∃ entry ∈ store, ∃ specs, entry.specs = .ok specs ∧ ∃ spec ∈ specs,
      name = qualifyName (packageName entry.template.name) spec.target := by
  refine Store.holds_expand
    (motive := fun world : World × List Text => ∀ name ∈ world.2, ∃ entry ∈ store,
      ∃ specs, entry.specs = .ok specs ∧ ∃ spec ∈ specs,
        name = qualifyName (packageName entry.template.name) spec.target)
    (fun entry member specs spec made inside before text here name asked => ?_)
    (fun _ none => by cases none) name recorded
  rcases List.mem_append.mp asked with earlier | last
  · exact here name earlier
  · exact ⟨entry, member, specs, made, spec, inside, List.mem_singleton.mp last⟩

end Stencil
