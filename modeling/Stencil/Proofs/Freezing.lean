/-
This file proves that a declaration is frozen once it has been committed, whatever is done to it by
hand and in whatever order, and however often committing has failed before. One lemma says all that
an operation can do: it leaves the handle alone, or it changes a declaration that has not been
committed and stays so, or it is a commit of a declaration that lacks nothing. Everything else
follows from these three cases. A committed declaration lacks nothing, since it lacked nothing when
it was committed and has not been changed since, and so there is always a spec of it.
-/
import Stencil.Handle
import Stencil.Proofs.RulesErrors
import Stencil.Proofs.StoreExpansion

namespace Stencil

namespace Declaration

/-! ### Committing -/

/-- A declaration that has what it cannot do without: an instantiation its types, and a derivation
its name. -/
def IsComplete : Declaration → Prop
  | .template _ => True
  | .subordinate declared =>
    match declared.kind with
    | .instantiation types => types ≠ none
    | .derivation => declared.target ≠ none

theorem missing?_eq_none_iff (declaration : Declaration) :
    declaration.missing? = none ↔ declaration.IsComplete := by
  cases declaration with
  | template declared => exact iff_of_true rfl trivial
  | subordinate declared =>
    obtain ⟨id, committed, kind, target, rules⟩ := declared
    cases kind with
    | instantiation types => cases types <;> simp [missing?, IsComplete]
    | derivation => cases target <;> simp [missing?, IsComplete]

/-- A declaration that lacks nothing can be committed, and if it has been before, this does nothing
to it. -/
theorem IsComplete.commit {declaration : Declaration} (complete : declaration.IsComplete) :
    ∃ after, declaration.commit = .ok after ∧ after.committed = true ∧ after.IsComplete ∧
      (declaration.committed = true → after = declaration) := by
  have missing := (missing?_eq_none_iff declaration).mpr complete
  cases declaration with
  | template declared =>
    refine ⟨_, rfl, rfl, trivial, fun done => ?_⟩
    rw [← show declared.committed = true from done]
  | subordinate declared =>
    refine ⟨.subordinate { declared with committed := true }, by rw [Declaration.commit, missing],
      rfl, complete, fun done => ?_⟩
    rw [← show declared.committed = true from done]

theorem commit_of_not_isComplete {declaration : Declaration} (lacks : ¬ declaration.IsComplete) :
    ∃ setting, declaration.commit = .error (.missing setting) := by
  rw [← missing?_eq_none_iff] at lacks
  obtain ⟨setting, missing⟩ := Option.ne_none_iff_exists'.mp lacks
  refine ⟨setting, ?_⟩
  unfold Declaration.commit
  rw [missing]

theorem committed_of_changed? {declaration changed : Declaration} {change : Change}
    (same : declaration.changed? change = some changed) :
    changed.committed = declaration.committed := by
  cases declaration with
  | template declared =>
    obtain ⟨after, made, rfl⟩ := Option.map_eq_some_iff.mp same
    cases change <;> cases made <;> rfl
  | subordinate declared =>
    obtain ⟨after, made, rfl⟩ := Option.map_eq_some_iff.mp same
    obtain ⟨id, committed, kind, target, rules⟩ := declared
    cases change <;> cases kind <;> cases made <;> rfl

end Declaration

/-! ### Specs of complete subordinates -/

/-- The request that a spec meets. -/
def Spec.request (spec : Spec) : Request :=
  ⟨some spec.target, spec.types, spec.rules, spec.derivation⟩

theorem Subordinate.exists_spec_of_isComplete {subordinate : Subordinate} {template : Template}
    (complete : (Declaration.subordinate subordinate).IsComplete)
    (known : template.placement.Known) :
    ∃ spec, subordinate.spec template = .ok spec ∧
      subordinate.request (simpleName template.name) template.placement = .ok spec.request := by
  obtain ⟨id, committed, kind, target, rules⟩ := subordinate
  suffices requested : ∃ spec : Spec, Subordinate.request ⟨id, committed, kind, target, rules⟩
      (simpleName template.name) template.placement = .ok spec.request by
    obtain ⟨spec, requested⟩ := requested
    exact ⟨spec, by rw [Subordinate.spec, requested]; rfl, requested⟩
  cases kind with
  | derivation =>
    obtain ⟨name, rfl⟩ := Option.ne_none_iff_exists'.mp complete
    exact ⟨⟨name, [], rules, true⟩, rfl⟩
  | instantiation value =>
    obtain ⟨types, rfl⟩ := Option.ne_none_iff_exists'.mp complete
    cases target with
    | some name => exact ⟨⟨name, types, rules, false⟩, rfl⟩
    | none =>
      obtain ⟨name, named⟩ := exists_targetName (simpleName template.name) types known
      exact ⟨⟨name, types, rules, false⟩, by simp only [Subordinate.request, named]; rfl⟩

/-! ### What an operation can do -/

theorem Attribute.setting?_clearing (setting : Attribute) :
    setting.clearing.setting? = some setting := by
  cases setting <;> rfl

namespace Handle

/-- All that an operation can do to a handle, and how it ends then. -/
inductive Performs (handle : Handle) :
    Operation → Handle × Except OperationFault (Option Request) → Prop
  | nothing {operation : Operation} {outcome : Except OperationFault (Option Request)} :
      Performs handle operation (handle, outcome)
  | change {operation : Operation} {changed : Declaration} {cleared : List Attribute}
      (uncommitted : handle.declaration.committed = false) (still : changed.committed = false) :
      Performs handle operation (⟨changed, cleared⟩, .ok none)
  | commit {after : Declaration} (done : after.committed = true) (complete : after.IsComplete)
      (again : handle.declaration.committed = true → after = handle.declaration) :
      Performs handle .commit ({ handle with declaration := after }, .ok none)

theorem performs_change (handle : Handle) (operation : Operation) (change : Change)
    (cleared : List Attribute) : handle.Performs operation (handle.change change cleared) := by
  rw [Handle.change, Declaration.change]
  cases concerned : handle.declaration.changed? change with
  | none => exact .nothing
  | some changed =>
    cases committed : handle.declaration.committed with
    | true => exact .nothing
    | false => exact .change committed ((Declaration.committed_of_changed? concerned).trans committed)

theorem performs (handle : Handle) (operation : Operation) :
    handle.Performs operation (handle.perform operation) := by
  cases operation with
  | change change => exact handle.performs_change _ change _
  | clear setting => exact handle.performs_change _ setting.clearing _
  | request template =>
    rw [perform]
    cases handle.declaration <;> exact .nothing
  | commit =>
    rw [perform]
    by_cases complete : handle.declaration.IsComplete
    · obtain ⟨after, commits, done, still, again⟩ := complete.commit
      rw [commits]
      exact .commit done still again
    · obtain ⟨setting, refused⟩ := Declaration.commit_of_not_isComplete complete
      rw [refused]
      exact .nothing

/-- An operation that fails changes nothing. -/
theorem perform_of_error {handle : Handle} {operation : Operation} {fault : OperationFault}
    (failed : (handle.perform operation).2 = .error fault) :
    (handle.perform operation).1 = handle := by
  have performed := handle.performs operation
  generalize handle.perform operation = result at failed performed
  cases performed with
  | nothing => rfl
  | change _ _ | commit _ _ _ => cases failed

/-- No operation changes what has been committed. -/
theorem perform_of_committed {handle : Handle} (committed : handle.declaration.committed = true)
    (operation : Operation) : (handle.perform operation).1 = handle := by
  have performed := handle.performs operation
  generalize handle.perform operation = result at performed
  cases performed with
  | nothing => rfl
  | change uncommitted _ => simp [committed] at uncommitted
  | commit _ _ again => rw [again committed]

theorem perform_commit_iff (handle : Handle) :
    (handle.perform .commit).2 = .ok none ↔ handle.declaration.IsComplete := by
  rw [perform]
  constructor
  · intro commits
    by_contra lacks
    obtain ⟨setting, refused⟩ := Declaration.commit_of_not_isComplete lacks
    rw [refused] at commits
    cases commits
  · intro complete
    obtain ⟨after, commits, -⟩ := complete.commit
    rw [commits]

theorem committed_of_perform_commit {handle : Handle}
    (commits : (handle.perform .commit).2 = .ok none) :
    (handle.perform .commit).1.declaration.committed = true := by
  obtain ⟨after, same, done, -⟩ := ((perform_commit_iff handle).mp commits).commit
  rw [perform, same]
  exact done

/-! ### Runs -/

theorem run_cons (handle : Handle) (operation : Operation) (operations : List Operation) :
    handle.run (operation :: operations) = (handle.perform operation).1.run operations :=
  rfl

theorem run_append (handle : Handle) (first second : List Operation) :
    handle.run (first ++ second) = (handle.run first).run second :=
  List.foldl_append

theorem run_of_committed {handle : Handle} (committed : handle.declaration.committed = true)
    (operations : List Operation) : handle.run operations = handle := by
  induction operations with
  | nil => rfl
  | cons operation operations inductionHypothesis =>
    rw [run_cons, perform_of_committed committed, inductionHypothesis]

/-- What has been committed lacks nothing. -/
def Sealed (handle : Handle) : Prop :=
  handle.declaration.committed = true → handle.declaration.IsComplete

theorem Sealed.perform {handle : Handle} (safe : handle.Sealed) (operation : Operation) :
    (handle.perform operation).1.Sealed := by
  have performed := handle.performs operation
  generalize handle.perform operation = result at performed
  cases performed with
  | nothing => exact safe
  | change _ still =>
    intro committed
    simp [still] at committed
  | commit _ complete _ => exact fun _ => complete

theorem Sealed.run {handle : Handle} (safe : handle.Sealed) (operations : List Operation) :
    (handle.run operations).Sealed := by
  induction operations generalizing handle with
  | nil => exact safe
  | cons operation operations inductionHypothesis =>
    exact inductionHypothesis (safe.perform operation)

/-- A declaration is committed if and only if some commit has succeeded. -/
theorem committed_run_iff {handle : Handle} (uncommitted : handle.declaration.committed = false)
    (operations : List Operation) :
    (handle.run operations).declaration.committed = true ↔
      ∃ before after, operations = before ++ .commit :: after ∧
        ((handle.run before).perform .commit).2 = .ok none := by
  constructor
  · intro committed
    induction operations generalizing handle with
    | nil => simp [run, uncommitted] at committed
    | cons operation operations inductionHypothesis =>
      rw [run_cons] at committed
      cases next : (handle.perform operation).1.declaration.committed with
      | false =>
        obtain ⟨before, after, rfl, commits⟩ := inductionHypothesis next committed
        exact ⟨operation :: before, after, rfl, commits⟩
      | true =>
        refine ⟨[], operations, ?_⟩
        -- Of the three things that an operation can do, only the commit makes this change.
        have performed := handle.performs operation
        generalize same : handle.perform operation = result at next performed
        cases performed with
        | nothing => simp [uncommitted] at next
        | change _ still => simp [still] at next
        | commit _ _ _ => exact ⟨rfl, congrArg Prod.snd same⟩
  · rintro ⟨before, after, rfl, commits⟩
    have committed := committed_of_perform_commit commits
    rw [run_append, run_cons, run_of_committed committed]
    exact committed

/-! ### Frozen declarations -/

/-- A handle on a declaration with which nothing can be done any more but to ask it for specs. -/
structure Frozen (handle : Handle) : Prop where
  /-- No attribute can be set. -/
  setting : ∀ setting ∈ handle.declaration.attributes, ∀ change, change.setting? = some setting →
    handle.perform (.change change) = (handle, .error (.declaration (.committed change)))
  /-- No attribute can be cleared. -/
  clearing : ∀ setting ∈ handle.declaration.attributes,
    handle.perform (.clear setting) = (handle, .error (.declaration (.committed setting.clearing)))
  /-- No rule can be added to a subordinate. -/
  rules : ∀ subordinate, handle.declaration = .subordinate subordinate → ∀ rule,
    handle.perform (.change (.rule rule)) = (handle, .error (.declaration (.committed (.rule rule))))
  commits : handle.perform .commit = (handle, .ok none)
  stays : ∀ operations, handle.run operations = handle
  /-- A subordinate has one spec beneath a template, which is what it requests then and later. -/
  requests : ∀ subordinate, handle.declaration = .subordinate subordinate →
    ∀ template : Template, template.placement = .append ∨ template.placement = .prepend →
      ∃ spec, subordinate.spec template = .ok spec ∧ ∀ operations,
        (handle.run operations).perform (.request template) = (handle, .ok (some spec.request))

theorem change_of_committed {handle : Handle} {change : Change} {changed : Declaration}
    (committed : handle.declaration.committed = true)
    (concerned : handle.declaration.changed? change = some changed) (cleared : List Attribute) :
    handle.change change cleared = (handle, .error (.declaration (.committed change))) := by
  simp [Handle.change, Declaration.change, concerned, committed]

theorem frozen_of_committed {handle : Handle} (safe : handle.Sealed)
    (committed : handle.declaration.committed = true) : handle.Frozen := by
  have complete := safe committed
  have stays := run_of_committed committed
  refine ⟨fun setting member change about => ?_, fun setting member => ?_,
    fun subordinate same rule => ?_, ?_, stays, fun subordinate same template placed => ?_⟩
  · obtain ⟨changed, concerned⟩ := Declaration.changed?_of_mem about member
    exact change_of_committed committed concerned _
  · obtain ⟨changed, concerned⟩ := Declaration.changed?_of_mem setting.setting?_clearing member
    exact change_of_committed committed concerned _
  · obtain ⟨changed, concerned⟩ :
        ∃ changed, handle.declaration.changed? (.rule rule) = some changed := by
      rw [same]
      exact ⟨_, rfl⟩
    exact change_of_committed committed concerned _
  · exact Prod.ext (perform_of_committed committed .commit) ((perform_commit_iff handle).mpr complete)
  · rw [same] at complete
    have known : template.placement.Known := by
      rcases placed with placed | placed <;> simp [Placement.Known, placed]
    obtain ⟨spec, made, requested⟩ := Subordinate.exists_spec_of_isComplete complete known
    refine ⟨spec, made, fun operations => ?_⟩
    rw [stays operations, perform]
    simp only [same, requested]
    rfl

/-- Committing freezes a declaration. Take a declaration that has not been committed, as it is when
it is made, and do anything to it. An operation that fails changes nothing; a commit succeeds if and
only if nothing is lacking, and that some commit has succeeded is the same as that the declaration
is committed; and then it is frozen. -/
theorem commit_freezes {start handle : Handle} (uncommitted : start.declaration.committed = false)
    {operations : List Operation} (reached : start.run operations = handle) :
    (∀ operation fault, (handle.perform operation).2 = .error fault →
      (handle.perform operation).1 = handle) ∧
    ((handle.perform .commit).2 = .ok none ↔ handle.declaration.IsComplete) ∧
    (handle.declaration.committed = true ↔
      ∃ before after, operations = before ++ .commit :: after ∧
        ((start.run before).perform .commit).2 = .ok none) ∧
    (handle.declaration.committed = true → handle.Frozen) := by
  subst reached
  have safe : start.Sealed := fun committed => by simp [uncommitted] at committed
  exact ⟨fun _ _ failed => perform_of_error failed, perform_commit_iff _,
    committed_run_iff uncommitted operations, frozen_of_committed (safe.run operations)⟩

/-- What somebody does who commits an instantiation too early, twice, and changes it too late. -/
def untimelyOperations : List Operation :=
  [.commit, .change (.types (some ["int".toList])), .clear .types, .commit,
    .change (.types (some ["long".toList])), .change (.rule ⟨['a'], ['b'], false, true⟩), .commit,
    .clear .types, .change (.rule ⟨['c'], ['d'], false, true⟩)]

theorem commit_freezes_untimely :
    (start (.subordinate (.instantiation "long".toList))).declaration.committed = false ∧
      ((start (.subordinate (.instantiation "long".toList))).run untimelyOperations).declaration =
        .subordinate ⟨"long".toList, true, .instantiation (some ["long".toList]), none,
          [⟨['a'], ['b'], false, true⟩]⟩ ∧
      ((start (.subordinate (.instantiation "long".toList))).run untimelyOperations).Frozen :=
  ⟨rfl, rfl, (commit_freezes rfl rfl).2.2.2 rfl⟩

end Handle

end Stencil
