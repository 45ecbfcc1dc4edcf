/-
This file proves what becomes of a store when rules are read into it again and again, and that what
is declared in it can be expanded. Whatever rules are read, to their end or not, the store stays
sound and only grows. Once some have been read to their end, every template in it has subordinates,
each of which makes a spec, so that expanding the store cannot end for the sake of something not
declared.
-/
import Stencil.Rules.Expand
import Stencil.File.Workspace
import Stencil.Proofs.Generation
import Stencil.Proofs.StoreInvariant

namespace Stencil

/-! ### Specs and units of what is declared -/

theorem exists_targetName (source : Text) (types : List Text) {placement : Placement}
    (known : placement.Known) : ∃ target, targetName source types placement = .ok target := by
  cases placement with
  | append => exact ⟨_, rfl⟩
  | prepend => exact ⟨_, rfl⟩
  | unknown word => exact absurd rfl (known word)

/-- What is in a store makes specs. -/
theorem Subordinate.Sound.exists_spec [CharacterNames] {subordinate : Subordinate}
    (sound : subordinate.Sound) {template : Template} (good : template.Sound) :
    ∃ spec, subordinate.spec template = .ok spec := by
  rw [Subordinate.spec, Subordinate.request]
  cases kind : subordinate.kind with
  | derivation =>
    obtain ⟨name, named⟩ := sound.target kind
    rw [named]
    exact ⟨_, rfl⟩
  | instantiation value =>
    obtain ⟨types, rfl, -⟩ := sound.types value kind
    cases subordinate.target with
    | some name => exact ⟨_, rfl⟩
    | none =>
      obtain ⟨target, named⟩ := exists_targetName (simpleName template.name) types good.placement
      simp only [named]
      exact ⟨_, rfl⟩

/-- Where the spec of a subordinate comes from: its rules are those of the subordinate, a derivation
has no types and the target that it names, and an instantiation has its types and the target that it
names, or else the one that is made from them. -/
theorem Subordinate.spec_eq_ok {subordinate : Subordinate} {template : Template} {spec : Spec}
    (made : subordinate.spec template = .ok spec) :
    spec.rules = subordinate.rules ∧
      ((subordinate.kind = .derivation ∧ spec.types = [] ∧
          subordinate.target = some spec.target) ∨
        (subordinate.kind = .instantiation (some spec.types) ∧
          (subordinate.target = some spec.target ∨
            targetName (simpleName template.name) spec.types template.placement =
              .ok spec.target))) := by
  rw [Subordinate.spec, Subordinate.request] at made
  cases kind : subordinate.kind with
  | derivation =>
    simp only [kind, Request.spec] at made
    split at made
    · next target named =>
      cases made
      exact ⟨rfl, Or.inl ⟨rfl, rfl, named⟩⟩
    · cases made
  | instantiation value =>
    cases value with
    | none =>
      rw [kind] at made
      cases made
    | some types =>
      simp only [kind] at made
      split at made
      · next request requested =>
        split at requested
        · next target named =>
          cases requested
          cases made
          exact ⟨rfl, Or.inr ⟨rfl, Or.inl named⟩⟩
        · split at requested
          · next target computed =>
            cases requested
            cases made
            exact ⟨rfl, Or.inr ⟨rfl, Or.inr computed⟩⟩
          · cases requested
      · cases made

theorem exists_mapM {Error First Second : Type} {step : First → Except Error Second}
    {list : List First} (steps : ∀ item ∈ list, ∃ result, step item = .ok result) :
    ∃ results, list.mapM step = .ok results ∧ results.length = list.length := by
  induction list with
  | nil => exact ⟨[], rfl, rfl⟩
  | cons item list inductionHypothesis =>
    obtain ⟨result, first⟩ := steps item List.mem_cons_self
    obtain ⟨results, rest, same⟩ :=
      inductionHypothesis fun other member => steps other (List.mem_cons_of_mem _ member)
    refine ⟨result :: results, ?_, by rw [List.length_cons, List.length_cons, same]⟩
    rw [List.mapM_cons, first]
    exact congrArg (· >>= fun results => pure (result :: results)) rest

/-- An entry of a sound store makes one spec for each subordinate. -/
theorem Store.Sound.exists_specs [CharacterNames] {store : Store} (sound : store.Sound)
    {entry : StoreEntry} (member : entry ∈ store) :
    ∃ specs, entry.specs = .ok specs ∧ specs.length = entry.subordinates.length :=
  exists_mapM fun subordinate inside =>
    (sound.subordinates entry member subordinate inside).exists_spec (sound.templates entry member)

/-- The unit of an entry has the name of its template. -/
theorem StoreEntry.name_of_unit {World : Type} {workspace : Workspace World} {world : World}
    {entry : StoreEntry} {unit : SourceUnit} (made : entry.unit workspace world = .ok unit) :
    unit.name = entry.template.name := by
  rw [StoreEntry.unit] at made
  split at made
  · cases made
  · have made := Generate.eq_ok_of_ending made
    unfold SourceUnit.ofText at made
    split at made
    · cases made
      rfl
    · split at made <;> cases made
      rfl

/-! ### How expansion can end -/

/-- Whether an abort is the failure of a spec. -/
def Abort.isFailure : Abort → Bool
  | .failure _ => true
  | _ => false

namespace Expand

variable {World : Type} {workspace : Workspace World} {abort : Abort}

/-- A trial ends in a failure or as its generation does. -/
theorem attempt_eq_error [CharacterNames] {unit : SourceUnit} {used : List Text} {world : World}
    {spec : Spec} (ended : (attempt workspace unit used world spec).outcome = .error abort) :
    abort.isFailure = true ∨ (generate unit spec).outcome = .error abort := by
  rw [attempt] at ended
  split at ended
  · cases ended
    exact Or.inl rfl
  · dsimp only at ended
    split at ended
    · next other generated =>
      cases ended
      exact Or.inr generated
    · split at ended <;> cases ended
      exact Or.inl rfl

/-- A batch goes on behind a failure; it ends early as the generation of one of its specs does, and
not in a failure. -/
theorem records_eq_error [CharacterNames] {unit : SourceUnit} {used : List Text} {world : World}
    {specs : List Spec} (ended : (records workspace unit used world specs).outcome = .error abort) :
    abort.isFailure = false ∧ ∃ spec ∈ specs, (generate unit spec).outcome = .error abort := by
  induction specs generalizing used world with
  | nil => cases ended
  | cons spec specs inductionHypothesis =>
    have later {used : List Text} {world : World}
        (rest : (records workspace unit used world specs).outcome = .error abort) :
        abort.isFailure = false ∧
          ∃ other ∈ spec :: specs, (generate unit other).outcome = .error abort := by
      obtain ⟨notFailure, other, member, generated⟩ := inductionHypothesis rest
      exact ⟨notFailure, other, List.mem_cons_of_mem _ member, generated⟩
    rw [records] at ended
    split at ended
    · exact later (eq_error_of_map ended)
    · exact later (eq_error_of_map ended)
    · next abort other tried =>
      cases ended
      have notFailure : abort.isFailure = false := by
        cases abort with
        | failure failure => exact absurd rfl (other failure)
        | _ => rfl
      refine ⟨notFailure, spec, List.mem_cons_self, (attempt_eq_error tried).resolve_left ?_⟩
      rw [notFailure]
      exact Bool.false_ne_true

/-- A batch that has specs ends early only where a generation can. -/
theorem endsGeneration_of_unit [CharacterNames] {unit : SourceUnit} {world : World}
    {specs : List Spec} (nonempty : specs ≠ [])
    (ended : (Expand.unit workspace unit world specs).outcome = .error abort) :
    Generate.EndsGeneration abort := by
  rw [Expand.unit, if_neg (fun empty => nonempty (List.isEmpty_iff.mp empty))] at ended
  obtain ⟨-, spec, -, generated⟩ := records_eq_error (eq_error_of_map ended)
  exact (Generate.generates_generate unit spec).abort _ generated

end Expand

/-- An entry that makes specs ends early only where reading its source or a generation does. -/
theorem StoreEntry.expand_eq_error [CharacterNames] {World : Type} {workspace : Workspace World}
    {world : World} {entry : StoreEntry} {specs : List Spec} {abort : Abort}
    (made : entry.specs = .ok specs) (nonempty : specs ≠ [])
    (ended : (entry.expand workspace world).outcome = .error abort) :
    Generate.EndsGeneration abort ∨ workspace.read world entry.template.name = .error abort := by
  rw [StoreEntry.expand, made] at ended
  dsimp only at ended
  split at ended
  · exact Or.inl (Expand.endsGeneration_of_unit nonempty ended)
  · cases ended
  · next other _ reading =>
    cases ended
    rw [StoreEntry.unit] at reading
    split at reading
    · next unread =>
      cases reading
      exact Or.inr unread
    · exact Or.inl (Generate.endsGeneration_of_ending reading)

namespace Store

theorem expand_eq_error [CharacterNames] {World : Type} {workspace : Workspace World}
    {world : World} {store : Store} {abort : Abort}
    (made : ∀ entry ∈ store, ∃ specs, entry.specs = .ok specs ∧ specs ≠ [])
    (ended : (store.expand workspace world).outcome = .error abort) :
    Generate.EndsGeneration abort ∨ ∃ world name, workspace.read world name = .error abort := by
  induction store generalizing world with
  | nil => cases ended
  | cons entry store inductionHypothesis =>
    rw [Store.expand] at ended
    split at ended
    · next other here =>
      cases ended
      obtain ⟨specs, isMade, nonempty⟩ := made entry List.mem_cons_self
      exact (StoreEntry.expand_eq_error isMade nonempty here).imp_right fun unread => ⟨_, _, unread⟩
    · exact inductionHypothesis (fun other member => made other (List.mem_cons_of_mem _ member))
        (eq_error_of_map ended)

end Store

/-- Aborts for the sake of rules: an attribute that is not set, a template without subordinates, a
placement that cannot be followed, or a name that a table does not have. -/
def Abort.blamesRules : Abort → Bool
  | .notSet | .noSpecs _ | .unknownPlacement _ | .missingKey _ => true
  | _ => false

theorem Generate.EndsGeneration.blamesRules {abort : Abort} (ends : EndsGeneration abort) :
    abort.blamesRules = false := by
  cases abort <;> first | rfl | cases ends

namespace Workspace

theorem blamesRules_of_memory {sources table : TextTable} {refused : List Text} {name : Text}
    {abort : Abort} (unread : (memory sources refused).read table name = .error abort) :
    abort.blamesRules = false := by
  rw [memory] at unread
  dsimp only at unread
  split at unread <;> cases unread
  rfl

theorem blamesRules_of_folders {sources units : Folder} {tree : FileTree} {name : Text}
    {abort : Abort} (unread : (folders sources units).read tree name = .error abort) :
    abort.blamesRules = false := by
  rw [folders] at unread
  dsimp only at unread
  rw [Folder.read, FileTree.readText] at unread
  split at unread
  · cases unread
    rfl
  · cases unread
    rfl
  · split at unread <;> cases unread
    rfl

end Workspace

/-- Expanding a sound store in which every template has subordinates ends for the sake of rules only
if reading a source does. -/
theorem Store.Sound.blamesRules_of_expand [CharacterNames] {World : Type}
    {workspace : Workspace World} {world : World} {store : Store} {abort : Abort}
    (sound : store.Sound) (fruitful : ∀ entry ∈ store, entry.subordinates ≠ [])
    (reads : ∀ world name abort, workspace.read world name = .error abort → abort.blamesRules = false)
    (ended : (store.expand workspace world).outcome = .error abort) :
    abort.blamesRules = false := by
  have made (entry : StoreEntry) (member : entry ∈ store) :
      ∃ specs, entry.specs = .ok specs ∧ specs ≠ [] := by
    obtain ⟨specs, isMade, same⟩ := sound.exists_specs member
    refine ⟨specs, isMade, fun empty => fruitful entry member ?_⟩
    rw [empty] at same
    exact List.length_eq_zero_iff.mp same.symm
  rcases Store.expand_eq_error made ended with ends | ⟨world, name, unread⟩
  · exact ends.blamesRules
  · exact reads world name abort unread

/-! ### Rules after rules -/

namespace Store

variable [CharacterNames]

/-- The store after rules have been read into it one after another, each with its file and however
it ended. -/
def ofRules (calls : List (Text × Text)) : Store :=
  calls.foldl (fun store call => (store.readRules call.1 call.2).world) []

theorem ofRules_concat (calls : List (Text × Text)) (file text : Text) :
    ofRules (calls ++ [(file, text)]) = ((ofRules calls).readRules file text).world := by
  rw [ofRules, List.foldl_append]
  rfl

/-- What reading rules keeps, however it ends, holds of the store after any rules. -/
theorem holds_ofRules {motive : Store → Prop} (nil : motive [])
    (reads : ∀ store file text, motive store → motive (Store.readRules store file text).world)
    (calls : List (Text × Text)) : motive (ofRules calls) :=
  List.foldlRecOn calls _ nil fun store here call _ => reads store call.1 call.2 here

/-- Whatever rules are read into a store, one after another, each to its end or not, it is sound. -/
theorem sound_ofRules (calls : List (Text × Text)) : (ofRules calls).Sound :=
  holds_ofRules sound_nil (fun _ file text sound => sound.readRules file text) calls

/-- Every call only adds templates behind those of the earlier ones, which stay as they are. -/
theorem ofRules_prefix (calls : List (Text × Text)) (file text : Text) :
    ofRules calls <+: ofRules (calls ++ [(file, text)]) := by
  rw [ofRules_concat]
  exact (sound_ofRules calls).prefix_readRules file text

/-- After a call that came to its end every template has subordinates. -/
theorem subordinates_ne_nil_ofRules {calls : List (Text × Text)} {file text : Text}
    (isRead : ((ofRules calls).readRules file text).outcome = .ok ()) {entry : StoreEntry}
    (member : entry ∈ ofRules (calls ++ [(file, text)])) : entry.subordinates ≠ [] := by
  rw [ofRules_concat] at member
  exact subordinates_ne_nil_of_readRules isRead member

/-- Rules that declare a template with an instantiation. -/
def cellRules : Text := "Template: p.Cell\n\nInstantiation: #int\n- types: int\n".toList

end Store

end Stencil
