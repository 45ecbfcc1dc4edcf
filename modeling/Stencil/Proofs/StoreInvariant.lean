/-
This file proves what holds of a store of declarations after any rules have been read into it,
whether they were read to their end or not. Names and ids are checked when a declaration is opened
and recorded when it is committed, so the invariant of the store has to be carried along with what
is known of the declaration in progress: it has not been committed, its name or id is not in the
store yet, and a template that it stands beneath was declared by the rules that are being read. That
template is not in the store from before, and so what was there before is not touched.
-/
import Stencil.Rules.Reading
import Stencil.Proofs.ListSearch
import Stencil.Proofs.Outcomes

namespace Stencil

/-! ### Sound declarations -/

/-- A rule that can be applied: there is something to look for, and where it is a pattern, pattern
and substitute can be read. -/
structure Rule.Sound [CharacterNames] (rule : Rule) : Prop where
  nonempty : rule.pattern ≠ []
  readable : rule.isRegex = true → ∃ pattern substitute,
    Pattern.ofText rule.pattern = .ok pattern ∧
      Substitute.ofText pattern rule.substitute = .ok substitute

/-- A placement that can be followed. -/
def Placement.Known (placement : Placement) : Prop := ∀ word, placement ≠ .unknown word

/-- A template in the store. -/
structure Template.Sound (template : Template) : Prop where
  committed : template.committed = true
  placement : template.placement.Known

/-- A subordinate in the store. -/
structure Subordinate.Sound [CharacterNames] (subordinate : Subordinate) : Prop where
  committed : subordinate.committed = true
  types : ∀ value, subordinate.kind = .instantiation value →
    ∃ types, value = some types ∧ types ≠ []
  target : subordinate.kind = .derivation → ∃ name, subordinate.target = some name
  rules : ∀ rule ∈ subordinate.rules, rule.Sound

/-- A template in progress. -/
structure Template.Draft (template : Template) : Prop where
  uncommitted : template.committed = false
  placement : template.placement.Known

/-- A subordinate in progress. -/
structure Subordinate.Draft [CharacterNames] (subordinate : Subordinate) : Prop where
  uncommitted : subordinate.committed = false
  types : ∀ types, subordinate.kind = .instantiation (some types) → types ≠ []
  rules : ∀ rule ∈ subordinate.rules, rule.Sound

theorem Template.draft_start (name : Text) : (Template.start name).Draft :=
  ⟨rfl, fun _ same => nomatch same⟩

theorem Subordinate.draft_instantiation [CharacterNames] (id : Text) :
    (Subordinate.instantiation id).Draft :=
  ⟨rfl, fun _ same => (nomatch same), fun _ member => (nomatch member)⟩

theorem Subordinate.draft_derivation [CharacterNames] (id : Text) :
    (Subordinate.derivation id).Draft :=
  ⟨rfl, fun _ same => (nomatch same), fun _ member => (nomatch member)⟩

/-- A change that keeps a declaration in progress what it should be. -/
def Change.Sound [CharacterNames] : Change → Prop
  | .placement value => value.Known
  | .types value => ∀ list, value = some list → list ≠ []
  | .rule value => value.Sound
  | _ => True

theorem Template.Draft.changed [CharacterNames] {template changed : Template} {change : Change}
    (draft : template.Draft) (sound : change.Sound) (same : template.changed? change = some changed) :
    changed.Draft := by
  cases change with
  | placement placement =>
    cases same
    exact ⟨draft.uncommitted, sound⟩
  | parameters _ | markers _ | imports _ | sigil _ =>
    cases same
    exact ⟨draft.uncommitted, draft.placement⟩
  | types _ | target _ | rule _ => cases same

theorem Subordinate.Draft.changed [CharacterNames] {subordinate changed : Subordinate}
    {change : Change} (draft : subordinate.Draft) (sound : change.Sound)
    (same : subordinate.changed? change = some changed) :
    changed.Draft ∧ changed.id = subordinate.id := by
  cases change with
  | types value =>
    rw [Subordinate.changed?] at same
    split at same
    · cases same
      refine ⟨⟨draft.uncommitted, fun types equal => ?_, draft.rules⟩, rfl⟩
      injection equal with equal
      exact sound types equal
    · cases same
  | target value =>
    cases same
    exact ⟨⟨draft.uncommitted, draft.types, draft.rules⟩, rfl⟩
  | rule rule =>
    cases same
    refine ⟨⟨draft.uncommitted, draft.types, fun other member => ?_⟩, rfl⟩
    rcases List.mem_append.mp member with earlier | last
    · exact draft.rules other earlier
    · rw [List.mem_singleton.mp last]
      exact sound
  | parameters _ | placement _ | markers _ | imports _ | sigil _ => cases same

/-! ### Declarations in progress -/

/-- The names of the templates of a store. -/
def Store.names (store : Store) : List Text := store.map fun entry => entry.template.name

/-- A declaration in progress while rules are read into a store that was `start` before: it is a
draft, it is not in the store yet, and a subordinate stands beneath a template that is new. -/
inductive Active.Sound [CharacterNames] (start store : Store) : Active → Prop
  | template {declared : Template} {line : Nat} (draft : declared.Draft)
      (fresh : declared.name ∉ store.names) : Sound start store (.template declared line)
  | subordinate {owner : Text} {declared : Subordinate} (draft : declared.Draft)
      (fresh : declared.id ∉ store.ids) (owned : owner ∈ store.names)
      (new : owner ∉ start.names) : Sound start store (.subordinate owner declared)

/-- The name of a template in progress. -/
def Active.templateName? : Active → Option Text
  | .template declared _ => some declared.name
  | .subordinate _ _ => none

theorem Template.name_changed {template changed : Template} {change : Change}
    (same : template.changed? change = some changed) : changed.name = template.name := by
  cases change <;> cases same <;> rfl

/-- The name of a template in progress and the line on which it was opened. -/
def Active.heading? : Active → Option (Text × Nat)
  | .template declared line => some (declared.name, line)
  | .subordinate _ _ => none

theorem Active.templateName?_eq (active : Active) :
    active.templateName? = active.heading?.map Prod.fst := by
  cases active <;> rfl

/-- A change leaves the name of a template and its line. -/
theorem Active.heading?_change (active : Active) (change : Change) :
    (active.change change).heading? = active.heading? := by
  cases active with
  | template declared line =>
    rw [Active.change, Active.declaration, Declaration.change, Declaration.changed?]
    cases same : declared.changed? change with
    | none => rfl
    | some changed =>
      simp only [Option.map_some]
      split
      · next declaration outcome =>
        split at outcome
        · cases outcome
        · cases outcome
          exact congrArg (fun name => some (name, line)) (Template.name_changed same)
      · rfl
  | subordinate owner declared =>
    rw [Active.change, Active.declaration, Declaration.change, Declaration.changed?]
    cases declared.changed? change with
    | none => rfl
    | some changed =>
      simp only [Option.map_some]
      split
      · next declaration outcome =>
        split at outcome
        · cases outcome
        · cases outcome
          rfl
      · rfl

theorem Active.Sound.change [CharacterNames] {start store : Store} {active : Active}
    {change : Change} (sound : active.Sound start store) (good : change.Sound) :
    (active.change change).Sound start store := by
  cases sound with
  | @template declared line draft fresh =>
    rw [Active.change, Active.declaration, Declaration.change, Declaration.changed?]
    cases same : declared.changed? change with
    | none => exact .template draft fresh
    | some changed =>
      simp only [Option.map_some, Declaration.committed, draft.uncommitted, Bool.false_eq_true,
        if_false, Active.withDeclaration]
      exact .template (draft.changed good same) (Template.name_changed same ▸ fresh)
  | @subordinate owner declared draft fresh owned new =>
    rw [Active.change, Active.declaration, Declaration.change, Declaration.changed?]
    cases same : declared.changed? change with
    | none => exact .subordinate draft fresh owned new
    | some changed =>
      obtain ⟨still, id⟩ := draft.changed good same
      simp only [Option.map_some, Declaration.committed, draft.uncommitted, Bool.false_eq_true,
        if_false, Active.withDeclaration]
      exact .subordinate still (id ▸ fresh) owned new

/-! ### Staging -/

theorem collect_ne_nil {items : List (Spanned TypeItem)} {types : List Text} (nonempty : items ≠ [])
    (collected : TypeItem.collect items = .ok types) : types ≠ [] := by
  cases items with
  | nil => exact absurd rfl nonempty
  | cons first items =>
    obtain ⟨start, stop, item⟩ := first
    cases item with
    | blank text => cases collected
    | invalid text => cases collected
    | doubleQuoted type | singleQuoted type | bare type =>
      simp only [TypeItem.collect] at collected
      split at collected
      · cases collected
        exact List.cons_ne_nil _ _
      · cases collected

/-- A value that is read as types has at least one. -/
theorem typesOfValue_ne_nil {value : Text} {types : List Text}
    (read : typesOfValue value = .ok types) : types ≠ [] := by
  refine collect_ne_nil ?_ read
  rw [TypeItem.ofValue_eq]
  split
  · exact List.cons_ne_nil _ _
  · next inked =>
    rw [itemsFrom_of_ink _ _ _ (mt Text.dropBlanks_eq_nil_iff.mp inked)]
    exact List.cons_ne_nil _ _

theorem placementOfValue_known {value : Text} {placement : Placement}
    (read : placementOfValue value = .ok placement) : placement.Known := by
  rw [placementOfValue] at read
  split at read
  · cases read
  · next known =>
    cases read
    intro word same
    exact known word same

namespace Reading

theorem eq_ok_of_specified {Result : Type} {setting : Attribute} {read : Except Text Result}
    {result : Result} (same : specified setting read = .ok result) : read = .ok result := by
  cases read <;> cases same
  rfl

theorem eq_ok_of_valued {Result : Type} {setting : Attribute} {read : Except Text Result}
    {result : Result} (same : valued setting read = .ok result) : read = .ok result := by
  cases read <;> cases same
  rfl

/-- What an attribute changes keeps a declaration in progress what it should be. -/
theorem attributeChange_sound [CharacterNames] {declaration : Declaration} {setting : Attribute}
    {value : Text} {change : Change}
    (read : attributeChange declaration setting value = .ok (some change)) :
    change.Sound := by
  cases setting with
  | parameters | directives | imports | sigil =>
    obtain ⟨_, _, same⟩ := exists_ok_of_map read
    cases same
    trivial
  | placement =>
    obtain ⟨placement, known, same⟩ := exists_ok_of_map read
    cases same
    exact placementOfValue_known (eq_ok_of_valued known)
  | types =>
    obtain ⟨types, listed, same⟩ := exists_ok_of_map read
    cases same
    rintro list ⟨⟩
    exact typesOfValue_ne_nil (eq_ok_of_specified listed)
  | name =>
    rw [attributeChange] at read
    split at read
    · cases read
    · cases read
      trivial
    · split at read <;> cases read

theorem checkRule_readable [CharacterNames] {first next : Nat} {rule : Rule}
    (checked : checkRule first next rule = .ok ()) (isRegex : rule.isRegex = true) :
    ∃ pattern substitute, Pattern.ofText rule.pattern = .ok pattern ∧
      Substitute.ofText pattern rule.substitute = .ok substitute := by
  have refused (cause : Fault → RulesCause) (found : Refusal) :
      (refusal first next cause found : Except Stop Unit) ≠ .ok () := by
    cases found <;> exact fun same => nomatch same
  rw [checkRule, if_pos isRegex] at checked
  split at checked
  · exact absurd checked (refused _ _)
  · next pattern patternRead =>
    split at checked
    · exact absurd checked (refused _ _)
    · next substitute substituteRead => exact ⟨pattern, substitute, patternRead, substituteRead⟩

/-- A rule that is read from a substitution can be applied. -/
theorem ruleOf_sound [CharacterNames] {first next : Nat} {text : Text} {rule : Rule}
    (read : ruleOf first next text = .ok rule) : rule.Sound := by
  rw [ruleOf] at read
  split at read
  · cases read
  · dsimp only at read
    split at read
    · cases read
    · next nonempty =>
      split at read
      · next checked =>
        cases read
        exact ⟨fun same => nonempty (List.isEmpty_iff.mpr same), checkRule_readable checked⟩
      · cases read

theorem staged_heading? [CharacterNames] {active result : Active} {pending : Pending} {next : Nat}
    (same : staged active pending next = .ok result) : result.heading? = active.heading? := by
  unfold staged at same
  split at same
  · split at same <;> cases same
    · rfl
    · exact active.heading?_change _
  · split at same
    · cases same
    · split at same <;> cases same
      exact Active.heading?_change _ _

theorem staged_sound [CharacterNames] {start store : Store} {active result : Active}
    {pending : Pending} {next : Nat} (sound : active.Sound start store)
    (same : staged active pending next = .ok result) :
    result.Sound start store := by
  unfold staged at same
  split at same
  · split at same
    · cases same
    · cases same
      exact sound
    · next change read =>
      cases same
      exact sound.change (attributeChange_sound read)
  · split at same
    · cases same
    · split at same
      · next rule read =>
        cases same
        exact sound.change (ruleOf_sound read)
      · cases same

end Reading

/-! ### The store -/

/-- A store in which names and ids are unique and every declaration can be expanded. -/
structure Store.Sound [CharacterNames] (store : Store) : Prop where
  names : store.names.Nodup
  ids : store.ids.Nodup
  templates : ∀ entry ∈ store, entry.template.Sound
  subordinates : ∀ entry ∈ store, ∀ subordinate ∈ entry.subordinates, subordinate.Sound

namespace Store

theorem sound_nil [CharacterNames] : Sound [] :=
  ⟨List.nodup_nil, List.nodup_nil, fun _ member => (nomatch member),
    fun _ member => (nomatch member)⟩

theorem exists_entry_iff (store : Store) (name : Text) :
    (∃ entry, store.entry? name = some entry) ↔ name ∈ store.names := by
  rw [← Option.isSome_iff_exists]
  unfold entry? names
  simp only [List.find?_isSome, beq_iff_eq, List.mem_map]

/-- Where names are given once, an entry is the one found under its name. -/
theorem entry_of_mem {store : Store} (distinct : store.names.Nodup) {entry : StoreEntry}
    (member : entry ∈ store) : store.entry? entry.template.name = some entry := by
  induction store with
  | nil => cases member
  | cons first store inductionHypothesis =>
    obtain ⟨notLater, distinct⟩ := List.nodup_cons.mp distinct
    unfold entry?
    rw [List.find?_cons]
    rcases List.mem_cons.mp member with rfl | later
    · rw [beq_self_eq_true]
    · have apart : first.template.name ≠ entry.template.name := fun same =>
        notLater (List.mem_map.mpr ⟨entry, later, same.symm⟩)
      rw [beq_eq_false_iff_ne.mpr apart]
      exact inductionHypothesis distinct later

theorem names_addTemplate (store : Store) (template : Template) (line : Nat) :
    (store.addTemplate template line).names = store.names ++ [template.name] :=
  List.map_append

theorem ids_addTemplate (store : Store) (template : Template) (line : Nat) :
    (store.addTemplate template line).ids = store.ids := by
  rw [ids, addTemplate, List.flatMap_append]
  exact List.append_nil _

theorem addSubordinate_cons (entry : StoreEntry) (store : Store) (owner : Text)
    (subordinate : Subordinate) :
    Store.addSubordinate (entry :: store) owner subordinate =
      (if entry.template.name == owner then
        { entry with subordinates := entry.subordinates ++ [subordinate] }
      else entry) :: store.addSubordinate owner subordinate := rfl

theorem names_addSubordinate (store : Store) (owner : Text) (subordinate : Subordinate) :
    (store.addSubordinate owner subordinate).names = store.names := by
  rw [names, addSubordinate, List.map_map]
  refine List.map_congr_left fun entry _ => ?_
  simp only [Function.comp_apply]
  split <;> rfl

/-- Without the template nothing is added. -/
theorem addSubordinate_of_not_mem (store : Store) (owner : Text) (subordinate : Subordinate)
    (absent : owner ∉ store.names) : store.addSubordinate owner subordinate = store := by
  induction store with
  | nil => rfl
  | cons entry store inductionHypothesis =>
    obtain ⟨other, absent⟩ := not_or.mp fun either => absent (List.mem_cons.mpr either)
    rw [addSubordinate_cons, beq_eq_false_iff_ne.mpr (Ne.symm other), inductionHypothesis absent]
    rfl

/-- With it, the id of the subordinate is added to the ids. -/
theorem ids_addSubordinate (store : Store) (owner : Text) (subordinate : Subordinate)
    (distinct : store.names.Nodup) (owned : owner ∈ store.names) :
    (store.addSubordinate owner subordinate).ids.Perm (subordinate.id :: store.ids) := by
  induction store with
  | nil => cases owned
  | cons entry store inductionHypothesis =>
    obtain ⟨notLater, distinct⟩ := List.nodup_cons.mp distinct
    rw [addSubordinate_cons, ids, ids, List.flatMap_cons, List.flatMap_cons]
    by_cases here : entry.template.name = owner
    · have rest := addSubordinate_of_not_mem store owner subordinate (here ▸ notLater)
      rw [here, beq_self_eq_true, if_pos rfl, rest, List.map_append, List.append_assoc]
      exact List.perm_middle
    · have later : owner ∈ Store.names store :=
        (List.mem_cons.mp owned).resolve_left fun same => here same.symm
      rw [beq_eq_false_iff_ne.mpr here, if_neg Bool.false_ne_true]
      exact ((inductionHypothesis distinct later).append_left _).trans List.perm_middle

theorem Sound.addTemplate [CharacterNames] {store : Store} (sound : store.Sound)
    {template : Template} {line : Nat} (good : template.Sound)
    (fresh : template.name ∉ store.names) :
    (store.addTemplate template line).Sound where
  names := by
    rw [names_addTemplate, List.nodup_append]
    refine ⟨sound.names, by simp, ?_⟩
    intro name member other isLast
    rw [List.mem_singleton.mp isLast]
    exact fun same => fresh (same ▸ member)
  ids := by
    rw [ids_addTemplate]
    exact sound.ids
  templates entry member := by
    rcases List.mem_append.mp member with earlier | last
    · exact sound.templates entry earlier
    · rw [List.mem_singleton.mp last]
      exact good
  subordinates entry member := by
    rcases List.mem_append.mp member with earlier | last
    · exact sound.subordinates entry earlier
    · rw [List.mem_singleton.mp last]
      exact fun _ none => (nomatch none)

theorem Sound.addSubordinate [CharacterNames] {store : Store} (sound : store.Sound) {owner : Text}
    {subordinate : Subordinate} (good : subordinate.Sound) (fresh : subordinate.id ∉ store.ids)
    (owned : owner ∈ store.names) : (store.addSubordinate owner subordinate).Sound where
  names := by
    rw [names_addSubordinate]
    exact sound.names
  ids := by
    rw [(ids_addSubordinate store owner subordinate sound.names owned).nodup_iff, List.nodup_cons]
    exact ⟨fresh, sound.ids⟩
  templates entry member := by
    obtain ⟨before, inside, rfl⟩ := List.mem_map.mp member
    split <;> exact sound.templates before inside
  subordinates entry member := by
    obtain ⟨before, inside, rfl⟩ := List.mem_map.mp member
    split
    · intro other added
      rcases List.mem_append.mp added with earlier | last
      · exact sound.subordinates before inside other earlier
      · rw [List.mem_singleton.mp last]
        exact good
    · exact sound.subordinates before inside

/-- Adding beneath a template that is new leaves what was there before. -/
theorem prefix_addSubordinate {start store : Store} (kept : start <+: store) (owner : Text)
    (subordinate : Subordinate) (new : owner ∉ start.names) :
    start <+: store.addSubordinate owner subordinate := by
  obtain ⟨rest, rfl⟩ := kept
  have parts : Store.addSubordinate (start ++ rest) owner subordinate =
      start.addSubordinate owner subordinate ++ Store.addSubordinate rest owner subordinate :=
    List.map_append
  rw [parts, addSubordinate_of_not_mem start owner subordinate new]
  exact List.prefix_append _ _

end Store

/-! ### Committing -/

theorem Template.Draft.commit {template : Template} (draft : template.Draft) :
    Template.Sound { template with committed := true } :=
  ⟨rfl, draft.placement⟩

/-- A subordinate that misses nothing is sound once it is committed. -/
theorem Subordinate.Draft.commit [CharacterNames] {subordinate : Subordinate}
    (draft : subordinate.Draft) (complete : (Declaration.subordinate subordinate).missing? = none) :
    Subordinate.Sound { subordinate with committed := true } := by
  rw [Declaration.missing?] at complete
  refine ⟨rfl, fun value kind => ?_, fun kind => ?_, draft.rules⟩
  · cases value with
    | none => simp [show subordinate.kind = _ from kind] at complete
    | some types => exact ⟨types, rfl, draft.types types kind⟩
  · cases target : subordinate.target with
    | none => simp [show subordinate.kind = _ from kind, target] at complete
    | some name => exact ⟨name, rfl⟩

namespace Reading

/-- Where reading stands in rules that are read into the store `start`. -/
structure Sound [CharacterNames] (start : Store) (reading : Reading) : Prop where
  store : reading.store.Sound
  kept : start <+: reading.store
  /-- The closest template is new, and it is in the store unless it is the one in progress. -/
  template : ∀ name, reading.template = some name → name ∉ start.names ∧
    (name ∈ reading.store.names ∨
      ∃ active, reading.active = some active ∧ active.templateName? = some name)
  active : ∀ active, reading.active = some active → active.Sound start reading.store

/-- What committing a declaration does to the store. -/
theorem committed_eq_ok {store after : Store} {active : Active} {next : Nat}
    (same : committed store active next = .ok after) :
    (∃ template line, active = .template template line ∧
      after = store.addTemplate { template with committed := true } line) ∨
    (∃ owner subordinate, active = .subordinate owner subordinate ∧
      (Declaration.subordinate subordinate).missing? = none ∧
      after = store.addSubordinate owner { subordinate with committed := true }) := by
  cases active with
  | template template line =>
    cases same
    exact Or.inl ⟨template, line, rfl, rfl⟩
  | subordinate owner subordinate =>
    rw [committed, Active.declaration, Declaration.commit] at same
    cases missing : (Declaration.subordinate subordinate).missing? with
    | some setting =>
      rw [missing] at same
      cases same
    | none =>
      rw [missing] at same
      cases same
      exact Or.inr ⟨owner, subordinate, rfl, missing, rfl⟩

/-- Staging changes nothing but the declaration in progress. -/
theorem stage_eq_ok [CharacterNames] {reading result : Reading} {next : Nat}
    (same : reading.stage next = .ok result) :
    result = reading ∨ ∃ active pending after, reading.active = some active ∧
      staged active pending next = .ok after ∧
      result = { reading with active := some after, pending := none } := by
  rw [Reading.stage] at same
  split at same
  · next active pending isActive isPending =>
    split at same
    · next after staging =>
      cases same
      exact Or.inr ⟨active, pending, after, isActive, staging, rfl⟩
    · cases same
  · cases same
    exact Or.inl rfl

theorem Sound.stage [CharacterNames] {start : Store} {reading result : Reading} {next : Nat}
    (sound : reading.Sound start) (same : reading.stage next = .ok result) :
    result.Sound start := by
  rcases stage_eq_ok same with rfl | ⟨active, pending, after, isActive, staging, rfl⟩
  · exact sound
  · refine ⟨sound.store, sound.kept, fun name named => ?_, ?_⟩
    · obtain ⟨new, present⟩ := sound.template name named
      refine ⟨new, present.imp_right ?_⟩
      rintro ⟨other, alsoActive, itsName⟩
      cases isActive.symm.trans alsoActive
      rw [active.templateName?_eq, ← staged_heading? staging, ← after.templateName?_eq] at itsName
      exact ⟨after, rfl, itsName⟩
    · rintro other ⟨⟩
      exact staged_sound (sound.active active isActive) staging

/-- Committing the declaration in progress keeps the invariant. -/
theorem Sound.commit [CharacterNames] {start after : Store} {reading : Reading} {active : Active}
    {next : Nat} (sound : reading.Sound start) (isActive : reading.active = some active)
    (commits : committed reading.store active next = .ok after) :
    Sound start { reading with store := after, active := none, pending := none } := by
  have progress := sound.active active isActive
  rcases committed_eq_ok commits with
    ⟨template, line, rfl, rfl⟩ | ⟨owner, subordinate, rfl, complete, rfl⟩
  · cases progress with
    | template draft fresh =>
      refine ⟨sound.store.addTemplate draft.commit fresh, sound.kept.trans (List.prefix_append _ _),
        fun name named => ?_, fun _ none => (nomatch none)⟩
      obtain ⟨new, present⟩ := sound.template name named
      refine ⟨new, Or.inl ?_⟩
      rw [Store.names_addTemplate]
      rcases present with stored | ⟨other, alsoActive, itsName⟩
      · exact List.mem_append_left _ stored
      · cases isActive.symm.trans alsoActive
        cases itsName
        exact List.mem_append_right _ List.mem_cons_self
  · cases progress with
    | subordinate draft fresh owned new =>
      refine ⟨sound.store.addSubordinate (draft.commit complete) fresh owned,
        Store.prefix_addSubordinate sound.kept _ _ new, fun name named => ?_,
        fun _ none => (nomatch none)⟩
      obtain ⟨newer, present⟩ := sound.template name named
      refine ⟨newer, Or.inl ?_⟩
      rw [Store.names_addSubordinate]
      rcases present with stored | ⟨other, alsoActive, itsName⟩
      · exact stored
      · cases isActive.symm.trans alsoActive
        cases itsName

/-- Concluding is staging and, if a declaration is in progress then, committing it. -/
theorem conclude_eq_ok [CharacterNames] {reading result : Reading} {next : Nat}
    (same : reading.conclude next = .ok result) :
    ∃ middle, reading.stage next = .ok middle ∧
      ((middle.active = none ∧ result = middle) ∨
        ∃ active after, middle.active = some active ∧
          committed middle.store active next = .ok after ∧
          result = { middle with store := after, active := none, pending := none }) := by
  rw [Reading.conclude] at same
  split at same
  · cases same
  · next middle staging =>
    refine ⟨middle, staging, ?_⟩
    split at same
    · next inactive =>
      cases same
      exact Or.inl ⟨inactive, rfl⟩
    · next active isActive =>
      split at same
      · next after commits =>
        cases same
        exact Or.inr ⟨active, after, isActive, commits, rfl⟩
      · cases same

/-- Concluding keeps the invariant, and no declaration is in progress afterwards. -/
theorem Sound.conclude [CharacterNames] {start : Store} {reading result : Reading} {next : Nat}
    (sound : reading.Sound start) (same : reading.conclude next = .ok result) :
    result.Sound start ∧ result.active = none := by
  obtain ⟨middle, staging, ⟨inactive, rfl⟩ | ⟨active, after, isActive, commits, rfl⟩⟩ :=
    conclude_eq_ok same
  · exact ⟨sound.stage staging, inactive⟩
  · exact ⟨(sound.stage staging).commit isActive commits, rfl⟩

/-! ### Reading line by line -/

theorem Sound.openTemplate [CharacterNames] {start : Store} {reading : Reading}
    (sound : reading.Sound start) {name : Text} (line : Nat) (fresh : name ∉ reading.store.names) :
    Sound start { reading with
      template := some name, active := some (.template (Template.start name) line) } := by
  have new : name ∉ start.names := fun member => fresh ((sound.kept.map _).subset member)
  refine ⟨sound.store, sound.kept, ?_, ?_⟩
  · rintro other ⟨⟩
    exact ⟨new, Or.inr ⟨_, rfl, rfl⟩⟩
  · rintro active ⟨⟩
    exact .template (Template.draft_start name) fresh

/-- The template that a subordinate is opened beneath is in the store already, since no declaration
is in progress. -/
theorem Sound.openSubordinate [CharacterNames] {start : Store} {reading : Reading}
    (sound : reading.Sound start) (inactive : reading.active = none) {owner : Text}
    (isTemplate : reading.template = some owner) {declared : Subordinate} (draft : declared.Draft)
    (fresh : declared.id ∉ reading.store.ids) :
    Sound start { reading with active := some (.subordinate owner declared) } := by
  obtain ⟨new, present⟩ := sound.template owner isTemplate
  have owned : owner ∈ reading.store.names := by
    rcases present with stored | ⟨active, isActive, -⟩
    · exact stored
    · cases inactive.symm.trans isActive
  refine ⟨sound.store, sound.kept, fun name named => ?_, ?_⟩
  · cases isTemplate.symm.trans named
    exact ⟨new, Or.inl owned⟩
  · rintro active ⟨⟩
    exact .subordinate draft fresh owned new

/-- A declaration that is opened is a template of a new name, or a subordinate with a new id beneath
the closest template. -/
theorem beginDeclaration_eq_ok [CharacterNames] {reading result : Reading} {number : Nat}
    {className : Text} {subject : Subject}
    (same : reading.beginDeclaration number className subject = .ok result) :
    (∃ name, subject = .name name ∧ name ∉ reading.store.names ∧
      result = { reading with
        template := some name, active := some (.template (Template.start name) number) }) ∨
    (∃ owner declared, reading.template = some owner ∧ declared.Draft ∧ declared.target = none ∧
      declared.id ∉ reading.store.ids ∧
      result = { reading with active := some (.subordinate owner declared) }) := by
  unfold Reading.beginDeclaration at same
  split at same
  · split at same
    · cases same
    · next name =>
      split at same
      · cases same
      · next undeclared =>
        cases same
        refine Or.inl ⟨name, rfl, fun member => undeclared ?_, rfl⟩
        exact Option.isSome_iff_exists.mpr ((Store.exists_entry_iff _ _).mpr member)
  · split at same
    · cases same
    · cases same
    · cases same
    · next begins id owner starts isTemplate =>
      split at same
      · cases same
      · next unused =>
        cases same
        obtain ⟨draft, unnamed, same⟩ :
            (begins id).Draft ∧ (begins id).target = none ∧ (begins id).id = id := by
          rw [Subordinate.start?] at starts
          split at starts
          · cases starts
            exact ⟨Subordinate.draft_instantiation id, rfl, rfl⟩
          · split at starts <;> cases starts
            exact ⟨Subordinate.draft_derivation id, rfl, rfl⟩
        refine Or.inr ⟨owner, begins id, isTemplate, draft, unnamed, fun member => unused ?_, rfl⟩
        rw [same] at member
        exact List.contains_iff_mem.mpr member

/-- Opening a declaration when none is in progress. -/
theorem Sound.beginDeclaration [CharacterNames] {start : Store} {reading result : Reading}
    {number : Nat} {className : Text} {subject : Subject} (sound : reading.Sound start)
    (inactive : reading.active = none)
    (same : reading.beginDeclaration number className subject = .ok result) :
    result.Sound start := by
  rcases beginDeclaration_eq_ok same with
    ⟨name, -, fresh, rfl⟩ | ⟨owner, declared, isTemplate, draft, -, fresh, rfl⟩
  · exact sound.openTemplate number fresh
  · exact sound.openSubordinate inactive isTemplate draft fresh

/-- The beginning and the continuation of an attribute or a substitution only change what is
pending. -/
def PendsOnly (reading result : Reading) : Prop :=
  ∃ pending, result = { reading with pending := pending }

theorem pendsOnly_of_beginAttribute {reading result : Reading} {number : Nat} {word value : Text}
    (same : reading.beginAttribute number word value = .ok result) :
    reading.PendsOnly result := by
  unfold Reading.beginAttribute at same
  split at same
  · cases same
  · split at same <;> cases same
    exact ⟨_, rfl⟩

theorem pendsOnly_of_beginSubstitution {reading result : Reading} {number : Nat} {text : Text}
    (same : reading.beginSubstitution number text = .ok result) : reading.PendsOnly result := by
  unfold Reading.beginSubstitution at same
  split at same <;> cases same
  exact ⟨_, rfl⟩

theorem pendsOnly_of_resume {reading result : Reading} {number : Nat} {text : Text}
    (same : reading.resume number text = .ok result) : reading.PendsOnly result := by
  unfold Reading.resume at same
  split at same <;> cases same <;> exact ⟨_, rfl⟩

theorem Sound.pend [CharacterNames] {start : Store} {reading result : Reading}
    (sound : reading.Sound start) (pends : reading.PendsOnly result) : result.Sound start := by
  obtain ⟨pending, rfl⟩ := pends
  exact ⟨sound.store, sound.kept, sound.template, sound.active⟩

section

variable {holds : Reading → Prop}

theorem holds_orStay {reading : Reading} (here : holds reading) {next : Except Stop Reading}
    (goesOn : ∀ result, next = .ok result → holds result) : holds (reading.orStay next).1 := by
  cases next with
  | ok result => exact goesOn result rfl
  | error stop => exact here

theorem holds_andThen {taken : Reading × Option Stop} (here : holds taken.1)
    {next : Reading → Except Stop Reading}
    (goesOn : taken.2 = none → ∀ result, next taken.1 = .ok result → holds result) :
    holds (Reading.andThen taken next).1 := by
  obtain ⟨reading, stop?⟩ := taken
  cases stop? with
  | none => exact holds_orStay here (goesOn rfl)
  | some stop => exact here

/-- What every line keeps is kept by all lines, whether they are read to their end or not. -/
theorem holds_lines [CharacterNames]
    (step : ∀ reading number line, holds reading → holds (reading.step number (Line.ofText line)).1)
    {reading : Reading} (here : holds reading) (number : Nat) (list : List Text) :
    holds (reading.lines number list).1.1 := by
  induction list generalizing reading number with
  | nil => exact here
  | cons line list inductionHypothesis =>
    have kept := step reading number line here
    rw [Reading.lines]
    split
    · next after stepped =>
      rw [stepped] at kept
      exact inductionHypothesis kept _
    · exact kept

end

/-- A step that did not stop. -/
theorem eq_ok_of_orStay {reading : Reading} {next : Except Stop Reading}
    (goesOn : (reading.orStay next).2 = none) : next = .ok (reading.orStay next).1 := by
  cases next with
  | ok result => rfl
  | error stop => cases goesOn

/-- Every line keeps the invariant, whether reading goes on behind it or not. -/
theorem Sound.step [CharacterNames] {start : Store} {reading : Reading}
    (sound : reading.Sound start) (number : Nat) (line : Line) :
    (reading.step number line).1.Sound start := by
  have staged : (reading.orStay (reading.stage number)).1.Sound start :=
    holds_orStay sound fun _ same => sound.stage same
  cases line with
  | comment => exact sound
  | blank => exact holds_orStay sound fun _ same => (sound.conclude same).1
  | opening className subject =>
    refine holds_andThen (holds_orStay sound fun _ same => (sound.conclude same).1)
      fun goesOn _ same => ?_
    have concluded := sound.conclude (eq_ok_of_orStay goesOn)
    exact concluded.1.beginDeclaration concluded.2 same
  | «attribute» word value =>
    exact holds_andThen staged fun _ _ same => staged.pend (pendsOnly_of_beginAttribute same)
  | substitution text =>
    exact holds_andThen staged fun _ _ same => staged.pend (pendsOnly_of_beginSubstitution same)
  | continuation text =>
    exact holds_orStay sound fun _ same => sound.pend (pendsOnly_of_resume same)
  | other => exact sound

theorem Sound.start [CharacterNames] {store : Store} (sound : store.Sound) :
    Sound store ⟨store, none, none, none⟩ :=
  ⟨sound, List.prefix_refl _, fun _ none => (nomatch none), fun _ none => (nomatch none)⟩

theorem checkBarren_eq_ok {reading result : Reading} (same : reading.checkBarren = .ok result) :
    result = reading ∧ reading.store.barren? = none := by
  rw [checkBarren] at same
  split at same
  · cases same
  · next fruitful =>
    cases same
    exact ⟨rfl, fruitful⟩

/-- What lines and conclusions keep is kept by rules as a whole. -/
theorem holds_all [CharacterNames] {holds : Reading → Prop}
    (step : ∀ reading number line, holds reading → holds (reading.step number (Line.ofText line)).1)
    (concludes : ∀ reading result next,
      holds reading → reading.conclude next = .ok result → holds result)
    {store : Store} (start : holds ⟨store, none, none, none⟩) (text : Text) :
    holds (all store text).1 := by
  have read := holds_lines step start 1 text.lines
  rw [all]
  generalize lines _ 1 text.lines = taken at read ⊢
  obtain ⟨taken, number⟩ := taken
  have concluded : holds (andThen taken (conclude · number)).1 :=
    holds_andThen read fun _ _ same => concludes _ _ _ read same
  exact holds_andThen concluded fun _ _ same => (checkBarren_eq_ok same).1 ▸ concluded

theorem sound_all [CharacterNames] {store : Store} (sound : store.Sound) (text : Text) :
    (all store text).1.Sound store :=
  holds_all (fun _ number line here => here.step number (Line.ofText line))
    (fun _ _ _ here same => (here.conclude same).1) (Sound.start sound) text

/-- Rules that were read to their end leave no template without subordinates. -/
theorem barren?_all [CharacterNames] {store : Store} {text : Text}
    (goesOn : (all store text).2 = none) :
    (all store text).1.store.barren? = none := by
  have ofAndThen (taken : Reading × Option Stop) (goesOn : (andThen taken checkBarren).2 = none) :
      (andThen taken checkBarren).1.store.barren? = none := by
    obtain ⟨reading, stop?⟩ := taken
    cases stop? with
    | some stop => cases goesOn
    | none =>
      obtain ⟨unchanged, fruitful⟩ := checkBarren_eq_ok (eq_ok_of_orStay goesOn)
      exact (congrArg (fun after : Reading => after.store.barren?) unchanged).trans fruitful
  exact ofAndThen _ goesOn

end Reading

namespace Store

theorem world_readRules [CharacterNames] (store : Store) (file text : Text) :
    (store.readRules file text).world = (Reading.all store text).1.store := by
  rw [readRules]
  split <;> next same => rw [same]

/-- Reading rules into a store keeps the invariant of the store, however it ends. -/
theorem Sound.readRules [CharacterNames] {store : Store} (sound : store.Sound) (file text : Text) :
    (store.readRules file text).world.Sound := by
  rw [world_readRules]
  exact (Reading.sound_all sound text).store

/-- Reading rules only adds to a store, however it ends. -/
theorem Sound.prefix_readRules [CharacterNames] {store : Store} (sound : store.Sound)
    (file text : Text) :
    store <+: (store.readRules file text).world := by
  rw [world_readRules]
  exact (Reading.sound_all sound text).kept

/-- Once rules have been read to their end, there are subordinates beneath every template. -/
theorem subordinates_ne_nil_of_readRules [CharacterNames] {store : Store} {file text : Text}
    (isRead : (store.readRules file text).outcome = .ok ()) {entry : StoreEntry}
    (member : entry ∈ (store.readRules file text).world) : entry.subordinates ≠ [] := by
  have fruitful : (Reading.all store text).1.store.barren? = none := by
    apply Reading.barren?_all
    rw [Store.readRules] at isRead
    split at isRead
    · next same => rw [same]
    · cases isRead
    · cases isRead
  rw [world_readRules] at member
  have notBarren := List.find?_eq_none.mp fruitful entry member
  exact fun barren => notBarren (by rw [barren]; rfl)

end Store

end Stencil
