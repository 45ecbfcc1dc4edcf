/-
This file proves which names rules can give. A template is opened by a dotted name, and a target
that an attribute names is a simple name; nothing else that is staged, committed or opened touches
either of them. So whatever rules are read, each to its end or not, the store holds no other names.
-/
import Stencil.Proofs.StoreExpansion

namespace Stencil

/-! ### Opening lines -/

theorem head?_ne_dot_of_isDottedName {name : Text} (dotted : isDottedName name = true) :
    name.head? ≠ some '.' := by
  cases name with
  | nil => exact fun same => nomatch same
  | cons c rest =>
    rintro ⟨⟩
    rw [isDottedName, Text.splitAtAll, beq_self_eq_true, if_pos rfl, List.all_cons] at dotted
    exact absurd dotted (by simp [isSimpleName])

/-- A declaration that is opened by name is opened by a dotted one. -/
theorem Line.isDottedName_of_opening {line className name : Text}
    (read : Line.ofText line = .opening className (.name name)) : isDottedName name = true := by
  have ofSubject (text : Text) (subject : subject? text = some (.name name)) :
      isDottedName name = true := by
    unfold subject? at subject
    split at subject
    · split at subject <;> cases subject
    · split at subject
      · next dotted =>
        cases subject
        exact dotted
      · cases subject
  rw [Line.ofText] at read
  split at read
  · cases read
  · split at read
    · cases read
    · split at read
      · next opened =>
        cases read
        rw [opening?] at opened
        split at opened
        · cases opened
        · split at opened
          · split at opened
            · obtain ⟨subject, found, same⟩ := Option.map_eq_some_iff.mp opened
              cases same
              exact ofSubject _ found
            · cases opened
          · cases opened
      · split at read
        · cases read
        · split at read
          · cases read
          · split at read <;> cases read

/-! ### Declarations -/

/-- A template with a dotted name, or a subordinate whose target, if it is named, has a simple
name. -/
def Declaration.Named : Declaration → Prop
  | .template declared => isDottedName declared.name = true
  | .subordinate declared => ∀ target, declared.target = some target → isSimpleName target = true

/-- A change that sets no target but a simple name. -/
def Change.Named : Change → Prop
  | .target value => ∀ target, value = some target → isSimpleName target = true
  | _ => True

theorem Declaration.Named.changed {declaration changed : Declaration} {change : Change}
    (named : declaration.Named) (good : change.Named)
    (same : declaration.changed? change = some changed) : changed.Named := by
  cases declaration with
  | template declared =>
    obtain ⟨result, made, rfl⟩ := Option.map_eq_some_iff.mp same
    rw [Declaration.Named, Template.name_changed made]
    exact named
  | subordinate declared =>
    obtain ⟨result, made, rfl⟩ := Option.map_eq_some_iff.mp same
    cases change with
    | target value =>
      cases made
      exact good
    | types value =>
      rw [Subordinate.changed?] at made
      split at made <;> cases made
      exact named
    | rule rule =>
      cases made
      exact named
    | parameters _ | placement _ | markers _ | imports _ | sigil _ => cases made

theorem Active.named_withDeclaration {active : Active} {declaration : Declaration}
    (named : active.declaration.Named) (given : declaration.Named) :
    (active.withDeclaration declaration).declaration.Named := by
  cases active <;> cases declaration
  · exact given
  · exact named
  · exact named
  · exact given

theorem Active.named_change {active : Active} {change : Change}
    (named : active.declaration.Named) (good : change.Named) :
    (active.change change).declaration.Named := by
  rw [Active.change, Declaration.change]
  cases same : active.declaration.changed? change with
  | none => exact active.named_withDeclaration named named
  | some changed =>
    dsimp only
    by_cases committed : active.declaration.committed = true
    · rw [if_pos committed]
      exact named
    · rw [if_neg committed]
      exact Active.named_withDeclaration named (named.changed good same)

namespace Reading

theorem attributeChange_named {declaration : Declaration} {setting : Attribute} {value : Text}
    {change : Change} (read : attributeChange declaration setting value = .ok (some change)) :
    change.Named := by
  cases setting with
  | parameters | directives | imports | sigil | placement | types =>
    obtain ⟨_, _, same⟩ := exists_ok_of_map read
    cases same
    trivial
  | name =>
    rw [attributeChange] at read
    split at read
    · cases read
    · next target valued =>
      cases read
      have spelled := eq_ok_of_valued valued
      rw [targetOfValue] at spelled
      split at spelled
      · cases spelled
      · split at spelled
        · next simple =>
          cases spelled
          rintro _ ⟨⟩
          exact simple
        · cases spelled
    · split at read <;> cases read

theorem staged_named [CharacterNames] {active result : Active} {pending : Pending} {next : Nat}
    (named : active.declaration.Named) (same : staged active pending next = .ok result) :
    result.declaration.Named := by
  unfold staged at same
  split at same
  · split at same
    · cases same
    · cases same
      exact named
    · next change read =>
      cases same
      exact Active.named_change named (attributeChange_named read)
  · split at same
    · cases same
    · split at same
      · cases same
        exact Active.named_change named trivial
      · cases same

end Reading

/-! ### Reading -/

/-- Every template and every subordinate of a store is named. -/
def Store.Named (store : Store) : Prop :=
  ∀ entry ∈ store, (Declaration.template entry.template).Named ∧
    ∀ subordinate ∈ entry.subordinates, (Declaration.subordinate subordinate).Named

namespace Reading

/-- What has been read, and the declaration in progress, are named. -/
structure Named (reading : Reading) : Prop where
  store : reading.store.Named
  active : ∀ active, reading.active = some active → active.declaration.Named

namespace Named

variable {reading result : Reading}

theorem start {store : Store} (named : store.Named) : Named ⟨store, none, none, none⟩ :=
  ⟨named, fun _ none => (nomatch none)⟩

theorem stage [CharacterNames] (named : reading.Named) {next : Nat}
    (same : reading.stage next = .ok result) :
    result.Named := by
  rcases stage_eq_ok same with rfl | ⟨active, pending, after, isActive, staging, rfl⟩
  · exact named
  · refine ⟨named.store, ?_⟩
    rintro _ ⟨⟩
    exact staged_named (named.active active isActive) staging

theorem conclude [CharacterNames] (named : reading.Named) {next : Nat}
    (same : reading.conclude next = .ok result) : result.Named := by
  obtain ⟨middle, staging, ⟨-, rfl⟩ | ⟨active, after, isActive, commits, rfl⟩⟩ :=
    conclude_eq_ok same
  · exact named.stage staging
  · have named := named.stage staging
    have good := named.active active isActive
    refine ⟨fun entry member => ?_, fun _ none => (nomatch none)⟩
    rcases committed_eq_ok commits with
      ⟨template, line, rfl, rfl⟩ | ⟨owner, subordinate, rfl, -, rfl⟩
    · rcases List.mem_append.mp member with earlier | last
      · exact named.store entry earlier
      · rw [List.mem_singleton.mp last]
        exact ⟨good, fun _ none => (nomatch none)⟩
    · obtain ⟨before, known, rfl⟩ := List.mem_map.mp member
      obtain ⟨template, subordinates⟩ := named.store before known
      split
      · refine ⟨template, fun other beneath => ?_⟩
        rcases List.mem_append.mp beneath with earlier | last
        · exact subordinates other earlier
        · rw [List.mem_singleton.mp last]
          exact good
      · exact ⟨template, subordinates⟩

theorem beginDeclaration [CharacterNames] (named : reading.Named) {number : Nat} {className : Text}
    {subject : Subject} (dotted : ∀ name, subject = .name name → isDottedName name = true)
    (same : reading.beginDeclaration number className subject = .ok result) : result.Named := by
  rcases beginDeclaration_eq_ok same with
    ⟨name, isName, -, rfl⟩ | ⟨owner, declared, -, -, unnamed, -, rfl⟩
  · refine ⟨named.store, ?_⟩
    rintro _ ⟨⟩
    exact dotted name isName
  · refine ⟨named.store, ?_⟩
    rintro _ ⟨⟩ target given
    cases unnamed.symm.trans given

theorem pend (named : reading.Named) (pends : reading.PendsOnly result) : result.Named := by
  obtain ⟨pending, rfl⟩ := pends
  exact ⟨named.store, named.active⟩

theorem step [CharacterNames] (named : reading.Named) (number : Nat) (line : Text) :
    (reading.step number (Line.ofText line)).1.Named := by
  have staged : (reading.orStay (reading.stage number)).1.Named :=
    holds_orStay named fun _ same => named.stage same
  have concluded : (reading.orStay (reading.conclude number)).1.Named :=
    holds_orStay named fun _ same => named.conclude same
  cases read : Line.ofText line with
  | comment => exact named
  | blank => exact concluded
  | opening className subject =>
    refine holds_andThen concluded fun _ _ same => concluded.beginDeclaration ?_ same
    rintro name rfl
    exact Line.isDottedName_of_opening read
  | «attribute» word value =>
    exact holds_andThen staged fun _ _ same => staged.pend (pendsOnly_of_beginAttribute same)
  | substitution text =>
    exact holds_andThen staged fun _ _ same => staged.pend (pendsOnly_of_beginSubstitution same)
  | continuation text =>
    exact holds_orStay named fun _ same => named.pend (pendsOnly_of_resume same)
  | other => exact named

end Named

theorem named_all [CharacterNames] {store : Store} (named : store.Named) (text : Text) :
    (all store text).1.Named :=
  holds_all (fun _ number line here => here.step number line)
    (fun _ _ _ here same => here.conclude same) (Named.start named) text

end Reading

namespace Store

/-- Rules declare templates by dotted names and targets by simple ones. -/
theorem named_ofRules [CharacterNames] (calls : List (Text × Text)) : (ofRules calls).Named := by
  refine holds_ofRules (motive := Store.Named) (fun _ none => (nomatch none))
    (fun store file text named => ?_) calls
  rw [world_readRules]
  exact (Reading.named_all named text).store

theorem isDottedName_of_mem_names [CharacterNames] {calls : List (Text × Text)} {name : Text}
    (member : name ∈ (ofRules calls).names) : isDottedName name = true := by
  obtain ⟨entry, listed, rfl⟩ := List.mem_map.mp member
  exact (named_ofRules calls entry listed).1

end Store

end Stencil
