/-
This file proves that the tables of a ledger agree with each other. They are written at different
times, and a table that is asked for a name it does not have ends the work, so that it is the order
of the lines that has to keep every name in all tables or in none. A ledger is compared with a
store, which keeps in one place what the ledger keeps in four: every line does the same to both, and
no table is ever asked for what it does not have. So the ledger is as sound as the store, what is
declared in it can be expanded, and reading rules into it ends in no other way than it should.
-/
import Stencil.Rules.Ledger
import Stencil.Proofs.Batch
import Stencil.Proofs.RulesErrors

namespace Stencil

/-! ### Tables -/

section

variable {Value : Type} (table : List (Text × Value)) {key other : Text} (value : Value)

theorem lookup_putKey_self : (putKey table key value).lookup key = some value :=
  lookup_replaced_self table key value

theorem lookup_putKey_of_ne (different : other ≠ key) :
    (putKey table key value).lookup other = table.lookup other :=
  lookup_replaced_of_ne table value different

theorem keys_putKey :
    (putKey table key value).map Prod.fst = (table.map Prod.fst).filter (· != key) ++ [key] := by
  rw [putKey, List.map_append, List.filter_map]
  rfl

theorem keys_putKey_of_not_mem (absent : key ∉ table.map Prod.fst) :
    (putKey table key value).map Prod.fst = table.map Prod.fst ++ [key] := by
  have kept : (table.map Prod.fst).filter (· != key) = table.map Prod.fst := by
    refine List.filter_eq_self.mpr fun name member => bne_iff_ne.mpr ?_
    exact fun same => absent (same ▸ member)
  rw [keys_putKey, kept]

/-- A value that is replaced stays under its key, and no other key comes or goes. -/
theorem keys_putKey_of_mem (distinct : (table.map Prod.fst).Nodup)
    (present : key ∈ table.map Prod.fst) :
    ((putKey table key value).map Prod.fst).Perm (table.map Prod.fst) := by
  rw [keys_putKey, ← distinct.erase_eq_filter]
  exact List.perm_append_comm.trans (List.perm_cons_erase present).symm

variable {table value}

/-- Where no key is given twice, a table has what is found in it. -/
theorem mem_iff_lookup_eq_some (distinct : (table.map Prod.fst).Nodup) :
    (key, value) ∈ table ↔ table.lookup key = some value := by
  induction table with
  | nil => simp
  | cons entry table inductionHypothesis =>
    obtain ⟨first, held⟩ := entry
    obtain ⟨notLater, distinct⟩ := List.nodup_cons.mp distinct
    rw [List.mem_cons, Prod.mk.injEq, List.lookup_cons]
    rcases eq_or_ne key first with rfl | different
    · have absent : (key, value) ∉ table := fun member =>
        notLater (List.mem_map.mpr ⟨_, member, rfl⟩)
      simp only [absent, or_false, true_and, beq_self_eq_true, Option.some.injEq, eq_comm]
    · rw [beq_eq_false_iff_ne.mpr different, ← inductionHypothesis distinct]
      simp only [different, false_and, false_or]

end

/-! ### What the tables record -/

namespace Store

theorem entry?_addTemplate (store : Store) (template : Template) (line : Nat) (name : Text) :
    Store.entry? (store.addTemplate template line) name =
      (store.entry? name).or
        (if template.name == name then some ⟨template, line, []⟩ else none) := by
  unfold entry? addTemplate
  rw [List.find?_append, List.find?_singleton]

theorem entry?_addSubordinate (store : Store) (owner : Text) (subordinate : Subordinate)
    (name : Text) :
    Store.entry? (store.addSubordinate owner subordinate) name =
      (store.entry? name).map fun entry =>
        if entry.template.name == owner then
          { entry with subordinates := entry.subordinates ++ [subordinate] }
        else entry := by
  unfold entry? addSubordinate
  rw [List.find?_map]
  congr 2
  funext entry
  simp only [Function.comp_apply]
  split <;> rfl

theorem name_of_entry {store : Store} {name : Text} {entry : StoreEntry}
    (found : store.entry? name = some entry) : entry.template.name = name := by
  unfold entry? at found
  have named := List.find?_some found
  exact beq_iff_eq.mp named

end Store

namespace Ledger

/-- The tables of a ledger have what a store has. -/
structure Records (ledger : Ledger) (store : Store) : Prop where
  templates : ledger.templates = store.map StoreEntry.template
  names : (ledger.subordinates.map Prod.fst).Perm store.names
  subordinates : ∀ name,
    ledger.subordinates.lookup name = (store.entry? name).map StoreEntry.subordinates
  lines : ∀ entry ∈ store, ledger.lines.lookup entry.template.name = some entry.line
  ids : ledger.ids.Perm store.ids

variable {ledger : Ledger} {store : Store}

theorem records_empty : empty.Records [] where
  templates := rfl
  names := .nil
  subordinates _ := rfl
  lines _ member := by cases member
  ids := .nil

namespace Records

/-- A template of a new name, whose line has been recorded before. -/
theorem addTemplate (records : ledger.Records store) {template : Template} {line : Nat}
    (fresh : template.name ∉ store.names)
    (opened : ledger.lines.lookup template.name = some line) :
    (ledger.addTemplate template).Records (store.addTemplate template line) where
  templates := by
    rw [Store.addTemplate, List.map_append, ← records.templates]
    rfl
  names := by
    have absent : template.name ∉ ledger.subordinates.map Prod.fst :=
      mt records.names.mem_iff.mp fresh
    rw [Store.names_addTemplate, Ledger.addTemplate, keys_putKey_of_not_mem _ _ absent]
    exact records.names.append_right _
  subordinates name := by
    rw [Ledger.addTemplate, Store.entry?_addTemplate]
    by_cases same : name = template.name
    · have absent : store.entry? name = none := by
        rw [Option.eq_none_iff_forall_ne_some]
        intro entry found
        exact fresh (same ▸ (Store.exists_entry_iff store name).mp ⟨entry, found⟩)
      rw [absent, same, lookup_putKey_self, beq_self_eq_true]
      rfl
    · rw [lookup_putKey_of_ne _ _ same, records.subordinates, if_neg, Option.or_none]
      exact fun equal => same (beq_iff_eq.mp equal).symm
  lines entry member := by
    rcases List.mem_append.mp member with earlier | last
    · exact records.lines entry earlier
    · rw [List.mem_singleton.mp last]
      exact opened
  ids := by
    rw [Store.ids_addTemplate]
    exact records.ids

/-- A subordinate with a new id beneath a template that is there. -/
theorem addSubordinate (records : ledger.Records store) (distinct : store.names.Nodup)
    {owner : Text} {subordinate : Subordinate} (fresh : subordinate.id ∉ store.ids)
    (owned : owner ∈ store.names) :
    ∃ after, ledger.addSubordinate owner subordinate = (after, none) ∧
      after.Records (store.addSubordinate owner subordinate) := by
  obtain ⟨entry, found⟩ := (Store.exists_entry_iff store owner).mpr owned
  have earlier : getKey ledger.subordinates owner = .ok entry.subordinates := by
    rw [getKey, records.subordinates, found]
    rfl
  rw [Ledger.addSubordinate]
  simp only [earlier]
  refine ⟨_, rfl, ?_⟩
  constructor
  case templates =>
    rw [Store.addSubordinate, List.map_map, records.templates]
    refine List.map_congr_left fun entry _ => ?_
    simp only [Function.comp_apply]
    split <;> rfl
  case names =>
    rw [Store.names_addSubordinate]
    refine (keys_putKey_of_mem _ _ ?_ ?_).trans records.names
    · exact records.names.nodup_iff.mpr distinct
    · exact records.names.mem_iff.mpr owned
  case subordinates =>
    intro name
    rw [Store.entry?_addSubordinate]
    by_cases same : name = owner
    · rw [same, lookup_putKey_self, found, Option.map_some, Option.map_some,
        Store.name_of_entry found, beq_self_eq_true, if_pos rfl]
    · rw [lookup_putKey_of_ne _ _ same, records.subordinates, Option.map_map]
      refine Option.map_congr fun entry found => ?_
      have apart : entry.template.name ≠ owner := fun equal =>
        same ((Store.name_of_entry found).symm.trans equal)
      rw [Function.comp_apply, beq_eq_false_iff_ne.mpr apart, if_neg Bool.false_ne_true]
  case lines =>
    intro entry member
    obtain ⟨before, inside, rfl⟩ := List.mem_map.mp member
    split <;> exact records.lines before inside
  case ids =>
    have unused : subordinate.id ∉ ledger.ids := mt records.ids.mem_iff.mp fresh
    rw [List.insert_of_not_mem unused]
    exact (records.ids.cons _).trans
      (Store.ids_addSubordinate store owner subordinate distinct owned).symm

/-- The subordinates of an entry are under the name of its template. -/
theorem lookup_of_mem (records : ledger.Records store) (distinct : store.names.Nodup)
    {entry : StoreEntry} (member : entry ∈ store) :
    ledger.subordinates.lookup entry.template.name = some entry.subordinates := by
  rw [records.subordinates, Store.entry_of_mem distinct member]
  rfl

theorem getKey_of_mem (records : ledger.Records store) (distinct : store.names.Nodup)
    {entry : StoreEntry} (member : entry ∈ store) :
    getKey ledger.subordinates entry.template.name = .ok entry.subordinates := by
  rw [getKey, records.lookup_of_mem distinct member]

/-- Where names are given once, the table of the subordinates has them and nothing else. -/
theorem subordinates_perm (records : ledger.Records store) (distinct : store.names.Nodup) :
    ledger.subordinates.Perm
      (store.map fun entry => (entry.template.name, entry.subordinates)) := by
  have keys : (ledger.subordinates.map Prod.fst).Nodup := records.names.nodup_iff.mpr distinct
  have names : ((store.map fun entry => (entry.template.name, entry.subordinates)).map
      Prod.fst).Nodup := by
    rw [List.map_map]
    exact distinct
  refine (List.perm_ext_iff_of_nodup keys.of_map names.of_map).mpr ?_
  rintro ⟨name, list⟩
  rw [mem_iff_lookup_eq_some keys, records.subordinates, Option.map_eq_some_iff, List.mem_map]
  constructor
  · rintro ⟨entry, found, rfl⟩
    have named := Store.name_of_entry found
    unfold Store.entry? at found
    exact ⟨entry, List.mem_of_find?_eq_some found, by rw [named]⟩
  · rintro ⟨entry, member, same⟩
    cases same
    exact ⟨entry, Store.entry_of_mem distinct member, rfl⟩

/-- A line that is recorded for a new name. -/
theorem putLine (records : ledger.Records store) {name : Text} (fresh : name ∉ store.names)
    (line : Nat) : Records { ledger with lines := putKey ledger.lines name line } store where
  templates := records.templates
  names := records.names
  subordinates := records.subordinates
  lines entry member := by
    rw [lookup_putKey_of_ne]
    · exact records.lines entry member
    · exact fun same => fresh (same ▸ List.mem_map.mpr ⟨entry, member, rfl⟩)
  ids := records.ids

end Records

end Ledger

/-! ### Reading with tables -/

namespace Reading

/-- The same place in reading, with a ledger for a store. -/
def withLedger (reading : Reading) (ledger : Ledger) : Reading Ledger :=
  ⟨ledger, reading.template, reading.active, reading.pending⟩

theorem stage_withLedger [CharacterNames] (reading : Reading) (ledger : Ledger) (next : Nat) :
    (reading.withLedger ledger).stage next = (reading.stage next).map (·.withLedger ledger) := by
  obtain ⟨store, template, active, pending⟩ := reading
  cases active with
  | none => rfl
  | some active =>
    cases pending with
    | none => rfl
    | some pending =>
      unfold stage withLedger
      dsimp only
      cases staged active pending next <;> rfl

theorem beginAttribute_withLedger (reading : Reading) (ledger : Ledger) (number : Nat)
    (word value : Text) :
    (reading.withLedger ledger).beginAttribute number word value =
      (reading.beginAttribute number word value).map (·.withLedger ledger) := by
  obtain ⟨store, template, active, pending⟩ := reading
  cases active with
  | none => rfl
  | some active =>
    unfold beginAttribute withLedger
    dsimp only
    cases active.declaration.attribute? word <;> rfl

theorem beginSubstitution_withLedger (reading : Reading) (ledger : Ledger) (number : Nat)
    (text : Text) :
    (reading.withLedger ledger).beginSubstitution number text =
      (reading.beginSubstitution number text).map (·.withLedger ledger) := by
  obtain ⟨store, template, active, pending⟩ := reading
  cases active <;> rfl

theorem resume_withLedger (reading : Reading) (ledger : Ledger) (number : Nat) (text : Text) :
    (reading.withLedger ledger).resume number text =
      (reading.resume number text).map (·.withLedger ledger) := by
  obtain ⟨store, template, active, pending⟩ := reading
  cases pending with
  | none => rfl
  | some pending => cases pending <;> rfl

end Reading

namespace Ledger

/-- A ledger that goes with a place in reading: it records what has been committed and, beside that,
the line of a template that is in progress. -/
structure Follows (ledger : Ledger) (reading : Reading) : Prop where
  records : ledger.Records reading.store
  line : ∀ active name line, reading.active = some active →
    active.heading? = some (name, line) → ledger.lines.lookup name = some line

/-- A step with tables and one without that come to the same place, where both stop, for the same
reason, or neither does. -/
def Mirrors (taken : Reading Ledger × Option Stop) (plain : Reading × Option Stop) : Prop :=
  ∃ ledger : Ledger, ledger.Follows plain.1 ∧ taken = (plain.1.withLedger ledger, plain.2)

/-- Likewise for a step that leads nowhere if it stops. -/
def Agrees (next : Except Stop (Reading Ledger)) (plain : Except Stop Reading) : Prop :=
  ∃ ledger : Ledger, (∀ result, plain = .ok result → ledger.Follows result) ∧
    next = plain.map (·.withLedger ledger)

variable {start : Store} {reading result : Reading} {ledger : Ledger}

theorem Follows.stage [CharacterNames] {next : Nat} (follows : ledger.Follows reading)
    (staging : reading.stage next = .ok result) : ledger.Follows result := by
  rcases Reading.stage_eq_ok staging with rfl | ⟨active, pending, after, isActive, isStaged, rfl⟩
  · exact follows
  · refine ⟨follows.records, ?_⟩
    rintro _ name line ⟨⟩ heading
    rw [Reading.staged_heading? isStaged] at heading
    exact follows.line active name line isActive heading

theorem Follows.pend (follows : ledger.Follows reading) (pends : reading.PendsOnly result) :
    ledger.Follows result := by
  obtain ⟨pending, rfl⟩ := pends
  exact ⟨follows.records, follows.line⟩

theorem Follows.orStay (follows : ledger.Follows reading) {next : Except Stop (Reading Ledger)}
    {plain : Except Stop Reading} (agrees : Agrees next plain) :
    Mirrors ((reading.withLedger ledger).orStay next) (reading.orStay plain) := by
  obtain ⟨after, follow, rfl⟩ := agrees
  cases plain with
  | ok result => exact ⟨after, follow result rfl, rfl⟩
  | error stop => exact ⟨ledger, follows, rfl⟩

theorem Mirrors.andThen {taken : Reading Ledger × Option Stop} {plain : Reading × Option Stop}
    (mirrors : Mirrors taken plain) {next : Reading Ledger → Except Stop (Reading Ledger)}
    {plainNext : Reading → Except Stop Reading}
    (agrees : ∀ ledger : Ledger, plain.2 = none → ledger.Follows plain.1 →
      Agrees (next (plain.1.withLedger ledger)) (plainNext plain.1)) :
    Mirrors (Reading.andThen taken next) (Reading.andThen plain plainNext) := by
  obtain ⟨ledger, follows, rfl⟩ := mirrors
  obtain ⟨reading, stop?⟩ := plain
  cases stop? with
  | none => exact follows.orStay (agrees ledger rfl follows)
  | some stop => exact ⟨ledger, follows, rfl⟩

/-! ### Committing -/

/-- Committing a declaration finds in the tables what it looks for. -/
theorem Records.commit [CharacterNames] {store : Store} {active : Active}
    (records : ledger.Records store) (distinct : store.names.Nodup)
    (sound : active.Sound start store)
    (opened : ∀ name line, active.heading? = some (name, line) →
      ledger.lines.lookup name = some line) (next : Nat) :
    (∃ stop, Reading.committed store active next = .error stop ∧
      ledger.commit active next = (ledger, some stop)) ∨
    ∃ after ledgerAfter, Reading.committed store active next = .ok after ∧
      ledger.commit active next = (ledgerAfter, none) ∧ ledgerAfter.Records after := by
  cases sound with
  | @template declared line draft fresh =>
    exact Or.inr ⟨_, _, rfl, rfl, records.addTemplate fresh (opened _ _ rfl)⟩
  | @subordinate owner declared draft fresh owned new =>
    rw [Reading.committed, Ledger.commit, Active.declaration, Declaration.commit]
    cases missing : (Declaration.subordinate declared).missing? with
    | some setting => exact Or.inl ⟨_, rfl, rfl⟩
    | none =>
      have unused : Subordinate.id { declared with committed := true } ∉ store.ids := fresh
      obtain ⟨after, added, still⟩ := records.addSubordinate distinct unused owned
      exact Or.inr ⟨_, after, rfl, added, still⟩

theorem Follows.conclude [CharacterNames] (follows : ledger.Follows reading)
    (sound : reading.Sound start) (next : Nat) :
    Mirrors (Ledger.conclude (reading.withLedger ledger) next)
      (reading.orStay (reading.conclude next)) := by
  rw [Ledger.conclude, Reading.conclude, Reading.stage_withLedger]
  cases staging : reading.stage next with
  | error stop => exact ⟨ledger, follows, rfl⟩
  | ok middle =>
    have goesWith := follows.stage staging
    have keeps := sound.stage staging
    obtain ⟨store, template, active?, pending⟩ := middle
    cases active? with
    | none => exact ⟨ledger, goesWith, rfl⟩
    | some active =>
      have opened (name : Text) (line : Nat) := goesWith.line active name line rfl
      rcases goesWith.records.commit keeps.store.names (keeps.active active rfl) opened next with
        ⟨stop, refused, stopped⟩ | ⟨after, ledgerAfter, committed, added, records⟩
      · -- What was staged is given up, on both sides.
        simp only [Except.map, Reading.withLedger, stopped, refused]
        exact ⟨ledger, follows, rfl⟩
      · simp only [Except.map, Reading.withLedger, added, committed]
        exact ⟨ledgerAfter, ⟨records, fun _ _ _ none => by cases none⟩, rfl⟩

/-! ### Lines -/

/-- A template that is opened is in no table but that of the lines, and that a name or an id has been
declared is seen in the tables as it is in the store. -/
theorem Follows.beginDeclaration [CharacterNames] (follows : ledger.Follows reading) (number : Nat)
    (className : Text) (subject : Subject) :
    Agrees (Ledger.beginDeclaration (reading.withLedger ledger) number className subject)
      (reading.beginDeclaration number className subject) := by
  have known (name : Text) : (ledger.subordinates.lookup name).isSome =
      (reading.store.entry? name).isSome := by
    rw [follows.records.subordinates, Option.isSome_map]
  have used (id : Text) : ledger.ids.contains id = reading.store.ids.contains id := by
    rw [Bool.eq_iff_iff, List.contains_iff_mem, List.contains_iff_mem]
    exact follows.records.ids.mem_iff
  have refused (cause : RulesCause) : Agrees (Reading.refuseLine number cause)
      (Reading.refuseLine number cause) := ⟨ledger, fun _ same => (by cases same), rfl⟩
  unfold Ledger.beginDeclaration Reading.beginDeclaration
  by_cases isTemplate : className = "Template".toList
  · rw [if_pos isTemplate, if_pos isTemplate]
    cases subject with
    | id id => exact refused _
    | name name =>
      simp only [Reading.withLedger, known]
      by_cases declared : (reading.store.entry? name).isSome = true
      · rw [if_pos declared, if_pos declared]
        exact refused _
      · rw [if_neg declared, if_neg declared]
        have fresh : name ∉ reading.store.names := fun member =>
          declared (Option.isSome_iff_exists.mpr ((Store.exists_entry_iff _ _).mpr member))
        refine ⟨_, ?_, rfl⟩
        rintro _ ⟨⟩
        refine ⟨follows.records.putLine fresh number, ?_⟩
        rintro _ _ _ ⟨⟩ ⟨⟩
        exact lookup_putKey_self _ _
  · rw [if_neg isTemplate, if_neg isTemplate]
    cases Subordinate.start? className with
    | none => exact refused _
    | some begins =>
      cases subject with
      | name name => exact refused _
      | id id =>
        simp only [Reading.withLedger, used]
        cases reading.template with
        | none => exact refused _
        | some owner =>
          by_cases isUsed : reading.store.ids.contains id = true
          · simp only [isUsed, if_true]
            exact refused _
          · simp only [isUsed]
            refine ⟨ledger, ?_, rfl⟩
            rintro _ ⟨⟩
            refine ⟨follows.records, ?_⟩
            rintro _ _ _ ⟨⟩ ⟨⟩

theorem Follows.step [CharacterNames] (follows : ledger.Follows reading)
    (sound : reading.Sound start) (number : Nat) (line : Line) :
    Mirrors (Ledger.step (reading.withLedger ledger) number line) (reading.step number line) := by
  have pends {next : Except Stop (Reading Ledger)} {plain : Except Stop Reading}
      {reading : Reading} {ledger : Ledger} (follows : ledger.Follows reading)
      (same : next = plain.map (·.withLedger ledger))
      (pendsOnly : ∀ result, plain = .ok result → reading.PendsOnly result) :
      Agrees next plain :=
    ⟨ledger, fun result read => follows.pend (pendsOnly result read), same⟩
  have staged : Mirrors
      ((reading.withLedger ledger).orStay ((reading.withLedger ledger).stage number))
      (reading.orStay (reading.stage number)) :=
    follows.orStay ⟨ledger, fun _ staging => follows.stage staging, reading.stage_withLedger ..⟩
  cases line with
  | comment => exact ⟨ledger, follows, rfl⟩
  | blank => exact follows.conclude sound number
  | opening className subject =>
    exact (follows.conclude sound number).andThen fun ledger _ follows =>
      follows.beginDeclaration number className subject
  | «attribute» word value =>
    exact staged.andThen fun ledger _ follows =>
      pends follows (Reading.beginAttribute_withLedger ..)
        fun _ => Reading.pendsOnly_of_beginAttribute
  | substitution text =>
    exact staged.andThen fun ledger _ follows =>
      pends follows (Reading.beginSubstitution_withLedger ..)
        fun _ => Reading.pendsOnly_of_beginSubstitution
  | continuation text =>
    exact follows.orStay
      (pends follows (Reading.resume_withLedger ..) fun _ => Reading.pendsOnly_of_resume)
  | other => exact ⟨ledger, follows, rfl⟩

/-- Lines are read alike with tables and without, up to the same stop. -/
theorem Follows.readLines [CharacterNames] (follows : ledger.Follows reading)
    (sound : reading.Sound start) (number : Nat) (list : List Text) :
    Mirrors (Ledger.readLines (reading.withLedger ledger) number list).1
        (reading.lines number list).1 ∧
      (Ledger.readLines (reading.withLedger ledger) number list).2 =
        (reading.lines number list).2 := by
  induction list generalizing reading ledger number with
  | nil => exact ⟨⟨ledger, follows, rfl⟩, rfl⟩
  | cons line list inductionHypothesis =>
    obtain ⟨after, goesOn, same⟩ := follows.step sound number (Line.ofText line)
    have keeps := sound.step number (Line.ofText line)
    rw [Ledger.readLines, Reading.lines, same]
    generalize reading.step number (Line.ofText line) = taken at goesOn keeps
    obtain ⟨reading, stop?⟩ := taken
    cases stop? with
    | none => exact inductionHypothesis goesOn keeps (number + 1)
    | some stop => exact ⟨⟨after, goesOn, rfl⟩, rfl⟩

/-! ### Rules -/

/-- The check for templates without subordinates finds each of them in the tables. -/
theorem Records.checkBarren {store : Store} (records : ledger.Records store)
    (distinct : store.names.Nodup) {entries : List StoreEntry} (inside : entries ⊆ store) :
    ledger.checkBarren (entries.map StoreEntry.template) =
      match Store.barren? entries with
      | some entry => Reading.refuseLine entry.line (.withoutSubordinates entry.template.name)
      | none => .ok () := by
  induction entries with
  | nil => rfl
  | cons entry entries inductionHypothesis =>
    obtain ⟨member, later⟩ := List.cons_subset.mp inside
    have opened : getKey ledger.lines entry.template.name = .ok entry.line := by
      rw [getKey, records.lines entry member]
    rw [List.map_cons, Ledger.checkBarren, records.getKey_of_mem distinct member, Store.barren?,
      List.find?_cons]
    cases entry.subordinates with
    | nil =>
      simp only [opened]
      rfl
    | cons first rest => exact inductionHypothesis later

theorem Follows.checkBarren [CharacterNames] (follows : ledger.Follows reading)
    (sound : reading.Sound start) :
    Agrees ((ledger.checkBarren ledger.templates).map fun () => reading.withLedger ledger)
      reading.checkBarren := by
  refine ⟨ledger, fun result same => ?_, ?_⟩
  · rw [(Reading.checkBarren_eq_ok same).1]
    exact follows
  · have same := follows.records.checkBarren sound.store.names (List.Subset.refl _)
    rw [← follows.records.templates] at same
    rw [same, Reading.checkBarren]
    cases reading.store.barren? <;> rfl

theorem Records.readAll [CharacterNames] {store : Store} (records : ledger.Records store)
    (sound : store.Sound) (text : Text) :
    Mirrors (ledger.readAll text) (Reading.all store text) := by
  have follows : ledger.Follows ⟨store, none, none, none⟩ :=
    ⟨records, fun _ _ _ none => by cases none⟩
  have begins := Reading.Sound.start sound
  have keeps : (Reading.lines ⟨store, none, none, none⟩ 1 text.lines).1.1.Sound store :=
    Reading.holds_lines (fun _ number line here => here.step number (Line.ofText line)) begins 1 _
  have read : Mirrors (Ledger.readLines ⟨ledger, none, none, none⟩ 1 text.lines).1
        (Reading.lines ⟨store, none, none, none⟩ 1 text.lines).1 ∧
      (Ledger.readLines ⟨ledger, none, none, none⟩ 1 text.lines).2 =
        (Reading.lines ⟨store, none, none, none⟩ 1 text.lines).2 :=
    follows.readLines begins 1 text.lines
  rw [Ledger.readAll, Reading.all]
  generalize Ledger.readLines _ 1 text.lines = tables at read ⊢
  generalize Reading.lines _ 1 text.lines = plain at read keeps ⊢
  obtain ⟨taken, number⟩ := tables
  obtain ⟨⟨reading, stop?⟩, plainNumber⟩ := plain
  obtain ⟨⟨after, goesOn, rfl⟩, numbered⟩ := read
  obtain rfl : number = plainNumber := numbered
  cases stop? with
  | some stop => exact ⟨after, goesOn, rfl⟩
  | none =>
    refine (goesOn.conclude keeps number).andThen fun ledger concluded follows => ?_
    exact follows.checkBarren (keeps.conclude (Reading.eq_ok_of_orStay concluded)).1

/-- Rules are read into a ledger as they are into the store that it records: they print the same and
end alike, and then the ledger records the store again. -/
theorem Records.readRules [CharacterNames] {store : Store} (records : ledger.Records store)
    (sound : store.Sound) (file text : Text) :
    (ledger.readRules file text).world.Records (store.readRules file text).world ∧
      (ledger.readRules file text).log = (store.readRules file text).log ∧
      (ledger.readRules file text).outcome = (store.readRules file text).outcome := by
  obtain ⟨after, follows, same⟩ := records.readAll sound text
  rw [Ledger.readRules, Store.readRules, same]
  generalize Reading.all store text = plain at follows
  obtain ⟨reading, stop?⟩ := plain
  cases stop? with
  | none => exact ⟨follows.records, rfl, rfl⟩
  | some stop => cases stop <;> exact ⟨follows.records, rfl, rfl⟩

/-! ### Expanding -/

/-- Expanding asks the tables for no name that they do not have, and does what expanding the store
does. -/
theorem Records.expand [CharacterNames] {World : Type} (workspace : Workspace World)
    {store : Store} (records : ledger.Records store) (distinct : store.names.Nodup)
    (world : World) : ledger.expand workspace world = store.expand workspace world := by
  have entries (list : Store) (inside : list ⊆ store) (world : World) :
      ledger.expandAll workspace (list.map StoreEntry.template) world =
        list.expand workspace world := by
    induction list generalizing world with
    | nil => rfl
    | cons entry list inductionHypothesis =>
      obtain ⟨member, later⟩ := List.cons_subset.mp inside
      have unnumbered : StoreEntry.expand workspace world ⟨entry.template, 0, entry.subordinates⟩ =
          entry.expand workspace world := rfl
      rw [List.map_cons, Ledger.expandAll, records.getKey_of_mem distinct member, Store.expand]
      cases ended : (entry.expand workspace world).outcome with
      | error abort => simp only [unnumbered, ended]
      | ok report => simp only [unnumbered, ended, inductionHypothesis later]
  rw [Ledger.expand, records.templates]
  exact entries store (List.Subset.refl _) world

/-! ### Sound ledgers -/

/-- The ids of all subordinates, beneath whatever template. -/
def declaredIds (ledger : Ledger) : List Text :=
  ledger.subordinates.flatMap fun entry => entry.2.map Subordinate.id

/-- A ledger whose tables agree, and in which every declaration can be expanded. -/
structure Sound [CharacterNames] (ledger : Ledger) : Prop where
  names : (ledger.templates.map Template.name).Nodup
  /-- There are subordinates under the names of the templates and under no others. -/
  keys : (ledger.subordinates.map Prod.fst).Perm (ledger.templates.map Template.name)
  distinct : ledger.declaredIds.Nodup
  /-- The ids recorded are those of the subordinates. -/
  ids : ledger.ids.Perm ledger.declaredIds
  templates : ∀ template ∈ ledger.templates, template.Sound
  subordinates : ∀ entry ∈ ledger.subordinates, ∀ subordinate ∈ entry.2, subordinate.Sound

theorem Records.sound [CharacterNames] {store : Store} (records : ledger.Records store)
    (sound : store.Sound) : ledger.Sound := by
  have names : ledger.templates.map Template.name = store.names := by
    rw [records.templates, List.map_map]
    rfl
  have subordinates := records.subordinates_perm sound.names
  have ids : ledger.declaredIds.Perm store.ids := by
    rw [declaredIds]
    refine (subordinates.flatMap_right _).trans ?_
    rw [List.flatMap_map]
    exact .refl _
  constructor
  case names => exact names ▸ sound.names
  case keys => exact names ▸ records.names
  case distinct => exact ids.nodup_iff.mpr sound.ids
  case ids => exact records.ids.trans ids.symm
  case templates =>
    intro template member
    rw [records.templates] at member
    obtain ⟨entry, inside, rfl⟩ := List.mem_map.mp member
    exact sound.templates entry inside
  case subordinates =>
    intro held member
    obtain ⟨entry, inside, rfl⟩ := List.mem_map.mp (subordinates.subset member)
    exact sound.subordinates entry inside

/-! ### Rules after rules -/

section

variable [CharacterNames]

/-- The ledger after rules have been read into it one after another, each with its file and however
it ended. -/
def ofRules (calls : List (Text × Text)) : Ledger :=
  calls.foldl (fun ledger call => (ledger.readRules call.1 call.2).world) empty

theorem ofRules_concat (calls : List (Text × Text)) (file text : Text) :
    ofRules (calls ++ [(file, text)]) = ((ofRules calls).readRules file text).world := by
  rw [ofRules, List.foldl_append]
  rfl

theorem records_ofRules (calls : List (Text × Text)) :
    (ofRules calls).Records (Store.ofRules calls) := by
  induction calls using List.reverseRecOn with
  | nil => exact records_empty
  | append_singleton calls call inductionHypothesis =>
    rw [ofRules_concat, Store.ofRules_concat]
    exact (inductionHypothesis.readRules (Store.sound_ofRules calls) call.1 call.2).1

/-- Whatever rules have been read before, rules print the same and end alike with tables and without
them. -/
theorem readRules_ofRules (calls : List (Text × Text)) (file text : Text) :
    ((ofRules calls).readRules file text).log = ((Store.ofRules calls).readRules file text).log ∧
      ((ofRules calls).readRules file text).outcome =
        ((Store.ofRules calls).readRules file text).outcome :=
  ((records_ofRules calls).readRules (Store.sound_ofRules calls) file text).2

theorem expand_ofRules {World : Type} (workspace : Workspace World) (calls : List (Text × Text))
    (world : World) :
    (ofRules calls).expand workspace world = (Store.ofRules calls).expand workspace world :=
  (records_ofRules calls).expand workspace (Store.sound_ofRules calls).names world

/-- Rules that are read into a ledger, whatever rules were read into it before, come to their end, or
they are refused with an error that is printed with the file and the lines it concerns; or else they
break off, and then nothing is printed. They do so if and only if a pattern rule has to be staged
that is refused with something else than a fault: too large a number of repetitions, flags that
exclude each other, or a reference to a group that the pattern does not name. Whatever line reading
has come to, nothing that it looks up is missing. -/
theorem readRules_ends (calls : List (Text × Text)) (file text : Text) :
    (((ofRules calls).readRules file text).outcome = .ok () ∧
        ((ofRules calls).readRules file text).log = [] ∨
      (∃ error : RulesError,
        ((ofRules calls).readRules file text).outcome = .error .rulesRefused ∧
        1 ≤ error.first ∧ error.first ≤ error.last ∧
        error.PrintedAs file ((ofRules calls).readRules file text).log.errors) ∨
      ∃ rule abort, ((ofRules calls).readRules file text).outcome = .error abort ∧
        ((ofRules calls).readRules file text).log = [] ∧
        Reading.BreaksOff (Store.ofRules calls) text rule abort) ∧
    (∀ abort, (∃ rule, Reading.BreaksOff (Store.ofRules calls) text rule abort) ↔
      ((ofRules calls).readRules file text).outcome = .error abort ∧ abort ≠ .rulesRefused) ∧
    (∀ rule abort, Reading.BreaksOff (Store.ofRules calls) text rule abort →
      rule.isRegex = true ∧ abort.ReasonIn rule) ∧
    ∀ earlier later reading, text.lines = earlier ++ later →
      (Reading.beginning (Store.ofRules calls)).Passes 1 earlier reading →
      reading.Provided ∧
        ∀ result, reading.stage (1 + earlier.length) = .ok result → result.Provided := by
  have entries := Store.positive_ofRules calls
  obtain ⟨sameLog, sameOutcome⟩ := readRules_ofRules calls file text
  rw [sameLog, sameOutcome]
  refine ⟨?_, Store.breaksOff_iff entries file text, fun rule abort breaks => breaks.reasonIn, ?_⟩
  · rw [Store.outcome_readRules, Store.log_readRules]
    cases stop? : (Reading.all (Store.ofRules calls) text).2 with
    | none => exact Or.inl ⟨rfl, rfl⟩
    | some stop =>
      have stopsWith := Reading.stopsWith_all entries stop?
      cases stop with
      | refused error =>
        exact Or.inr (Or.inl ⟨error, rfl, stopsWith.1, stopsWith.2, error.printedAs_events file⟩)
      | aborted abort =>
        obtain ⟨rule, breaks⟩ := stopsWith
        exact Or.inr (Or.inr ⟨rule, abort, rfl, rfl, breaks⟩)
  · intro earlier later reading _ passes
    have sound := Reading.Sound.passes (Store.sound_ofRules calls) passes
    have tidy := (Reading.Tidy.start (Store.ofRules calls)).passes passes
    refine ⟨.of_sound sound tidy, fun result staging => ?_⟩
    exact .of_sound (sound.stage staging) (tidy.stage staging).1

end

/-- Rules with a substitute that refers to a name that its pattern gives to no group. -/
def unknownGroupRules : Text :=
  "Template: p.Cell\n\nDerivation: #a\n- name: Coop\n* (?P<sign>;) ~~> \\g<mark>\n".toList

section

attribute [local instance] CharacterNames.signs

theorem readRules_ends_open_group :
    ((ofRules []).readAll Store.openGroupRules).2 =
      some (.refused ⟨5, 6, .badPattern "(\n  ;".toList ⟨.unterminatedGroup, some 0⟩⟩) ∧
    ((ofRules []).readRules "cells.txt".toList Store.openGroupRules).outcome =
      .error .rulesRefused ∧
    (∀ rule abort, ¬ Reading.BreaksOff (Store.ofRules []) Store.openGroupRules rule abort) ∧
    ∃ reading, (Reading.beginning (Store.ofRules [])).Passes 1 (Store.openGroupRules.lines.take 5)
      reading ∧ reading.Provided := by
  have refused : ((ofRules []).readRules "cells.txt".toList Store.openGroupRules).outcome =
      .error .rulesRefused := by decide +kernel
  obtain ⟨-, breaks, -, provided⟩ := readRules_ends [] "cells.txt".toList Store.openGroupRules
  have goesOn : ((Reading.beginning (Store.ofRules [])).lines 1
      (Store.openGroupRules.lines.take 5)).1.2 = none := by decide +kernel
  have passes := Reading.passes_of_lines (Prod.ext (Prod.ext rfl goesOn) rfl)
  have reached := provided _ _ _ (List.take_append_drop 5 Store.openGroupRules.lines).symm passes
  refine ⟨by decide +kernel, refused, fun rule abort broken => ?_, _, passes, reached.1⟩
  obtain ⟨ended, other⟩ := (breaks abort).mp ⟨rule, broken⟩
  cases refused.symm.trans ended
  exact other rfl

/-- Nothing is printed of a reference to an unknown group, and the template stays in the tables
without subordinates. -/
theorem readRules_ends_at_unknown_group :
    ((ofRules []).readRules "cells.txt".toList unknownGroupRules).outcome =
        .error (.unknownGroup "mark".toList) ∧
      ((ofRules []).readRules "cells.txt".toList unknownGroupRules).log = [] ∧
      ((ofRules []).readRules "cells.txt".toList unknownGroupRules).world =
        ⟨[{ Template.start "p.Cell".toList with committed := true }], [("p.Cell".toList, [])],
          [("p.Cell".toList, 1)], []⟩ :=
  ⟨by decide +kernel, by decide +kernel, by decide +kernel⟩

/-- Too large a number of repetitions of a character that is given by its name. -/
example : (empty.readRules [] ("Template: p.Cell\n\nDerivation: #a\n".toList ++
    "* \\N\x7bSEMICOLON\x7d\x7b4294967295\x7d ~~> X\n".toList)).outcome =
      .error .repetitionTooLarge := by decide +kernel

end

section

variable [CharacterNames]

/-- Whatever rules are read into a ledger, one after another, each to its end or not, its tables
agree: names and ids are given once, there are subordinates under exactly the names of the
templates, the ids recorded are exactly theirs, and what is declared is committed and complete.
Every call only adds templates behind those of the earlier ones, whose subordinates stay as they
are, and none ends for the sake of a name that a table does not have. After a call that came to its
end every template has subordinates, they make specs, and expanding the ledger does not end for the
sake of rules. -/
theorem ofRules_grows_and_expands (calls : List (Text × Text)) :
    (ofRules calls).Sound ∧
    ∀ earlier file text, calls = earlier ++ [(file, text)] →
      (ofRules earlier).templates <+: (ofRules calls).templates ∧
      (∀ template ∈ (ofRules earlier).templates,
        ∃ subordinates, (ofRules earlier).subordinates.lookup template.name = some subordinates ∧
          (ofRules calls).subordinates.lookup template.name = some subordinates) ∧
      (∀ key, ((ofRules earlier).readRules file text).outcome ≠ .error (.missingKey key)) ∧
      (((ofRules earlier).readRules file text).outcome = .ok () →
        (∀ template ∈ (ofRules calls).templates, ∃ subordinates specs,
          (ofRules calls).subordinates.lookup template.name = some subordinates ∧
          subordinates ≠ [] ∧
          subordinates.mapM (fun subordinate => subordinate.spec template) = .ok specs ∧
          specs.length = subordinates.length) ∧
        (∀ sources table refused abort,
          ((ofRules calls).expand (.memory sources refused) table).outcome = .error abort →
            abort.blamesRules = false) ∧
        (∀ sources units tree abort,
          ((ofRules calls).expand (.folders sources units) tree).outcome = .error abort →
            abort.blamesRules = false)) := by
  have records := records_ofRules calls
  have sound := Store.sound_ofRules calls
  refine ⟨records.sound sound, ?_⟩
  rintro earlier file text rfl
  have before := records_ofRules earlier
  have soundBefore := Store.sound_ofRules earlier
  have grown := Store.ofRules_prefix earlier file text
  have read := (readRules_ofRules earlier file text).2
  refine ⟨?_, ?_, ?_, fun isRead => ?_⟩
  · rw [before.templates, records.templates]
    exact grown.map _
  · intro template member
    rw [before.templates] at member
    obtain ⟨entry, inside, rfl⟩ := List.mem_map.mp member
    exact ⟨entry.subordinates, before.lookup_of_mem soundBefore.names inside,
      records.lookup_of_mem sound.names (grown.subset inside)⟩
  · intro key ended
    rw [read] at ended
    exact Store.readRules_ne_missingKey earlier file text key ended
  · rw [read] at isRead
    have fruitful (entry : StoreEntry)
        (member : entry ∈ Store.ofRules (earlier ++ [(file, text)])) : entry.subordinates ≠ [] :=
      Store.subordinates_ne_nil_ofRules isRead member
    refine ⟨fun template member => ?_, ?_, ?_⟩
    · rw [records.templates] at member
      obtain ⟨entry, inside, rfl⟩ := List.mem_map.mp member
      obtain ⟨specs, made, same⟩ := sound.exists_specs inside
      exact ⟨entry.subordinates, specs, records.lookup_of_mem sound.names inside,
        fruitful entry inside, made, same⟩
    · intro sources table refused abort ended
      rw [expand_ofRules] at ended
      exact sound.blamesRules_of_expand fruitful
        (fun _ _ _ unread => Workspace.blamesRules_of_memory unread) ended
    · intro sources units tree abort ended
      rw [expand_ofRules] at ended
      exact sound.blamesRules_of_expand fruitful
        (fun _ _ _ unread => Workspace.blamesRules_of_folders unread) ended

end

/-- Rules that open a template and are refused before it is committed. -/
def cageRules : Text := "Template: p.Cage\n- colour: red\n".toList

/-- Rules that declare another template, with a derivation that has a pattern rule. -/
def boxRules : Text :=
  "Template: p.Box\n\nDerivation: #bin\n- name: Bin\n* (a+) ~~> \\1b\n".toList

section

attribute [local instance] CharacterNames.signs

/-- The second of three calls is refused, which leaves no trace of its template but the line, and the
others come to their end. -/
theorem ofRules_grows_and_expands_cell_box :
    (ofRules [([], Store.cellRules), ([], cageRules), ([], boxRules)]).Sound ∧
      ((ofRules [([], Store.cellRules)]).readRules [] cageRules).outcome = .error .rulesRefused ∧
      ofRules [([], Store.cellRules), ([], cageRules)] =
        { ofRules [([], Store.cellRules)] with
          lines := [("p.Cell".toList, 1), ("p.Cage".toList, 1)] } ∧
      ((ofRules [([], Store.cellRules), ([], cageRules)]).readRules [] boxRules).outcome = .ok () ∧
      (ofRules [([], Store.cellRules), ([], cageRules), ([], boxRules)]).templates.map
        Template.name = ["p.Cell".toList, "p.Box".toList] ∧
      (ofRules [([], Store.cellRules), ([], cageRules), ([], boxRules)]).ids.Perm
        ["int".toList, "bin".toList] ∧
      ∀ template ∈ (ofRules [([], Store.cellRules), ([], cageRules), ([], boxRules)]).templates,
        ∃ subordinates, (ofRules [([], Store.cellRules), ([], cageRules),
          ([], boxRules)]).subordinates.lookup template.name = some subordinates ∧
          subordinates ≠ [] := by
  have isRead : ((ofRules [([], Store.cellRules), ([], cageRules)]).readRules [] boxRules).outcome =
      .ok () := by decide +kernel
  obtain ⟨sound, last⟩ :=
    ofRules_grows_and_expands [([], Store.cellRules), ([], cageRules), ([], boxRules)]
  obtain ⟨-, -, -, expands⟩ := last [([], Store.cellRules), ([], cageRules)] [] boxRules rfl
  refine ⟨sound, by decide +kernel, by decide +kernel, isRead, by decide +kernel,
    by decide +kernel, fun template member => ?_⟩
  obtain ⟨subordinates, -, found, nonempty, -⟩ := (expands isRead).1 template member
  exact ⟨subordinates, found, nonempty⟩

end

end Ledger

end Stencil
