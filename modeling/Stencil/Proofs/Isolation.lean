/-
This file proves how far an error reaches when a store is expanded in memory. Rules that cannot be
applied are refused when they are read, so that a spec, as long as a marker is left to choose, ends
in a text or in a failure of its own, and its batch goes on. A source that is missing fails the
specs of its template; nothing is emitted for them, and everything else is as if the template had
not been declared. A list of type parameters that is never closed is found while the unit is made,
before there is a spec to blame, and it ends the whole expansion.
-/
import Stencil.Proofs.Batch
import Stencil.Proofs.StoreExpansion

namespace Stencil

/-! ### Specs that end in a text or a failure -/

/-- Reading has made sure of pattern and substitute, so that a rule can only miss its pattern. -/
theorem Rule.Sound.isFailure_of_apply [CharacterNames] {rule : Rule} (sound : rule.Sound)
    {owner text : Text} {abort : Abort} (ended : rule.apply owner text = .error abort) :
    abort.isFailure = true := by
  rw [Rule.apply] at ended
  split at ended
  · next isRegex =>
    obtain ⟨pattern, substitute, patternRead, substituteRead⟩ := sound.readable isRegex
    rw [Rule.applyPattern, patternRead] at ended
    simp only [substituteRead] at ended
    split at ended
    · cases ended
    · split at ended <;> cases ended
      rfl
  · rw [Rule.applyLiteral] at ended
    split at ended
    · cases ended
    · split at ended <;> cases ended
      rfl

theorem Generate.isFailure_of_generate [CharacterNames] {unit : SourceUnit} {spec : Spec}
    {marker : Char} (isMarker : isMarkerChar marker = true) (free : marker ∉ markerSeed unit spec)
    (sound : ∀ rule ∈ spec.rules, rule.Sound) {abort : Abort}
    (ended : (generate unit spec).outcome = .error abort) : abort.isFailure = true := by
  obtain ⟨placeholder, chosen⟩ := Placeholder.exists_choose isMarker free
  have ends : EndsIn (fun abort => abort.isFailure = true) (generate unit spec) := by
    refine endsIn_generate (fun _ => rfl) (fun abort none => ?_)
      fun rule member _ _ => (sound rule member).isFailure_of_apply
    cases chosen.symm.trans none
  exact ends.abort abort ended

/-- A batch whose specs end in texts and failures comes to its end. -/
theorem Expand.exists_records [CharacterNames] {World : Type} (workspace : Workspace World)
    (unit : SourceUnit) (used : List Text) (world : World) {specs : List Spec}

    (contained : ∀ spec ∈ specs, ∀ abort,
      (generate unit spec).outcome = .error abort → abort.isFailure = true) :
    ∃ list, (records workspace unit used world specs).outcome = .ok list := by
  cases ended : (records workspace unit used world specs).outcome with
  | ok list => exact ⟨list, rfl⟩
  | error abort =>
    obtain ⟨notFailure, spec, member, generated⟩ := records_eq_error ended
    rw [contained spec member abort generated] at notFailure
    cases notFailure

/-! ### Entries of a store -/

theorem exists_of_mem_mapM {Error First Second : Type} {step : First → Except Error Second}
    {list : List First} {results : List Second} (mapped : list.mapM step = .ok results)
    {result : Second} (member : result ∈ results) : ∃ item ∈ list, step item = .ok result := by
  induction list generalizing results with
  | nil =>
    cases mapped
    cases member
  | cons item list inductionHypothesis =>
    rw [List.mapM_cons] at mapped
    obtain ⟨first, made, mapped⟩ := exists_ok_of_bind mapped
    obtain ⟨others, rest, same⟩ := exists_ok_of_bind mapped
    cases same
    rcases List.mem_cons.mp member with rfl | later
    · exact ⟨item, List.mem_cons_self, made⟩
    · obtain ⟨other, inside, made⟩ := inductionHypothesis rest later
      exact ⟨other, List.mem_cons_of_mem _ inside, made⟩

/-- The texts that a subordinate brings into a source: its types and its substitutes. -/
def Subordinate.insertions (subordinate : Subordinate) : List Text :=
  (match subordinate.kind with
    | .instantiation (some types) => types
    | _ => []) ++ subordinate.rules.map Rule.substitute

theorem Subordinate.insertions_of_spec {subordinate : Subordinate} {template : Template}
    {spec : Spec} (made : subordinate.spec template = .ok spec) :
    spec.rules = subordinate.rules ∧
      spec.types ++ spec.rules.map Rule.substitute = subordinate.insertions := by
  obtain ⟨rules, ⟨kind, types, -⟩ | ⟨kind, -⟩⟩ := Subordinate.spec_eq_ok made
  · refine ⟨rules, ?_⟩
    rw [insertions, kind, types, rules]
  · refine ⟨rules, ?_⟩
    rw [insertions, kind, rules]

/-- A character that occurs in no source and in nothing that the subordinates of a store bring into
one. -/
structure Store.Spares (store : Store) (sources : TextTable) (marker : Char) : Prop where
  sources : ∀ source ∈ sources, marker ∉ source.2
  insertions : ∀ entry ∈ store, ∀ subordinate ∈ entry.subordinates,
    ∀ text ∈ subordinate.insertions, marker ∉ text

namespace StoreEntry

/-- An entry that makes specs which, in any source of the table, end in texts and failures. -/
structure Contained [CharacterNames] (sources : TextTable) (entry : StoreEntry) (specs : List Spec) :
    Prop where
  made : entry.specs = .ok specs
  nonempty : specs ≠ []
  ends : ∀ spec ∈ specs, ∀ unit : SourceUnit, (∃ name, (name, unit.text) ∈ sources) →
    ∀ abort, (generate unit spec).outcome = .error abort → abort.isFailure = true

/-- The entries of a sound store are contained while a marker is spared. -/
theorem exists_contained [CharacterNames] {store : Store} (sound : store.Sound)
    (fruitful : ∀ entry ∈ store, entry.subordinates ≠ []) {sources : TextTable} {marker : Char}
    (isMarker : isMarkerChar marker = true) (spares : store.Spares sources marker)
    {entry : StoreEntry} (member : entry ∈ store) : ∃ specs, entry.Contained sources specs := by
  obtain ⟨specs, made, same⟩ := sound.exists_specs member
  refine ⟨specs, made, ?_, ?_⟩
  · rintro rfl
    exact fruitful entry member (List.length_eq_zero_iff.mp same.symm)
  · rintro spec inside unit ⟨name, known⟩ abort ended
    obtain ⟨subordinate, beneath, isSpec⟩ := exists_of_mem_mapM made inside
    obtain ⟨rules, insertions⟩ := Subordinate.insertions_of_spec isSpec
    have free : marker ∉ Generate.markerSeed unit spec := by
      rw [Generate.markerSeed, List.append_assoc, ← List.flatten_append, insertions,
        List.mem_append, List.mem_flatten, not_or]
      refine ⟨spares.sources _ known, ?_⟩
      rintro ⟨text, inserted, occurs⟩
      exact spares.insertions entry member subordinate beneath text inserted occurs
    refine Generate.isFailure_of_generate isMarker free (fun rule isRule => ?_) ended
    rw [rules] at isRule
    exact (sound.subordinates entry member subordinate beneath).rules rule isRule

/-- The type parameters have to be found in the source, and the list that is found there is never
closed. -/
def Unclosed (sources : TextTable) (entry : StoreEntry) : Prop :=
  entry.template.parameters = none ∧ ∃ text declared,
    sources.lookup entry.template.name = some text ∧
    Header.findGeneric? (simpleName entry.template.name) text = some declared ∧
    balancedLength .angle false 0 declared.tail.dropBlanks = none

/-- The failure of a source that is not in the table. -/
def missing (entry : StoreEntry) : Failure :=
  .sourceNotFound ("no source for `" ++ entry.template.name.str ++ "`")

/-- The report on an entry whose source is not in the table. -/
def missingReport (entry : StoreEntry) (specs : List Spec) : Report :=
  ⟨entry.template.name, specs.map fun spec =>
    .failed (qualifyName (packageName entry.template.name) spec.target) entry.missing⟩

section

variable {sources : TextTable} (refused : List Text) (table : TextTable) {entry : StoreEntry}
  {specs : List Spec}

theorem unit_of_missing (absent : sources.lookup entry.template.name = none) :
    entry.unit (.memory sources refused) table = .error (.failure entry.missing) := by
  rw [StoreEntry.unit, Workspace.memory]
  simp only [absent]
  rfl

theorem unit_of_unclosed (unclosed : entry.Unclosed sources) :
    ∃ start, entry.unit (.memory sources refused) table =
      .error (.failure (.unbalanced (.unclosed .angle start))) := by
  obtain ⟨introspected, text, declared, present, found, endless⟩ := unclosed
  refine ⟨(text.length - declared.tail.dropBlanks.length : Nat), ?_⟩
  rw [StoreEntry.unit, Workspace.memory]
  simp only [present, SourceUnit.ofText, introspected, parameterNames, found, afterBalanced,
    endless]
  rfl

/-- Nothing but a missing source or an endless list keeps a unit from being made. -/
theorem exists_unit {text : Text} (present : sources.lookup entry.template.name = some text)
    (closed : ¬ entry.Unclosed sources) :
    ∃ unit, entry.unit (.memory sources refused) table = .ok unit ∧ unit.text = text := by
  rw [StoreEntry.unit, Workspace.memory]
  simp only [present, SourceUnit.ofText]
  cases introspected : entry.template.parameters with
  | some parameters => exact ⟨_, rfl, rfl⟩
  | none =>
    rw [parameterNames]
    cases found : Header.findGeneric? (simpleName entry.template.name) text with
    | none => exact ⟨_, rfl, rfl⟩
    | some declared =>
      simp only [afterBalanced]
      cases counted : balancedLength .angle false 0 declared.tail.dropBlanks with
      | some count => exact ⟨_, rfl, rfl⟩
      | none => exact absurd ⟨introspected, text, declared, present, found, counted⟩ closed

/-- A missing source fails every spec and changes nothing. -/
theorem expand_of_missing [CharacterNames] (made : entry.specs = .ok specs)
    (absent : sources.lookup entry.template.name = none) :
    ∃ log, entry.expand (.memory sources refused) table =
      ⟨table, log, .ok (entry.missingReport specs)⟩ := by
  refine ⟨entry.event specs :: (Expand.failAll entry.template.name specs entry.missing).log, ?_⟩
  simp only [StoreEntry.expand, made, unit_of_missing refused table absent, missing]
  rfl

/-- An endless list fails no spec; it ends the expansion, which changes nothing any more. -/
theorem expand_of_unclosed [CharacterNames] (made : entry.specs = .ok specs)
    (unclosed : entry.Unclosed sources) :
    ∃ log start, entry.expand (.memory sources refused) table =
      ⟨table, log, .error (.failure (.unbalanced (.unclosed .angle start)))⟩ := by
  obtain ⟨start, failed⟩ := unit_of_unclosed refused table unclosed
  refine ⟨[entry.event specs], start, ?_⟩
  simp only [StoreEntry.expand, made, failed]

/-- Any other entry that is contained gets a report. -/
theorem Contained.exists_report [CharacterNames] (contained : entry.Contained sources specs)
    (closed : ¬ entry.Unclosed sources) :
    ∃ report, (entry.expand (.memory sources refused) table).outcome = .ok report := by
  cases present : sources.lookup entry.template.name with
  | none =>
    obtain ⟨log, expanded⟩ := expand_of_missing refused table contained.made present
    exact ⟨_, by rw [expanded]⟩
  | some text =>
    obtain ⟨unit, isUnit, same⟩ := exists_unit refused table present closed
    have known : ∃ name, (name, unit.text) ∈ sources := by
      obtain ⟨earlier, later, split, -⟩ := List.lookup_eq_some_iff.mp present
      rw [same, split]
      exact ⟨_, List.mem_append_right _ List.mem_cons_self⟩
    obtain ⟨list, recorded⟩ := Expand.exists_records (.memory sources refused) unit [] table
      fun spec member => contained.ends spec member unit known
    refine ⟨⟨unit.name, list⟩, ?_⟩
    rw [StoreEntry.expand, contained.made]
    simp only [isUnit, Expand.unit, List.isEmpty_iff, contained.nonempty, if_false, recorded]
    rfl

end

/-- A report is about the template of its entry. -/
theorem source_of_expand [CharacterNames] {World : Type} {workspace : Workspace World}
    {world : World} {entry : StoreEntry} {report : Report}
    (returned : (entry.expand workspace world).outcome = .ok report) :
    report.source = entry.template.name := by
  rw [StoreEntry.expand] at returned
  split at returned
  · cases returned
  · dsimp only at returned
    split at returned
    · next unit made =>
      rw [Expand.unit] at returned
      split at returned
      · cases returned
      · obtain ⟨list, -, rfl⟩ := exists_ok_of_map returned
        exact name_of_unit made
    · cases returned
      rfl
    · cases returned

end StoreEntry

/-! ### One entry after another -/

namespace Store

theorem sources_of_expand [CharacterNames] {World : Type} {workspace : Workspace World}
    {world : World} {store : Store} {reports : List Report}
    (returned : (store.expand workspace world).outcome = .ok reports) :
    reports.map Report.source = store.names := by
  induction store generalizing world reports with
  | nil =>
    cases returned
    rfl
  | cons entry store inductionHypothesis =>
    rw [Store.expand] at returned
    split at returned
    · cases returned
    · next report first =>
      obtain ⟨others, rest, rfl⟩ := exists_ok_of_map returned
      rw [List.map_cons, inductionHypothesis rest, StoreEntry.source_of_expand first]
      rfl

/-- A store whose first entries get reports goes on with the others, in the world that these
leave. -/
theorem expand_append [CharacterNames] {World : Type} (workspace : Workspace World) {before : Store}
    (after : Store) {world : World} {reports : List Report}
    (returned : (before.expand workspace world).outcome = .ok reports) :
    (Store.expand workspace (before ++ after) world).world =
        (after.expand workspace (before.expand workspace world).world).world ∧
      (Store.expand workspace (before ++ after) world).outcome =
        (after.expand workspace (before.expand workspace world).world).outcome.map
          (reports ++ ·) := by
  induction before generalizing world reports with
  | nil =>
    cases returned
    refine ⟨rfl, ?_⟩
    show (after.expand workspace world).outcome =
      (after.expand workspace world).outcome.map ([] ++ ·)
    cases (after.expand workspace world).outcome <;> rfl
  | cons entry before inductionHypothesis =>
    rw [List.cons_append]
    rw [Store.expand] at returned ⊢
    rw [Store.expand]
    split at returned
    · cases returned
    · next report first =>
      obtain ⟨others, rest, rfl⟩ := exists_ok_of_map returned
      obtain ⟨world, outcome⟩ := inductionHypothesis rest
      refine ⟨world, ?_⟩
      dsimp only
      rw [outcome]
      cases (after.expand workspace _).outcome <;> rfl

theorem exists_reports_of_append [CharacterNames] {World : Type} {workspace : Workspace World}
    {before after : Store} {world : World} {reports : List Report}
    (returned : (Store.expand workspace (before ++ after) world).outcome = .ok reports) :
    ∃ earlier, (before.expand workspace world).outcome = .ok earlier := by
  induction before generalizing world reports with
  | nil => exact ⟨[], rfl⟩
  | cons entry before inductionHypothesis =>
    rw [List.cons_append, Store.expand] at returned
    rw [Store.expand]
    split at returned
    · cases returned
    · next report first =>
      obtain ⟨others, rest, -⟩ := exists_ok_of_map returned
      obtain ⟨earlier, reported⟩ := inductionHypothesis rest
      exact ⟨report :: earlier, by simp only [reported]; rfl⟩

section

variable {sources : TextTable} (refused : List Text) (table : TextTable)

/-- Where all entries are contained, there are reports exactly if every list is closed. -/
theorem exists_reports_iff [CharacterNames] {store : Store}
    (contained : ∀ entry ∈ store, ∃ specs, entry.Contained sources specs) :
    (∃ reports, (store.expand (.memory sources refused) table).outcome = .ok reports) ↔
      ∀ entry ∈ store, ¬ entry.Unclosed sources := by
  induction store generalizing table with
  | nil => exact ⟨fun _ _ member => (nomatch member), fun _ => ⟨[], rfl⟩⟩
  | cons entry store inductionHypothesis =>
    obtain ⟨specs, first⟩ := contained entry List.mem_cons_self
    have later (table : TextTable) := inductionHypothesis table
      fun other member => contained other (List.mem_cons_of_mem _ member)
    rw [List.forall_mem_cons, Store.expand]
    by_cases unclosed : entry.Unclosed sources
    · obtain ⟨log, start, ended⟩ :=
        StoreEntry.expand_of_unclosed refused table first.made unclosed
      simp only [ended]
      refine ⟨?_, fun closed => absurd unclosed closed.1⟩
      rintro ⟨reports, ⟨⟩⟩
    · obtain ⟨report, reported⟩ := first.exists_report refused table unclosed
      simp only [reported]
      rw [← later, and_iff_right unclosed]
      constructor
      · rintro ⟨reports, returned⟩
        obtain ⟨others, rest, -⟩ := exists_ok_of_map returned
        exact ⟨others, rest⟩
      · rintro ⟨others, rest⟩
        exact ⟨report :: others, by rw [rest]; rfl⟩

variable {before after : Store} {entry : StoreEntry} {specs : List Spec}

/-- The first list that is not closed ends the expansion of a store: what was emitted before it
stays, and there are no reports. -/
theorem expand_of_unclosed [CharacterNames]
    (contained : ∀ other ∈ before, ∃ specs, other.Contained sources specs)
    (closed : ∀ other ∈ before, ¬ other.Unclosed sources) (made : entry.specs = .ok specs)
    (unclosed : entry.Unclosed sources) :
    (Store.expand (.memory sources refused) (before ++ entry :: after) table).world =
        (before.expand (.memory sources refused) table).world ∧
      ∃ start, (Store.expand (.memory sources refused) (before ++ entry :: after) table).outcome =
        .error (.failure (.unbalanced (.unclosed .angle start))) := by
  obtain ⟨reports, returned⟩ := (exists_reports_iff refused table contained).mpr closed
  obtain ⟨world, outcome⟩ := expand_append (.memory sources refused) (entry :: after) returned
  obtain ⟨log, start, ended⟩ := StoreEntry.expand_of_unclosed refused
    (before.expand (.memory sources refused) table).world made unclosed
  simp only [Store.expand, ended] at world outcome
  exact ⟨world, start, outcome⟩

/-- An entry whose source is missing only adds its own report. -/
theorem expand_of_missing [CharacterNames] (made : entry.specs = .ok specs)
    (absent : sources.lookup entry.template.name = none) {reports : List Report}

    (returned : (Store.expand (.memory sources refused) (before ++ entry :: after) table).outcome =
      .ok reports) :
    ∃ earlier later, reports = earlier ++ entry.missingReport specs :: later ∧
      earlier.length = before.length ∧
      (Store.expand (.memory sources refused) (before ++ after) table).outcome =
        .ok (earlier ++ later) ∧
      (Store.expand (.memory sources refused) (before ++ after) table).world =
        (Store.expand (.memory sources refused) (before ++ entry :: after) table).world := by
  obtain ⟨earlier, first⟩ := exists_reports_of_append returned
  have same : earlier.length = before.length := by
    have names := congrArg List.length (sources_of_expand first)
    rwa [List.length_map, Store.names, List.length_map] at names
  obtain ⟨world, outcome⟩ := expand_append (.memory sources refused) (entry :: after) first
  obtain ⟨otherWorld, otherOutcome⟩ := expand_append (.memory sources refused) after first
  obtain ⟨log, failed⟩ := StoreEntry.expand_of_missing refused
    (before.expand (.memory sources refused) table).world made absent
  simp only [Store.expand, failed] at world outcome
  rw [returned] at outcome
  obtain ⟨rest, mapped, rfl⟩ := exists_ok_of_map outcome.symm
  obtain ⟨later, last, rfl⟩ := exists_ok_of_map mapped
  refine ⟨earlier, later, rfl, same, ?_, otherWorld.trans world.symm⟩
  rw [otherOutcome, last]
  rfl

end

/-- Expanding what was read to its end gives reports exactly if no list of type parameters that has
to be read is left open, and then one for each template, in the order of their declaration. A
template whose source is missing has a report in which every spec fails for that reason; without the
template there are the same reports but this one, and the same units. The first list that is left
open ends the expansion without reports, after what the templates before it emitted. -/
theorem expand_isolates_missing_sources [CharacterNames] (calls : List (Text × Text))
    (file text : Text) (isRead : ((ofRules calls).readRules file text).outcome = .ok ())
    (sources table : TextTable) (refused : List Text) (marker : Char)
    (isMarker : isMarkerChar marker = true)
    (spares : (ofRules (calls ++ [(file, text)])).Spares sources marker) :
    ((∃ reports, ((ofRules (calls ++ [(file, text)])).expand (.memory sources refused)
        table).outcome = .ok reports) ↔
      ∀ entry ∈ ofRules (calls ++ [(file, text)]), ¬ entry.Unclosed sources) ∧
    (∀ reports, ((ofRules (calls ++ [(file, text)])).expand (.memory sources refused)
        table).outcome = .ok reports →
      reports.map Report.source = (ofRules (calls ++ [(file, text)])).names ∧
      ∀ before entry after, ofRules (calls ++ [(file, text)]) = before ++ entry :: after →
        sources.lookup entry.template.name = none →
        ∃ specs earlier later, entry.specs = .ok specs ∧
          specs.length = entry.subordinates.length ∧
          reports = earlier ++ entry.missingReport specs :: later ∧
          earlier.length = before.length ∧
          (Store.expand (.memory sources refused) (before ++ after) table).outcome =
            .ok (earlier ++ later) ∧
          (Store.expand (.memory sources refused) (before ++ after) table).world =
            ((ofRules (calls ++ [(file, text)])).expand (.memory sources refused) table).world) ∧
    ∀ before entry after, ofRules (calls ++ [(file, text)]) = before ++ entry :: after →
      (∀ other ∈ before, ¬ other.Unclosed sources) → entry.Unclosed sources →
      ((ofRules (calls ++ [(file, text)])).expand (.memory sources refused) table).world =
          (Store.expand (.memory sources refused) before table).world ∧
        ∃ start, ((ofRules (calls ++ [(file, text)])).expand (.memory sources refused)
          table).outcome = .error (.failure (.unbalanced (.unclosed .angle start))) := by
  have sound := sound_ofRules (calls ++ [(file, text)])
  have contained (entry : StoreEntry) (member : entry ∈ ofRules (calls ++ [(file, text)])) :=
    StoreEntry.exists_contained sound (fun _ => subordinates_ne_nil_ofRules isRead) isMarker spares
      member
  generalize ofRules (calls ++ [(file, text)]) = store at sound contained ⊢
  refine ⟨exists_reports_iff refused table contained, ?_, ?_⟩
  · refine fun reports returned => ⟨sources_of_expand returned, ?_⟩
    rintro before entry after rfl absent
    have member : entry ∈ before ++ entry :: after := List.mem_append_right _ List.mem_cons_self
    obtain ⟨specs, made, same⟩ := sound.exists_specs member
    obtain ⟨earlier, later, split⟩ := expand_of_missing refused table made absent returned
    exact ⟨specs, earlier, later, made, same, split⟩
  · rintro before entry after rfl closed unclosed
    obtain ⟨specs, first⟩ :=
      contained entry (List.mem_append_right _ List.mem_cons_self)
    exact expand_of_unclosed refused table
      (fun other member => contained other (List.mem_append_left _ member)) closed first.made
      unclosed

/-- Rules that declare another template, with a derivation. -/
def cageRules : Text := "Template: p.Cage\n\nDerivation: #coop\n- name: Coop\n".toList

/-- The source of that template. -/
def cageSources : TextTable :=
  [("p.Cage".toList, "@Template()\nclass Cage \x7b Cage c; \x7d".toList)]

/-- What the rules for the cell declare. -/
def cellEntry : StoreEntry where
  template := { Template.start "p.Cell".toList with committed := true }
  line := 1
  subordinates := [⟨"int".toList, true, .instantiation (some ["int".toList]), none, []⟩]

/-- What the rules for the cage declare. -/
def cageEntry : StoreEntry where
  template := { Template.start "p.Cage".toList with committed := true }
  line := 1
  subordinates := [⟨"coop".toList, true, .derivation, some "Coop".toList, []⟩]

/-- The report on the cage. -/
def cageReport : Report := ⟨"p.Cage".toList, [.emitted "p.Coop".toList]⟩

/-- The report on the cell, whose source is missing. -/
def cellMissing : Report :=
  ⟨"p.Cell".toList,
    [.failed "p.CellInt".toList (.sourceNotFound "no source for `p.Cell`")]⟩

section

attribute [local instance] CharacterNames.signs

theorem ofRules_cell_cage :
    ofRules [([], cellRules), ([], cageRules)] = [cellEntry, cageEntry] := by decide +kernel

theorem expand_isolates_missing_sources_cage :
    ((ofRules [([], cellRules)]).readRules [] cageRules).outcome = .ok () ∧
      (ofRules [([], cellRules), ([], cageRules)]).Spares cageSources (Char.ofNat 0xF8FF) ∧
      ((ofRules [([], cellRules), ([], cageRules)]).expand (.memory cageSources []) []).outcome =
        .ok [cellMissing, cageReport] ∧
      (Store.expand (.memory cageSources []) [cageEntry] []).outcome = .ok [cageReport] := by
  have isRead : ((ofRules [([], cellRules)]).readRules [] cageRules).outcome = .ok () := by
    decide +kernel
  have spares : (ofRules [([], cellRules), ([], cageRules)]).Spares cageSources
      (Char.ofNat 0xF8FF) := by
    rw [ofRules_cell_cage]
    exact ⟨by decide +kernel, by decide +kernel⟩
  have returned : ((ofRules [([], cellRules), ([], cageRules)]).expand (.memory cageSources [])
      []).outcome = .ok [cellMissing, cageReport] := by
    rw [ofRules_cell_cage]
    decide +kernel
  obtain ⟨-, reported, -⟩ := expand_isolates_missing_sources [([], cellRules)] [] cageRules isRead
    cageSources [] [] (Char.ofNat 0xF8FF) (by decide) spares
  obtain ⟨specs, earlier, later, -, -, reports, none, without, -⟩ :=
    (reported _ returned).2 [] cellEntry [cageEntry] ofRules_cell_cage (by decide +kernel)
  obtain rfl : earlier = [] := List.length_eq_zero_iff.mp none
  rw [← (List.cons.inj reports).2] at without
  exact ⟨isRead, spares, returned, without⟩

end

/-- A source whose list of type parameters is never closed, and the other source. -/
def endlessSources : TextTable :=
  ("p.Cell".toList, "class Cell<T \x7b T t; \x7d".toList) :: cageSources

section

attribute [local instance] CharacterNames.signs

/-- A list that is left open in the source of one template takes the other template with it, which
would have been expanded without the first. -/
theorem expand_ends_at_endless_list :
    ((ofRules [([], cellRules)]).readRules [] cageRules).outcome = .ok () ∧
      (ofRules [([], cellRules), ([], cageRules)]).Spares endlessSources (Char.ofNat 0xF8FF) ∧
      ((ofRules [([], cellRules), ([], cageRules)]).expand (.memory endlessSources [])
        []).outcome = .error (.failure (.unbalanced (.unclosed .angle 10))) ∧
      ((ofRules [([], cellRules), ([], cageRules)]).expand (.memory endlessSources []) []).world =
        [] ∧
      (Store.expand (.memory endlessSources []) [cageEntry] []).outcome = .ok [cageReport] := by
  rw [ofRules_cell_cage]
  exact ⟨by decide +kernel, ⟨by decide +kernel, by decide +kernel⟩, by decide +kernel,
    by decide +kernel, by decide +kernel⟩

end

end Store

end Stencil
