/-
This file proves which units a table in memory holds once the templates of some rules have been
expanded into it and nothing has failed. A target name is compared with the targets that the same
template has asked for and with the template's own name, and with nothing else; so within a report
names are given once. Templates share the table, though, and one that asks for a name that an
earlier one has asked for takes its place. What the table holds in the end is, under every name, the
text of the last spec that asked for it.
-/
import Mathlib.Data.List.Nodup
import Stencil.Proofs.DeclaredNames
import Stencil.Proofs.Isolation

namespace Stencil

/-! ### Tables that are filled -/

/-- A unit and a spec of what is to be generated from it. -/
structure Job where
  unit : SourceUnit
  spec : Spec
deriving Repr, DecidableEq

/-- The name under which a job is emitted. -/
def Job.target (job : Job) : Text := job.unit.qualify job.spec.target

/-- A table before and after the texts of some jobs have been put into it, one after another. -/
inductive Filled [CharacterNames] : (before : TextTable) → List Job → (after : TextTable) → Prop
  | nil (table : TextTable) : Filled table [] table
  | cons {before after : TextTable} {job : Job} {jobs : List Job} {text : Text}
      (generated : (generate job.unit job.spec).outcome = .ok text)
      (rest : Filled (before.put job.target text) jobs after) : Filled before (job :: jobs) after

namespace Filled

variable {before middle after : TextTable} {jobs others : List Job}

theorem append [CharacterNames] (first : Filled before jobs middle)
    (second : Filled middle others after) :
    Filled before (jobs ++ others) after := by
  induction first with
  | nil => exact second
  | cons generated _ inductionHypothesis => exact .cons generated (inductionHypothesis second)

/-- Other names keep what they had. -/
theorem lookup_of_not_mem [CharacterNames] (filled : Filled before jobs after) {name : Text}
    (absent : name ∉ jobs.map Job.target) : after.lookup name = before.lookup name := by
  induction filled with
  | nil => rfl
  | cons _ _ inductionHypothesis =>
    rw [List.map_cons, List.mem_cons, not_or] at absent
    rw [inductionHypothesis absent.2, TextTable.lookup_put_of_ne _ _ absent.1]

/-- The last job of a name leaves its text under it. -/
theorem lookup_of_last [CharacterNames] (filled : Filled before jobs after)
    {earlier later : List Job} {job : Job} (place : jobs = earlier ++ job :: later)
    (last : job.target ∉ later.map Job.target) :
    ∃ text, (generate job.unit job.spec).outcome = .ok text ∧
      after.lookup job.target = some text := by
  induction filled generalizing earlier with
  | nil => cases earlier <;> cases place
  | cons generated rest inductionHypothesis =>
    cases earlier with
    | nil =>
      cases place
      refine ⟨_, generated, ?_⟩
      rw [rest.lookup_of_not_mem last, TextTable.lookup_put_self]
    | cons first earlier =>
      cases place
      exact inductionHypothesis rfl

end Filled

/-- A batch without failures puts the texts of all its specs into the table. -/
theorem Expand.Ledger.filled [CharacterNames] {refused : List Text} {unit : SourceUnit}
    {used : List Text} {before after : TextTable} {specs : List Spec} {records : List Record}
    (source : Text) (ledger : Ledger refused unit used before specs records after)
    (successful : (Report.mk source records).successful = true) :
    Filled before (specs.map (Job.mk unit)) after ∧
      (Report.mk source records).emitted = (specs.map (Job.mk unit)).map Job.target := by
  induction ledger with
  | nil => exact ⟨.nil _, rfl⟩
  | emitted _ generated _ inductionHypothesis =>
    obtain ⟨filled, names⟩ := inductionHypothesis successful
    exact ⟨.cons generated filled, congrArg (unit.qualify _ :: ·) names⟩
  | failed => cases successful

/-! ### Entries and stores without failures -/

/-- The jobs of an entry whose source is in a table. -/
def StoreEntry.jobs (sources : TextTable) (entry : StoreEntry) : List Job :=
  match entry.specs, entry.unit (.memory sources []) [] with
  | .ok specs, .ok unit => specs.map (Job.mk unit)
  | _, _ => []

/-- An entry that is expanded without failures. -/
structure StoreEntry.Emits [CharacterNames] (sources : TextTable) (entry : StoreEntry)
    (report : Report) (before after : TextTable) : Prop where
  source : report.source = entry.template.name
  made : ∃ unit specs, entry.unit (.memory sources []) [] = .ok unit ∧ entry.specs = .ok specs ∧
    entry.jobs sources = specs.map (Job.mk unit)
  filled : Filled before (entry.jobs sources) after
  emitted : report.emitted = (entry.jobs sources).map Job.target
  distinct : ((entry.jobs sources).map Job.target).Nodup
  notSource : entry.template.name ∉ (entry.jobs sources).map Job.target

theorem StoreEntry.emits_of_expand [CharacterNames] {sources table : TextTable}
    {refused : List Text} {entry : StoreEntry} {specs : List Spec} {report : Report}
    (made : entry.specs = .ok specs) (nonempty : specs ≠ [])
    (rooted : entry.template.name.head? ≠ some '.')
    (returned : (entry.expand (.memory sources refused) table).outcome = .ok report)
    (successful : report.successful = true) :
    entry.Emits sources report table (entry.expand (.memory sources refused) table).world := by
  have isSource := source_of_expand returned
  rw [StoreEntry.expand, made] at returned ⊢
  -- The unit does not depend on what has been emitted or is refused.
  have unit : entry.unit (.memory sources refused) table = entry.unit (.memory sources []) [] := rfl
  simp only [unit] at returned ⊢
  cases isUnit : entry.unit (.memory sources []) [] with
  | error abort =>
    exfalso
    simp only [isUnit] at returned
    split at returned
    · next other => cases other
    · cases returned
      cases specs with
      | nil => exact nonempty rfl
      | cons spec specs => cases successful
    · cases returned
  | ok unit =>
    simp only [isUnit] at returned ⊢
    have jobs : entry.jobs sources = specs.map (Job.mk unit) := by
      rw [StoreEntry.jobs, made, isUnit]
    unfold Expand.unit at returned ⊢
    rw [if_neg (fun empty => nonempty (List.isEmpty_iff.mp empty))] at returned ⊢
    obtain ⟨list, recorded, rfl⟩ := exists_ok_of_map returned
    obtain ⟨ledger, -⟩ := Expand.ledger_of_records sources recorded
    obtain ⟨filled, emitted⟩ := ledger.filled unit.name successful
    refine ⟨isSource, ⟨unit, specs, isUnit, made, jobs⟩, jobs ▸ filled, jobs ▸ emitted, ?_, ?_⟩
    · rw [jobs, ← emitted]
      exact ledger.nodup_emitted _
    · rw [jobs, ← emitted]
      intro member
      obtain ⟨target, same, notSource, -⟩ := ledger.of_mem_emitted _ member
      have named : unit.name = entry.template.name := isSource
      rw [← named] at same rooted
      exact notSource (qualifyName_inj ((qualifyName_package_simple _ rooted).trans same).symm)

/-- What holds of a store that is expanded without failures. -/
structure Store.Emits [CharacterNames] (sources : TextTable) (store : Store) (reports : List Report)
    (before after : TextTable) : Prop where
  emitted : reports.map (fun report => (report.source, report.emitted)) =
    store.map fun entry => (entry.template.name, (entry.jobs sources).map Job.target)
  filled : Filled before (store.flatMap (StoreEntry.jobs sources)) after
  entries : ∀ entry ∈ store,
    (∃ unit specs, entry.unit (.memory sources []) [] = .ok unit ∧ entry.specs = .ok specs ∧
      entry.jobs sources = specs.map (Job.mk unit)) ∧
    ((entry.jobs sources).map Job.target).Nodup ∧
    entry.template.name ∉ (entry.jobs sources).map Job.target

namespace Store

theorem emits_of_expand [CharacterNames] {sources table : TextTable} {refused : List Text}
    {store : Store} {reports : List Report}
    (made : ∀ entry ∈ store, ∃ specs, entry.specs = .ok specs ∧ specs ≠ [])
    (rooted : ∀ entry ∈ store, entry.template.name.head? ≠ some '.')
    (returned : (store.expand (.memory sources refused) table).outcome = .ok reports)
    (successful : ∀ report ∈ reports, report.successful = true) :
    store.Emits sources reports table
      (store.expand (.memory sources refused) table).world := by
  induction store generalizing table reports with
  | nil =>
    cases returned
    exact ⟨rfl, .nil _, fun _ member => (nomatch member)⟩
  | cons entry store inductionHypothesis =>
    rw [Store.expand] at returned ⊢
    split at returned
    · cases returned
    · next report first =>
      obtain ⟨others, rest, rfl⟩ := exists_ok_of_map returned
      obtain ⟨specs, isMade, nonempty⟩ := made entry List.mem_cons_self
      have here := StoreEntry.emits_of_expand isMade nonempty (rooted entry List.mem_cons_self)
        first (successful report List.mem_cons_self)
      have later := inductionHypothesis
        (fun other member => made other (List.mem_cons_of_mem _ member))
        (fun other member => rooted other (List.mem_cons_of_mem _ member)) rest
        fun other member => successful other (List.mem_cons_of_mem _ member)
      refine ⟨?_, ?_, List.forall_mem_cons.mpr
        ⟨⟨here.made, here.distinct, here.notSource⟩, later.entries⟩⟩
      · rw [List.map_cons, List.map_cons, later.emitted, here.source, here.emitted]
      · rw [List.flatMap_cons]
        exact here.filled.append later.filled

namespace Emits

variable {sources before after : TextTable} {store : Store} {reports : List Report}

theorem flatMap_emitted [CharacterNames] (emits : store.Emits sources reports before after) :
    reports.flatMap Report.emitted = (store.flatMap (StoreEntry.jobs sources)).map Job.target := by
  have names := congrArg (List.map Prod.snd) emits.emitted
  rw [List.map_map, List.map_map] at names
  rw [List.map_flatMap, List.flatMap_def, List.flatMap_def]
  exact congrArg List.flatten names

/-- The names are given once exactly if no two entries ask for the same one. -/
theorem nodup_iff [CharacterNames] (emits : store.Emits sources reports before after) :
    (reports.flatMap Report.emitted).Nodup ↔
      store.Pairwise fun first second => ∀ job ∈ first.jobs sources,
        ∀ other ∈ second.jobs sources, job.target ≠ other.target := by
  rw [emits.flatMap_emitted, List.map_flatMap, List.nodup_flatMap]
  refine (and_iff_right fun entry member => (emits.entries entry member).2.1).trans ?_
  refine iff_of_eq (congrArg (List.Pairwise · store) (funext fun first => funext fun second => ?_))
  simp only [Function.onFun, List.Disjoint, List.mem_map, forall_exists_index, and_imp, eq_iff_iff]
  constructor
  · intro apart job member other alsoMember same
    exact apart job member rfl other alsoMember same.symm
  · rintro apart name job member rfl other alsoMember same
    exact apart job member other alsoMember same.symm

/-- The name of a template is emitted exactly if another template asks for it. -/
theorem mem_emitted_iff [CharacterNames] (emits : store.Emits sources reports before after)
    {entry : StoreEntry} :
    entry.template.name ∈ reports.flatMap Report.emitted ↔
      ∃ other ∈ store, other.template.name ≠ entry.template.name ∧
        ∃ job ∈ other.jobs sources, job.target = entry.template.name := by
  rw [emits.flatMap_emitted, List.map_flatMap, List.mem_flatMap]
  constructor
  · rintro ⟨other, member, asked⟩
    refine ⟨other, member, fun same => ?_, List.mem_map.mp asked⟩
    rw [← same] at asked
    exact (emits.entries other member).2.2 asked
  · rintro ⟨other, member, -, asked⟩
    exact ⟨other, member, List.mem_map.mpr asked⟩

/-- Where names are given once, every job leaves its text. -/
theorem lookup_of_nodup [CharacterNames] (emits : store.Emits sources reports before after)
    (distinct : (reports.flatMap Report.emitted).Nodup) {entry : StoreEntry}
    (member : entry ∈ store) {job : Job} (inside : job ∈ entry.jobs sources) :
    ∃ text, (generate job.unit job.spec).outcome = .ok text ∧
      after.lookup job.target = some text := by
  obtain ⟨earlier, later, place⟩ :=
    List.append_of_mem (List.mem_flatMap.mpr ⟨entry, member, inside⟩)
  refine emits.filled.lookup_of_last place ?_
  rw [emits.flatMap_emitted, place, List.map_append, List.map_cons] at distinct
  exact (List.nodup_cons.mp (List.nodup_append.mp distinct).2.1).1

end Emits

end Store

/-- Where rules are expanded into an empty table and nothing fails, every subordinate has been
expanded, and the emitted names are those that the specs of each template ask for, in order. The
names of one template are different from each other and from its own; those of all templates are
different exactly if no two templates ask for the same one, and the name of a template is among them
exactly if another template asks for it. The table holds the text of the last spec that asked for a
name, and nothing under other names; so if all names are different, it holds the text of every
spec. -/
theorem expandRules_keeps_last_texts [CharacterNames] (file text : Text) (sources : TextTable)
    (refused : List Text) (reports : List Report)
    (returned : (expandRules (.memory sources refused) file text []).outcome = .ok reports)
    (successful : ∀ report ∈ reports, report.successful = true) :
    (∀ entry ∈ Store.ofRules [(file, text)],
      (∃ unit specs, entry.unit (.memory sources refused) [] = .ok unit ∧
        entry.specs = .ok specs ∧ specs.length = entry.subordinates.length ∧
        entry.jobs sources = specs.map (Job.mk unit)) ∧
      ((entry.jobs sources).map Job.target).Nodup ∧
      entry.template.name ∉ (entry.jobs sources).map Job.target ∧
      (entry.template.name ∈ reports.flatMap Report.emitted ↔
        ∃ other ∈ Store.ofRules [(file, text)], other.template.name ≠ entry.template.name ∧
          ∃ job ∈ other.jobs sources, job.target = entry.template.name)) ∧
    reports.map (fun report => (report.source, report.emitted)) =
      (Store.ofRules [(file, text)]).map (fun entry =>
        (entry.template.name, (entry.jobs sources).map Job.target)) ∧
    ((reports.flatMap Report.emitted).Nodup ↔
      (Store.ofRules [(file, text)]).Pairwise fun first second => ∀ job ∈ first.jobs sources,
        ∀ other ∈ second.jobs sources, job.target ≠ other.target) ∧
    (∀ earlier job later,
      (Store.ofRules [(file, text)]).flatMap (StoreEntry.jobs sources) = earlier ++ job :: later →
      job.target ∉ later.map Job.target →
      ∃ generated, (generate job.unit job.spec).outcome = .ok generated ∧
        (expandRules (.memory sources refused) file text []).world.lookup job.target =
          some generated) ∧
    (∀ name, name ∉ reports.flatMap Report.emitted →
      (expandRules (.memory sources refused) file text []).world.lookup name = none) ∧
    ((reports.flatMap Report.emitted).Nodup → ∀ entry ∈ Store.ofRules [(file, text)],
      ∀ job ∈ entry.jobs sources,
        ∃ generated, (generate job.unit job.spec).outcome = .ok generated ∧
          (expandRules (.memory sources refused) file text []).world.lookup job.target =
            some generated) := by
  have sound := Store.sound_ofRules [(file, text)]
  have rooted (entry : StoreEntry) (member : entry ∈ Store.ofRules [(file, text)]) :=
    head?_ne_dot_of_isDottedName
      (Store.isDottedName_of_mem_names (List.mem_map.mpr ⟨entry, member, rfl⟩))
  rw [expandRules] at returned ⊢
  dsimp only at returned ⊢
  split at returned
  · cases returned
  · next isRead =>
    have made (entry : StoreEntry) (member : entry ∈ Store.ofRules [(file, text)]) :
        ∃ specs, entry.specs = .ok specs ∧ specs ≠ [] := by
      obtain ⟨specs, isMade, same⟩ := sound.exists_specs member
      refine ⟨specs, isMade, fun empty => ?_⟩
      rw [empty] at same
      exact Store.subordinates_ne_nil_of_readRules isRead member
        (List.length_eq_zero_iff.mp same.symm)
    have emits := Store.emits_of_expand made rooted returned successful
    refine ⟨fun entry member => ?_, emits.emitted, emits.nodup_iff,
      fun _ _ _ place last => emits.filled.lookup_of_last place last, fun name absent => ?_,
      fun distinct _ member _ inside => emits.lookup_of_nodup distinct member inside⟩
    · obtain ⟨⟨unit, specs, isUnit, isMade, jobs⟩, distinct, notSource⟩ :=
        emits.entries entry member
      obtain ⟨others, alsoMade, same⟩ := sound.exists_specs member
      cases isMade.symm.trans alsoMade
      exact ⟨⟨unit, specs, isUnit, isMade, same, jobs⟩, distinct, notSource,
        emits.mem_emitted_iff⟩
    · rw [emits.flatMap_emitted] at absent
      exact emits.filled.lookup_of_not_mem absent

/-- Rules that declare two templates with a subordinate each. -/
def cellCageRules : Text :=
  ("Template: p.Cell\n\nInstantiation: #int\n- types: int\n\n" ++
    "Template: p.Cage\n\nDerivation: #coop\n- name: Coop\n").toList

/-- The sources of both. -/
def cellCageSources : TextTable := [
  ("p.Cell".toList, "@Template()\nclass Cell<T> \x7b T t; \x7d".toList),
  ("p.Cage".toList, "@Template()\nclass Cage \x7b Cage c; \x7d".toList)]

/-- The reports on both. -/
def cellCageReports : List Report := [
  ⟨"p.Cell".toList, [.emitted "p.CellInt".toList]⟩,
  ⟨"p.Cage".toList, [.emitted "p.Coop".toList]⟩]

section

attribute [local instance] CharacterNames.signs

theorem expandRules_keeps_last_texts_cell_cage :
    (expandRules (.memory cellCageSources []) [] cellCageRules []).outcome = .ok cellCageReports ∧
      (∀ report ∈ cellCageReports, report.successful = true) ∧
      (∀ entry ∈ Store.ofRules [([], cellCageRules)], ∀ job ∈ entry.jobs cellCageSources,
        ∃ generated, (generate job.unit job.spec).outcome = .ok generated ∧
          (expandRules (.memory cellCageSources []) [] cellCageRules []).world.lookup job.target =
            some generated) := by
  have returned : (expandRules (.memory cellCageSources []) [] cellCageRules []).outcome =
      .ok cellCageReports := by decide +kernel
  have successful : ∀ report ∈ cellCageReports, report.successful = true := by decide +kernel
  obtain ⟨-, -, -, -, -, held⟩ := expandRules_keeps_last_texts [] cellCageRules cellCageSources []
    cellCageReports returned successful
  exact ⟨returned, successful, held (by decide +kernel)⟩

end

/-- Rules in which a template asks for the name of another one, and both ask for one name. -/
def crossedRules : Text :=
  ("Template: p.Cell\n\nDerivation: #cage\n- name: Cage\n\nDerivation: #coop\n- name: Coop\n\n" ++
    "Template: p.Cage\n\nDerivation: #nest\n- name: Coop\n").toList

section

attribute [local instance] CharacterNames.signs

/-- Two templates that ask for one name are both reported as successful, and the table holds the text
of the second; and a template can be given the name of another. -/
theorem expandRules_loses_texts :
    (expandRules (.memory cellCageSources []) [] crossedRules []).outcome =
        .ok [⟨"p.Cell".toList, [.emitted "p.Cage".toList, .emitted "p.Coop".toList]⟩,
          ⟨"p.Cage".toList, [.emitted "p.Coop".toList]⟩] ∧
      (Store.ofRules [([], crossedRules)]).names = ["p.Cell".toList, "p.Cage".toList] ∧
      (expandRules (.memory cellCageSources []) [] crossedRules []).world = [
        ("p.Cage".toList, "// generated from p.Cell\nclass Cage<T> \x7b T t; \x7d".toList),
        ("p.Coop".toList, "// generated from p.Cage\nclass Coop \x7b Coop c; \x7d".toList)] := by
  have both : ((expandRules (.memory cellCageSources []) [] crossedRules []).outcome,
      (expandRules (.memory cellCageSources []) [] crossedRules []).world) =
      (.ok [⟨"p.Cell".toList, [.emitted "p.Cage".toList, .emitted "p.Coop".toList]⟩,
          ⟨"p.Cage".toList, [.emitted "p.Coop".toList]⟩], [
        ("p.Cage".toList, "// generated from p.Cell\nclass Cage<T> \x7b T t; \x7d".toList),
        ("p.Coop".toList, "// generated from p.Cage\nclass Coop \x7b Coop c; \x7d".toList)]) := by
    decide +kernel
  obtain ⟨outcome, world⟩ := Prod.mk.inj both
  exact ⟨outcome, by decide +kernel, world⟩

end

end Stencil
