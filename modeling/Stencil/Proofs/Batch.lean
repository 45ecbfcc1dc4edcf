/-
This file proves what a batch does to a table in memory. Every spec is tried once, in order, and
leaves one record. A trial either emits, and then the table holds the generated text under the
qualified target name, or it fails, and then the table is as it was; which of the two it is depends
on nothing but the spec, the target names asked for before it, and the names that are refused. From
this one step the facts about a whole batch follow by induction on the specs.
-/
import Stencil.Expand
import Stencil.Proofs.Generation

namespace Stencil

/-! ### Tables -/

section

variable {Key Value : Type} [BEq Key] [LawfulBEq Key]

theorem lookup_replaced_self (entries : List (Key × Value)) (key : Key) (value : Value) :
    (entries.filter (fun entry => entry.1 != key) ++ [(key, value)]).lookup key = some value := by
  have gone : (entries.filter fun entry => entry.1 != key).lookup key = none := by
    rw [List.lookup_eq_none_iff]
    intro entry member
    have different := (List.mem_filter.mp member).2
    rwa [bne_comm] at different
  rw [List.lookup_append, gone, List.lookup_cons_self]
  rfl

theorem lookup_replaced_of_ne (entries : List (Key × Value)) {key other : Key} (value : Value)
    (different : other ≠ key) :
    (entries.filter (fun entry => entry.1 != key) ++ [(key, value)]).lookup other =
      entries.lookup other := by
  have kept : (entries.filter fun entry => entry.1 != key).lookup other = entries.lookup other := by
    induction entries with
    | nil => rfl
    | cons entry entries inductionHypothesis =>
      by_cases same : entry.1 = key
      · have noMatch : (other == entry.1) = false := by
          rw [same]
          exact beq_eq_false_iff_ne.mpr different
        simp only [List.filter_cons, same, bne_self_eq_false, Bool.false_eq_true, if_false,
          inductionHypothesis]
        rw [List.lookup_cons, noMatch]
      · simp only [List.filter_cons, bne_iff_ne, ne_eq, same, not_false_eq_true, if_true]
        rw [List.lookup_cons, List.lookup_cons, inductionHypothesis]
  have last : List.lookup other [(key, value)] = none := by
    rw [List.lookup_cons, beq_eq_false_iff_ne.mpr different]
    rfl
  rw [List.lookup_append, kept, last, Option.or_none]

end

namespace TextTable

theorem lookup_put_self (table : TextTable) (name text : Text) :
    (table.put name text).lookup name = some text := lookup_replaced_self table name text

theorem lookup_put_of_ne (table : TextTable) {name other : Text} (text : Text)
    (different : other ≠ name) : (table.put name text).lookup other = table.lookup other :=
  lookup_replaced_of_ne table text different

end TextTable

/-! ### Qualified names -/

theorem qualifyName_inj {package first second : Text}
    (same : qualifyName package first = qualifyName package second) : first = second := by
  unfold qualifyName at same
  split at same
  · exact same
  · exact (List.cons.inj (List.append_cancel_left same)).2

/-- A name that does not begin with a dot is its simple name in its package. -/
theorem qualifyName_package_simple (name : Text) (rooted : name.head? ≠ some '.') :
    qualifyName (packageName name) (simpleName name) = name := by
  have split := List.takeWhile_append_dropWhile (p := (· != '.')) (l := name.reverse)
  have back := congrArg List.reverse split
  rw [List.reverse_append, List.reverse_reverse] at back
  cases rest : name.reverse.dropWhile (· != '.') with
  | nil =>
    rw [rest] at back
    have noPackage : packageName name = [] := by rw [packageName, rest]; rfl
    rw [noPackage]
    exact back
  | cons c package =>
    have dot : c = '.' := by
      have stops := List.head_dropWhile_not (· != '.') (l := name.reverse) (by rw [rest]; simp)
      simpa [rest] using stops
    rw [rest, List.reverse_cons, List.append_assoc, List.singleton_append, dot] at back
    have packaged : packageName name = package.reverse := by rw [packageName, rest]; rfl
    have nonempty : package.reverse.isEmpty = false := by
      cases package with
      | nil =>
        rw [← back] at rooted
        exact absurd rfl rooted
      | cons d package => simp
    rw [packaged, qualifyName, nonempty]
    exact back

namespace Expand

/-! ### Trying one spec -/

/-- The conditions under which a spec is emitted. `used` are the target names that specs before it
have asked for. -/
structure Accepted [CharacterNames] (refused : List Text) (unit : SourceUnit) (used : List Text)
    (spec : Spec) :
    Prop where
  count : spec.types.length = if spec.derivation then 0 else unit.parameters.length
  notSource : spec.target ≠ unit.simple
  unused : spec.target ∉ used
  generated : ∃ text, (generate unit spec).outcome = .ok text
  notRefused : unit.qualify spec.target ∉ refused

theorem validate_eq_ok_iff (unit : SourceUnit) (used : List Text) (spec : Spec) :
    validate unit used spec = .ok () ↔
      spec.types.length = (if spec.derivation then 0 else unit.parameters.length) ∧
        spec.target ≠ unit.simple ∧ spec.target ∉ used := by
  rw [validate]
  split
  · next withTypes => simp_all
  · split
    · next otherCount => simp_all
    · split
      · next isSource => simp_all
      · split
        · next taken => simp_all
        · next free => cases kind : spec.derivation <;> simp_all

section

variable {refused : List Text} {unit : SourceUnit} {used : List Text} {spec : Spec}

/-- An accepted spec is emitted. -/
theorem attempt_of_accepted [CharacterNames] (sources table : TextTable)
    (accepted : Accepted refused unit used spec) :
    ∃ text, (generate unit spec).outcome = .ok text ∧
      attempt (.memory sources refused) unit used table spec =
        ⟨table.put (unit.qualify spec.target) text, (generate unit spec).log, .ok ()⟩ := by
  obtain ⟨text, generated⟩ := accepted.generated
  have valid := (validate_eq_ok_iff unit used spec).mpr
    ⟨accepted.count, accepted.notSource, accepted.unused⟩
  refine ⟨text, generated, ?_⟩
  simp [attempt, valid, generated, Workspace.memory, accepted.notRefused]

/-- Any other spec ends in an abort or a failure, and the table stays. -/
theorem attempt_of_not_accepted [CharacterNames] (sources table : TextTable)
    (notAccepted : ¬ Accepted refused unit used spec) :
    ∃ log abort, attempt (.memory sources refused) unit used table spec =
        ⟨table, log, .error abort⟩ ∧ ∀ event ∈ log, event.errorPrints = [] := by
  unfold attempt
  split
  · exact ⟨_, _, rfl, fun event member => nomatch member⟩
  · next valid =>
    obtain ⟨count, notSource, unused⟩ := (validate_eq_ok_iff unit used spec).mp valid
    dsimp only
    split
    · exact ⟨_, _, rfl, (Generate.generates_generate unit spec).events⟩
    · next text generated =>
      have isRefused : unit.qualify spec.target ∈ refused := by
        apply Classical.byContradiction
        exact fun notRefused =>
          notAccepted ⟨count, notSource, unused, ⟨text, generated⟩, notRefused⟩
      have emit : (Workspace.memory sources refused).emit table (unit.qualify spec.target) text =
          (table,
            .error (.emitFailed ("cannot write `" ++ (unit.qualify spec.target).str ++ "`"))) :=
        if_pos (List.contains_iff_mem.mpr isRefused)
      rw [emit]
      exact ⟨_, _, rfl, (Generate.generates_generate unit spec).events⟩

end

/-! ### One spec after another -/

/-- What a batch does: the target names asked for before it, the table before it, its specs, their
records, and the table after it. -/
inductive Ledger [CharacterNames] (refused : List Text) (unit : SourceUnit) :
    (used : List Text) → (before : TextTable) → List Spec → List Record → (after : TextTable) → Prop
  | nil (used : List Text) (table : TextTable) : Ledger refused unit used table [] [] table
  | emitted {used : List Text} {before after : TextTable} {spec : Spec} {specs : List Spec}
      {records : List Record} {text : Text} (accepted : Accepted refused unit used spec)
      (generated : (generate unit spec).outcome = .ok text)
      (rest : Ledger refused unit (used ++ [spec.target])
        (before.put (unit.qualify spec.target) text) specs records after) :
      Ledger refused unit used before (spec :: specs)
        (.emitted (unit.qualify spec.target) :: records) after
  | failed {used : List Text} {before after : TextTable} {spec : Spec} {specs : List Spec}
      {records : List Record} (failure : Failure)
      (notAccepted : ¬ Accepted refused unit used spec)
      (rest : Ledger refused unit (used ++ [spec.target]) before specs records after) :
      Ledger refused unit used before (spec :: specs)
        (.failed (unit.qualify spec.target) failure :: records) after

/-- The error line of a failed target. -/
def errorLine (source target : Text) (failure : Failure) : String :=
  "error: " ++
    ("cannot expand `" ++ source.str ++ "` to `" ++ target.str ++ "`: " ++ failure.message)

/-- What a record prints on the error stream. -/
def errorsOf (source : Text) : Record → List String
  | .emitted _ => []
  | .failed target failure =>
    [errorLine source target failure]

theorem flatMap_errorPrints_of_noErrors {log : Log}
    (noErrors : ∀ event ∈ log, event.errorPrints = []) : log.flatMap Event.errorPrints = [] := by
  rw [List.flatMap_eq_nil_iff]
  exact noErrors

/-- A batch that ends with records is as its ledger says, and it prints what its records print. -/
theorem ledger_of_records [CharacterNames] (sources : TextTable) {refused : List Text}
    {unit : SourceUnit} {used : List Text} {table : TextTable} {specs : List Spec}
    {list : List Record}
    (returned : (records (.memory sources refused) unit used table specs).outcome = .ok list) :
    Ledger refused unit used table specs list
        (records (.memory sources refused) unit used table specs).world ∧
      (records (.memory sources refused) unit used table specs).log.flatMap Event.errorPrints =
        list.flatMap (errorsOf unit.name) := by
  induction specs generalizing used table list with
  | nil =>
    cases returned
    exact ⟨.nil used table, rfl⟩
  | cons spec specs inductionHypothesis =>
    rw [records] at returned ⊢
    by_cases accepted : Accepted refused unit used spec
    · obtain ⟨text, generated, tried⟩ := attempt_of_accepted sources table accepted
      have noErrors :=
        flatMap_errorPrints_of_noErrors (Generate.generates_generate unit spec).events
      simp only [tried] at returned ⊢
      obtain ⟨others, rest, rfl⟩ := exists_ok_of_map returned
      obtain ⟨ledger, errors⟩ := inductionHypothesis rest
      refine ⟨.emitted accepted generated ledger, ?_⟩
      rw [List.flatMap_append, noErrors, List.nil_append, List.flatMap_cons, errors,
        List.flatMap_cons]
      rfl
    · obtain ⟨log, abort, tried, noErrors⟩ := attempt_of_not_accepted sources table accepted
      have noErrors := flatMap_errorPrints_of_noErrors noErrors
      simp only [tried] at returned ⊢
      -- Only a failure lets the batch go on; any other abort would have ended it.
      cases abort with
      | failure failure =>
        obtain ⟨others, rest, rfl⟩ := exists_ok_of_map returned
        obtain ⟨ledger, errors⟩ := inductionHypothesis rest
        refine ⟨.failed failure accepted ledger, ?_⟩
        rw [List.flatMap_append, noErrors, List.nil_append, List.flatMap_cons, errors,
          List.flatMap_cons]
        rfl
      | _ => cases returned

/-! ### What a ledger says -/

namespace Ledger

variable {refused : List Text} {unit : SourceUnit} {used : List Text} {before after : TextTable}
  {specs : List Spec} {records : List Record}

theorem length_eq [CharacterNames] (ledger : Ledger refused unit used before specs records after) :
    records.length = specs.length := by
  induction ledger with
  | nil => rfl
  | emitted _ _ _ inductionHypothesis =>
    rw [List.length_cons, List.length_cons, inductionHypothesis]
  | failed _ _ _ inductionHypothesis =>
    rw [List.length_cons, List.length_cons, inductionHypothesis]

/-- An emitted name belongs to a target that nobody had asked for before the batch. -/
theorem of_mem_emitted [CharacterNames] (source : Text)
    (ledger : Ledger refused unit used before specs records after) {name : Text}
    (member : name ∈ (Report.mk source records).emitted) :
    ∃ target, name = unit.qualify target ∧ target ≠ unit.simple ∧ target ∉ used := by
  induction ledger with
  | nil => cases member
  | emitted accepted _ _ inductionHypothesis =>
    rcases List.mem_cons.mp member with same | later
    · exact ⟨_, same, accepted.notSource, accepted.unused⟩
    · obtain ⟨target, same, notSource, unused⟩ := inductionHypothesis later
      exact ⟨target, same, notSource, fun earlier => unused (List.mem_append_left _ earlier)⟩
  | failed _ _ _ inductionHypothesis =>
    obtain ⟨target, same, notSource, unused⟩ := inductionHypothesis member
    exact ⟨target, same, notSource, fun earlier => unused (List.mem_append_left _ earlier)⟩

/-- What has been asked for is not emitted afterwards. -/
theorem not_mem_emitted_of_used [CharacterNames] (source : Text)
    (ledger : Ledger refused unit used before specs records after) {target : Text}
    (asked : target ∈ used) : unit.qualify target ∉ (Report.mk source records).emitted := by
  intro member
  obtain ⟨other, same, -, unused⟩ := ledger.of_mem_emitted source member
  exact unused (qualifyName_inj same ▸ asked)

theorem nodup_emitted [CharacterNames] (source : Text)
    (ledger : Ledger refused unit used before specs records after) :
    (Report.mk source records).emitted.Nodup := by
  induction ledger with
  | nil => exact List.nodup_nil
  | emitted _ _ rest inductionHypothesis =>
    exact List.nodup_cons.mpr
      ⟨rest.not_mem_emitted_of_used source (List.mem_append_right _ List.mem_cons_self),
        inductionHypothesis⟩
  | failed _ _ _ inductionHypothesis => exact inductionHypothesis

/-- Names that are not emitted keep their texts. -/
theorem lookup_of_not_mem [CharacterNames] (source : Text)
    (ledger : Ledger refused unit used before specs records after) {name : Text}
    (absent : name ∉ (Report.mk source records).emitted) :
    after.lookup name = before.lookup name := by
  induction ledger with
  | nil => rfl
  | emitted _ _ _ inductionHypothesis =>
    obtain ⟨other, absent⟩ := not_or.mp fun either => absent (List.mem_cons.mpr either)
    rw [inductionHypothesis absent, TextTable.lookup_put_of_ne _ _ other]
  | failed _ _ _ inductionHypothesis => exact inductionHypothesis absent

/-- An accepted spec is emitted, and its text is in the table when the batch is over; any other spec
fails. -/
theorem record_at [CharacterNames] (ledger : Ledger refused unit used before specs records after)
    {earlier later : List Spec} {spec : Spec} (place : specs = earlier ++ spec :: later) :
    (Accepted refused unit (used ++ earlier.map Spec.target) spec ∧
      records[earlier.length]? = some (.emitted (unit.qualify spec.target)) ∧
      ∃ text, (generate unit spec).outcome = .ok text ∧
        after.lookup (unit.qualify spec.target) = some text) ∨
    (¬ Accepted refused unit (used ++ earlier.map Spec.target) spec ∧
      ∃ failure, records[earlier.length]? = some (.failed (unit.qualify spec.target) failure)) := by
  induction ledger generalizing earlier with
  | nil => cases earlier <;> cases place
  | emitted accepted generated rest inductionHypothesis =>
    cases earlier with
    | nil =>
      cases place
      rw [List.map_nil, List.append_nil]
      refine Or.inl ⟨accepted, rfl, _, generated, ?_⟩
      rw [rest.lookup_of_not_mem [] (rest.not_mem_emitted_of_used []
        (List.mem_append_right _ List.mem_cons_self)), TextTable.lookup_put_self]
    | cons first earlier =>
      cases place
      have there := inductionHypothesis rfl
      rwa [List.append_assoc] at there
  | failed failure notAccepted rest inductionHypothesis =>
    cases earlier with
    | nil =>
      cases place
      rw [List.map_nil, List.append_nil]
      exact Or.inr ⟨notAccepted, failure, rfl⟩
    | cons first earlier =>
      cases place
      have there := inductionHypothesis rfl
      rwa [List.append_assoc] at there

end Ledger

theorem flatMap_errorsOf (source : Text) (records : List Record) :
    records.flatMap (errorsOf source) =
      (Report.mk source records).failures.map fun failed => errorLine source failed.1 failed.2 := by
  induction records with
  | nil => rfl
  | cons record records inductionHypothesis =>
    rw [List.flatMap_cons, inductionHypothesis]
    cases record <;> rfl

/-- A batch that ends with a report has one record for each spec. A spec is emitted exactly if it is
accepted, and then the table holds its text under its name; all other names keep what they had. The
emitted names are different from each other and from the source, and what is printed on the error
stream is one line for each failure. -/
theorem unit_accounts_for_every_spec [CharacterNames] (sources table : TextTable)
    (refused : List Text) (unit : SourceUnit) (specs : List Spec) (report : Report)
    (rooted : unit.name.head? ≠ some '.')
    (returned : (Expand.unit (.memory sources refused) unit table specs).outcome = .ok report) :
    report.source = unit.name ∧
    report.records.length = specs.length ∧
    (∀ earlier spec later, specs = earlier ++ spec :: later →
      (Accepted refused unit (earlier.map Spec.target) spec ↔
        report.records[earlier.length]? = some (.emitted (unit.qualify spec.target))) ∧
      (¬ Accepted refused unit (earlier.map Spec.target) spec ↔
        ∃ failure, report.records[earlier.length]? =
          some (.failed (unit.qualify spec.target) failure)) ∧
      (Accepted refused unit (earlier.map Spec.target) spec →
        ∃ text, (generate unit spec).outcome = .ok text ∧
          (Expand.unit (.memory sources refused) unit table specs).world.lookup
            (unit.qualify spec.target) = some text)) ∧
    report.emitted.Nodup ∧
    unit.name ∉ report.emitted ∧
    (∀ name, name ∉ report.emitted →
      (Expand.unit (.memory sources refused) unit table specs).world.lookup name =
        table.lookup name) ∧
    (Expand.unit (.memory sources refused) unit table specs).log.flatMap Event.errorPrints =
      report.failures.map fun failed => errorLine unit.name failed.1 failed.2 := by
  unfold Expand.unit at returned ⊢
  split at returned
  · cases returned
  · next nonempty =>
    rw [if_neg nonempty]
    obtain ⟨list, recorded, rfl⟩ := exists_ok_of_map returned
    obtain ⟨ledger, errors⟩ := ledger_of_records sources recorded
    refine ⟨rfl, ledger.length_eq, ?_, ledger.nodup_emitted _, ?_, ?_, ?_⟩
    · intro earlier spec later place
      rcases ledger.record_at place with ⟨accepted, record, emitted⟩ | ⟨refusal, failure, record⟩
      · refine ⟨⟨fun _ => record, fun _ => accepted⟩, ⟨fun refusal => absurd accepted refusal, ?_⟩,
          fun _ => emitted⟩
        rintro ⟨failure, other⟩
        cases record.symm.trans other
      · refine ⟨⟨fun accepted => absurd accepted refusal, fun other => ?_⟩,
          ⟨fun _ => ⟨failure, record⟩, fun _ => refusal⟩, fun accepted => absurd accepted refusal⟩
        cases record.symm.trans other
    · intro member
      obtain ⟨target, same, notSource, -⟩ := ledger.of_mem_emitted _ member
      have whole := qualifyName_package_simple unit.name rooted
      exact notSource (qualifyName_inj (whole.trans same).symm)
    · intro name absent
      exact ledger.lookup_of_not_mem _ absent
    · exact errors.trans (flatMap_errorsOf unit.name list)

/-- A unit with one type parameter. -/
def cellUnit : SourceUnit where
  name := "p.Cell".toList
  text := "class Cell<T> \x7b T t; \x7d".toList
  parameters := [['T']]
  markers := []
  imports := []
  sigil := SourceUnit.defaultSigil

/-- A spec that is emitted, one that asks for the same name, one whose name is refused, one that
asks for the source's name, and a derivation. -/
def cellSpecs : List Spec := [
  ⟨"IntCell".toList, ["int".toList], [], false⟩,
  ⟨"IntCell".toList, ["long".toList], [], false⟩,
  ⟨"LongCell".toList, ["long".toList], [], false⟩,
  ⟨"Cell".toList, ["int".toList], [], false⟩,
  ⟨"Cage".toList, [], [], true⟩]

/-- The report on these specs. -/
def cellReport : Report :=
  ⟨"p.Cell".toList, [
    .emitted "p.IntCell".toList,
    .failed "p.IntCell".toList (.targetTaken "IntCell".toList),
    .failed "p.LongCell".toList (.emitFailed "cannot write `p.LongCell`"),
    .failed "p.Cell".toList (.targetIsSource "Cell".toList),
    .emitted "p.Cage".toList]⟩

section

attribute [local instance] CharacterNames.signs

theorem unit_accounts_for_every_spec_cell :
    (Expand.unit (.memory [] ["p.LongCell".toList]) cellUnit [] cellSpecs).outcome =
        .ok cellReport ∧
      Accepted ["p.LongCell".toList] cellUnit [] ⟨"IntCell".toList, ["int".toList], [], false⟩ ∧
      ¬ Accepted ["p.LongCell".toList] cellUnit ["IntCell".toList]
        ⟨"IntCell".toList, ["long".toList], [], false⟩ ∧
      cellReport.emitted.Nodup ∧ cellUnit.name ∉ cellReport.emitted := by
  have returned : (Expand.unit (.memory [] ["p.LongCell".toList]) cellUnit [] cellSpecs).outcome =
      .ok cellReport := by decide +kernel
  obtain ⟨-, -, recorded, distinct, notSource, -, -⟩ := unit_accounts_for_every_spec [] []
    ["p.LongCell".toList] cellUnit cellSpecs cellReport (by decide +kernel) returned
  exact ⟨returned, (recorded [] _ _ rfl).1.mpr rfl, (recorded [_] _ _ rfl).2.1.mpr ⟨_, rfl⟩,
    distinct, notSource⟩

end

end Expand

end Stencil
