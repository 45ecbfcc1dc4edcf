/-
This file proves how far the failure of one spec reaches in its batch. A spec that cannot be
validated, generated or emitted is recorded as failed, and the batch goes on. The exception are
pattern rules that are refused with something else than a fault: a number of rounds that is too
large, flags that exclude each other, and a reference to a name that no group of the pattern has.
Nobody foresees these, so that the first spec that meets one takes the batch with it, and what is
left are the units that earlier specs have emitted.

A batch comes to its end exactly if no spec meets such a refusal in its place; and each of the three
has its reason in the texts of the rule, so that rules without them are contained.
-/
import Stencil.Proofs.Batch
import Stencil.Proofs.Refusals
import Stencil.Proofs.StoreExpansion

namespace Stencil

/-! ### Rules that end more than their spec -/

theorem Refusal.unforeseen?_eq_some_iff (refusal : Refusal) (failureOf : Fault → Failure)
    (abort : Abort) :
    refusal.unforeseen? = some abort ↔
      refusal.abort failureOf = abort ∧ abort.isFailure = false := by
  cases refusal <;> simp only [unforeseen?, Refusal.abort] <;> grind [Abort.isFailure]

namespace Rule

/-- A pattern rule meets an unforeseen refusal at a text. The substitute is read only where the
pattern matches. -/
structure Derails [CharacterNames] (rule : Rule) (text : Text) (abort : Abort) : Prop where
  unforeseen : rule.Unforeseen abort
  occurs : ∀ pattern, Pattern.ofText rule.pattern = .ok pattern → pattern.occursIn text = true

theorem derails_iff [CharacterNames] (rule : Rule) (owner text : Text) (abort : Abort) :
    rule.Derails text abort ↔
      rule.apply owner text = .error abort ∧ abort.isFailure = false := by
  constructor
  · rintro ⟨⟨isRegex, refused, unforeseen⟩ | ⟨isRegex, read, refused, unforeseen⟩, occurs⟩
    · rw [Refusal.unforeseen?_eq_some_iff _ (.badPattern owner rule.pattern)] at unforeseen
      rw [apply, if_pos isRegex, applyPattern, refused]
      exact ⟨congrArg Except.error unforeseen.1, unforeseen.2⟩
    · rw [Refusal.unforeseen?_eq_some_iff _ (.badSubstitute owner rule.pattern rule.substitute)]
        at unforeseen
      rw [apply, if_pos isRegex, applyPattern, read]
      simp only [occurs _ read, refused, if_true]
      exact ⟨congrArg Except.error unforeseen.1, unforeseen.2⟩
  · rintro ⟨ended, notFailure⟩
    rw [apply] at ended
    split at ended
    · next isRegex =>
      rw [applyPattern] at ended
      split at ended
      · next refusal refused =>
        cases ended
        refine ⟨.pattern isRegex refused
          ((Refusal.unforeseen?_eq_some_iff _ _ _).2 ⟨rfl, notFailure⟩), fun pattern read => ?_⟩
        cases refused.symm.trans read
      · next pattern read =>
        split at ended
        · next occurs =>
          split at ended
          · next refusal refused =>
            cases ended
            refine ⟨.substitute isRegex read refused
              ((Refusal.unforeseen?_eq_some_iff _ _ _).2 ⟨rfl, notFailure⟩), fun other same => ?_⟩
            cases read.symm.trans same
            exact occurs
          · cases ended
        · split at ended <;> cases ended
          cases notFailure
    · rw [applyLiteral] at ended
      split at ended
      · cases ended
      · split at ended <;> cases ended
        cases notFailure

end Rule

/-! ### Specs that end more than themselves -/

namespace Generate

/-- Rules applied to a text, one after another. -/
def applied [CharacterNames] (owner : Text) (rules : List Rule) (text : Text) : Except Abort Text :=
  rules.foldlM (fun text rule => rule.apply owner text) text

theorem outcome_withRules [CharacterNames] (owner : Text) (rules : List Rule) (text : Text) :
    (withRules owner rules text).outcome = applied owner rules text := by
  induction rules generalizing text with
  | nil => rfl
  | cons rule rules inductionHypothesis =>
    rw [withRules, Run.outcome_bind, withRule, outcome_step, applied, List.foldlM_cons]
    exact congrArg _ (funext inductionHypothesis)

/-- Rules end where one of them ends that is reached. -/
theorem applied_eq_error_iff [CharacterNames] (owner : Text) (rules : List Rule) (text : Text)
    (abort : Abort) :
    applied owner rules text = .error abort ↔
      ∃ before rule after reached, rules = before ++ rule :: after ∧
        applied owner before text = .ok reached ∧ rule.apply owner reached = .error abort := by
  induction rules generalizing text with
  | nil =>
    constructor
    · intro ended
      cases ended
    · rintro ⟨before, rule, after, -, split, -⟩
      simp at split
  | cons first rules inductionHypothesis =>
    rw [applied, List.foldlM_cons]
    cases tried : first.apply owner text with
    | error other =>
      constructor
      · intro ended
        cases ended
        exact ⟨[], first, rules, text, rfl, rfl, tried⟩
      · rintro ⟨before, rule, after, reached, split, passed, ended⟩
        cases before with
        | nil =>
          cases split
          cases passed
          exact tried.symm.trans ended
        | cons other before =>
          cases split
          rw [applied, List.foldlM_cons, tried] at passed
          cases passed
    | ok next =>
      refine (inductionHypothesis next).trans ⟨?_, ?_⟩
      · rintro ⟨before, rule, after, reached, rfl, passed, ended⟩
        refine ⟨first :: before, rule, after, reached, rfl, ?_, ended⟩
        rw [applied, List.foldlM_cons, tried]
        exact passed
      · rintro ⟨before, rule, after, reached, split, passed, ended⟩
        cases before with
        | nil =>
          cases split
          cases passed
          cases tried.symm.trans ended
        | cons other before =>
          cases split
          rw [applied, List.foldlM_cons, tried] at passed
          exact ⟨before, rule, after, reached, rfl, passed, ended⟩

/-- The steps of a generation behind its rules. -/
def completed [CharacterNames] (unit : SourceUnit) (spec : Spec) (placeholder : Placeholder)
    (text : Text) :
    Run Text := do
  let text ← withTypes unit.name (bindings unit spec) text
  let text ← withName unit spec text
  let text ← placeholder.unprotect text
  return provenance unit ++ text

theorem exists_completed [CharacterNames] (unit : SourceUnit) (spec : Spec)
    (placeholder : Placeholder) (text : Text) :
    ∃ result, (completed unit spec placeholder text).outcome = .ok result := by
  have ends : EndsIn (fun _ => False) (completed unit spec placeholder text) := by
    refine (endsIn_withTypes _ _ _).bind fun _ =>
      (endsIn_wholeIdentifier _ _ _ _ _).bind fun text => ?_
    refine Run.Only.bind ⟨errorPrints_unprotectFrom placeholder none text, ?_⟩
      fun _ => Run.Only.pure _
    intro abort ended
    cases ended
  cases ended : (completed unit spec placeholder text).outcome with
  | ok result => exact ⟨result, rfl⟩
  | error abort => exact (ends.abort abort ended).elim

theorem outcome_generate_ruled [CharacterNames] (unit : SourceUnit) (spec : Spec) :
    (generate unit spec).outcome = (do
      let placeholder ← Placeholder.choose (markerSeed unit spec)
      let text ← ending unit.cleaned
      let text ← ending (headed unit spec placeholder text)
      let text ← applied unit.name spec.rules text
      (completed unit spec placeholder text).outcome) := by
  rw [generate, Run.outcome_bind, Run.outcome_quiet]
  refine congrArg _ (funext fun placeholder => ?_)
  rw [Run.outcome_bind, outcome_withoutDirectives, SourceUnit.cleaned]
  cases unit.markers.foldlM (fun text marker => Directive.stripAll unit.sigil marker text)
      unit.text with
  | error failure => rfl
  | ok stripped =>
    simp only [ending, Except.map, Run.outcome_bind, outcome_withoutImports, outcome_withHeader,
      outcome_withRules, completed]
    rfl

/-- A generation ends in anything but a failure exactly where one of its rules does. -/
theorem generate_eq_error_iff [CharacterNames] {unit : SourceUnit} {spec : Spec}
    {placeholder : Placeholder}
    (chosen : Placeholder.choose (markerSeed unit spec) = .ok placeholder) {abort : Abort}
    (notFailure : abort.isFailure = false) :
    (generate unit spec).outcome = .error abort ↔
      ∃ cleaned hidden, unit.cleaned = .ok cleaned ∧
        headed unit spec placeholder cleaned = .ok hidden ∧
        applied unit.name spec.rules hidden = .error abort := by
  have failed (failure : Failure) :
      (.error (.failure failure) : Except Abort Text) ≠ .error abort := by
    intro same
    cases same
    cases notFailure
  rw [outcome_generate_ruled, chosen]
  cases isCleaned : unit.cleaned with
  | error failure =>
    refine ⟨fun ended => absurd ended (failed failure), ?_⟩
    rintro ⟨cleaned, hidden, same, -⟩
    cases same
  | ok cleaned =>
    change (ending (headed unit spec placeholder cleaned) >>= _) = _ ↔ _
    cases isHidden : headed unit spec placeholder cleaned with
    | error failure =>
      refine ⟨fun ended => absurd ended (failed failure), ?_⟩
      rintro ⟨other, hidden, same, replaced, -⟩
      cases same
      cases isHidden.symm.trans replaced
    | ok hidden =>
      change (applied unit.name spec.rules hidden >>= _) = _ ↔ _
      constructor
      · intro ended
        refine ⟨cleaned, hidden, rfl, isHidden, ?_⟩
        cases applies : applied unit.name spec.rules hidden with
        | error other =>
          rw [applies] at ended
          cases ended
          rfl
        | ok text =>
          obtain ⟨result, isCompleted⟩ := exists_completed unit spec placeholder text
          rw [applies] at ended
          cases isCompleted.symm.trans ended
      · rintro ⟨other, others, same, replaced, ended⟩
        cases same
        cases isHidden.symm.trans replaced
        rw [ended]
        rfl

end Generate

namespace Expand

open Generate

/-- A spec meets an unforeseen refusal in its place, behind specs that have asked for some targets:
it is valid, the source can be cleaned and its header replaced, and the rules before the one that is
refused can be applied. -/
inductive Derails [CharacterNames] (unit : SourceUnit) (used : List Text) (spec : Spec)
    (abort : Abort) : Prop
  | of {placeholder : Placeholder} {cleaned hidden reached : Text} {before after : List Rule}
      {rule : Rule} (valid : validate unit used spec = .ok ())
      (chosen : Placeholder.choose (markerSeed unit spec) = .ok placeholder)
      (isCleaned : unit.cleaned = .ok cleaned)
      (isHidden : headed unit spec placeholder cleaned = .ok hidden)
      (rules : spec.rules = before ++ rule :: after)
      (isReached : applied unit.name before hidden = .ok reached)
      (derails : rule.Derails reached abort)

section

variable (sources : TextTable) (refused : List Text) {unit : SourceUnit} {used : List Text}

theorem attempt_of_derails [CharacterNames] (table : TextTable) {spec : Spec} {abort : Abort}
    (derails : Derails unit used spec abort) :
    abort.isFailure = false ∧
      (attempt (.memory sources refused) unit used table spec).outcome = .error abort := by
  obtain ⟨valid, chosen, isCleaned, isHidden, rules, isReached, derails⟩ := derails
  obtain ⟨ended, notFailure⟩ := (Rule.derails_iff _ unit.name _ _).1 derails
  have generated : (generate unit spec).outcome = .error abort :=
    (generate_eq_error_iff chosen notFailure).2 ⟨_, _, isCleaned, isHidden,
      (applied_eq_error_iff _ _ _ _).2 ⟨_, _, _, _, rules, isReached, ended⟩⟩
  refine ⟨notFailure, ?_⟩
  simp only [attempt, valid, generated]

/-- Where a marker is free, only such specs end in anything but a text or a failure; they leave the
table as it is. -/
theorem derails_of_attempt [CharacterNames] {table : TextTable} {spec : Spec} {marker : Char}
    (isMarker : isMarkerChar marker = true) (free : marker ∉ markerSeed unit spec) {abort : Abort}
    (notFailure : abort.isFailure = false)
    (ended : (attempt (.memory sources refused) unit used table spec).outcome = .error abort) :
    Derails unit used spec abort ∧
      (attempt (.memory sources refused) unit used table spec).world = table := by
  obtain ⟨placeholder, chosen⟩ := Placeholder.exists_choose isMarker free
  have generated := (attempt_eq_error ended).resolve_left (by simp [notFailure])
  cases valid : validate unit used spec with
  | error failure =>
    simp only [attempt, valid] at ended
    cases ended
    cases notFailure
  | ok _ =>
    obtain ⟨cleaned, hidden, isCleaned, isHidden, applies⟩ :=
      (generate_eq_error_iff chosen notFailure).1 generated
    obtain ⟨before, rule, after, reached, rules, isReached, ended⟩ :=
      (applied_eq_error_iff _ _ _ _).1 applies
    refine ⟨.of valid chosen isCleaned isHidden rules isReached ?_, ?_⟩
    · exact (Rule.derails_iff _ _ _ _).2 ⟨ended, notFailure⟩
    · simp only [attempt, valid, generated]

/-- A batch goes on behind a spec that was emitted or has failed, and it ends at any other. -/
theorem records_cons [CharacterNames] {World : Type} (workspace : Workspace World)
    (unit : SourceUnit) (used : List Text) (world : World) (spec : Spec) (specs : List Spec) :
    (∃ record,
      (records workspace unit used world (spec :: specs)).outcome =
        (records workspace unit (used ++ [spec.target])
          (attempt workspace unit used world spec).world specs).outcome.map (record :: ·) ∧
      (records workspace unit used world (spec :: specs)).world =
        (records workspace unit (used ++ [spec.target])
          (attempt workspace unit used world spec).world specs).world ∧
      ∀ abort, (attempt workspace unit used world spec).outcome = .error abort →
        abort.isFailure = true) ∨
    ∃ abort, abort.isFailure = false ∧
      (attempt workspace unit used world spec).outcome = .error abort ∧
      (records workspace unit used world (spec :: specs)).outcome = .error abort ∧
      (records workspace unit used world (spec :: specs)).world =
        (attempt workspace unit used world spec).world := by
  rw [records]
  cases tried : (attempt workspace unit used world spec).outcome with
  | ok _ =>
    refine .inl ⟨_, rfl, rfl, fun abort ended => ?_⟩
    cases ended
  | error abort =>
    cases abort with
    | failure failure =>
      refine .inl ⟨_, rfl, rfl, fun abort ended => ?_⟩
      cases ended
      rfl
    | _ => exact .inr ⟨_, rfl, rfl, rfl, rfl⟩

/-- A batch that ends with records has no spec that derails. -/
theorem not_derails_of_records [CharacterNames] {table : TextTable} {specs : List Spec}
    {list : List Record}
    (returned : (records (.memory sources refused) unit used table specs).outcome = .ok list)
    {earlier later : List Spec} {spec : Spec} (split : specs = earlier ++ spec :: later)
    (abort : Abort) : ¬ Derails unit (used ++ earlier.map Spec.target) spec abort := by
  induction earlier generalizing used table specs list with
  | nil =>
    subst split
    intro derails
    rw [List.map_nil, List.append_nil] at derails
    obtain ⟨notFailure, ended⟩ := attempt_of_derails sources refused table derails
    rcases records_cons (.memory sources refused) unit used table spec later with
      ⟨_, -, -, failures⟩ | ⟨_, -, -, others, -⟩
    · rw [failures abort ended] at notFailure
      cases notFailure
    · cases returned.symm.trans others
  | cons first earlier inductionHypothesis =>
    subst split
    rcases records_cons (.memory sources refused) unit used table first (earlier ++ spec :: later)
      with ⟨_, goesOn, -, -⟩ | ⟨_, -, -, others, -⟩
    · obtain ⟨_, rest, -⟩ := exists_ok_of_map (goesOn.symm.trans returned)
      rw [List.map_cons, List.append_cons]
      exact inductionHypothesis rest rfl
    · cases returned.symm.trans others

/-- A batch that ends otherwise ends at the first spec that derails, behind the records of the specs
before it. -/
theorem derails_of_records [CharacterNames] {table : TextTable} {specs : List Spec} {abort : Abort}
    (free : ∀ spec ∈ specs, ∃ marker, isMarkerChar marker = true ∧ marker ∉ markerSeed unit spec)
    (ended : (records (.memory sources refused) unit used table specs).outcome = .error abort) :
    ∃ earlier spec later list, specs = earlier ++ spec :: later ∧
      Derails unit (used ++ earlier.map Spec.target) spec abort ∧
      (records (.memory sources refused) unit used table earlier).outcome = .ok list ∧
      (records (.memory sources refused) unit used table specs).world =
        (records (.memory sources refused) unit used table earlier).world := by
  induction specs generalizing used table with
  | nil => cases ended
  | cons first specs inductionHypothesis =>
    obtain ⟨marker, isMarker, isFree⟩ := free first List.mem_cons_self
    rcases records_cons (.memory sources refused) unit used table first specs with
      ⟨_, goesOn, world, failures⟩ | ⟨other, notFailure, tried, others, world⟩
    · obtain ⟨earlier, spec, later, list, rfl, derails, returned, same⟩ :=
        inductionHypothesis (fun spec member => free spec (List.mem_cons_of_mem _ member))
          (eq_error_of_map (goesOn.symm.trans ended))
      rw [List.append_assoc] at derails
      rcases records_cons (.memory sources refused) unit used table first earlier with
        ⟨record, goesOn, before, -⟩ | ⟨other, notFailure, tried, -, -⟩
      · refine ⟨first :: earlier, spec, later, record :: list, rfl, derails, ?_, ?_⟩
        · rw [goesOn, returned]
          rfl
        · rw [world, before, same]
      · rw [failures other tried] at notFailure
        cases notFailure
    · cases ended.symm.trans others
      obtain ⟨derails, unchanged⟩ :=
        derails_of_attempt sources refused isMarker isFree notFailure tried
      refine ⟨[], first, specs, [], rfl, ?_, rfl, world.trans unchanged⟩
      rwa [List.map_nil, List.append_nil]

end

/-- A batch with specs, where each has a marker left to choose, comes to its end exactly if none of
its specs derails in its place. Then the report has what each spec came to, in order, and the errors
are those of the failed ones. Otherwise the first spec that derails ends the batch with its abort:
of the specs before it the units are left that they have emitted, those behind it are not looked
at, and the reason is in the texts of one of its pattern rules. -/
theorem unit_contains_failures [CharacterNames] (sources table : TextTable) (refused : List Text)
    (unit : SourceUnit) (specs : List Spec) (nonempty : specs ≠ [])
    (free : ∀ spec ∈ specs, ∃ marker, isMarkerChar marker = true ∧ marker ∉ markerSeed unit spec) :
    ((∃ report, (Expand.unit (.memory sources refused) unit table specs).outcome = .ok report) ↔
      ∀ earlier spec later, specs = earlier ++ spec :: later →
        ∀ abort, ¬ Derails unit (earlier.map Spec.target) spec abort) ∧
    (∀ report, (Expand.unit (.memory sources refused) unit table specs).outcome = .ok report →
      report.source = unit.name ∧
      Ledger refused unit [] table specs report.records
        (Expand.unit (.memory sources refused) unit table specs).world ∧
      (Expand.unit (.memory sources refused) unit table specs).log.flatMap Event.errorPrints =
        report.records.flatMap (errorsOf unit.name)) ∧
    ∀ abort, (Expand.unit (.memory sources refused) unit table specs).outcome = .error abort →
      ∃ earlier spec later list, specs = earlier ++ spec :: later ∧
        Derails unit (earlier.map Spec.target) spec abort ∧
        Ledger refused unit [] table earlier list
          (Expand.unit (.memory sources refused) unit table specs).world ∧
        ∃ rule ∈ spec.rules, rule.isRegex = true ∧ abort.ReasonIn rule := by
  have batch : Expand.unit (.memory sources refused) unit table specs =
      ⟨(records (.memory sources refused) unit [] table specs).world,
        (records (.memory sources refused) unit [] table specs).log,
        (records (.memory sources refused) unit [] table specs).outcome.map fun records =>
          ⟨unit.name, records⟩⟩ :=
    if_neg fun empty => nonempty (List.isEmpty_iff.mp empty)
  rw [batch]
  dsimp only
  refine ⟨⟨?_, fun contained => ?_⟩, ?_, ?_⟩
  · rintro ⟨report, returned⟩ earlier spec later split abort
    obtain ⟨list, returned, -⟩ := exists_ok_of_map returned
    exact not_derails_of_records sources refused returned split abort
  · cases ended : (records (.memory sources refused) unit [] table specs).outcome with
    | ok list => exact ⟨⟨unit.name, list⟩, rfl⟩
    | error abort =>
      obtain ⟨earlier, spec, later, -, split, derails, -⟩ :=
        derails_of_records sources refused free ended
      exact absurd derails (contained earlier spec later split abort)
  · intro report returned
    obtain ⟨list, listed, rfl⟩ := exists_ok_of_map returned
    exact ⟨rfl, ledger_of_records sources listed⟩
  · intro abort ended
    obtain ⟨earlier, spec, later, list, split, derails, returned, world⟩ :=
      derails_of_records sources refused free (eq_error_of_map ended)
    refine ⟨earlier, spec, later, list, split, derails, ?_, ?_⟩
    · rw [world]
      exact (ledger_of_records sources returned).1
    · obtain ⟨-, -, -, -, rules, -, derails⟩ := derails
      exact ⟨_, by rw [rules]; simp, derails.unforeseen.reasonIn⟩

/-- A spec with a pattern that is refused with a fault. -/
def faultySpec : Spec :=
  ⟨"IntCell".toList, ["int".toList], [⟨"(;".toList, [], true, false⟩], false⟩

/-- A spec whose substitute refers to a name that its pattern gives to no group. -/
def derailedSpec : Spec :=
  ⟨"IntCell".toList, ["int".toList],
    [⟨"(?P<sign>;)".toList, "\\g<mark>".toList, true, false⟩], false⟩

/-- A spec without rules. -/
def plainSpec : Spec := ⟨"LongCell".toList, ["long".toList], [], false⟩

/-- The report on both. -/
def cellFaulty : Report :=
  ⟨"p.Cell".toList,
    [.failed "p.IntCell".toList
      (.badPattern "p.Cell".toList "(;".toList ⟨.unterminatedGroup, some 0⟩),
      .emitted "p.LongCell".toList]⟩

section

attribute [local instance] CharacterNames.signs

theorem unit_contains_failures_cell :
    (∀ spec ∈ [faultySpec, plainSpec],
      ∃ marker, isMarkerChar marker = true ∧ marker ∉ markerSeed cellUnit spec) ∧
    (Expand.unit (.memory [] []) cellUnit [] [faultySpec, plainSpec]).outcome = .ok cellFaulty ∧
    (∀ abort, ¬ Derails cellUnit [] faultySpec abort) ∧
    (Expand.unit (.memory [] []) cellUnit [] [faultySpec, plainSpec]).log.flatMap
        Event.errorPrints =
      [errorLine "p.Cell".toList "p.IntCell".toList
        (.badPattern "p.Cell".toList "(;".toList ⟨.unterminatedGroup, some 0⟩)] := by
  have free : ∀ spec ∈ [faultySpec, plainSpec],
      ∃ marker, isMarkerChar marker = true ∧ marker ∉ markerSeed cellUnit spec := by
    intro spec member
    refine ⟨Char.ofNat 0xF8FF, by decide, ?_⟩
    revert spec
    decide
  have returned : (Expand.unit (.memory [] []) cellUnit [] [faultySpec, plainSpec]).outcome =
      .ok cellFaulty := by decide +kernel
  obtain ⟨contains, recorded, -⟩ :=
    unit_contains_failures [] [] [] cellUnit [faultySpec, plainSpec] (by decide) free
  obtain ⟨-, -, errors⟩ := recorded cellFaulty returned
  exact ⟨free, returned, contains.1 ⟨_, returned⟩ [] faultySpec [plainSpec] rfl, errors⟩

end

section

attribute [local instance] CharacterNames.signs

/-- One spec takes the other one with it, which is emitted by itself. -/
theorem unit_ends_at_unknown_group :
    Char.ofNat 0xF8FF ∉ markerSeed cellUnit derailedSpec ∧
      Char.ofNat 0xF8FF ∉ markerSeed cellUnit plainSpec ∧
      (Expand.unit (.memory [] []) cellUnit [] [derailedSpec, plainSpec]).outcome =
        .error (.unknownGroup "mark".toList) ∧
      (Expand.unit (.memory [] []) cellUnit [] [derailedSpec, plainSpec]).world = [] ∧
      (Expand.unit (.memory [] []) cellUnit [] [plainSpec]).outcome =
        .ok ⟨"p.Cell".toList, [.emitted "p.LongCell".toList]⟩ := by
  exact ⟨by decide, by decide, by decide +kernel, by decide +kernel, by decide +kernel⟩

end

end Expand

end Stencil
