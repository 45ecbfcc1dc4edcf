/-
This file proves what a generation computes. The log apart, a run is a chain of steps each of which
may end it, so that its outcome is the chain of the outcomes of its steps. Where the source name and
the type parameters are words, the last steps cannot fail, and they are replacements of words.
-/
import Stencil.Generate
import Stencil.Proofs.Outcomes
import Stencil.Proofs.Placeholders
import Stencil.Proofs.Sources
import Stencil.Proofs.WholeIdentifier

namespace Stencil

/-! ### The steps of a generation -/

/-- The text of a unit without its directives and without the imports that go. -/
def SourceUnit.cleaned (unit : SourceUnit) : Except Failure Text :=
  (unit.markers.foldlM (fun text marker => Directive.stripAll unit.sigil marker text)
    unit.text).map fun text => unit.imports.foldl (fun text name => Import.erase name text) text

namespace Generate

theorem eq_ok_of_ending {Result : Type} {outcome : Except Failure Result} {result : Result}
    (returned : ending outcome = .ok result) : outcome = .ok result := by
  cases outcome <;> cases returned
  rfl

theorem outcome_step (label : String) (transform : Text → Except Abort Text) (text : Text) :
    (step label transform text).outcome = transform text := by
  rw [step, Run.outcome_bind, Run.outcome_quiet]
  cases transform text <;> rfl

theorem outcome_withoutDirectives (unit : SourceUnit) (markers : List Marker) (text : Text) :
    (withoutDirectives unit markers text).outcome =
      ending (markers.foldlM (fun text marker => Directive.stripAll unit.sigil marker text)
        text) := by
  induction markers generalizing text with
  | nil => rfl
  | cons marker markers inductionHypothesis =>
    rw [withoutDirectives, Run.outcome_bind, outcome_step, List.foldlM_cons]
    cases Directive.stripAll unit.sigil marker text with
    | error failure => rfl
    | ok stripped => exact inductionHypothesis stripped

theorem outcome_withoutImports (names : List Text) (text : Text) :
    (withoutImports names text).outcome =
      .ok (names.foldl (fun text name => Import.erase name text) text) := by
  induction names generalizing text with
  | nil => rfl
  | cons name names inductionHypothesis =>
    rw [withoutImports, Run.outcome_bind, outcome_step]
    exact inductionHypothesis _

/-- The words that an instantiation replaces and what replaces them: the type parameters in order,
and the source name last. -/
def passes (unit : SourceUnit) (spec : Spec) : List (Text × Text) :=
  bindings unit spec ++ [(unit.simple, spec.target)]

theorem outcome_withTypes [CharacterNames] (owner : Text) (bindings : List (Text × Text))
    (text : Text) (words : ∀ binding ∈ bindings, IsWord binding.1) :
    (withTypes owner bindings text).outcome = .ok (replaceWords bindings text) := by
  induction bindings generalizing text with
  | nil => rfl
  | cons binding bindings inductionHypothesis =>
    obtain ⟨parameter, type⟩ := binding
    rw [withTypes, Run.outcome_bind, withRule, outcome_step,
      Rule.apply_wholeIdentifier _ _ _ _ (words _ List.mem_cons_self)]
    exact inductionHypothesis _ fun other member => words other (List.mem_cons_of_mem _ member)

theorem isWord_of_mem_bindings {unit : SourceUnit} {spec : Spec}
    (words : ∀ parameter ∈ unit.parameters, IsWord parameter) {binding : Text × Text}
    (member : binding ∈ bindings unit spec) : IsWord binding.1 := by
  rw [bindings] at member
  split at member
  · cases member
  · exact words _ (List.of_mem_zip member).1

/-- The text with the hidden target header in place of the source header. -/
def headed (unit : SourceUnit) (spec : Spec) (placeholder : Placeholder) (text : Text) :
    Except Failure Text :=
  if spec.derivation then Header.replaceDerived placeholder unit.simple spec.target text
  else Header.replaceGeneric placeholder unit.simple spec.target text

theorem outcome_withHeader (unit : SourceUnit) (spec : Spec) (placeholder : Placeholder)
    (text : Text) :
    (withHeader unit spec placeholder text).outcome =
      ending (headed unit spec placeholder text) := by
  rw [withHeader, outcome_step, headed]
  cases spec.derivation <;> rfl

theorem outcome_withName [CharacterNames] (unit : SourceUnit) (spec : Spec) (text : Text)
    (simple : IsWord unit.simple) :
    (withName unit spec text).outcome = .ok (replaceWord unit.simple spec.target text) := by
  rw [withName, withRule, outcome_step, Rule.apply_wholeIdentifier _ _ _ _ simple]

/-- The outcome of a generation, step by step. -/
theorem outcome_generate [CharacterNames] (unit : SourceUnit) (spec : Spec)
    (simple : IsWord unit.simple) (words : ∀ parameter ∈ unit.parameters, IsWord parameter) :
    (generate unit spec).outcome = (do
      let placeholder ← Placeholder.choose (markerSeed unit spec)
      let text ← ending unit.cleaned
      let text ← ending (headed unit spec placeholder text)
      let text ← (withRules unit.name spec.rules text).outcome
      return provenance unit ++ (placeholder.unprotectFrom none
        (replaceWords (passes unit spec) text)).1) := by
  have typed (text : Text) := outcome_withTypes unit.name (bindings unit spec) text fun _ member =>
    isWord_of_mem_bindings words member
  have last (text : Text) : replaceWords (passes unit spec) text =
      replaceWord unit.simple spec.target (replaceWords (bindings unit spec) text) :=
    List.foldl_append
  rw [generate, Run.outcome_bind, Run.outcome_quiet]
  refine congrArg _ (funext fun placeholder => ?_)
  rw [Run.outcome_bind, outcome_withoutDirectives, SourceUnit.cleaned]
  cases unit.markers.foldlM (fun text marker => Directive.stripAll unit.sigil marker text)
      unit.text with
  | error failure => rfl
  | ok stripped =>
    simp only [ending, Except.map, Run.outcome_bind, outcome_withoutImports, outcome_withHeader,
      typed,
      outcome_withName _ _ _ simple, last]
    rfl

/-! ### The parts of the generated text -/

/-- What comes before the header that a spec replaces in a text, what it is replaced by, and what
comes behind it. An instantiation replaces the header of the first generic declaration of the
source; a derivation replaces no more than the name in the first declaration. -/
inductive HeaderAt (unit : SourceUnit) (spec : Spec) (text : Text) :
    (lead header tail : Text) → Prop
  | generic {header : Header} (instantiation : spec.derivation = false)
      (found : Header.find unit.simple text = .ok header) :
      HeaderAt unit spec text header.lead (Header.target spec.target header.opening) header.tail
  | declared {declared : DeclaredName} (derivation : spec.derivation = true)
      (found : Header.findDeclared? unit.simple text = some declared) :
      HeaderAt unit spec text declared.lead spec.target declared.tail

theorem headed_eq_ok {unit : SourceUnit} {spec : Spec} {placeholder : Placeholder}
    {text result : Text} (replaced : headed unit spec placeholder text = .ok result) :
    ∃ lead header tail, HeaderAt unit spec text lead header tail ∧
      result = lead ++ placeholder.protect header ++ tail := by
  cases kind : spec.derivation with
  | true =>
    rw [headed, if_pos kind, Header.replaceDerived] at replaced
    split at replaced
    · next declared found =>
      cases replaced
      exact ⟨_, _, _, .declared kind found, rfl⟩
    · cases replaced
  | false =>
    rw [headed, if_neg (by rw [kind]; decide), Header.replaceGeneric] at replaced
    split at replaced
    · next header found =>
      cases replaced
      exact ⟨_, _, _, .generic kind found, rfl⟩
    · cases replaced

/-- What has happened when a text was generated: a marker was chosen, the source was cleaned, its
header was hidden, and the rules and the replacements of words went over the rest. -/
theorem generate_eq_ok [CharacterNames] {unit : SourceUnit} {spec : Spec} {result : Text}
    (simple : IsWord unit.simple) (words : ∀ parameter ∈ unit.parameters, IsWord parameter)
    (returned : (generate unit spec).outcome = .ok result) :
    ∃ placeholder text lead header tail rewritten,
      Placeholder.choose (markerSeed unit spec) = .ok placeholder ∧
      unit.cleaned = .ok text ∧
      HeaderAt unit spec text lead header tail ∧
      (withRules unit.name spec.rules (lead ++ placeholder.protect header ++ tail)).outcome =
        .ok rewritten ∧
      result = provenance unit ++
        (placeholder.unprotectFrom none (replaceWords (passes unit spec) rewritten)).1 := by
  rw [outcome_generate unit spec simple words] at returned
  obtain ⟨placeholder, chosen, returned⟩ := exists_ok_of_bind returned
  obtain ⟨text, cleaned, returned⟩ := exists_ok_of_bind returned
  obtain ⟨hidden, replaced, returned⟩ := exists_ok_of_bind returned
  obtain ⟨rewritten, applied, returned⟩ := exists_ok_of_bind returned
  obtain ⟨lead, header, tail, place, same⟩ := headed_eq_ok (eq_ok_of_ending replaced)
  exact ⟨placeholder, text, lead, header, tail, rewritten, chosen, eq_ok_of_ending cleaned, place,
    same ▸ applied, (Except.ok.inj returned).symm⟩

/-- The replaced header is a stretch of the text that begins with the source name. -/
theorem HeaderAt.span {unit : SourceUnit} {spec : Spec} {text lead header tail : Text}
    (place : HeaderAt unit spec text lead header tail) :
    ∃ rest, text = lead ++ (unit.simple ++ rest) ++ tail := by
  cases place with
  | generic _ found =>
    obtain ⟨between, split⟩ := Header.find_eq_ok found
    exact ⟨between ++ _, by rw [split, List.append_assoc unit.simple]⟩
  | declared _ found =>
    exact ⟨[], by rw [List.append_nil, ← Header.findDeclared?_eq_some found]⟩

/-- A text with every literal rule applied to it, one rule after the other. -/
def ruled (spec : Spec) (text : Text) : Text :=
  spec.rules.foldl (fun text rule => Text.replaceAll rule.pattern rule.substitute text) text

/-- A literal rule that does not fail replaces its pattern throughout. -/
theorem apply_literal [CharacterNames] {owner text result : Text} {rule : Rule}
    (literal : rule.isRegex = false) (nonempty : rule.pattern ≠ [])
    (applied : rule.apply owner text = .ok result) :
    result = Text.replaceAll rule.pattern rule.substitute text := by
  rw [Rule.apply, if_neg (by rw [literal]; decide), Rule.applyLiteral] at applied
  split at applied
  · cases applied
    rfl
  · next absent =>
    split at applied
    · cases applied
    · cases applied
      rw [Text.replaceAll_of_not_occursIn _ _ _ nonempty (Bool.not_eq_true _ ▸ absent)]

theorem withRules_literal [CharacterNames] {owner text result : Text} {rules : List Rule}
    (literal : ∀ rule ∈ rules, rule.isRegex = false ∧ rule.pattern ≠ [])
    (applied : (withRules owner rules text).outcome = .ok result) :
    result =
      rules.foldl (fun text rule => Text.replaceAll rule.pattern rule.substitute text) text := by
  induction rules generalizing text with
  | nil =>
    cases applied
    rfl
  | cons rule rules inductionHypothesis =>
    rw [withRules, Run.outcome_bind, withRule, outcome_step] at applied
    obtain ⟨middle, first, applied⟩ := exists_ok_of_bind applied
    obtain ⟨isLiteral, nonempty⟩ := literal rule List.mem_cons_self
    rw [List.foldl_cons, ← apply_literal isLiteral nonempty first]
    exact inductionHypothesis (fun other member => literal other (List.mem_cons_of_mem _ member))
      applied

theorem mem_stripped {sigil text result : Text} {markers : List Marker} {c : Char}
    (stripped : markers.foldlM (fun text marker => Directive.stripAll sigil marker text) text =
      .ok result) (member : c ∈ result) : c ∈ text ∨ c = '\n' := by
  induction markers generalizing text with
  | nil =>
    cases stripped
    exact Or.inl member
  | cons marker markers inductionHypothesis =>
    rw [List.foldlM_cons] at stripped
    obtain ⟨middle, first, stripped⟩ := exists_ok_of_bind stripped
    exact (inductionHypothesis stripped).elim (Directive.mem_stripAll first) Or.inr

theorem mem_erased {names : List Text} {text : Text} {c : Char}
    (member : c ∈ names.foldl (fun text name => Import.erase name text) text) :
    c ∈ text ∨ c = '\n' := by
  induction names generalizing text with
  | nil => exact Or.inl member
  | cons name names inductionHypothesis =>
    exact (inductionHypothesis member).elim Import.mem_erase Or.inr

/-- Cleaning brings in nothing but line feeds. -/
theorem mem_cleaned {unit : SourceUnit} {text : Text} {c : Char} (cleaned : unit.cleaned = .ok text)
    (member : c ∈ text) : c ∈ unit.text ∨ c = '\n' := by
  rw [SourceUnit.cleaned] at cleaned
  cases stripped : unit.markers.foldlM
      (fun text marker => Directive.stripAll unit.sigil marker text) unit.text with
  | error failure =>
    rw [stripped] at cleaned
    cases cleaned
  | ok middle =>
    rw [stripped] at cleaned
    cases cleaned
    exact (mem_erased member).elim (mem_stripped stripped) Or.inr

/-! ### What a generation says and how it can end -/

/-- A run that prints no errors and ends in nothing but what a test allows. -/
abbrev EndsIn (ends : Abort → Prop) {Result : Type} (run : Run Result) : Prop :=
  run.Only (fun event => event.errorPrints = []) ends

section

variable {ends : Abort → Prop}

theorem endsIn_step {label : String} {transform : Text → Except Abort Text} {text : Text}
    (ended : ∀ abort, transform text = .error abort → ends abort) :
    EndsIn ends (step label transform text) := by
  refine (Run.Only.quiet ended).bind fun after => ?_
  refine ⟨fun event member => ?_, fun _ ended => (nomatch ended)⟩
  rw [List.mem_singleton.mp member]
  rfl

theorem of_ending {Result : Type} (failures : ∀ failure, ends (.failure failure))
    {outcome : Except Failure Result} {abort : Abort} (ended : ending outcome = .error abort) :
    ends abort := by
  cases outcome <;> cases ended
  exact failures _

theorem endsIn_withoutDirectives (failures : ∀ failure, ends (.failure failure))
    (unit : SourceUnit) (markers : List Marker) (text : Text) :
    EndsIn ends (withoutDirectives unit markers text) := by
  induction markers generalizing text with
  | nil => exact Run.Only.pure text
  | cons marker markers inductionHypothesis =>
    exact (endsIn_step fun _ => of_ending failures).bind fun _ => inductionHypothesis _

theorem endsIn_withoutImports (names : List Text) (text : Text) :
    EndsIn ends (withoutImports names text) := by
  induction names generalizing text with
  | nil => exact Run.Only.pure text
  | cons name names inductionHypothesis =>
    refine (endsIn_step fun abort ended => ?_).bind fun _ => inductionHypothesis _
    cases ended

theorem endsIn_withRules [CharacterNames] {owner : Text} {rules : List Rule}
    (applied : ∀ rule ∈ rules, ∀ text abort, rule.apply owner text = .error abort → ends abort)
    (text : Text) : EndsIn ends (withRules owner rules text) := by
  induction rules generalizing text with
  | nil => exact Run.Only.pure text
  | cons rule rules inductionHypothesis =>
    refine (endsIn_step (applied rule List.mem_cons_self text)).bind fun _ => ?_
    exact inductionHypothesis (fun other member => applied other (List.mem_cons_of_mem _ member)) _

/-- Replacing whole identifiers ends in nothing at all. -/
theorem endsIn_wholeIdentifier [CharacterNames] (owner : Text) (label : String)
    (name substitute text : Text) :
    EndsIn ends (withRule owner label (.wholeIdentifier name substitute) text) := by
  refine endsIn_step fun abort ended => ?_
  rw [Rule.apply_wholeIdentifier_eq] at ended
  cases ended

theorem endsIn_withTypes [CharacterNames] (owner : Text) (bindings : List (Text × Text))
    (text : Text) :
    EndsIn ends (withTypes owner bindings text) := by
  induction bindings generalizing text with
  | nil => exact Run.Only.pure text
  | cons binding bindings inductionHypothesis =>
    exact (endsIn_wholeIdentifier _ _ _ _ _).bind fun _ => inductionHypothesis _

/-- Unhiding may warn, but a warning is no error. -/
theorem errorPrints_unprotectFrom (placeholder : Placeholder) (run : Option Text) (text : Text) :
    ∀ event ∈ (placeholder.unprotectFrom run text).2, event.errorPrints = [] := by
  have restored (seen : Text) : ∀ event ∈ (Placeholder.restore seen).2, event.errorPrints = [] := by
    unfold Placeholder.restore
    intro event member
    dsimp only at member
    split at member
    · cases member
    · rw [List.mem_singleton.mp member]
      rfl
  induction text generalizing run with
  | nil => cases run <;> exact fun event member => nomatch member
  | cons c rest inductionHypothesis =>
    cases run with
    | none =>
      rw [Placeholder.unprotectFrom]
      split
      · exact inductionHypothesis _
      · exact inductionHypothesis none
    | some seen =>
      rw [Placeholder.unprotectFrom]
      split
      · intro event member
        rcases List.mem_append.mp member with warned | later
        · exact restored _ event warned
        · exact inductionHypothesis none event later
      · split
        · exact inductionHypothesis _
        · exact inductionHypothesis none

/-- A generation ends in a failure, for want of a marker, or as one of its rules does. -/
theorem endsIn_generate [CharacterNames] {unit : SourceUnit} {spec : Spec}
    (failures : ∀ failure, ends (.failure failure))
    (chooses : ∀ abort, Placeholder.choose (markerSeed unit spec) = .error abort → ends abort)

    (applied : ∀ rule ∈ spec.rules, ∀ text abort,
      rule.apply unit.name text = .error abort → ends abort) :
    EndsIn ends (generate unit spec) := by
  refine (Run.Only.quiet chooses).bind fun placeholder => ?_
  refine (endsIn_withoutDirectives failures _ _ _).bind fun _ => ?_
  refine (endsIn_withoutImports _ _).bind fun _ => ?_
  refine (endsIn_step fun _ => of_ending failures).bind fun _ => ?_
  refine (endsIn_withRules applied _).bind fun _ => (endsIn_withTypes _ _ _).bind fun _ => ?_
  refine (endsIn_wholeIdentifier _ _ _ _ _).bind fun text => ?_
  refine Run.Only.bind ⟨errorPrints_unprotectFrom placeholder none text, ?_⟩
    fun _ => Run.Only.pure _
  exact fun _ ended => (nomatch ended)

end

/-- How a generation can end without a text. -/
def EndsGeneration : Abort → Prop
  | .failure _ | .noFreeMarker | .repetitionTooLarge | .incompatibleFlags | .unknownGroup _ => True
  | _ => False

theorem endsGeneration_of_ending {Result : Type} {outcome : Except Failure Result} {abort : Abort}
    (ended : ending outcome = .error abort) : EndsGeneration abort :=
  of_ending (fun _ => trivial) ended

theorem endsGeneration_of_apply [CharacterNames] {owner text : Text} {rule : Rule} {abort : Abort}
    (ended : rule.apply owner text = .error abort) : EndsGeneration abort := by
  have refused (refusal : Refusal) (failureOf : Fault → Failure) :
      EndsGeneration (refusal.abort failureOf) := by cases refusal <;> trivial
  rw [Rule.apply] at ended
  split at ended
  · rw [Rule.applyPattern] at ended
    split at ended
    · cases ended
      exact refused _ _
    · split at ended
      · split at ended
        · cases ended
          exact refused _ _
        · cases ended
      · split at ended <;> cases ended
        trivial
  · rw [Rule.applyLiteral] at ended
    split at ended
    · cases ended
    · split at ended <;> cases ended
      trivial

theorem generates_generate [CharacterNames] (unit : SourceUnit) (spec : Spec) :
    EndsIn EndsGeneration (generate unit spec) := by
  refine endsIn_generate (fun _ => trivial) (fun abort ended => ?_)
    fun _ _ _ _ => endsGeneration_of_apply
  unfold Placeholder.choose at ended
  split at ended <;> cases ended
  trivial

end Generate

end Stencil
