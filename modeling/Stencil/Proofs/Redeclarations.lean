/-
This file proves that the last declaration of an attribute is the one that counts. An attribute that
is declared again before its declaration is concluded may as well be left out, with the lines that
go on with it. There is one exception: an instantiation that asks for no name keeps the one it has,
so that a name must not be left out where nothing but that follows it.

What is left out has changed the declaration in progress, and later lines see the change. But a
later change of the same attribute swallows it, and changes of other attributes, and new rules,
change places with it. So the two readings differ in this one attribute up to the line at which it
is staged again, and not at all from there on.
-/
import Stencil.Proofs.Composition
import Stencil.Proofs.Layout

namespace Stencil

/-! ### Declarations that are left out -/

/-- A value with the lines that go on with it. Comments may stand between them. -/
def continued (value : Text) : List Text → Text
  | [] => value
  | line :: rest =>
    match Line.ofText line with
    | .comment => continued value rest
    | .continuation text => continued (value ++ '\n' :: text) rest
    | _ => value

/-- Whether an attribute is declared again, with a value that counts, before the declaration that
the lines belong to is concluded. -/
def isDeclaredAgain (counts : Text → Bool) (word : Text) : List Text → Bool
  | [] => false
  | line :: rest =>
    match Line.ofText line with
    | .attribute other value =>
      (other == word && counts (continued value rest)) || isDeclaredAgain counts word rest
    | .blank | .opening _ _ => false
    | _ => isDeclaredAgain counts word rest

/-- Rules without the declarations of attributes that `drops` says are to be left out, given their
words, their values and the lines behind. With a declaration go the lines that go on with it;
`dropping` says that one has just been left out. -/
def withoutDeclarations (drops : Text → Text → List Text → Bool) (dropping : Bool) :
    List Text → List Text
  | [] => []
  | line :: rest =>
    match Line.ofText line with
    | .attribute word value =>
      if drops word value rest then withoutDeclarations drops true rest
      else line :: withoutDeclarations drops false rest
    | .continuation _ =>
      if dropping then withoutDeclarations drops true rest
      else line :: withoutDeclarations drops false rest
    | .comment => line :: withoutDeclarations drops dropping rest
    | _ => line :: withoutDeclarations drops false rest

/-- Whether an attribute is declared again in its block. -/
def isRepeated (word _value : Text) (rest : List Text) : Bool :=
  isDeclaredAgain (fun _ => true) word rest

/-- Whether a declaration sets its attribute. Only to ask for no name does not. -/
def takesEffect (word value : Text) : Bool :=
  !(word == Attribute.name.word && value.trim == noneWord)

/-- Whether nothing is lost with a declaration: it has no effect, or a later one in its block
has. -/
def isSuperseded (word value : Text) (rest : List Text) : Bool :=
  !takesEffect word (continued value rest) || isDeclaredAgain (takesEffect word) word rest

/-- Whether nothing is lost with the declarations that are left out. -/
def losesNothing (drops : Text → Text → List Text → Bool) : List Text → Bool
  | [] => true
  | line :: rest =>
    losesNothing drops rest &&
      match Line.ofText line with
      | .attribute word value => !drops word value rest || isSuperseded word value rest
      | _ => true

/-- Rules with only the last declaration of each attribute of each block. -/
def lastDeclarations : List Text → List Text := withoutDeclarations isRepeated false

/-- Whether no name is followed in its block by declarations of no name alone. -/
def namesStay : List Text → Bool := losesNothing isRepeated

/-- Whether every attribute of every block is declared once at most. -/
def declaresOnce : List Text → Bool
  | [] => true
  | line :: rest =>
    declaresOnce rest &&
      match Line.ofText line with
      | .attribute word value => !isRepeated word value rest
      | _ => true

/-- Rules with only the last declaration of each attribute of each block that takes effect. -/
def lastEffects : List Text → List Text := withoutDeclarations isSuperseded false

theorem losesNothing_isSuperseded (lines : List Text) : losesNothing isSuperseded lines = true := by
  induction lines with
  | nil => rfl
  | cons line rest inductionHypothesis =>
    rw [losesNothing, inductionHypothesis, Bool.true_and]
    cases Line.ofText line with
    | «attribute» word value => exact Bool.not_or_self (isSuperseded word value rest)
    | _ => rfl

/-- Where an attribute is declared again, its last declaration is still there. -/
theorem isRepeated_withoutDeclarations (dropping : Bool) (word value : Text) (lines : List Text) :
    isRepeated word value (withoutDeclarations isRepeated dropping lines) =
      isRepeated word value lines := by
  simp only [isRepeated]
  induction lines generalizing dropping with
  | nil => rfl
  | cons line rest inductionHypothesis =>
    cases kind : Line.ofText line with
    | «attribute» other otherValue =>
      cases repeated : isRepeated other otherValue rest with
      | true =>
        simp only [withoutDeclarations, kind, repeated, if_true, isDeclaredAgain, Bool.and_true,
          inductionHypothesis true]
        cases same : other == word with
        | true =>
          rw [isRepeated, beq_iff_eq.mp same] at repeated
          rw [repeated, Bool.or_true]
        | false => rw [Bool.false_or]
      | false =>
        simp only [withoutDeclarations, kind, repeated, Bool.false_eq_true, if_false,
          isDeclaredAgain, inductionHypothesis false]
    | continuation text =>
      cases dropping with
      | true => simpa only [withoutDeclarations, kind, if_true, isDeclaredAgain] using
          inductionHypothesis true
      | false => simpa only [withoutDeclarations, kind, Bool.false_eq_true, if_false,
          isDeclaredAgain] using inductionHypothesis false
    | blank | opening className subject => simp only [withoutDeclarations, kind, isDeclaredAgain]
    | comment =>
      simpa only [withoutDeclarations, kind, isDeclaredAgain] using inductionHypothesis dropping
    | substitution text | other =>
      simpa only [withoutDeclarations, kind, isDeclaredAgain] using inductionHypothesis false

theorem declaresOnce_withoutDeclarations (dropping : Bool) (lines : List Text) :
    declaresOnce (withoutDeclarations isRepeated dropping lines) = true := by
  induction lines generalizing dropping with
  | nil => rfl
  | cons line rest inductionHypothesis =>
    cases kind : Line.ofText line with
    | «attribute» word value =>
      cases repeated : isRepeated word value rest with
      | true => simpa only [withoutDeclarations, kind, repeated, if_true] using
          inductionHypothesis true
      | false =>
        simp only [withoutDeclarations, kind, repeated, Bool.false_eq_true, if_false, declaresOnce,
          inductionHypothesis false, isRepeated_withoutDeclarations, Bool.not_false, Bool.and_self]
    | continuation text =>
      cases dropping with
      | true => simpa only [withoutDeclarations, kind, if_true] using inductionHypothesis true
      | false => simpa only [withoutDeclarations, kind, Bool.false_eq_true, if_false, declaresOnce,
          Bool.and_true] using inductionHypothesis false
    | comment =>
      simpa only [withoutDeclarations, kind, declaresOnce, Bool.and_true] using
        inductionHypothesis dropping
    | _ =>
      simpa only [withoutDeclarations, kind, declaresOnce, Bool.and_true] using
        inductionHypothesis false

/-! ### Changes -/

/-- The template with a change, unless it has been committed. -/
def Template.after (template : Template) (change : Change) : Template :=
  if template.committed then template else (template.changed? change).getD template

/-- The subordinate with a change, unless it has been committed. -/
def Subordinate.after (subordinate : Subordinate) (change : Change) : Subordinate :=
  if subordinate.committed then subordinate else (subordinate.changed? change).getD subordinate

section

variable {first second : Change}

theorem Template.after_comm (template : Template) (other : first.setting? ≠ second.setting?) :
    (template.after first).after second = (template.after second).after first := by
  obtain ⟨name, committed, parameters, placement, markers, imports, sigil⟩ := template
  cases committed with
  | true => rfl
  | false =>
    cases first with
    | parameters _ => cases second with
      | parameters _ => exact absurd rfl other
      | _ => rfl
    | placement _ => cases second with
      | placement _ => exact absurd rfl other
      | _ => rfl
    | markers _ => cases second with
      | markers _ => exact absurd rfl other
      | _ => rfl
    | imports _ => cases second with
      | imports _ => exact absurd rfl other
      | _ => rfl
    | sigil _ => cases second with
      | sigil _ => exact absurd rfl other
      | _ => rfl
    | types _ | target _ | rule _ => cases second <;> rfl

theorem Subordinate.after_comm (subordinate : Subordinate)
    (other : first.setting? ≠ second.setting?) :
    (subordinate.after first).after second = (subordinate.after second).after first := by
  obtain ⟨id, committed, kind, target, rules⟩ := subordinate
  cases committed with
  | true => rfl
  | false =>
    cases first with
    | types _ => cases kind <;> cases second with
      | types _ => exact absurd rfl other
      | _ => rfl
    | target _ => cases kind <;> cases second with
      | target _ => exact absurd rfl other
      | _ => rfl
    | rule _ => cases kind <;> cases second with
      | rule _ => exact absurd rfl other
      | _ => rfl
    | _ => cases kind <;> cases second <;> rfl

theorem Template.after_swallows (template : Template) (about : first.setting? ≠ none)
    (same : first.setting? = second.setting?) :
    (template.after first).after second = template.after second := by
  obtain ⟨name, committed, parameters, placement, markers, imports, sigil⟩ := template
  cases committed with
  | true => rfl
  | false =>
    cases first with
    | rule _ => exact absurd rfl about
    | _ =>
      cases second <;> cases same
      rfl

theorem Subordinate.after_swallows (subordinate : Subordinate) (about : first.setting? ≠ none)
    (same : first.setting? = second.setting?) :
    (subordinate.after first).after second = subordinate.after second := by
  obtain ⟨id, committed, kind, target, rules⟩ := subordinate
  cases committed with
  | true => rfl
  | false =>
    cases first with
    | rule _ => exact absurd rfl about
    | _ =>
      cases second <;> cases same
      cases kind <;> rfl

namespace Active

theorem change_template (template : Template) (line : Nat) (change : Change) :
    (Active.template template line).change change = .template (template.after change) line := by
  obtain ⟨name, committed, parameters, placement, markers, imports, sigil⟩ := template
  cases committed <;> cases change <;> rfl

theorem change_subordinate (owner : Text) (subordinate : Subordinate) (change : Change) :
    (Active.subordinate owner subordinate).change change =
      .subordinate owner (subordinate.after change) := by
  obtain ⟨id, committed, kind, target, rules⟩ := subordinate
  cases committed <;> cases kind <;> cases change <;> rfl

/-- Changes of different attributes change places. -/
theorem change_comm (active : Active) (other : first.setting? ≠ second.setting?) :
    (active.change first).change second = (active.change second).change first := by
  cases active with
  | template template line => simp only [change_template, template.after_comm other]
  | subordinate owner subordinate => simp only [change_subordinate, subordinate.after_comm other]

/-- A change of an attribute swallows an earlier one of the same attribute. -/
theorem change_swallows (active : Active) (about : first.setting? ≠ none)
    (same : first.setting? = second.setting?) :
    (active.change first).change second = active.change second := by
  cases active with
  | template template line => simp only [change_template, template.after_swallows about same]
  | subordinate owner subordinate =>
    simp only [change_subordinate, subordinate.after_swallows about same]

end Active

end

/-- What a declaration is does not change. -/
theorem Declaration.kind_change (active : Active) (change : Change) :
    (active.change change).declaration.isDerivation = active.declaration.isDerivation ∧
      (active.change change).declaration.attributes = active.declaration.attributes := by
  cases active with
  | template template line =>
    rw [Active.change_template]
    exact ⟨rfl, rfl⟩
  | subordinate owner subordinate =>
    obtain ⟨id, committed, kind, target, rules⟩ := subordinate
    rw [Active.change_subordinate]
    cases committed <;> cases kind <;> cases change <;> exact ⟨rfl, rfl⟩

theorem Declaration.word_of_attribute? {declaration : Declaration} {word : Text}
    {setting : Attribute} (found : declaration.attribute? word = some setting) :
    setting.word = word := by
  rw [Declaration.attribute?] at found
  have isWord := List.find?_some found
  exact beq_iff_eq.mp isWord

theorem Attribute.word_injective {setting other : Attribute} (same : setting.word = other.word) :
    setting = other := by
  revert same
  cases setting <;> cases other <;> decide

/-! ### Staging -/

namespace Reading

/-- An attribute makes a change exactly if it takes effect. -/
theorem takesEffect_of_attributeChange {declaration : Declaration} {setting : Attribute}
    {value : Text} {change? : Option Change}
    (read : attributeChange declaration setting value = .ok change?) :
    takesEffect setting.word value = change?.isSome := by
  cases setting with
  | parameters | placement | directives | imports | sigil | types =>
    obtain ⟨_, _, rfl⟩ := exists_ok_of_map read
    rfl
  | name =>
    rw [attributeChange] at read
    by_cases nothing : value.trim = noneWord
    · rw [show targetOfValue value = .ok none by rw [targetOfValue, if_pos nothing]] at read
      cases derives : declaration.isDerivation <;> rw [derives] at read <;> cases read
      simp [takesEffect, nothing]
    · rw [targetOfValue, if_neg nothing] at read
      cases simple : isSimpleName value.trim <;> rw [simple] at read <;> cases read
      simp [takesEffect, nothing]

theorem attributeChange_change (active : Active) (change : Change) (setting : Attribute)
    (value : Text) :
    attributeChange (active.change change).declaration setting value =
      attributeChange active.declaration setting value := by
  have same := (Declaration.kind_change active change).1
  cases setting with
  | parameters | placement | directives | imports | sigil | types => rfl
  | name => rw [attributeChange, attributeChange, same]

/-- What is pending will set this attribute. -/
def Sets (setting : Attribute) (pending : Pending) : Prop :=
  ∃ value line, pending = .attribute setting value line ∧ takesEffect setting.word value = true

/-- Staging what sets an attribute forgets an earlier change of it; staging anything else keeps the
change. -/
theorem staged_change [CharacterNames] {active after : Active} {change : Change}
    {setting : Attribute} {pending : Pending} (about : change.setting? = some setting)
    (same : staged (active.change change) pending 0 = .ok after) :
    staged active pending 0 = .ok after ∨
      ¬ Sets setting pending ∧ ∃ plain, staged active pending 0 = .ok plain ∧
        after = plain.change change := by
  cases pending with
  | «attribute» other value line =>
    rw [staged, attributeChange_change] at same
    rw [staged]
    cases read : attributeChange active.declaration other value with
    | error cause =>
      rw [read] at same
      cases same
    | ok later? =>
      have effect := takesEffect_of_attributeChange read
      rw [read] at same
      cases later? with
      | none =>
        cases same
        refine Or.inr ⟨?_, active, rfl, rfl⟩
        rintro ⟨_, _, ⟨⟩, sets⟩
        cases effect.symm.trans sets
      | some later =>
        cases same
        have aboutLater := setting?_attributeChange read
        by_cases again : other = setting
        · refine Or.inl (congrArg Except.ok (Eq.symm ?_))
          exact active.change_swallows (by rw [about]; exact Option.some_ne_none setting)
            (by rw [about, aboutLater, again])
        · refine Or.inr ⟨?_, active.change later, rfl, ?_⟩
          · rintro ⟨_, _, ⟨⟩, -⟩
            exact again rfl
          · refine active.change_comm ?_
            rw [about, aboutLater]
            exact fun equal => again (Option.some.inj equal).symm
  | substitution text line =>
    refine Or.inr ⟨by rintro ⟨_, _, ⟨⟩, -⟩, ?_⟩
    cases active with
    | template template begun =>
      rw [Active.change_template] at same
      cases same
    | subordinate owner subordinate =>
      rw [Active.change_subordinate] at same
      simp only [staged] at same ⊢
      split at same
      · cases same
        refine ⟨_, rfl, ?_⟩
        rw [← Active.change_subordinate]
        refine Active.change_comm _ ?_
        rw [about]
        exact Option.some_ne_none setting
      · cases same

/-! ### Runs to the end -/

/-- Reading goes over all lines, concludes what is in progress and comes to its end. -/
def Ends [CharacterNames] (reading : Reading) (lines : List Line) (final : Reading) : Prop :=
  finish (reading.run lines) = (final, none)

variable {reading other final : Reading}

theorem ends_nil [CharacterNames] :
    reading.Ends [] final ↔
      ∃ concluded, reading.conclude 0 = .ok concluded ∧ concluded.checkBarren = .ok final := by
  simp only [Ends, run, finish, andThen_eq_going, Prod.mk.injEq, and_true, ↓existsAndEq, true_and]

theorem ends_cons [CharacterNames] {line : Line} {rest : List Line} :
    reading.Ends (line :: rest) final ↔
      ∃ after, reading.step 0 line = (after, none) ∧ after.Ends rest final := by
  rw [Ends, run]
  cases stepped : reading.step 0 line with
  | mk after stop? =>
    cases stop? with
    | none => simp [Ends]
    | some stop => simp [finish, andThen]

/-- Concluding looks at a reading after staging, and not before. -/
theorem conclude_congr [CharacterNames] (same : reading.stage 0 = other.stage 0) :
    reading.conclude 0 = other.conclude 0 := by
  rw [conclude, conclude, same]

/-- Neither do the lines before which what is pending is staged. -/
theorem step_congr [CharacterNames] {line : Line} {after : Reading} (stages : line.stages = true)
    (same : reading.stage 0 = other.stage 0) (goesOn : reading.step 0 line = (after, none)) :
    other.step 0 line = (after, none) := by
  cases line with
  | blank =>
    rw [step, orStay_eq_going] at goesOn ⊢
    exact conclude_congr same ▸ goesOn
  | opening className subject =>
    simp only [step, andThen_eq_going, orStay_eq_going] at goesOn ⊢
    exact conclude_congr same ▸ goesOn
  | «attribute» word value | substitution text =>
    simp only [step, andThen_eq_going, orStay_eq_going] at goesOn ⊢
    exact same ▸ goesOn
  | comment | continuation text | other => cases stages

/-- A line that stages goes on only behind staging. -/
theorem exists_stage_of_step [CharacterNames] {line : Line} {after : Reading}
    (stages : line.stages = true) (goesOn : reading.step 0 line = (after, none)) :
    ∃ middle, reading.stage 0 = .ok middle := by
  cases line with
  | blank =>
    obtain ⟨middle, staging, -⟩ := conclude_eq_ok (orStay_eq_going.mp goesOn)
    exact ⟨middle, staging⟩
  | opening className subject =>
    simp only [step, andThen_eq_going, orStay_eq_going] at goesOn
    obtain ⟨concluded, concludes, -⟩ := goesOn
    obtain ⟨middle, staging, -⟩ := conclude_eq_ok concludes
    exact ⟨middle, staging⟩
  | «attribute» word value | substitution text =>
    simp only [step, andThen_eq_going, orStay_eq_going] at goesOn
    obtain ⟨middle, staging, -⟩ := goesOn
    exact ⟨middle, staging⟩
  | comment | continuation text | other => cases stages

theorem ends_congr [CharacterNames] {lines : List Line}
    (begins : ∀ line, lines.head? = some line → line.stages = true)
    (same : reading.stage 0 = other.stage 0) (ends : reading.Ends lines final) :
    other.Ends lines final := by
  cases lines with
  | nil =>
    rw [ends_nil] at ends ⊢
    exact conclude_congr same ▸ ends
  | cons line rest =>
    obtain ⟨after, goesOn, later⟩ := ends_cons.mp ends
    exact ends_cons.mpr ⟨after, step_congr (begins line rfl) same goesOn, later⟩

/-! ### Two readings of a block -/

/-- One reading has a change of an attribute that the other one has not, and that is all. -/
def Differs (setting : Attribute) (changed plain : Reading) : Prop :=
  ∃ active change, change.setting? = some setting ∧ plain.active = some active ∧
    changed = { plain with active := some (active.change change) }

variable {setting : Attribute} {changed plain after : Reading}

theorem Differs.pend (differs : Differs setting changed plain) (pending : Option Pending) :
    Differs setting { changed with pending := pending } { plain with pending := pending } := by
  obtain ⟨active, change, about, isActive, rfl⟩ := differs
  exact ⟨active, change, about, isActive, rfl⟩

theorem Differs.pending_eq (differs : Differs setting changed plain) :
    changed.pending = plain.pending := by
  obtain ⟨active, change, -, -, rfl⟩ := differs
  rfl

/-- Staging makes the readings one, or it keeps their difference and does not set the attribute. -/
theorem Differs.stage [CharacterNames] (differs : Differs setting changed plain)
    (staging : changed.stage 0 = .ok after) :
    plain.stage 0 = .ok after ∨
      (∀ pending, plain.pending = some pending → ¬ Sets setting pending) ∧
        ∃ middle, plain.stage 0 = .ok middle ∧ Differs setting after middle := by
  obtain ⟨active, change, about, isActive, rfl⟩ := differs
  obtain ⟨store, template, active?, pending?⟩ := plain
  cases isActive
  cases pending? with
  | none =>
    cases staging
    exact Or.inr ⟨fun _ none => (by cases none), _, rfl, active, change, about, rfl, rfl⟩
  | some pending =>
    simp only [Reading.stage] at staging ⊢
    split at staging
    · next result stagedChanged =>
      cases staging
      rcases staged_change about stagedChanged with same | ⟨idle, unchanged, same, rfl⟩
      · rw [same]
        exact Or.inl rfl
      · rw [same]
        refine Or.inr ⟨?_, _, rfl, unchanged, change, about, rfl, rfl⟩
        rintro _ ⟨⟩
        exact idle
    · cases staging

theorem beginAttribute_eq_ok {word value : Text}
    (begins : reading.beginAttribute 0 word value = .ok after) :
    ∃ active begun, reading.active = some active ∧
      active.declaration.attribute? word = some begun ∧
      after = { reading with pending := some (.attribute begun value 0) } := by
  rw [Reading.beginAttribute] at begins
  split at begins
  · cases begins
  · next active isActive =>
    split at begins
    · next begun found =>
      cases begins
      exact ⟨active, begun, isActive, found, rfl⟩
    · cases begins

theorem Differs.beginAttribute (differs : Differs setting changed plain) {word value : Text}
    (begins : changed.beginAttribute 0 word value = .ok after) :
    ∃ begun, after = { changed with pending := some (.attribute begun value 0) } ∧
      begun.word = word ∧
      plain.beginAttribute 0 word value =
        .ok { plain with pending := some (.attribute begun value 0) } := by
  obtain ⟨active, change, -, isActive, rfl⟩ := differs
  obtain ⟨_, begun, ⟨⟩, found, rfl⟩ := beginAttribute_eq_ok begins
  refine ⟨begun, rfl, Declaration.word_of_attribute? found, ?_⟩
  rw [Declaration.attribute?, (Declaration.kind_change active change).2,
    ← Declaration.attribute?] at found
  simp only [Reading.beginAttribute, isActive, found]

theorem Differs.beginSubstitution (differs : Differs setting changed plain) {text : Text}
    (begins : changed.beginSubstitution 0 text = .ok after) :
    after = { changed with pending := some (.substitution text 0) } ∧
      plain.beginSubstitution 0 text =
        .ok { plain with pending := some (.substitution text 0) } := by
  obtain ⟨active, change, -, isActive, rfl⟩ := differs
  cases begins
  exact ⟨rfl, by rw [Reading.beginSubstitution, isActive]⟩

theorem Differs.resume (differs : Differs setting changed plain) {text : Text}
    (goesOn : changed.resume 0 text = .ok after) :
    ∃ pending, after = { changed with pending := some pending } ∧
      plain.resume 0 text = .ok { plain with pending := some pending } ∧
      (∀ value line, plain.pending = some (.attribute setting value line) →
        pending = .attribute setting (value ++ '\n' :: text) line) := by
  have same := differs.pending_eq
  simp only [Reading.resume, same] at goesOn ⊢
  split at goesOn
  · next isPending =>
    cases goesOn
    refine ⟨_, rfl, rfl, ?_⟩
    rintro value line alsoPending
    cases isPending.symm.trans alsoPending
    rfl
  · next isPending =>
    cases goesOn
    refine ⟨_, rfl, rfl, ?_⟩
    rintro value line alsoPending
    cases isPending.symm.trans alsoPending
  · cases goesOn

/-- The attribute is pending or is declared again in the block, so that it will be set. -/
def WillSet (setting : Attribute) (pending? : Option Pending) (rest : List Text) : Prop :=
  (∃ value line, pending? = some (.attribute setting value line) ∧
    takesEffect setting.word (continued value rest) = true) ∨
  isDeclaredAgain (takesEffect setting.word) setting.word rest = true

/-- Before a line that stages, an attribute that will be set is pending or declared again. -/
theorem WillSet.sets {pending? : Option Pending} {line : Text} {rest : List Text}
    (will : WillSet setting pending? (line :: rest)) (stages : (Line.ofText line).stages = true) :
    (∃ pending, pending? = some pending ∧ Sets setting pending) ∨
      isDeclaredAgain (takesEffect setting.word) setting.word (line :: rest) = true := by
  refine will.imp_left ?_
  rintro ⟨value, number, rfl, effect⟩
  refine ⟨_, rfl, value, number, rfl, ?_⟩
  rw [continued] at effect
  split at effect
  · next isComment => rw [isComment] at stages; cases stages
  · next isContinuation => rw [isContinuation] at stages; cases stages
  · exact effect

/-- Such a line makes the readings one, or it keeps their difference and begins something else, and
the attribute is still to be set. -/
theorem Differs.step_of_stages [CharacterNames] {line : Text} {rest : List Text}
    (differs : Differs setting changed plain) (will : WillSet setting plain.pending (line :: rest))
    (stages : (Line.ofText line).stages = true)
    (goesOn : changed.step 0 (Line.ofText line) = (after, none)) :
    plain.step 0 (Line.ofText line) = (after, none) ∨
      ∃ other, plain.step 0 (Line.ofText line) = (other, none) ∧ Differs setting after other ∧
        WillSet setting other.pending rest := by
  obtain ⟨middle, staging⟩ := exists_stage_of_step stages goesOn
  rcases differs.stage staging with same | ⟨idle, unchanged, same, still⟩
  · exact Or.inl (step_congr stages (staging.trans same.symm) goesOn)
  · -- What was pending has not set the attribute, so that a later line will.
    have again : isDeclaredAgain (takesEffect setting.word) setting.word (line :: rest) = true := by
      refine (will.sets stages).resolve_left ?_
      rintro ⟨pending, isPending, sets⟩
      exact idle pending isPending sets
    cases kind : Line.ofText line with
    | comment | continuation text | other =>
      rw [kind] at stages
      cases stages
    | blank | opening className subject => simp [isDeclaredAgain, kind] at again
    | substitution text =>
      simp only [kind, Reading.step, andThen_eq_going, orStay_eq_going, staging] at goesOn
      obtain ⟨_, ⟨⟩, begins⟩ := goesOn
      obtain ⟨rfl, alsoBegins⟩ := still.beginSubstitution begins
      refine Or.inr ⟨_, ?_, still.pend _, Or.inr ?_⟩
      · simp only [Reading.step, andThen_eq_going, orStay_eq_going]
        exact ⟨unchanged, same, alsoBegins⟩
      · simpa only [isDeclaredAgain, kind] using again
    | «attribute» word value =>
      simp only [kind, Reading.step, andThen_eq_going, orStay_eq_going, staging] at goesOn
      obtain ⟨_, ⟨⟩, begins⟩ := goesOn
      obtain ⟨begun, rfl, isWord, alsoBegins⟩ := still.beginAttribute begins
      refine Or.inr ⟨_, ?_, still.pend _, ?_⟩
      · simp only [Reading.step, andThen_eq_going, orStay_eq_going]
        exact ⟨unchanged, same, alsoBegins⟩
      · simp only [isDeclaredAgain, kind, Bool.or_eq_true, Bool.and_eq_true, beq_iff_eq] at again
        refine again.imp_left ?_
        rintro ⟨sameWord, effect⟩
        obtain rfl := Attribute.word_injective (isWord.trans sameWord)
        exact ⟨value, 0, rfl, effect⟩

/-- One line makes the readings one, or it keeps their difference and the attribute is still to be
set. -/
theorem Differs.step [CharacterNames] {line : Text} {rest : List Text}
    (differs : Differs setting changed plain) (will : WillSet setting plain.pending (line :: rest))
    (goesOn : changed.step 0 (Line.ofText line) = (after, none)) :
    plain.step 0 (Line.ofText line) = (after, none) ∨
      ∃ other, plain.step 0 (Line.ofText line) = (other, none) ∧ Differs setting after other ∧
        WillSet setting other.pending rest := by
  cases kind : Line.ofText line with
  | comment =>
    rw [kind] at goesOn
    cases goesOn
    refine Or.inr ⟨plain, rfl, differs, ?_⟩
    simpa only [WillSet, continued, isDeclaredAgain, kind] using will
  | continuation text =>
    rw [kind, Reading.step, orStay_eq_going] at goesOn
    obtain ⟨pending, rfl, resumes, same⟩ := differs.resume goesOn
    refine Or.inr ⟨_, orStay_eq_going.mpr resumes, differs.pend (some pending), ?_⟩
    refine will.imp ?_ ?_
    · rintro ⟨value, number, isPending, effect⟩
      rw [same value number isPending]
      exact ⟨_, number, rfl, by simpa only [continued, kind] using effect⟩
    · simpa only [isDeclaredAgain, kind] using id
  | other =>
    rw [kind] at goesOn
    cases goesOn
  | _ =>
    rw [← kind]
    exact differs.step_of_stages will (by rw [kind]; rfl) goesOn

/-- Two readings that differ in one attribute end alike if it is still to be set. -/
theorem Differs.ends [CharacterNames] {rest : List Text} (differs : Differs setting changed plain)
    (will : WillSet setting plain.pending rest) (ends : changed.Ends (rest.map Line.ofText) final) :
    plain.Ends (rest.map Line.ofText) final := by
  induction rest generalizing changed plain with
  | nil =>
    obtain ⟨concluded, concludes, -⟩ := ends_nil.mp ends
    obtain ⟨middle, staging, -⟩ := conclude_eq_ok concludes
    rcases differs.stage staging with same | ⟨idle, -⟩
    · exact ends_congr (fun _ none => by cases none) (staging.trans same.symm) ends
    · rcases will with ⟨value, line, isPending, effect⟩ | none
      · exact absurd ⟨value, line, rfl, effect⟩ (idle _ isPending)
      · cases none
  | cons line rest inductionHypothesis =>
    obtain ⟨after, goesOn, later⟩ := ends_cons.mp ends
    rcases differs.step will goesOn with alsoGoesOn | ⟨other, alsoGoesOn, still, willStill⟩
    · exact ends_cons.mpr ⟨after, alsoGoesOn, later⟩
    · exact ends_cons.mpr ⟨other, alsoGoesOn, inductionHypothesis still willStill later⟩

/-! ### Leaving a declaration out -/

/-- The lines that go on with what is pending, and comments. -/
def goesOn (line : Text) : Bool :=
  match Line.ofText line with
  | .comment | .continuation _ => true
  | _ => false

/-- An attribute with the lines that go on with it is pending with its whole value. -/
theorem ends_behind [CharacterNames] {value : Text} {rest : List Text} {number : Nat}

    (ends : Ends { reading with pending := some (.attribute setting value number) }
      (rest.map Line.ofText) final) :
    Ends { reading with pending := some (.attribute setting (continued value rest) number) }
      ((rest.dropWhile goesOn).map Line.ofText) final := by
  induction rest generalizing value with
  | nil => exact ends
  | cons line rest inductionHypothesis =>
    cases kind : Line.ofText line with
    | comment =>
      obtain ⟨after, steps, later⟩ := ends_cons.mp ends
      rw [kind] at steps
      cases steps
      simpa only [continued, kind, List.dropWhile_cons, goesOn, if_true] using
        inductionHypothesis later
    | continuation text =>
      obtain ⟨after, steps, later⟩ := ends_cons.mp ends
      rw [kind] at steps
      cases steps
      simpa only [continued, kind, List.dropWhile_cons, goesOn, if_true] using
        inductionHypothesis later
    | _ =>
      simpa only [continued, kind, List.dropWhile_cons, goesOn, Bool.false_eq_true, if_false] using
        ends

theorem isDeclaredAgain_behind (counts : Text → Bool) (word : Text) (rest : List Text) :
    isDeclaredAgain counts word (rest.dropWhile goesOn) = isDeclaredAgain counts word rest := by
  induction rest with
  | nil => rfl
  | cons line rest inductionHypothesis =>
    cases kind : Line.ofText line with
    | comment | continuation text =>
      simpa only [isDeclaredAgain, kind, List.dropWhile_cons, goesOn, if_true] using
        inductionHypothesis
    | _ => simp only [kind, List.dropWhile_cons, goesOn, Bool.false_eq_true, if_false]

/-- Behind the lines that go on comes the end of the rules or a line that stages. -/
theorem stages_behind [CharacterNames] {rest : List Text}
    (ends : reading.Ends ((rest.dropWhile goesOn).map Line.ofText) final) :
    ∀ line, ((rest.dropWhile goesOn).map Line.ofText).head? = some line → line.stages = true := by
  have stops := List.head?_dropWhile_not goesOn rest
  cases behind : rest.dropWhile goesOn with
  | nil => exact fun _ none => by cases none
  | cons line more =>
    rw [behind] at stops ends
    rintro _ ⟨⟩
    cases kind : Line.ofText line with
    | comment | continuation _ => simp [goesOn, kind] at stops
    | other =>
      obtain ⟨after, steps, -⟩ := ends_cons.mp ends
      rw [kind] at steps
      cases steps
    | _ => rfl

theorem exists_stage_of_ends [CharacterNames] {lines : List Line}
    (begins : ∀ line, lines.head? = some line → line.stages = true)
    (ends : reading.Ends lines final) : ∃ middle, reading.stage 0 = .ok middle := by
  cases lines with
  | nil =>
    obtain ⟨concluded, concludes, -⟩ := ends_nil.mp ends
    obtain ⟨middle, staging, -⟩ := conclude_eq_ok concludes
    exact ⟨middle, staging⟩
  | cons line rest =>
    obtain ⟨after, steps, -⟩ := ends_cons.mp ends
    exact exists_stage_of_step (begins line rfl) steps

/-- Behind the staging of a declaration in progress nothing is pending. -/
theorem pending_of_stage [CharacterNames] {middle : Reading} {active : Active}
    (staging : reading.stage 0 = .ok middle) (isActive : middle.active = some active) :
    middle.pending = none := by
  obtain ⟨store, template, active?, pending?⟩ := reading
  cases active? with
  | none =>
    cases staging
    cases isActive
  | some before =>
    cases pending? with
    | none =>
      cases staging
      rfl
    | some pending =>
      simp only [stage] at staging
      split at staging <;> cases staging
      rfl

/-- A pending attribute makes a change that differs from none in this attribute alone, or it has no
effect. -/
theorem stage_attribute [CharacterNames] {middle staged : Reading} {active : Active} {value : Text}
    (isActive : middle.active = some active) (isPending : middle.pending = none)
    (staging : stage { middle with pending := some (.attribute setting value 0) } 0 = .ok staged) :
    (takesEffect setting.word value = true ∧ Differs setting staged middle) ∨
      takesEffect setting.word value = false ∧ staged = middle := by
  obtain ⟨store, template, active?, pending?⟩ := middle
  cases isActive
  cases isPending
  simp only [stage, Reading.staged] at staging
  cases read : attributeChange active.declaration setting value with
  | error cause =>
    rw [read] at staging
    cases staging
  | ok change? =>
    have effect := takesEffect_of_attributeChange read
    rw [read] at staging
    cases change? with
    | none =>
      cases staging
      exact Or.inr ⟨effect, rfl⟩
    | some change =>
      cases staging
      exact Or.inl ⟨effect, active, change, setting?_attributeChange read, rfl, rfl⟩

/-- A superseded declaration of an attribute may be left out, with the lines that go on with it. -/
theorem ends_without [CharacterNames] {word value : Text} {rest : List Text}
    (superseded : isSuperseded word value rest = true)
    (ends : reading.Ends (.attribute word value :: rest.map Line.ofText) final) :
    reading.Ends ((rest.dropWhile goesOn).map Line.ofText) final := by
  obtain ⟨after, steps, later⟩ := ends_cons.mp ends
  simp only [step, andThen_eq_going, orStay_eq_going] at steps
  obtain ⟨middle, staging, begins⟩ := steps
  obtain ⟨active, setting, isActive, found, rfl⟩ := beginAttribute_eq_ok begins
  obtain rfl := Declaration.word_of_attribute? found
  have isPending := pending_of_stage staging isActive
  have stays : middle.stage 0 = .ok middle := stage_of_idle (Or.inr isPending)
  have whole := ends_behind later
  have starts := stages_behind whole
  obtain ⟨staged, stagesWhole⟩ := exists_stage_of_ends starts whole
  -- The lines behind see a reading only once it has been staged, with the attribute or without it.
  refine ends_congr starts (stays.trans staging.symm) ?_
  rcases stage_attribute isActive isPending stagesWhole with ⟨effect, differs⟩ | ⟨-, rfl⟩
  · have again : isDeclaredAgain (takesEffect setting.word) setting.word
        (rest.dropWhile goesOn) = true := by
      rw [isSuperseded, effect] at superseded
      rw [isDeclaredAgain_behind]
      exact superseded
    have stagedStays : staged.stage 0 = .ok staged :=
      stage_of_idle (Or.inr (differs.pending_eq.trans isPending))
    exact differs.ends (Or.inr again)
      (ends_congr starts (stagesWhole.trans stagedStays.symm) whole)
  · exact ends_congr starts (stagesWhole.trans stays.symm) whole

/-- Keeping a line keeps the end, if the lines behind it keep theirs. -/
theorem Ends.cons_mono [CharacterNames] {line : Line} {rest kept : List Line}
    (keeps : ∀ after : Reading, after.Ends rest final → after.Ends kept final)
    (ends : reading.Ends (line :: rest) final) : reading.Ends (line :: kept) final := by
  obtain ⟨after, steps, later⟩ := ends_cons.mp ends
  exact ends_cons.mpr ⟨after, steps, keeps after later⟩

/-- Reading comes to the same end without declarations with which nothing is lost. Where one has
just been left out, the lines that go on with it are no longer there to be read. -/
theorem ends_withoutDeclarations [CharacterNames] {drops : Text → Text → List Text → Bool}
    {lines : List Text} (keeps : losesNothing drops lines = true) (reading : Reading) :
    (reading.Ends (lines.map Line.ofText) final →
      reading.Ends ((withoutDeclarations drops false lines).map Line.ofText) final) ∧
    (reading.Ends ((lines.dropWhile goesOn).map Line.ofText) final →
      reading.Ends ((withoutDeclarations drops true lines).map Line.ofText) final) := by
  -- Leaving a declaration out leads from the first part to the second; the next line that stages
  -- leads back, for the two parts agree there.
  induction lines generalizing reading with
  | nil => exact ⟨id, id⟩
  | cons line rest inductionHypothesis =>
    rw [losesNothing, Bool.and_eq_true] at keeps
    obtain ⟨keepsBehind, keeps⟩ := keeps
    have behind (after : Reading) := (inductionHypothesis keepsBehind after).1
    have dropped (after : Reading) := (inductionHypothesis keepsBehind after).2
    cases kind : Line.ofText line with
    | «attribute» word value =>
      simp only [kind, withoutDeclarations, List.dropWhile_cons, goesOn, Bool.false_eq_true,
        if_false, List.map_cons, and_self_iff] at keeps ⊢
      intro ends
      cases drop : drops word value rest with
      | true =>
        rw [drop] at keeps
        exact dropped reading (ends_without keeps ends)
      | false =>
        simpa only [Bool.false_eq_true, if_false, List.map_cons, kind] using
          Ends.cons_mono behind ends
    | continuation text =>
      simp only [kind, withoutDeclarations, List.dropWhile_cons, goesOn, Bool.false_eq_true,
        if_false, if_true, List.map_cons]
      exact ⟨Ends.cons_mono behind, dropped reading⟩
    | comment =>
      simp only [kind, withoutDeclarations, List.dropWhile_cons, goesOn, if_true, List.map_cons]
      exact ⟨Ends.cons_mono behind, fun ends => ends_cons.mpr ⟨reading, rfl, dropped reading ends⟩⟩
    | _ =>
      simp only [kind, withoutDeclarations, List.dropWhile_cons, goesOn, Bool.false_eq_true,
        if_false, List.map_cons, and_self_iff]
      exact Ends.cons_mono behind

end Reading

namespace Store

/-- Other rules are read to their end and declare the same, numbers of lines apart. -/
def DeclaresSame [CharacterNames] (store : Store) (file text other : Text) : Prop :=
  (store.readRules file other).outcome = .ok () ∧
    (store.readRules file other).world.unnumbered = (store.readRules file text).world.unnumbered

/-- Rules that are read to their end may do without declarations with which nothing is lost. -/
theorem declaresSame_withoutDeclarations [CharacterNames] {store : Store} {file text thinned : Text}
    {drops : Text → Text → List Text → Bool}
    (accepted : (store.readRules file text).outcome = .ok ())
    (keeps : losesNothing drops text.lines = true)
    (isThinned : thinned.lines = withoutDeclarations drops false text.lines) :
    store.DeclaresSame file text thinned := by
  have whole := Reading.unnumbered_all store text
  rw [all_of_outcome accepted] at whole
  have ends := (Reading.ends_withoutDeclarations keeps _).1 whole.symm
  have thin := Reading.unnumbered_all store thinned
  rw [isThinned] at thin
  obtain ⟨sameReading, sameStop⟩ := Prod.mk.inj (thin.trans ends)
  rw [DeclaresSame, outcome_readRules, world_readRules, world_readRules,
    Option.map_eq_none_iff.mp sameStop]
  exact ⟨rfl, congrArg Reading.store sameReading⟩

/-- The last declaration of an attribute is the one that counts. Rules that are read to their end
declare the same with only the last declaration of each attribute of each block, so that none is
declared twice. This needs that no name is followed by declarations of no name alone, for these
leave the name as it is. With the last declarations that take effect it is so for all rules. -/
theorem readRules_lastDeclarations [CharacterNames] {store : Store} {file text : Text}
    (accepted : (store.readRules file text).outcome = .ok ()) :
    declaresOnce (lastDeclarations text.lines) = true ∧
    (∀ thinned : Text, thinned.lines = lastDeclarations text.lines →
      namesStay text.lines = true → store.DeclaresSame file text thinned) ∧
    ∀ thinned : Text, thinned.lines = lastEffects text.lines →
      store.DeclaresSame file text thinned := by
  refine ⟨declaresOnce_withoutDeclarations false text.lines, ?_, ?_⟩
  · intro thinned isThinned stay
    exact declaresSame_withoutDeclarations accepted stay isThinned
  · intro thinned isThinned
    exact declaresSame_withoutDeclarations accepted (losesNothing_isSuperseded text.lines) isThinned

/-- Rules that declare most attributes twice, among comments, lines that go on and substitutions. -/
def repeatingRules : Text :=
  ("Template: p.Cell\n- imports: a.B\n# either\n  c.D\n- imports: NONE\n\n" ++
    "Instantiation: #a\n- name: NONE\n- types: int\n  long\n* x ~~> y\n- types: char\n" ++
    "- name: Hen\n").toList

/-- The same rules with the last declarations alone. -/
def thinnedRules : Text :=
  ("Template: p.Cell\n# either\n- imports: NONE\n\n" ++
    "Instantiation: #a\n* x ~~> y\n- types: char\n- name: Hen\n").toList

/-- Rules of an instantiation that has a name and then asks for none. -/
def revokingRules : Text :=
  "Template: p.Cell\n\nInstantiation: #a\n- types: int\n- name: Coop\n- name: NONE\n".toList

/-- The same rules without the last declaration. -/
def namingRules : Text :=
  "Template: p.Cell\n\nInstantiation: #a\n- types: int\n- name: Coop\n".toList

/-- The same rules with the last declarations alone. -/
def namelessRules : Text :=
  "Template: p.Cell\n\nInstantiation: #a\n- types: int\n- name: NONE\n".toList

section

attribute [local instance] CharacterNames.signs

theorem readRules_lastDeclarations_repeating :
    (readRules [] "cells.txt".toList repeatingRules).outcome = .ok () ∧
    thinnedRules.lines = lastDeclarations repeatingRules.lines ∧
    namesStay repeatingRules.lines = true ∧
    DeclaresSame [] "cells.txt".toList repeatingRules thinnedRules ∧
    (readRules [] "cells.txt".toList revokingRules).outcome = .ok () ∧
    namingRules.lines = lastEffects revokingRules.lines ∧
    DeclaresSame [] "cells.txt".toList revokingRules namingRules := by
  have accepted : (readRules [] "cells.txt".toList repeatingRules).outcome = .ok () := by
    decide +kernel
  have isThinned : thinnedRules.lines = lastDeclarations repeatingRules.lines := by decide +kernel
  have stay : namesStay repeatingRules.lines = true := by decide +kernel
  have alsoAccepted : (readRules [] "cells.txt".toList revokingRules).outcome = .ok () := by
    decide +kernel
  have isNaming : namingRules.lines = lastEffects revokingRules.lines := by decide +kernel
  obtain ⟨-, byLast, -⟩ := readRules_lastDeclarations accepted
  obtain ⟨-, -, byEffect⟩ := readRules_lastDeclarations alsoAccepted
  exact ⟨accepted, isThinned, stay, byLast thinnedRules isThinned stay, alsoAccepted, isNaming,
    byEffect namingRules isNaming⟩

end

section

attribute [local instance] CharacterNames.signs

/-- A name stays although none is asked for behind it, and it goes if its declaration is left
out. -/
theorem readRules_keeps_revoked_name :
    namelessRules.lines = lastDeclarations revokingRules.lines ∧
    (readRules [] "cells.txt".toList revokingRules).outcome = .ok () ∧
    (readRules [] "cells.txt".toList revokingRules).world.map
      (·.subordinates.map Subordinate.target) = [[some "Coop".toList]] ∧
    (readRules [] "cells.txt".toList namelessRules).world.map
      (·.subordinates.map Subordinate.target) = [[none]] := by
  decide +kernel

end

end Store

end Stencil
