/-
This file proves how the reading of rules ends. It comes to the end of the rules; or it stops at an
error, which is printed with the file and the lines it concerns; or it ends in the abort of a
pattern rule that is refused with something else than a fault, and then nothing is printed at all.

Which of these happens is settled line by line. What is pending belongs to the declaration in
progress and began on a line before the present one, so that whatever is staged or committed finds
what it looks up, and the lines of an error are in order. Aborts come from staging a substitution
and from nothing else.
-/
import Stencil.Proofs.Refusals
import Stencil.Proofs.StoreExpansion

namespace Stencil

/-! ### What is pending -/

/-- The line on which what is pending began. -/
def Pending.line : Pending → Nat
  | .attribute _ _ line => line
  | .substitution _ line => line

/-- A pending attribute is one that the declaration has. -/
def Pending.Concerns (active : Active) : Pending → Prop
  | .attribute setting _ _ => setting ∈ active.declaration.attributes
  | .substitution _ _ => True

/-- The line on which a template in progress began. -/
def Active.line? : Active → Option Nat
  | .template _ line => some line
  | .subordinate _ _ => none

theorem Active.line?_change (active : Active) (change : Change) :
    (active.change change).line? = active.line? := by
  unfold Active.change
  split
  · next declaration _ => cases active <;> cases declaration <;> rfl
  · rfl

namespace Reading

/-- Reading into the store `start` stands before a line of this number: new templates have been
declared on lines counted from one, and what is pending began before, in the declaration in
progress. -/
structure Tidy (start : Store) (number : Nat) (reading : Reading) : Prop where
  positive : 1 ≤ number
  entries : ∀ entry ∈ reading.store, entry.line ∈ start.map StoreEntry.line ∨ 1 ≤ entry.line
  begun : ∀ active line, reading.active = some active → active.line? = some line → 1 ≤ line
  pending : ∀ pending, reading.pending = some pending → 1 ≤ pending.line ∧
    pending.line < number ∧ ∃ active, reading.active = some active ∧ pending.Concerns active

namespace Tidy

variable {store : Store} {number : Nat} {reading result : Reading}

theorem mono (tidy : reading.Tidy store number) {later : Nat} (atMost : number ≤ later) :
    reading.Tidy store later where
  positive := tidy.positive.trans atMost
  entries := tidy.entries
  begun := tidy.begun
  pending pending isPending := by
    obtain ⟨positive, before, concerns⟩ := tidy.pending pending isPending
    exact ⟨positive, before.trans_le atMost, concerns⟩

theorem start (store : Store) : Tidy store 1 ⟨store, none, none, none⟩ where
  positive := le_rfl
  entries _ member := Or.inl (List.mem_map_of_mem member)
  begun _ _ none := by cases none
  pending _ none := by cases none

theorem positive_entries (tidy : reading.Tidy store number)
    (entries : ∀ entry ∈ store, 1 ≤ entry.line) : ∀ entry ∈ reading.store, 1 ≤ entry.line := by
  intro entry member
  rcases tidy.entries entry member with old | new
  · obtain ⟨before, inside, same⟩ := List.mem_map.mp old
    exact same ▸ entries before inside
  · exact new

theorem line?_staged [CharacterNames] {active after : Active} {pending : Pending} {next : Nat}
    (same : staged active pending next = .ok after) : after.line? = active.line? := by
  unfold staged at same
  split at same
  · split at same <;> cases same
    · rfl
    · exact active.line?_change _
  · split at same
    · cases same
    · split at same <;> cases same
      exact Active.line?_change _ _

/-- Once everything has been staged, nothing is pending. -/
theorem stage [CharacterNames] (tidy : reading.Tidy store number)
    (same : reading.stage number = .ok result) :
    result.Tidy store number ∧ result.pending = none := by
  rw [Reading.stage] at same
  split at same
  · next active pending isActive isPending =>
    split at same
    · next after staging =>
      cases same
      refine ⟨⟨tidy.positive, tidy.entries, ?_, fun _ none => by cases none⟩, rfl⟩
      rintro other line ⟨⟩ isLine
      exact tidy.begun active line isActive ((line?_staged staging).symm.trans isLine)
    · cases same
  · next notBoth =>
    cases same
    refine ⟨tidy, ?_⟩
    cases isPending : reading.pending with
    | none => rfl
    | some pending =>
      obtain ⟨-, -, active, isActive, -⟩ := tidy.pending pending isPending
      exact (notBoth active pending isActive isPending).elim

theorem commit (tidy : reading.Tidy store number) {active : Active}
    (isActive : reading.active = some active) {after : Store}
    (commits : committed reading.store active number = .ok after) :
    Tidy store number { reading with store := after, active := none, pending := none } := by
  refine ⟨tidy.positive, ?_, fun _ _ none => (by cases none), fun _ none => (by cases none)⟩
  rcases committed_eq_ok commits with
    ⟨template, line, rfl, rfl⟩ | ⟨owner, subordinate, rfl, -, rfl⟩
  · intro entry member
    rcases List.mem_append.mp member with earlier | last
    · exact tidy.entries entry earlier
    · rw [List.mem_singleton.mp last]
      exact Or.inr (tidy.begun _ line isActive rfl)
  · intro entry member
    obtain ⟨before, inside, rfl⟩ := List.mem_map.mp member
    split <;> exact tidy.entries before inside

theorem conclude [CharacterNames] (tidy : reading.Tidy store number)
    (same : reading.conclude number = .ok result) :
    result.Tidy store number ∧ result.active = none ∧ result.pending = none := by
  obtain ⟨middle, staging, ⟨inactive, rfl⟩ | ⟨active, after, isActive, commits, rfl⟩⟩ :=
    conclude_eq_ok same
  · obtain ⟨staged, cleared⟩ := tidy.stage staging
    exact ⟨staged, inactive, cleared⟩
  · exact ⟨(tidy.stage staging).1.commit isActive commits, rfl, rfl⟩

theorem beginDeclaration [CharacterNames] (tidy : reading.Tidy store number)
    (cleared : reading.pending = none) {className : Text} {subject : Subject}
    (same : reading.beginDeclaration number className subject = .ok result) :
    result.Tidy store number := by
  rcases beginDeclaration_eq_ok same with
    ⟨name, -, -, rfl⟩ | ⟨owner, declared, -, -, -, -, rfl⟩
  · refine ⟨tidy.positive, tidy.entries, ?_, fun pending isPending => ?_⟩
    · rintro active line ⟨⟩ ⟨⟩
      exact tidy.positive
    · cases cleared.symm.trans isPending
  · refine ⟨tidy.positive, tidy.entries, ?_, fun pending isPending => ?_⟩
    · rintro active line ⟨⟩ ⟨⟩
    · cases cleared.symm.trans isPending

theorem pend (tidy : reading.Tidy store number) {pending : Pending}
    (positive : 1 ≤ pending.line) (before : pending.line ≤ number)
    (concerns : ∃ active, reading.active = some active ∧ pending.Concerns active) :
    Tidy store (number + 1) { reading with pending := some pending } where
  positive := Nat.le_add_left 1 number
  entries := tidy.entries
  begun := tidy.begun
  pending other same := by
    cases same
    exact ⟨positive, Nat.lt_succ_of_le before, concerns⟩

theorem beginAttribute (tidy : reading.Tidy store number) {word value : Text}
    (same : reading.beginAttribute number word value = .ok result) :
    result.Tidy store (number + 1) := by
  unfold Reading.beginAttribute at same
  split at same
  · cases same
  · next active isActive =>
    split at same
    · next setting found =>
      cases same
      exact tidy.pend tidy.positive le_rfl ⟨active, isActive, List.mem_of_find?_eq_some found⟩
    · cases same

theorem beginSubstitution (tidy : reading.Tidy store number) {text : Text}
    (same : reading.beginSubstitution number text = .ok result) :
    result.Tidy store (number + 1) := by
  unfold Reading.beginSubstitution at same
  split at same
  · cases same
  · next active isActive =>
    cases same
    exact tidy.pend tidy.positive le_rfl ⟨active, isActive, trivial⟩

theorem resume (tidy : reading.Tidy store number) {text : Text}
    (same : reading.resume number text = .ok result) : result.Tidy store (number + 1) := by
  unfold Reading.resume at same
  split at same
  · next isPending =>
    cases same
    obtain ⟨positive, before, concerns⟩ := tidy.pending _ isPending
    exact tidy.pend positive before.le concerns
  · next isPending =>
    cases same
    obtain ⟨positive, before, concerns⟩ := tidy.pending _ isPending
    exact tidy.pend positive before.le concerns
  · cases same

/-- Every line keeps the order, whether reading goes on behind it or not. -/
theorem step [CharacterNames] (tidy : reading.Tidy store number) (line : Line) :
    (reading.step number line).1.Tidy store (number + 1) := by
  have later := tidy.mono (Nat.le_succ number)
  cases line with
  | comment => exact later
  | blank =>
    exact holds_orStay later fun _ same => (tidy.conclude same).1.mono (Nat.le_succ number)
  | opening className subject =>
    refine holds_andThen (holds_orStay later fun _ same =>
      (tidy.conclude same).1.mono (Nat.le_succ number)) fun goesOn _ same => ?_
    obtain ⟨concluded, -, cleared⟩ := tidy.conclude (eq_ok_of_orStay goesOn)
    exact (concluded.beginDeclaration cleared same).mono (Nat.le_succ number)
  | «attribute» word value =>
    refine holds_andThen (holds_orStay later fun _ same =>
      (tidy.stage same).1.mono (Nat.le_succ number)) fun goesOn _ same => ?_
    exact (tidy.stage (eq_ok_of_orStay goesOn)).1.beginAttribute same
  | substitution text =>
    refine holds_andThen (holds_orStay later fun _ same =>
      (tidy.stage same).1.mono (Nat.le_succ number)) fun goesOn _ same => ?_
    exact (tidy.stage (eq_ok_of_orStay goesOn)).1.beginSubstitution same
  | continuation text => exact holds_orStay later fun _ same => tidy.resume same
  | other => exact later

end Tidy

end Reading

/-! ### Where reading stops -/

/-- The rule that a substitution spells, whether or not it can be used. -/
def Rule.ofSubstitution? (text : Text) : Option Rule :=
  (Substitution.ofText? text).map fun substitution =>
    ⟨substitution.pattern.text, substitution.substitute.text,
      substitution.arrow.head? == some '~', substitution.bullet == '*'⟩

/-- The lines before which what is pending is staged. -/
def Line.stages : Line → Bool
  | .blank | .opening _ _ | .attribute _ _ | .substitution _ => true
  | .comment | .continuation _ | .other => false

namespace Reading

variable {store : Store} {number : Nat} {reading after : Reading} {rule : Rule} {abort : Abort}
  {stop : Stop}

/-- The rule that is pending in a subordinate. -/
def pendingRule? (reading : Reading) : Option Rule :=
  match reading.active, reading.pending with
  | some (.subordinate _ _), some (.substitution text _) => Rule.ofSubstitution? text
  | _, _ => none

/-- The rule that is pending will not be staged but end reading in an abort. -/
structure Trips [CharacterNames] (reading : Reading) (rule : Rule) (abort : Abort) : Prop where
  pending : reading.pendingRule? = some rule
  nonempty : rule.pattern ≠ []
  unforeseen : rule.Unforeseen abort

/-- What reading may stop with: an error, of which the lines are counted from one and in order, or
an abort that the pending rule ends in. -/
def StopsWith [CharacterNames] (reading : Reading) : Stop → Prop
  | .refused error => 1 ≤ error.first ∧ error.first ≤ error.last
  | .aborted abort => ∃ rule, reading.Trips rule abort

theorem refusal_of_unforeseen {found : Refusal} (unforeseen : found.unforeseen? = some abort)
    (first next : Nat) (cause : Fault → RulesCause) :
    (refusal first next cause found : Except Stop Unit) = .error (.aborted abort) := by
  cases found <;> cases unforeseen <;> rfl

theorem checkRule_of_unforeseen [CharacterNames] (unforeseen : rule.Unforeseen abort)
    (first next : Nat) :
    checkRule first next rule = .error (.aborted abort) := by
  cases unforeseen with
  | pattern isRegex refused unforeseen =>
    rw [checkRule, if_pos isRegex]
    simp only [refused, refusal_of_unforeseen unforeseen]
  | substitute isRegex read refused unforeseen =>
    rw [checkRule, if_pos isRegex]
    simp only [read, refused, refusal_of_unforeseen unforeseen]

/-- A rule that is checked is refused for a fault, over its own lines, or is unforeseen. -/
theorem checkRule_eq_error [CharacterNames] {first next : Nat}
    (same : checkRule first next rule = .error stop) :
    (∃ cause, stop = .refused ⟨first, next - 1, cause⟩) ∨
      ∃ abort, stop = .aborted abort ∧ rule.Unforeseen abort := by
  have refused {found : Refusal} {cause : Fault → RulesCause}
      (same : (refusal first next cause found : Except Stop Unit) = .error stop) :
      (∃ cause, stop = .refused ⟨first, next - 1, cause⟩) ∨
        ∃ abort, stop = .aborted abort ∧ found.unforeseen? = some abort := by
    cases found <;> cases same
    · exact Or.inl ⟨_, rfl⟩
    all_goals exact Or.inr ⟨_, rfl, rfl⟩
  unfold checkRule at same
  split at same
  · next isRegex =>
    split at same
    · next found unread =>
      refine (refused same).imp_right ?_
      rintro ⟨abort, rfl, unforeseen⟩
      exact ⟨abort, rfl, .pattern isRegex unread unforeseen⟩
    · next pattern read =>
      split at same
      · next found unread =>
        refine (refused same).imp_right ?_
        rintro ⟨abort, rfl, unforeseen⟩
        exact ⟨abort, rfl, .substitute isRegex read unread unforeseen⟩
      · cases same
  · cases same

theorem ruleOf_eq [CharacterNames] (first next : Nat) (text : Text) :
    ruleOf first next text =
      match Rule.ofSubstitution? text with
      | none => refuse first next (.missingArrow text)
      | some rule =>
        if rule.pattern.isEmpty then refuse first next (.emptyPattern text)
        else
          match checkRule first next rule with
          | .ok () => .ok rule
          | .error stop => .error stop := by
  rw [ruleOf, Rule.ofSubstitution?]
  cases Substitution.ofText? text <;> rfl

/-- The same for the rule that a substitution spells. -/
theorem ruleOf_eq_error [CharacterNames] {first next : Nat} {text : Text}
    (same : ruleOf first next text = .error stop) :
    (∃ cause, stop = .refused ⟨first, next - 1, cause⟩) ∨
      ∃ rule abort, Rule.ofSubstitution? text = some rule ∧ rule.pattern ≠ [] ∧
        stop = .aborted abort ∧ rule.Unforeseen abort := by
  rw [ruleOf_eq] at same
  split at same
  · cases same
    exact Or.inl ⟨_, rfl⟩
  · next rule spelled =>
    split at same
    · cases same
      exact Or.inl ⟨_, rfl⟩
    · next nonempty =>
      split at same
      · cases same
      · next unchecked =>
        cases same
        refine (checkRule_eq_error unchecked).imp_right ?_
        rintro ⟨abort, rfl, unforeseen⟩
        exact ⟨rule, abort, spelled, fun empty => nonempty (List.isEmpty_iff.mpr empty), rfl,
          unforeseen⟩

theorem stage_of_trips [CharacterNames] (trips : reading.Trips rule abort) (next : Nat) :
    reading.stage next = .error (.aborted abort) := by
  have pending := trips.pending
  rw [pendingRule?] at pending
  split at pending
  · next owner subordinate text line isActive isPending =>
    have nonempty : rule.pattern.isEmpty = false := List.isEmpty_eq_false_iff.mpr trips.nonempty
    have read : ruleOf line next text = .error (.aborted abort) := by
      rw [ruleOf_eq, pending]
      simp only [nonempty, checkRule_of_unforeseen trips.unforeseen, Bool.false_eq_true, if_false]
    simp only [stage, isActive, isPending, staged, read]
  · cases pending

theorem conclude_of_trips [CharacterNames] (trips : reading.Trips rule abort) (next : Nat) :
    reading.conclude next = .error (.aborted abort) := by
  rw [conclude, stage_of_trips trips]

/-- Whatever is staged next, reading ends in the abort, and where it stood. -/
theorem step_of_trips [CharacterNames] (trips : reading.Trips rule abort) {line : Line}
    (stages : line.stages = true) :
    reading.step number line = (reading, some (.aborted abort)) := by
  cases line with
  | blank | opening _ _ => simp only [step, conclude_of_trips trips, orStay, andThen]
  | «attribute» _ _ | substitution _ => simp only [step, stage_of_trips trips, orStay, andThen]
  | comment | continuation _ | other => cases stages

namespace Tidy

theorem stopsWith_line [CharacterNames] (tidy : reading.Tidy store number) (cause : RulesCause) :
    after.StopsWith (.refused ⟨number, number, cause⟩) :=
  ⟨tidy.positive, le_rfl⟩

theorem stopsWith_stage [CharacterNames] (tidy : reading.Tidy store number)
    (same : reading.stage number = .error stop) : reading.StopsWith stop := by
  rw [Reading.stage] at same
  split at same
  · next active pending isActive isPending =>
    obtain ⟨positive, before, -⟩ := tidy.pending pending isPending
    have refused (cause : RulesCause) :
        reading.StopsWith (.refused ⟨pending.line, number - 1, cause⟩) :=
      ⟨positive, Nat.le_sub_one_of_lt before⟩
    split at same <;> cases same
    next staging =>
    cases pending with
    | «attribute» setting value line =>
      rw [staged] at staging
      split at staging <;> cases staging
      exact refused _
    | substitution text line =>
      cases active with
      | template declared begun =>
        cases staging
        exact refused _
      | subordinate owner declared =>
        rw [staged] at staging
        split at staging <;> cases staging
        next unread =>
        rcases ruleOf_eq_error unread with
          ⟨cause, rfl⟩ | ⟨rule, abort, spelled, nonempty, rfl, unforeseen⟩
        · exact refused cause
        · have pends : reading.pendingRule? = Rule.ofSubstitution? text := by
            rw [pendingRule?, isActive, isPending]
          exact ⟨rule, pends.trans spelled, nonempty, unforeseen⟩
  · cases same

theorem stopsWith_conclude [CharacterNames] (tidy : reading.Tidy store number)
    (same : reading.conclude number = .error stop) : reading.StopsWith stop := by
  rw [Reading.conclude] at same
  split at same
  · next staging =>
    cases same
    exact tidy.stopsWith_stage staging
  · split at same
    · cases same
    · split at same <;> cases same
      next uncommitted =>
      rw [committed] at uncommitted
      split at uncommitted
      · cases uncommitted
        exact tidy.stopsWith_line _
      · cases uncommitted
      · split at uncommitted <;> cases uncommitted

end Tidy

theorem beginDeclaration_eq_error {className : Text} {subject : Subject}
    (same : reading.beginDeclaration number className subject = .error stop) :
    ∃ cause, stop = .refused ⟨number, number, cause⟩ := by
  unfold beginDeclaration at same
  split at same
  · split at same
    · cases same
      exact ⟨_, rfl⟩
    · split at same <;> cases same
      exact ⟨_, rfl⟩
  · split at same
    · cases same
      exact ⟨_, rfl⟩
    · cases same
      exact ⟨_, rfl⟩
    · cases same
      exact ⟨_, rfl⟩
    · split at same <;> cases same
      exact ⟨_, rfl⟩

theorem beginAttribute_eq_error {word value : Text}
    (same : reading.beginAttribute number word value = .error stop) :
    ∃ cause, stop = .refused ⟨number, number, cause⟩ := by
  unfold beginAttribute at same
  split at same
  · cases same
    exact ⟨_, rfl⟩
  · split at same <;> cases same
    exact ⟨_, rfl⟩

theorem beginSubstitution_eq_error {text : Text}
    (same : reading.beginSubstitution number text = .error stop) :
    ∃ cause, stop = .refused ⟨number, number, cause⟩ := by
  unfold beginSubstitution at same
  split at same <;> cases same
  exact ⟨_, rfl⟩

theorem resume_eq_error {text : Text} (same : reading.resume number text = .error stop) :
    ∃ cause, stop = .refused ⟨number, number, cause⟩ := by
  unfold resume at same
  split at same <;> cases same
  exact ⟨_, rfl⟩

theorem orStay_eq_stop {next : Except Stop Reading} :
    reading.orStay next = (after, some stop) ↔ after = reading ∧ next = .error stop := by
  cases next with
  | ok result => simp [orStay]
  | error other => simp [orStay, eq_comm]

/-- The first step stops, or the second one does and the first is kept. -/
theorem andThen_eq_stop {taken : Reading × Option Stop} {next : Reading → Except Stop Reading} :
    andThen taken next = (after, some stop) ↔
      taken = (after, some stop) ∨ taken = (after, none) ∧ next after = .error stop := by
  obtain ⟨middle, stop?⟩ := taken
  cases stop? with
  | none =>
    simp only [andThen, orStay_eq_stop, Prod.mk.injEq, reduceCtorEq, and_false, false_or, and_true]
    constructor
    · rintro ⟨rfl, stops⟩
      exact ⟨rfl, stops⟩
    · rintro ⟨rfl, stops⟩
      exact ⟨rfl, stops⟩
  | some other => simp [andThen]

theorem orStay_eq_going {next : Except Stop Reading} :
    reading.orStay next = (after, none) ↔ next = .ok after := by
  cases next with
  | ok result => simp [orStay]
  | error stop => simp [orStay]

theorem andThen_eq_going {taken : Reading × Option Stop} {next : Reading → Except Stop Reading} :
    andThen taken next = (after, none) ↔
      ∃ middle, taken = (middle, none) ∧ next middle = .ok after := by
  obtain ⟨middle, stop?⟩ := taken
  cases stop? with
  | none => simp [andThen, orStay_eq_going]
  | some stop => simp [andThen]

/-- A line at which reading stops. Only lines that stage end it in an abort. -/
theorem Tidy.stopsWith_step [CharacterNames] (tidy : reading.Tidy store number) {line : Line}
    (same : reading.step number line = (after, some stop)) :
    reading.StopsWith stop ∧ ∀ abort, stop = .aborted abort → line.stages = true := by
  have refused (error : ∃ cause, stop = .refused ⟨number, number, cause⟩) :
      reading.StopsWith stop ∧ ∀ abort, stop = .aborted abort → line.stages = true := by
    obtain ⟨cause, rfl⟩ := error
    exact ⟨tidy.stopsWith_line cause, fun _ none => by cases none⟩
  cases line with
  | comment => cases same
  | blank => exact ⟨tidy.stopsWith_conclude (orStay_eq_stop.mp same).2, fun _ _ => rfl⟩
  | opening className subject =>
    rcases andThen_eq_stop.mp same with first | ⟨-, second⟩
    · exact ⟨tidy.stopsWith_conclude (orStay_eq_stop.mp first).2, fun _ _ => rfl⟩
    · exact refused (beginDeclaration_eq_error second)
  | «attribute» word value =>
    rcases andThen_eq_stop.mp same with first | ⟨-, second⟩
    · exact ⟨tidy.stopsWith_stage (orStay_eq_stop.mp first).2, fun _ _ => rfl⟩
    · exact refused (beginAttribute_eq_error second)
  | substitution text =>
    rcases andThen_eq_stop.mp same with first | ⟨-, second⟩
    · exact ⟨tidy.stopsWith_stage (orStay_eq_stop.mp first).2, fun _ _ => rfl⟩
    · exact refused (beginSubstitution_eq_error second)
  | continuation text => exact refused (resume_eq_error (orStay_eq_stop.mp same).2)
  | other =>
    cases same
    exact refused ⟨_, rfl⟩

/-! ### Line after line -/

theorem lines_append [CharacterNames] (reading : Reading) (number : Nat)
    (earlier later : List Text) :
    reading.lines number (earlier ++ later) =
      match reading.lines number earlier with
      | ((after, none), next) => after.lines next later
      | stopped => stopped := by
  induction earlier generalizing reading number with
  | nil => rfl
  | cons line earlier inductionHypothesis =>
    rw [List.cons_append, lines, lines]
    cases stepped : reading.step number (Line.ofText line) with
    | mk after stop? =>
      cases stop? with
      | none => exact inductionHypothesis after (number + 1)
      | some stop => rfl

/-- Some lines are read without a stop. -/
def Passes [CharacterNames] (reading : Reading) (number : Nat) (list : List Text) (after : Reading) :
    Prop :=
  reading.lines number list = ((after, none), number + list.length)

theorem passes_cons [CharacterNames] {line : Text} {list : List Text} :
    reading.Passes number (line :: list) after ↔
      ∃ middle, reading.step number (Line.ofText line) = (middle, none) ∧
        middle.Passes (number + 1) list after := by
  have behind : number + (line :: list).length = number + 1 + list.length := by
    rw [List.length_cons]
    omega
  rw [Passes, lines, behind]
  cases stepped : reading.step number (Line.ofText line) with
  | mk middle stop? =>
    cases stop? with
    | none => simp [Passes]
    | some stop => simp

theorem Passes.append [CharacterNames] {first second : List Text} {middle : Reading}
    (earlier : reading.Passes number first middle)
    (later : middle.Passes (number + first.length) second after) :
    reading.Passes number (first ++ second) after := by
  rw [Passes, lines_append, earlier, List.length_append, ← Nat.add_assoc]
  exact later

theorem passes_of_lines [CharacterNames] {list : List Text} {next : Nat}
    (same : reading.lines number list = ((after, none), next)) :
    reading.Passes number list after := by
  induction list generalizing reading number with
  | nil =>
    cases same
    rfl
  | cons line list inductionHypothesis =>
    rw [lines] at same
    split at same
    · next middle stepped => exact passes_cons.mpr ⟨middle, stepped, inductionHypothesis same⟩
    · next stopped unfinished => exact (unfinished after (Prod.mk.inj same).1).elim

/-- Reading stops at a line behind others that it passes. -/
theorem lines_eq_stop [CharacterNames] {list : List Text} {next : Nat}
    (same : reading.lines number list = ((after, some stop), next)) :
    ∃ earlier line later before, list = earlier ++ line :: later ∧
      reading.Passes number earlier before ∧
      before.step (number + earlier.length) (Line.ofText line) = (after, some stop) := by
  induction list generalizing reading number with
  | nil => cases same
  | cons line list inductionHypothesis =>
    rw [lines] at same
    split at same
    · next middle stepped =>
      obtain ⟨earlier, last, later, before, rfl, passes, stops⟩ := inductionHypothesis same
      refine ⟨line :: earlier, last, later, before, rfl, ?_, ?_⟩
      · exact passes_cons.mpr ⟨middle, stepped, passes⟩
      · rw [List.length_cons, Nat.add_comm earlier.length, ← Nat.add_assoc]
        exact stops
    · next stopped unfinished =>
      obtain ⟨stopped, -⟩ := Prod.mk.inj same
      exact ⟨[], line, list, reading, rfl, rfl, stopped⟩

theorem Tidy.lines [CharacterNames] (tidy : reading.Tidy store number) (list : List Text) :
    (reading.lines number list).1.1.Tidy store (number + list.length) := by
  induction list generalizing reading number with
  | nil => exact tidy
  | cons line list inductionHypothesis =>
    have stepped := tidy.step (Line.ofText line)
    rw [Reading.lines, List.length_cons, Nat.add_comm list.length, ← Nat.add_assoc]
    split
    · next middle goesOn =>
      rw [goesOn] at stepped
      exact inductionHypothesis stepped
    · exact stepped.mono (Nat.le_add_right _ _)

theorem Tidy.passes [CharacterNames] (tidy : reading.Tidy store number) {list : List Text}
    (passes : reading.Passes number list after) : after.Tidy store (number + list.length) := by
  have tidy := tidy.lines list
  rw [passes] at tidy
  exact tidy

/-! ### Rules as a whole -/

/-- Where the reading of rules into a store begins. -/
abbrev beginning (store : Store) : Reading := ⟨store, none, none, none⟩

/-- Rules break off: some of their lines, or all, are passed, and then the pending rule is to be
staged and ends reading in an abort. -/
inductive BreaksOff [CharacterNames] (store : Store) (text : Text) (rule : Rule) (abort : Abort) :
    Prop
  | intro {earlier later : List Text} {reading : Reading} (parts : text.lines = earlier ++ later)
      (passes : (beginning store).Passes 1 earlier reading)
      (stages : ∀ line ∈ later.head?, (Line.ofText line).stages = true)
      (trips : reading.Trips rule abort)

variable {text : Text}

/-- Rules are left unfinished at one of their lines, at their end, or for a template without
subordinates. -/
theorem all_eq_stop [CharacterNames] (same : all store text = (after, some stop)) :
    (∃ earlier line later before, text.lines = earlier ++ line :: later ∧
      (beginning store).Passes 1 earlier before ∧
      before.step (1 + earlier.length) (Line.ofText line) = (after, some stop)) ∨
    ∃ before, (beginning store).Passes 1 text.lines before ∧
      (before.conclude (1 + text.lines.length) = .error stop ∨
        before.conclude (1 + text.lines.length) = .ok after ∧ after.checkBarren = .error stop) := by
  rw [all] at same
  cases read : (beginning store).lines 1 text.lines with
  | mk taken next =>
    obtain ⟨before, stop?⟩ := taken
    rw [read] at same
    cases stop? with
    | some other =>
      cases same
      exact Or.inl (lines_eq_stop read)
    | none =>
      have passes := passes_of_lines read
      obtain rfl : next = 1 + text.lines.length := (Prod.mk.inj (read.symm.trans passes)).2
      refine Or.inr ⟨before, passes, ?_⟩
      rcases andThen_eq_stop.mp same with concluding | ⟨concluding, barren⟩
      · exact Or.inl (orStay_eq_stop.mp concluding).2
      · refine Or.inr ⟨?_, barren⟩
        have goesOn := congrArg Prod.snd concluding
        have concluded := eq_ok_of_orStay goesOn
        rwa [show (before.orStay (before.conclude (1 + text.lines.length))).1 = after from
          congrArg Prod.fst concluding] at concluded

theorem BreaksOff.all_eq [CharacterNames] (breaks : BreaksOff store text rule abort) :
    (all store text).2 = some (.aborted abort) := by
  cases breaks with
  | @intro earlier later reading parts passes stages trips =>
    rw [all, parts, lines_append, passes]
    cases later with
    | nil => simp only [lines, andThen, conclude_of_trips trips, orStay]
    | cons line later =>
      have stops : reading.step (1 + earlier.length) (Line.ofText line) =
          (reading, some (.aborted abort)) := step_of_trips trips (stages line rfl)
      simp only [lines, stops, andThen]

/-- The error that rules are refused with is about lines that are counted from one and in order, and
an abort means that they break off. -/
theorem stopsWith_all [CharacterNames] (entries : ∀ entry ∈ store, 1 ≤ entry.line)
    (same : (all store text).2 = some stop) :
    match stop with
    | .refused error => 1 ≤ error.first ∧ error.first ≤ error.last
    | .aborted abort => ∃ rule, BreaksOff store text rule abort := by
  have tidy := Tidy.start store
  rcases all_eq_stop (Prod.ext rfl same) with
    ⟨earlier, line, later, before, parts, passes, stops⟩ |
    ⟨before, passes, stops | ⟨concluded, stops⟩⟩
  · obtain ⟨stopsWith, stages⟩ := (tidy.passes passes).stopsWith_step stops
    cases stop with
    | refused error => exact stopsWith
    | aborted abort =>
      obtain ⟨rule, trips⟩ := stopsWith
      refine ⟨rule, .intro parts passes ?_ trips⟩
      rintro other ⟨⟩
      exact stages abort rfl
  · have stopsWith := (tidy.passes passes).stopsWith_conclude stops
    cases stop with
    | refused error => exact stopsWith
    | aborted abort =>
      obtain ⟨rule, trips⟩ := stopsWith
      exact ⟨rule, .intro (List.append_nil _).symm passes (fun _ none => by cases none) trips⟩
  · rw [checkBarren] at stops
    split at stops
    · next entry found =>
      cases stops
      have member := List.mem_of_find?_eq_some found
      exact ⟨((tidy.passes passes).conclude concluded).1.positive_entries entries entry member,
        le_rfl⟩
    · cases stops

/-- Rules are read in order, however they end. -/
theorem tidy_all [CharacterNames] (store : Store) (text : Text) :
    (all store text).1.Tidy store (1 + text.lines.length) := by
  have read := (Tidy.start store).lines text.lines
  rw [all]
  cases same : (beginning store).lines 1 text.lines with
  | mk taken next =>
    rw [same] at read
    obtain ⟨before, stop?⟩ := taken
    cases stop? with
    | some other => exact read
    | none =>
      obtain rfl : next = 1 + text.lines.length :=
        (Prod.mk.inj (same.symm.trans (passes_of_lines same))).2
      have concluded :
          (andThen (before, none) (conclude · (1 + text.lines.length))).1.Tidy store
            (1 + text.lines.length) :=
        holds_orStay read fun _ concluded => (read.conclude concluded).1
      exact holds_andThen concluded fun _ _ checked => (checkBarren_eq_ok checked).1 ▸ concluded

end Reading

/-! ### What is looked up -/

/-- A declaration takes the changes of its attributes. -/
theorem Declaration.changed?_of_mem {declaration : Declaration} {change : Change}
    {setting : Attribute} (about : change.setting? = some setting)
    (member : setting ∈ declaration.attributes) :
    ∃ changed, declaration.changed? change = some changed := by
  cases declaration with
  | template declared =>
    cases change with
    | parameters _ | placement _ | markers _ | imports _ | sigil _ => exact ⟨_, rfl⟩
    | types _ | target _ =>
      cases about
      simp [Declaration.attributes] at member
    | rule _ => cases about
  | subordinate declared =>
    obtain ⟨id, committed, kind, target, rules⟩ := declared
    cases change with
    | parameters _ | placement _ | markers _ | imports _ | sigil _ =>
      cases about
      cases kind <;> simp [Declaration.attributes] at member
    | types _ =>
      cases about
      cases kind with
      | instantiation _ => exact ⟨_, rfl⟩
      | derivation => simp [Declaration.attributes] at member
    | target _ | rule _ => exact ⟨_, rfl⟩

namespace Reading

theorem setting?_attributeChange {declaration : Declaration} {setting : Attribute} {value : Text}
    {change : Change} (read : attributeChange declaration setting value = .ok (some change)) :
    change.setting? = some setting := by
  cases setting with
  | parameters | placement | directives | imports | sigil | types =>
    obtain ⟨_, _, same⟩ := exists_ok_of_map read
    cases same
    rfl
  | name =>
    rw [attributeChange] at read
    split at read
    · cases read
    · cases read
      rfl
    · split at read <;> cases read

/-- Whatever is looked up in the next steps of reading is there. -/
structure Provided (reading : Reading) : Prop where
  /-- What is pending is pending in a declaration. -/
  declaration : ∀ pending, reading.pending = some pending → ∃ active, reading.active = some active
  /-- The declaration takes the change that a pending attribute makes. -/
  change : ∀ active setting value line change, reading.active = some active →
    reading.pending = some (.attribute setting value line) →
    attributeChange active.declaration setting value = .ok (some change) →
    ∃ changed, active.declaration.changed? change = some changed ∧
      active.declaration.change change = .ok changed
  /-- The declaration has not been committed. -/
  uncommitted : ∀ active, reading.active = some active → active.declaration.committed = false
  /-- The template of a subordinate is in the store. -/
  owner : ∀ owner subordinate, reading.active = some (.subordinate owner subordinate) →
    ∃ entry, reading.store.entry? owner = some entry

theorem Provided.of_sound [CharacterNames] {store : Store} {number : Nat} {reading : Reading}
    (sound : reading.Sound store) (tidy : reading.Tidy store number) : reading.Provided := by
  have uncommitted (active : Active) (isActive : reading.active = some active) :
      active.declaration.committed = false := by
    cases sound.active active isActive with
    | template draft _ => exact draft.uncommitted
    | subordinate draft _ _ _ => exact draft.uncommitted
  refine ⟨fun pending isPending => ?_, ?_, uncommitted, fun owner subordinate isActive => ?_⟩
  · obtain ⟨-, -, active, isActive, -⟩ := tidy.pending pending isPending
    exact ⟨active, isActive⟩
  · intro active setting value line change isActive isPending read
    obtain ⟨-, -, other, alsoActive, member⟩ := tidy.pending _ isPending
    cases isActive.symm.trans alsoActive
    obtain ⟨changed, same⟩ := Declaration.changed?_of_mem (setting?_attributeChange read) member
    refine ⟨changed, same, ?_⟩
    simp only [Declaration.change, same, uncommitted active isActive, Bool.false_eq_true, if_false]
  · cases sound.active _ isActive with
    | subordinate _ _ owned _ => exact (Store.exists_entry_iff _ _).mpr owned

theorem Sound.passes [CharacterNames] {store : Store} (sound : store.Sound) {list : List Text}
    {after : Reading} (passes : (beginning store).Passes 1 list after) : after.Sound store := by
  have read : ((beginning store).lines 1 list).1.1.Sound store :=
    holds_lines (fun _ number line here => here.step number (Line.ofText line))
      (Sound.start sound) 1 list
  rw [passes] at read
  exact read

end Reading

/-! ### How rules end -/

theorem Reading.BreaksOff.reasonIn [CharacterNames] {store : Store} {text : Text} {rule : Rule}
    {abort : Abort} (breaks : BreaksOff store text rule abort) :
    rule.isRegex = true ∧ abort.ReasonIn rule := by
  cases breaks with
  | intro _ _ _ trips => exact trips.unforeseen.reasonIn

namespace RulesError

/-- A text that begins with the name of the file and the numbers of the lines of an error. -/
def PrintedAs (error : RulesError) (file : Text) (text : String) : Prop :=
  ∃ rest, text = "error: `" ++ file.str ++ "`, " ++
    (if error.first = error.last then "line " ++ toString error.first
    else "lines " ++ toString error.first ++ " to " ++ toString error.last) ++ ": " ++ rest

theorem printedAs_events (error : RulesError) (file : Text) :
    error.PrintedAs file (Log.errors (error.events file)) := by
  obtain ⟨traces, same⟩ : ∃ traces, error.events file = .error (error.message file) :: traces :=
    ⟨_, rfl⟩
  refine ⟨error.cause.message ++ "\n" ++ Log.errors traces, ?_⟩
  rw [same, Log.errors_cons]
  simp only [message, lines, String.append_assoc]
  rfl

end RulesError

namespace Store

theorem positive_ofRules [CharacterNames] (calls : List (Text × Text)) :
    ∀ entry ∈ ofRules calls, 1 ≤ entry.line := by
  refine holds_ofRules (motive := fun store => ∀ entry ∈ store, 1 ≤ entry.line)
    (fun _ none => by cases none) (fun store file text positive => ?_) calls
  rw [world_readRules]
  exact (Reading.tidy_all store text).positive_entries positive

theorem outcome_readRules [CharacterNames] (store : Store) (file text : Text) :
    (store.readRules file text).outcome =
      match (Reading.all store text).2 with
      | none => .ok ()
      | some (.refused _) => .error .rulesRefused
      | some (.aborted abort) => .error abort := by
  rw [readRules]
  split <;> next same => rw [same]

theorem log_readRules [CharacterNames] (store : Store) (file text : Text) :
    (store.readRules file text).log =
      match (Reading.all store text).2 with
      | some (.refused error) => error.events file
      | _ => [] := by
  rw [readRules]
  split <;> next same => rw [same]

/-- Rules break off with an abort if and only if reading them ends in it. -/
theorem breaksOff_iff [CharacterNames] {store : Store} (entries : ∀ entry ∈ store, 1 ≤ entry.line)
    (file text : Text) (abort : Abort) :
    (∃ rule, Reading.BreaksOff store text rule abort) ↔
      (store.readRules file text).outcome = .error abort ∧ abort ≠ .rulesRefused := by
  rw [outcome_readRules]
  constructor
  · rintro ⟨rule, breaks⟩
    rw [breaks.all_eq]
    refine ⟨rfl, ?_⟩
    rintro rfl
    exact breaks.reasonIn.2
  · rintro ⟨ended, other⟩
    split at ended
    · cases ended
    · cases ended
      exact absurd rfl other
    · next found same =>
      cases ended
      exact Reading.stopsWith_all entries same

/-- Reading rules never ends for the sake of a name that a table does not have. -/
theorem readRules_ne_missingKey [CharacterNames] (calls : List (Text × Text))
    (file text key : Text) :
    ((ofRules calls).readRules file text).outcome ≠ .error (.missingKey key) := by
  intro ended
  have entries := positive_ofRules calls
  obtain ⟨rule, breaks⟩ := (breaksOff_iff entries file text _).mpr ⟨ended, Abort.noConfusion⟩
  exact breaks.reasonIn.2

/-- Rules with a pattern that goes on over a second line and cannot be read. -/
def openGroupRules : Text :=
  "Template: p.Cell\n\nDerivation: #a\n- name: Coop\n* (\n  ; ~~> ;\n".toList

end Store

end Stencil
