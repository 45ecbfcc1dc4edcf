/-
This file proves that reading rules writes line numbers down and never looks at them. Once the
numbers are forgotten, that is, set to zero wherever they have been written, a step of reading is
the step that is taken when every line has the number zero. So what becomes of rules, numbers apart,
depends on nothing but the kinds of their lines, one after another.
-/
import Stencil.Proofs.RulesErrors

namespace Stencil

/-! ### Without line numbers -/

/-- An entry without its line. -/
def StoreEntry.unnumbered (entry : StoreEntry) : StoreEntry := { entry with line := 0 }

namespace Store

/-- A store without the lines of its templates. -/
def unnumbered (store : Store) : Store := store.map StoreEntry.unnumbered

theorem unnumbered_addTemplate (store : Store) (template : Template) (line : Nat) :
    (store.addTemplate template line).unnumbered = store.unnumbered.addTemplate template 0 :=
  List.map_append

theorem unnumbered_addSubordinate (store : Store) (owner : Text) (subordinate : Subordinate) :
    (store.addSubordinate owner subordinate).unnumbered =
      store.unnumbered.addSubordinate owner subordinate := by
  rw [unnumbered, unnumbered, addSubordinate, addSubordinate, List.map_map, List.map_map]
  refine List.map_congr_left fun entry _ => ?_
  show StoreEntry.unnumbered (if _ then _ else _) = if entry.template.name == owner then _ else _
  split <;> rfl

theorem entry?_unnumbered (store : Store) (name : Text) :
    store.unnumbered.entry? name = (store.entry? name).map StoreEntry.unnumbered :=
  List.find?_map ..

theorem ids_unnumbered (store : Store) : store.unnumbered.ids = store.ids :=
  List.flatMap_map ..

theorem barren?_unnumbered (store : Store) :
    store.unnumbered.barren? = store.barren?.map StoreEntry.unnumbered :=
  List.find?_map ..

end Store

/-- A declaration in progress without its line. -/
def Active.unnumbered : Active → Active
  | .template declared _ => .template declared 0
  | .subordinate owner declared => .subordinate owner declared

/-- What is pending, without its line. -/
def Pending.unnumbered : Pending → Pending
  | .attribute setting value _ => .attribute setting value 0
  | .substitution text _ => .substitution text 0

theorem Active.declaration_unnumbered (active : Active) :
    active.unnumbered.declaration = active.declaration := by
  cases active <;> rfl

theorem Active.unnumbered_withDeclaration (active : Active) (declaration : Declaration) :
    (active.withDeclaration declaration).unnumbered =
      active.unnumbered.withDeclaration declaration := by
  cases active <;> cases declaration <;> rfl

theorem Active.unnumbered_change (active : Active) (change : Change) :
    (active.change change).unnumbered = active.unnumbered.change change := by
  unfold Active.change
  rw [declaration_unnumbered]
  split
  · exact active.unnumbered_withDeclaration _
  · rfl

/-- An error without its lines. -/
def RulesError.unnumbered (error : RulesError) : RulesError := ⟨0, 0, error.cause⟩

/-- Why reading stops, without lines. -/
def Stop.unnumbered : Stop → Stop
  | .refused error => .refused error.unnumbered
  | .aborted abort => .aborted abort

/-- What comes of something without the lines of a stop; `forget` takes those of a result. -/
def unnumberedOutcome {Result : Type} (forget : Result → Result) :
    Except Stop Result → Except Stop Result
  | .ok result => .ok (forget result)
  | .error stop => .error stop.unnumbered

theorem exists_ok_of_unnumberedOutcome {Result : Type} {forget : Result → Result}
    {outcome : Except Stop Result} {plain : Result}
    (same : unnumberedOutcome forget outcome = .ok plain) :
    ∃ result, outcome = .ok result ∧ forget result = plain := by
  cases outcome with
  | error stop => cases same
  | ok result => exact ⟨result, rfl, Except.ok.inj same⟩

namespace Reading

/-- Where reading stands, without line numbers. -/
def unnumbered (reading : Reading) : Reading :=
  ⟨reading.store.unnumbered, reading.template, reading.active.map Active.unnumbered,
    reading.pending.map Pending.unnumbered⟩

/-- Where reading has come to and whether it stops, without line numbers. -/
def unnumberedTaken (taken : Reading × Option Stop) : Reading × Option Stop :=
  (taken.1.unnumbered, taken.2.map Stop.unnumbered)

/-! ### Staging and committing -/

theorem unnumbered_refusal {Result : Type} (forget : Result → Result) (first next : Nat)
    (cause : Fault → RulesCause) (found : Refusal) :
    unnumberedOutcome forget (refusal first next cause found) = refusal 0 0 cause found := by
  cases found <;> rfl

theorem unnumbered_checkRule [CharacterNames] (first next : Nat) (rule : Rule) :
    unnumberedOutcome id (checkRule first next rule) = checkRule 0 0 rule := by
  unfold checkRule
  split
  · split
    · exact unnumbered_refusal ..
    · split
      · exact unnumbered_refusal ..
      · rfl
  · rfl

theorem unnumbered_ruleOf [CharacterNames] (first next : Nat) (text : Text) :
    unnumberedOutcome id (ruleOf first next text) = ruleOf 0 0 text := by
  rw [ruleOf_eq, ruleOf_eq]
  cases Rule.ofSubstitution? text with
  | none => rfl
  | some rule =>
    dsimp only
    split
    · rfl
    · rw [← unnumbered_checkRule first next rule]
      cases checkRule first next rule <;> rfl

theorem unnumbered_staged [CharacterNames] (active : Active) (pending : Pending) (next : Nat) :
    unnumberedOutcome Active.unnumbered (staged active pending next) =
      staged active.unnumbered pending.unnumbered 0 := by
  cases pending with
  | «attribute» setting value line =>
    simp only [staged, Pending.unnumbered, active.declaration_unnumbered]
    split
    · rfl
    · rfl
    · exact congrArg Except.ok (active.unnumbered_change _)
  | substitution text line =>
    cases active with
    | template declared begun => rfl
    | subordinate owner declared =>
      simp only [staged, Pending.unnumbered, Active.unnumbered]
      rw [← unnumbered_ruleOf line next text]
      cases ruleOf line next text with
      | error stop => rfl
      | ok rule => exact congrArg Except.ok (Active.unnumbered_change _ _)

theorem unnumbered_stage [CharacterNames] (reading : Reading) (next : Nat) :
    unnumberedOutcome unnumbered (reading.stage next) = reading.unnumbered.stage 0 := by
  obtain ⟨store, template, active?, pending?⟩ := reading
  cases active? with
  | none => rfl
  | some active =>
    cases pending? with
    | none => rfl
    | some pending =>
      simp only [stage, unnumbered, Option.map_some]
      rw [← unnumbered_staged active pending next]
      cases staged active pending next <;> rfl

theorem unnumbered_committed (store : Store) (active : Active) (next : Nat) :
    unnumberedOutcome Store.unnumbered (committed store active next) =
      committed store.unnumbered active.unnumbered 0 := by
  unfold committed
  rw [active.declaration_unnumbered]
  split
  · rfl
  · rfl
  · next declaration _ =>
    rw [← active.unnumbered_withDeclaration]
    cases active.withDeclaration declaration with
    | template declared line =>
      exact congrArg Except.ok (store.unnumbered_addTemplate declared line)
    | subordinate owner declared =>
      exact congrArg Except.ok (store.unnumbered_addSubordinate owner declared)

theorem unnumbered_conclude [CharacterNames] (reading : Reading) (next : Nat) :
    unnumberedOutcome unnumbered (reading.conclude next) = reading.unnumbered.conclude 0 := by
  unfold conclude
  rw [← unnumbered_stage reading next]
  cases reading.stage next with
  | error stop => rfl
  | ok middle =>
    obtain ⟨store, template, active?, pending?⟩ := middle
    cases active? with
    | none => rfl
    | some active =>
      simp only [unnumberedOutcome, unnumbered, Option.map_some]
      rw [← unnumbered_committed store active next]
      cases committed store active next <;> rfl

/-! ### Lines -/

theorem unnumbered_beginDeclaration (reading : Reading) (number : Nat) (className : Text)
    (subject : Subject) :
    unnumberedOutcome unnumbered (reading.beginDeclaration number className subject) =
      reading.unnumbered.beginDeclaration 0 className subject := by
  have known (name : Text) :
      (reading.unnumbered.store.entry? name).isSome = (reading.store.entry? name).isSome := by
    rw [unnumbered, Store.entry?_unnumbered, Option.isSome_map]
  have used : reading.unnumbered.store.ids = reading.store.ids := reading.store.ids_unnumbered
  have template : reading.unnumbered.template = reading.template := rfl
  unfold beginDeclaration
  rw [used, template]
  split
  · cases subject with
    | id id => rfl
    | name name =>
      dsimp only
      rw [known]
      split <;> rfl
  · split
    · rfl
    · rfl
    · rfl
    · split <;> rfl

theorem unnumbered_beginAttribute (reading : Reading) (number : Nat) (word value : Text) :
    unnumberedOutcome unnumbered (reading.beginAttribute number word value) =
      reading.unnumbered.beginAttribute 0 word value := by
  obtain ⟨store, template, active?, pending?⟩ := reading
  cases active? with
  | none => rfl
  | some active =>
    simp only [beginAttribute, unnumbered, Option.map_some, active.declaration_unnumbered]
    split <;> rfl

theorem unnumbered_beginSubstitution (reading : Reading) (number : Nat) (text : Text) :
    unnumberedOutcome unnumbered (reading.beginSubstitution number text) =
      reading.unnumbered.beginSubstitution 0 text := by
  obtain ⟨store, template, active?, pending?⟩ := reading
  cases active? <;> rfl

theorem unnumbered_resume (reading : Reading) (number : Nat) (text : Text) :
    unnumberedOutcome unnumbered (reading.resume number text) =
      reading.unnumbered.resume 0 text := by
  obtain ⟨store, template, active?, pending?⟩ := reading
  cases pending? with
  | none => rfl
  | some pending => cases pending <;> rfl

theorem unnumbered_orStay (reading : Reading) (next : Except Stop Reading) :
    unnumberedTaken (reading.orStay next) =
      reading.unnumbered.orStay (unnumberedOutcome unnumbered next) := by
  cases next <;> rfl

theorem unnumbered_andThen {next plain : Reading → Except Stop Reading}
    (same : ∀ reading, unnumberedOutcome unnumbered (next reading) = plain reading.unnumbered)
    (taken : Reading × Option Stop) :
    unnumberedTaken (andThen taken next) = andThen (unnumberedTaken taken) plain := by
  obtain ⟨reading, stop?⟩ := taken
  cases stop? with
  | some stop => rfl
  | none =>
    show unnumberedTaken (reading.orStay (next reading)) =
      reading.unnumbered.orStay (plain reading.unnumbered)
    rw [unnumbered_orStay, same]

/-- A line is read as if it had the number zero. -/
theorem unnumbered_step [CharacterNames] (reading : Reading) (number : Nat) (line : Line) :
    unnumberedTaken (reading.step number line) = reading.unnumbered.step 0 line := by
  have concluding : unnumberedTaken (reading.orStay (reading.conclude number)) =
      reading.unnumbered.orStay (reading.unnumbered.conclude 0) := by
    rw [unnumbered_orStay, unnumbered_conclude]
  have staging : unnumberedTaken (reading.orStay (reading.stage number)) =
      reading.unnumbered.orStay (reading.unnumbered.stage 0) := by
    rw [unnumbered_orStay, unnumbered_stage]
  cases line with
  | comment => rfl
  | blank => exact concluding
  | opening className subject =>
    rw [step, step, ← concluding]
    exact unnumbered_andThen (fun reading => unnumbered_beginDeclaration reading _ _ _) _
  | «attribute» word value =>
    rw [step, step, ← staging]
    exact unnumbered_andThen (fun reading => unnumbered_beginAttribute reading _ _ _) _
  | substitution text =>
    rw [step, step, ← staging]
    exact unnumbered_andThen (fun reading => unnumbered_beginSubstitution reading _ _) _
  | continuation text => rw [step, step, unnumbered_orStay, unnumbered_resume]
  | other => rfl

/-! ### Rules as a whole -/

/-- Reads lines up to the first stop and numbers none of them. -/
def run [CharacterNames] : Reading → List Line → Reading × Option Stop
  | reading, [] => (reading, none)
  | reading, line :: rest =>
    match step reading 0 line with
    | (reading, none) => run reading rest
    | stopped => stopped

theorem run_append [CharacterNames] (reading : Reading) (earlier later : List Line) :
    reading.run (earlier ++ later) =
      match reading.run earlier with
      | (after, none) => after.run later
      | stopped => stopped := by
  induction earlier generalizing reading with
  | nil => rfl
  | cons line earlier inductionHypothesis =>
    rw [List.cons_append, run, run]
    cases stepped : reading.step 0 line with
    | mk after stop? =>
      cases stop? with
      | none => exact inductionHypothesis after
      | some stop => rfl

/-- Lines that are read are read by their kinds. -/
theorem unnumbered_lines [CharacterNames] (reading : Reading) (number : Nat) (list : List Text) :
    unnumberedTaken (reading.lines number list).1 =
      reading.unnumbered.run (list.map Line.ofText) := by
  induction list generalizing reading number with
  | nil => rfl
  | cons line list inductionHypothesis =>
    rw [List.map_cons, run, ← unnumbered_step reading number, lines]
    cases reading.step number (Line.ofText line) with
    | mk after stop? =>
      cases stop? with
      | none => exact inductionHypothesis after (number + 1)
      | some stop => rfl

theorem unnumbered_checkBarren (reading : Reading) :
    unnumberedOutcome unnumbered reading.checkBarren = reading.unnumbered.checkBarren := by
  unfold checkBarren
  rw [unnumbered, Store.barren?_unnumbered]
  cases reading.store.barren? <;> rfl

/-- Concludes rules of which the lines have been read. -/
def finish [CharacterNames] (taken : Reading × Option Stop) : Reading × Option Stop :=
  andThen (andThen taken (conclude · 0)) checkBarren

/-- Without line numbers, rules are read as the kinds of their lines are. -/
theorem unnumbered_all [CharacterNames] (store : Store) (text : Text) :
    unnumberedTaken (all store text) =
      finish ((beginning store.unnumbered).run (text.lines.map Line.ofText)) := by
  rw [all, finish]
  have read := unnumbered_lines (beginning store) 1 text.lines
  cases same : (beginning store).lines 1 text.lines with
  | mk taken next =>
    rw [same] at read
    have concluding : unnumberedTaken (andThen taken (conclude · next)) =
        andThen (unnumberedTaken taken) (conclude · 0) :=
      unnumbered_andThen (fun reading => unnumbered_conclude reading next) taken
    refine (unnumbered_andThen unnumbered_checkBarren _).trans ?_
    rw [concluding]
    exact congrArg (fun taken => andThen (andThen taken (conclude · 0)) checkBarren) read

end Reading

end Stencil
