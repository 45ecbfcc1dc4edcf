/-
This file proves that the layout of rules does not matter. Comments may be put in anywhere, also
where an attribute or a substitution goes on behind them. Blank lines may be put in where no
declaration is in progress, and where the one in progress is about to be concluded anyway: at the
beginning and at the end, beside another blank line, and above a line that opens a declaration.

The two runs are compared without line numbers. Then a comment is no step at all, and concluding
twice, one time right behind the other, is concluding once, whether that stops reading or not. So
the two runs end in the same state, at the end of the rules or at the same error.
-/
import Mathlib.Logic.Relation
import Stencil.Proofs.LineNumbers

namespace Stencil

/-! ### Lines that are put in -/

/-- The first list of lines with one more line, where it does not matter. -/
inductive Padded : List Text → List Text → Prop
  | comment (before after : List Text) (rest : Text) :
      Padded (before ++ after) (before ++ ('#' :: rest) :: after)
  | first (after : List Text) {blank : Text} (isBlank : blank.isAllBlank = true) :
      Padded after (blank :: after)
  | last (before : List Text) {blank : Text} (isBlank : blank.isAllBlank = true) :
      Padded before (before ++ [blank])
  | aboveBlank (before after : List Text) {neighbour blank : Text}
      (alsoBlank : neighbour.isAllBlank = true) (isBlank : blank.isAllBlank = true) :
      Padded (before ++ neighbour :: after) (before ++ blank :: neighbour :: after)
  | belowBlank (before after : List Text) {neighbour blank : Text}
      (alsoBlank : neighbour.isAllBlank = true) (isBlank : blank.isAllBlank = true) :
      Padded (before ++ neighbour :: after) (before ++ neighbour :: blank :: after)
  | aboveOpening (before after : List Text) {opening blank : Text}
      (opens : (Line.opening? opening).isSome = true) (isBlank : blank.isAllBlank = true) :
      Padded (before ++ opening :: after) (before ++ blank :: opening :: after)

/-- The first list of lines with more lines, as many as one likes. -/
abbrev Relaid : List Text → List Text → Prop := Relation.ReflTransGen Padded

/-! ### The kinds of these lines -/

theorem isIdentifierChar_of_isAsciiLetter {c : Char} (letter : isAsciiLetter c = true) :
    isIdentifierChar c = true := by
  have ascii : c.toNat < 0x80 := by
    simp only [isAsciiLetter, Char.isAlpha, Char.isUpper, Char.isLower, Bool.or_eq_true,
      Bool.and_eq_true, decide_eq_true_eq, UInt32.le_iff_toNat_le] at letter
    rcases letter with ⟨-, high⟩ | ⟨-, high⟩
    · exact Nat.lt_of_le_of_lt high (by decide)
    · exact Nat.lt_of_le_of_lt high (by decide)
  have alphanumeric : c.isAlphanum = true := by
    rw [Char.isAlphanum, show c.isAlpha = true from letter, Bool.true_or]
  rw [isIdentifierChar, isWordChar, isAlphanumeric, if_pos ascii, alphanumeric, Bool.or_true,
    Bool.or_true]

namespace Line

theorem isComment_cons_of_ne {c : Char} (other : c ≠ '#') (rest : Text) :
    isComment (c :: rest) = false := by
  unfold isComment
  split
  · next same => exact absurd (List.cons.inj same).1 other
  · rfl

theorem ofText_blank {line : Text} (blank : line.isAllBlank = true) : ofText line = .blank := by
  have noComment : isComment line = false := by
    cases line with
    | nil => rfl
    | cons c rest =>
      have first : isBlank c = true := List.all_eq_true.mp blank c List.mem_cons_self
      refine isComment_cons_of_ne ?_ rest
      rintro rfl
      exact absurd first (by decide)
  rw [ofText, noComment, if_neg Bool.false_ne_true, if_pos blank]

/-- A line that opens a declaration begins with a letter. -/
theorem exists_letter_of_opening {line : Text} {opened : Text × Subject}
    (opens : opening? line = some opened) :
    ∃ c rest, line = c :: rest ∧ isAsciiLetter c = true := by
  cases line with
  | nil => cases opens
  | cons c rest =>
    refine ⟨c, rest, rfl, ?_⟩
    cases letter : isAsciiLetter c with
    | true => rfl
    | false =>
      rw [opening?, List.takeWhile_cons_of_neg (by rw [letter]; exact Bool.false_ne_true)] at opens
      cases opens

theorem ofText_opening {line : Text} {opened : Text × Subject}
    (opens : opening? line = some opened) : ofText line = .opening opened.1 opened.2 := by
  obtain ⟨c, rest, rfl, letter⟩ := exists_letter_of_opening opens
  have inked : Text.isAllBlank (c :: rest) = false := by
    have noBlank : isBlank c ≠ true := fun blank =>
      Bool.false_ne_true
        ((isIdentifierChar_of_isBlank blank).symm.trans (isIdentifierChar_of_isAsciiLetter letter))
    rw [Text.isAllBlank, List.all_cons, Bool.eq_false_iff.mpr noBlank, Bool.false_and]
  have noComment : isComment (c :: rest) = false := by
    refine isComment_cons_of_ne ?_ rest
    rintro rfl
    exact absurd letter (by decide)
  rw [ofText, noComment, inked, if_neg Bool.false_ne_true, if_neg Bool.false_ne_true, opens]

end Line

/-! ### Runs without numbers -/

namespace Reading

variable {reading result : Reading}

theorem conclude_of_inactive [CharacterNames] (inactive : reading.active = none) (next : Nat) :
    reading.conclude next = .ok reading := by
  obtain ⟨store, template, active?, pending?⟩ := reading
  cases inactive
  rfl

theorem conclude_concluded [CharacterNames] {next : Nat}
    (concluded : reading.conclude next = .ok result) (again : Nat) :
    result.conclude again = .ok result := by
  refine conclude_of_inactive ?_ again
  obtain ⟨middle, -, ⟨inactive, rfl⟩ | ⟨active, after, -, -, rfl⟩⟩ := conclude_eq_ok concluded
  · exact inactive
  · rfl

/-- Concluding twice is concluding once. -/
theorem andThen_conclude_twice [CharacterNames] (taken : Reading × Option Stop) :
    andThen (andThen taken (conclude · 0)) (conclude · 0) = andThen taken (conclude · 0) := by
  obtain ⟨reading, stop?⟩ := taken
  cases stop? with
  | some stop => rfl
  | none =>
    simp only [andThen]
    cases concluded : reading.conclude 0 with
    | error stop => rfl
    | ok after => simp only [orStay, conclude_concluded concluded]

theorem run_singleton [CharacterNames] (reading : Reading) (line : Line) :
    reading.run [line] = reading.step 0 line := by
  rw [run]
  cases reading.step 0 line with
  | mk after stop? => cases stop? <;> rfl

/-- A step that a line right before does not change need not have that line. -/
theorem run_cons_cons [CharacterNames] {first second : Line}
    (same : reading.run [first, second] = reading.step 0 second) (rest : List Line) :
    reading.run (first :: second :: rest) = reading.run (second :: rest) := by
  have parts := run_append reading [first, second] rest
  have alone := run_append reading [second] rest
  rw [same] at parts
  rw [run_singleton] at alone
  exact parts.trans alone.symm

theorem run_blank_before [CharacterNames] (reading : Reading) (second : Line) :
    reading.run [.blank, second] =
      match reading.orStay (reading.conclude 0) with
      | (after, none) => after.step 0 second
      | stopped => stopped := by
  rw [run, step]
  cases reading.orStay (reading.conclude 0) with
  | mk after stop? =>
    cases stop? with
    | none => exact run_singleton after second
    | some stop => rfl

theorem run_blank_blank [CharacterNames] (reading : Reading) (rest : List Line) :
    reading.run (.blank :: .blank :: rest) = reading.run (.blank :: rest) := by
  refine run_cons_cons ?_ rest
  rw [run_blank_before, step]
  cases concluded : reading.conclude 0 with
  | error stop => rfl
  | ok after => simp only [orStay, step, conclude_concluded concluded]

theorem run_blank_opening [CharacterNames] (reading : Reading) (className : Text)
    (subject : Subject) (rest : List Line) :
    reading.run (.blank :: .opening className subject :: rest) =
      reading.run (.opening className subject :: rest) := by
  refine run_cons_cons ?_ rest
  rw [run_blank_before, step]
  cases concluded : reading.conclude 0 with
  | error stop => rfl
  | ok after => simp only [orStay, step, conclude_concluded concluded]

theorem run_blank_first [CharacterNames] (inactive : reading.active = none) (rest : List Line) :
    reading.run (.blank :: rest) = reading.run rest := by
  simp only [run, step, conclude_of_inactive inactive, orStay]

theorem finish_run_blank [CharacterNames] (reading : Reading) (list : List Line) :
    finish (reading.run (list ++ [.blank])) = finish (reading.run list) := by
  have parts : reading.run (list ++ [.blank]) = andThen (reading.run list) (conclude · 0) := by
    rw [run_append]
    cases reading.run list with
    | mk after stop? =>
      cases stop? with
      | none => exact run_singleton after .blank
      | some stop => rfl
  rw [parts, finish, finish, andThen_conclude_twice]

/-- What follows some lines may be replaced by what is read alike. -/
theorem run_append_congr [CharacterNames] {later other : List Line}
    (same : ∀ reading : Reading, reading.run later = reading.run other) (reading : Reading)
    (earlier : List Line) : reading.run (earlier ++ later) = reading.run (earlier ++ other) := by
  rw [run_append, run_append]
  cases reading.run earlier with
  | mk after stop? =>
    cases stop? with
    | none => exact same after
    | some stop => rfl

/-- One more line, where it does not matter, leaves what becomes of rules. -/
theorem finish_padded [CharacterNames] {plain padded : List Text} (isPadded : Padded plain padded)
    (store : Store) :
    finish ((beginning store).run (padded.map Line.ofText)) =
      finish ((beginning store).run (plain.map Line.ofText)) := by
  cases isPadded with
  | comment before after rest =>
    rw [List.map_append, List.map_append, List.map_cons]
    have skipped (reading : Reading) (lines : List Line) :
        reading.run (Line.ofText ('#' :: rest) :: lines) = reading.run lines := rfl
    exact congrArg finish (run_append_congr (fun reading => skipped reading _) _ _)
  | first after isBlank =>
    rw [List.map_cons, Line.ofText_blank isBlank, run_blank_first rfl]
  | last before isBlank =>
    rw [List.map_append, List.map_singleton, Line.ofText_blank isBlank, finish_run_blank]
  | aboveBlank before after alsoBlank isBlank | belowBlank before after alsoBlank isBlank =>
    simp only [List.map_append, List.map_cons, Line.ofText_blank isBlank,
      Line.ofText_blank alsoBlank]
    exact congrArg finish (run_append_congr (fun reading => run_blank_blank reading _) _ _)
  | aboveOpening before after opens isBlank =>
    obtain ⟨opened, opens⟩ := Option.isSome_iff_exists.mp opens
    simp only [List.map_append, List.map_cons, Line.ofText_blank isBlank, Line.ofText_opening opens]
    exact congrArg finish (run_append_congr (fun reading => run_blank_opening reading _ _ _) _ _)

/-- So do any number of such lines. -/
theorem finish_relaid [CharacterNames] {plain relaid : List Text} (isRelaid : Relaid plain relaid)
    (store : Store) :
    finish ((beginning store).run (relaid.map Line.ofText)) =
      finish ((beginning store).run (plain.map Line.ofText)) := by
  induction isRelaid with
  | refl => rfl
  | tail _ isPadded inductionHypothesis =>
    exact (finish_padded isPadded store).trans inductionHypothesis

theorem unnumbered_all_relaid [CharacterNames] {text relaid : Text}
    (isRelaid : Relaid text.lines relaid.lines) (store : Store) :
    unnumberedTaken (all store relaid) = unnumberedTaken (all store text) := by
  rw [unnumbered_all, unnumbered_all, finish_relaid isRelaid]

end Reading

/-! ### What is printed -/

/-- Two runs that stop alike, numbers of lines apart, come to the end, stop at errors with the same
cause, or stop with the same abort. -/
theorem Stop.alike {stop? other? : Option Stop}
    (same : stop?.map Stop.unnumbered = other?.map Stop.unnumbered) :
    (stop? = none ∧ other? = none) ∨
      (∃ error other, stop? = some (.refused error) ∧ other? = some (.refused other) ∧
        error.cause = other.cause) ∨
      ∃ abort, stop? = some (.aborted abort) ∧ other? = some (.aborted abort) := by
  cases stop? with
  | none =>
    cases other? with
    | none => exact Or.inl ⟨rfl, rfl⟩
    | some other => cases same
  | some stop =>
    cases other? with
    | none => cases same
    | some other =>
      cases stop with
      | refused error =>
        cases other with
        | refused other =>
          have causes := congrArg RulesError.cause (Stop.refused.inj (Option.some.inj same))
          exact Or.inr (Or.inl ⟨error, other, rfl, rfl, causes⟩)
        | aborted abort => cases same
      | aborted abort =>
        cases other with
        | refused other => cases same
        | aborted other =>
          cases same
          exact Or.inr (Or.inr ⟨abort, rfl, rfl⟩)

/-- What is printed of a cause, behind the lines that it concerns. -/
def RulesCause.printed (cause : RulesCause) : String :=
  cause.message ++ "\n" ++
    Log.errors (match cause.trace? with
      | some trace => [.trace "re.error" trace]
      | none => [])

theorem RulesError.errors_events (error : RulesError) (file : Text) :
    Log.errors (error.events file) =
      "error: `" ++ file.str ++ "`, " ++ error.lines ++ ": " ++ error.cause.printed := by
  rw [events, Log.errors_cons, message, RulesCause.printed]
  simp only [String.append_assoc]
  rfl

namespace Store

/-- The layout of rules does not matter. Rules with more comments, and with more blank lines at the
beginning, at the end, beside blank lines and above lines that open declarations, are read to their
end if and only if they were before, or else end in the same way. They declare the same, numbers of
lines apart, whether they are read to their end or not, and what is printed of an error differs in
nothing but the lines that it concerns. -/
theorem readRules_relaid [CharacterNames] (store : Store) (file : Text) {text relaid : Text}
    (isRelaid : Relaid text.lines relaid.lines) :
    (store.readRules file relaid).outcome = (store.readRules file text).outcome ∧
    (store.readRules file relaid).world.unnumbered =
      (store.readRules file text).world.unnumbered ∧
    ((store.readRules file relaid).log = [] ∧ (store.readRules file text).log = [] ∨
      ∃ error other : RulesError, error.cause = other.cause ∧
        (store.readRules file relaid).log = error.events file ∧
        (store.readRules file text).log = other.events file ∧
        (store.readRules file relaid).log.errors =
          "error: `" ++ file.str ++ "`, " ++ error.lines ++ ": " ++ other.cause.printed ∧
        (store.readRules file text).log.errors =
          "error: `" ++ file.str ++ "`, " ++ other.lines ++ ": " ++ other.cause.printed) := by
  obtain ⟨sameReading, sameStop⟩ := Prod.mk.inj (Reading.unnumbered_all_relaid isRelaid store)
  rw [world_readRules, world_readRules, outcome_readRules, outcome_readRules, log_readRules,
    log_readRules]
  refine ⟨?_, congrArg Reading.store sameReading, ?_⟩
  · rcases Stop.alike sameStop with ⟨ends, alsoEnds⟩ | ⟨error, other, stops, alsoStops, -⟩ |
      ⟨abort, stops, alsoStops⟩
    · rw [ends, alsoEnds]
    · rw [stops, alsoStops]
    · rw [stops, alsoStops]
  · rcases Stop.alike sameStop with ⟨ends, alsoEnds⟩ | ⟨error, other, stops, alsoStops, same⟩ |
      ⟨abort, stops, alsoStops⟩
    · rw [ends, alsoEnds]
      exact Or.inl ⟨rfl, rfl⟩
    · rw [stops, alsoStops]
      refine Or.inr ⟨error, other, same, rfl, rfl, ?_, other.errors_events file⟩
      rw [← same]
      exact error.errors_events file
    · rw [stops, alsoStops]
      exact Or.inl ⟨rfl, rfl⟩

/-- Rules of which the last substitution goes on behind a comment. -/
def relaidGroupRules : Text :=
  " \nTemplate: p.Cell\n\n\t\nDerivation: #a\n- name: Coop\n* (\n#\n  ; ~~> ;\n".toList

theorem relaid_openGroupRules : Relaid openGroupRules.lines relaidGroupRules.lines := by
  have plain : openGroupRules.lines = ["Template: p.Cell".toList, [], "Derivation: #a".toList,
      "- name: Coop".toList, "* (".toList, "  ; ~~> ;".toList] := by decide +kernel
  have relaid : relaidGroupRules.lines = [[' '], "Template: p.Cell".toList, [], ['\t'],
      "Derivation: #a".toList, "- name: Coop".toList, "* (".toList, ['#'],
      "  ; ~~> ;".toList] := by decide +kernel
  rw [plain, relaid]
  have opening : Padded [[' '], "Template: p.Cell".toList, [], "Derivation: #a".toList,
      "- name: Coop".toList, "* (".toList, "  ; ~~> ;".toList] _ :=
    .aboveOpening [[' '], "Template: p.Cell".toList, []] _ (by decide +kernel)
      (show Text.isAllBlank ['\t'] = true by decide)
  refine .tail (.tail (.single (.first _ (by decide))) opening) ?_
  exact .comment [[' '], "Template: p.Cell".toList, [], ['\t'], "Derivation: #a".toList,
    "- name: Coop".toList, "* (".toList] ["  ; ~~> ;".toList] []

section

attribute [local instance] CharacterNames.signs

/-- The same error, two lines further on and over one line more. -/
theorem readRules_relaid_open_group :
    Relaid openGroupRules.lines relaidGroupRules.lines ∧
    (readRules [] "cells.txt".toList relaidGroupRules).outcome =
      (readRules [] "cells.txt".toList openGroupRules).outcome ∧
    (readRules [] "cells.txt".toList relaidGroupRules).world.unnumbered =
      (readRules [] "cells.txt".toList openGroupRules).world.unnumbered ∧
    (Reading.all [] relaidGroupRules).2 =
      some (.refused ⟨7, 9, .badPattern "(\n  ;".toList ⟨.unterminatedGroup, some 0⟩⟩) ∧
    (Reading.all [] openGroupRules).2 =
      some (.refused ⟨5, 6, .badPattern "(\n  ;".toList ⟨.unterminatedGroup, some 0⟩⟩) := by
  obtain ⟨outcomes, worlds, -⟩ := readRules_relaid [] "cells.txt".toList relaid_openGroupRules
  exact ⟨relaid_openGroupRules, outcomes, worlds, by decide +kernel, by decide +kernel⟩

end

end Store

end Stencil
