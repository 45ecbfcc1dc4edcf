/-
This file proves the small laws of the operations on texts that every later file leans on: what a
lead cut off a text says about it, where a search stops, how a text is taken to pieces, and how
literal replacement treats a character that the replaced text does not have. Such a character cuts
the text in two: nothing is found across it, so both sides are replaced on their own. To unify line
ends is to replace twice.
-/
import Stencil.Text.Basic
import Stencil.Text.Lines

namespace Stencil

namespace Text

/-! ### Leads -/

theorem after?_eq_some_iff (lead text rest : Text) :
    after? lead text = some rest ↔ text = lead ++ rest := by
  induction lead generalizing text with
  | nil => simp [after?]
  | cons a lead inductionHypothesis =>
    cases text with
    | nil => simp [after?]
    | cons b text =>
      by_cases same : a = b
      · simp [after?, same, inductionHypothesis]
      · simp [after?, same, Ne.symm same]

theorem after?_append (lead rest : Text) : after? lead (lead ++ rest) = some rest :=
  (after?_eq_some_iff lead (lead ++ rest) rest).mpr rfl

theorem hasLead_iff (lead text : Text) :
    hasLead lead text = true ↔ ∃ rest, text = lead ++ rest := by
  simp only [hasLead, Option.isSome_iff_exists, after?_eq_some_iff]

theorem occursIn_iff (part text : Text) : occursIn part text = true ↔ part <:+: text := by
  induction text with
  | nil => rw [occursIn, List.isEmpty_iff, List.infix_nil]
  | cons c text inductionHypothesis =>
    rw [occursIn, Bool.or_eq_true, hasLead_iff, inductionHypothesis, List.infix_cons_iff]
    refine or_congr_left ⟨?_, ?_⟩
    · rintro ⟨rest, split⟩
      exact ⟨rest, split.symm⟩
    · rintro ⟨rest, split⟩
      exact ⟨rest, split.symm⟩

/-- A lead is not found beyond a character that it does not have. -/
theorem hasLead_append_cut (lead text rest : Text) (c : Char) (absent : c ∉ lead) :
    hasLead lead (text ++ c :: rest) = hasLead lead text := by
  induction lead generalizing text with
  | nil => simp [hasLead, after?]
  | cons a lead inductionHypothesis =>
    have other : a ≠ c := fun same => absent (same ▸ List.mem_cons_self)
    cases text with
    | nil => simp [hasLead, after?, other]
    | cons b text =>
      by_cases same : a = b
      · have tail := inductionHypothesis text fun member => absent (List.mem_cons_of_mem _ member)
        simpa [hasLead, after?, same] using tail
      · simp [hasLead, after?, same]

/-! ### Searching -/

/-- A search stops at the first place of the text at which the test does not fail: what was passed
over comes behind, nearest first. -/
theorem exists_first_of_firstPlace {Found : Type} {test : Text → Text → Option Found}
    {behind ahead : Text} {found : Found} (stops : firstPlace test behind ahead = some found) :
    ∃ passed rest, ahead = passed ++ rest ∧ test (passed.reverse ++ behind) rest = some found ∧
      ∀ before after, ahead = before ++ after → before.length < passed.length →
        test (before.reverse ++ behind) after = none := by
  induction ahead generalizing behind with
  | nil => exact ⟨[], [], rfl, stops, fun _ _ _ shorter => absurd shorter (Nat.not_lt_zero _)⟩
  | cons c ahead inductionHypothesis =>
    rw [firstPlace] at stops
    cases here : test behind (c :: ahead) with
    | some other =>
      rw [here] at stops
      exact ⟨[], c :: ahead, rfl, here.trans stops,
        fun _ _ _ shorter => absurd shorter (Nat.not_lt_zero _)⟩
    | none =>
      rw [here] at stops
      obtain ⟨passed, rest, split, holds, fails⟩ := inductionHypothesis stops
      refine ⟨c :: passed, rest, by rw [split]; rfl, by simpa using holds, ?_⟩
      intro before after same shorter
      cases before with
      | nil =>
        cases same
        exact here
      | cons d before =>
        cases same
        rw [List.reverse_cons, List.append_assoc]
        exact fails before after rfl (Nat.lt_of_succ_lt_succ shorter)

theorem firstPlace_eq_some {Found : Type} {test : Text → Text → Option Found}
    {behind ahead : Text} {found : Found} (stops : firstPlace test behind ahead = some found) :
    ∃ passed rest, ahead = passed ++ rest ∧ test (passed.reverse ++ behind) rest = some found := by
  obtain ⟨passed, rest, split, holds, -⟩ := exists_first_of_firstPlace stops
  exact ⟨passed, rest, split, holds⟩

/-- A search finds nothing where the test fails at every place. -/
theorem firstPlace_eq_none_iff {Found : Type} {test : Text → Text → Option Found}
    {behind ahead : Text} :
    firstPlace test behind ahead = none ↔
      ∀ before after, ahead = before ++ after → test (before.reverse ++ behind) after = none := by
  induction ahead generalizing behind with
  | nil =>
    rw [firstPlace]
    constructor
    · rintro fails before after split
      obtain ⟨rfl, rfl⟩ := List.append_eq_nil_iff.mp split.symm
      exact fails
    · exact fun fails => fails [] [] rfl
  | cons c ahead inductionHypothesis =>
    rw [firstPlace]
    constructor
    · intro none before after split
      cases here : test behind (c :: ahead) with
      | some found =>
        rw [here] at none
        cases none
      | none =>
        rw [here] at none
        cases before with
        | nil =>
          cases split
          exact here
        | cons d before =>
          cases split
          rw [List.reverse_cons, List.append_assoc]
          exact inductionHypothesis.mp none before after rfl
    · intro fails
      rw [show test behind (c :: ahead) = none from fails [] _ rfl]
      refine inductionHypothesis.mpr fun before after split => ?_
      have later := fails (c :: before) after (by rw [split]; rfl)
      rwa [List.reverse_cons, List.append_assoc] at later

/-- What remains after a run is the text without characters of the class. -/
theorem exists_run_of_mem_afterRuns {inClass : Char → Bool} {text rest : Text}
    (member : rest ∈ afterRuns inClass text) :
    ∃ run, text = run ++ rest ∧ ∀ c ∈ run, inClass c = true := by
  induction text with
  | nil =>
    obtain rfl : rest = [] := by simpa [afterRuns] using member
    exact ⟨[], rfl, by simp⟩
  | cons c text inductionHypothesis =>
    rw [afterRuns] at member
    split at member
    · next inside =>
      rcases List.mem_append.mp member with later | here
      · obtain ⟨run, rfl, all⟩ := inductionHypothesis later
        exact ⟨c :: run, rfl, by simpa [inside] using all⟩
      · obtain rfl := List.mem_singleton.mp here
        exact ⟨[], rfl, by simp⟩
    · obtain rfl := List.mem_singleton.mp member
      exact ⟨[], rfl, by simp⟩

/-- Every run of characters of the class at the front of a text is tried. -/
theorem mem_afterRuns {inClass : Char → Bool} {run : Text} (rest : Text)
    (all : ∀ c ∈ run, inClass c = true) : rest ∈ afterRuns inClass (run ++ rest) := by
  induction run with
  | nil =>
    cases rest with
    | nil => exact List.mem_cons_self
    | cons c rest =>
      rw [List.nil_append, afterRuns]
      split
      · exact List.mem_append_right _ List.mem_cons_self
      · exact List.mem_cons_self
  | cons c run inductionHypothesis =>
    obtain ⟨here, later⟩ := List.forall_mem_cons.mp all
    rw [List.cons_append, afterRuns, if_pos here]
    exact List.mem_append_left _ (inductionHypothesis later)

theorem exists_run_of_mem_afterSomeRuns {inClass : Char → Bool} {text rest : Text}
    (member : rest ∈ afterSomeRuns inClass text) :
    ∃ run, run ≠ [] ∧ text = run ++ rest ∧ ∀ c ∈ run, inClass c = true := by
  cases text with
  | nil => simp [afterSomeRuns] at member
  | cons c text =>
    rw [afterSomeRuns] at member
    split at member
    · next inside =>
      obtain ⟨run, rfl, all⟩ := exists_run_of_mem_afterRuns member
      exact ⟨c :: run, by simp, rfl, by simpa [inside] using all⟩
    · simp at member

theorem suffix_of_mem_afterRuns {inClass : Char → Bool} {text rest : Text}
    (member : rest ∈ afterRuns inClass text) : rest <:+ text := by
  obtain ⟨run, rfl, -⟩ := exists_run_of_mem_afterRuns member
  exact List.suffix_append run rest

theorem suffix_of_mem_afterSomeRuns {inClass : Char → Bool} {text rest : Text}
    (member : rest ∈ afterSomeRuns inClass text) : rest <:+ text := by
  obtain ⟨run, -, rfl, -⟩ := exists_run_of_mem_afterSomeRuns member
  exact List.suffix_append run rest

/-- Of what may remain after a run, the shorter comes first. -/
theorem pairwise_afterRuns (inClass : Char → Bool) (text : Text) :
    (afterRuns inClass text).Pairwise fun shorter longer =>
      ∃ run, run ≠ [] ∧ longer = run ++ shorter ∧ ∀ c ∈ run, inClass c = true := by
  induction text with
  | nil => exact List.pairwise_singleton _ _
  | cons c text inductionHypothesis =>
    rw [afterRuns]
    split
    · next inside =>
      refine List.pairwise_append.mpr
        ⟨inductionHypothesis, List.pairwise_singleton _ _, fun shorter member longer last => ?_⟩
      rw [List.mem_singleton.mp last]
      obtain ⟨run, split, all⟩ := exists_run_of_mem_afterRuns member
      exact ⟨c :: run, by simp, by rw [split]; rfl, by simpa [inside] using all⟩
    · exact List.pairwise_singleton _ _

theorem pairwise_afterSomeRuns (inClass : Char → Bool) (text : Text) :
    (afterSomeRuns inClass text).Pairwise fun shorter longer =>
      ∃ run, run ≠ [] ∧ longer = run ++ shorter ∧ ∀ c ∈ run, inClass c = true := by
  cases text with
  | nil => exact List.Pairwise.nil
  | cons c text =>
    rw [afterSomeRuns]
    split
    · exact pairwise_afterRuns inClass text
    · exact List.Pairwise.nil

/-- The longest run comes first. -/
theorem head?_afterRuns {inClass : Char → Bool} {run rest : Text}
    (all : ∀ c ∈ run, inClass c = true) (stops : ∀ c, rest.head? = some c → inClass c = false) :
    (afterRuns inClass (run ++ rest)).head? = some rest := by
  induction run with
  | nil =>
    cases rest with
    | nil => rfl
    | cons c rest =>
      rw [List.nil_append, afterRuns, stops c rfl]
      rfl
  | cons c run inductionHypothesis =>
    obtain ⟨here, later⟩ := List.forall_mem_cons.mp all
    rw [List.cons_append, afterRuns, if_pos here, List.head?_append, inductionHypothesis later]
    rfl

theorem head?_afterSomeRuns {inClass : Char → Bool} {run rest : Text} (nonempty : run ≠ [])
    (all : ∀ c ∈ run, inClass c = true) (stops : ∀ c, rest.head? = some c → inClass c = false) :
    (afterSomeRuns inClass (run ++ rest)).head? = some rest := by
  cases run with
  | nil => exact absurd rfl nonempty
  | cons c run =>
    obtain ⟨here, later⟩ := List.forall_mem_cons.mp all
    rw [List.cons_append, afterSomeRuns, if_pos here, head?_afterRuns later stops]

/-- A run that is stopped within a text is stopped there with more text behind it. -/
theorem afterRuns_append {inClass : Char → Bool} {text : Text} (more : Text)
    (stops : ∃ c ∈ text, inClass c = false) :
    afterRuns inClass (text ++ more) = (afterRuns inClass text).map (· ++ more) := by
  induction text with
  | nil => simp at stops
  | cons c text inductionHypothesis =>
    rw [List.cons_append, afterRuns, afterRuns]
    split
    · next inside =>
      have later : ∃ d ∈ text, inClass d = false := by
        obtain ⟨d, member, outside⟩ := stops
        rcases List.mem_cons.mp member with rfl | later
        · exact absurd inside (by simp [outside])
        · exact ⟨d, later, outside⟩
      rw [inductionHypothesis later, List.map_append]
      rfl
    · rfl

theorem afterSomeRuns_append {inClass : Char → Bool} {text : Text} (more : Text)
    (stops : ∃ c ∈ text, inClass c = false) :
    afterSomeRuns inClass (text ++ more) = (afterSomeRuns inClass text).map (· ++ more) := by
  cases text with
  | nil => simp at stops
  | cons c text =>
    rw [List.cons_append, afterSomeRuns, afterSomeRuns]
    split
    · next inside =>
      refine afterRuns_append more ?_
      obtain ⟨d, member, outside⟩ := stops
      rcases List.mem_cons.mp member with rfl | later
      · exact absurd inside (by simp [outside])
      · exact ⟨d, later, outside⟩
    · rfl

theorem stops_cons {inClass : Char → Bool} {c : Char} {rest : Text} (outside : inClass c = false)
    (d : Char) (first : (c :: rest).head? = some d) : inClass d = false := by
  cases first
  exact outside

/-- Where a test succeeds behind the longest run, no shorter one is tried. -/
theorem findSome?_afterRuns {Found : Type} {inClass : Char → Bool} {run rest : Text}
    {test : Text → Option Found} {found : Found} (all : ∀ c ∈ run, inClass c = true)
    (stops : ∀ c, rest.head? = some c → inClass c = false) (succeeds : test rest = some found) :
    (afterRuns inClass (run ++ rest)).findSome? test = some found := by
  obtain ⟨shorter, runs⟩ := List.head?_eq_some_iff.mp (head?_afterRuns all stops)
  rw [runs, List.findSome?_cons, succeeds]

theorem dropWhile_append_of_stops {inClass : Char → Bool} {run rest : Text}
    (all : ∀ c ∈ run, inClass c = true) (stops : ∀ c, rest.head? = some c → inClass c = false) :
    (run ++ rest).dropWhile inClass = rest := by
  rw [List.dropWhile_append_of_pos all]
  cases rest with
  | nil => rfl
  | cons c rest => exact List.dropWhile_cons_of_neg (Bool.eq_false_iff.mp (stops c rfl))

theorem takeWhile_append_of_stops {inClass : Char → Bool} {run rest : Text}
    (all : ∀ c ∈ run, inClass c = true) (stops : ∀ c, rest.head? = some c → inClass c = false) :
    (run ++ rest).takeWhile inClass = run := by
  rw [List.takeWhile_append_of_pos all]
  cases rest with
  | nil => exact List.append_nil run
  | cons c rest =>
    rw [List.takeWhile_cons_of_neg (Bool.eq_false_iff.mp (stops c rfl)), List.append_nil]

/-- A run goes no further than a character outside of its class. -/
theorem dropWhile_append_cut {inClass : Char → Bool} {c : Char} (outside : inClass c = false)
    (text rest : Text) :
    (text ++ c :: rest).dropWhile inClass = text.dropWhile inClass ++ c :: rest := by
  rw [List.dropWhile_append]
  split
  · next empty =>
    rw [List.isEmpty_iff.mp empty, List.dropWhile_cons_of_neg (Bool.eq_false_iff.mp outside)]
    rfl
  · rfl

theorem takeWhile_append_cut {inClass : Char → Bool} {c : Char} (outside : inClass c = false)
    (text rest : Text) : (text ++ c :: rest).takeWhile inClass = text.takeWhile inClass := by
  induction text with
  | nil => exact List.takeWhile_cons_of_neg (Bool.eq_false_iff.mp outside)
  | cons d text inductionHypothesis =>
    rw [List.cons_append, List.takeWhile_cons, List.takeWhile_cons, inductionHypothesis]

theorem findSome?_afterSomeRuns {Found : Type} {inClass : Char → Bool} {run rest : Text}
    {test : Text → Option Found} {found : Found} (nonempty : run ≠ [])
    (all : ∀ c ∈ run, inClass c = true) (stops : ∀ c, rest.head? = some c → inClass c = false)
    (succeeds : test rest = some found) :
    (afterSomeRuns inClass (run ++ rest)).findSome? test = some found := by
  obtain ⟨shorter, runs⟩ := List.head?_eq_some_iff.mp (head?_afterSomeRuns nonempty all stops)
  rw [runs, List.findSome?_cons, succeeds]

/-! ### Blanks -/

theorem dropBlanks_append_of_ne_nil {text : Text} (more : Text) (ink : text.dropBlanks ≠ []) :
    dropBlanks (text ++ more) = text.dropBlanks ++ more := by
  rw [dropBlanks, List.dropWhile_append]
  exact if_neg fun empty => ink (List.isEmpty_iff.mp empty)

theorem dropBlanks_append_of_blank {blanks : Text} (text : Text)
    (blank : ∀ c ∈ blanks, isBlank c = true) : dropBlanks (blanks ++ text) = dropBlanks text :=
  List.dropWhile_append_of_pos blank

/-! ### Pieces -/

/-- A character of a text with two parts stands in the second or in the first of them. -/
theorem append_eq_append_cons {first second front after : Text} {c : Char}
    (split : first ++ second = front ++ c :: after) :
    (∃ between, front = first ++ between ∧ second = between ++ c :: after) ∨
      ∃ between, first = front ++ c :: between ∧ after = between ++ second := by
  rcases List.append_eq_append_iff.mp split with behind | ⟨part, rfl, within⟩
  · exact Or.inl behind
  · rcases List.cons_eq_append_iff.mp within with ⟨rfl, rfl⟩ | ⟨between, rfl, rfl⟩
    · exact Or.inl ⟨[], by simp⟩
    · exact Or.inr ⟨between, rfl, rfl⟩

theorem splitAtAll_ne_nil (isCut : Char → Bool) (text : Text) : splitAtAll isCut text ≠ [] := by
  cases text with
  | nil => exact List.cons_ne_nil _ _
  | cons c rest =>
    rw [splitAtAll]
    split
    · exact List.cons_ne_nil _ _
    · split <;> exact List.cons_ne_nil _ _

/-- Pieces end at a cut, whatever follows it. -/
theorem splitAtAll_append_cut {isCut : Char → Bool} {cut : Char} (cuts : isCut cut = true)
    (first rest : Text) :
    splitAtAll isCut (first ++ cut :: rest) = splitAtAll isCut first ++ splitAtAll isCut rest := by
  induction first with
  | nil =>
    show splitAtAll isCut (cut :: rest) = [] :: splitAtAll isCut rest
    rw [splitAtAll, if_pos cuts]
  | cons c first inductionHypothesis =>
    rw [List.cons_append, splitAtAll, splitAtAll, inductionHypothesis]
    split
    · rfl
    · obtain ⟨piece, pieces, same⟩ := List.exists_cons_of_ne_nil (splitAtAll_ne_nil isCut first)
      rw [same]
      rfl

theorem splitAtAll_of_free {isCut : Char → Bool} {text : Text}
    (free : ∀ c ∈ text, isCut c = false) : splitAtAll isCut text = [text] := by
  induction text with
  | nil => rfl
  | cons c rest inductionHypothesis =>
    rw [splitAtAll, free c List.mem_cons_self,
      inductionHypothesis fun other later => free other (List.mem_cons_of_mem _ later)]
    rfl

theorem joinWith_cons {separator piece : Text} {pieces : List Text} (more : pieces ≠ []) :
    joinWith separator (piece :: pieces) = piece ++ separator ++ joinWith separator pieces := by
  cases pieces with
  | nil => exact absurd rfl more
  | cons _ _ => rfl

/-- The pieces between the cuts, with the cuts put back. -/
theorem joinWith_splitAtAll (cut : Char) (text : Text) :
    joinWith [cut] (splitAtAll (· == cut) text) = text := by
  induction text with
  | nil => rfl
  | cons c rest inductionHypothesis =>
    obtain ⟨piece, pieces, same⟩ := List.exists_cons_of_ne_nil (splitAtAll_ne_nil (· == cut) rest)
    rw [splitAtAll]
    by_cases cuts : (c == cut) = true
    · rw [if_pos cuts, joinWith_cons (splitAtAll_ne_nil _ _), inductionHypothesis,
        beq_iff_eq.mp cuts]
      rfl
    · rw [if_neg cuts, same]
      rw [same] at inductionHypothesis
      cases pieces <;> exact congrArg (c :: ·) inductionHypothesis

/-! ### Literal replacement -/

theorem replaceAll_of_ne_nil (part substitute text : Text) (nonempty : part ≠ []) :
    replaceAll part substitute text = replaceFrom part substitute 0 text := by
  simp [replaceAll, nonempty]

/-- A character that the replaced text does not have cuts the text in two: both sides are replaced
on their own. `skip` characters of an occurrence on the left side may still have to be passed over.
-/
theorem replaceFrom_append_cut (part substitute before after : Text) (skip : Nat) (c : Char)
    (nonempty : part ≠ []) (absent : c ∉ part) (within : skip ≤ before.length) :
    replaceFrom part substitute skip (before ++ c :: after) =
      replaceFrom part substitute skip before ++ c :: replaceFrom part substitute 0 after := by
  induction before generalizing skip with
  | nil =>
    have none : hasLead part (c :: after) = false := by
      have cut := hasLead_append_cut part [] after c absent
      rw [List.nil_append] at cut
      rw [cut]
      cases part with
      | nil => exact absurd rfl nonempty
      | cons a part => rfl
    rw [Nat.le_zero.mp within]
    simp [replaceFrom, none]
  | cons b before inductionHypothesis =>
    cases skip with
    | succ skip =>
      simp only [List.cons_append, replaceFrom]
      exact inductionHypothesis skip (Nat.le_of_succ_le_succ within)
    | zero =>
      have cut := hasLead_append_cut part (b :: before) after c absent
      simp only [List.cons_append] at cut ⊢
      simp only [replaceFrom, cut]
      by_cases found : hasLead part (b :: before) = true
      · obtain ⟨rest, split⟩ := (hasLead_iff part (b :: before)).mp found
        have lengths : before.length + 1 = part.length + rest.length := by
          rw [← List.length_append, ← split, List.length_cons]
        rw [if_pos found, if_pos found, inductionHypothesis _ (by omega), List.append_assoc]
      · rw [if_neg found, if_neg found, inductionHypothesis 0 (Nat.zero_le _), List.cons_append]

theorem replaceAll_append_cut (part substitute before after : Text) (c : Char)
    (nonempty : part ≠ []) (absent : c ∉ part) :
    replaceAll part substitute (before ++ c :: after) =
      replaceAll part substitute before ++ c :: replaceAll part substitute after := by
  simp only [replaceAll_of_ne_nil _ _ _ nonempty]
  exact replaceFrom_append_cut part substitute before after 0 c nonempty absent (Nat.zero_le _)

/-- Where nothing occurs nothing is replaced. -/
theorem replaceAll_of_not_occursIn (part substitute text : Text) (nonempty : part ≠ [])
    (missing : occursIn part text = false) : replaceAll part substitute text = text := by
  rw [replaceAll_of_ne_nil _ _ _ nonempty]
  induction text with
  | nil => rfl
  | cons c text inductionHypothesis =>
    rw [occursIn, Bool.or_eq_false_iff] at missing
    simp only [replaceFrom, missing.1, Bool.false_eq_true, if_false]
    rw [inductionHypothesis missing.2]

/-- Replacement brings in no characters but those of the substitute. -/
theorem mem_replaceFrom {part substitute text : Text} {skip : Nat} {c : Char}
    (member : c ∈ replaceFrom part substitute skip text) : c ∈ text ∨ c ∈ substitute := by
  induction text generalizing skip with
  | nil => simp [replaceFrom] at member
  | cons b text inductionHypothesis =>
    cases skip with
    | succ skip =>
      rw [replaceFrom] at member
      exact (inductionHypothesis member).imp_left (List.mem_cons_of_mem b)
    | zero =>
      rw [replaceFrom] at member
      split at member
      · rcases List.mem_append.mp member with inside | later
        · exact Or.inr inside
        · exact (inductionHypothesis later).imp_left (List.mem_cons_of_mem b)
      · rcases List.mem_cons.mp member with same | later
        · exact Or.inl (same ▸ List.mem_cons_self)
        · exact (inductionHypothesis later).imp_left (List.mem_cons_of_mem b)

theorem mem_replaceAll {part substitute text : Text} {c : Char} (nonempty : part ≠ [])
    (member : c ∈ replaceAll part substitute text) : c ∈ text ∨ c ∈ substitute := by
  rw [replaceAll_of_ne_nil _ _ _ nonempty] at member
  exact mem_replaceFrom member

/-! ### Line ends -/

/-- Carriage returns before line feeds become line feeds with them, and then so do all others. -/
theorem unifyLineEnds_eq_replaceAll (text : Text) :
    text.unifyLineEnds = replaceAll ['\r'] ['\n'] (replaceAll ['\r', '\n'] ['\n'] text) := by
  rw [replaceAll_of_ne_nil _ _ _ (List.cons_ne_nil _ _),
    replaceAll_of_ne_nil _ _ _ (List.cons_ne_nil _ _)]
  have alone (c : Char) (rest : Text) : replaceFrom ['\r'] ['\n'] 0 (c :: rest) =
      (if c = '\r' then '\n' else c) :: replaceFrom ['\r'] ['\n'] 0 rest := by
    by_cases isReturn : c = '\r'
    · have lead : hasLead ['\r'] (c :: rest) = true :=
        (hasLead_iff _ _).mpr ⟨rest, by rw [isReturn]; rfl⟩
      rw [replaceFrom, if_pos lead, if_pos isReturn]
      rfl
    · have noLead : ¬ hasLead ['\r'] (c :: rest) = true := by
        rw [hasLead_iff]
        rintro ⟨_, same⟩
        exact isReturn (List.cons.inj same).1
      rw [replaceFrom, if_neg noLead, if_neg isReturn]
  fun_induction unifyLineEnds text with
  | case1 => rfl
  | case2 rest inductionHypothesis =>
    rw [inductionHypothesis]
    rfl
  | case3 c rest unpaired inductionHypothesis =>
    have noLead : ¬ hasLead ['\r', '\n'] (c :: rest) = true := by
      rw [hasLead_iff]
      rintro ⟨behind, same⟩
      obtain ⟨isReturn, isFeed⟩ := List.cons.inj same
      exact unpaired behind isReturn isFeed
    rw [replaceFrom, if_neg noLead, alone, inductionHypothesis]

theorem unifyLineEnds_of_not_mem {text : Text} (free : '\r' ∉ text) :
    text.unifyLineEnds = text := by
  fun_induction unifyLineEnds text with
  | case1 => rfl
  | case2 rest => exact absurd List.mem_cons_self free
  | case3 c rest _ inductionHypothesis =>
    obtain ⟨other, free⟩ := not_or.mp (mt List.mem_cons.mpr free)
    rw [if_neg (Ne.symm other), inductionHypothesis free]

end Text

end Stencil
