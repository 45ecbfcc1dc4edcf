/-
This file proves that the cutting of a text at its top level is determined by what the parts look
like, each on its own. The cutting keeps one depth for the whole text, to which angle brackets and
parentheses count alike, and which is negative where brackets are closed that were never opened. But
a cut is made at depth zero only, so that behind a cut the depth of the whole text is the depth of
the part that begins there: as many opening as closing brackets come before a cut in its part, and a
separator that is kept has more of the one kind than of the other before it.
-/
import Stencil.TypeParameter
import Stencil.Proofs.Texts

namespace Stencil

/-- The number of opening brackets, angle brackets and parentheses together. -/
def openings (text : Text) : Nat := text.count '<' + text.count '('

/-- The number of closing brackets, angle brackets and parentheses together. -/
def closings (text : Text) : Nat := text.count '>' + text.count ')'

/-- The parts of a text between separators. Every part but the last is balanced, while a separator
that stands in a part has no balanced stretch of the part before it. -/
structure Cuts (separator : Char) (text : Text) (parts : List Text) : Prop where
  joined : Text.joinWith [separator] parts = text
  balanced : ∀ part ∈ parts.dropLast, openings part = closings part
  kept : ∀ part ∈ parts, ∀ before after, part = before ++ separator :: after →
    openings before ≠ closings before

/-! ### Depths -/

/-- By how much a character changes the depth. -/
def depthChange (c : Char) : Int :=
  if c = '<' || c = '(' then 1 else if c = '>' || c = ')' then -1 else 0

/-- How many more opening than closing brackets there are. -/
def netDepth (text : Text) : Int := openings text - closings text

theorem netDepth_eq_zero_iff (text : Text) : netDepth text = 0 ↔ openings text = closings text := by
  rw [netDepth]
  omega

theorem netDepth_cons (c : Char) (text : Text) :
    netDepth (c :: text) = depthChange c + netDepth text := by
  simp only [netDepth, openings, closings, depthChange, List.count_cons, beq_iff_eq,
    Bool.or_eq_true, decide_eq_true_eq]
  -- A character is one bracket at most, so that of the four counts one moves or none does.
  by_cases angle : c = '<' <;> by_cases round : c = '(' <;> by_cases angleEnd : c = '>' <;>
    by_cases roundEnd : c = ')' <;> simp_all <;> omega

theorem netDepth_append (first second : Text) :
    netDepth (first ++ second) = netDepth first + netDepth second := by
  simp only [netDepth, openings, closings, List.count_append]
  omega

/-- No cut falls into a part that begins at some depth. -/
def Uncut (separator : Char) (depth : Int) (part : Text) : Prop :=
  ∀ before after, part = before ++ separator :: after → depth + netDepth before ≠ 0

section

variable {separator : Char}

theorem uncut_nil (depth : Int) : Uncut separator depth [] := by
  intro before after same
  simp at same

theorem uncut_cons_iff (depth : Int) (c : Char) (part : Text) :
    Uncut separator depth (c :: part) ↔
      ¬ (c = separator ∧ depth = 0) ∧ Uncut separator (depth + depthChange c) part := by
  constructor
  · intro uncut
    constructor
    · rintro ⟨rfl, rfl⟩
      exact uncut [] part rfl rfl
    · intro before after same
      have later := uncut (c :: before) after (by rw [same, List.cons_append])
      rwa [netDepth_cons, ← Int.add_assoc] at later
  · rintro ⟨here, later⟩ before after same
    cases before with
    | nil =>
      injection same with cuts _
      intro zero
      exact here ⟨cuts, (Int.add_zero depth).symm.trans zero⟩
    | cons _ before =>
      injection same with isFirst rest
      rw [netDepth_cons, ← isFirst, ← Int.add_assoc]
      exact later before after rest

theorem Uncut.append {depth : Int} {first second : Text} (uncut : Uncut separator depth first)
    (later : Uncut separator (depth + netDepth first) second) :
    Uncut separator depth (first ++ second) := by
  induction first generalizing depth with
  | nil =>
    have start : netDepth [] = 0 := rfl
    rwa [start, Int.add_zero] at later
  | cons c first inductionHypothesis =>
    obtain ⟨noCut, behind⟩ := (uncut_cons_iff depth c first).mp uncut
    rw [netDepth_cons, ← Int.add_assoc] at later
    exact (uncut_cons_iff depth c _).mpr ⟨noCut, inductionHypothesis behind later⟩

/-! ### Cutting character by character -/

/-- A separator at depth zero is a cut, and every other character goes into the part. -/
theorem splitFrom_cons (plain : separator ∉ ['<', '>', '(', ')']) (depth : Int) (c : Char)
    (rest : Text) :
    splitFrom [separator] depth (c :: rest) =
      if c = separator ∧ depth = 0 then
        ([], (splitFrom [separator] depth rest).1 :: (splitFrom [separator] depth rest).2)
      else
        (c :: (splitFrom [separator] (depth + depthChange c) rest).1,
          (splitFrom [separator] (depth + depthChange c) rest).2) := by
  simp only [List.mem_cons, List.not_mem_nil, or_false, not_or] at plain
  obtain ⟨noAngle, noAngleEnd, noRound, noRoundEnd⟩ := plain
  rw [splitFrom, depthChange]
  by_cases opens : (c = '<' || c = '(') = true
  · have noCut : ¬ (c = separator ∧ depth = 0) := by
      rintro ⟨rfl, -⟩
      simp [noAngle, noRound] at opens
    rw [if_pos opens, if_neg noCut, if_pos opens]
  · by_cases closes : (c = '>' || c = ')') = true
    · have noCut : ¬ (c = separator ∧ depth = 0) := by
        rintro ⟨rfl, -⟩
        simp [noAngleEnd, noRoundEnd] at closes
      rw [if_neg opens, if_pos closes, if_neg noCut, if_neg opens, if_pos closes]
      rfl
    · rw [if_neg opens, if_neg closes, if_neg opens, if_neg closes, Int.add_zero]
      have cuts : ([separator] = [c] && depth = 0) = true ↔ c = separator ∧ depth = 0 := by
        simp [@eq_comm Char separator c]
      simp only [cuts]

/-- A part into which no cut falls is passed over as a whole. -/
theorem splitFrom_uncut (plain : separator ∉ ['<', '>', '(', ')']) {depth : Int} {part : Text}
    (uncut : Uncut separator depth part) (rest : Text) :
    splitFrom [separator] depth (part ++ rest) =
      Prod.map (part ++ ·) id (splitFrom [separator] (depth + netDepth part) rest) := by
  induction part generalizing depth with
  | nil =>
    have start : netDepth [] = 0 := rfl
    rw [start, Int.add_zero]
    rfl
  | cons c part inductionHypothesis =>
    obtain ⟨noCut, later⟩ := (uncut_cons_iff depth c part).mp uncut
    rw [List.cons_append, splitFrom_cons plain, if_neg noCut, inductionHypothesis later,
      netDepth_cons, Int.add_assoc]
    rfl

/-! ### The parts from some depth on -/

/-- The parts of a text that is cut from some depth on. The first part begins at that depth, and
the others begin behind a cut, at depth zero. -/
inductive CutsFrom (separator : Char) : (depth : Int) → (text first : Text) → List Text → Prop
  | last {depth : Int} {part : Text} (uncut : Uncut separator depth part) :
      CutsFrom separator depth part part []
  | more {depth : Int} {text first second : Text} {parts : List Text}
      (uncut : Uncut separator depth first) (closed : depth + netDepth first = 0)
      (later : CutsFrom separator 0 text second parts) :
      CutsFrom separator depth (first ++ separator :: text) first (second :: parts)

namespace CutsFrom

variable {depth : Int} {text first : Text} {parts : List Text}

/-- One more character in the first part. -/
theorem keep {c : Char} (noCut : ¬ (c = separator ∧ depth = 0))
    (cuts : CutsFrom separator (depth + depthChange c) text first parts) :
    CutsFrom separator depth (c :: text) (c :: first) parts := by
  cases cuts with
  | last uncut => exact .last ((uncut_cons_iff depth c text).mpr ⟨noCut, uncut⟩)
  | more uncut closed later =>
    refine .more ((uncut_cons_iff depth c first).mpr ⟨noCut, uncut⟩) ?_ later
    rwa [netDepth_cons, ← Int.add_assoc]

/-- Cutting gives such parts. -/
theorem splitFrom (plain : separator ∉ ['<', '>', '(', ')']) (depth : Int) (text : Text) :
    CutsFrom separator depth text (Stencil.splitFrom [separator] depth text).1
      (Stencil.splitFrom [separator] depth text).2 := by
  induction text generalizing depth with
  | nil => exact .last (uncut_nil depth)
  | cons c rest inductionHypothesis =>
    rw [splitFrom_cons plain]
    by_cases cuts : c = separator ∧ depth = 0
    · rw [if_pos cuts]
      obtain ⟨rfl, rfl⟩ := cuts
      exact .more (uncut_nil 0) rfl (inductionHypothesis 0)
    · rw [if_neg cuts]
      exact (inductionHypothesis (depth + depthChange c)).keep cuts

/-- There are no other parts of this kind. -/
theorem splitFrom_eq (plain : separator ∉ ['<', '>', '(', ')'])
    (cuts : CutsFrom separator depth text first parts) :
    Stencil.splitFrom [separator] depth text = (first, parts) := by
  induction cuts with
  | @last depth part uncut =>
    have whole := splitFrom_uncut plain uncut []
    rw [List.append_nil] at whole
    rw [whole]
    simp [Stencil.splitFrom]
  | more uncut closed later inductionHypothesis =>
    -- Behind the first part the depth is zero, so that the separator there is a cut.
    rw [splitFrom_uncut plain uncut, closed, splitFrom_cons plain, if_pos ⟨rfl, rfl⟩,
      inductionHypothesis]
    simp

end CutsFrom

/-! ### The parts on their own -/

theorem uncut_zero_iff (part : Text) :
    Uncut separator 0 part ↔
      ∀ before after, part = before ++ separator :: after → openings before ≠ closings before := by
  simp only [Uncut, Int.zero_add, ne_eq, netDepth_eq_zero_iff]

theorem cuts_singleton_iff (text part : Text) :
    Cuts separator text [part] ↔ part = text ∧ Uncut separator 0 part := by
  rw [uncut_zero_iff]
  constructor
  · intro cuts
    exact ⟨cuts.joined, cuts.kept part List.mem_cons_self⟩
  · rintro ⟨same, kept⟩
    exact ⟨same, fun _ member => absurd member List.not_mem_nil, List.forall_mem_singleton.mpr kept⟩

theorem cuts_cons_cons_iff (text first second : Text) (parts : List Text) :
    Cuts separator text (first :: second :: parts) ↔
      Uncut separator 0 first ∧ netDepth first = 0 ∧
        ∃ rest, text = first ++ separator :: rest ∧ Cuts separator rest (second :: parts) := by
  have joined : Text.joinWith [separator] (first :: second :: parts) =
      first ++ separator :: Text.joinWith [separator] (second :: parts) := by
    rw [Text.joinWith_cons (List.cons_ne_nil _ _), List.append_assoc, List.singleton_append]
  rw [uncut_zero_iff, netDepth_eq_zero_iff]
  constructor
  · intro cuts
    refine ⟨cuts.kept first List.mem_cons_self, cuts.balanced first List.mem_cons_self,
      Text.joinWith [separator] (second :: parts), cuts.joined.symm.trans joined, rfl,
      fun part member => cuts.balanced part (List.mem_cons_of_mem _ member),
      fun part member => cuts.kept part (List.mem_cons_of_mem _ member)⟩
  · rintro ⟨kept, balanced, rest, rfl, cuts⟩
    exact ⟨by rw [joined, cuts.joined], List.forall_mem_cons.mpr ⟨balanced, cuts.balanced⟩,
      List.forall_mem_cons.mpr ⟨kept, cuts.kept⟩⟩

theorem cuts_cons_iff (text first : Text) (parts : List Text) :
    Cuts separator text (first :: parts) ↔ CutsFrom separator 0 text first parts := by
  induction parts generalizing text first with
  | nil =>
    rw [cuts_singleton_iff]
    constructor
    · rintro ⟨rfl, uncut⟩
      exact .last uncut
    · rintro ⟨uncut⟩
      exact ⟨rfl, uncut⟩
  | cons second parts inductionHypothesis =>
    rw [cuts_cons_cons_iff]
    constructor
    · rintro ⟨uncut, closed, rest, rfl, cuts⟩
      exact .more uncut (by rw [closed, Int.add_zero]) ((inductionHypothesis rest second).mp cuts)
    · intro cuts
      cases cuts with
      | @more _ rest _ _ _ uncut closed later =>
        rw [Int.zero_add] at closed
        exact ⟨uncut, closed, rest, rfl, (inductionHypothesis rest second).mpr later⟩

theorem cuts_splitTopLevel (plain : separator ∉ ['<', '>', '(', ')']) (text : Text) :
    Cuts separator text (splitTopLevel [separator] text) :=
  (cuts_cons_iff text _ _).mpr (CutsFrom.splitFrom plain 0 text)

theorem Cuts.splitTopLevel_eq (plain : separator ∉ ['<', '>', '(', ')']) {text : Text}
    {parts : List Text} (cuts : Cuts separator text parts) (nonempty : parts ≠ []) :
    splitTopLevel [separator] text = parts := by
  obtain ⟨first, more, rfl⟩ := List.exists_cons_of_ne_nil nonempty
  rw [splitTopLevel, ((cuts_cons_iff text first more).mp cuts).splitFrom_eq plain]

/-- No parts at all are joined to the empty text. -/
theorem cuts_nil : Cuts separator [] [] :=
  ⟨rfl, fun _ member => absurd member List.not_mem_nil,
    fun _ member => absurd member List.not_mem_nil⟩

/-- A text is cut at its top level into one part at least, and these are the only parts that are cut
as they should be. No parts at all are joined to the empty text too, and this is the one list that
the conditions do not tell from the parts of a text. -/
theorem cuts_iff_eq_splitTopLevel (plain : separator ∉ ['<', '>', '(', ')']) (text : Text)
    (parts : List Text) :
    splitTopLevel [separator] text ≠ [] ∧
      (Cuts separator text parts ↔
        parts = splitTopLevel [separator] text ∨ (text = [] ∧ parts = [])) := by
  refine ⟨List.cons_ne_nil _ _, ?_, ?_⟩
  · intro cuts
    by_cases nonempty : parts = []
    · subst nonempty
      exact Or.inr ⟨cuts.joined.symm, rfl⟩
    · exact Or.inl (cuts.splitTopLevel_eq plain nonempty).symm
  · rintro (rfl | ⟨rfl, rfl⟩)
    · exact cuts_splitTopLevel plain text
    · exact cuts_nil

end

/-- Brackets that are closed before they are opened. The second comma is at a negative depth and
the fourth at a positive one; the other two are cuts. -/
theorem cuts_iff_eq_splitTopLevel_unopened :
    ',' ∉ ['<', '>', '(', ')'] ∧
      Cuts ',' ")(,a>,b<,(c,d".toList [")(".toList, "a>,b<".toList, "(c,d".toList] :=
  ⟨by decide, (cuts_iff_eq_splitTopLevel (by decide) _ _).2.mpr (Or.inl (by decide))⟩

/-- At the empty text the conditions hold of two lists, so that they do not determine the parts: no
parts at all, and the one empty part into which the text is cut. -/
theorem cuts_nil_twice :
    Cuts ',' [] [] ∧ Cuts ',' [] [[]] ∧ splitTopLevel [','] [] = [[]] ∧
      ¬ ∀ text parts, Cuts ',' text parts → parts = splitTopLevel [','] text := by
  refine ⟨cuts_nil, cuts_splitTopLevel (by decide) [], rfl, fun determined => ?_⟩
  have same : [] = splitTopLevel [','] [] := determined [] [] cuts_nil
  cases same

end Stencil
