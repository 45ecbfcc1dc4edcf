/-
This file proves where the bracket scanner stops. Read from the opening bracket on, a text is cut
into literals and what is outside of them, and only brackets outside count. The depth of the scanner
is the number of opening brackets less the number of closing ones among the characters read so far;
it moves by one at a time, so that it is positive until it comes back to zero. The scanner stops
there, at the first balanced stretch, and has looked at nothing behind it.
-/
import Mathlib.Data.Nat.Find
import Mathlib.Order.Bounds.Defs
import Stencil.Proofs.Introspection

namespace Stencil

/-- The characters of a text that are outside of literals. A double quote opens a literal; in it a
backslash takes the next character along, and a double quote that is not taken along closes it. -/
def outside : (quoted : Bool) → Text → Text
  | _, [] => []
  | false, c :: rest => if c = '"' then outside true rest else c :: outside false rest
  | true, '\\' :: _ :: rest => outside true rest
  | true, c :: rest => outside (c != '"') rest

/-- A stretch with as many opening as closing brackets outside of literals. -/
def IsBalanced (opening closing : Char) (part : Text) : Prop :=
  (outside false part).count opening = (outside false part).count closing

instance (opening closing : Char) (part : Text) : Decidable (IsBalanced opening closing part) :=
  inferInstanceAs (Decidable (_ = _))

/-- The characters of a text from an index up to another one. -/
def Text.slice (text : Text) (start stop : Nat) : Text := (text.drop start).take (stop - start)

/-! ### Depths -/

/-- How many more opening than closing brackets there are outside of literals. -/
def excess (opening closing : Char) (quoted : Bool) (part : Text) : Int :=
  (outside quoted part).count opening - (outside quoted part).count closing

theorem isBalanced_iff_excess (opening closing : Char) (part : Text) :
    IsBalanced opening closing part ↔ excess opening closing false part = 0 := by
  rw [IsBalanced, excess]
  omega

/-- The first number of characters after which a depth is zero. -/
def FirstZero (depth : Nat → Int) (count : Nat) : Prop :=
  depth count = 0 ∧ ∀ fewer < count, depth fewer ≠ 0

/-- A depth that is not zero yet is zero first where it is from the next character on. -/
theorem firstZero_iff {depth next : Nat → Int} (starts : depth 0 ≠ 0)
    (goesOn : ∀ count, depth (count + 1) = next count) (count : Nat) :
    FirstZero depth count ↔ ∃ before, FirstZero next before ∧ before + 1 = count := by
  constructor
  · rintro ⟨zero, first⟩
    cases count with
    | zero => exact absurd zero starts
    | succ before =>
      refine ⟨before, ⟨goesOn before ▸ zero, fun fewer less => ?_⟩, rfl⟩
      rw [← goesOn]
      exact first _ (Nat.succ_lt_succ less)
  · rintro ⟨before, ⟨zero, first⟩, rfl⟩
    refine ⟨(goesOn before).trans zero, fun fewer less => ?_⟩
    cases fewer with
    | zero => exact starts
    | succ fewer =>
      rw [goesOn]
      exact first _ (Nat.lt_of_succ_lt_succ less)

/-- A scan that passes over a character stops at a first zero if it does from there on. -/
theorem map_succ_eq_some_iff {scan : Option Nat} {depth next : Nat → Int} (starts : depth 0 ≠ 0)
    (goesOn : ∀ count, depth (count + 1) = next count)
    (stops : ∀ count, scan = some count ↔ FirstZero next count) (count : Nat) :
    scan.map (· + 1) = some count ↔ FirstZero depth count := by
  rw [Option.map_eq_some_iff, firstZero_iff starts goesOn]
  simp only [stops]

section

variable {opening closing : Char}

theorem excess_nil (quoted : Bool) : excess opening closing quoted [] = 0 := by
  simp [excess, outside]

theorem excess_quoted {c : Char} (notEscape : c ≠ '\\') (part : Text) :
    excess opening closing true (c :: part) = excess opening closing (c != '"') part := by
  rw [excess, outside, excess]
  exact fun _ _ escape => absurd escape notEscape

theorem excess_code {c : Char} (notQuote : c ≠ '"') (part : Text) :
    excess opening closing false (c :: part) =
      (if c = opening then 1 else 0) - (if c = closing then 1 else 0) +
        excess opening closing false part := by
  rw [excess, outside, if_neg notQuote, List.count_cons, List.count_cons, excess]
  simp only [beq_iff_eq]
  split <;> split <;> omega

theorem add_excess_take_zero_ne {depth : Int} (positive : 0 < depth) (quoted : Bool)
    (text : Text) : depth + excess opening closing quoted (text.take 0) ≠ 0 := by
  rw [List.take_zero, excess_nil]
  omega

/-- From a positive depth on, the scanner stops where the depth is zero for the first time. -/
theorem balancedLength_eq_some_iff (distinct : opening ≠ closing) {quoted : Bool} {depth : Int}
    (positive : 0 < depth) (text : Text) (count : Nat) :
    balancedLength ⟨[opening], [closing]⟩ quoted depth text = some count ↔
      FirstZero (fun count => depth + excess opening closing quoted (text.take count)) count := by
  fun_induction balancedLength ⟨[opening], [closing]⟩ quoted depth text generalizing count with
  | case1 quoted depth =>
    constructor
    · rintro ⟨⟩
    · rintro ⟨zero, -⟩
      simp only [List.take_nil, excess_nil] at zero
      omega
  | case2 depth =>
    have silent : excess opening closing true (['\\'].take count) = 0 := by
      cases count with
      | zero => exact excess_nil true
      | succ count => rw [List.take_succ_cons, List.take_nil, excess, outside, outside] <;> simp
    constructor
    · rintro ⟨⟩
    · rintro ⟨zero, -⟩
      simp only [silent] at zero
      omega
  | case3 depth c rest inductionHypothesis =>
    -- The depth is the same before the backslash, behind it and behind the character after it.
    have behindEscape (count : Nat) :
        (balancedLength ⟨[opening], [closing]⟩ true depth rest).map (· + 1) = some count ↔
          FirstZero (fun count => depth +
            excess opening closing true ('\\' :: (c :: rest).take count)) count := by
      refine map_succ_eq_some_iff ?_ (fun _ => rfl) (inductionHypothesis positive) count
      simp only [List.take_zero, excess, outside, List.count_nil]
      omega
    have both : ((balancedLength ⟨[opening], [closing]⟩ true depth rest).map (· + 1)).map (· + 1) =
        some count ↔ FirstZero (fun count => depth +
          excess opening closing true (('\\' :: c :: rest).take count)) count :=
      map_succ_eq_some_iff (add_excess_take_zero_ne positive _ _) (fun _ => rfl) behindEscape count
    rwa [Option.map_map] at both
  | case4 depth c rest notEscape inductionHypothesis =>
    refine map_succ_eq_some_iff (add_excess_take_zero_ne positive _ _) (fun count => ?_)
      (inductionHypothesis positive) count
    rw [List.take_succ_cons, excess_quoted notEscape]
  | case5 depth rest inductionHypothesis =>
    exact map_succ_eq_some_iff (add_excess_take_zero_ne positive _ _) (fun _ => rfl)
      (inductionHypothesis positive) count
  | case6 depth c rest notQuote opens inductionHypothesis =>
    refine map_succ_eq_some_iff (add_excess_take_zero_ne positive _ _) (fun count => ?_)
      (inductionHypothesis (by omega)) count
    obtain rfl : opening = c := by simpa using opens
    rw [List.take_succ_cons, excess_code notQuote, if_pos rfl, if_neg distinct]
    omega
  | case7 c rest notQuote notOpening isClosing =>
    obtain rfl : closing = c := by simpa using isClosing
    have next (count : Nat) :
        1 + excess opening closing false ((closing :: rest).take (count + 1)) =
        excess opening closing false (rest.take count) := by
      rw [List.take_succ_cons, excess_code notQuote, if_pos rfl, if_neg distinct.symm]
      omega
    rw [firstZero_iff (add_excess_take_zero_ne Int.one_pos _ _) next]
    constructor
    · rintro ⟨⟩
      exact ⟨0, ⟨excess_nil false, fun _ less => absurd less (Nat.not_lt_zero _)⟩, rfl⟩
    · rintro ⟨before, ⟨-, first⟩, rfl⟩
      cases before with
      | zero => rfl
      | succ before => exact absurd (excess_nil false) (first 0 (Nat.succ_pos _))
  | case8 depth c rest notQuote notOpening isClosing deeper inductionHypothesis =>
    refine map_succ_eq_some_iff (add_excess_take_zero_ne positive _ _) (fun count => ?_)
      (inductionHypothesis (by omega)) count
    obtain rfl : closing = c := by simpa using isClosing
    rw [List.take_succ_cons, excess_code notQuote, if_pos rfl, if_neg distinct.symm]
    omega
  | case9 depth c rest notQuote notOpening notClosing inductionHypothesis =>
    refine map_succ_eq_some_iff (add_excess_take_zero_ne positive _ _) (fun count => ?_)
      (inductionHypothesis positive) count
    rw [List.take_succ_cons, excess_code notQuote, if_neg (by simpa [eq_comm] using notOpening),
      if_neg (by simpa [eq_comm] using notClosing)]
    omega

/-- A scan that begins with an opening bracket stops behind the shortest balanced stretch. -/
theorem balancedLength_opening (distinct : opening ≠ closing) (notQuote : opening ≠ '"')
    (rest : Text) (count : Nat) :
    balancedLength ⟨[opening], [closing]⟩ false 0 (opening :: rest) = some count ↔
      IsLeast {count | 0 < count ∧ IsBalanced opening closing ((opening :: rest).take count)}
        count := by
  have deeper (count : Nat) : IsBalanced opening closing ((opening :: rest).take (count + 1)) ↔
      1 + excess opening closing false (rest.take count) = 0 := by
    rw [isBalanced_iff_excess, List.take_succ_cons, excess_code notQuote, if_pos rfl,
      if_neg distinct]
    omega
  have first : balancedLength ⟨[opening], [closing]⟩ false 0 (opening :: rest) =
      (balancedLength ⟨[opening], [closing]⟩ false 1 rest).map (· + 1) := by
    rw [balancedLength, if_neg notQuote, if_pos rfl]
    rfl
  rw [first, Option.map_eq_some_iff]
  simp only [balancedLength_eq_some_iff distinct Int.one_pos]
  constructor
  · rintro ⟨before, ⟨zero, least⟩, rfl⟩
    refine ⟨⟨Nat.succ_pos _, (deeper before).mpr zero⟩, ?_⟩
    rintro (_ | fewer) ⟨positive, balanced⟩
    · exact absurd positive (Nat.lt_irrefl 0)
    · by_contra less
      exact least fewer (by omega) ((deeper fewer).mp balanced)
  · rintro ⟨⟨positive, balanced⟩, least⟩
    obtain ⟨before, rfl⟩ := Nat.exists_eq_succ_of_ne_zero positive.ne'
    refine ⟨before, ⟨(deeper before).mp balanced, fun fewer less zero => ?_⟩, rfl⟩
    have tooEarly := least ⟨Nat.succ_pos fewer, (deeper fewer).mpr zero⟩
    omega

/-! ### The scanner -/

variable {text : Text} {start : Nat}

theorem skipBalanced_of_opening (opens : text[start]? = some opening) :
    skipBalanced text ⟨[opening], [closing]⟩ start =
      match balancedLength ⟨[opening], [closing]⟩ false 0 (text.drop start) with
      | some count => .ok (start + count)
      | none => .error (.unclosed ⟨[opening], [closing]⟩ start) := by
  obtain ⟨inside, here⟩ := List.getElem?_eq_some_iff.mp opens
  have scanned : scannedFrom text start = opening :: text.drop (start + 1) := by
    rw [scannedFrom, if_pos (Int.natCast_nonneg start), Int.toNat_natCast,
      List.drop_eq_getElem_cons inside, here]
  rw [skipBalanced, if_neg (by omega), if_neg (by omega), scanned,
    List.drop_eq_getElem_cons inside, here]
  exact if_pos rfl

theorem skipBalanced_of_not_opening (opensNot : text[start]? ≠ some opening) :
    skipBalanced text ⟨[opening], [closing]⟩ start =
      .error (.notOpening ⟨[opening], [closing]⟩ start) := by
  rw [skipBalanced]
  by_cases outside : text.length ≤ start
  · rw [if_pos (by omega)]
  · have inside : start < text.length := Nat.lt_of_not_le outside
    have other : [opening] ≠ [text[start]] :=
      fun same => opensNot (by simpa [inside] using same.symm)
    rw [if_neg (by omega), if_neg (by omega), scannedFrom, if_pos (Int.natCast_nonneg start),
      Int.toNat_natCast, List.drop_eq_getElem_cons inside]
    exact if_neg other

/-- Balanced stretches that begin at an index are balanced beginnings of what is ahead of it. -/
theorem isLeast_slice_iff (count : Nat) :
    IsLeast {index | start < index ∧ IsBalanced opening closing (text.slice start index)}
        (start + count) ↔
      IsLeast {count | 0 < count ∧ IsBalanced opening closing ((text.drop start).take count)}
        count := by
  have slice (count : Nat) : text.slice start (start + count) = (text.drop start).take count := by
    rw [Text.slice, Nat.add_sub_cancel_left]
  constructor
  · rintro ⟨⟨later, balanced⟩, least⟩
    refine ⟨⟨by omega, slice count ▸ balanced⟩, fun other ⟨positive, alsoBalanced⟩ => ?_⟩
    have notEarlier := least ⟨by omega, (slice other).symm ▸ alsoBalanced⟩
    omega
  · rintro ⟨⟨positive, balanced⟩, least⟩
    refine ⟨⟨by omega, (slice count).symm ▸ balanced⟩, fun index ⟨later, alsoBalanced⟩ => ?_⟩
    obtain ⟨other, rfl⟩ := Nat.exists_eq_add_of_le later.le
    have notEarlier := least ⟨by omega, slice other ▸ alsoBalanced⟩
    omega

/-- A scan stops at the end of the shortest balanced stretch. -/
theorem skipBalanced_eq_ok_iff (distinct : opening ≠ closing) (notQuote : opening ≠ '"')
    (stop : Int) :
    skipBalanced text ⟨[opening], [closing]⟩ start = .ok stop ↔
      text[start]? = some opening ∧ ∃ index : Nat, stop = index ∧
        IsLeast {index | start < index ∧ IsBalanced opening closing (text.slice start index)}
          index := by
  by_cases opens : text[start]? = some opening
  · have stops (count : Nat) :
        IsLeast {index | start < index ∧ IsBalanced opening closing (text.slice start index)}
          (start + count) ↔
        balancedLength ⟨[opening], [closing]⟩ false 0 (text.drop start) = some count := by
      obtain ⟨inside, here⟩ := List.getElem?_eq_some_iff.mp opens
      rw [isLeast_slice_iff, List.drop_eq_getElem_cons inside, here,
        balancedLength_opening distinct notQuote]
    rw [skipBalanced_of_opening opens]
    constructor
    · intro found
      split at found
      · next count balanced =>
        cases found
        exact ⟨opens, start + count, by omega, (stops count).mpr balanced⟩
      · cases found
    · rintro ⟨-, index, rfl, least⟩
      obtain ⟨count, rfl⟩ := Nat.exists_eq_add_of_le least.1.1.le
      rw [(stops count).mp least]
      exact congrArg Except.ok (by omega)
  · rw [skipBalanced_of_not_opening opens]
    exact ⟨fun same => (nomatch same), fun ⟨same, _⟩ => absurd same opens⟩

/-- What a scan has gone over, and that it goes over it wherever it stands. -/
theorem exists_stretch_of_skipBalanced {stop : Int}
    (found : skipBalanced text ⟨[opening], [closing]⟩ start = .ok stop) :
    ∃ inside rest, text.drop start = inside ++ closing :: rest ∧
      stop = start + (inside.length + 1) ∧
      ∀ before after : Text,
        skipBalanced (before ++ (inside ++ closing :: after)) ⟨[opening], [closing]⟩
          before.length = .ok (before.length + (inside.length + 1)) := by
  by_cases opens : text[start]? = some opening
  · rw [skipBalanced_of_opening opens] at found
    split at found
    · next count balanced =>
      cases found
      obtain ⟨inside, rest, ahead, rfl, scans⟩ := balancedLength_eq_some rfl balanced
      refine ⟨inside, rest, ahead, rfl, fun before after => ?_⟩
      have alsoOpens : (before ++ (inside ++ closing :: after))[before.length]? = some opening := by
        have first : (inside ++ closing :: rest)[0]? = some opening := by
          rw [← ahead, List.getElem?_drop, Nat.add_zero, opens]
        rw [List.getElem?_append_right (Nat.le_refl _), Nat.sub_self]
        cases inside <;> exact first
      rw [skipBalanced_of_opening alsoOpens, List.drop_left, scans]
      rfl
    · cases found
  · rw [skipBalanced_of_not_opening opens] at found
    cases found

end

/-- Where a text has an opening bracket at an index, the scanner stops at the least index behind it
up to which opening and closing brackets outside of literals are equally many; it fails if there is
none, or if there is no opening bracket to begin with. The stretch that it has gone over ends with a
closing bracket, and in other surroundings the scanner goes over the same stretch. -/
theorem skipBalanced_stops_where_balanced (text : Text) (opening closing : Char) (start : Nat)
    (distinct : opening ≠ closing) (notQuote : opening ≠ '"') :
    (∀ stop, skipBalanced text ⟨[opening], [closing]⟩ start = .ok stop ↔
      text[start]? = some opening ∧ ∃ index : Nat, stop = index ∧
        IsLeast {index | start < index ∧ IsBalanced opening closing (text.slice start index)}
          index) ∧
    (∀ fault, skipBalanced text ⟨[opening], [closing]⟩ start = .error fault →
      text[start]? ≠ some opening ∧ fault = .notOpening ⟨[opening], [closing]⟩ start ∨
      text[start]? = some opening ∧
        (∀ index, start < index → ¬ IsBalanced opening closing (text.slice start index)) ∧
        fault = .unclosed ⟨[opening], [closing]⟩ start) ∧
    (∀ index : Nat, skipBalanced text ⟨[opening], [closing]⟩ start = .ok index →
      start < index ∧ index ≤ text.length ∧ text[index - 1]? = some closing ∧
      ∀ before after : Text,
        skipBalanced (before ++ text.slice start index ++ after) ⟨[opening], [closing]⟩
          before.length = .ok (before.length + (index - start : Int))) ∧
    (∀ stop, skipBalanced text ⟨[opening], [closing]⟩ 0 = .ok stop →
      ∀ before after : Text,
        skipBalanced (before ++ text ++ after) ⟨[opening], [closing]⟩ before.length =
          .ok (before.length + stop)) := by
  refine ⟨fun stop => skipBalanced_eq_ok_iff distinct notQuote stop, fun fault failed => ?_,
    fun index found => ?_, fun stop found before after => ?_⟩
  · by_cases opens : text[start]? = some opening
    · refine Or.inr ⟨opens, fun index later balanced => ?_, ?_⟩
      · -- Of all balanced stretches one is the shortest, and the scanner would have stopped there.
        have some : ∃ index, start < index ∧
          IsBalanced opening closing (text.slice start index) := ⟨index, later, balanced⟩
        have found := (skipBalanced_eq_ok_iff distinct notQuote _).mpr
          ⟨opens, Nat.find some, rfl, Nat.find_spec some, fun _ other => Nat.find_min' some other⟩
        rw [failed] at found
        cases found
      · rw [skipBalanced_of_opening opens] at failed
        split at failed
        · cases failed
        · exact (Except.error.inj failed).symm
    · rw [skipBalanced_of_not_opening opens] at failed
      exact Or.inl ⟨opens, (Except.error.inj failed).symm⟩
  · obtain ⟨inside, rest, ahead, ends, anywhere⟩ := exists_stretch_of_skipBalanced found
    obtain rfl : index = start + (inside.length + 1) := by omega
    have total := congrArg List.length ahead
    simp only [List.length_drop, List.length_append, List.length_cons] at total
    have slice : text.slice start (start + (inside.length + 1)) = inside ++ [closing] := by
      rw [Text.slice, ahead, Nat.add_sub_cancel_left, ← List.singleton_append,
        ← List.append_assoc]
      exact List.take_left' (by simp)
    refine ⟨by omega, by omega, ?_, fun before after => ?_⟩
    · rw [Nat.add_sub_assoc (by omega), Nat.add_sub_cancel, ← List.getElem?_drop, ahead,
        List.getElem?_append_right (Nat.le_refl _), Nat.sub_self]
      rfl
    · have moved := anywhere before after
      rw [slice, List.append_assoc, List.append_assoc, List.singleton_append, moved]
      exact congrArg Except.ok (by omega)
  · obtain ⟨inside, rest, ahead, rfl, anywhere⟩ :=
      exists_stretch_of_skipBalanced (show skipBalanced text _ (0 : Nat) = .ok stop from found)
    rw [List.drop_zero] at ahead
    have moved := anywhere before (rest ++ after)
    rw [ahead, List.append_assoc, List.append_assoc, List.cons_append, moved]
    exact congrArg Except.ok (by omega)

/-- A call with a literal that has an escaped quote and both brackets in it, and a bracket too
many. -/
def escapedCall : Text := "f(\"\\\")(\",(b))c)".toList

theorem skipBalanced_stops_where_balanced_escaped :
    '(' ≠ ')' ∧ '(' ≠ '"' ∧
      skipBalanced escapedCall .round (1 : Nat) = .ok (13 : Nat) ∧
      IsLeast {index | 1 < index ∧ IsBalanced '(' ')' (escapedCall.slice 1 index)} 13 ∧
      escapedCall[12]? = some ')' ∧
      ∀ before after : Text, skipBalanced (before ++ escapedCall.slice 1 13 ++ after) .round
        before.length = .ok (before.length + 12) := by
  have found : skipBalanced escapedCall .round (1 : Nat) = .ok (13 : Nat) := by decide +kernel
  obtain ⟨stops, -, ends, -⟩ :=
    skipBalanced_stops_where_balanced escapedCall '(' ')' 1 (by decide) (by decide)
  obtain ⟨-, index, same, least⟩ := (stops _).mp found
  obtain rfl : 13 = index := by omega
  obtain ⟨-, -, closes, anywhere⟩ := ends 13 found
  exact ⟨by decide, by decide, found, least, closes, anywhere⟩

end Stencil
