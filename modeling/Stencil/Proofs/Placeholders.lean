/-
This file proves that a placeholder keeps what it hides. A marker is chosen outside of the texts at
hand; it is no run character, and neither kind of character can be part of an identifier. Unhiding
goes back and forth between two states, outside of a placeholder and within its run; a text without
the marker is passed through in the first state, and the run of a hidden text is collected in the
second and read back as the octets of that text.

A replacement that cuts a text at every character of a placeholder and never brings in the marker
does the same to the texts on both sides of a placeholder as to each of them alone. Such
replacements compose.
-/
import Stencil.Placeholder
import Stencil.Proofs.Octets
import Stencil.Proofs.Outcomes
import Stencil.Proofs.Texts
import Stencil.Proofs.Words

namespace Stencil

/-! ### Private characters -/

/-- Whether a character is one of those that markers are chosen from. -/
def isMarkerChar (c : Char) : Bool := 0xF000 ≤ c.toNat && c.toNat ≤ 0xF8FF

theorem isMarkerChar_iff (c : Char) :
    isMarkerChar c = true ↔ 0xF000 ≤ c.toNat ∧ c.toNat ≤ 0xF8FF := by
  simp [isMarkerChar]

theorem isRunChar_iff (c : Char) :
    Placeholder.isRunChar c = true ↔ 0xE000 ≤ c.toNat ∧ c.toNat < 0xE100 := by
  rw [Placeholder.isRunChar, Bool.and_eq_true, decide_eq_true_iff, decide_eq_true_iff]
  rfl

/-- No range of alphanumeric characters reaches into the private ones. -/
theorem alphanumericRanges_apart :
    alphanumericRanges.all
      (fun range => decide (range.last < 0xE000) || decide (0xF8FF < range.first)) = true := by
  decide +kernel

/-- A private character belongs to no identifier. -/
theorem isIdentifierChar_of_private (c : Char) (low : 0xE000 ≤ c.toNat) (high : c.toNat ≤ 0xF8FF) :
    isIdentifierChar c = false := by
  have outside : inRanges alphanumericRanges c.toNat = false := by
    rw [inRanges, List.any_eq_false]
    intro range member
    have apart := List.all_eq_true.mp alphanumericRanges_apart range member
    simp only [Bool.or_eq_true, decide_eq_true_eq] at apart
    simp only [CodeRange.contains, Bool.and_eq_true, decide_eq_true_eq]
    omega
  exact isIdentifierChar_of_outside (by omega) outside

namespace Placeholder

theorem toNat_charOfNat (code : Nat) (low : 0xE000 ≤ code) (high : code < 0x110000) :
    (Char.ofNat code).toNat = code := by
  have valid : code.isValidChar := Or.inr ⟨by omega, high⟩
  rw [Char.ofNat, dif_pos valid]
  rfl

theorem isMarkerChar_of_mem_markers {marker : Char} (member : marker ∈ markers) :
    isMarkerChar marker = true := by
  obtain ⟨index, inside, same⟩ := List.mem_map.mp member
  rw [List.mem_range, markerCount] at inside
  rw [isMarkerChar_iff, ← same, highestMarker, toNat_charOfNat _ (by omega) (by omega)]
  omega

/-- A marker, once chosen, is one of the marker characters and occurs nowhere in the text. -/
theorem choose_eq_ok {text : Text} {placeholder : Placeholder}
    (chosen : choose text = .ok placeholder) :
    isMarkerChar placeholder.marker = true ∧ placeholder.marker ∉ text := by
  unfold choose at chosen
  cases found : markers.find? fun marker => !text.contains marker with
  | none =>
    rw [found] at chosen
    exact absurd chosen (by simp)
  | some marker =>
    rw [found] at chosen
    have free := List.find?_some found
    injection chosen with same
    rw [← same]
    exact ⟨isMarkerChar_of_mem_markers (List.mem_of_find?_eq_some found), by simpa using free⟩

theorem mem_markers_of_isMarkerChar {marker : Char} (isMarker : isMarkerChar marker = true) :
    marker ∈ markers := by
  rw [isMarkerChar_iff] at isMarker
  refine List.mem_map.mpr ⟨highestMarker - marker.toNat, ?_, ?_⟩
  · rw [List.mem_range, highestMarker, markerCount]
    omega
  · have same : highestMarker - (highestMarker - marker.toNat) = marker.toNat := by
      rw [highestMarker]
      omega
    rw [same, Char.ofNat_toNat]

/-- As long as some marker character does not occur in a text, there is a marker to choose. -/
theorem exists_choose {text : Text} {marker : Char} (isMarker : isMarkerChar marker = true)
    (free : marker ∉ text) : ∃ placeholder, choose text = .ok placeholder := by
  unfold choose
  cases found : markers.find? fun marker => !text.contains marker with
  | some chosen => exact ⟨⟨chosen⟩, rfl⟩
  | none =>
    have taken := List.find?_eq_none.mp found marker (mem_markers_of_isMarkerChar isMarker)
    exact absurd (by simpa using free) taken

/-- Once all of them occur, there is none. -/
theorem choose_eq_error_iff (text : Text) :
    choose text = .error .noFreeMarker ↔ ∀ marker, isMarkerChar marker = true → marker ∈ text := by
  constructor
  · intro refused marker isMarker
    refine Decidable.byContradiction fun free => ?_
    obtain ⟨placeholder, chosen⟩ := exists_choose isMarker free
    cases chosen.symm.trans refused
  · intro taken
    cases chosen : choose text with
    | ok placeholder =>
      obtain ⟨isMarker, free⟩ := choose_eq_ok chosen
      exact absurd (taken _ isMarker) free
    | error abort =>
      unfold choose at chosen
      split at chosen <;> cases chosen
      rfl

/-- Markers are tried from the highest one down. -/
theorem pairwise_markers : markers.Pairwise fun earlier later => later.toNat < earlier.toNat := by
  rw [markers, List.pairwise_map]
  refine List.Pairwise.imp_of_mem ?_ List.pairwise_lt_range
  intro first second inside alsoInside less
  rw [List.mem_range, markerCount] at inside alsoInside
  rw [highestMarker, toNat_charOfNat _ (by omega) (by omega),
    toNat_charOfNat _ (by omega) (by omega)]
  omega

/-- All marker characters above the chosen one occur in the text. -/
theorem mem_of_above_chosen {text : Text} {placeholder : Placeholder}
    (chosen : choose text = .ok placeholder) {higher : Char} (isMarker : isMarkerChar higher = true)
    (above : placeholder.marker.toNat < higher.toNat) : higher ∈ text := by
  unfold choose at chosen
  split at chosen
  · next marker found =>
    cases chosen
    obtain ⟨-, earlier, later, parts, taken⟩ := List.find?_eq_some_iff_append.mp found
    have member := mem_markers_of_isMarkerChar isMarker
    have ordered := pairwise_markers
    rw [parts] at member ordered
    rcases List.mem_append.mp member with before | behind
    · simpa using taken higher before
    · obtain ⟨lower, -⟩ := List.pairwise_cons.mp (List.pairwise_append.mp ordered).2.1
      rcases List.mem_cons.mp behind with rfl | further
      · exact absurd above (Nat.lt_irrefl _)
      · exact absurd above (Nat.lt_asymm (lower higher further))
  · cases chosen

/-- The choice depends on nothing but which characters occur. -/
theorem choose_congr {text other : Text} (same : ∀ c, c ∈ text ↔ c ∈ other) :
    choose text = choose other := by
  have agree : (fun marker => !text.contains marker) = fun marker => !other.contains marker := by
    funext marker
    rw [Bool.eq_iff_iff]
    simp [same marker]
  unfold choose
  rw [agree]

/-! ### Run characters -/

theorem toNat_runChar (octet : UInt8) : (runChar octet).toNat = 0xE000 + octet.toNat := by
  have small : octet.toNat < 256 := octet.toNat_lt
  exact toNat_charOfNat _ (by rw [runStart]; omega) (by rw [runStart]; omega)

theorem isRunChar_runChar (octet : UInt8) : isRunChar (runChar octet) = true := by
  have small : octet.toNat < 256 := octet.toNat_lt
  rw [isRunChar_iff, toNat_runChar]
  omega

theorem octetOf_runChar (octet : UInt8) : octetOf (runChar octet) = octet := by
  rw [octetOf, toNat_runChar, runStart, Nat.add_sub_cancel_left]
  exact UInt8.ofNat_toNat

theorem ne_of_isRunChar {c marker : Char} (isRun : isRunChar c = true)
    (isMarker : isMarkerChar marker = true) : c ≠ marker := by
  rintro rfl
  rw [isRunChar_iff] at isRun
  rw [isMarkerChar_iff] at isMarker
  omega

/-- The run of a text is read back as the text. -/
theorem restore_run (text : Text) : restore ((Text.octets text).map runChar) = (text, []) := by
  have octets : ((Text.octets text).map runChar).map octetOf = Text.octets text := by
    rw [List.map_map]
    exact (List.map_congr_left fun octet _ => octetOf_runChar octet).trans (List.map_id _)
  simp only [restore, octets, decode_octets]

/-! ### Unhiding -/

/-- A text without the marker is passed through. -/
theorem unprotectFrom_free (placeholder : Placeholder) (before after : Text)
    (free : placeholder.marker ∉ before) :
    unprotectFrom placeholder none (before ++ after) =
      (before ++ (unprotectFrom placeholder none after).1,
        (unprotectFrom placeholder none after).2) := by
  induction before with
  | nil => rfl
  | cons c before inductionHypothesis =>
    rw [List.mem_cons, not_or] at free
    rw [List.cons_append, unprotectFrom, if_neg (Ne.symm free.1), inductionHypothesis free.2]
    rfl

/-- Within a run, run characters are collected up to the next marker. -/
theorem unprotectFrom_run (placeholder : Placeholder) (octets : List UInt8) (seen after : Text)
    (isMarker : isMarkerChar placeholder.marker = true) :
    unprotectFrom placeholder (some seen)
        (octets.map runChar ++ placeholder.marker :: after) =
      let restored := restore (seen.reverse ++ octets.map runChar)
      (restored.1 ++ (unprotectFrom placeholder none after).1,
        restored.2 ++ (unprotectFrom placeholder none after).2) := by
  induction octets generalizing seen with
  | nil =>
    rw [List.map_nil, List.append_nil, List.nil_append, unprotectFrom, if_pos rfl]
  | cons octet octets inductionHypothesis =>
    have noMarker := ne_of_isRunChar (isRunChar_runChar octet) isMarker
    rw [List.map_cons, List.cons_append, unprotectFrom, if_neg noMarker,
      if_pos (isRunChar_runChar octet), inductionHypothesis, List.reverse_cons, List.append_assoc,
      List.singleton_append]

/-- What follows a text without the marker and a placeholder is unhidden on its own. -/
theorem unprotectFrom_protect (placeholder : Placeholder) (before hidden after : Text)
    (isMarker : isMarkerChar placeholder.marker = true) (free : placeholder.marker ∉ before) :
    unprotectFrom placeholder none (before ++ placeholder.protect hidden ++ after) =
      (before ++ hidden ++ (unprotectFrom placeholder none after).1,
        (unprotectFrom placeholder none after).2) := by
  have inside := unprotectFrom_run placeholder (Text.octets hidden) [] after isMarker
  rw [List.reverse_nil, List.nil_append, restore_run] at inside
  rw [List.append_assoc, unprotectFrom_free placeholder _ _ free, protect, List.cons_append,
    List.cons_append, List.append_assoc, List.singleton_append, unprotectFrom, if_pos rfl, inside]
  simp only [List.append_assoc, List.nil_append]

/-- A single placeholder between texts without the marker is turned back, and nothing is said. -/
theorem unprotectFrom_between (placeholder : Placeholder) (before hidden after : Text)
    (isMarker : isMarkerChar placeholder.marker = true) (free : placeholder.marker ∉ before)
    (alsoFree : placeholder.marker ∉ after) :
    unprotectFrom placeholder none (before ++ placeholder.protect hidden ++ after) =
      (before ++ hidden ++ after, []) := by
  have rest := unprotectFrom_free placeholder after [] alsoFree
  rw [List.append_nil] at rest
  rw [unprotectFrom_protect placeholder before hidden after isMarker free, rest]
  simp only [unprotectFrom, List.append_nil]

/-- Placeholders one behind the other, with texts between them that do not have the marker, are
turned back one by one, and nothing is said. -/
theorem unprotectFrom_pieces (placeholder : Placeholder)
    (isMarker : isMarkerChar placeholder.marker = true) (first : Text) (pieces : List (Text × Text))
    (free : placeholder.marker ∉ first)
    (alsoFree : ∀ piece ∈ pieces, placeholder.marker ∉ piece.2) :
    unprotectFrom placeholder none
        (first ++ pieces.flatMap fun piece => placeholder.protect piece.1 ++ piece.2) =
      (first ++ pieces.flatMap fun piece => piece.1 ++ piece.2, []) := by
  induction pieces generalizing first with
  | nil => exact unprotectFrom_free placeholder first [] free
  | cons piece pieces inductionHypothesis =>
    obtain ⟨own, others⟩ := List.forall_mem_cons.mp alsoFree
    rw [List.flatMap_cons, List.flatMap_cons, List.append_assoc, ← List.append_assoc first,
      unprotectFrom_protect placeholder first piece.1 _ isMarker free,
      inductionHypothesis piece.2 own others]
    simp only [List.append_assoc]

/-- A marker is chosen unless all of them occur in the text, and it is the highest one that does not
occur. With it, any texts can be hidden, the empty one and those that have the marker included:
wherever texts without the marker stand between the placeholders, each of them is turned back, all
else stays, and nothing is said. -/
theorem unprotect_restores_pieces (seed : Text) :
    ((∃ marker, isMarkerChar marker = true ∧ marker ∉ seed) ↔
      ∃ placeholder, choose seed = .ok placeholder) ∧
    ((∀ marker, isMarkerChar marker = true → marker ∈ seed) ↔
      choose seed = .error .noFreeMarker) ∧
    ∀ placeholder, choose seed = .ok placeholder →
      isMarkerChar placeholder.marker = true ∧ placeholder.marker ∉ seed ∧
      (∀ higher, isMarkerChar higher = true → placeholder.marker.toNat < higher.toNat →
        higher ∈ seed) ∧
      ∀ (first : Text) (pieces : List (Text × Text)), placeholder.marker ∉ first →
        (∀ piece ∈ pieces, placeholder.marker ∉ piece.2) →
        placeholder.unprotect
            (first ++ pieces.flatMap fun piece => placeholder.protect piece.1 ++ piece.2) =
          ⟨[], .ok (first ++ pieces.flatMap fun piece => piece.1 ++ piece.2)⟩ := by
  refine ⟨⟨?_, ?_⟩, (choose_eq_error_iff seed).symm, fun placeholder chosen => ?_⟩
  · rintro ⟨marker, isMarker, free⟩
    exact exists_choose isMarker free
  · rintro ⟨placeholder, chosen⟩
    exact ⟨placeholder.marker, choose_eq_ok chosen⟩
  · obtain ⟨isMarker, absent⟩ := choose_eq_ok chosen
    refine ⟨isMarker, absent, fun higher => mem_of_above_chosen chosen, ?_⟩
    intro first pieces free alsoFree
    rw [unprotect, unprotectFrom_pieces placeholder isMarker first pieces free alsoFree]

/-- The highest marker is taken. Of the hidden texts the first has the chosen marker and a run
character in it and the second, right behind it, is empty. -/
theorem unprotect_restores_pieces_adjacent :
    choose ['\uF8FF'] = .ok ⟨'\uF8FE'⟩ ∧
    Placeholder.unprotect ⟨'\uF8FE'⟩
        ("é\uE041".toList ++ Placeholder.protect ⟨'\uF8FE'⟩ "\uF8FE\uE041ß".toList ++
          Placeholder.protect ⟨'\uF8FE'⟩ [] ++ "\uE000\uF8FF".toList) =
      ⟨[], .ok "é\uE041\uF8FE\uE041ß\uE000\uF8FF".toList⟩ := by
  have chosen : choose ['\uF8FF'] = .ok ⟨'\uF8FE'⟩ := by decide +kernel
  obtain ⟨-, -, restores⟩ := unprotect_restores_pieces ['\uF8FF']
  obtain ⟨-, -, -, restores⟩ := restores _ chosen
  have restored := restores "é\uE041".toList
    [("\uF8FE\uE041ß".toList, []), ([], "\uE000\uF8FF".toList)] (by decide) (by decide)
  exact ⟨chosen, restored⟩

/-! ### Replacements around a placeholder -/

/-- A replacement that keeps apart what stands on both sides of a placeholder: it cuts a text at
every character that a placeholder is made of, and it never brings in the marker. -/
structure Respects (placeholder : Placeholder) (transform : Text → Text) : Prop where
  empty : transform [] = []
  cut : ∀ (c : Char) (before after : Text), c = placeholder.marker ∨ isRunChar c = true →
    transform (before ++ c :: after) = transform before ++ c :: transform after
  free : ∀ text, placeholder.marker ∉ text → placeholder.marker ∉ transform text

namespace Respects

variable {placeholder : Placeholder}

theorem comp {second first : Text → Text} (respectsSecond : placeholder.Respects second)
    (respectsFirst : placeholder.Respects first) :
    placeholder.Respects fun text => second (first text) where
  empty := by rw [respectsFirst.empty, respectsSecond.empty]
  cut c before after hides := by
    rw [respectsFirst.cut c before after hides, respectsSecond.cut c _ _ hides]
  free text free := respectsSecond.free _ (respectsFirst.free text free)

/-- Replacements one after the other. -/
theorem foldl {Step : Type} (transform : Step → Text → Text) (steps : List Step)
    (each : ∀ step ∈ steps, placeholder.Respects (transform step)) :
    placeholder.Respects fun text => steps.foldl (fun text step => transform step text) text := by
  induction steps with
  | nil =>
    exact ⟨rfl, fun _ _ _ _ => rfl, fun _ free => free⟩
  | cons step steps inductionHypothesis =>
    exact (inductionHypothesis fun other member =>
      each other (List.mem_cons_of_mem step member)).comp
      (each step List.mem_cons_self)

/-- The characters of a placeholder stay, and what follows them is replaced on its own. -/
theorem behind {transform : Text → Text} (respects : placeholder.Respects transform)
    (shield after : Text) (hides : ∀ c ∈ shield, c = placeholder.marker ∨ isRunChar c = true) :
    transform (shield ++ after) = shield ++ transform after := by
  induction shield with
  | nil => rfl
  | cons c shield inductionHypothesis =>
    have first := respects.cut c [] (shield ++ after) (hides c List.mem_cons_self)
    rw [respects.empty, List.nil_append, List.nil_append] at first
    rw [List.cons_append, first,
      inductionHypothesis fun d member => hides d (List.mem_cons_of_mem c member), List.cons_append]

/-- Before and behind a placeholder a text is replaced on its own. -/
theorem around {transform : Text → Text} (respects : placeholder.Respects transform)
    (before hidden after : Text) :
    transform (before ++ placeholder.protect hidden ++ after) =
      transform before ++ placeholder.protect hidden ++ transform after := by
  have hides : ∀ c ∈ (Text.octets hidden).map runChar ++ [placeholder.marker],
      c = placeholder.marker ∨ isRunChar c = true := by
    intro c member
    rcases List.mem_append.mp member with inRun | last
    · obtain ⟨octet, _, rfl⟩ := List.mem_map.mp inRun
      exact Or.inr (isRunChar_runChar octet)
    · exact Or.inl (List.mem_singleton.mp last)
  rw [protect, List.append_assoc, List.cons_append, List.cons_append,
    respects.cut _ _ _ (Or.inl rfl), respects.behind _ after hides]
  simp only [List.append_assoc, List.cons_append]

/-- Replacing a literal text that shares no character with a placeholder. -/
theorem replaceAll (part substitute : Text) (nonempty : part ≠ [])
    (apart : ∀ c ∈ part, c ≠ placeholder.marker ∧ isRunChar c = false)
    (free : placeholder.marker ∉ substitute) :
    placeholder.Respects (Text.replaceAll part substitute) where
  empty := by rw [Text.replaceAll_of_ne_nil _ _ _ nonempty]; rfl
  cut c before after hides := by
    refine Text.replaceAll_append_cut part substitute before after c nonempty fun member => ?_
    rcases hides with same | isRun
    · exact (apart c member).1 same
    · exact Bool.false_ne_true ((apart c member).2.symm.trans isRun)
  free text absent := fun member => (Text.mem_replaceAll nonempty member).elim absent free

/-- Replacing a word. -/
theorem replaceWord (name substitute : Text) (isMarker : isMarkerChar placeholder.marker = true)
    (free : placeholder.marker ∉ substitute) :
    placeholder.Respects (Stencil.replaceWord name substitute) where
  empty := rfl
  cut c before after hides := by
    have noWord : isIdentifierChar c = false := by
      rcases hides with rfl | isRun
      · rw [isMarkerChar_iff] at isMarker
        exact isIdentifierChar_of_private _ (by omega) (by omega)
      · rw [isRunChar_iff] at isRun
        exact isIdentifierChar_of_private _ (by omega) (by omega)
    exact mapWords_append_sign _ before after c noWord
  free text absent := fun member => (mem_replaceWord member).elim absent free

end Respects

end Placeholder

end Stencil
