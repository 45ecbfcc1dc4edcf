/-
This file proves that the octets of a text spell the text: reading what has been written gives it
back. The octets of one character are a full form, that is, a first octet that announces as many
octets as follow, each of them in the range that strict reading asks for; and a full form at the
front of octets is read as its character, whatever comes behind it.
-/
import Stencil.Text.Utf8

namespace Stencil

/-- Octets that are the full form of one character. -/
structure IsForm (c : Char) (first : UInt8) (form : List UInt8) : Prop where
  size : octetForm first = some (form.length + 1)
  second : form.head?.all (isSecond first) = true
  others : form.all isContinuation = true
  spells : formChar first form = c

theorem toNat_toUInt8_of_lt (code : Nat) (small : code < 256) : code.toUInt8.toNat = code :=
  UInt8.toNat_ofNat_of_lt small

/-- The code of a character is no surrogate and not too large. -/
theorem char_toNat_range (c : Char) :
    c.toNat < 0xD800 ∨ (0xDFFF < c.toNat ∧ c.toNat < 0x110000) := by
  simpa [UInt32.isValidChar, Nat.isValidChar] using c.valid

theorem isContinuation_iff (octet : UInt8) :
    isContinuation octet = true ↔ 0x80 ≤ octet.toNat ∧ octet.toNat < 0xC0 := by
  simp [isContinuation]

theorem isSecond_iff (first second : UInt8) :
    isSecond first second = true ↔
      (0x80 ≤ second.toNat ∧ second.toNat < 0xC0) ∧
      (first.toNat = 0xE0 → 0xA0 ≤ second.toNat) ∧ (first.toNat = 0xED → second.toNat < 0xA0) ∧
      (first.toNat = 0xF0 → 0x90 ≤ second.toNat) ∧ (first.toNat = 0xF4 → second.toNat < 0x90) := by
  simp only [isSecond, Bool.and_eq_true, isContinuation_iff, Bool.or_eq_true, bne_iff_ne, ne_eq,
    decide_eq_true_eq, ← Decidable.imp_iff_not_or, and_assoc]

theorem isForm_one (c : Char) (small : c.toNat < 0x80) : IsForm c c.toNat.toUInt8 [] := by
  have first := toNat_toUInt8_of_lt c.toNat (by omega)
  constructor
  · simp [octetForm, first, small]
  · rfl
  · rfl
  · simp [formChar, first]

theorem isForm_two (c : Char) (large : 0x80 ≤ c.toNat) (small : c.toNat < 0x800) :
    IsForm c (0xC0 + c.toNat / 0x40).toUInt8 [(0x80 + c.toNat % 0x40).toUInt8] := by
  have first := toNat_toUInt8_of_lt (0xC0 + c.toNat / 0x40) (by omega)
  have second := toNat_toUInt8_of_lt (0x80 + c.toNat % 0x40) (by omega)
  constructor
  · simp only [octetForm, first]
    rw [if_neg (by omega), if_neg (by omega), if_pos (by omega)]
    rfl
  · rw [List.head?_cons, Option.all_some, isSecond_iff, first, second]
    omega
  · simp only [List.all_cons, List.all_nil, Bool.and_true, isContinuation_iff, second]
    omega
  · have code : (0xC0 + c.toNat / 0x40 - 0xC0) * 0x40 + (0x80 + c.toNat % 0x40 - 0x80) =
        c.toNat := by omega
    simp only [formChar, List.length_cons, List.length_nil, List.foldl_cons, List.foldl_nil, first,
      second]
    rw [code, Char.ofNat_toNat]

theorem isForm_three (c : Char) (large : 0x800 ≤ c.toNat) (small : c.toNat < 0x10000) :
    IsForm c (0xE0 + c.toNat / 0x1000).toUInt8
      [(0x80 + c.toNat / 0x40 % 0x40).toUInt8, (0x80 + c.toNat % 0x40).toUInt8] := by
  have range := char_toNat_range c
  have first := toNat_toUInt8_of_lt (0xE0 + c.toNat / 0x1000) (by omega)
  have second := toNat_toUInt8_of_lt (0x80 + c.toNat / 0x40 % 0x40) (by omega)
  have third := toNat_toUInt8_of_lt (0x80 + c.toNat % 0x40) (by omega)
  constructor
  · simp only [octetForm, first]
    rw [if_neg (by omega), if_neg (by omega), if_neg (by omega), if_pos (by omega)]
    rfl
  · rw [List.head?_cons, Option.all_some, isSecond_iff, first, second]
    omega
  · simp only [List.all_cons, List.all_nil, Bool.and_true, Bool.and_eq_true,
      isContinuation_iff, second, third]
    omega
  · have code : ((0xE0 + c.toNat / 0x1000 - 0xE0) * 0x40 +
        (0x80 + c.toNat / 0x40 % 0x40 - 0x80)) * 0x40 + (0x80 + c.toNat % 0x40 - 0x80) =
        c.toNat := by omega
    simp only [formChar, List.length_cons, List.length_nil, List.foldl_cons, List.foldl_nil, first,
      second, third]
    rw [code, Char.ofNat_toNat]

theorem isForm_four (c : Char) (large : 0x10000 ≤ c.toNat) :
    IsForm c (0xF0 + c.toNat / 0x40000).toUInt8
      [(0x80 + c.toNat / 0x1000 % 0x40).toUInt8, (0x80 + c.toNat / 0x40 % 0x40).toUInt8,
        (0x80 + c.toNat % 0x40).toUInt8] := by
  have range := char_toNat_range c
  have first := toNat_toUInt8_of_lt (0xF0 + c.toNat / 0x40000) (by omega)
  have second := toNat_toUInt8_of_lt (0x80 + c.toNat / 0x1000 % 0x40) (by omega)
  have third := toNat_toUInt8_of_lt (0x80 + c.toNat / 0x40 % 0x40) (by omega)
  have fourth := toNat_toUInt8_of_lt (0x80 + c.toNat % 0x40) (by omega)
  constructor
  · simp only [octetForm, first]
    rw [if_neg (by omega), if_neg (by omega), if_neg (by omega), if_neg (by omega),
      if_pos (by omega)]
    rfl
  · rw [List.head?_cons, Option.all_some, isSecond_iff, first, second]
    omega
  · simp only [List.all_cons, List.all_nil, Bool.and_true, Bool.and_eq_true,
      isContinuation_iff, second, third, fourth]
    omega
  · have code : (((0xF0 + c.toNat / 0x40000 - 0xF0) * 0x40 +
        (0x80 + c.toNat / 0x1000 % 0x40 - 0x80)) * 0x40 +
        (0x80 + c.toNat / 0x40 % 0x40 - 0x80)) * 0x40 + (0x80 + c.toNat % 0x40 - 0x80) =
        c.toNat := by omega
    simp only [formChar, List.length_cons, List.length_nil, List.foldl_cons, List.foldl_nil, first,
      second, third, fourth]
    rw [code, Char.ofNat_toNat]

/-- The octets of a character are a full form of it. -/
theorem charOctets_isForm (c : Char) :
    ∃ first form, charOctets c = first :: form ∧ IsForm c first form := by
  simp only [charOctets]
  split
  · next small => exact ⟨_, _, rfl, isForm_one c small⟩
  · next large =>
    split
    · next small => exact ⟨_, _, rfl, isForm_two c (by omega) small⟩
    · next larger =>
      split
      · next small => exact ⟨_, _, rfl, isForm_three c (by omega) small⟩
      · next largest => exact ⟨_, _, rfl, isForm_four c (by omega)⟩

/-- A full form at the front is read as its character. -/
theorem decodeFrom_form (fuel position : Nat) (c : Char) (first : UInt8) (form rest : List UInt8)
    (isForm : IsForm c first form) :
    decodeFrom (fuel + 1) position (first :: form ++ rest) =
      (decodeFrom fuel (position + (form.length + 1)) rest).map (c :: ·) := by
  have taken : (form ++ rest).take (form.length + 1 - 1) = form := by simp
  have left : (form ++ rest).drop (form.length + 1 - 1) = rest := by simp
  have full : (decide (form.length = form.length + 1 - 1) && form.head?.all (isSecond first) &&
      form.all isContinuation) = true := by
    rw [isForm.second, isForm.others]
    simp
  simp only [List.cons_append, decodeFrom, isForm.size, taken, left, full, if_true, isForm.spells]
  cases decodeFrom fuel (position + (form.length + 1)) rest <;> rfl

theorem decodeFrom_octets (fuel position : Nat) (text : Text)
    (enough : (Text.octets text).length ≤ fuel) :
    decodeFrom fuel position (Text.octets text) = .ok text := by
  induction text generalizing fuel position with
  | nil =>
    cases fuel <;> rfl
  | cons c text inductionHypothesis =>
    obtain ⟨first, form, octets, isForm⟩ := charOctets_isForm c
    have split : Text.octets (c :: text) = first :: form ++ Text.octets text := by
      rw [Text.octets, List.flatMap_cons, octets]
      rfl
    rw [split] at enough ⊢
    cases fuel with
    | zero => simp at enough
    | succ fuel =>
      have fewer : (Text.octets text).length ≤ fuel := by
        simp only [List.cons_append, List.length_cons, List.length_append] at enough
        omega
      rw [decodeFrom_form fuel position c first form (Text.octets text) isForm,
        inductionHypothesis fuel _ fewer]
      rfl

/-- Reading the octets of a text gives the text. -/
theorem decode_octets (text : Text) : decode (Text.octets text) = .ok text :=
  decodeFrom_octets (Text.octets text).length 0 text (Nat.le_refl _)

end Stencil
