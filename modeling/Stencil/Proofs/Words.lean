/-
This file defines the replacement of words. A text is cut into words, the longest runs of identifier
characters, and the signs between them; every word is replaced by what a function gives for it, all
words at once, and every sign stays. What replaces a word never grows together with what stands next
to it, because a word has no identifier character beside it. So one replacement after another is a
single replacement again, in which the second one is applied to what the first one puts in place of
each word.
-/
import Stencil.Identifier

namespace Stencil

/-- A name that can stand in a text as a word: not empty, and of identifier characters only. -/
def IsWord (name : Text) : Prop := name ≠ [] ∧ name.all isIdentifierChar = true

instance (name : Text) : Decidable (IsWord name) :=
  inferInstanceAs (Decidable (name ≠ [] ∧ name.all isIdentifierChar = true))

/-- A stretch of a text: a word, or a character that belongs to no word. -/
inductive Stretch where
  | word (name : Text)
  | sign (c : Char)
deriving Repr, DecidableEq

/-- The stretches of a text in order. -/
def stretches : Text → List Stretch
  | [] => []
  | c :: rest =>
    if isIdentifierChar c then
      match stretches rest with
      | .word name :: others => .word (c :: name) :: others
      | others => .word [c] :: others
    else .sign c :: stretches rest

/-- How a text is cut into stretches: a word goes on for as long as identifier characters do, and any
other character stands alone. -/
inductive CutInto : Text → List Stretch → Prop
  | nil : CutInto [] []
  | sign {c : Char} {rest : Text} {parts : List Stretch} (noWord : isIdentifierChar c = false)
      (later : CutInto rest parts) : CutInto (c :: rest) (.sign c :: parts)
  | word {name rest : Text} {parts : List Stretch} (isWord : IsWord name)
      (ends : endsWord rest = true) (later : CutInto rest parts) :
      CutInto (name ++ rest) (.word name :: parts)

/-- What stands in place of a stretch. -/
def Stretch.replaced (substitute : Text → Text) : Stretch → Text
  | .word name => substitute name
  | .sign c => [c]

/-- The text with every word replaced by what `substitute` gives for it. -/
def mapWords (substitute : Text → Text) (text : Text) : Text :=
  (stretches text).flatMap (Stretch.replaced substitute)

/-- The text with every occurrence of one word replaced. -/
def replaceWord (name substitute : Text) : Text → Text :=
  mapWords fun word => if word = name then substitute else word

/-- The text with words replaced one after the other, each in what has become of the text so far. -/
def replaceWords (passes : List (Text × Text)) (text : Text) : Text :=
  passes.foldl (fun text pass => replaceWord pass.1 pass.2 text) text

/-! ### Characters that belong to no word -/

/-- Beyond ASCII, what is not alphanumeric belongs to no word. -/
theorem isIdentifierChar_of_outside {c : Char} (notAscii : ¬ c.toNat < 0x80)
    (outside : inRanges alphanumericRanges c.toNat = false) : isIdentifierChar c = false := by
  have notSign (sign : Char) (small : sign.toNat < 0x80) : (c == sign) = false := by
    rw [beq_eq_false_iff_ne]
    rintro rfl
    exact notAscii small
  rw [isIdentifierChar, isWordChar, isAlphanumeric, if_neg notAscii, outside,
    notSign '$' (by decide), notSign '_' (by decide)]
  rfl

/-- No range of blanks reaches into the alphanumeric characters. -/
theorem blankRanges_apart :
    blankRanges.all (fun blanks => alphanumericRanges.all fun range =>
      decide (range.last < blanks.first) || decide (blanks.last < range.first)) = true := by
  decide +kernel

/-- A blank belongs to no word. -/
theorem isIdentifierChar_of_isBlank {c : Char} (blank : isBlank c = true) :
    isIdentifierChar c = false := by
  by_cases ascii : c.toNat < 0x80
  · have small : ∀ code < 0x80,
        isBlank (Char.ofNat code) = true → isIdentifierChar (Char.ofNat code) = false := by
      decide +kernel
    have here := small c.toNat ascii
    rw [Char.ofNat_toNat] at here
    exact here blank
  · refine isIdentifierChar_of_outside ascii ?_
    obtain ⟨blanks, listed, inside⟩ := List.any_eq_true.mp blank
    rw [inRanges, List.any_eq_false]
    intro range member
    have apart := List.all_eq_true.mp (List.all_eq_true.mp blankRanges_apart blanks listed)
      range member
    simp only [Bool.or_eq_true, decide_eq_true_eq] at apart
    simp only [CodeRange.contains, Bool.and_eq_true, decide_eq_true_eq] at inside ⊢
    omega

/-! ### Cutting a text into stretches -/

theorem IsWord.ne_nil {name : Text} (isWord : IsWord name) : name ≠ [] := isWord.1

theorem IsWord.isIdentifierChar {name : Text} (isWord : IsWord name) {c : Char}
    (member : c ∈ name) : isIdentifierChar c = true :=
  List.all_eq_true.mp isWord.2 c member

theorem endsWord_cons (c : Char) (rest : Text) :
    endsWord (c :: rest) = !isIdentifierChar c := rfl

theorem stretches_sign (c : Char) (rest : Text) (noWord : isIdentifierChar c = false) :
    stretches (c :: rest) = .sign c :: stretches rest := by
  simp [stretches, noWord]

/-- Behind the end of a word no stretch is a word. -/
theorem stretches_ne_word {rest : Text} (ends : endsWord rest = true) (name : Text)
    (others : List Stretch) : stretches rest ≠ .word name :: others := by
  cases rest with
  | nil => simp [stretches]
  | cons c rest =>
    rw [endsWord_cons, Bool.not_eq_true'] at ends
    simp [stretches_sign c rest ends]

theorem stretches_letter (c : Char) (rest : Text) (letter : isIdentifierChar c = true)
    (ends : endsWord rest = true) : stretches (c :: rest) = .word [c] :: stretches rest := by
  rw [stretches, if_pos letter]
  split
  · next name others same => exact absurd same (stretches_ne_word ends name others)
  · rfl

theorem stretches_word (name rest : Text) (isWord : IsWord name) (ends : endsWord rest = true) :
    stretches (name ++ rest) = .word name :: stretches rest := by
  induction name with
  | nil => exact absurd rfl isWord.ne_nil
  | cons c name inductionHypothesis =>
    have letter : isIdentifierChar c = true := isWord.isIdentifierChar List.mem_cons_self
    by_cases last : name = []
    · subst last
      exact stretches_letter c rest letter ends
    · have tail : IsWord name :=
        ⟨last, List.all_eq_true.mpr fun d member =>
          isWord.isIdentifierChar (List.mem_cons_of_mem c member)⟩
      rw [List.cons_append, stretches, if_pos letter, inductionHypothesis tail]

theorem stretches_of_isWord {name : Text} (isWord : IsWord name) :
    stretches name = [.word name] := by
  have alone := stretches_word name [] isWord rfl
  rwa [List.append_nil] at alone

/-- A sign cuts the stretches of a text in two. -/
theorem stretches_append_sign (before after : Text) (c : Char)
    (noWord : isIdentifierChar c = false) :
    stretches (before ++ c :: after) = stretches before ++ .sign c :: stretches after := by
  induction before with
  | nil => exact stretches_sign c after noWord
  | cons b before inductionHypothesis =>
    by_cases letter : isIdentifierChar b = true
    · simp only [List.cons_append, stretches, letter, if_true, inductionHypothesis]
      cases stretches before with
      | nil => rfl
      | cons first others => cases first <;> rfl
    · rw [Bool.not_eq_true] at letter
      rw [List.cons_append, stretches_sign b _ letter, stretches_sign b _ letter,
        inductionHypothesis, List.cons_append]

/-- Where a word ends ahead, nothing grows together. -/
theorem stretches_append (before after : Text) (ends : endsWord after = true) :
    stretches (before ++ after) = stretches before ++ stretches after := by
  cases after with
  | nil => simp [stretches]
  | cons c after =>
    rw [endsWord_cons, Bool.not_eq_true'] at ends
    rw [stretches_append_sign before after c ends, stretches_sign c after ends]

/-- Where a word ended behind, nothing grows together either. -/
theorem stretches_append_of_ended (before after : Text) (ended : endsWord before.reverse = true) :
    stretches (before ++ after) = stretches before ++ stretches after := by
  rcases List.eq_nil_or_concat before with rfl | ⟨start, c, rfl⟩
  · simp [stretches]
  · rw [List.concat_eq_append, List.reverse_append] at ended
    have noWord : isIdentifierChar c = false := by simpa [endsWord] using ended
    rw [List.concat_eq_append, List.append_assoc, List.singleton_append,
      stretches_append_sign start after c noWord, stretches_append_sign start [] c noWord]
    simp [stretches]

/-- The first word of a text that begins with an identifier character, and what follows it. -/
theorem exists_first_word (c : Char) (text : Text) (letter : isIdentifierChar c = true) :
    ∃ name rest, c :: text = name ++ rest ∧ IsWord name ∧ endsWord rest = true := by
  induction text generalizing c with
  | nil => exact ⟨[c], [], rfl, ⟨by simp, by simp [letter]⟩, rfl⟩
  | cons d text inductionHypothesis =>
    by_cases next : isIdentifierChar d = true
    · obtain ⟨name, rest, split, isWord, ends⟩ := inductionHypothesis d next
      refine ⟨c :: name, rest, by rw [split]; rfl, ⟨by simp, ?_⟩, ends⟩
      rw [List.all_cons, letter, isWord.2]
      rfl
    · rw [Bool.not_eq_true] at next
      refine ⟨[c], d :: text, rfl, ⟨by simp, by simp [letter]⟩, ?_⟩
      rw [endsWord_cons, next]
      rfl

/-- To prove something of every text it is enough to prove it of the empty text and to go on from
what follows a sign or a word. -/
theorem wordInduction {motive : Text → Prop} (nil : motive [])
    (sign : ∀ c rest, isIdentifierChar c = false → motive rest → motive (c :: rest))
    (word : ∀ name rest, IsWord name → endsWord rest = true → motive rest → motive (name ++ rest))
    (text : Text) : motive text := by
  -- A word is taken in one step, so that the length of the text is what goes down.
  induction size : text.length using Nat.strongRecOn generalizing text with
  | ind count inductionHypothesis =>
    subst size
    cases text with
    | nil => exact nil
    | cons c text =>
      by_cases letter : isIdentifierChar c = true
      · obtain ⟨name, rest, split, isWord, ends⟩ := exists_first_word c text letter
        rw [split]
        refine word name rest isWord ends (inductionHypothesis rest.length ?_ rest rfl)
        rw [split, List.length_append]
        have positive := List.length_pos_iff.mpr isWord.ne_nil
        omega
      · refine sign c text (Bool.not_eq_true _ ▸ letter) ?_
        exact inductionHypothesis text.length (Nat.lt_succ_self _) text rfl

/-- There is one way to cut a text, which is how its stretches are computed. -/
theorem cutInto_iff (text : Text) (parts : List Stretch) :
    CutInto text parts ↔ stretches text = parts := by
  constructor
  · intro cut
    induction cut with
    | nil => rfl
    | sign noWord _ inductionHypothesis => rw [stretches_sign _ _ noWord, inductionHypothesis]
    | word isWord ends _ inductionHypothesis =>
      rw [stretches_word _ _ isWord ends, inductionHypothesis]
  · rintro rfl
    induction text using wordInduction with
    | nil => exact .nil
    | sign c rest noWord inductionHypothesis =>
      rw [stretches_sign c rest noWord]
      exact .sign noWord inductionHypothesis
    | word name rest isWord ends inductionHypothesis =>
      rw [stretches_word name rest isWord ends]
      exact .word isWord ends inductionHypothesis

/-! ### Replacing words -/

theorem mapWords_nil (substitute : Text → Text) : mapWords substitute [] = [] := rfl

theorem mapWords_sign (substitute : Text → Text) (c : Char) (rest : Text)
    (noWord : isIdentifierChar c = false) :
    mapWords substitute (c :: rest) = c :: mapWords substitute rest := by
  rw [mapWords, stretches_sign c rest noWord]
  rfl

theorem mapWords_word_append (substitute : Text → Text) (name rest : Text) (isWord : IsWord name)
    (ends : endsWord rest = true) :
    mapWords substitute (name ++ rest) = substitute name ++ mapWords substitute rest := by
  rw [mapWords, stretches_word name rest isWord ends]
  rfl

theorem mapWords_word (substitute : Text → Text) (name : Text) (isWord : IsWord name) :
    mapWords substitute name = substitute name := by
  have alone := mapWords_word_append substitute name [] isWord rfl
  rwa [List.append_nil, mapWords_nil, List.append_nil] at alone

theorem mapWords_append_sign (substitute : Text → Text) (before after : Text) (c : Char)
    (noWord : isIdentifierChar c = false) :
    mapWords substitute (before ++ c :: after) =
      mapWords substitute before ++ c :: mapWords substitute after := by
  rw [mapWords, stretches_append_sign before after c noWord, List.flatMap_append]
  rfl

/-- A text is replaced up to the end of a word and from there on. -/
theorem mapWords_append (substitute : Text → Text) (before after : Text)
    (ends : endsWord after = true) :
    mapWords substitute (before ++ after) =
      mapWords substitute before ++ mapWords substitute after := by
  cases after with
  | nil => rw [List.append_nil, mapWords_nil, List.append_nil]
  | cons c after =>
    rw [endsWord_cons, Bool.not_eq_true'] at ends
    rw [mapWords_append_sign substitute before after c ends, mapWords_sign substitute c after ends]

theorem endsWord_mapWords (substitute : Text → Text) (rest : Text) (ends : endsWord rest = true) :
    endsWord (mapWords substitute rest) = true := by
  cases rest with
  | nil => rfl
  | cons c rest =>
    have noWord := ends
    rw [endsWord_cons, Bool.not_eq_true'] at noWord
    rw [mapWords_sign substitute c rest noWord]
    exact ends

/-- Two replacements that agree on the words of a text give the same text. -/
theorem mapWords_congr (first second : Text → Text) (text : Text)
    (agree : ∀ name, .word name ∈ stretches text → first name = second name) :
    mapWords first text = mapWords second text := by
  have each : ∀ stretch ∈ stretches text, stretch.replaced first = stretch.replaced second := by
    intro stretch member
    cases stretch with
    | word name => exact agree name member
    | sign c => rfl
  rw [mapWords, mapWords, List.flatMap_def, List.flatMap_def, List.map_congr_left each]

theorem mapWords_self (text : Text) : mapWords (fun name => name) text = text := by
  induction text using wordInduction with
  | nil => rfl
  | sign c rest noWord inductionHypothesis =>
    rw [mapWords_sign _ c rest noWord, inductionHypothesis]
  | word name rest isWord ends inductionHypothesis =>
    rw [mapWords_word_append _ name rest isWord ends, inductionHypothesis]

/-- Two replacements one after the other are a single one, which puts in place of a word what the
second replacement makes of the first one's substitute. -/
theorem mapWords_mapWords (second first : Text → Text) (text : Text) :
    mapWords second (mapWords first text) =
      mapWords (fun name => mapWords second (first name)) text := by
  induction text using wordInduction with
  | nil => rfl
  | sign c rest noWord inductionHypothesis =>
    rw [mapWords_sign _ c rest noWord, mapWords_sign _ c _ noWord, mapWords_sign _ c rest noWord,
      inductionHypothesis]
  | word name rest isWord ends inductionHypothesis =>
    rw [mapWords_word_append _ name rest isWord ends, mapWords_word_append _ name rest isWord ends,
      mapWords_append _ _ _ (endsWord_mapWords first rest ends), inductionHypothesis]

theorem isWord_of_mem_stretches {text name : Text} (inside : .word name ∈ stretches text) :
    IsWord name := by
  induction text using wordInduction with
  | nil => simp [stretches] at inside
  | sign d rest noWord inductionHypothesis =>
    rw [stretches_sign d rest noWord] at inside
    exact inductionHypothesis (by simpa using inside)
  | word first rest isWord ends inductionHypothesis =>
    rw [stretches_word first rest isWord ends] at inside
    rcases List.mem_cons.mp inside with same | later
    · cases same
      exact isWord
    · exact inductionHypothesis later

/-- Replacing a word brings in no characters but those of the substitute. -/
theorem mem_replaceWord {name substitute text : Text} {c : Char}
    (member : c ∈ replaceWord name substitute text) : c ∈ text ∨ c ∈ substitute := by
  induction text using wordInduction with
  | nil => simp [replaceWord, mapWords_nil] at member
  | sign d rest noWord inductionHypothesis =>
    rw [replaceWord, mapWords_sign _ d rest noWord] at member
    rcases List.mem_cons.mp member with same | later
    · exact Or.inl (same ▸ List.mem_cons_self)
    · exact (inductionHypothesis later).imp_left (List.mem_cons_of_mem d)
  | word first rest isWord ends inductionHypothesis =>
    rw [replaceWord, mapWords_word_append _ first rest isWord ends] at member
    rcases List.mem_append.mp member with here | later
    · split at here
      · exact Or.inr here
      · exact Or.inl (List.mem_append_left rest here)
    · exact (inductionHypothesis later).imp_left (List.mem_append_right first)

end Stencil
