/-
This file proves which words a text has once a directive has been taken out of it. Words are not
blank, so tidying keeps them all. The blanks behind a directive go even where none stand before it,
though: if a word ends right there and another one comes behind those blanks, the two become one.
Everywhere else words stay as they are.
-/
import Stencil.Proofs.Leftovers
import Stencil.Proofs.Stripping

namespace Stencil

/-! ### Words -/

/-- The word that a stretch is, if it is one. -/
def Stretch.word? : Stretch → Option Text
  | .word name => some name
  | .sign _ => none

theorem words_eq (text : Text) : words text = (stretches text).filterMap Stretch.word? := by
  induction text using wordInduction with
  | nil => rfl
  | sign c rest noWord inductionHypothesis =>
    rw [words, identifierRuns_sign c rest noWord, ← words, inductionHypothesis,
      stretches_sign c rest noWord]
    rfl
  | word name rest isWord ends inductionHypothesis =>
    rw [words, identifierRuns_word name rest isWord ends, List.map_cons, ← words,
      inductionHypothesis, stretches_word name rest isWord ends]
    rfl

/-- Where a word ends, on one side or the other, nothing grows together. -/
theorem words_append {before after : Text}
    (ends : endsWord before.reverse = true ∨ endsWord after = true) :
    words (before ++ after) = words before ++ words after := by
  simp only [words_eq, ← List.filterMap_append]
  rcases ends with behind | ahead
  · rw [stretches_append_of_ended before after behind]
  · rw [stretches_append before after ahead]

theorem words_of_isWord {name : Text} (isWord : IsWord name) : words name = [name] := by
  rw [words_eq, stretches_of_isWord isWord]
  rfl

theorem endsWord_of_blank {blanks : Text} (blank : ∀ c ∈ blanks, isBlank c = true) :
    endsWord blanks = true := by
  cases blanks with
  | nil => rfl
  | cons c blanks =>
    rw [endsWord_cons, isIdentifierChar_of_isBlank (blank c List.mem_cons_self)]
    rfl

theorem words_of_blank {blanks : Text} (blank : ∀ c ∈ blanks, isBlank c = true) :
    words blanks = [] := by
  induction blanks with
  | nil => rfl
  | cons c blanks inductionHypothesis =>
    obtain ⟨here, later⟩ := List.forall_mem_cons.mp blank
    rw [words, identifierRuns_sign c blanks (isIdentifierChar_of_isBlank here)]
    exact inductionHypothesis later

theorem words_append_blank {blanks : Text} (text : Text)
    (blank : ∀ c ∈ blanks, isBlank c = true) : words (text ++ blanks) = words text := by
  rw [words_append (Or.inr (endsWord_of_blank blank)), words_of_blank blank, List.append_nil]

theorem words_dropBlanks (text : Text) : words text.dropBlanks = words text := by
  have blank : ∀ c ∈ text.takeWhile isBlank, isBlank c = true :=
    fun c member => List.all_eq_true.mp List.all_takeWhile c member
  have whole : text = text.takeWhile isBlank ++ text.dropBlanks :=
    List.takeWhile_append_dropWhile.symm
  have ended : endsWord (text.takeWhile isBlank).reverse = true :=
    endsWord_of_blank fun c member => blank c (List.mem_reverse.mp member)
  conv_rhs => rw [whole, words_append (Or.inl ended), words_of_blank blank, List.nil_append]

theorem exists_last_word {text : Text} (ends : endsWord text.reverse = false) :
    ∃ front name, text = front ++ name ∧ IsWord name ∧ endsWord front.reverse = true := by
  cases reversed : text.reverse with
  | nil =>
    rw [reversed] at ends
    cases ends
  | cons c rest =>
    rw [reversed, endsWord_cons, Bool.not_eq_false'] at ends
    obtain ⟨name, front, split, isWord, ended⟩ := exists_first_word c rest ends
    refine ⟨front.reverse, name.reverse, ?_, ⟨?_, ?_⟩, by rwa [List.reverse_reverse]⟩
    · rw [← List.reverse_append, ← split, ← reversed, List.reverse_reverse]
    · exact fun none => isWord.ne_nil (List.reverse_eq_nil_iff.mp none)
    · rw [List.all_reverse]
      exact isWord.2

namespace Directive

theorem words_tidyLead (lead : Text) : words (tidyLead lead) = words lead := by
  obtain ⟨filler, tidied, fillerBlank⟩ := exists_tidyLead lead
  obtain ⟨blanks, trimmed, blank⟩ := Text.exists_blanks_of_trimRight lead
  have whole := congrArg words trimmed
  rw [words_append_blank _ blank] at whole
  rw [tidied, words_append_blank _ fillerBlank, whole]

theorem endsWord_reverse_tidyLead {lead : Text} (ends : endsWord lead.reverse = true) :
    endsWord (tidyLead lead).reverse = true := by
  rw [tidyLead]
  split
  · exact ends
  · have lineFeed : isIdentifierChar '\n' = false := isIdentifierChar_of_isBlank (by decide)
    simp [endsWord, lineFeed]

/-- Nothing is tidied right behind a word. -/
theorem tidyLead_of_word {lead : Text} (ends : endsWord lead.reverse = false) :
    tidyLead lead = lead := by
  have untrimmed : lead.trimRight = lead := by
    cases reversed : lead.reverse with
    | nil =>
      rw [reversed] at ends
      cases ends
    | cons c rest =>
      rw [reversed, endsWord_cons, Bool.not_eq_false'] at ends
      have inked : isBlank c = false := by
        rw [← Bool.not_eq_true]
        intro blank
        rw [isIdentifierChar_of_isBlank blank] at ends
        cases ends
      rw [Text.trimRight, reversed, List.dropWhile_cons_of_neg (by simp [inked]), ← reversed,
        List.reverse_reverse]
  rw [tidyLead, untrimmed, if_pos (by omega)]

section

variable {sigil name text : Text}

/-- Where a word ends before the directive, or none begins behind it and its blanks, all words stay
as they are. -/
theorem Removal.words_result (removal : Removal sigil name text)
    (apart : endsWord removal.before.reverse = true ∨
      endsWord removal.after.dropBlanks = true) :
    words removal.result = words removal.before ++ words removal.after := by
  rw [result, words_append (apart.imp_left endsWord_reverse_tidyLead), words_tidyLead,
    words_dropBlanks]

/-- Otherwise the last word before the directive and the first one behind it become one. -/
theorem Removal.words_result_of_touching (removal : Removal sigil name text)
    (ends : endsWord removal.before.reverse = false)
    (begins : endsWord removal.after.dropBlanks = false) :
    ∃ front last first back, words removal.before = front ++ [last] ∧
      words removal.after = first :: back ∧
      words removal.result = front ++ (last ++ first) :: back := by
  obtain ⟨front, last, split, isLast, ended⟩ := exists_last_word ends
  obtain ⟨first, back, ahead, isFirst, later⟩ : ∃ first back,
      removal.after.dropBlanks = first ++ back ∧ IsWord first ∧ endsWord back = true := by
    cases ahead : removal.after.dropBlanks with
    | nil =>
      rw [ahead] at begins
      cases begins
    | cons c rest =>
      rw [ahead, endsWord_cons, Bool.not_eq_false'] at begins
      exact exists_first_word c rest begins
  have isBoth : IsWord (last ++ first) := by
    refine ⟨fun none => isLast.ne_nil (List.append_eq_nil_iff.mp none).1, ?_⟩
    rw [List.all_append, isLast.2, isFirst.2]
    rfl
  refine ⟨words front, last, first, words back, ?_, ?_, ?_⟩
  · rw [split, words_append (Or.inl ended), words_of_isWord isLast]
  · rw [← words_dropBlanks, ahead, words_append (Or.inr later), words_of_isWord isFirst]
    rfl
  · rw [result, tidyLead_of_word ends, split, ahead, List.append_assoc, ← List.append_assoc last,
      words_append (Or.inl ended), words_append (Or.inr later), words_of_isWord isBoth]
    rfl

/-- The span at a place that a search has found. -/
theorem exists_removal_of_find? {place : DirectivePlace} {stop : Nat}
    (found : find? sigil name text = some place)
    (closed : skipBalanced text .round (text.length - place.arguments.length : Nat) = .ok stop) :
    ∃ removal : Removal sigil name text, removal.site.start = place.lead.length ∧
      removal.stop = stop := by
  obtain ⟨site, rfl, first⟩ := exists_first_occurrence found
  rw [site.length_sub_arguments] at closed
  exact ⟨⟨site, first, stop, closed⟩, rfl, rfl⟩

end

/-- A pass that succeeds takes out one span. The words of the text that it leaves are those before
the span and those behind it, unless an identifier character stands right before the span and is the
first character behind it that is not blank: then the last word before the span and the first one
behind it have become one. -/
theorem strip_keeps_words_apart (sigil name text result : Text)
    (stripped : strip sigil name text = .ok result) :
    Nonempty (Removal sigil name text) ∧
    ∀ removal : Removal sigil name text, removal.result = result ∧
      (endsWord removal.before.reverse = true ∨ endsWord removal.after.dropBlanks = true →
        words result = words removal.before ++ words removal.after) ∧
      (endsWord removal.before.reverse = false → endsWord removal.after.dropBlanks = false →
        ∃ front last first back, words removal.before = front ++ [last] ∧
          words removal.after = first :: back ∧
          words result = front ++ (last ++ first) :: back) := by
  obtain ⟨some, -⟩ := strip_eq_ok_iff.mp stripped
  refine ⟨⟨some⟩, fun removal => ?_⟩
  obtain rfl : removal.result = result :=
    Except.ok.inj ((strip_removal removal).symm.trans stripped)
  exact ⟨rfl, removal.words_result, removal.words_result_of_touching⟩

/-- A modifier and a keyword with a directive between them and a single blank on either side. -/
def spacedClass : Text := "public @Template(x) class K<T>".toList

theorem strip_keeps_words_apart_spaced :
    strip ['@'] "Template".toList spacedClass = .ok "public class K<T>".toList ∧
      ∃ removal : Removal ['@'] "Template".toList spacedClass,
        removal.before = "public ".toList ∧ removal.after = " class K<T>".toList ∧
        words "public class K<T>".toList = words removal.before ++ words removal.after := by
  have stripped : strip ['@'] "Template".toList spacedClass = .ok "public class K<T>".toList := by
    decide +kernel
  have found : find? ['@'] "Template".toList spacedClass =
      some ⟨"public ".toList, "(x) class K<T>".toList⟩ := by decide +kernel
  have closed : skipBalanced spacedClass .round
      (spacedClass.length - "(x) class K<T>".toList.length : Nat) = .ok (19 : Nat) := by
    decide +kernel
  obtain ⟨removal, start, stop⟩ := exists_removal_of_find? found closed
  have before : removal.before = "public ".toList := by
    rw [Removal.before, start]
    decide +kernel
  have after : removal.after = " class K<T>".toList := by
    rw [Removal.after, stop]
    decide +kernel
  obtain ⟨-, apart⟩ := strip_keeps_words_apart _ _ _ _ stripped
  refine ⟨stripped, removal, before, after, (apart removal).2.1 (Or.inl ?_)⟩
  rw [before]
  decide +kernel

/-- The same without a blank before the directive. -/
def touchingClass : Text := "public@Template(x) class K<T>".toList

/-- The modifier and the keyword have become one word. -/
theorem strip_joins_words :
    ∃ removal : Removal ['@'] "Template".toList touchingClass,
      removal.before = "public".toList ∧ removal.after = " class K<T>".toList ∧
      strip ['@'] "Template".toList touchingClass = .ok "publicclass K<T>".toList ∧
      words "publicclass K<T>".toList ≠ words removal.before ++ words removal.after := by
  have found : find? ['@'] "Template".toList touchingClass =
      some ⟨"public".toList, "(x) class K<T>".toList⟩ := by decide +kernel
  have closed : skipBalanced touchingClass .round
      (touchingClass.length - "(x) class K<T>".toList.length : Nat) = .ok (18 : Nat) := by
    decide +kernel
  obtain ⟨removal, start, stop⟩ := exists_removal_of_find? found closed
  have before : removal.before = "public".toList := by
    rw [Removal.before, start]
    decide +kernel
  have after : removal.after = " class K<T>".toList := by
    rw [Removal.after, stop]
    decide +kernel
  refine ⟨removal, before, after, by decide +kernel, ?_⟩
  rw [before, after]
  decide +kernel

end Directive

end Stencil
