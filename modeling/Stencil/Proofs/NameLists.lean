/-
This file proves that a list of names is nothing but its words. A value is split at its blanks, and
what is read of it, or refused, depends on the words in between and their order: every word must be
a dotted name, perhaps with a question mark, and the first one that is not is named in the refusal.

The reader goes over the value stretch by stretch. Each of its stretches holds one word, the first
one of what is left, so that the items it finds are the words one by one.
-/
import Stencil.Proofs.NameSearch

namespace Stencil

/-! ### Words between blanks -/

namespace Text

/-- The words of a text: what stands between its blanks. -/
def tokens (text : Text) : List Text :=
  (splitAtAll isBlank text).filter fun piece => !piece.isEmpty

/-- No word reaches over a blank. -/
theorem tokens_append_blank {c : Char} (blank : isBlank c = true) (first rest : Text) :
    tokens (first ++ c :: rest) = tokens first ++ tokens rest := by
  rw [tokens, splitAtAll_append_cut blank, List.filter_append]
  rfl

theorem tokens_of_ink {word : Text} (nonempty : word ≠ []) (ink : ∀ c ∈ word, isBlank c = false) :
    tokens word = [word] := by
  rw [tokens, splitAtAll_of_free ink]
  simp [nonempty]

theorem tokens_append_of_blank {blanks : Text} (blank : ∀ c ∈ blanks, isBlank c = true)
    (rest : Text) : tokens (blanks ++ rest) = tokens rest := by
  induction blanks with
  | nil => rfl
  | cons c blanks inductionHypothesis =>
    obtain ⟨here, later⟩ := List.forall_mem_cons.mp blank
    exact (tokens_append_blank here [] (blanks ++ rest)).trans (inductionHypothesis later)

theorem tokens_of_blank {blanks : Text} (blank : ∀ c ∈ blanks, isBlank c = true) :
    tokens blanks = [] := by
  have all := tokens_append_of_blank blank []
  rwa [List.append_nil] at all

/-- A word ends where blanks begin. -/
theorem tokens_word {word rest : Text} (nonempty : word ≠ []) (ink : ∀ c ∈ word, isBlank c = false)
    (ends : ∀ c, rest.head? = some c → isBlank c = true) :
    tokens (word ++ rest) = word :: tokens rest := by
  cases rest with
  | nil => rw [List.append_nil, tokens_of_ink nonempty ink]; rfl
  | cons c rest =>
    have behind := tokens_append_blank (ends c rfl) [] rest
    rw [tokens_append_blank (ends c rfl), tokens_of_ink nonempty ink]
    exact congrArg (word :: ·) behind.symm

/-- The first word of a text. -/
structure FirstWord (text lead word rest : Text) : Prop where
  whole : text = lead ++ (word ++ rest)
  blank : ∀ c ∈ lead, isBlank c = true
  nonempty : word ≠ []
  ink : ∀ c ∈ word, isBlank c = false
  ends : ∀ c, rest.head? = some c → isBlank c = true

theorem FirstWord.tokens_eq {text lead word rest : Text} (first : FirstWord text lead word rest) :
    text.tokens = word :: rest.tokens := by
  rw [first.whole, tokens_append_of_blank first.blank,
    tokens_word first.nonempty first.ink first.ends]

/-- A text with ink has a first word, and it is the longest run without blanks behind the blanks
that the text begins with. -/
theorem firstWord {text : Text} (inked : text.dropBlanks ≠ []) :
    FirstWord text (text.takeWhile isBlank) (text.dropBlanks.takeWhile isInk)
      (text.dropBlanks.dropWhile isInk) where
  whole := by rw [List.takeWhile_append_dropWhile, takeWhile_append_dropBlanks]
  blank := List.all_eq_true.mp List.all_takeWhile
  nonempty := by
    obtain ⟨c, rest, same⟩ := List.exists_cons_of_ne_nil inked
    have ink : isInk c = true := by rw [isInk, isBlank_of_dropBlanks same]; rfl
    rw [same, List.takeWhile_cons_of_pos ink]
    exact List.cons_ne_nil _ _
  ink c member := by
    have ink : isInk c = true := List.all_eq_true.mp List.all_takeWhile c member
    simpa [isInk] using ink
  ends c first := by
    have stops := List.head?_dropWhile_not isInk text.dropBlanks
    rw [first] at stops
    simpa [isInk] using stops

theorem tokens_eq_nil_iff {text : Text} : text.tokens = [] ↔ text.isAllBlank = true := by
  constructor
  · intro none
    by_cases inked : text.dropBlanks = []
    · exact dropBlanks_eq_nil_iff.mp inked
    · cases (firstWord inked).tokens_eq.symm.trans none
  · exact fun blank => tokens_of_blank (List.all_eq_true.mp blank)

/-- A word and blanks around it are the text if and only if this is its only word. -/
theorem tokens_eq_singleton_iff {text word : Text} (nonempty : word ≠ [])
    (ink : ∀ c ∈ word, isBlank c = false) :
    text.tokens = [word] ↔ ∃ after, text.dropBlanks = word ++ after ∧ after.isAllBlank = true := by
  constructor
  · intro only
    have inked : text.dropBlanks ≠ [] := by
      intro blank
      cases (tokens_eq_nil_iff.mpr (dropBlanks_eq_nil_iff.mp blank)).symm.trans only
    obtain ⟨same, none⟩ := List.cons.inj ((firstWord inked).tokens_eq.symm.trans only)
    refine ⟨_, ?_, tokens_eq_nil_iff.mp none⟩
    rw [← same, List.takeWhile_append_dropWhile]
  · rintro ⟨after, split, blank⟩
    have blankAfter := List.all_eq_true.mp blank
    have ends (c : Char) (first : after.head? = some c) : isBlank c = true :=
      blankAfter c (List.mem_of_mem_head? first)
    obtain ⟨lead, whole, blankBefore⟩ := text.exists_dropBlanks
    rw [split] at whole
    have first : FirstWord text lead word after := ⟨whole, blankBefore, nonempty, ink, ends⟩
    rw [first.tokens_eq, tokens_of_blank blankAfter]

end Text

/-! ### What a word names -/

/-- What a word names, and whether it is best effort: a dotted name, perhaps with a question
mark. -/
inductive NamesWord : Text → Text × Bool → Prop
  | plain {name : Text} (dotted : IsDotted name) : NamesWord name (name, false)
  | marked {name : Text} (dotted : IsDotted name) : NamesWord (name ++ ['?']) (name, true)

namespace NameItem

theorem ofWord_eq_name_iff {token name : Text} {bestEffort : Bool} :
    ofWord token = .name name bestEffort ↔ NamesWord token (name, bestEffort) := by
  constructor
  · intro same
    rw [ofWord] at same
    split at same
    · next dotted =>
      cases same
      exact .plain (isDottedName_iff.mp dotted)
    · split at same
      · next marked =>
        rw [Bool.and_eq_true, beq_iff_eq] at marked
        obtain ⟨front, rfl⟩ := List.getLast?_eq_some_iff.mp marked.1
        rw [List.dropLast_concat] at marked same
        cases same
        exact .marked (isDottedName_iff.mp marked.2)
      · cases same
  · intro names
    cases names with
    | plain dotted => rw [ofWord, if_pos (isDottedName_iff.mpr dotted)]
    | marked dotted =>
      have unmarked : ¬ isDottedName (name ++ ['?']) = true :=
        fun whole => not_isDotted_mark name (isDottedName_iff.mp whole)
      rw [ofWord, if_neg unmarked]
      simp [isDottedName_iff.mpr dotted]

theorem ofWord_name_or_invalid (token : Text) :
    (∃ name bestEffort, ofWord token = .name name bestEffort) ∨ ofWord token = .invalid token := by
  rw [ofWord]
  split
  · exact Or.inl ⟨_, _, rfl⟩
  · split
    · exact Or.inl ⟨_, _, rfl⟩
    · exact Or.inr rfl

end NameItem

/-! ### Word by word -/

/-- A word is admitted as a name, if need be as a best-effort one. -/
def Admits (bestEffortAllowed : Bool) (token : Text) (named : Text × Bool) : Prop :=
  NamesWord token named ∧ (named.2 = true → bestEffortAllowed = true)

/-- What the words of a list are read as: an error that names nothing if there are none, no names if
the only one asks for nothing, else the names one by one or the first word that is not admitted. -/
inductive ReadsNames (bestEffortAllowed : Bool) :
    List Text → Except Text (List (Text × Bool)) → Prop
  | blank : ReadsNames bestEffortAllowed [] (.error [])
  | nothing : ReadsNames bestEffortAllowed [noneWord] (.ok [])
  | names {tokens : List Text} {names : List (Text × Bool)} (some : tokens ≠ [])
      (other : tokens ≠ [noneWord])
      (admits : List.Forall₂ (Admits bestEffortAllowed) tokens names) :
      ReadsNames bestEffortAllowed tokens (.ok names)
  | refused {front behind : List Text} {token : Text}
      (admitted : ∀ earlier ∈ front, ∃ named, Admits bestEffortAllowed earlier named)
      (unadmitted : ∀ named, ¬ Admits bestEffortAllowed token named) :
      ReadsNames bestEffortAllowed (front ++ token :: behind) (.error token)

namespace NameItem

variable {bestEffortAllowed : Bool}

/-- The items from an offset on are the words, one by one. -/
theorem items_itemsFrom (fuel offset : Nat) (text : Text) (enough : text.length < fuel) :
    (itemsFrom next fuel offset text).map Spanned.item = text.tokens.map ofWord := by
  induction fuel generalizing offset text with
  | zero => exact absurd enough (Nat.not_lt_zero _)
  | succ fuel inductionHypothesis =>
    by_cases inked : text.dropBlanks = []
    · rw [Text.tokens_eq_nil_iff.mpr (Text.dropBlanks_eq_nil_iff.mp inked),
        itemsFrom_of_blank _ _ _ inked]
      rfl
    · have first := Text.firstWord inked
      rw [itemsFrom_of_ink _ _ _ inked, List.map_cons, next]
      generalize text.dropBlanks.takeWhile isInk = word,
        text.dropBlanks.dropWhile isInk = rest at first ⊢
      obtain ⟨blanks, split, blank⟩ := Text.exists_dropBlanks rest
      have shorter : (Text.dropBlanks rest).length < fuel := by
        have lengths := congrArg List.length first.whole
        have positive := List.length_pos_of_ne_nil first.nonempty
        have fewer := (List.dropWhile_sublist isBlank (l := rest)).length_le
        simp only [List.length_append] at lengths
        rw [Text.dropBlanks]
        omega
      -- The reader takes the blanks behind the word along, which hold no words.
      have behind : Text.tokens rest = Text.tokens (Text.dropBlanks rest) := by
        conv => lhs; rw [split, Text.tokens_append_of_blank blank]
      rw [first.tokens_eq, behind, List.map_cons, inductionHypothesis _ _ shorter]

theorem collect_cons_of_admits {token : Text} {named : Text × Bool} {span : Spanned NameItem}
    (isWord : span.item = ofWord token) (admits : Admits bestEffortAllowed token named)
    (items : List (Spanned NameItem)) :
    collect bestEffortAllowed (span :: items) =
      (collect bestEffortAllowed items).map (named :: ·) := by
  obtain ⟨start, stop, item⟩ := span
  obtain ⟨name, bestEffort⟩ := named
  have isName : item = .name name bestEffort := isWord.trans (ofWord_eq_name_iff.mpr admits.1)
  have allowed : ¬ (bestEffort && !bestEffortAllowed) = true := by
    have implies := admits.2
    cases bestEffort
    · exact Bool.false_ne_true
    · rw [implies rfl]
      exact Bool.false_ne_true
  rw [isName, collect, if_neg allowed]
  cases collect bestEffortAllowed items <;> rfl

theorem collect_cons_of_unadmitted {token : Text} {span : Spanned NameItem}
    (isWord : span.item = ofWord token)
    (unadmitted : ∀ named, ¬ Admits bestEffortAllowed token named)
    (items : List (Spanned NameItem)) :
    collect bestEffortAllowed (span :: items) = .error token := by
  obtain ⟨start, stop, item⟩ := span
  rcases ofWord_name_or_invalid token with ⟨name, bestEffort, isName⟩ | invalid
  · have names := ofWord_eq_name_iff.mp isName
    have refused : (bestEffort && !bestEffortAllowed) = true := by
      by_contra allowed
      refine unadmitted (name, bestEffort) ⟨names, fun marked => ?_⟩
      simpa [show bestEffort = true from marked] using allowed
    rw [show item = .name name bestEffort from isWord.trans isName, collect, if_pos refused]
    cases names with
    | plain _ => cases refused
    | marked _ => rfl
  · rw [show item = .invalid token from isWord.trans invalid, collect]

/-- The names of words, all of which are admitted. -/
theorem collect_of_admits {items : List (Spanned NameItem)} {tokens : List Text}
    {names : List (Text × Bool)} (are : items.map Spanned.item = tokens.map ofWord)
    (admits : List.Forall₂ (Admits bestEffortAllowed) tokens names) :
    collect bestEffortAllowed items = .ok names := by
  induction admits generalizing items with
  | nil => rw [List.map_eq_nil_iff.mp are]; rfl
  | cons first _ inductionHypothesis =>
    obtain ⟨span, items, rfl, isWord, others⟩ := List.map_eq_cons_iff.mp are
    rw [collect_cons_of_admits isWord first, inductionHypothesis others]
    rfl

/-- The first word that is not admitted. -/
theorem collect_of_unadmitted {items : List (Spanned NameItem)} {front behind : List Text}
    {token : Text} (are : items.map Spanned.item = (front ++ token :: behind).map ofWord)
    (admitted : ∀ earlier ∈ front, ∃ named, Admits bestEffortAllowed earlier named)
    (unadmitted : ∀ named, ¬ Admits bestEffortAllowed token named) :
    collect bestEffortAllowed items = .error token := by
  induction front generalizing items with
  | nil =>
    obtain ⟨span, items, rfl, isWord, -⟩ := List.map_eq_cons_iff.mp are
    exact collect_cons_of_unadmitted isWord unadmitted items
  | cons earlier front inductionHypothesis =>
    obtain ⟨⟨named, admits⟩, later⟩ := List.forall_mem_cons.mp admitted
    obtain ⟨span, items, rfl, isWord, others⟩ := List.map_eq_cons_iff.mp are
    rw [collect_cons_of_admits isWord admits, inductionHypothesis others later]
    rfl

end NameItem

/-- All words are admitted, or there is a first one that is not. -/
theorem admits_or_unadmitted (bestEffortAllowed : Bool) (tokens : List Text) :
    (∃ names, List.Forall₂ (Admits bestEffortAllowed) tokens names) ∨
    ∃ front token behind, tokens = front ++ token :: behind ∧
      (∀ earlier ∈ front, ∃ named, Admits bestEffortAllowed earlier named) ∧
      ∀ named, ¬ Admits bestEffortAllowed token named := by
  induction tokens with
  | nil => exact Or.inl ⟨[], .nil⟩
  | cons token tokens inductionHypothesis =>
    by_cases admitted : ∃ named, Admits bestEffortAllowed token named
    · obtain ⟨named, admits⟩ := admitted
      rcases inductionHypothesis with
        ⟨names, others⟩ | ⟨front, refused, behind, rfl, admitted, unadmitted⟩
      · exact Or.inl ⟨named :: names, .cons admits others⟩
      · exact Or.inr ⟨token :: front, refused, behind, rfl,
          List.forall_mem_cons.mpr ⟨⟨named, admits⟩, admitted⟩, unadmitted⟩
    · exact Or.inr ⟨[], token, tokens, rfl, List.forall_mem_nil _,
        fun named admits => admitted ⟨named, admits⟩⟩

theorem noneWord_ink : ∀ c ∈ noneWord, isBlank c = false := by
  have none : noneWord.any isBlank = false := by decide +kernel
  simpa using none

theorem admits_noneWord (bestEffortAllowed : Bool) :
    Admits bestEffortAllowed noneWord (noneWord, false) :=
  ⟨.plain (isDottedName_iff.mp (by decide +kernel)), fun marked => absurd marked Bool.false_ne_true⟩

theorem isNone_iff {value : Text} :
    NameItem.isNone value = true ↔ value.tokens = [noneWord] := by
  rw [Text.tokens_eq_singleton_iff (by decide) noneWord_ink, NameItem.isNone, Option.any_eq_true]
  simp only [Text.after?_eq_some_iff]

/-- What a value is read as, by its words. -/
theorem namesOfValue_of_tokens (bestEffortAllowed : Bool) (value : Text) :
    namesOfValue bestEffortAllowed value =
      if value.tokens = [] then .error []
      else if value.tokens = [noneWord] then .ok []
      else NameItem.collect bestEffortAllowed
        (itemsFrom NameItem.next (value.length + 1) 0 value) := by
  rw [namesOfValue, NameItem.ofValue_eq]
  by_cases blank : value.isAllBlank = true
  · rw [if_pos blank, if_pos (Text.tokens_eq_nil_iff.mpr blank)]
    rfl
  · rw [if_neg blank, if_neg (mt Text.tokens_eq_nil_iff.mp blank)]
    by_cases nothing : NameItem.isNone value = true
    · rw [if_pos nothing, if_pos (isNone_iff.mp nothing)]
      rfl
    · rw [if_neg nothing, if_neg (mt isNone_iff.mpr nothing)]

/-- A list of names is read by its words: none of them is an error, the word that asks for nothing
gives no names if it stands alone, and otherwise every word is a dotted name, perhaps with a
question mark where best effort is allowed, or the first one that is not is refused. -/
theorem namesOfValue_eq_iff (bestEffortAllowed : Bool) (value : Text)
    (outcome : Except Text (List (Text × Bool))) :
    namesOfValue bestEffortAllowed value = outcome ↔
      ReadsNames bestEffortAllowed value.tokens outcome := by
  have items := NameItem.items_itemsFrom _ 0 value (Nat.lt_succ_self value.length)
  rw [namesOfValue_of_tokens]
  generalize itemsFrom NameItem.next (value.length + 1) 0 value = list at items ⊢
  generalize value.tokens = tokens at items ⊢
  constructor
  · rintro rfl
    split
    · next blank => rw [blank]; exact .blank
    · next some =>
      split
      · next nothing => rw [nothing]; exact .nothing
      · next other =>
        rcases admits_or_unadmitted bestEffortAllowed tokens with
          ⟨names, admits⟩ | ⟨front, token, behind, rfl, admitted, unadmitted⟩
        · rw [NameItem.collect_of_admits items admits]
          exact .names some other admits
        · rw [NameItem.collect_of_unadmitted items admitted unadmitted]
          exact .refused admitted unadmitted
  · intro reads
    cases reads with
    | blank => rfl
    | nothing => rfl
    | names some other admits =>
      rw [if_neg some, if_neg other, NameItem.collect_of_admits items admits]
    | @refused front behind token admitted unadmitted =>
      have other : front ++ token :: behind ≠ [noneWord] := by
        intro alone
        obtain ⟨rfl, same⟩ | ⟨-, none⟩ := List.append_eq_singleton_iff.mp alone
        · exact unadmitted _ ((List.cons.inj same).1 ▸ admits_noneWord bestEffortAllowed)
        · cases none
      rw [if_neg (by simp), if_neg other,
        NameItem.collect_of_unadmitted items admitted unadmitted]

end Stencil
