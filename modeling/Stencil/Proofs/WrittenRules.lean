/-
This file proves that every rule that can be applied can be written down, and is read back as it was.
A rule is written with its pattern and its substitute between quotation marks and with an arrow
between them that is longer than any arrow inside of either. Nothing inside of the quotation marks
needs to be escaped, not even the marks: the arrow of the substitution is the only one of its length,
so that the pattern ends at the only mark that this arrow follows, and the substitute ends at the last
mark of the text.
-/
import Stencil.Proofs.RulesErrors
import Stencil.Proofs.Texts

namespace Stencil

/-! ### Arrows and quotation marks -/

/-- An arrow: two or more tildes for a pattern rule, or hyphens for a literal rule, and a tip. -/
structure Arrow where
  isRegex : Bool
  signs : Nat
  long : 2 ≤ signs

namespace Arrow

/-- What the shaft of the arrow is made of. -/
def sign (arrow : Arrow) : Char := if arrow.isRegex then '~' else '-'

def text (arrow : Arrow) : Text := List.replicate arrow.signs arrow.sign ++ ['>']

/-- The arrow is longer than every arrow that occurs in a text. -/
def Outranks (arrow : Arrow) (text : Text) : Prop :=
  ∀ other : Arrow, other.text <:+: text → other.text.length < arrow.text.length

theorem length_text (arrow : Arrow) : arrow.text.length = arrow.signs + 1 := by
  rw [text, List.length_append, List.length_replicate, List.length_singleton]

/-- Only the arrows that are no longer than the text need to be looked for. -/
theorem outranks_iff (arrow : Arrow) (text : Text) :
    arrow.Outranks text ↔ ∀ signs < text.length, arrow.signs ≤ signs → 2 ≤ signs →
      Text.occursIn (List.replicate signs '~' ++ ['>']) text = false ∧
        Text.occursIn (List.replicate signs '-' ++ ['>']) text = false := by
  simp only [Bool.eq_false_iff, ne_eq, Text.occursIn_iff]
  constructor
  · intro outranks signs _ reaches long
    have absent (isRegex : Bool) : ¬ Arrow.text ⟨isRegex, signs, long⟩ <:+: text := by
      intro occurs
      have shorter := outranks _ occurs
      rw [length_text, length_text] at shorter
      exact absurd reaches (Nat.not_le_of_lt (Nat.lt_of_succ_lt_succ shorter))
    exact ⟨absent true, absent false⟩
  · rintro absent ⟨isRegex, signs, long⟩ occurs
    have fits := occurs.length_le
    rw [length_text] at fits
    rw [length_text, length_text]
    refine Nat.lt_of_not_le fun reaches => ?_
    obtain ⟨noTildes, noHyphens⟩ := absent signs fits (Nat.le_of_succ_le_succ reaches) long
    cases isRegex with
    | true => exact noTildes occurs
    | false => exact noHyphens occurs

instance (arrow : Arrow) (text : Text) : Decidable (arrow.Outranks text) :=
  decidable_of_iff' _ (arrow.outranks_iff text)

theorem Outranks.not_infix {arrow : Arrow} {text : Text} (outranks : arrow.Outranks text) :
    ¬ arrow.text <:+: text :=
  fun occurs => Nat.lt_irrefl _ (outranks arrow occurs)

theorem sign_eq (arrow : Arrow) : arrow.sign = '-' ∨ arrow.sign = '~' := by
  rw [sign]
  split
  · exact Or.inr rfl
  · exact Or.inl rfl

theorem eq_of_mem_text {arrow : Arrow} {c : Char} (member : c ∈ arrow.text) :
    c = '-' ∨ c = '~' ∨ c = '>' := by
  rw [text, List.mem_append, List.mem_singleton] at member
  obtain shaft | tip := member
  · rw [List.eq_of_mem_replicate shaft]
    exact arrow.sign_eq.imp_right Or.inl
  · exact Or.inr (Or.inr tip)

/-- An arrow begins with its sign. -/
theorem text_eq_cons (arrow : Arrow) :
    arrow.text = arrow.sign :: (List.replicate (arrow.signs - 1) arrow.sign ++ ['>']) := by
  have long := arrow.long
  rw [text, ← List.cons_append, ← List.replicate_succ, Nat.sub_add_cancel (by omega)]

theorem isBlank_sign (arrow : Arrow) : isBlank arrow.sign = false := by
  obtain same | same := arrow.sign_eq <;> rw [same] <;> decide +kernel

theorem head?_text (arrow : Arrow) : (arrow.text.head? == some '~') = arrow.isRegex := by
  rw [text_eq_cons, List.head?_cons, sign]
  cases arrow.isRegex <;> rfl

end Arrow

/-- A quotation mark. -/
inductive Mark where
  | double
  | single

namespace Mark

def char : Mark → Char
  | .double => '"'
  | .single => '\''

/-- A text that has been read between two of the marks. -/
def written : Mark → Text → Written
  | .double => .doubleQuoted
  | .single => .singleQuoted

def quoted (mark : Mark) (text : Text) : Text := mark.char :: (text ++ [mark.char])

theorem text_written (mark : Mark) (text : Text) : (mark.written text).text = text := by
  cases mark <;> rfl

theorem isBlank_char (mark : Mark) : isBlank mark.char = false := by
  cases mark <;> decide +kernel

theorem char_ne (mark : Mark) : mark.char ≠ '-' ∧ mark.char ≠ '~' ∧ mark.char ≠ '>' := by
  cases mark <;> decide

theorem char_not_mem_arrow (mark : Mark) (arrow : Arrow) : mark.char ∉ arrow.text := by
  intro member
  obtain ⟨noHyphen, noTilde, noTip⟩ := mark.char_ne
  obtain same | same | same := Arrow.eq_of_mem_text member
  · exact noHyphen same
  · exact noTilde same
  · exact noTip same

end Mark

/-! ### The longest arrow -/

namespace Substitution

/-- No arrow reaches over a character that arrows do not have. -/
theorem arrowsFrom_append_cut {c : Char} (outside : c ≠ '-' ∧ c ≠ '~' ∧ c ≠ '>') (text rest : Text)
    (sign : Char) (count : Nat) :
    arrowsFrom sign count (text ++ c :: rest) =
      arrowsFrom sign count text ++ arrowsFrom ' ' 0 rest := by
  obtain ⟨noHyphen, noTilde, noTip⟩ := outside
  induction text generalizing sign count with
  | nil => simp [arrowsFrom, noHyphen, noTilde, noTip]
  | cons d text inductionHypothesis =>
    simp only [List.cons_append, arrowsFrom, inductionHypothesis]
    split
    · rfl
    · split
      · split <;> rfl
      · rfl

/-- The rest of a shaft and the tip complete the arrow of which some signs have been passed. -/
theorem arrowsFrom_shaft {sign : Char} (isSign : sign = '-' ∨ sign = '~') (rest : Text)
    (passed left : Nat) (long : 2 ≤ passed + left) :
    arrowsFrom sign passed (List.replicate left sign ++ '>' :: rest) =
      (List.replicate (passed + left) sign ++ ['>']) :: arrowsFrom ' ' 0 rest := by
  induction left generalizing passed with
  | zero => simp [arrowsFrom, show 2 ≤ passed from long]
  | succ left inductionHypothesis =>
    have noTip : sign ≠ '>' := by rintro rfl; exact absurd isSign (by decide)
    rw [List.replicate_succ, List.cons_append, arrowsFrom]
    simp only [noTip, decide_false, Bool.false_and, Bool.false_eq_true, if_false, Bool.or_eq_true,
      decide_eq_true_eq, isSign, if_true]
    rw [inductionHypothesis (passed + 1) (by omega), Nat.add_right_comm, Nat.add_assoc]

theorem arrowsFrom_arrow (arrow : Arrow) (rest : Text) :
    arrowsFrom ' ' 0 (arrow.text ++ rest) = arrow.text :: arrowsFrom ' ' 0 rest := by
  have long := arrow.long
  have begins : arrowsFrom ' ' 0 (arrow.text ++ rest) =
      arrowsFrom arrow.sign 1 (List.replicate (arrow.signs - 1) arrow.sign ++ '>' :: rest) := by
    rw [arrow.text_eq_cons]
    obtain same | same := arrow.sign_eq <;> simp [arrowsFrom, same]
  rw [begins, arrowsFrom_shaft arrow.sign_eq _ _ _ (by omega), Nat.add_sub_cancel' (by omega)]
  rfl

/-- What is found are arrows that occur in the text, where the signs that have been passed count as
part of it. -/
theorem exists_arrow_of_mem_arrowsFrom {sign : Char} {count : Nat} {text found : Text}
    (passed : count = 0 ∨ sign = '-' ∨ sign = '~') (member : found ∈ arrowsFrom sign count text) :
    ∃ arrow : Arrow, found = arrow.text ∧ found <:+: List.replicate count sign ++ text := by
  induction text generalizing sign count with
  | nil => cases member
  | cons c rest inductionHypothesis =>
    -- An arrow that begins behind `c` occurs in the rest.
    have later (member : found ∈ arrowsFrom ' ' 0 rest) :
        ∃ arrow : Arrow, found = arrow.text ∧ found <:+: List.replicate count sign ++ c :: rest := by
      obtain ⟨arrow, isArrow, occurs⟩ := inductionHypothesis (Or.inl rfl) member
      exact ⟨arrow, isArrow, occurs.trans ((List.suffix_cons c rest).trans
        (List.suffix_append _ _)).isInfix⟩
    rw [arrowsFrom] at member
    split at member
    · next completes =>
      obtain ⟨rfl, long⟩ : c = '>' ∧ 2 ≤ count := by simpa using completes
      obtain rfl | member := List.mem_cons.mp member
      · have isSign : sign = '-' ∨ sign = '~' := passed.resolve_left (by omega)
        refine ⟨⟨sign == '~', count, long⟩, ?_, ⟨[], rest, by simp⟩⟩
        obtain rfl | rfl := isSign <;> rfl
      · exact later member
    · split at member
      · next isSign =>
        rw [Bool.or_eq_true, decide_eq_true_eq, decide_eq_true_eq] at isSign
        split at member
        · next same =>
          subst same
          obtain ⟨arrow, isArrow, occurs⟩ := inductionHypothesis (Or.inr isSign) member
          rw [List.replicate_succ', List.append_assoc] at occurs
          exact ⟨arrow, isArrow, occurs⟩
        · obtain ⟨arrow, isArrow, occurs⟩ := inductionHypothesis (Or.inr isSign) member
          exact ⟨arrow, isArrow, occurs.trans (List.suffix_append _ _).isInfix⟩
      · exact later member

theorem mem_of_longest? {texts : List Text} {found : Text} (longest : longest? texts = some found) :
    found ∈ texts := by
  induction texts with
  | nil => cases longest
  | cons text texts inductionHypothesis =>
    rw [longest?] at longest
    split at longest
    · next other isOther =>
      split at longest <;> cases longest
      · exact List.mem_cons_of_mem _ (inductionHypothesis isOther)
      · exact List.mem_cons_self
    · cases longest
      exact List.mem_cons_self

/-- A text that is longer than all others is the longest. -/
theorem longest?_of_shorter {front back : List Text} {text : Text}
    (frontShorter : ∀ other ∈ front, other.length < text.length)
    (backShorter : ∀ other ∈ back, other.length < text.length) :
    longest? (front ++ text :: back) = some text := by
  induction front with
  | nil =>
    rw [List.nil_append, longest?]
    split
    · next other isOther =>
      exact if_neg (Nat.lt_asymm (backShorter other (mem_of_longest? isOther)))
    · rfl
  | cons first front inductionHypothesis =>
    rw [List.cons_append, longest?, inductionHypothesis fun other member =>
      frontShorter other (List.mem_cons_of_mem _ member)]
    exact if_pos (frontShorter first List.mem_cons_self)

theorem shorter_of_mem_arrowsFrom {arrow : Arrow} {text found : Text}
    (outranks : arrow.Outranks text) (member : found ∈ arrowsFrom ' ' 0 text) :
    found.length < arrow.text.length := by
  obtain ⟨other, rfl, occurs⟩ := exists_arrow_of_mem_arrowsFrom (Or.inl rfl) member
  exact outranks other occurs

/-! ### Pattern and substitute -/

/-- No arrow follows on a place inside of the quotation marks if none occurs there. -/
theorem afterArrow?_eq_none {arrow : Arrow} {text : Text} (absent : ¬ arrow.text <:+: text)
    (mark : Mark) (rest : Text) : afterArrow? arrow.text (text ++ mark.char :: rest) = none := by
  have noLead : Text.hasLead arrow.text (text ++ mark.char :: rest).dropBlanks = false := by
    rw [Text.dropBlanks, Text.dropWhile_append_cut mark.isBlank_char,
      Text.hasLead_append_cut _ _ _ _ (mark.char_not_mem_arrow arrow), Bool.eq_false_iff, ne_eq,
      Text.hasLead_iff]
    rintro ⟨behind, split⟩
    exact absent (List.IsPrefix.isInfix ⟨behind, split.symm⟩ |>.trans
      (List.dropWhile_suffix isBlank).isInfix)
  exact Option.isSome_eq_false_iff.mp noLead |> Option.isNone_iff_eq_none.mp

theorem afterArrow?_arrow (arrow : Arrow) (rest : Text) :
    afterArrow? arrow.text (' ' :: (arrow.text ++ rest)) = some rest := by
  have begins : Text.dropBlanks (' ' :: (arrow.text ++ rest)) = arrow.text ++ rest := by
    rw [Text.dropBlanks, List.dropWhile_cons_of_pos (by decide +kernel), arrow.text_eq_cons,
      List.cons_append, List.dropWhile_cons_of_neg (by rw [arrow.isBlank_sign]; decide)]
  rw [afterArrow?, begins, Text.after?_append]

/-- A quoted pattern ends at the mark that the arrow follows, whatever marks there are inside. -/
theorem quotedBefore?_quoted {arrow : Arrow} {pattern : Text} (absent : ¬ arrow.text <:+: pattern)
    (mark : Mark) (rest : Text) :
    quotedBefore? mark.char arrow.text (pattern ++ mark.char :: ' ' :: (arrow.text ++ rest)) =
      some (pattern, rest) := by
  induction pattern with
  | nil => rw [List.nil_append, quotedBefore?, if_pos rfl, afterArrow?_arrow]
  | cons c pattern inductionHypothesis =>
    -- Even if `c` is a mark: what follows it is more of the pattern, and the closing mark stops
    -- every arrow.
    have absentLater : ¬ arrow.text <:+: pattern :=
      fun occurs => absent (occurs.trans (List.suffix_cons c pattern).isInfix)
    rw [List.cons_append, quotedBefore?, afterArrow?_eq_none absentLater, ite_self,
      inductionHypothesis absentLater]
    rfl

theorem pattern?_quoted {arrow : Arrow} {pattern : Text} (absent : ¬ arrow.text <:+: pattern)
    (mark : Mark) (rest : Text) :
    pattern? arrow.text (mark.quoted pattern ++ ' ' :: (arrow.text ++ rest)) =
      some (mark.written pattern, rest) := by
  have ends := quotedBefore?_quoted absent mark rest
  rw [Mark.quoted, List.cons_append, List.append_assoc, List.singleton_append, pattern?]
  cases mark with
  | double =>
    rw [Mark.char] at ends ⊢
    simp only [if_true, ends, Option.map_some, Option.some_or, Mark.written]
  | single =>
    have other : '\'' ≠ '"' := by decide
    rw [Mark.char] at ends ⊢
    simp only [other, if_false, if_true, ends, Option.map_some, Option.none_or, Option.some_or,
      Mark.written]

theorem trim_quoted (mark : Mark) (text : Text) :
    Text.trim (' ' :: mark.quoted text) = mark.quoted text := by
  have outside : ¬ isBlank mark.char = true := Bool.eq_false_iff.mp mark.isBlank_char
  have begins : Text.dropBlanks (' ' :: mark.quoted text) = mark.quoted text := by
    rw [Text.dropBlanks, List.dropWhile_cons_of_pos (by decide +kernel), Mark.quoted,
      List.dropWhile_cons_of_neg outside]
  have backwards : (mark.quoted text).reverse = mark.quoted text.reverse := by
    simp [Mark.quoted]
  rw [Text.trim, begins, Text.trimRight, backwards, Mark.quoted,
    List.dropWhile_cons_of_neg outside, ← Mark.quoted, ← backwards, List.reverse_reverse]

/-- A quoted substitute ends at the last mark, whatever marks there are inside. -/
theorem substituteOf_quoted (mark : Mark) (text : Text) :
    substituteOf (' ' :: mark.quoted text) = mark.written text := by
  rw [substituteOf, trim_quoted]
  cases mark with
  | double => simp [Mark.quoted, Mark.char, between?, Mark.written]
  | single => simp [Mark.quoted, Mark.char, between?, Mark.written]

end Substitution

/-! ### Rules -/

/-- A rule as it is written, with pattern and substitute between quotation marks and an arrow that is
longer than the arrows inside of them. -/
structure WrittenRule where
  pattern : Text
  substitute : Text
  enforced : Bool
  arrow : Arrow
  patternMark : Mark
  substituteMark : Mark
  outranksPattern : arrow.Outranks pattern
  outranksSubstitute : arrow.Outranks substitute

namespace WrittenRule

/-- The rule that is meant. -/
def rule (written : WrittenRule) : Rule where
  pattern := written.pattern
  substitute := written.substitute
  isRegex := written.arrow.isRegex
  enforced := written.enforced

def bullet (written : WrittenRule) : Char := if written.enforced then '*' else '?'

/-- The substitution as it stands among the rules. -/
def text (written : WrittenRule) : Text :=
  written.bullet :: ' ' :: (written.patternMark.quoted written.pattern ++
    ' ' :: (written.arrow.text ++ ' ' :: written.substituteMark.quoted written.substitute))

theorem bullet_eq (written : WrittenRule) : written.bullet = '*' ∨ written.bullet = '?' := by
  rw [bullet]
  split
  · exact Or.inl rfl
  · exact Or.inr rfl

open Substitution in
theorem arrowsFrom_text (written : WrittenRule) :
    arrowsFrom ' ' 0 written.text =
      arrowsFrom ' ' 0 written.pattern ++
        written.arrow.text :: arrowsFrom ' ' 0 written.substitute := by
  have blank : ' ' ≠ '-' ∧ ' ' ≠ '~' ∧ ' ' ≠ '>' := by decide
  have bullet : written.bullet ≠ '-' ∧ written.bullet ≠ '~' ∧ written.bullet ≠ '>' := by
    obtain same | same := written.bullet_eq <;> rw [same] <;> decide
  -- Every character that is neither pattern, arrow nor substitute is a cut.
  have cut {c : Char} (outside : c ≠ '-' ∧ c ≠ '~' ∧ c ≠ '>') (rest : Text) :
      arrowsFrom ' ' 0 (c :: rest) = arrowsFrom ' ' 0 rest :=
    arrowsFrom_append_cut outside [] rest ' ' 0
  have marked (mark : Mark) (inside rest : Text) :
      arrowsFrom ' ' 0 (mark.quoted inside ++ rest) =
        arrowsFrom ' ' 0 inside ++ arrowsFrom ' ' 0 rest := by
    rw [Mark.quoted, List.cons_append, cut mark.char_ne, List.append_assoc, List.singleton_append,
      arrowsFrom_append_cut mark.char_ne]
  have last := marked written.substituteMark written.substitute []
  rw [List.append_nil] at last
  rw [text, cut bullet, cut blank, marked, cut blank, arrowsFrom_arrow, cut blank, last, arrowsFrom,
    List.append_nil]

/-- The arrow between pattern and substitute is the longest one in the text. -/
theorem longest?_arrowsFrom_text (written : WrittenRule) :
    Substitution.longest? (Substitution.arrowsFrom ' ' 0 written.text) = some written.arrow.text := by
  rw [arrowsFrom_text]
  exact Substitution.longest?_of_shorter
    (fun _ => Substitution.shorter_of_mem_arrowsFrom written.outranksPattern)
    (fun _ => Substitution.shorter_of_mem_arrowsFrom written.outranksSubstitute)

/-- Reading takes the parts of a written rule apart again. -/
theorem ofText?_text (written : WrittenRule) :
    Substitution.ofText? written.text = some
      { bullet := written.bullet
        pattern := written.patternMark.written written.pattern
        arrow := written.arrow.text
        substitute := written.substituteMark.written written.substitute } := by
  have inked (rest : Text) : Text.dropBlanks (written.patternMark.quoted written.pattern ++ rest) =
      written.patternMark.quoted written.pattern ++ rest :=
    List.dropWhile_cons_of_neg (Bool.eq_false_iff.mp written.patternMark.isBlank_char)
  have isBullet : (decide (written.bullet = '*') || decide (written.bullet = '?')) = true := by
    simpa using written.bullet_eq
  unfold Substitution.ofText?
  simp only [longest?_arrowsFrom_text]
  simp only [text, isBullet, if_true, inked,
    Substitution.pattern?_quoted written.outranksPattern.not_infix, Option.map_some,
    Substitution.substituteOf_quoted]

theorem ofSubstitution?_text (written : WrittenRule) :
    Rule.ofSubstitution? written.text = some written.rule := by
  rw [Rule.ofSubstitution?, ofText?_text, Option.map_some, Mark.text_written, Mark.text_written,
    Arrow.head?_text, bullet]
  cases same : written.enforced <;> simp [rule, same]

end WrittenRule

namespace Reading

theorem checkRule_of_sound [CharacterNames] {rule : Rule} (sound : rule.Sound) (first next : Nat) :
    checkRule first next rule = .ok () := by
  rw [checkRule]
  split
  · next isRegex =>
    obtain ⟨pattern, substitute, patternRead, substituteRead⟩ := sound.readable isRegex
    rw [patternRead]
    dsimp only
    rw [substituteRead]
  · rfl

theorem ruleOf_of_sound [CharacterNames] {text : Text} {rule : Rule}
    (spelled : Rule.ofSubstitution? text = some rule) (sound : rule.Sound) (first next : Nat) :
    ruleOf first next text = .ok rule := by
  have nonempty : rule.pattern.isEmpty = false := List.isEmpty_eq_false_iff.mpr sound.nonempty
  rw [ruleOf_eq, spelled]
  simp only [nonempty, checkRule_of_sound sound, Bool.false_eq_true, if_false]

/-- A rule that can be applied is read back from every way to write it: staging the substitution adds
exactly this rule to the instantiation or derivation in progress, and changes nothing else. -/
theorem staged_writtenRule [CharacterNames] (written : WrittenRule) (sound : written.rule.Sound)
    (owner : Text) (declared : Subordinate) (uncommitted : declared.committed = false)
    (line next : Nat) :
    staged (.subordinate owner declared) (.substitution written.text line) next =
      .ok (.subordinate owner { declared with rules := declared.rules ++ [written.rule] }) := by
  have changes : Active.change (.subordinate owner declared) (.rule written.rule) =
      .subordinate owner { declared with rules := declared.rules ++ [written.rule] } := by
    simp [Active.change, Active.declaration, Declaration.change, Declaration.changed?,
      Subordinate.changed?, Declaration.committed, uncommitted, Active.withDeclaration]
  rw [staged, ruleOf_of_sound written.ofSubstitution?_text sound]
  exact congrArg Except.ok changes

/-- A pattern rule with marks, blanks, escapes, a line end and arrows of both kinds inside. -/
def markedRule : WrittenRule where
  pattern := "\"T\" --> \"\\w'\n\" ~~>".toList
  substitute := "' --> \\g<0>\"'".toList
  enforced := true
  arrow := ⟨true, 3, by decide⟩
  patternMark := .double
  substituteMark := .single
  outranksPattern := by decide +kernel
  outranksSubstitute := by decide +kernel

section

attribute [local instance] CharacterNames.signs

theorem staged_writtenRule_marked :
    markedRule.text = "* \"\"T\" --> \"\\w'\n\" ~~>\" ~~~> '' --> \\g<0>\"''".toList ∧
    markedRule.rule.Sound ∧ (Subordinate.derivation "d".toList).committed = false ∧
    staged (.subordinate "T".toList (.derivation "d".toList))
        (.substitution markedRule.text 4) 6 =
      .ok (.subordinate "T".toList ⟨"d".toList, false, .derivation, none,
        [⟨"\"T\" --> \"\\w'\n\" ~~>".toList, "' --> \\g<0>\"'".toList, true, true⟩]⟩) := by
  have checked : checkRule 4 6 markedRule.rule = .ok () := by decide +kernel
  have sound : markedRule.rule.Sound := ⟨by decide, checkRule_readable checked⟩
  exact ⟨by decide +kernel, sound, rfl, staged_writtenRule markedRule sound _ _ rfl 4 6⟩

end

end Reading

end Stencil
