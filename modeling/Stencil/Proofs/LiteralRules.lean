/-
This file proves that literal rules are pattern rules of a simple kind. A literal rule looks for a
text and puts another in its place; the pattern rule with both of them escaped reads its pattern,
matches it place by place and makes up what it puts in from its substitute. The pattern of an escaped
text matches where the text stands ahead, so both rules stop at the same places and pass over the
same characters, where occurrences overlap and where the text is empty as well.
-/
import Stencil.Proofs.Escaping

namespace Stencil

namespace Pattern

/-! ### The pattern of an escaped text -/

/-- The pattern that spells a text, one character after another. -/
def literal (text : Text) : Pattern := ⟨Node.sequence (text.map Node.exactly), 0, []⟩

/-- The pieces of the pattern, last one first. -/
def literalPieces (text : Text) : List Piece :=
  (text.map fun c => Reader.literalPiece Flags.ofRules c.toNat).reverse

theorem assemble_literalPieces (text : Text) :
    Reader.assemble (literalPieces text) = Node.sequence (text.map Node.exactly) := by
  rw [Reader.assemble, literalPieces, List.reverse_reverse, List.map_map]
  rfl

theorem tokenize_escapePattern (text : Text) :
    tokenize (escapePattern text) = (text.map escapedToken, false) := by
  have tokens := tokenize_escapePattern_append text []
  rwa [List.append_nil, show tokenize [] = ([], false) from rfl, List.append_nil] at tokens

/-- An escaped text is read as the pattern that spells it, whatever signs it has. -/
theorem ofText_escapePattern [CharacterNames] (text : Text) :
    ofText (escapePattern text) = .ok (literal text) := by
  rw [literal, ← assemble_literalPieces]
  refine ofText_of_sequence _ _ _ (0 + (escapePattern text).length)
    (tokenize_escapePattern text) ?_ ?_
  · have reads := Reader.sequence_escaped (2 * text.length + 2) ⟨Flags.ofRules, true, true⟩ []
      ReaderState.start text [] 0 rfl
    have fuel : 3 * (text.map escapedToken).length + 2 = 2 * text.length + 2 + text.length := by
      rw [List.length_map]
      omega
    rw [List.append_nil, List.append_nil] at reads
    rw [fuel, reads]
    rfl
  · rw [assemble_literalPieces]
    refine Node.cause?_sequence false _ fun node member => ?_
    obtain ⟨c, -, rfl⟩ := List.mem_map.mp member
    rfl

/-! ### Where it matches -/

/-- The pattern matches where its text stands ahead. A match of the empty text takes no character,
so it does not count where one has to be taken. -/
theorem matchAt_literal (text : Text) (advance : Bool) (behind ahead : Text) (offset : Nat) :
    (literal text).matchAt advance behind ahead offset =
      if advance && text.isEmpty then none
      else (Text.after? text ahead).map fun _ => ⟨text, []⟩ := by
  have spelled := Node.run_literals text [] (fun cursor =>
    if advance && cursor.offset == offset then none else some cursor) ⟨behind, ahead, offset, []⟩
  rw [List.append_nil] at spelled
  rw [matchAt, literal]
  dsimp only
  rw [spelled]
  cases follows : Text.after? text ahead with
  | none => simp
  | some rest =>
    have taken : ahead.take text.length = text := by
      rw [(Text.after?_eq_some_iff text ahead rest).mp follows, List.take_left]
    have still : (offset + text.length == offset) = text.isEmpty := by
      cases text <;> simp
    simp only [Node.sequence, Node.run, Cursor.pass, still]
    cases advance && text.isEmpty <;> simp [taken]

theorem isSome_matchAt_literal (text behind ahead : Text) (offset : Nat) :
    ((literal text).matchAt false behind ahead offset).isSome = Text.hasLead text ahead := by
  rw [matchAt_literal, Bool.false_and, if_neg Bool.false_ne_true, Option.isSome_map]
  rfl

/-- The pattern occurs in a text where the text that it spells does. -/
theorem occursIn_literal (part text : Text) :
    (literal part).occursIn text = Text.occursIn part text := by
  have everywhere (behind ahead : Text) (offset : Nat) :
      (literal part).occursFrom behind ahead offset = Text.occursIn part ahead := by
    induction ahead generalizing behind offset with
    | nil =>
      rw [occursFrom, isSome_matchAt_literal, Text.occursIn]
      cases part <;> rfl
    | cons c rest inductionHypothesis =>
      rw [occursFrom, isSome_matchAt_literal, inductionHypothesis, Text.occursIn]
  exact everywhere [] text 0

/-! ### What is replaced -/

variable {render : Match → Text} {substitute : Text}

/-- Where the text is not empty, its occurrences are replaced from left to right, and the characters
of one are passed over before the next is looked for. -/
theorem replaceFrom_literal (rendered : ∀ found, render found = substitute) {part : Text}
    (nonempty : part ≠ []) (skip : Nat) (behind ahead : Text) (offset : Nat) :
    (literal part).replaceFrom render skip behind ahead offset =
      Text.replaceFrom part substitute skip ahead := by
  have missing (behind ahead : Text) (offset : Nat) (absent : Text.hasLead part ahead = false) :
      (literal part).matchAt false behind ahead offset = none := by
    rw [← isSome_matchAt_literal part behind ahead offset, Option.isSome_eq_false_iff,
      Option.isNone_iff_eq_none] at absent
    exact absent
  induction ahead generalizing skip behind offset with
  | nil =>
    cases skip with
    | zero =>
      rw [replaceFrom, replaceHere_of_none _ _ _ _ _ (missing behind [] offset ?_),
        Text.replaceFrom]
      cases part with
      | nil => exact absurd rfl nonempty
      | cons a part => rfl
    | succ skip => rfl
  | cons c rest inductionHypothesis =>
    cases skip with
    | succ skip =>
      rw [replaceFrom, Text.replaceFrom]
      exact inductionHypothesis skip _ _
    | zero =>
      rw [Text.replaceFrom]
      by_cases found : Text.hasLead part (c :: rest) = true
      · obtain ⟨after, split⟩ := (Text.hasLead_iff part (c :: rest)).mp found
        have here : (literal part).replaceHere render behind (c :: rest) offset =
            (substitute, part.length) := by
          rw [replaceHere, matchAt_literal, Bool.false_and, if_neg Bool.false_ne_true, split,
            Text.after?_append]
          simp [nonempty, rendered]
        have count : part.length = part.length - 1 + 1 :=
          (Nat.sub_add_cancel (List.length_pos_iff.mpr nonempty)).symm
        rw [if_pos found, replaceFrom, here, count]
        dsimp only
        rw [Nat.add_sub_cancel, inductionHypothesis]
      · rw [Bool.not_eq_true] at found
        rw [if_neg (by rw [found]; decide),
          replaceFrom_of_none _ _ _ _ _ _ (missing behind (c :: rest) offset found),
          inductionHypothesis]

/-- The empty text is found before every character and at the end. -/
theorem replaceFrom_empty (rendered : ∀ found, render found = substitute)
    (behind ahead : Text) (offset : Nat) :
    (literal []).replaceFrom render 0 behind ahead offset =
      substitute ++ ahead.flatMap fun c => c :: substitute := by
  have here (behind ahead : Text) (offset : Nat) :
      (literal []).replaceHere render behind ahead offset = (substitute, 0) := by
    rw [replaceHere, matchAt_literal, matchAt_literal]
    simp [Text.after?, rendered]
  induction ahead generalizing behind offset with
  | nil =>
    rw [replaceFrom, here, List.flatMap_nil, List.append_nil]
  | cons c rest inductionHypothesis =>
    rw [replaceFrom, here]
    dsimp only
    rw [inductionHypothesis, List.flatMap_cons, List.cons_append]

/-- Replacing the matches of the pattern is replacing the text that it spells. -/
theorem replaceAll_literal (rendered : ∀ found, render found = substitute) (part text : Text) :
    (literal part).replaceAll render text = Text.replaceAll part substitute text := by
  by_cases empty : part = []
  · rw [empty]
    exact replaceFrom_empty rendered [] text 0
  · rw [Text.replaceAll_of_ne_nil _ _ _ empty]
    exact replaceFrom_literal rendered empty 0 [] text 0

end Pattern

namespace Rule

/-- The rule that replaces a text by another. -/
def ofTexts (part substitute : Text) (enforced : Bool) : Rule :=
  ⟨part, substitute, false, enforced⟩

/-- The pattern rule for the same two texts, with both of them escaped. -/
def ofEscaped (part substitute : Text) (enforced : Bool) : Rule :=
  ⟨escapePattern part, escapeSubstitute substitute, true, enforced⟩

/-- A literal rule and the pattern rule with its texts escaped do the same to every text. Both replace
the text throughout if it occurs or need not occur, and otherwise both fail because it does not
occur; there is nothing else in which either of them ends. -/
theorem apply_ofTexts_ofEscaped [CharacterNames] (owner part substitute text : Text)
    (enforced : Bool) :
    ((part <:+: text ∨ enforced = false) ∧
      (ofTexts part substitute enforced).apply owner text =
        .ok (Text.replaceAll part substitute text) ∧
      (ofEscaped part substitute enforced).apply owner text =
        .ok (Text.replaceAll part substitute text)) ∨
    (¬ part <:+: text ∧ enforced = true ∧
      (ofTexts part substitute enforced).apply owner text =
        .error (.failure (.literalNotFound owner part)) ∧
      (ofEscaped part substitute enforced).apply owner text =
        .error (.failure (.patternNotFound owner (escapePattern part)))) := by
  obtain ⟨parts, read, rendered⟩ :=
    Substitute.ofText_escapeSubstitute (Pattern.literal part) substitute
  have literally : (ofTexts part substitute enforced).apply owner text =
      if Text.occursIn part text then .ok (Text.replaceAll part substitute text)
      else if enforced then .error (.failure (.literalNotFound owner part)) else .ok text := rfl
  have escaped : (ofEscaped part substitute enforced).apply owner text =
      if Text.occursIn part text then .ok (Text.replaceAll part substitute text)
      else if enforced then .error (.failure (.patternNotFound owner (escapePattern part)))
      else .ok text := by
    show (ofEscaped part substitute enforced).applyPattern owner text = _
    simp only [applyPattern, ofEscaped, Pattern.ofText_escapePattern, Pattern.occursIn_literal,
      read, Pattern.replaceAll_literal rendered]
    rfl
  rw [literally, escaped, ← Text.occursIn_iff]
  by_cases occurs : Text.occursIn part text = true
  · left
    simp [occurs]
  · cases enforced with
    | true =>
      right
      simp [occurs]
    | false =>
      left
      -- What is not enforced and does not occur is not the empty text.
      have nonempty : part ≠ [] := by
        rintro rfl
        exact occurs ((Text.occursIn_iff [] text).mpr List.nil_infix)
      have same := Text.replaceAll_of_not_occursIn part substitute text nonempty
        (Bool.not_eq_true _ ▸ occurs)
      simp [occurs, same]

end Rule

end Stencil
