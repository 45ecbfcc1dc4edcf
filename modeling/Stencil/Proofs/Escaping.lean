/-
This file proves that escaping does what it is for. The pattern of an escaped text is read as one
literal character after another, and such a pattern matches the text and nothing else; an escaped
substitute is read as the text that it stands for, whatever backslashes that has.

Reading is followed token by token. A reader's state matters only by the tokens ahead of it and the
position of the first of them, so every lemma here is about a state that faces given tokens.
-/
import Stencil.Proofs.Texts
import Stencil.Proofs.Ways
import Stencil.Rule

namespace Stencil

/-! ### Tokens -/

theorem tokenize_plain (c : Char) (rest : Text) (plain : c ≠ '\\') :
    tokenize (c :: rest) = (.plain c :: (tokenize rest).1, (tokenize rest).2) := by
  rw [tokenize]
  · intro same
    exact absurd same plain
  · intro d tail same
    exact absurd same plain

theorem tokenize_escape (c : Char) (rest : Text) :
    tokenize ('\\' :: c :: rest) = (.escape c :: (tokenize rest).1, (tokenize rest).2) := by
  rw [tokenize]

/-- The token of a character in an escaped pattern. -/
def escapedToken (c : Char) : Token := if isPatternSign c then .escape c else .plain c

theorem escapePattern_cons (c : Char) (text : Text) :
    escapePattern (c :: text) =
      (if isPatternSign c then ['\\', c] else [c]) ++ escapePattern text :=
  List.flatMap_cons

/-- An escaped text is one token per character, and does not touch what follows it. -/
theorem tokenize_escapePattern_append (text rest : Text) :
    tokenize (escapePattern text ++ rest) =
      (text.map escapedToken ++ (tokenize rest).1, (tokenize rest).2) := by
  induction text with
  | nil => rfl
  | cons c text inductionHypothesis =>
    rw [escapePattern_cons, List.append_assoc, List.map_cons, escapedToken]
    by_cases isSign : isPatternSign c = true
    · rw [if_pos isSign, if_pos isSign, List.cons_append, List.cons_append, List.nil_append,
        tokenize_escape, inductionHypothesis, List.cons_append]
    · have plain : c ≠ '\\' := by
        rintro rfl
        exact isSign rfl
      rw [if_neg isSign, if_neg isSign, List.cons_append, List.nil_append, tokenize_plain c _ plain,
        inductionHypothesis, List.cons_append]

/-! ### States that face tokens -/

namespace ReaderState

/-- The state with other tokens ahead, the last of which is no lone backslash. -/
def facing (state : ReaderState) (ahead : List Token) (position : Nat) : ReaderState :=
  { state with stream := ⟨ahead, position, false⟩ }

/-- The state in which a pattern is begun. -/
def start : ReaderState := ⟨⟨[], 0, false⟩, [], [], [], none, []⟩

end ReaderState

namespace Reader

/-- A reader that went well hands its result and its state over to what follows. -/
theorem run_bind_of_ok {First Second : Type} {first : Reader First} {second : First → Reader Second}
    {state next : ReaderState} {value : First} (ran : first.run state = .ok (value, next)) :
    (first >>= second).run state = (second value).run next := by
  rw [StateT.run_bind, ran]
  rfl

theorem peek_facing (state : ReaderState) (ahead : List Token) (position : Nat) :
    peek.run (state.facing ahead position) = .ok (ahead.head?, state.facing ahead position) := rfl

theorem position_facing (state : ReaderState) (ahead : List Token) (position : Nat) :
    Reader.position.run (state.facing ahead position) =
      .ok (position, state.facing ahead position) := rfl

theorem checked_facing (ahead : List Token) (position : Nat) :
    TokenStream.checked ⟨ahead, position, false⟩ = .ok ⟨ahead, position, false⟩ := by
  simp [TokenStream.checked]

theorem next_facing (state : ReaderState) (token : Token) (ahead : List Token) (position : Nat) :
    next.run (state.facing (token :: ahead) position) =
      .ok (some token, state.facing ahead (position + token.width)) := by
  have taken : TokenStream.next ⟨token :: ahead, position, false⟩ =
      .ok (some token, ⟨ahead, position + token.width, false⟩) := by
    simp only [TokenStream.next, checked_facing]
  rw [next, onStream, run_bind_of_ok (rfl : (get : Reader ReaderState).run _ = .ok (_, _)),
    ReaderState.facing, taken]
  rfl

theorem accept_facing_same (state : ReaderState) (c : Char) (ahead : List Token) (position : Nat) :
    (accept c).run (state.facing (.plain c :: ahead) position) =
      .ok (true, state.facing ahead (position + 1)) := by
  have taken : TokenStream.accept ⟨.plain c :: ahead, position, false⟩ c =
      .ok (true, ⟨ahead, position + 1, false⟩) := by
    simp only [TokenStream.accept, Token.isPlain, BEq.rfl, if_true, TokenStream.next, Token.width,
      checked_facing]
  rw [accept, onStream, run_bind_of_ok (rfl : (get : Reader ReaderState).run _ = .ok (_, _)),
    ReaderState.facing, taken]
  rfl

/-! ### Reading an escaped text -/

theorem sequence_plain [CharacterNames] (fuel : Nat) (scope : Scope) (pieces : List Piece)
    (state : ReaderState) (c : Char) (ahead : List Token) (position : Nat)
    (noSign : isPatternSign c = false) (notVerbose : scope.flags.verbose = false) :
    (sequence (fuel + 1) scope pieces).run (state.facing (.plain c :: ahead) position) =
      (sequence fuel scope (literalPiece scope.flags c.toNat :: pieces)).run
        (state.facing ahead (position + 1)) := by
  have other (sign : Char) (isSign : isPatternSign sign = true) : c ≠ sign := by
    rintro rfl
    rw [noSign] at isSign
    cases isSign
  have noRepetition : isRepetition c = false := by
    simp [isRepetition, other '*' rfl, other '+' rfl, other '?' rfl, other '{' rfl]
  have noAnchor : anchorSign? scope.flags c = none := by
    rw [anchorSign?]
    · exact other '^' rfl
    · exact other '$' rfl
  have goesOn : (Token.plain c == Token.plain '|' || Token.plain c == Token.plain ')') = false := by
    simp [other '|' rfl, other ')' rfl]
  rw [sequence, run_bind_of_ok (peek_facing state _ position)]
  simp only [List.head?_cons, Token.isPlain, goesOn, notVerbose, Bool.false_and, other '[' rfl,
    other '.' rfl, other '(' rfl, noRepetition, noAnchor, Bool.false_eq_true, if_false]
  rw [run_bind_of_ok (next_facing state _ ahead position)]
  rfl

/-- An escaped sign stands for itself. -/
theorem escapePiece_sign [CharacterNames] (flags : Flags) (c : Char)
    (isSign : isPatternSign c = true) (state : ReaderState) :
    (escapePiece flags c).run state = .ok (literalPiece flags c.toNat, state) := by
  simp only [isPatternSign, List.contains_iff_mem, String.reduceToList, List.mem_cons,
    List.not_mem_nil, or_false] at isSign
  rcases isSign with rfl | rfl | rfl | rfl | rfl | rfl | rfl | rfl | rfl | rfl | rfl | rfl | rfl |
    rfl | rfl | rfl | rfl | rfl | rfl | rfl | rfl | rfl | rfl | rfl <;> rfl

theorem sequence_escape [CharacterNames] (fuel : Nat) (scope : Scope) (pieces : List Piece)
    (state : ReaderState) (c : Char) (ahead : List Token) (position : Nat)
    (isSign : isPatternSign c = true) :
    (sequence (fuel + 1) scope pieces).run (state.facing (.escape c :: ahead) position) =
      (sequence fuel scope (literalPiece scope.flags c.toNat :: pieces)).run
        (state.facing ahead (position + 2)) := by
  have goesOn : (Token.escape c == Token.plain '|' || Token.escape c == Token.plain ')') = false :=
    rfl
  rw [sequence, run_bind_of_ok (peek_facing state _ position)]
  simp only [List.head?_cons, Token.isPlain, goesOn, Bool.false_eq_true, if_false]
  rw [run_bind_of_ok (next_facing state _ ahead position),
    run_bind_of_ok (escapePiece_sign scope.flags c isSign _)]
  rfl

/-- An escaped text is read as its characters, one literal piece for each. -/
theorem sequence_escaped [CharacterNames] (fuel : Nat) (scope : Scope) (pieces : List Piece)
    (state : ReaderState) (text : Text) (ahead : List Token) (position : Nat)
    (notVerbose : scope.flags.verbose = false) :
    (sequence (fuel + text.length) scope pieces).run
        (state.facing (text.map escapedToken ++ ahead) position) =
      (sequence fuel scope
        ((text.map fun c => literalPiece scope.flags c.toNat).reverse ++ pieces)).run
        (state.facing ahead (position + (escapePattern text).length)) := by
  induction text generalizing pieces position with
  | nil => rfl
  | cons c text inductionHypothesis =>
    rw [List.length_cons, ← Nat.add_assoc, List.map_cons, List.cons_append, escapedToken,
      List.map_cons, List.reverse_cons, List.append_assoc, List.singleton_append,
      escapePattern_cons,
      List.length_append, ← Nat.add_assoc]
    by_cases isSign : isPatternSign c = true
    · rw [if_pos isSign, if_pos isSign, sequence_escape _ _ _ _ _ _ _ isSign, inductionHypothesis]
      rfl
    · rw [if_neg isSign, if_neg isSign,
        sequence_plain _ _ _ _ _ _ _ (Bool.not_eq_true _ ▸ isSign) notVerbose, inductionHypothesis]
      rfl

/-- At the end of the tokens a sequence is what has been read. -/
theorem choice_of_sequence [CharacterNames] (fuel : Nat) (scope : Scope) (state : ReaderState)
    (tokens : List Token) (pieces : List Piece) (position : Nat)

    (reads : (sequence fuel scope []).run (state.facing tokens 0) =
      (sequence 1 scope pieces).run (state.facing [] position)) :
    (choice (fuel + 1) scope).run (state.facing tokens 0) =
      .ok (assemble pieces, state.facing [] position) := by
  have read : (sequence fuel scope []).run (state.facing tokens 0) =
      .ok (assemble pieces, state.facing [] position) := reads.trans rfl
  rw [choice, run_bind_of_ok read]
  rfl

end Reader

/-- A pattern whose tokens are read to the end as pieces without captures and conditions. -/
theorem Pattern.ofText_of_sequence [CharacterNames] (text : Text) (tokens : List Token)
    (pieces : List Piece) (position : Nat) (tokenized : tokenize text = (tokens, false))
    (reads : (Reader.sequence (3 * tokens.length + 2) ⟨Flags.ofRules, true, true⟩ []).run
        (ReaderState.start.facing tokens 0) =
      (Reader.sequence 1 ⟨Flags.ofRules, true, true⟩ pieces).run
        (ReaderState.start.facing [] position))
    (noCause : (Reader.assemble pieces).cause? false = none) :
    Pattern.ofText text = .ok ⟨Reader.assemble pieces, 0, []⟩ := by
  have stream : TokenStream.ofText text = .ok ⟨tokens, 0, false⟩ := by
    rw [TokenStream.ofText, tokenized]
    exact Reader.checked_facing tokens 0
  have read := Reader.choice_of_sequence _ _ ReaderState.start tokens pieces position reads
  have done : Pattern.finish (Reader.assemble pieces) (ReaderState.start.facing [] position) =
      .ok ⟨Reader.assemble pieces, 0, []⟩ := by
    have loopFree : (ReaderState.start.facing [] position).given.contains .loopFree = false := rfl
    simp only [Pattern.finish, loopFree, noCause]
    rfl
  rw [Pattern.ofText, stream]
  show ((Reader.choice (3 * tokens.length + 2 + 1) ⟨Flags.ofRules, true, true⟩).run
      (ReaderState.start.facing tokens 0) >>= fun result => Pattern.finish result.1 result.2) = _
  rw [read]
  exact done

/-! ### Matching literal characters -/

/-- A sequence is its first node and then the rest of it. -/
theorem Node.run_sequence_cons (node : Node) (nodes : List Node) (next : Continuation)
    (cursor : Cursor) :
    (Node.sequence (node :: nodes)).run next cursor =
      node.run (fun middle => (Node.sequence nodes).run next middle) cursor := by
  cases nodes with
  | nil => rfl
  | cons second nodes => rfl

/-- Literal characters, and then what follows behind the text that they spell. -/
theorem Node.run_literals (text : Text) (nodes : List Node) (next : Continuation)
    (cursor : Cursor) :
    (Node.sequence (text.map Node.exactly ++ nodes)).run next cursor =
      match Text.after? text cursor.ahead with
      | some rest => (Node.sequence nodes).run next (cursor.pass text rest)
      | none => none := by
  rw [Node.run_eq_findSome?, Node.ways_literals]
  cases Text.after? text cursor.ahead with
  | none => rfl
  | some rest => exact (Node.run_eq_findSome? _ next _).symm

/-- Literal characters are no cause for a refusal. -/
theorem Node.cause?_sequence (loopFree : Bool) (nodes : List Node)
    (none : ∀ node ∈ nodes, node.cause? loopFree = none) :
    (Node.sequence nodes).cause? loopFree = Option.none := by
  induction nodes with
  | nil => rfl
  | cons node nodes inductionHypothesis =>
    cases nodes with
    | nil => exact none node List.mem_cons_self
    | cons second nodes =>
      rw [Node.sequence, Node.cause?, none node List.mem_cons_self,
        inductionHypothesis fun other member => none other (List.mem_cons_of_mem _ member)]
      · rfl
      · simp

/-! ### Where a pattern does not occur -/

namespace Pattern

theorem replaceHere_of_none (pattern : Pattern) (render : Match → Text) (behind ahead : Text)
    (offset : Nat) (missing : pattern.matchAt false behind ahead offset = none) :
    pattern.replaceHere render behind ahead offset = ([], 0) := by
  rw [replaceHere, missing]

/-- A place without a match is passed over. -/
theorem replaceFrom_of_none (pattern : Pattern) (render : Match → Text) (behind rest : Text)
    (c : Char) (offset : Nat) (missing : pattern.matchAt false behind (c :: rest) offset = none) :
    pattern.replaceFrom render 0 behind (c :: rest) offset =
      c :: pattern.replaceFrom render 0 (c :: behind) rest (offset + 1) := by
  rw [replaceFrom, replaceHere_of_none pattern render behind (c :: rest) offset missing]
  rfl

theorem replaceFrom_of_not_occursFrom (pattern : Pattern) (render : Match → Text)
    (behind ahead : Text) (offset : Nat)
    (missing : pattern.occursFrom behind ahead offset = false) :
    pattern.replaceFrom render 0 behind ahead offset = ahead := by
  induction ahead generalizing behind offset with
  | nil =>
    rw [occursFrom, Option.isSome_eq_false_iff, Option.isNone_iff_eq_none] at missing
    rw [replaceFrom, replaceHere_of_none pattern render behind [] offset missing]
  | cons c rest inductionHypothesis =>
    rw [occursFrom, Bool.or_eq_false_iff, Option.isSome_eq_false_iff,
      Option.isNone_iff_eq_none] at missing
    rw [replaceFrom_of_none pattern render behind rest c offset missing.1,
      inductionHypothesis _ _ missing.2]

theorem replaceAll_of_not_occursIn (pattern : Pattern) (render : Match → Text) (text : Text)
    (missing : pattern.occursIn text = false) : pattern.replaceAll render text = text :=
  replaceFrom_of_not_occursFrom pattern render [] text 0 missing

/-- The characters of a match are passed over without a look at them. -/
theorem replaceFrom_skip (pattern : Pattern) (render : Match → Text) (taken behind rest : Text)
    (offset : Nat) :
    pattern.replaceFrom render taken.length behind (taken ++ rest) offset =
      pattern.replaceFrom render 0 (taken.reverse ++ behind) rest (offset + taken.length) := by
  induction taken generalizing behind offset with
  | nil => rfl
  | cons c taken inductionHypothesis =>
    rw [List.length_cons, List.cons_append, replaceFrom, inductionHypothesis, List.reverse_cons,
      List.append_assoc, List.singleton_append, Nat.add_assoc, Nat.add_comm 1]

/-- A match that takes characters is replaced, and what follows it is gone through from there. -/
theorem replaceFrom_of_some (pattern : Pattern) (render : Match → Text) (behind rest : Text)
    (offset : Nat) (found : Match) (nonempty : found.text ≠ [])
    (matched : pattern.matchAt false behind (found.text ++ rest) offset = some found) :
    pattern.replaceFrom render 0 behind (found.text ++ rest) offset =
      render found ++ pattern.replaceFrom render 0 (found.text.reverse ++ behind) rest
        (offset + found.text.length) := by
  have here : pattern.replaceHere render behind (found.text ++ rest) offset =
      (render found, found.text.length) := by
    rw [replaceHere, matched]
    simp [nonempty]
  cases text : found.text with
  | nil => exact absurd text nonempty
  | cons c taken =>
    rw [text] at here
    rw [List.cons_append] at here ⊢
    rw [replaceFrom, here]
    simp only [List.length_cons]
    rw [replaceFrom_skip, List.reverse_cons, List.append_assoc, List.singleton_append,
      Nat.add_assoc, Nat.add_comm 1]

end Pattern

/-! ### Substitutes -/

namespace Substitute

/-- The token of a character in an escaped substitute. -/
def escapedToken (c : Char) : Token := if c = '\\' then .escape c else .plain c

theorem escapeSubstitute_cons (c : Char) (text : Text) :
    escapeSubstitute (c :: text) =
      (if c = '\\' then ['\\', '\\'] else [c]) ++ escapeSubstitute text :=
  List.flatMap_cons

theorem tokenize_escapeSubstitute (text : Text) :
    tokenize (escapeSubstitute text) = (text.map escapedToken, false) := by
  induction text with
  | nil => rfl
  | cons c text inductionHypothesis =>
    rw [escapeSubstitute_cons, List.map_cons, escapedToken]
    by_cases backslash : c = '\\'
    · rw [if_pos backslash, if_pos backslash, List.cons_append, List.cons_append, List.nil_append,
        tokenize_escape, inductionHypothesis, backslash]
    · rw [if_neg backslash, if_neg backslash, List.cons_append, List.nil_append,
        tokenize_plain c _ backslash, inductionHypothesis]

theorem escapeSubstitute_of_plain (text : Text) (plain : '\\' ∉ escapeSubstitute text) :
    escapeSubstitute text = text := by
  induction text with
  | nil => rfl
  | cons c text inductionHypothesis =>
    rw [escapeSubstitute_cons] at plain ⊢
    by_cases backslash : c = '\\'
    · rw [if_pos backslash] at plain
      exact absurd List.mem_cons_self plain
    · rw [if_neg backslash] at plain ⊢
      rw [inductionHypothesis fun member => plain (List.mem_cons_of_mem c member),
        List.singleton_append]

theorem next_facing (token : Token) (ahead : List Token) (position : Nat) :
    TokenStream.next ⟨token :: ahead, position, false⟩ =
      .ok (some token, ⟨ahead, position + token.width, false⟩) := by
  simp only [TokenStream.next, Reader.checked_facing]

/-- The parts of an escaped substitute are its characters. -/
theorem parts_escaped (pattern : Pattern) (text : Text) (fuel position : Nat)
    (enough : text.length < fuel) :
    parts pattern fuel ⟨text.map escapedToken, position, false⟩ =
      .ok (text.map fun c => .text [c]) := by
  induction text generalizing fuel position with
  | nil =>
    cases fuel with
    | zero => rfl
    | succ fuel => rfl
  | cons c text inductionHypothesis =>
    cases fuel with
    | zero => exact absurd enough (Nat.not_lt_zero _)
    | succ fuel =>
      have fewer : text.length < fuel := Nat.lt_of_succ_lt_succ enough
      rw [List.map_cons, parts, next_facing, escapedToken]
      by_cases backslash : c = '\\'
      · rw [if_pos backslash, backslash]
        show (do return SubstitutePart.text ['\\'] :: (← parts pattern fuel _)) = _
        rw [inductionHypothesis fuel _ fewer]
        rfl
      · rw [if_neg backslash]
        show (do return SubstitutePart.text [c] :: (← parts pattern fuel _)) = _
        rw [inductionHypothesis fuel _ fewer]
        rfl

/-- An escaped substitute replaces every match by the text that it stands for. -/
theorem ofText_escapeSubstitute (pattern : Pattern) (text : Text) :
    ∃ substitute, ofText pattern (escapeSubstitute text) = .ok substitute ∧
      ∀ found, render substitute found = text := by
  by_cases plain : '\\' ∈ escapeSubstitute text
  · refine ⟨text.map fun c => .text [c], ?_, fun found => ?_⟩
    · have contains : (escapeSubstitute text).contains '\\' = true :=
        List.contains_iff_mem.mpr plain
      have stream : TokenStream.ofText (escapeSubstitute text) =
          .ok ⟨text.map escapedToken, 0, false⟩ := by
        rw [TokenStream.ofText, tokenize_escapeSubstitute]
        exact Reader.checked_facing _ 0
      rw [ofText, if_pos contains, stream]
      exact parts_escaped pattern text _ 0 (by simp)
    · rw [render, List.flatMap_map]
      exact List.flatMap_singleton' text
  · refine ⟨[.text text], ?_, fun found => ?_⟩
    · have contains : ¬ (escapeSubstitute text).contains '\\' = true :=
        fun member => plain (List.contains_iff_mem.mp member)
      rw [ofText, if_neg contains, escapeSubstitute_of_plain text plain]
    · exact List.append_nil text

end Substitute

end Stencil
