/-
This file proves that the rule for whole identifiers replaces words. Its pattern is the escaped name
between a look behind and a look ahead that refuse identifier characters. Once the pattern has been
read, it matches at a place exactly when the name stands there with no identifier character on
either side; going through a text from left to right then comes upon every word that is the name,
and upon nothing else.
-/
import Stencil.Proofs.Escaping
import Stencil.Proofs.Words

namespace Stencil

/-! ### Reading the pattern -/

/-- The set of identifier characters. -/
def identifierSet : Node :=
  .char (.set .exact false [.cls ⟨.word, false, false⟩, .code '$'.toNat])

/-- The tokens of the set of identifier characters and of the parenthesis behind it. -/
def identifierSetTokens : List Token :=
  [.plain '[', .escape 'w', .plain '$', .plain ']', .plain ')']

/-- The state with another bound for the groups that may be referred to. -/
def ReaderState.floored (state : ReaderState) (floor : Option Nat) : ReaderState :=
  { state with lookbehindFloor := floor }

namespace Reader

theorem choice_identifierSet [CharacterNames] (fuel : Nat) (state : ReaderState)
    (ahead : List Token) (position : Nat) :
    (choice (fuel + 3) (.inner Flags.ofRules)).run
        (state.facing (identifierSetTokens ++ ahead) position) =
      .ok (identifierSet, state.facing (.plain ')' :: ahead) (position + 5)) := by
  rfl

theorem closing_facing (start : Nat) (state : ReaderState) (ahead : List Token) (position : Nat) :
    (closing start).run (state.facing (.plain ')' :: ahead) position) =
      .ok ((), state.facing ahead (position + 1)) := by
  rw [closing, run_bind_of_ok (accept_facing_same state ')' ahead position)]
  rfl

/-- An opening parenthesis hands over to the reader of groups. -/
theorem sequence_parenthesis [CharacterNames] (fuel : Nat) (scope : Scope) (pieces : List Piece)
    (state : ReaderState) (ahead : List Token) (position : Nat)
    (notVerbose : scope.flags.verbose = false) :
    (sequence (fuel + 1) scope pieces).run (state.facing (.plain '(' :: ahead) position) =
      (group fuel scope pieces).run (state.facing ahead (position + 1)) := by
  have goesOn : (Token.plain '(' == Token.plain '|' || Token.plain '(' == Token.plain ')') =
      false := rfl
  have noSet : '(' ≠ '[' := by decide
  have noDot : '(' ≠ '.' := by decide
  have noRepetition : isRepetition '(' = false := rfl
  rw [sequence, run_bind_of_ok (peek_facing state _ position)]
  simp only [List.head?_cons, Token.isPlain, goesOn, notVerbose, Bool.false_and, noSet, noDot,
    noRepetition, Bool.false_eq_true, if_false, if_true]
  rw [run_bind_of_ok (next_facing state _ ahead position)]
  rfl

theorem opening_ahead (start : Nat) (state : ReaderState) (ahead : List Token) (position : Nat) :
    (opening start).run
        (state.facing (.plain '?' :: .plain '!' :: (identifierSetTokens ++ ahead)) position) =
      .ok (.ahead true, state.facing (identifierSetTokens ++ ahead) (position + 2)) := rfl

theorem opening_behind (start : Nat) (state : ReaderState) (ahead : List Token) (position : Nat) :
    (opening start).run
        (state.facing (.plain '?' :: .plain '<' :: .plain '!' :: (identifierSetTokens ++ ahead))
          position) =
      .ok (.behind true, state.facing (identifierSetTokens ++ ahead) (position + 3)) := rfl

/-- The look ahead that refuses identifier characters. -/
theorem sequence_ahead [CharacterNames] (fuel : Nat) (scope : Scope) (pieces : List Piece)
    (state : ReaderState) (ahead : List Token) (position : Nat)
    (flags : scope.flags = Flags.ofRules) :
    (sequence (fuel + 5) scope pieces).run
        (state.facing (.plain '(' :: .plain '?' :: .plain '!' :: (identifierSetTokens ++ ahead))
          position) =
      (sequence (fuel + 3) scope (.other (.ahead true identifierSet) :: pieces)).run
        (state.facing ahead (position + 9)) := by
  rw [sequence_parenthesis _ _ _ _ _ _ (by rw [flags]; rfl), group,
    run_bind_of_ok (position_facing state _ _)]
  dsimp only
  rw [run_bind_of_ok (opening_ahead _ state ahead _), flags]
  dsimp only
  rw [run_bind_of_ok (choice_identifierSet fuel state ahead _),
    run_bind_of_ok (closing_facing _ state ahead _)]

theorem modify_floor (floor : Option Nat) (state : ReaderState) (ahead : List Token)
    (position : Nat) :
    (modify fun state => { state with lookbehindFloor := floor } : Reader PUnit).run
        (state.facing ahead position) =
      .ok (⟨⟩, (state.floored floor).facing ahead position) := rfl

/-- The look behind that refuses identifier characters. -/
theorem sequence_behind [CharacterNames] (fuel : Nat) (scope : Scope) (pieces : List Piece)
    (state : ReaderState) (ahead : List Token) (position : Nat)
    (flags : scope.flags = Flags.ofRules) (outside : state.lookbehindFloor = none) :
    (sequence (fuel + 5) scope pieces).run
        (state.facing
          (.plain '(' :: .plain '?' :: .plain '<' :: .plain '!' :: (identifierSetTokens ++ ahead))
          position) =
      (sequence (fuel + 3) scope (.other (.behind true ⟨1, 1⟩ identifierSet) :: pieces)).run
        (state.facing ahead (position + 10)) := by
  rw [sequence_parenthesis _ _ _ _ _ _ (by rw [flags]; rfl), group,
    run_bind_of_ok (position_facing state _ _)]
  dsimp only
  rw [run_bind_of_ok (opening_behind _ state ahead _), flags]
  dsimp only
  -- Within the look behind only groups that were closed before it may be referred to; behind it
  -- the bound is again what it was.
  have floor : (state.facing (identifierSetTokens ++ ahead) (position + 1 + 3)).lookbehindFloor =
      none := outside
  have restored (limit : Nat) : (state.floored (some limit)).floored none = state := by
    obtain ⟨stream, given, names, widths, _, conditions⟩ := state
    cases outside
    rfl
  rw [run_bind_of_ok (rfl : (get : Reader ReaderState).run _ = .ok (_, _))]
  simp only [floor, Option.isNone_none, if_true]
  rw [run_bind_of_ok (rfl : groupLimit.run _ = .ok (_, _)),
    run_bind_of_ok (modify_floor _ state _ _),
    run_bind_of_ok (choice_identifierSet fuel _ ahead _), run_bind_of_ok (modify_floor _ _ _ _),
    run_bind_of_ok (closing_facing _ _ ahead _), restored]
  rfl

end Reader

/-- The pattern of a whole identifier as it is read. -/
def wholeIdentifierNodes (name : Text) : List Node :=
  .behind true ⟨1, 1⟩ identifierSet :: (name.map Node.exactly ++ [.ahead true identifierSet])

/-- The pieces of the pattern, last one first. -/
def wholeIdentifierPieces (name : Text) : List Piece :=
  .other (.ahead true identifierSet) ::
    ((name.map fun c => Reader.literalPiece Flags.ofRules c.toNat).reverse ++
      [.other (.behind true ⟨1, 1⟩ identifierSet)])

theorem assemble_wholeIdentifierPieces (name : Text) :
    Reader.assemble (wholeIdentifierPieces name) = Node.sequence (wholeIdentifierNodes name) := by
  rw [Reader.assemble, wholeIdentifierPieces, wholeIdentifierNodes]
  simp only [List.reverse_cons, List.reverse_append, List.reverse_reverse, List.reverse_nil,
    List.nil_append, List.map_append, List.map_cons, List.map_map, List.map_nil,
    List.cons_append, Piece.node]
  rfl

theorem cause?_wholeIdentifierNodes (name : Text) :
    (Node.sequence (wholeIdentifierNodes name)).cause? false = none := by
  refine Node.cause?_sequence false _ fun node member => ?_
  simp only [wholeIdentifierNodes, List.mem_cons, List.mem_append, List.mem_map,
    List.not_mem_nil, or_false] at member
  rcases member with rfl | ⟨c, _, rfl⟩ | rfl <;> rfl

theorem wholeIdentifierPattern_eq (name : Text) :
    wholeIdentifierPattern name =
      ['(', '?', '<', '!', '[', '\\', 'w', '$', ']', ')'] ++
        (escapePattern name ++ ['(', '?', '!', '[', '\\', 'w', '$', ']', ')']) := by
  unfold wholeIdentifierPattern
  rw [List.append_assoc]
  simp only [String.reduceToList]

/-- The tokens of the pattern. -/
def wholeIdentifierTokens (name : Text) : List Token :=
  .plain '(' :: .plain '?' :: .plain '<' :: .plain '!' :: (identifierSetTokens ++
    (name.map escapedToken ++
      .plain '(' :: .plain '?' :: .plain '!' :: (identifierSetTokens ++ [])))

theorem length_wholeIdentifierTokens (name : Text) :
    (wholeIdentifierTokens name).length = name.length + 17 := by
  simp only [wholeIdentifierTokens, identifierSetTokens, List.length_cons, List.length_append,
    List.length_map, List.length_nil]
  omega

theorem tokenize_wholeIdentifierPattern (name : Text) :
    tokenize (wholeIdentifierPattern name) = (wholeIdentifierTokens name, false) := by
  have ending : tokenize ['(', '?', '!', '[', '\\', 'w', '$', ']', ')'] =
      (.plain '(' :: .plain '?' :: .plain '!' :: (identifierSetTokens ++ []), false) := by
    rw [tokenize_plain _ _ (by decide), tokenize_plain _ _ (by decide),
      tokenize_plain _ _ (by decide), tokenize_plain _ _ (by decide), tokenize_escape,
      tokenize_plain _ _ (by decide), tokenize_plain _ _ (by decide),
      tokenize_plain _ _ (by decide)]
    rfl
  rw [wholeIdentifierPattern_eq]
  simp only [List.cons_append, List.nil_append]
  rw [tokenize_plain _ _ (by decide), tokenize_plain _ _ (by decide),
    tokenize_plain _ _ (by decide), tokenize_plain _ _ (by decide), tokenize_plain _ _ (by decide),
    tokenize_escape, tokenize_plain _ _ (by decide), tokenize_plain _ _ (by decide),
    tokenize_plain _ _ (by decide), tokenize_escapePattern_append, ending]
  rfl

/-- The tokens of the pattern are read to the end as its pieces. -/
theorem Reader.sequence_wholeIdentifier [CharacterNames] (fuel : Nat) (name : Text) :
    (sequence (fuel + name.length + 7) ⟨Flags.ofRules, true, true⟩ []).run
        (ReaderState.start.facing (wholeIdentifierTokens name) 0) =
      (sequence (fuel + 3) ⟨Flags.ofRules, true, true⟩ (wholeIdentifierPieces name)).run
        (ReaderState.start.facing [] (0 + 10 + (escapePattern name).length + 9)) := by
  have reordered : fuel + name.length + 2 + 3 = fuel + 5 + name.length := by omega
  rw [wholeIdentifierTokens, sequence_behind (fuel + name.length + 2) _ _ _ _ _ rfl rfl, reordered,
    sequence_escaped _ _ _ _ _ _ _ rfl,
    sequence_ahead _ _ _ _ _ _ rfl, wholeIdentifierPieces]

/-- The pattern of a whole identifier: a look behind, the characters of the name and a look ahead.
-/
def Pattern.wholeIdentifier (name : Text) : Pattern :=
  ⟨Node.sequence (wholeIdentifierNodes name), 0, []⟩

theorem ofText_wholeIdentifierPattern [CharacterNames] (name : Text) :
    Pattern.ofText (wholeIdentifierPattern name) = .ok (Pattern.wholeIdentifier name) := by
  rw [Pattern.wholeIdentifier, ← assemble_wholeIdentifierPieces]
  refine Pattern.ofText_of_sequence _ _ _ (0 + 10 + (escapePattern name).length + 9)
    (tokenize_wholeIdentifierPattern name) ?_ ?_
  · have fuel : 3 * (name.length + 17) + 2 = 2 * name.length + 46 + name.length + 7 := by omega
    rw [length_wholeIdentifierTokens, fuel, Reader.sequence_wholeIdentifier]
    rfl
  · rw [assemble_wholeIdentifierPieces]
    exact cause?_wholeIdentifierNodes name

/-! ### Matching the pattern -/

theorem run_identifierSet (next : Continuation) (cursor : Cursor) :
    identifierSet.run next cursor =
      match cursor.ahead with
      | [] => none
      | c :: rest => if isIdentifierChar c then next (cursor.step c rest) else none := by
  have accepts (c : Char) :
      (CharTest.set .exact false [.cls ⟨.word, false, false⟩, .code '$'.toNat]).accepts c =
        isIdentifierChar c := by
    have dollar : (c.toNat == '$'.toNat) = (c == '$') := by
      rw [Bool.eq_iff_iff, beq_iff_eq, beq_iff_eq, Char.toNat_inj]
    simp only [CharTest.accepts, List.any_cons, List.any_nil, SetMember.accepts, CharClass.accepts,
      CharKind.holds, dollar, isIdentifierChar, Bool.or_false, Bool.bne_false]
    exact Bool.or_comm _ _
  rw [identifierSet, Node.run]
  cases cursor.ahead with
  | nil => rfl
  | cons c rest => simp only [accepts]

/-- The look ahead succeeds where a word may end. -/
theorem run_refuseAhead (next : Continuation) (cursor : Cursor) :
    (Node.ahead true identifierSet).run next cursor =
      if endsWord cursor.ahead then next cursor else none := by
  rw [Node.run, run_identifierSet]
  cases cursor.ahead with
  | nil => rfl
  | cons c rest => cases letter : isIdentifierChar c <;> simp [endsWord, letter]

/-- The look behind succeeds where a word may begin. -/
theorem run_refuseBehind (next : Continuation) (cursor : Cursor) :
    (Node.behind true ⟨1, 1⟩ identifierSet).run next cursor =
      if endsWord cursor.behind then next cursor else none := by
  rw [Node.run]
  cases behind : cursor.behind with
  | nil => simp [Cursor.back?, behind, endsWord]
  | cons c rest =>
    simp only [Cursor.back?, behind, run_identifierSet]
    cases letter : isIdentifierChar c <;> simp [endsWord, letter]

/-- The pattern matches the name exactly where it stands as a whole identifier. -/
theorem matchAt_wholeIdentifier (name behind ahead : Text) (offset : Nat) :
    (Pattern.wholeIdentifier name).matchAt false behind ahead offset =
      (afterWholeName? name behind ahead).map fun _ => ⟨name, []⟩ := by
  rw [Pattern.matchAt, Pattern.wholeIdentifier, wholeIdentifierNodes]
  simp only [Node.run_sequence_cons, run_refuseBehind, Node.run_literals, run_refuseAhead,
    Bool.false_and, Bool.false_eq_true, if_false]
  rw [afterWholeName?]
  cases follows : Text.after? name ahead with
  | none => simp
  | some rest =>
    have taken : ahead.take name.length = name := by
      rw [(Text.after?_eq_some_iff name ahead rest).mp follows, List.take_left]
    cases begins : endsWord behind <;> cases ends : endsWord rest <;>
      simp [Cursor.pass, Node.sequence, Node.run, ends, taken]

/-! ### Replacing every match -/

/-- A word ends where the identifier characters end, so it is known from the text that begins
with it. -/
theorem IsWord.eq_of_append_eq {first second rest other : Text} (isFirst : IsWord first)
    (isSecond : IsWord second) (ends : endsWord rest = true) (otherEnds : endsWord other = true)
    (same : first ++ rest = second ++ other) : first = second := by
  have cut := stretches_word first rest isFirst ends
  rw [same, stretches_word second other isSecond otherEnds] at cut
  injection cut with head _
  injection head with equal
  exact equal.symm

theorem endsWord_append_word {name : Text} (rest : Text) (isWord : IsWord name) :
    endsWord (name ++ rest) = false := by
  cases name with
  | nil => exact absurd rfl isWord.ne_nil
  | cons c name =>
    rw [List.cons_append, endsWord_cons, isWord.isIdentifierChar List.mem_cons_self]
    rfl

/-- At a word the name stands as a whole exactly if it is that word. -/
theorem afterWholeName?_word (name word behind rest : Text) (isName : IsWord name)
    (isWord : IsWord word) (begins : endsWord behind = true) (ends : endsWord rest = true) :
    afterWholeName? name behind (word ++ rest) = if word = name then some rest else none := by
  by_cases same : word = name
  · rw [if_pos same, same, afterWholeName?, Text.after?_append]
    simp [begins, ends]
  · rw [if_neg same, afterWholeName?]
    cases follows : Text.after? name (word ++ rest) with
    | none => rfl
    | some other =>
      have split := (Text.after?_eq_some_iff _ _ _).mp follows
      have longer : endsWord other = false := by
        rw [← Bool.not_eq_true]
        exact fun otherEnds => same (isWord.eq_of_append_eq isName ends otherEnds split)
      simp [longer]

/-- The name stands nowhere within a word. -/
theorem afterWholeName?_inside (name behind ahead : Text) (inside : endsWord behind = false) :
    afterWholeName? name behind ahead = none := by
  rw [afterWholeName?]
  cases Text.after? name ahead <;> simp [inside]

/-- The name does not stand where no word begins. -/
theorem afterWholeName?_outside (name behind ahead : Text) (isName : IsWord name)
    (outside : endsWord ahead = true) : afterWholeName? name behind ahead = none := by
  rw [afterWholeName?]
  cases follows : Text.after? name ahead with
  | none => rfl
  | some rest =>
    rw [(Text.after?_eq_some_iff _ _ _).mp follows, endsWord_append_word rest isName] at outside
    exact absurd outside Bool.false_ne_true

namespace Pattern

/-- Within a word nothing is replaced. -/
theorem replaceFrom_inside (name : Text) (render : Match → Text) (part behind rest : Text)
    (offset : Nat) (letters : part.all isIdentifierChar = true)
    (inside : endsWord behind = false) :
    (wholeIdentifier name).replaceFrom render 0 behind (part ++ rest) offset =
      part ++ (wholeIdentifier name).replaceFrom render 0 (part.reverse ++ behind) rest
        (offset + part.length) := by
  induction part generalizing behind offset with
  | nil => rfl
  | cons c part inductionHypothesis =>
    rw [List.all_cons, Bool.and_eq_true] at letters
    have missing :
        (wholeIdentifier name).matchAt false behind (c :: (part ++ rest)) offset = none := by
      rw [matchAt_wholeIdentifier, afterWholeName?_inside name behind _ inside]
      rfl
    rw [List.cons_append, replaceFrom_of_none _ _ _ _ _ _ missing,
      inductionHypothesis (c :: behind) (offset + 1) letters.2
        (by rw [endsWord_cons, letters.1]; rfl),
      List.reverse_cons, List.append_assoc, List.singleton_append, List.length_cons, Nat.add_assoc,
      Nat.add_comm 1, List.cons_append]

/-- From a place that is not within a word, what is replaced is every word that is the name. -/
theorem replaceFrom_wholeIdentifier (name substitute : Text) (render : Match → Text)
    (rendered : ∀ found, render found = substitute) (isName : IsWord name) (behind ahead : Text)
    (offset : Nat) (outside : endsWord behind = true ∨ endsWord ahead = true) :
    (wholeIdentifier name).replaceFrom render 0 behind ahead offset =
      replaceWord name substitute ahead := by
  -- After a word the characters behind are part of one, but then no word begins ahead.
  induction ahead using wordInduction generalizing behind offset with
  | nil =>
    have missing := afterWholeName?_outside name behind [] isName rfl
    rw [replaceFrom, replaceHere_of_none, replaceWord, mapWords_nil]
    rw [matchAt_wholeIdentifier, missing]
    rfl
  | sign c rest noWord inductionHypothesis =>
    have ends : endsWord (c :: rest) = true := by rw [endsWord_cons, noWord]; rfl
    have missing := afterWholeName?_outside name behind (c :: rest) isName ends
    rw [replaceFrom_of_none _ _ _ _ _ _ (by rw [matchAt_wholeIdentifier, missing]; rfl),
      inductionHypothesis (c :: behind) _ (Or.inl (by rw [endsWord_cons, noWord]; rfl)),
      replaceWord, mapWords_sign _ c rest noWord]
  | word word rest isWord ends inductionHypothesis =>
    have begins : endsWord behind = true := by
      rw [endsWord_append_word rest isWord] at outside
      exact outside.resolve_right Bool.false_ne_true
    have place := afterWholeName?_word name word behind rest isName isWord begins ends
    rw [replaceWord, mapWords_word_append _ word rest isWord ends, ← replaceWord]
    by_cases same : word = name
    · rw [if_pos same] at place ⊢
      subst same
      rw [replaceFrom_of_some _ _ _ _ _ ⟨word, []⟩ isWord.ne_nil
        (by rw [matchAt_wholeIdentifier, place]; rfl), rendered,
        inductionHypothesis _ _ (Or.inr ends)]
    · rw [if_neg same] at place ⊢
      cases word with
      | nil => exact absurd rfl isWord.ne_nil
      | cons c part =>
        have letters := isWord.2
        rw [List.all_cons, Bool.and_eq_true] at letters
        rw [List.cons_append] at place ⊢
        rw [replaceFrom_of_none _ _ _ _ _ _ (by rw [matchAt_wholeIdentifier, place]; rfl),
          replaceFrom_inside name render part (c :: behind) rest _ letters.2
            (by rw [endsWord_cons, letters.1]; rfl),
          inductionHypothesis _ _ (Or.inr ends), List.cons_append]

end Pattern

/-- The rule for whole identifiers never fails, whatever the name is: it puts the substitute in place
of every match. -/
theorem Rule.apply_wholeIdentifier_eq [CharacterNames] (owner name substitute text : Text) :
    Rule.apply owner (.wholeIdentifier name substitute) text =
      .ok ((Pattern.wholeIdentifier name).replaceAll (fun _ => substitute) text) := by
  obtain ⟨parts, read, rendered⟩ :=
    Substitute.ofText_escapeSubstitute (Pattern.wholeIdentifier name) substitute
  have isRegex : (wholeIdentifier name substitute).isRegex = true := rfl
  have pattern : (wholeIdentifier name substitute).pattern = wholeIdentifierPattern name := rfl
  have substituted :
      (wholeIdentifier name substitute).substitute = escapeSubstitute substitute := rfl
  have enforced : (wholeIdentifier name substitute).enforced = false := rfl
  unfold apply applyPattern
  simp only [isRegex, if_true, pattern, ofText_wholeIdentifierPattern, substituted, read, enforced,
    Bool.false_eq_true, if_false]
  by_cases occurs : (Pattern.wholeIdentifier name).occursIn text = true
  · rw [if_pos occurs, funext rendered]
  · rw [if_neg occurs,
      Pattern.replaceAll_of_not_occursIn _ _ _ (Bool.not_eq_true _ ▸ occurs)]

/-- Where the name is a word, the rule replaces the words that are the name. -/
theorem Rule.apply_wholeIdentifier [CharacterNames] (owner name substitute text : Text)
    (isName : IsWord name) :
    Rule.apply owner (.wholeIdentifier name substitute) text =
      .ok (replaceWord name substitute text) := by
  have replaced : (Pattern.wholeIdentifier name).replaceAll (fun _ => substitute) text =
      replaceWord name substitute text :=
    Pattern.replaceFrom_wholeIdentifier name substitute _ (fun _ => rfl) isName [] text 0
      (Or.inl rfl)
  rw [apply_wholeIdentifier_eq, replaced]

/-- The rule for an identifier never fails, whatever the substitute is. There is one way to cut a text
into longest runs of identifier characters and the characters between them; each run that is the
identifier is replaced by the substitute as it stands, and all else stays. -/
theorem Rule.wholeIdentifier_replaces_runs [CharacterNames]
    (owner identifier substitute text : Text) (isWord : IsWord identifier) :
    ∃ parts, CutInto text parts ∧ (∀ others, CutInto text others → others = parts) ∧
      parts.flatMap (Stretch.replaced fun run => run) = text ∧
      Rule.apply owner (.wholeIdentifier identifier substitute) text =
        .ok (parts.flatMap
          (Stretch.replaced fun run => if run = identifier then substitute else run)) := by
  refine ⟨stretches text, (cutInto_iff text _).mpr rfl, fun others cut => ?_, ?_, ?_⟩
  · exact ((cutInto_iff text others).mp cut).symm
  · exact mapWords_self text
  · exact apply_wholeIdentifier owner identifier substitute text isWord

section

attribute [local instance] CharacterNames.signs

/-- The identifier has a sign of patterns in it, and the substitute refers to groups. Longer runs,
one of them with a letter that is not of ASCII, stay. -/
theorem Rule.wholeIdentifier_replaces_runs_dollar :
    IsWord "T$".toList ∧
      Rule.apply "p.Box".toList (.wholeIdentifier "T$".toList "\\g<0>\n\\1\\".toList)
          "T$ é(T$)T$x éT$ .T$".toList =
        .ok "\\g<0>\n\\1\\ é(\\g<0>\n\\1\\)T$x éT$ .\\g<0>\n\\1\\".toList := by
  have isWord : IsWord "T$".toList := by decide +kernel
  obtain ⟨parts, -, only, -, applied⟩ := wholeIdentifier_replaces_runs "p.Box".toList "T$".toList
    "\\g<0>\n\\1\\".toList "T$ é(T$)T$x éT$ .T$".toList isWord
  have cut : stretches "T$ é(T$)T$x éT$ .T$".toList =
      [.word "T$".toList, .sign ' ', .word ['é'], .sign '(', .word "T$".toList, .sign ')',
        .word "T$x".toList, .sign ' ', .word "éT$".toList, .sign ' ', .sign '.',
        .word "T$".toList] := by decide +kernel
  rw [← only _ ((cutInto_iff _ _).mpr cut)] at applied
  refine ⟨isWord, applied.trans (congrArg Except.ok ?_)⟩
  decide +kernel

end

end Stencil
