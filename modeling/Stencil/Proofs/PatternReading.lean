/-
This file proves what reading a pattern can come to. A reader takes tokens from the front. If it
succeeds, the groups of the tree that it has built are those that were opened on the way, each of
them and no other, so that the groups of a pattern are the numbers from one up to its group count.
If it refuses, it does so with a fault, with the sole exception of a number of rounds that is too
large, and then digits that spell such a number are among the tokens ahead. Whether the flags of a
pattern agree is known only at its end, and they disagree only where the letters of both are there.

The specifications are triples: what holds of the state before a reader runs, of result and state
after it, and of the refusal. Most readers have the same one, that nothing but the stream changes
and that every refusal is a fault.
-/
import Mathlib
import Stencil.Pattern.Substitute
import Stencil.Proofs.Outcomes

namespace Stencil

open Std.Do

set_option mvcgen.warning false

/-! ### Refusals and token streams -/

/-- A refusal of the kind that callers foresee. -/
@[grind =]
def Refusal.IsFault : Refusal → Prop
  | .fault _ => True
  | _ => False

theorem triple_of_outcome {Result : Type} {outcome : Except Refusal Result}
    {ends : Result → Prop} {refuses : Refusal → Prop}
    (returned : ∀ result, outcome = .ok result → ends result)
    (refused : ∀ refusal, outcome = .error refusal → refuses refusal) :
    ⦃⌜True⌝⦄ outcome ⦃post⟨fun result => ⌜ends result⌝, fun refusal => ⌜refuses refusal⌝⟩⦄ := by
  intro _
  cases outcome with
  | ok result => exact returned result rfl
  | error refusal => exact refused refusal rfl

@[spec]
theorem triple_ok {Error Result : Type} (result : Result)
    (ends : PostCond Result (.except Error .pure)) :
    ⦃ends.1 result⦄ (Except.ok result : Except Error Result) ⦃ends⦄ := fun holds => holds

@[spec]
theorem triple_error {Error Result : Type} (error : Error)
    (ends : PostCond Result (.except Error .pure)) :
    ⦃ends.2.1 error⦄ (Except.error error : Except Error Result) ⦃ends⦄ := fun holds => holds

namespace TokenStream

theorem checked_eq_ok {stream after : TokenStream} (same : stream.checked = .ok after) :
    after = stream := by
  rw [checked] at same
  split at same <;> cases same
  rfl

theorem isFault_of_checked {stream : TokenStream} {refusal : Refusal}
    (refused : stream.checked = .error refusal) : refusal.IsFault := by
  rw [checked] at refused
  split at refused <;> cases refused
  trivial

theorem next_eq_ok {stream after : TokenStream} {token : Option Token}
    (same : stream.next = .ok (token, after)) :
    token = stream.ahead.head? ∧ after.ahead = stream.ahead.tail := by
  rw [next] at same
  split at same
  · next ended =>
    cases same
    rw [ended]
    exact ⟨rfl, rfl⟩
  · next first ahead faces =>
    split at same
    · next checked =>
      cases same
      rw [faces, checked_eq_ok checked]
      exact ⟨rfl, rfl⟩
    · cases same

theorem isFault_of_next {stream : TokenStream} {refusal : Refusal}
    (refused : stream.next = .error refusal) : refusal.IsFault := by
  rw [next] at refused
  split at refused
  · cases refused
  · split at refused <;> cases refused
    exact isFault_of_checked ‹_›

@[spec]
theorem takes_next (stream : TokenStream) :
    ⦃⌜True⌝⦄ stream.next
    ⦃post⟨fun taken => ⌜taken.1 = stream.ahead.head? ∧ taken.2.ahead = stream.ahead.tail⌝,
      fun refusal => ⌜refusal.IsFault⌝⟩⦄ :=
  triple_of_outcome (fun _ same => next_eq_ok same) fun _ => isFault_of_next

@[spec]
theorem takes_accept (stream : TokenStream) (c : Char) :
    ⦃⌜True⌝⦄ stream.accept c
    ⦃post⟨fun taken => ⌜stream.ahead = (if taken.1 then [.plain c] else []) ++ taken.2.ahead⌝,
      fun refusal => ⌜refusal.IsFault⌝⟩⦄ := by
  refine triple_of_outcome (fun taken same => ?_) fun refusal refused => ?_
  · rw [accept] at same
    split at same
    · next first ahead faces =>
      split at same
      · next isPlain =>
        split at same
        · next other after taken =>
          cases same
          rw [(next_eq_ok taken).2, faces, eq_of_beq isPlain]
          rfl
        · cases same
      · cases same
        rfl
    · cases same
      rfl
  · rw [accept] at refused
    split at refused
    · split at refused
      · split at refused <;> cases refused
        exact isFault_of_next ‹_›
      · cases refused
    · cases refused

@[spec]
theorem takes_takeWhile (inClass : Char → Bool) (count : Nat) (stream : TokenStream) :
    ⦃⌜True⌝⦄ stream.takeWhile inClass count
    ⦃post⟨fun taken => ⌜stream.ahead = taken.1.map .plain ++ taken.2.ahead ∧
        taken.1.all inClass = true⌝,
      fun refusal => ⌜refusal.IsFault⌝⟩⦄ := by
  induction count generalizing stream with
  | zero => mvcgen [takeWhile]
  | succ count inductionHypothesis =>
    mvcgen [takeWhile, inductionHypothesis]
    simp_all

/-- A name is spelled by the tokens before its terminator. -/
theorem takes_takeName (terminator : Char) (what : Text) (fuel : Nat) (taken : Text)
    (stream : TokenStream) (enough : stream.ahead.length < fuel) :
    ⦃⌜True⌝⦄ stream.takeName terminator what fuel taken
    ⦃post⟨fun named => ⌜∃ tokens, named.1 = taken ++ tokens.flatMap Token.text ∧
        stream.ahead = tokens ++ .plain terminator :: named.2.ahead⌝,
      fun refusal => ⌜refusal.IsFault⌝⟩⦄ := by
  induction fuel generalizing stream taken with
  | zero => omega
  | succ fuel inductionHypothesis =>
    have split {token : Token} {rest : List Token} (isNext : stream.ahead.head? = some token)
        (isRest : rest = stream.ahead.tail) : stream.ahead = token :: rest := by
      rw [isRest]
      exact List.eq_cons_of_mem_head? isNext
    mvcgen [takeName, inductionHypothesis]
    · next token isNext isTerminator _ taken =>
      have faces := split (taken.1.symm.trans isNext) taken.2
      exact ⟨[], by simp, by rw [faces, eq_of_beq isTerminator]; rfl⟩
    · next token isNext _ taken named =>
      rintro ⟨tokens, spelled, rest⟩
      have faces := split (taken.1.symm.trans isNext) taken.2
      exact ⟨token :: tokens, by simp [spelled], by rw [faces, rest]; rfl⟩
    · next token isNext _ =>
      intro isHead isRest
      have faces := split (isHead.symm.trans isNext) isRest
      simp [faces] at enough ⊢
      omega

@[spec]
theorem takes_name (stream : TokenStream) (terminator : Char) (what : Text) :
    ⦃⌜True⌝⦄ stream.name terminator what
    ⦃post⟨fun named => ⌜∃ tokens, named.1 = tokens.flatMap Token.text ∧
        stream.ahead = tokens ++ .plain terminator :: named.2.ahead⌝,
      fun refusal => ⌜refusal.IsFault⌝⟩⦄ := by
  have taken := takes_takeName terminator what (stream.ahead.length + 1) [] stream (by omega)
  simpa only [name, List.nil_append] using taken

end TokenStream

/-! ### Readers that only take tokens -/

/-- How far a reader has got that only takes tokens: what is ahead now was ahead before, and no
group has been opened and no flag given. -/
structure ReaderState.Beyond (before after : ReaderState) : Prop where
  ahead : after.stream.ahead <:+ before.stream.ahead
  groups : after.widths.length = before.widths.length
  given : after.given = before.given

namespace ReaderState.Beyond

@[grind .]
theorem refl (state : ReaderState) : state.Beyond state := ⟨List.suffix_refl _, rfl, rfl⟩

@[grind →]
theorem trans {first second third : ReaderState} (start : first.Beyond second)
    (rest : second.Beyond third) : first.Beyond third :=
  ⟨rest.ahead.trans start.ahead, rest.groups.trans start.groups, rest.given.trans start.given⟩

theorem ofStream {state : ReaderState} {stream : TokenStream}
    (suffix : stream.ahead <:+ state.stream.ahead) :
    state.Beyond { state with stream := stream } :=
  ⟨suffix, rfl, rfl⟩

theorem withFloor (state : ReaderState) (floor : Option Nat) :
    state.Beyond { state with lookbehindFloor := floor } :=
  ⟨List.suffix_refl _, rfl, rfl⟩

end ReaderState.Beyond

namespace Reader

/-- From a state on, a reader only takes tokens and refuses with faults only; `yields` is what holds
of its result and of the state that it leaves. -/
abbrev Takes {Result : Type} (reader : Reader Result) (state : ReaderState)
    (yields : Result → ReaderState → Prop) : Prop :=
  ⦃fun now => ⌜now = state⌝⦄ reader
  ⦃post⟨fun result now => ⌜state.Beyond now ∧ yields result now⌝,
    fun refusal => ⌜refusal.IsFault⌝⟩⦄

/-- The same where nothing more is said of the result. -/
abbrev Steady {Result : Type} (reader : Reader Result) (state : ReaderState) : Prop :=
  ⦃fun now => ⌜now = state⌝⦄ reader
  ⦃post⟨fun _ now => ⌜state.Beyond now⌝, fun refusal => ⌜refusal.IsFault⌝⟩⦄

@[spec]
theorem takes_next (state : ReaderState) :
    Takes next state fun token now =>
      token = state.stream.ahead.head? ∧ now.stream.ahead = state.stream.ahead.tail := by
  mvcgen [next, onStream]
  next same taken _ isTaken =>
  subst same
  exact ⟨.ofStream (isTaken.2 ▸ List.tail_suffix _), isTaken⟩

@[spec]
theorem takes_accept (c : Char) (state : ReaderState) :
    Takes (accept c) state fun taken now =>
      state.stream.ahead = (if taken then [.plain c] else []) ++ now.stream.ahead := by
  mvcgen [accept, onStream]
  next same taken _ isTaken =>
  subst same
  exact ⟨.ofStream ⟨_, isTaken.symm⟩, isTaken⟩

@[spec]
theorem takes_takeChars (inClass : Char → Bool) (count : Nat) (state : ReaderState) :
    Takes (takeChars inClass count) state fun taken now =>
      state.stream.ahead = taken.map .plain ++ now.stream.ahead ∧ taken.all inClass = true := by
  mvcgen [takeChars, onStream]
  next same taken _ isTaken =>
  subst same
  exact ⟨.ofStream ⟨_, isTaken.1.symm⟩, isTaken⟩

@[spec]
theorem steady_takeName (terminator : Char) (what : String) (state : ReaderState) :
    Steady (takeName terminator what) state := by
  mvcgen [takeName, onStream]
  next same named _ isNamed =>
  obtain ⟨tokens, -, faces⟩ := isNamed
  subst same
  exact .ofStream ⟨tokens ++ [.plain terminator], by rw [faces]; simp⟩

@[spec]
theorem refuses_faultBefore {Result : Type} (before : Nat) (cause : FaultCause) :
    ⦃fun _ => ⌜True⌝⦄ (faultBefore before cause : Reader Result)
    ⦃post⟨fun _ _ => ⌜False⌝, fun refusal => ⌜refusal.IsFault⌝⟩⦄ :=
  fun _ _ => trivial

@[spec]
theorem refuses_faultAt {Result : Type} (position : Nat) (cause : FaultCause) :
    ⦃fun _ => ⌜True⌝⦄ (faultAt position cause : Reader Result)
    ⦃post⟨fun _ _ => ⌜False⌝, fun refusal => ⌜refusal.IsFault⌝⟩⦄ :=
  fun _ _ => trivial

@[spec]
theorem refuses_badEscape {Result : Type} (c : Char) :
    ⦃fun _ => ⌜True⌝⦄ (badEscape c : Reader Result)
    ⦃post⟨fun _ _ => ⌜False⌝, fun refusal => ⌜refusal.IsFault⌝⟩⦄ :=
  refuses_faultBefore 2 _

@[spec]
theorem steady_hexEscape (lead : Char) (count : Nat) (state : ReaderState) :
    Steady (hexEscape lead count) state := by
  mvcgen [hexEscape]
  grind

@[spec]
theorem steady_namedEscape [CharacterNames] (state : ReaderState) : Steady namedEscape state := by
  mvcgen [namedEscape] <;> grind

@[spec]
theorem steady_octalEscape (digits : Text) (state : ReaderState) :
    Steady (octalEscape digits) state := by
  mvcgen [octalEscape]
  grind

theorem steady_of_codeEscape? [CharacterNames] {c : Char} {reader : Reader Nat}
    (found : codeEscape? c = some reader) (state : ReaderState) : Steady reader state := by
  unfold codeEscape? at found
  split at found <;> cases found
  · exact steady_hexEscape _ _ state
  · exact steady_hexEscape _ _ state
  · exact steady_hexEscape _ _ state
  · exact steady_namedEscape state

@[spec]
theorem takes_groupLimit (state : ReaderState) :
    Takes groupLimit state fun limit now => now = state ∧ limit = state.widths.length + 1 := by
  mvcgen [groupLimit]
  grind

@[spec]
theorem steady_closedWidth? (group : Nat) (state : ReaderState) :
    Steady (closedWidth? group) state := by
  mvcgen [closedWidth?] <;> grind

@[spec]
theorem steady_checkLookbehind (group : Nat) (state : ReaderState) :
    Steady (checkLookbehind group) state := by
  mvcgen [checkLookbehind] <;> grind

end Reader

/-! ### Groups of trees -/

/-- The groups of a tree, in the order in which they open. -/
def Node.groups : Node → List Nat
  | .empty | .char _ | .anchor _ | .again _ _ _ => []
  | .seq first second | .alt first second | .ifCaptured _ first second =>
    first.groups ++ second.groups
  | .capture group body => group :: body.groups
  | .loop _ _ _ body | .atomic body | .ahead _ body | .behind _ _ body => body.groups

theorem Node.groups_sequence (nodes : List Node) :
    (Node.sequence nodes).groups = nodes.flatMap groups := by
  induction nodes with
  | nil => rfl
  | cons node nodes inductionHypothesis =>
    cases nodes with
    | nil => simp [sequence]
    | cons second nodes => exact congrArg (node.groups ++ ·) inductionHypothesis

namespace Reader

/-- The groups in the nodes of pieces. -/
def groupsOf (pieces : List Piece) : List Nat := pieces.flatMap fun piece => piece.node.groups

theorem mem_groups_assemble (pieces : List Piece) (group : Nat) :
    group ∈ (assemble pieces).groups ↔ group ∈ groupsOf pieces := by
  rw [assemble, Node.groups_sequence, groupsOf, List.flatMap_map, List.mem_flatMap,
    List.mem_flatMap]
  simp only [List.mem_reverse]

theorem mem_groupsOf_cons (piece : Piece) (pieces : List Piece) (group : Nat) :
    group ∈ groupsOf (piece :: pieces) ↔
      group ∈ piece.node.groups ∨ group ∈ groupsOf pieces := by
  rw [groupsOf, groupsOf, List.flatMap_cons, List.mem_append]

@[grind =]
theorem groups_literalPiece (flags : Flags) (code : Nat) :
    (literalPiece flags code).node.groups = [] := rfl

/-! ### Characters and sets -/

@[spec]
theorem takes_groupAgain (flags : Flags) (group width : Nat) (state : ReaderState) :
    Takes (groupAgain flags group width) state fun piece _ =>
      ∃ fold width, piece = .other (.again fold group width) := by
  mvcgen [groupAgain] <;> grind

@[spec]
theorem takes_digitEscape (flags : Flags) (c : Char) (state : ReaderState) :
    Takes (digitEscape flags c) state fun piece _ => piece.node.groups = [] := by
  mvcgen [digitEscape] <;> grind [Piece.node, Node.groups]

@[spec]
theorem takes_escapePiece [CharacterNames] (flags : Flags) (c : Char) (state : ReaderState) :
    Takes (escapePiece flags c) state fun piece _ => piece.node.groups = [] := by
  mvcgen [escapePiece]
  case vc4.h_2.h_2.h_2.h_1 reader found now same =>
    have steady := steady_of_codeEscape? found
    mvcgen [steady]
    grind
  all_goals grind [Piece.node, Node.groups]

@[spec]
theorem steady_escapeMember [CharacterNames] (flags : Flags) (c : Char) (state : ReaderState) :
    Steady (escapeMember flags c) state := by
  mvcgen [escapeMember]
  case vc3.h_2.h_2.h_1 reader found now same =>
    have steady := steady_of_codeEscape? found
    mvcgen [steady]
    grind
  all_goals grind

@[spec]
theorem steady_tokenMember [CharacterNames] (flags : Flags) (token : Token) (state : ReaderState) :
    Steady (tokenMember flags token) state := by
  mvcgen [tokenMember]
  grind

theorem beyond_setMembers [CharacterNames] (flags : Flags) (start fuel : Nat)
    (members : List SetMember) {first state : ReaderState} (beyond : first.Beyond state) :
    ⦃fun now => ⌜now = state⌝⦄ setMembers flags start fuel members
    ⦃post⟨fun _ now => ⌜first.Beyond now⌝, fun refusal => ⌜refusal.IsFault⌝⟩⦄ := by
  induction fuel generalizing members state with
  | zero =>
    mvcgen [setMembers]
    grind
  | succ fuel inductionHypothesis => mvcgen [setMembers, inductionHypothesis] <;> grind

@[spec]
theorem steady_setMembers [CharacterNames] (flags : Flags) (start fuel : Nat)
    (members : List SetMember) (state : ReaderState) :
    Steady (setMembers flags start fuel members) state :=
  beyond_setMembers flags start fuel members (.refl state)

@[spec]
theorem takes_setPiece [CharacterNames] (flags : Flags) (state : ReaderState) :
    Takes (setPiece flags) state fun piece _ => piece.node.groups = [] := by
  mvcgen [setPiece, Reader.position] <;> grind [Piece.node, Node.groups]

/-! ### Loops -/

/-- Digits among the tokens spell a number of rounds that is too large. -/
def SpellsTooMany (tokens : List Token) : Prop :=
  ∃ digits : Text, digits.all isAsciiDigit = true ∧ roundLimit ≤ digitsValue 10 digits ∧
    digits.map .plain <:+: tokens

end Reader

/-- How a reader can refuse that has some tokens ahead. -/
@[grind =]
def Refusal.ArisesFrom (tokens : List Token) : Refusal → Prop
  | .fault _ => True
  | .repetitionTooLarge => Reader.SpellsTooMany tokens
  | .incompatibleFlags | .unknownGroup _ => False

@[grind ←]
theorem Refusal.IsFault.arisesFrom {refusal : Refusal} (isFault : refusal.IsFault)
    (tokens : List Token) : refusal.ArisesFrom tokens := by
  cases refusal <;> trivial

theorem Refusal.ArisesFrom.mono {refusal : Refusal} {tokens more : List Token}
    (arises : refusal.ArisesFrom tokens) (suffix : tokens <:+ more) : refusal.ArisesFrom more := by
  cases refusal with
  | repetitionTooLarge =>
    obtain ⟨digits, areDigits, tooMany, occur⟩ := arises
    exact ⟨digits, areDigits, tooMany, occur.trans suffix.isInfix⟩
  | _ => exact arises

@[grind →]
theorem ReaderState.Beyond.arisesFrom {before after : ReaderState} (beyond : before.Beyond after)
    {refusal : Refusal} (arises : refusal.ArisesFrom after.stream.ahead) :
    refusal.ArisesFrom before.stream.ahead :=
  arises.mono beyond.ahead

namespace Reader

@[spec]
theorem takes_roundCount (digits : Text) (state : ReaderState) :
    ⦃fun now => ⌜now = state⌝⦄ roundCount digits
    ⦃post⟨fun _ now => ⌜now = state⌝,
      fun refusal => ⌜refusal = .repetitionTooLarge ∧ roundLimit ≤ digitsValue 10 digits⌝⟩⦄ := by
  intro now same
  rw [roundCount]
  split
  · exact same
  · dsimp only
    split
    · next tooMany => exact ⟨rfl, tooMany⟩
    · exact same

/-- Too large a number cannot be refused unless its digits are there. -/
@[spec]
theorem takes_takeDigits (state : ReaderState) :
    Takes takeDigits state fun digits _ =>
      roundLimit ≤ digitsValue 10 digits →
        Refusal.repetitionTooLarge.ArisesFrom state.stream.ahead := by
  mvcgen [takeDigits]
  next before same digits now =>
  intro beyond faces areDigits
  subst same
  refine ⟨beyond, fun tooMany => ⟨digits, areDigits, tooMany, [], now.stream.ahead, ?_⟩⟩
  rw [faces]
  rfl

@[spec]
theorem takes_bracedRounds (state : ReaderState) :
    ⦃fun now => ⌜now = state⌝⦄ bracedRounds
    ⦃post⟨fun _ now => ⌜state.Beyond now⌝,
      fun refusal => ⌜refusal.ArisesFrom state.stream.ahead⌝⟩⦄ := by
  mvcgen [bracedRounds]
  -- The two ends that put the brace's stream back.
  case vc2 | vc10 => grind [ReaderState.Beyond]
  all_goals grind

@[spec]
theorem takes_rounds (sign : Char) (state : ReaderState) :
    ⦃fun now => ⌜now = state⌝⦄ rounds sign
    ⦃post⟨fun _ now => ⌜state.Beyond now⌝,
      fun refusal => ⌜refusal.ArisesFrom state.stream.ahead⌝⟩⦄ := by
  mvcgen [rounds] <;> grind

@[spec]
theorem steady_greed (state : ReaderState) : Steady greed state := by
  mvcgen [greed] <;> grind

@[spec]
theorem takes_repeatPiece (flags : Flags) (sign : Char) (pieces : List Piece)
    (state : ReaderState) :
    ⦃fun now => ⌜now = state⌝⦄ repeatPiece flags sign pieces
    ⦃post⟨fun repeated now => ⌜state.Beyond now ∧
        ∀ group, group ∈ groupsOf repeated ↔ group ∈ groupsOf pieces⌝,
      fun refusal => ⌜refusal.ArisesFrom state.stream.ahead⌝⟩⦄ := by
  mvcgen [repeatPiece, Reader.position] <;> grind [mem_groupsOf_cons, Piece.node, Node.groups]

/-! ### Flags -/

end Reader

/-- The letter of a flag is among the tokens. -/
def Flag.SpelledIn (tokens : List Token) (flag : Flag) : Prop :=
  ∃ c, Flag.ofChar? c = some flag ∧ .plain c ∈ tokens

theorem Flag.SpelledIn.mono {flag : Flag} {tokens more : List Token}
    (spelled : flag.SpelledIn tokens) (suffix : tokens <:+ more) : flag.SpelledIn more := by
  obtain ⟨c, isLetter, mem⟩ := spelled
  exact ⟨c, isLetter, suffix.mem mem⟩

@[grind →]
theorem ReaderState.Beyond.spelledIn {before after : ReaderState} (beyond : before.Beyond after)
    {flag : Flag} (spelled : flag.SpelledIn after.stream.ahead) :
    flag.SpelledIn before.stream.ahead :=
  spelled.mono beyond.ahead

@[grind →]
theorem Flag.spelledIn_of_head? {tokens : List Token} {c : Char} {flag : Flag}
    (isNext : some (.plain c) = tokens.head?) (isLetter : Flag.ofChar? c = some flag) :
    flag.SpelledIn tokens :=
  ⟨c, isLetter, List.mem_of_mem_head? isNext.symm⟩

namespace Reader

theorem beyond_flagsOn (fuel : Nat) (flag : Flag) (on : List Flag) {first state : ReaderState}
    (beyond : first.Beyond state) {known : Flag → Prop} (isKnown : known flag)
    (areKnown : ∀ flag ∈ on, known flag)
    (spelled : ∀ flag : Flag, flag.SpelledIn first.stream.ahead → known flag) :
    ⦃fun now => ⌜now = state⌝⦄ flagsOn fuel flag on
    ⦃post⟨fun read now => ⌜first.Beyond now ∧ ∀ flag ∈ read.1, known flag⌝,
      fun refusal => ⌜refusal.IsFault⌝⟩⦄ := by
  induction fuel generalizing flag on state with
  | zero =>
    mvcgen [flagsOn]
    grind
  | succ fuel inductionHypothesis =>
    mvcgen [flagsOn, inductionHypothesis] <;> grind

@[spec]
theorem takes_flagsOn (fuel : Nat) (flag : Flag) (on : List Flag) (state : ReaderState) :
    Takes (flagsOn fuel flag on) state fun read _ =>
      ∀ other ∈ read.1, other ∈ flag :: on ∨ other.SpelledIn state.stream.ahead :=
  beyond_flagsOn fuel flag on (.refl state) (.inl List.mem_cons_self)
    (fun _ mem => .inl (List.mem_cons_of_mem flag mem)) fun _ => .inr

theorem beyond_flagsOff (fuel : Nat) (flag : Flag) (off : List Flag) {first state : ReaderState}
    (beyond : first.Beyond state) :
    ⦃fun now => ⌜now = state⌝⦄ flagsOff fuel flag off
    ⦃post⟨fun _ now => ⌜first.Beyond now⌝, fun refusal => ⌜refusal.IsFault⌝⟩⦄ := by
  induction fuel generalizing flag off state with
  | zero =>
    mvcgen [flagsOff]
    grind
  | succ fuel inductionHypothesis => mvcgen [flagsOff, inductionHypothesis] <;> grind

@[spec]
theorem steady_flagsOff (fuel : Nat) (flag : Flag) (off : List Flag) (state : ReaderState) :
    Steady (flagsOff fuel flag off) state :=
  beyond_flagsOff fuel flag off (.refl state)

@[spec]
theorem steady_firstFlagOff (state : ReaderState) : Steady firstFlagOff state := by
  mvcgen [firstFlagOff] <;> grind

@[spec]
theorem steady_scopedFlags (fuel : Nat) (on : List Flag) (ending : Char) (state : ReaderState) :
    Steady (scopedFlags fuel on ending) state := by
  mvcgen [scopedFlags] <;> grind

/-! ### Openings of groups -/

/-- The flags that an opening gives for the whole pattern. -/
def Opening.given : Opening → List Flag
  | .flags on => on
  | _ => []

@[spec]
theorem steady_checkGroupName (name : Text) (state : ReaderState) :
    Steady (checkGroupName name) state := by
  mvcgen [checkGroupName] <;> grind

theorem beyond_skipComment (start fuel : Nat) {first state : ReaderState}
    (beyond : first.Beyond state) :
    ⦃fun now => ⌜now = state⌝⦄ skipComment start fuel
    ⦃post⟨fun _ now => ⌜first.Beyond now⌝, fun refusal => ⌜refusal.IsFault⌝⟩⦄ := by
  induction fuel generalizing state with
  | zero =>
    mvcgen [skipComment]
    grind
  | succ fuel inductionHypothesis => mvcgen [skipComment, inductionHypothesis] <;> grind

@[spec]
theorem steady_skipComment (start fuel : Nat) (state : ReaderState) :
    Steady (skipComment start fuel) state :=
  beyond_skipComment start fuel (.refl state)

@[spec]
theorem takes_namedOpening (state : ReaderState) :
    Takes namedOpening state fun opening _ => opening.given = [] := by
  mvcgen [namedOpening] <;> grind [Opening.given]

@[spec]
theorem takes_behindOpening (state : ReaderState) :
    Takes behindOpening state fun opening _ => opening.given = [] := by
  mvcgen [behindOpening] <;> grind [Opening.given]

@[spec]
theorem takes_conditionOpening (state : ReaderState) :
    Takes conditionOpening state fun opening _ => opening.given = [] := by
  mvcgen [conditionOpening, Reader.position] <;> grind [Opening.given, ReaderState.Beyond]

@[spec]
theorem takes_flagsOpening (letter : Option Flag) (state : ReaderState) :
    Takes (flagsOpening letter) state fun opening _ =>
      ∀ flag ∈ opening.given, letter = some flag ∨ flag.SpelledIn state.stream.ahead := by
  mvcgen [flagsOpening] <;> grind [Opening.given]

@[spec]
theorem takes_opening (start : Nat) (state : ReaderState) :
    Takes (opening start) state fun opening _ =>
      ∀ flag ∈ opening.given, flag.SpelledIn state.stream.ahead := by
  mvcgen [opening] <;> grind [Opening.given]

/-! ### Sequences and choices -/

@[spec]
theorem steady_closing (start : Nat) (state : ReaderState) : Steady (closing start) state := by
  mvcgen [closing] <;> grind

theorem beyond_skipLine (fuel : Nat) {first state : ReaderState} (beyond : first.Beyond state) :
    ⦃fun now => ⌜now = state⌝⦄ skipLine fuel
    ⦃post⟨fun _ now => ⌜first.Beyond now⌝, fun refusal => ⌜refusal.IsFault⌝⟩⦄ := by
  induction fuel generalizing state with
  | zero =>
    mvcgen [skipLine]
    grind
  | succ fuel inductionHypothesis => mvcgen [skipLine, inductionHypothesis] <;> grind

@[spec]
theorem steady_skipLine (fuel : Nat) (state : ReaderState) : Steady (skipLine fuel) state :=
  beyond_skipLine fuel (.refl state)

end Reader

/-- What a reader has done that may open groups and give flags: to `earlier` groups it has added
those that it has opened, each of them and no other, and the letters of its flags were ahead. -/
structure ReaderState.Adds (before after : ReaderState) (earlier groups : List Nat) : Prop where
  ahead : after.stream.ahead <:+ before.stream.ahead
  later : before.widths.length ≤ after.widths.length
  opened : ∀ group, group ∈ groups ↔
    group ∈ earlier ∨ before.widths.length < group ∧ group ≤ after.widths.length
  given : ∀ flag ∈ after.given, flag ∈ before.given ∨ flag.SpelledIn before.stream.ahead

namespace ReaderState.Adds

variable {first second third : ReaderState} {earlier groups more : List Nat}

theorem none_of_beyond (beyond : first.Beyond second) (groups : List Nat) :
    first.Adds second groups groups where
  ahead := beyond.ahead
  later := beyond.groups.ge
  opened group := by
    have := beyond.groups
    grind
  given flag mem := .inl (beyond.given ▸ mem)

theorem nil_of_beyond (beyond : first.Beyond second) : first.Adds second [] [] :=
  none_of_beyond beyond []

@[grind →]
theorem trans (start : first.Adds second earlier groups) (rest : second.Adds third groups more) :
    first.Adds third earlier more where
  ahead := rest.ahead.trans start.ahead
  later := start.later.trans rest.later
  opened group := by
    have := start.later
    have := rest.later
    rw [rest.opened, start.opened]
    grind
  given flag mem := by
    rcases rest.given flag mem with mem | spelled
    · exact start.given flag mem
    · exact .inr (spelled.mono start.ahead)

@[grind →]
theorem beyond (start : first.Adds second earlier groups) (rest : second.Beyond third) :
    first.Adds third earlier groups :=
  start.trans (none_of_beyond rest groups)

theorem none_of_given (beyond : first.Beyond second) {on : List Flag}
    (spelled : ∀ flag ∈ on, flag.SpelledIn first.stream.ahead) (groups : List Nat) :
    first.Adds { second with given := second.given ++ on } groups groups := by
  refine ⟨beyond.ahead, beyond.groups.ge, (none_of_beyond beyond groups).opened, ?_⟩
  intro flag mem
  rw [List.mem_append, beyond.given] at mem
  exact mem.imp_right (spelled flag)

theorem of_open (state : ReaderState) (names : List (Text × Nat)) :
    state.Adds { state with names := names, widths := state.widths ++ [none] } []
      [state.widths.length + 1] where
  ahead := List.suffix_refl _
  later := by simp
  opened group := by
    simp only [List.mem_singleton, List.not_mem_nil, List.length_append, List.length_singleton,
      false_or]
    omega
  given _ := .inl

theorem congr (adds : first.Adds second earlier groups)
    (agree : ∀ group, group ∈ more ↔ group ∈ groups) : first.Adds second earlier more :=
  ⟨adds.ahead, adds.later, fun group => (agree group).trans (adds.opened group), adds.given⟩

theorem trans_congr {same : List Nat} (start : first.Adds second earlier groups)
    (agree : ∀ group, group ∈ same ↔ group ∈ groups) (rest : second.Adds third same more) :
    first.Adds third earlier more :=
  (start.congr agree).trans rest

/-- Groups opened by a reader of its own can be added to any earlier ones. -/
theorem append (start : first.Adds second earlier groups) (inner : second.Adds third [] more) :
    first.Adds third earlier (groups ++ more) := by
  refine start.trans ⟨inner.ahead, inner.later, fun group => ?_, inner.given⟩
  rw [List.mem_append, inner.opened]
  simp only [List.not_mem_nil, false_or]

@[grind →]
theorem arisesFrom (adds : first.Adds second earlier groups) {refusal : Refusal}
    (arises : refusal.ArisesFrom second.stream.ahead) : refusal.ArisesFrom first.stream.ahead :=
  arises.mono adds.ahead

end ReaderState.Adds

namespace Reader

@[spec]
theorem adds_openGroup (name : Option Text) (state : ReaderState) :
    ⦃fun now => ⌜now = state⌝⦄ openGroup name
    ⦃post⟨fun group now => ⌜state.Adds now [] [group]⌝, fun refusal => ⌜refusal.IsFault⌝⟩⦄ := by
  mvcgen [openGroup] <;> grind [ReaderState.Adds.of_open]

@[spec]
theorem steady_closeGroup (group : Nat) (body : Node) (state : ReaderState) :
    Steady (closeGroup group body) state := by
  mvcgen [closeGroup]
  grind [ReaderState.Beyond]

/-- From `state` on, a reader adds the groups of its node to `earlier` ones. -/
abbrev Adds (reader : Reader Node) (state : ReaderState) (earlier : List Nat) : Prop :=
  ⦃fun now => ⌜now = state⌝⦄ reader
  ⦃post⟨fun node now => ⌜state.Adds now earlier node.groups⌝,
    fun refusal => ⌜refusal.ArisesFrom state.stream.ahead⌝⟩⦄

/-- The same where the reading began before, at `first`. -/
abbrev AddsSince (first : ReaderState) (reader : Reader Node) (state : ReaderState)
    (earlier : List Nat) : Prop :=
  ⦃fun now => ⌜now = state⌝⦄ reader
  ⦃post⟨fun node now => ⌜first.Adds now earlier node.groups⌝,
    fun refusal => ⌜refusal.ArisesFrom first.stream.ahead⌝⟩⦄

@[grind =]
theorem groupsOf_nil : groupsOf [] = [] := rfl

@[grind →]
theorem adds_assemble {first state : ReaderState} {earlier : List Nat} {pieces : List Piece}
    (adds : first.Adds state earlier (groupsOf pieces)) :
    first.Adds state earlier (assemble pieces).groups :=
  adds.congr (mem_groups_assemble pieces)

/-- Reading on behind a piece whose groups have been opened since the pieces before it. -/
theorem adds_cons {first before state now : ReaderState} {earlier more all : List Nat}
    {piece : Piece} {pieces : List Piece} (adds : first.Adds before earlier (groupsOf pieces))
    (inner : before.Adds state [] more)
    (agree : ∀ group, group ∈ piece.node.groups ↔ group ∈ more)
    (rest : state.Adds now (groupsOf (piece :: pieces)) all) : first.Adds now earlier all := by
  refine (adds.append inner).trans_congr (fun group => ?_) rest
  rw [mem_groupsOf_cons, List.mem_append, agree, or_comm]

variable [CharacterNames] {fuel : Nat}
  (choices : ∀ scope state, Adds (choice fuel scope) state [])
  (sequences : ∀ scope pieces state, Adds (sequence fuel scope pieces) state (groupsOf pieces))
  (groups : ∀ scope pieces state, Adds (group fuel scope pieces) state (groupsOf pieces))

include sequences groups in
theorem adds_sequence_succ (scope : Scope) (pieces : List Piece) {first state : ReaderState}
    {earlier : List Nat} (adds : first.Adds state earlier (groupsOf pieces)) :
    AddsSince first (sequence (fuel + 1) scope pieces) state earlier := by
  mvcgen [sequence, peek, sequences, groups]
  all_goals grind [→ ReaderState.Adds.trans_congr, mem_groupsOf_cons, Piece.node, Node.groups]

include choices sequences in
theorem adds_choice_succ (scope : Scope) (state : ReaderState) :
    Adds (choice (fuel + 1) scope) state [] := by
  mvcgen [choice, choices, sequences]
  all_goals grind [→ ReaderState.Adds.append, Node.groups]

include choices sequences in
theorem adds_group_succ (scope : Scope) (pieces : List Piece) {first state : ReaderState}
    {earlier : List Nat} (adds : first.Adds state earlier (groupsOf pieces)) :
    AddsSince first (group (fuel + 1) scope pieces) state earlier := by
  mvcgen [group, peek, Reader.position, choices, sequences]
  case vc6.post.success.h_2.isFalse.post.success same _ _ on _ now opens _ _ _ _ node last =>
    intro rest
    subst same
    exact adds.trans ((ReaderState.Adds.none_of_given opens.1 opens.2 _).trans rest)
  all_goals grind only [→ ReaderState.Adds.arisesFrom, ← Refusal.IsFault.arisesFrom,
    → ReaderState.Adds.beyond, → ReaderState.Beyond.trans, → ReaderState.Adds.trans,
    → ReaderState.Adds.nil_of_beyond, → ReaderState.Adds.append, → adds_cons,
    ReaderState.Beyond.withFloor, groupsOf_nil, Piece.node, Node.groups,
    List.mem_cons, List.mem_append, List.not_mem_nil]

theorem adds_readers (fuel : Nat) :
    (∀ scope state, Adds (choice fuel scope) state []) ∧
      (∀ scope pieces state, Adds (sequence fuel scope pieces) state (groupsOf pieces)) ∧
      ∀ scope pieces state, Adds (group fuel scope pieces) state (groupsOf pieces) := by
  have none (state : ReaderState) (groups : List Nat) : state.Adds state groups groups :=
    .none_of_beyond (.refl state) groups
  induction fuel with
  | zero =>
    refine ⟨fun scope state => ?_, fun scope pieces state => ?_, fun scope pieces state => ?_⟩
    · mvcgen [choice]
      grind [Node.groups]
    · mvcgen [sequence]
      grind [adds_assemble (none state (groupsOf pieces))]
    · mvcgen [group]
      grind [adds_assemble (none state (groupsOf pieces))]
  | succ fuel inductionHypothesis =>
    obtain ⟨choices, sequences, groups⟩ := inductionHypothesis
    exact ⟨adds_choice_succ choices sequences,
      fun scope pieces state => adds_sequence_succ sequences groups scope pieces (none state _),
      fun scope pieces state => adds_group_succ choices sequences scope pieces (none state _)⟩

end Reader

/-! ### Patterns -/

theorem Reader.outcome_of_triple {Result : Type} {reader : Reader Result} {state : ReaderState}
    {ends : Result → ReaderState → Prop} {refuses : Refusal → Prop}
    (triple : ⦃fun now => ⌜now = state⌝⦄ reader
      ⦃post⟨fun result now => ⌜ends result now⌝, fun refusal => ⌜refuses refusal⌝⟩⦄) :
    match reader.run state with
    | .ok (result, now) => ends result now
    | .error refusal => refuses refusal := by
  have holds : ((WP.wp (reader.run state)).apply
      post⟨fun ended => ⌜ends ended.1 ended.2⌝, fun refusal => ⌜refuses refusal⌝⟩).down :=
    triple state rfl
  cases outcome : reader.run state with
  | ok ended =>
    rw [outcome] at holds
    exact holds
  | error refusal =>
    rw [outcome] at holds
    exact holds

end Stencil
