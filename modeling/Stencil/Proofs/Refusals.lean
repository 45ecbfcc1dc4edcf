/-
This file proves with what patterns and substitutes can be refused, and where in their texts the
reason is. What the readers say of tokens becomes here what holds of the text, since the tokens
spell a part of it. Almost every refusal is a fault. The others are a number of repetitions that is
too large, flags that exclude each other, and a reference to a name that no group has; a rule with
one of these is unforeseen. In a pattern that can be read, the groups are numbered from one on, so
that the references of a substitute that can be read for it are to groups that exist.
-/
import Stencil.Proofs.PatternReading
import Stencil.Rule

namespace Stencil

open Std.Do

set_option mvcgen.warning false

theorem tokenize_spelled (text : Text) : (tokenize text).1.flatMap Token.text <:+: text := by
  refine List.IsPrefix.isInfix ?_
  fun_induction tokenize text with
  | case1 => exact List.prefix_refl _
  | case2 => exact List.nil_prefix
  | case3 c rest inductionHypothesis =>
    exact List.prefix_append_right_inj ['\\', c] |>.2 inductionHypothesis
  | case4 c rest _ _ inductionHypothesis =>
    exact List.prefix_append_right_inj [c] |>.2 inductionHypothesis

/-- How reading a pattern with some text can be refused. -/
def Refusal.ArisesIn (text : Text) : Refusal → Prop
  | .fault _ => True
  | .repetitionTooLarge =>
    ∃ digits : Text, digits.all isAsciiDigit = true ∧ Reader.roundLimit ≤ digitsValue 10 digits ∧
      digits <:+: text
  | .incompatibleFlags => 'a' ∈ text ∧ 'u' ∈ text
  | .unknownGroup _ => False

theorem Refusal.ArisesFrom.arisesIn {refusal : Refusal} {text : Text}
    (arises : refusal.ArisesFrom (tokenize text).1) : refusal.ArisesIn text := by
  cases refusal with
  | repetitionTooLarge =>
    obtain ⟨digits, areDigits, tooMany, occur⟩ := arises
    refine ⟨digits, areDigits, tooMany, ?_⟩
    have spelled := (occur.flatMap Token.text).trans (tokenize_spelled text)
    simpa only [List.flatMap_map, Token.text, List.flatMap_singleton'] using spelled
  | fault found => trivial
  | incompatibleFlags | unknownGroup name => exact arises.elim

theorem Flag.SpelledIn.mem_text {flag : Flag} {text : Text}
    (spelled : flag.SpelledIn (tokenize text).1) :
    ∃ c ∈ text, Flag.ofChar? c = some flag := by
  obtain ⟨c, isLetter, mem⟩ := spelled
  refine ⟨c, (tokenize_spelled text).mem ?_, isLetter⟩
  exact List.mem_flatMap.2 ⟨.plain c, mem, List.mem_singleton_self c⟩

theorem Flag.eq_of_ofChar?_ascii {c : Char} (isLetter : Flag.ofChar? c = some .ascii) :
    c = 'a' := by
  unfold Flag.ofChar? at isLetter
  split at isLetter <;> simp_all

theorem Flag.eq_of_ofChar?_unicode {c : Char} (isLetter : Flag.ofChar? c = some .unicode) :
    c = 'u' := by
  unfold Flag.ofChar? at isLetter
  split at isLetter <;> simp_all

namespace Pattern

theorem finish_eq_ok {root : Node} {state : ReaderState} {pattern : Pattern}
    (finished : finish root state = .ok pattern) :
    pattern = ⟨root, state.widths.length, state.names⟩ := by
  unfold finish at finished
  grind

theorem finish_eq_error {root : Node} {state : ReaderState} {refusal : Refusal}
    (finished : finish root state = .error refusal) :
    refusal.IsFault ∨
      refusal = .incompatibleFlags ∧ .ascii ∈ state.given ∧ .unicode ∈ state.given := by
  unfold finish at finished
  grind [TokenStream.faultBefore]

/-- The state in which the reading of a text starts. -/
def startOf (text : Text) : ReaderState :=
  ⟨⟨(tokenize text).1, 0, (tokenize text).2⟩, [], [], [], none, []⟩

/-- A pattern has the groups of its count, or its refusal has its reason in the text. -/
def ReadFrom (text : Text) : Except Refusal Pattern → Prop
  | .ok pattern => ∀ group, group ∈ pattern.root.groups ↔ 1 ≤ group ∧ group ≤ pattern.groupCount
  | .error refusal => refusal.ArisesIn text

theorem readFrom_finish {text : Text} {root : Node} {state : ReaderState}
    (adds : (startOf text).Adds state [] root.groups) : ReadFrom text (finish root state) := by
  have spelled (flag : Flag) (given : flag ∈ state.given) :
      ∃ c ∈ text, Flag.ofChar? c = some flag := by
    rcases adds.given flag given with impossible | spelled
    · cases impossible
    · exact spelled.mem_text
  cases finished : finish root state with
  | ok pattern =>
    intro group
    rw [finish_eq_ok finished, adds.opened]
    simp [startOf, Nat.one_le_iff_ne_zero, Nat.pos_iff_ne_zero]
  | error refusal =>
    rcases finish_eq_error finished with isFault | ⟨rfl, ascii, unicode⟩
    · exact (isFault.arisesFrom _).arisesIn
    · obtain ⟨a, inText, isLetter⟩ := spelled _ ascii
      obtain ⟨u, inText', isLetter'⟩ := spelled _ unicode
      cases Flag.eq_of_ofChar?_ascii isLetter
      cases Flag.eq_of_ofChar?_unicode isLetter'
      exact ⟨inText, inText'⟩

theorem readFrom_ofText [CharacterNames] (text : Text) : ReadFrom text (ofText text) := by
  unfold ofText
  cases opened : TokenStream.ofText text with
  | error refusal => exact ((TokenStream.isFault_of_checked opened).arisesFrom _).arisesIn
  | ok stream =>
    cases TokenStream.checked_eq_ok opened
    have read := Reader.outcome_of_triple
      ((Reader.adds_readers (3 * (tokenize text).1.length + 3)).1 ⟨Flags.ofRules, true, true⟩
        (startOf text))
    change ReadFrom text (Bind.bind (StateT.run _ (startOf text)) _)
    cases outcome : (Reader.choice (3 * (tokenize text).1.length + 3)
      ⟨Flags.ofRules, true, true⟩).run (startOf text) with
    | error refusal =>
      rw [outcome] at read
      exact read.arisesIn
    | ok ended =>
      rw [outcome] at read
      exact readFrom_finish read

end Pattern

/-! ### Substitutes -/

/-- A part refers to no group that the pattern lacks. -/
def SubstitutePart.Within (pattern : Pattern) : SubstitutePart → Prop
  | .text _ => True
  | .group number => number ≤ pattern.groupCount

/-- How reading a substitute for a pattern can be refused, from the text on. -/
def Refusal.ArisesAt (pattern : Pattern) (place : Text → Prop) : Refusal → Prop
  | .fault _ => True
  | .unknownGroup name =>
    isGroupName name = true ∧ pattern.names.lookup name = none ∧ place ('<' :: name ++ ['>'])
  | .repetitionTooLarge | .incompatibleFlags => False

theorem Refusal.IsFault.arisesAt {refusal : Refusal} (isFault : refusal.IsFault)
    (pattern : Pattern) (place : Text → Prop) : refusal.ArisesAt pattern place := by
  cases refusal <;> trivial

theorem Refusal.ArisesAt.imp {refusal : Refusal} {pattern : Pattern} {place other : Text → Prop}
    (arises : refusal.ArisesAt pattern place)
    (implies : ∀ reference, place reference → other reference) :
    refusal.ArisesAt pattern other := by
  cases refusal with
  | unknownGroup name => exact ⟨arises.1, arises.2.1, implies _ arises.2.2⟩
  | _ => exact arises

namespace Substitute

@[spec]
theorem triple_throw {Result : Type} (refusal : Refusal)
    (ends : PostCond Result (.except Refusal .pure)) :
    ⦃ends.2.1 refusal⦄ (throw refusal : Except Refusal Result) ⦃ends⦄ := fun holds => holds

@[spec]
theorem reads_groupPart (pattern : Pattern) (stream : TokenStream) (before group : Nat) :
    ⦃⌜True⌝⦄ groupPart pattern stream before group
    ⦃post⟨fun part => ⌜part.Within pattern⌝, fun refusal => ⌜refusal.IsFault⌝⟩⦄ := by
  mvcgen [groupPart]
  next atMost => exact Nat.le_of_not_lt atMost

theorem bracketed {ahead inner after : List Token} {opened : Bool} (isOpened : ¬(!opened) = true)
    (faces : ahead = (if opened then [.plain '<'] else []) ++ inner) {name : Text}
    (named : ∃ tokens, name = tokens.flatMap Token.text ∧ inner = tokens ++ .plain '>' :: after) :
    '<' :: name ++ ['>'] <+: ahead.flatMap Token.text ∧ after <:+ ahead := by
  obtain ⟨tokens, rfl, rfl⟩ := named
  cases opened with
  | false => contradiction
  | true =>
    subst faces
    constructor
    · exact ⟨after.flatMap Token.text, by simp [Token.text]⟩
    · exact ⟨.plain '<' :: tokens ++ [.plain '>'], by simp⟩

@[spec]
theorem reads_bracketedGroup (pattern : Pattern) (stream : TokenStream) :
    ⦃⌜True⌝⦄ bracketedGroup pattern stream
    ⦃post⟨fun read => ⌜read.1.Within pattern ∧ read.2.ahead <:+ stream.ahead⌝,
      fun refusal =>
        ⌜refusal.ArisesAt pattern (· <+: stream.ahead.flatMap Token.text)⌝⟩⦄ := by
  mvcgen [bracketedGroup, -Spec.throw_MonadExcept]
  case vc2 | vc5 =>
    next isOpened faces _ _ _ _ _ _ isNamed _ within =>
    exact ⟨within, (bracketed isOpened faces isNamed).2⟩
  case vc4 =>
    next isOpened faces named _ _ isName unknown isNamed =>
    exact ⟨isName, unknown, (bracketed isOpened faces isNamed).1⟩
  all_goals grind [Refusal.IsFault.arisesAt]

@[spec]
theorem reads_digitPart (pattern : Pattern) (c : Char) (stream : TokenStream) :
    ⦃⌜True⌝⦄ digitPart pattern c stream
    ⦃post⟨fun read => ⌜read.1.Within pattern ∧ read.2.ahead <:+ stream.ahead⌝,
      fun refusal => ⌜refusal.IsFault⌝⟩⦄ := by
  mvcgen [digitPart, -Spec.throw_MonadExcept] <;>
    grind [SubstitutePart.Within, TokenStream.faultBefore]

@[spec]
theorem reads_escapePart (pattern : Pattern) (c : Char) (stream : TokenStream) :
    ⦃⌜True⌝⦄ escapePart pattern c stream
    ⦃post⟨fun read => ⌜read.1.Within pattern ∧ read.2.ahead <:+ stream.ahead⌝,
      fun refusal => ⌜refusal.ArisesAt pattern fun reference =>
        c = 'g' ∧ reference <+: stream.ahead.flatMap Token.text⌝⟩⦄ := by
  mvcgen [escapePart, -Spec.throw_MonadExcept]
  case vc2 =>
    next isG refusal =>
    exact fun arises => arises.imp fun _ place => ⟨isG, place⟩
  all_goals grind [SubstitutePart.Within, Refusal.IsFault.arisesAt]

/-- Tokens spell a reference by name. -/
def Refers (tokens : List Token) (reference : Text) : Prop :=
  '\\' :: 'g' :: reference <:+: tokens.flatMap Token.text

theorem Refers.mono {tokens more : List Token} {reference : Text} (refers : Refers tokens reference)
    (suffix : tokens <:+ more) : Refers more reference :=
  refers.trans (suffix.isInfix.flatMap Token.text)

theorem reads_parts (pattern : Pattern) (fuel : Nat) (stream : TokenStream) :
    ⦃⌜True⌝⦄ parts pattern fuel stream
    ⦃post⟨fun read => ⌜∀ part ∈ read, part.Within pattern⌝,
      fun refusal => ⌜refusal.ArisesAt pattern (Refers stream.ahead)⌝⟩⦄ := by
  induction fuel generalizing stream with
  | zero =>
    mvcgen [parts]
    simp
  | succ fuel inductionHypothesis =>
    mvcgen [parts, inductionHypothesis]
    case vc3 =>
      next taken refusal =>
      exact fun arises => arises.imp fun _ refers => refers.mono (taken.2 ▸ List.tail_suffix _)
    case vc5 =>
      next taken part read refusal =>
      exact fun arises => arises.imp fun _ refers =>
        refers.mono (read.2.trans (taken.2 ▸ List.tail_suffix _))
    case vc6 =>
      next c isEscape taken refusal =>
      refine fun arises => arises.imp fun reference place => ?_
      obtain ⟨rfl, place⟩ := place
      have faces := List.eq_cons_of_mem_head? (taken.1.symm.trans isEscape)
      rw [Refers, faces, List.flatMap_cons, ← taken.2]
      exact (List.prefix_append_right_inj ['\\', 'g'] |>.2 place).isInfix
    all_goals grind [SubstitutePart.Within, Refusal.IsFault.arisesAt]

/-- A substitute refers to groups of its pattern only, or its refusal has its reason in the text. -/
def ReadFor (pattern : Pattern) (text : Text) : Except Refusal Substitute → Prop
  | .ok substitute => ∀ part ∈ substitute, part.Within pattern
  | .error refusal => refusal.ArisesAt pattern fun reference => '\\' :: 'g' :: reference <:+: text

theorem readFor_ofText (pattern : Pattern) (text : Text) :
    ReadFor pattern text (ofText pattern text) := by
  unfold ofText
  split
  · cases opened : TokenStream.ofText text with
    | error refusal =>
      exact (TokenStream.isFault_of_checked opened).arisesAt pattern
        fun reference => '\\' :: 'g' :: reference <:+: text
    | ok stream =>
      cases TokenStream.checked_eq_ok opened
      have read := reads_parts pattern ((tokenize text).1.length + 1)
        ⟨(tokenize text).1, 0, (tokenize text).2⟩ trivial
      change ReadFor pattern text (parts pattern _ _)
      cases outcome : parts pattern ((tokenize text).1.length + 1)
          ⟨(tokenize text).1, 0, (tokenize text).2⟩ with
      | error refusal =>
        rw [outcome] at read
        exact Refusal.ArisesAt.imp read fun _ refers => refers.trans (tokenize_spelled text)
      | ok substitute =>
        rw [outcome] at read
        exact read
  · intro part mem
    cases List.mem_singleton.1 mem
    trivial

end Substitute

/-! ### Rules -/

/-- The abort of a refusal that is no fault. -/
def Refusal.unforeseen? : Refusal → Option Abort
  | .fault _ => none
  | .repetitionTooLarge => some .repetitionTooLarge
  | .incompatibleFlags => some .incompatibleFlags
  | .unknownGroup name => some (.unknownGroup name)

/-- A pattern rule is refused with something else than a fault, in its pattern or, where that can be
read, in its substitute. -/
inductive Rule.Unforeseen [CharacterNames] (rule : Rule) (abort : Abort) : Prop
  | pattern {refusal : Refusal} (isRegex : rule.isRegex = true)
      (refused : Pattern.ofText rule.pattern = .error refusal)
      (unforeseen : refusal.unforeseen? = some abort)
  | substitute {pattern : Pattern} {refusal : Refusal} (isRegex : rule.isRegex = true)
      (read : Pattern.ofText rule.pattern = .ok pattern)
      (refused : Substitute.ofText pattern rule.substitute = .error refusal)
      (unforeseen : refusal.unforeseen? = some abort)

/-- Where in a rule the reason of an unforeseen refusal is: digits in the pattern that spell too
large a number, the letters of two flags in the pattern, or a reference in the substitute to a name
that the pattern gives to no group. -/
def Abort.ReasonIn [CharacterNames] (rule : Rule) : Abort → Prop
  | .repetitionTooLarge =>
    ∃ digits : Text, digits.all isAsciiDigit = true ∧ 4294967295 ≤ digitsValue 10 digits ∧
      digits <:+: rule.pattern
  | .incompatibleFlags => 'a' ∈ rule.pattern ∧ 'u' ∈ rule.pattern
  | .unknownGroup name =>
    isGroupName name = true ∧ "\\g<".toList ++ name ++ ">".toList <:+: rule.substitute ∧
      ∃ pattern, Pattern.ofText rule.pattern = .ok pattern ∧ pattern.names.lookup name = none
  | _ => False

theorem Rule.Unforeseen.reasonIn [CharacterNames] {rule : Rule} {abort : Abort}
    (unforeseen : rule.Unforeseen abort) : rule.isRegex = true ∧ abort.ReasonIn rule := by
  cases unforeseen with
  | @pattern refusal isRegex refused unforeseen =>
    have arises := Pattern.readFrom_ofText rule.pattern
    rw [refused] at arises
    refine ⟨isRegex, ?_⟩
    cases refusal with
    | fault found => cases unforeseen
    | unknownGroup name => exact arises.elim
    | repetitionTooLarge | incompatibleFlags =>
      cases unforeseen
      exact arises
  | @substitute pattern refusal isRegex read refused unforeseen =>
    have arises := Substitute.readFor_ofText pattern rule.substitute
    rw [refused] at arises
    refine ⟨isRegex, ?_⟩
    cases refusal with
    | fault found => cases unforeseen
    | unknownGroup name =>
      cases unforeseen
      exact ⟨arises.1, arises.2.2, pattern, read, arises.2.1⟩
    | repetitionTooLarge | incompatibleFlags => exact arises.elim

end Stencil
