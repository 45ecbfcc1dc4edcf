/-
This file proves how import statements are read. A statement is an indented keyword, blanks, the
segments of a name with dots between them, an optional semicolon and the end of the line. Blanks
around the dots may be line ends, so that a statement can have several lines. Segments are words,
and what follows a run of blanks in a statement is no blank; so the longest run, which is tried
first, is the right one, and a statement can be read in one way only. Nor does another statement
begin on a later line of one: behind the keyword of a statement comes a word, and behind a word of a
name comes a dot, or the end of the line.
-/
import Stencil.Proofs.Declarations

namespace Stencil

namespace Import

/-! ### Statements -/

/-- How the segments of a name are spelled: in order, with a dot between neighbours and blanks
around the dot. -/
inductive Spells : List Text → Text → Prop
  | last (segment : Text) : Spells [segment] segment
  | dot (segment : Text) {segments : List Text} {left right rest : Text}
      (leftBlank : ∀ c ∈ left, isBlank c = true) (rightBlank : ∀ c ∈ right, isBlank c = true)
      (later : Spells segments rest) :
      Spells (segment :: segments) (segment ++ (left ++ '.' :: (right ++ rest)))

/-- An import statement of a name as it stands in a text. It ends with its last line, or with the
text. -/
structure Statement (segments : List Text) where
  indent : Text
  gap : Text
  name : Text
  space : Text
  sign : Text
  trail : Text
  ending : Text
  indentBlank : ∀ c ∈ indent, isInlineBlank c = true
  spaced : gap ≠ []
  gapBlank : ∀ c ∈ gap, isInlineBlank c = true
  spells : Spells segments name
  spaceBlank : ∀ c ∈ space, isInlineBlank c = true
  isSign : sign = [] ∨ sign = [';']
  trailBlank : ∀ c ∈ trail, isInlineBlank c = true
  isEnding : ending = [] ∨ ending = ['\n']

namespace Statement

variable {segments : List Text}

/-- What follows the name. -/
def tail (statement : Statement segments) : Text :=
  statement.space ++ (statement.sign ++ (statement.trail ++ statement.ending))

/-- The characters of a statement. -/
def text (statement : Statement segments) : Text :=
  statement.indent ++ ("import".toList ++ (statement.gap ++ (statement.name ++ statement.tail)))

/-- Only the end of a text can stand in for the end of a line. -/
def Before (statement : Statement segments) (rest : Text) : Prop :=
  statement.ending = [] → rest = []

end Statement

/-- The segments of a dotted name: words, and at least one. -/
def IsName (segments : List Text) : Prop :=
  segments ≠ [] ∧ ∀ segment ∈ segments, IsWord segment

theorem isName_of_isDottedName {name : Text} (dotted : isDottedName name = true) :
    IsName (nameSegments name) := by
  refine ⟨Text.splitAtAll_ne_nil _ _, fun segment member => ?_⟩
  have simple := List.all_eq_true.mp dotted segment member
  cases segment with
  | nil => cases simple
  | cons c rest =>
    rw [isSimpleName, Bool.and_eq_true, isNameStart, Bool.and_eq_true] at simple
    refine ⟨List.cons_ne_nil _ _, ?_⟩
    rw [List.all_cons, isIdentifierChar, simple.1.1, Bool.or_true, simple.2]
    rfl

/-! ### Reading a statement -/

theorem isBlank_of_isInlineBlank {c : Char} (inline : isInlineBlank c = true) :
    isBlank c = true := by
  rw [isInlineBlank, Bool.and_eq_true] at inline
  exact inline.1

theorem blank_of_inline {run : Text} (inline : ∀ c ∈ run, isInlineBlank c = true) :
    ∀ c ∈ run, isBlank c = true :=
  fun c member => isBlank_of_isInlineBlank (inline c member)

theorem isInlineBlank_of_isBlank {c : Char} (ink : isBlank c = false) :
    isInlineBlank c = false := by
  rw [isInlineBlank, ink, Bool.false_and]

section

variable {segments : List Text}

theorem Spells.ne_nil {name : Text} (spells : Spells segments name) : segments ≠ [] := by
  cases spells <;> exact List.cons_ne_nil _ _

/-- A spelled name begins with a word. -/
theorem Spells.exists_word {name : Text} (spells : Spells segments name)
    (words : ∀ segment ∈ segments, IsWord segment) :
    ∃ word more, name = word ++ more ∧ IsWord word := by
  cases spells with
  | last segment => exact ⟨name, [], (List.append_nil name).symm, words name List.mem_cons_self⟩
  | dot segment _ _ _ => exact ⟨segment, _, rfl, words segment List.mem_cons_self⟩

theorem Spells.isBlank_of_head? {name : Text} (spells : Spells segments name)
    (words : ∀ segment ∈ segments, IsWord segment) (tail : Text) (c : Char)
    (first : (name ++ tail).head? = some c) : isBlank c = false := by
  obtain ⟨word, more, rfl, isWord⟩ := spells.exists_word words
  rw [List.append_assoc] at first
  exact Header.isBlank_of_head? isWord (more ++ tail) c first

/-- A name that is spelled at the front of a text is passed over. -/
theorem afterSegments_of_spells {next : Text → Option Text} {name tail rest : Text}
    (spells : Spells segments name) (words : ∀ segment ∈ segments, IsWord segment)
    (goesOn : next tail = some rest) : afterSegments next segments (name ++ tail) = some rest := by
  induction spells with
  | last segment =>
    rw [afterSegments, Text.after?_append]
    exact goesOn
  | @dot segment segments left right name leftBlank rightBlank later inductionHypothesis =>
    have laterWords : ∀ segment ∈ segments, IsWord segment :=
      fun segment member => words segment (List.mem_cons_of_mem _ member)
    have inner := Text.findSome?_afterRuns rightBlank (later.isBlank_of_head? laterWords tail)
      (inductionHypothesis laterWords)
    obtain ⟨second, others, rfl⟩ := List.exists_cons_of_ne_nil later.ne_nil
    simp only [List.append_assoc, List.cons_append]
    rw [afterSegments, Text.after?_append]
    · exact Text.findSome?_afterRuns leftBlank (Text.stops_cons (by decide)) inner
    · exact List.cons_ne_nil _ _

/-- What is passed over is a spelled name. -/
theorem exists_spells_of_afterSegments {next : Text → Option Text} {text rest : Text}
    (nonempty : segments ≠ []) (passes : afterSegments next segments text = some rest) :
    ∃ name tail, Spells segments name ∧ text = name ++ tail ∧ next tail = some rest := by
  induction segments generalizing text with
  | nil => exact absurd rfl nonempty
  | cons segment segments inductionHypothesis =>
    cases segments with
    | nil =>
      rw [afterSegments] at passes
      obtain ⟨tail, leads, goesOn⟩ := Option.bind_eq_some_iff.mp passes
      exact ⟨segment, tail, .last segment, (Text.after?_eq_some_iff _ _ _).mp leads, goesOn⟩
    | cons second others =>
      rw [afterSegments] at passes
      · split at passes
        · cases passes
        · next behind leads =>
          rw [Text.after?_eq_some_iff] at leads
          obtain ⟨dotted, isDotted, passes⟩ := List.exists_of_findSome?_eq_some passes
          obtain ⟨left, behindSegment, leftBlank⟩ := Text.exists_run_of_mem_afterRuns isDotted
          split at passes
          · next behindDot =>
            obtain ⟨later, isLater, passes⟩ := List.exists_of_findSome?_eq_some passes
            obtain ⟨right, toLater, rightBlank⟩ := Text.exists_run_of_mem_afterRuns isLater
            obtain ⟨name, tail, spells, named, goesOn⟩ :=
              inductionHypothesis (List.cons_ne_nil _ _) passes
            refine ⟨_, tail, .dot segment leftBlank rightBlank spells, ?_, goesOn⟩
            rw [leads, behindSegment, toLater, named]
            simp only [List.append_assoc, List.cons_append]
          · cases passes
      · exact List.cons_ne_nil _ _

namespace Statement

variable (statement : Statement segments)

theorem isInlineBlank_of_ending {rest : Text} (before : statement.Before rest) (c : Char)
    (first : (statement.ending ++ rest).head? = some c) : isInlineBlank c = false := by
  rcases statement.isEnding with unended | ended
  · rw [unended, before unended] at first
    cases first
  · rw [ended] at first
    cases first
    decide

theorem afterLineEnd?_ending {rest : Text} (before : statement.Before rest) :
    afterLineEnd? (statement.ending ++ rest) = some rest := by
  rcases statement.isEnding with unended | ended
  · rw [unended, before unended]
    rfl
  · rw [ended]
    rfl

/-- No semicolon follows the end of a statement. -/
theorem afterSemicolon_ending {rest : Text} (before : statement.Before rest) :
    afterSemicolon (statement.ending ++ rest) = [statement.ending ++ rest] := by
  rcases statement.isEnding with unended | ended
  · rw [unended, before unended]
    rfl
  · rw [ended]
    rfl

theorem afterName?_tail {rest : Text} (before : statement.Before rest) :
    afterName? (statement.tail ++ rest) = some rest := by
  have stops := statement.isInlineBlank_of_ending before
  have ends := statement.afterLineEnd?_ending before
  rw [tail, afterName?]
  simp only [List.append_assoc]
  rcases statement.isSign with noSign | sign
  · -- Without a semicolon the blanks on its two sides are one run, which is passed over at once.
    have blank : ∀ c ∈ statement.space ++ statement.trail, isInlineBlank c = true :=
      fun c member => (List.mem_append.mp member).elim (statement.spaceBlank c)
        (statement.trailBlank c)
    rw [noSign, List.nil_append, ← List.append_assoc]
    refine Text.findSome?_afterRuns blank stops ?_
    rw [statement.afterSemicolon_ending before, List.findSome?_singleton]
    exact @Text.findSome?_afterRuns _ _ [] _ _ _ (List.forall_mem_nil _) stops ends
  · rw [sign]
    refine Text.findSome?_afterRuns statement.spaceBlank (Text.stops_cons (by decide)) ?_
    have inner := Text.findSome?_afterRuns statement.trailBlank stops ends
    rw [List.singleton_append, afterSemicolon, List.findSome?_cons, inner]

end Statement

/-- What is passed over behind a name is the rest of a statement. -/
theorem exists_tail_of_afterName? {text rest : Text} (passes : afterName? text = some rest) :
    ∃ space sign trail ending : Text, text = space ++ (sign ++ (trail ++ (ending ++ rest))) ∧
      (∀ c ∈ space, isInlineBlank c = true) ∧ (sign = [] ∨ sign = [';']) ∧
      (∀ c ∈ trail, isInlineBlank c = true) ∧ (ending = [] ∨ ending = ['\n']) ∧
      (ending = [] → rest = []) := by
  obtain ⟨behindSpace, isSpace, passes⟩ := List.exists_of_findSome?_eq_some passes
  obtain ⟨behindSign, isSign, passes⟩ := List.exists_of_findSome?_eq_some passes
  obtain ⟨behindTrail, isTrail, passes⟩ := List.exists_of_findSome?_eq_some passes
  obtain ⟨space, split, spaceBlank⟩ := Text.exists_run_of_mem_afterRuns isSpace
  obtain ⟨trail, splitTrail, trailBlank⟩ := Text.exists_run_of_mem_afterRuns isTrail
  have signed : ∃ sign, behindSpace = sign ++ behindSign ∧ (sign = [] ∨ sign = [';']) := by
    unfold afterSemicolon at isSign
    split at isSign
    · rcases List.mem_cons.mp isSign with rfl | same
      · exact ⟨[';'], rfl, Or.inr rfl⟩
      · exact ⟨[], (List.mem_singleton.mp same).symm, Or.inl rfl⟩
    · exact ⟨[], (List.mem_singleton.mp isSign).symm, Or.inl rfl⟩
  have ended : ∃ ending, behindTrail = ending ++ rest ∧ (ending = [] ∨ ending = ['\n']) ∧
      (ending = [] → rest = []) := by
    unfold afterLineEnd? at passes
    split at passes
    · cases passes
      exact ⟨[], rfl, Or.inl rfl, fun _ => rfl⟩
    · cases passes
      exact ⟨['\n'], rfl, Or.inr rfl, fun empty => absurd empty (List.cons_ne_nil _ _)⟩
    · cases passes
  obtain ⟨sign, splitSign, isSign⟩ := signed
  obtain ⟨ending, splitEnding, isEnding, before⟩ := ended
  refine ⟨space, sign, trail, ending, ?_, spaceBlank, isSign, trailBlank, isEnding, before⟩
  rw [split, splitSign, splitTrail, splitEnding]

/-- A statement is read where there is one, and what is read is one. -/
theorem afterStatement?_eq_some_iff (isName : IsName segments) {text rest : Text} :
    afterStatement? segments text = some rest ↔
      ∃ statement : Statement segments, text = statement.text ++ rest ∧ statement.Before rest := by
  constructor
  · intro passes
    obtain ⟨behindIndent, isIndent, passes⟩ := List.exists_of_findSome?_eq_some passes
    obtain ⟨behindWord, leads, passes⟩ := Option.bind_eq_some_iff.mp passes
    obtain ⟨behindGap, isGap, passes⟩ := List.exists_of_findSome?_eq_some passes
    obtain ⟨indent, splitIndent, indentBlank⟩ := Text.exists_run_of_mem_afterRuns isIndent
    obtain ⟨gap, spaced, splitGap, gapBlank⟩ := Text.exists_run_of_mem_afterSomeRuns isGap
    obtain ⟨name, tail, spells, splitName, passes⟩ :=
      exists_spells_of_afterSegments isName.1 passes
    obtain ⟨space, sign, trail, ending, splitTail, spaceBlank, isSign, trailBlank, isEnding,
      before⟩ := exists_tail_of_afterName? passes
    refine ⟨⟨indent, gap, name, space, sign, trail, ending, indentBlank, spaced, gapBlank, spells,
      spaceBlank, isSign, trailBlank, isEnding⟩, ?_, before⟩
    rw [splitIndent, (Text.after?_eq_some_iff _ _ _).mp leads, splitGap, splitName, splitTail]
    simp only [Statement.text, Statement.tail, List.append_assoc]
  · rintro ⟨statement, rfl, before⟩
    have named := afterSegments_of_spells statement.spells isName.2
      (statement.afterName?_tail before)
    have stops (c : Char) (first : (statement.name ++ (statement.tail ++ rest)).head? = some c) :
        isInlineBlank c = false :=
      isInlineBlank_of_isBlank (statement.spells.isBlank_of_head? isName.2 _ c first)
    have spaced := Text.findSome?_afterSomeRuns statement.spaced statement.gapBlank stops named
    rw [Statement.text, afterStatement?]
    simp only [List.append_assoc]
    refine Text.findSome?_afterRuns statement.indentBlank (Text.stops_cons (by decide)) ?_
    rw [Text.after?_append]
    exact spaced

/-- A text begins with one statement at most. -/
theorem Statement.text_unique (isName : IsName segments) {first second : Statement segments}
    {rest other : Text} (before : first.Before rest) (otherBefore : second.Before other)
    (same : first.text ++ rest = second.text ++ other) :
    first.text = second.text ∧ rest = other := by
  have reads := (afterStatement?_eq_some_iff isName).mpr ⟨first, rfl, before⟩
  rw [same, (afterStatement?_eq_some_iff isName).mpr ⟨second, rfl, otherBefore⟩] at reads
  obtain rfl := Option.some.inj reads
  exact ⟨List.append_cancel_right same, rfl⟩

/-! ### Statements do not overlap -/

/-- The text begins as an import statement does: with the keyword, and a word behind it on its
line. -/
def BeginsImport (text : Text) : Prop :=
  ∃ indent gap rest, text = indent ++ ("import".toList ++ (gap ++ rest)) ∧
    (∀ c ∈ indent, isInlineBlank c = true) ∧ gap ≠ [] ∧ (∀ c ∈ gap, isInlineBlank c = true) ∧
    endsWord rest = false

/-- No word follows, not even behind blanks on the same line. -/
def Detached (text : Text) : Prop := endsWord (text.dropWhile isInlineBlank) = true

theorem Statement.beginsImport (isName : IsName segments) (statement : Statement segments)
    (rest : Text) : BeginsImport (statement.text ++ rest) := by
  refine ⟨statement.indent, statement.gap, statement.name ++ (statement.tail ++ rest), ?_,
    statement.indentBlank, statement.spaced, statement.gapBlank, ?_⟩
  · simp only [Statement.text, List.append_assoc]
  · obtain ⟨word, more, named, isWord⟩ := statement.spells.exists_word isName.2
    rw [named, List.append_assoc]
    exact endsWord_append_word _ isWord

theorem Detached.endsWord {text : Text} (detached : Detached text) : endsWord text = true := by
  cases text with
  | nil => rfl
  | cons c rest =>
    cases inline : isInlineBlank c with
    | true =>
      rw [endsWord_cons, isIdentifierChar_of_isBlank (isBlank_of_isInlineBlank inline)]
      rfl
    | false =>
      rw [Detached, List.dropWhile_cons_of_neg (Bool.eq_false_iff.mp inline)] at detached
      exact detached

theorem Detached.cons {c : Char} (rest : Text) (noWord : isIdentifierChar c = false)
    (stops : isInlineBlank c = false) : Detached (c :: rest) := by
  rw [Detached, List.dropWhile_cons_of_neg (Bool.eq_false_iff.mp stops), endsWord_cons, noWord]
  rfl

theorem Detached.append {blanks more : Text} (detached : Detached more)
    (blank : ∀ c ∈ blanks, isBlank c = true) : Detached (blanks ++ more) := by
  induction blanks with
  | nil => exact detached
  | cons c blanks inductionHypothesis =>
    obtain ⟨here, later⟩ := List.forall_mem_cons.mp blank
    cases inline : isInlineBlank c with
    | true =>
      rw [Detached, List.cons_append, List.dropWhile_cons_of_pos inline]
      exact inductionHypothesis later
    | false => exact .cons _ (isIdentifierChar_of_isBlank here) inline

theorem Statement.detached_tail (statement : Statement segments) {rest : Text}
    (before : statement.Before rest) : Detached (statement.tail ++ rest) := by
  have ends : Detached (statement.ending ++ rest) := by
    rcases statement.isEnding with unended | ended
    · rw [unended, before unended]
      rfl
    · rw [ended]
      exact .cons _ (by decide) (by decide)
  simp only [Statement.tail, List.append_assoc]
  refine .append ?_ (blank_of_inline statement.spaceBlank)
  rcases statement.isSign with noSign | sign
  · rw [noSign]
    exact ends.append (blank_of_inline statement.trailBlank)
  · rw [sign]
    exact .cons _ (by decide) (by decide)

/-- Behind blanks, a text that begins with an import begins with the keyword. -/
theorem BeginsImport.exists_keyword {blanks more : Text} (begins : BeginsImport (blanks ++ more))
    (blank : ∀ c ∈ blanks, isBlank c = true)
    (stops : ∀ c, more.head? = some c → isBlank c = false) :
    ∃ gap rest, more = "import".toList ++ (gap ++ rest) ∧ gap ≠ [] ∧
      (∀ c ∈ gap, isInlineBlank c = true) ∧ endsWord rest = false := by
  obtain ⟨indent, gap, rest, split, indentBlank, spaced, gapBlank, begins⟩ := begins
  refine ⟨gap, rest, ?_, spaced, gapBlank, begins⟩
  have keyword : (indent ++ ("import".toList ++ (gap ++ rest))).dropWhile isBlank =
      "import".toList ++ (gap ++ rest) :=
    Text.dropWhile_append_of_stops (blank_of_inline indentBlank) (Text.stops_cons (by decide))
  rw [← split, Text.dropWhile_append_of_stops blank stops] at keyword
  exact keyword

theorem not_beginsImport_dot {blanks : Text} (more : Text)
    (blank : ∀ c ∈ blanks, isBlank c = true) : ¬ BeginsImport (blanks ++ '.' :: more) := by
  intro begins
  obtain ⟨gap, rest, split, -⟩ := begins.exists_keyword blank (Text.stops_cons (by decide))
  exact absurd (List.cons.inj split).1 (by decide)

/-- The keyword of an import has another word behind it. -/
theorem not_beginsImport_word {blanks word more : Text} (blank : ∀ c ∈ blanks, isBlank c = true)
    (isWord : IsWord word) (detached : Detached more) :
    ¬ BeginsImport (blanks ++ (word ++ more)) := by
  intro begins
  obtain ⟨gap, rest, split, spaced, gapBlank, attached⟩ :=
    begins.exists_keyword blank (Header.isBlank_of_head? isWord more)
  have stops (c : Char) (first : rest.head? = some c) : isInlineBlank c = false := by
    obtain ⟨others, rfl⟩ := List.head?_eq_some_iff.mp first
    rw [← Bool.not_eq_true]
    intro inline
    rw [endsWord_cons, isIdentifierChar_of_isBlank (isBlank_of_isInlineBlank inline)] at attached
    cases attached
  have gapEnds : endsWord (gap ++ rest) = true := by
    obtain ⟨c, others, rfl⟩ := List.exists_cons_of_ne_nil spaced
    rw [List.cons_append, endsWord_cons, isIdentifierChar_of_isBlank
      (isBlank_of_isInlineBlank (gapBlank c List.mem_cons_self))]
    rfl
  have keyword := isWord.eq_of_append_eq (by decide) detached.endsWord gapEnds split
  rw [keyword] at split
  rw [List.append_cancel_left split, Detached, Text.dropWhile_append_of_stops gapBlank stops,
    attached] at detached
  cases detached

theorem lineFeed_not_mem_word {word : Text} (isWord : IsWord word) : '\n' ∉ word :=
  fun member => absurd (isWord.isIdentifierChar member) (by decide)

/-- A spelled name is a word with nothing but dots and line ends behind it. -/
theorem Spells.exists_detached {name tail : Text} (spells : Spells segments name)
    (words : ∀ segment ∈ segments, IsWord segment) (detached : Detached tail) :
    ∃ word more, name ++ tail = word ++ more ∧ IsWord word ∧ Detached more := by
  cases spells with
  | last => exact ⟨name, tail, rfl, words name List.mem_cons_self, detached⟩
  | @dot segment _ left right rest leftBlank _ _ =>
    refine ⟨segment, left ++ '.' :: (right ++ (rest ++ tail)), ?_,
      words segment List.mem_cons_self, (Detached.cons _ (by decide) (by decide)).append leftBlank⟩
    simp only [List.append_assoc, List.cons_append]

/-- No import begins on a later line of a spelled name: what comes next there is a dot, or a word
with no other word behind it. -/
theorem Spells.not_beginsImport {name tail front after : Text} (spells : Spells segments name)
    (words : ∀ segment ∈ segments, IsWord segment) (detached : Detached tail)
    (split : name ++ tail = front ++ '\n' :: after) (inside : front.length < name.length) :
    ¬ BeginsImport after := by
  induction spells generalizing front with
  | last segment =>
    rcases Text.append_eq_append_cons split with ⟨between, rfl, -⟩ | ⟨between, broken, -⟩
    · rw [List.length_append] at inside
      omega
    · exact absurd (List.mem_iff_append.mpr ⟨_, _, broken⟩)
        (lineFeed_not_mem_word (words segment List.mem_cons_self))
  | @dot segment segments left right name leftBlank rightBlank later inductionHypothesis =>
    have laterWords : ∀ segment ∈ segments, IsWord segment :=
      fun segment member => words segment (List.mem_cons_of_mem _ member)
    simp only [List.append_assoc, List.cons_append] at split
    rcases Text.append_eq_append_cons split with ⟨between, rfl, behind⟩ | ⟨between, broken, -⟩
    · rcases Text.append_eq_append_cons behind with ⟨behindLeft, rfl, dotted⟩ | ⟨blanks, cut, rfl⟩
      · rcases List.cons_eq_append_iff.mp dotted with ⟨-, noDot⟩ | ⟨behindDot, rfl, atRight⟩
        · exact absurd (List.cons.inj noDot).1 (by decide)
        · rcases Text.append_eq_append_cons atRight with ⟨front, rfl, deeper⟩ | ⟨blanks, cut, rfl⟩
          · refine inductionHypothesis laterWords deeper ?_
            simp only [List.length_append, List.length_cons] at inside
            omega
          · obtain ⟨word, more, named, isWord, detached⟩ :=
              later.exists_detached laterWords detached
            rw [named]
            refine not_beginsImport_word (fun c member => rightBlank c ?_) isWord detached
            rw [cut]
            exact List.mem_append_right _ (List.mem_cons_of_mem _ member)
      · refine not_beginsImport_dot _ fun c member => leftBlank c ?_
        rw [cut]
        exact List.mem_append_right _ (List.mem_cons_of_mem _ member)
    · exact absurd (List.mem_iff_append.mpr ⟨_, _, broken⟩)
        (lineFeed_not_mem_word (words segment List.mem_cons_self))

theorem Spells.exists_last_word {name : Text} (spells : Spells segments name)
    (words : ∀ segment ∈ segments, IsWord segment) :
    ∃ front word, name = front ++ word ∧ IsWord word := by
  induction spells with
  | last segment => exact ⟨[], segment, rfl, words segment List.mem_cons_self⟩
  | @dot segment segments left right name _ _ _ inductionHypothesis =>
    obtain ⟨front, word, rfl, isWord⟩ :=
      inductionHypothesis fun segment member => words segment (List.mem_cons_of_mem _ member)
    refine ⟨segment ++ (left ++ '.' :: (right ++ front)), word, ?_, isWord⟩
    simp only [List.append_assoc, List.cons_append]

theorem lineFeed_not_mem_inline {run : Text} (inline : ∀ c ∈ run, isInlineBlank c = true) :
    '\n' ∉ run :=
  fun member => absurd (inline _ member) (by decide)

namespace Statement

variable (statement : Statement segments)

/-- What stands before the name. -/
def lead : Text := statement.indent ++ ("import".toList ++ statement.gap)

/-- What stands between the name and the end of the line. -/
def close : Text := statement.space ++ (statement.sign ++ statement.trail)

theorem text_eq :
    statement.text =
      statement.lead ++ (statement.name ++ (statement.close ++ statement.ending)) := by
  simp only [text, tail, lead, close, List.append_assoc]

theorem lineFeed_not_mem_lead : '\n' ∉ statement.lead := by
  have keyword : '\n' ∉ "import".toList := by decide
  simp only [lead, List.mem_append, not_or]
  exact ⟨lineFeed_not_mem_inline statement.indentBlank, keyword,
    lineFeed_not_mem_inline statement.gapBlank⟩

theorem lineFeed_not_mem_close : '\n' ∉ statement.close := by
  have sign : '\n' ∉ statement.sign := by
    rcases statement.isSign with same | same <;> rw [same] <;> decide
  simp only [close, List.mem_append, not_or]
  exact ⟨lineFeed_not_mem_inline statement.spaceBlank, sign,
    lineFeed_not_mem_inline statement.trailBlank⟩

/-- A line feed of a statement stands in its name, or ends it. -/
theorem lineFeed_cases {rest front after : Text}
    (split : statement.text ++ rest = front ++ '\n' :: after) :
    ∃ between, front = statement.lead ++ between ∧
      statement.name ++ (statement.close ++ (statement.ending ++ rest)) =
        between ++ '\n' :: after ∧
      (between.length < statement.name.length ∨
        statement.name.length + statement.close.length ≤ between.length) := by
  simp only [text_eq, List.append_assoc] at split
  rcases Text.append_eq_append_cons split with ⟨between, rfl, behind⟩ | ⟨between, broken, -⟩
  · refine ⟨between, rfl, behind, ?_⟩
    rcases Text.append_eq_append_cons behind with ⟨further, rfl, closes⟩ | ⟨further, named, -⟩
    · rcases Text.append_eq_append_cons closes with ⟨last, rfl, -⟩ | ⟨last, broken, -⟩
      · right
        simp only [List.length_append]
        omega
      · exact absurd (List.mem_iff_append.mpr ⟨_, _, broken⟩) statement.lineFeed_not_mem_close
    · left
      rw [named, List.length_append, List.length_cons]
      omega
  · exact absurd (List.mem_iff_append.mpr ⟨_, _, broken⟩) statement.lineFeed_not_mem_lead

/-- No import begins on a later line of a statement. -/
theorem not_beginsImport (isName : IsName segments) {rest front after : Text}
    (before : statement.Before rest) (split : statement.text ++ rest = front ++ '\n' :: after)
    (inside : front.length + 1 < statement.text.length) : ¬ BeginsImport after := by
  obtain ⟨between, rfl, behind, named | closed⟩ := statement.lineFeed_cases split
  · have detached := statement.detached_tail before
    simp only [tail, List.append_assoc] at detached
    simp only [close, List.append_assoc] at behind
    exact statement.spells.not_beginsImport isName.2 detached behind named
  · have short : statement.ending.length ≤ 1 := by
      rcases statement.isEnding with same | same <;> rw [same] <;> decide
    simp only [text_eq, List.length_append] at inside
    omega

/-- Where the end of the text stands in for the end of a line, the text ends with no line feed. -/
theorem ending_of_text_eq (isName : IsName segments) {front : Text}
    (split : statement.text = front ++ ['\n']) : statement.ending = ['\n'] := by
  refine statement.isEnding.resolve_left fun unended => ?_
  rw [← List.append_nil statement.text] at split
  obtain ⟨between, rfl, behind, place⟩ := statement.lineFeed_cases split
  rw [unended, List.append_nil, List.append_nil] at behind
  have lengths := congrArg List.length behind
  simp only [List.length_append, List.length_singleton] at lengths
  -- The line feed would be the last character of the name, which is one of a word.
  have empty : statement.close = [] := List.length_eq_zero_iff.mp (by omega)
  obtain ⟨front, word, named, isWord⟩ := statement.spells.exists_last_word isName.2
  rw [empty, List.append_nil, named] at behind
  rcases Text.append_eq_append_cons behind with ⟨part, -, broken⟩ | ⟨part, -, nothing⟩
  · exact lineFeed_not_mem_word isWord (List.mem_iff_append.mpr ⟨_, _, broken⟩)
  · exact isWord.ne_nil (List.append_eq_nil_iff.mp nothing.symm).2

end Statement

end

end Import

end Stencil
