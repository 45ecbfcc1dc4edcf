/-
This file proves which names a list of type parameters has. A bound may nest angle brackets and
parentheses to any depth. The scanner that looks for the end of the list counts the angle brackets
only, while the cutting of the list at its commas counts both kinds together; over a stretch in
which the brackets are properly nested both counts come back to where they were, so that the scanner
passes over it and no comma in its brackets is a cut. A list of plain declarations is therefore
closed by its own bracket and cut into just these declarations, and each of them gives its name.
-/
import Stencil.Proofs.Balance
import Stencil.Proofs.CodeRegions
import Stencil.Proofs.Cuts

namespace Stencil

/-! ### Nested brackets -/

/-- A text in which the brackets of some pairs are properly nested: every opening bracket is closed
by the closing one of its pair, and what stands between them is nested in turn. The `barred`
characters do not stand outside of brackets. -/
inductive Nested (pairs : List (Char × Char)) : (barred : List Char) → Text → Prop
  | nil (barred : List Char) : Nested pairs barred []
  | sign {barred : List Char} {c : Char} {rest : Text}
      (noBracket : ∀ pair ∈ pairs, c ≠ pair.1 ∧ c ≠ pair.2) (allowed : c ∉ barred)
      (later : Nested pairs barred rest) : Nested pairs barred (c :: rest)
  | group {barred : List Char} (pair : Char × Char) {inner rest : Text} (listed : pair ∈ pairs)
      (inside : Nested pairs [] inner) (later : Nested pairs barred rest) :
      Nested pairs barred (pair.1 :: (inner ++ pair.2 :: rest))

namespace Nested

variable {pairs : List (Char × Char)} {barred : List Char} {first second text : Text}

theorem append (nested : Nested pairs barred first) (later : Nested pairs barred second) :
    Nested pairs barred (first ++ second) := by
  induction nested with
  | nil => exact later
  | sign noBracket allowed _ inductionHypothesis =>
    exact .sign noBracket allowed (inductionHypothesis later)
  | group pair listed inside _ _ inductionHypothesis =>
    rw [List.cons_append, List.append_assoc, List.cons_append]
    exact .group pair listed inside (inductionHypothesis later)

theorem of_free (free : ∀ c ∈ text, (∀ pair ∈ pairs, c ≠ pair.1 ∧ c ≠ pair.2) ∧ c ∉ barred) :
    Nested pairs barred text := by
  induction text with
  | nil => exact .nil barred
  | cons c text inductionHypothesis =>
    obtain ⟨⟨noBracket, allowed⟩, later⟩ := List.forall_mem_cons.mp free
    exact .sign noBracket allowed (inductionHypothesis later)

/-- What may stand outside of brackets may stand anywhere. -/
theorem unbarred (nested : Nested pairs barred text) : Nested pairs [] text := by
  induction nested with
  | nil => exact .nil []
  | sign noBracket _ _ inductionHypothesis =>
    exact .sign noBracket List.not_mem_nil inductionHypothesis
  | group pair listed inside _ _ inductionHypothesis =>
    exact .group pair listed inside inductionHypothesis

end Nested

/-- The brackets of type parameters and their bounds. -/
def typeBrackets : List (Char × Char) := [('<', '>'), ('(', ')')]

/-! ### The end of a list -/

section

variable {barred : List Char} {text : Text} {depth : Int} {count : Nat}

theorem balancedLength_sign {c : Char} {rest : Text} (notQuote : c ≠ '"') (notOpening : c ≠ '<')
    (notClosing : c ≠ '>') (stops : balancedLength .angle false depth rest = some count) :
    balancedLength .angle false depth (c :: rest) = some (count + 1) := by
  have noOpening : BracketPair.angle.opening ≠ [c] := by simpa [BracketPair.angle] using
    notOpening.symm
  have noClosing : BracketPair.angle.closing ≠ [c] := by simpa [BracketPair.angle] using
    notClosing.symm
  rw [balancedLength, if_neg notQuote, if_neg noOpening, if_neg noClosing, stops]
  rfl

theorem balancedLength_opens {rest : Text}
    (stops : balancedLength .angle false (depth + 1) rest = some count) :
    balancedLength .angle false depth ('<' :: rest) = some (count + 1) := by
  rw [balancedLength, if_neg (by decide), if_pos (by decide), stops]
  rfl

theorem balancedLength_closes {rest : Text} (positive : 0 < depth)
    (stops : balancedLength .angle false depth rest = some count) :
    balancedLength .angle false (depth + 1) ('>' :: rest) = some (count + 1) := by
  rw [balancedLength, if_neg (by decide), if_neg (by decide), if_pos (by decide),
    if_neg (by omega), Int.add_sub_cancel, stops]
  rfl

/-- A scan goes over nested brackets and stops where it would have stopped without them. -/
theorem balancedLength_nested (nested : Nested typeBrackets barred text) (unquoted : '"' ∉ text)
    (positive : 0 < depth) {rest : Text}
    (stops : balancedLength .angle false depth rest = some count) :
    balancedLength .angle false depth (text ++ rest) = some (text.length + count) := by
  induction nested generalizing depth rest count with
  | nil => simpa using stops
  | @sign barred c text noBracket _ _ inductionHypothesis =>
    rw [List.mem_cons, not_or] at unquoted
    have angle := noBracket ('<', '>') List.mem_cons_self
    rw [List.cons_append, balancedLength_sign (Ne.symm unquoted.1) angle.1 angle.2
      (inductionHypothesis unquoted.2 positive stops), List.length_cons]
    exact congrArg some (by omega)
  | @group barred pair inner text listed _ _ insideHypothesis laterHypothesis =>
    simp only [List.mem_cons, List.mem_append, not_or] at unquoted
    obtain ⟨-, inside, -, later⟩ := unquoted
    have behind := laterHypothesis later positive stops
    -- Between parentheses the depth is the same, and between angle brackets it is one more.
    have closed : balancedLength .angle false depth
        (pair.1 :: (inner ++ pair.2 :: (text ++ rest))) =
          some (inner.length + (text.length + count + 1) + 1) := by
      rcases List.mem_cons.mp listed with rfl | round
      · exact balancedLength_opens (insideHypothesis inside (by omega)
          (balancedLength_closes positive behind))
      · obtain rfl := List.mem_singleton.mp round
        exact balancedLength_sign (by decide) (by decide) (by decide) (insideHypothesis inside
          positive (balancedLength_sign (by decide) (by decide) (by decide) behind))
    rw [List.cons_append, List.append_assoc, List.cons_append, closed]
    simp only [List.length_cons, List.length_append]
    exact congrArg some (by omega)

/-- A list with nested brackets in it is closed by the bracket behind it. -/
theorem balancedLength_list (nested : Nested typeBrackets barred text) (unquoted : '"' ∉ text)
    (rest : Text) :
    balancedLength .angle false 0 ('<' :: (text ++ '>' :: rest)) = some (text.length + 2) := by
  have stops : balancedLength .angle false 1 ('>' :: rest) = some 1 := by
    rw [balancedLength, if_neg (by decide), if_neg (by decide), if_pos (by decide), if_pos rfl]
  exact balancedLength_opens (balancedLength_nested nested unquoted Int.one_pos stops)

/-! ### The parts of a list -/

theorem depthChange_pair {pair : Char × Char} (listed : pair ∈ typeBrackets) :
    depthChange pair.1 = 1 ∧ depthChange pair.2 = -1 := by
  rcases List.mem_cons.mp listed with rfl | round
  · exact ⟨rfl, rfl⟩
  · rw [List.mem_singleton.mp round]
    exact ⟨rfl, rfl⟩

theorem depthChange_sign {c : Char} (noBracket : ∀ pair ∈ typeBrackets, c ≠ pair.1 ∧ c ≠ pair.2) :
    depthChange c = 0 := by
  have angle := noBracket ('<', '>') List.mem_cons_self
  have round := noBracket ('(', ')') (List.mem_cons_of_mem _ List.mem_cons_self)
  rw [depthChange, if_neg (by simp [angle.1, round.1]), if_neg (by simp [angle.2, round.2])]

/-- Nested brackets leave the depth as it was. -/
theorem Nested.netDepth_eq_zero (nested : Nested typeBrackets barred text) :
    netDepth text = 0 := by
  induction nested with
  | nil => rfl
  | sign noBracket _ _ inductionHypothesis =>
    rw [netDepth_cons, depthChange_sign noBracket, inductionHypothesis, Int.add_zero]
  | group pair listed _ _ inside later =>
    obtain ⟨opens, closes⟩ := depthChange_pair listed
    rw [netDepth_cons, netDepth_append, netDepth_cons, opens, closes, inside, later]
    rfl

/-- No cut is made in nested brackets, nor outside of them where the separator is barred. -/
theorem Nested.uncut {separator : Char}
    (plain : ∀ pair ∈ typeBrackets, separator ≠ pair.1 ∧ separator ≠ pair.2)
    (nested : Nested typeBrackets barred text) (notNegative : 0 ≤ depth)
    (kept : 0 < depth ∨ separator ∈ barred) : Uncut separator depth text := by
  induction nested generalizing depth with
  | nil => exact uncut_nil depth
  | @sign barred c text noBracket allowed _ inductionHypothesis =>
    rw [uncut_cons_iff, depthChange_sign noBracket, Int.add_zero]
    refine ⟨?_, inductionHypothesis notNegative kept⟩
    rintro ⟨rfl, zero⟩
    rcases kept with deep | isBarred
    · omega
    · exact allowed isBarred
  | @group barred pair inner text listed nested _ inside later =>
    obtain ⟨opens, closes⟩ := depthChange_pair listed
    have behind : Uncut separator (depth + 1 + netDepth inner) (pair.2 :: text) := by
      rw [nested.netDepth_eq_zero, Int.add_zero, uncut_cons_iff, closes, Int.add_neg_cancel_right]
      exact ⟨fun cuts => (plain pair listed).2 cuts.1.symm, later notNegative kept⟩
    rw [uncut_cons_iff, opens]
    exact ⟨fun cuts => (plain pair listed).1 cuts.1.symm,
      (inside (by omega) (Or.inl (by omega))).append behind⟩

end

/-- Parts that have their separators in brackets only are cut apart again. -/
theorem splitTopLevel_joinWith {separator : Char}
    (noBracket : ∀ pair ∈ typeBrackets, separator ≠ pair.1 ∧ separator ≠ pair.2)
    {parts : List Text} (nonempty : parts ≠ [])
    (nested : ∀ part ∈ parts, Nested typeBrackets [separator] part) :
    splitTopLevel [separator] (Text.joinWith [separator] parts) = parts := by
  have plain : separator ∉ ['<', '>', '(', ')'] := by
    have angle := noBracket ('<', '>') List.mem_cons_self
    have round := noBracket ('(', ')') (List.mem_cons_of_mem _ List.mem_cons_self)
    simp [angle.1, angle.2, round.1, round.2]
  refine Cuts.splitTopLevel_eq plain ⟨rfl, fun part member => ?_, fun part member => ?_⟩ nonempty
  · rw [← netDepth_eq_zero_iff]
    exact (nested part ((List.dropLast_sublist parts).subset member)).netDepth_eq_zero
  · rw [← uncut_zero_iff]
    exact (nested part member).uncut noBracket (Int.le_refl 0) (Or.inr List.mem_cons_self)

/-! ### Plain declarations -/

/-- The names that a type parameter can have. -/
def isParameterName : Text → Bool
  | [] => false
  | c :: rest => isParameterStart c && rest.all isIdentifierChar

/-- A type parameter that is declared without annotations: its name among blanks, and perhaps a
bound behind them. -/
structure PlainParameter where
  lead : Text
  name : Text
  gap : Text
  bound : Text
  leadBlank : ∀ c ∈ lead, isBlank c = true
  isName : isParameterName name = true
  gapBlank : ∀ c ∈ gap, isBlank c = true
  nested : Nested typeBrackets [','] bound
  unquoted : '"' ∉ bound
  spaced : gap = [] → bound = []

namespace PlainParameter

/-- The declaration as it is written. -/
def text (parameter : PlainParameter) : Text :=
  parameter.lead ++ (parameter.name ++ (parameter.gap ++ parameter.bound))

/-- Declarations with commas between them. -/
def listing (parameters : List PlainParameter) : Text :=
  Text.joinWith [','] (parameters.map text)

end PlainParameter

/-! ### Names -/

/-- The characters that mean something in a list of type parameters. -/
def listSigns : List Char := ['<', '>', '(', ')', ',', '"']

theorem listSigns_apart :
    listSigns.all (fun c => !isBlank c && !isIdentifierChar c) = true := by decide +kernel

/-- Blanks and names have none of the signs of a list. -/
theorem not_mem_listSigns {c : Char} (plain : isBlank c = true ∨ isIdentifierChar c = true) :
    c ∉ listSigns := by
  intro member
  have apart := List.all_eq_true.mp listSigns_apart c member
  rw [Bool.and_eq_true, Bool.not_eq_true', Bool.not_eq_true'] at apart
  rcases plain with blank | letter
  · exact Bool.false_ne_true (apart.1.symm.trans blank)
  · exact Bool.false_ne_true (apart.2.symm.trans letter)

theorem nested_of_plain {text : Text}
    (plain : ∀ c ∈ text, isBlank c = true ∨ isIdentifierChar c = true) :
    Nested typeBrackets [','] text ∧ '"' ∉ text := by
  refine ⟨.of_free fun c member => ?_, fun member => not_mem_listSigns (plain _ member) (by decide)⟩
  have noSign := not_mem_listSigns (plain c member)
  simp only [listSigns, List.mem_cons, List.not_mem_nil, or_false, not_or] at noSign
  obtain ⟨notLess, notGreater, notOpening, notClosing, notComma, -⟩ := noSign
  simp [typeBrackets, notLess, notGreater, notOpening, notClosing, notComma]

theorem isIdentifierChar_of_isParameterStart {c : Char} (starts : isParameterStart c = true) :
    isIdentifierChar c = true := by
  rw [isParameterStart, isNameStart, Bool.or_eq_true, Bool.and_eq_true] at starts
  rw [isIdentifierChar, Bool.or_eq_true]
  exact starts.imp_right And.left

/-- A parameter's name is a word. -/
theorem isWord_of_isParameterName {name : Text} (isName : isParameterName name = true) :
    IsWord name := by
  cases name with
  | nil => cases isName
  | cons c rest =>
    rw [isParameterName, Bool.and_eq_true] at isName
    refine ⟨List.cons_ne_nil c rest, ?_⟩
    rw [List.all_cons, isIdentifierChar_of_isParameterStart isName.1, isName.2]
    rfl

theorem leadingName?_append {name : Text} (isName : isParameterName name = true) {rest : Text}
    (ends : endsWord rest = true) : leadingName? (name ++ rest) = some name := by
  cases name with
  | nil => cases isName
  | cons c name =>
    rw [isParameterName, Bool.and_eq_true] at isName
    have stops (d : Char) (first : rest.head? = some d) : isIdentifierChar d = false := by
      cases rest with
      | nil => cases first
      | cons d rest =>
        cases first
        rwa [endsWord_cons, Bool.not_eq_true'] at ends
    rw [List.cons_append, leadingName?, if_pos isName.1,
      Text.takeWhile_append_of_stops (List.all_eq_true.mp isName.2) stops]

/-- Where a name comes first behind blanks it is the name of the parameter. -/
theorem nameBehindAnnotations?_name {fuel : Nat} {blanks name rest : Text}
    (blank : ∀ c ∈ blanks, isBlank c = true) (isName : isParameterName name = true)
    (ends : endsWord rest = true) :
    nameBehindAnnotations? (fuel + 1) (blanks ++ (name ++ rest)) = some name := by
  have isWord := isWord_of_isParameterName isName
  have ahead : Text.dropBlanks (blanks ++ (name ++ rest)) = name ++ rest :=
    Text.dropWhile_append_of_stops blank (Header.isBlank_of_head? isWord rest)
  rw [nameBehindAnnotations?, ahead]
  split
  · next annotated split =>
    -- The sign of an annotation is no beginning of a name.
    cases name with
    | nil => cases isName
    | cons c name =>
      cases split
      revert isName
      rw [isParameterName, show isParameterStart '@' = false by decide +kernel]
      intro isName
      cases isName
  · exact leadingName?_append isName ends

namespace PlainParameter

theorem isBlank_or_isIdentifierChar (parameter : PlainParameter) :
    ∀ c ∈ parameter.lead ++ (parameter.name ++ parameter.gap),
      isBlank c = true ∨ isIdentifierChar c = true := by
  intro c member
  simp only [List.mem_append] at member
  rcases member with inLead | inName | inGap
  · exact Or.inl (parameter.leadBlank c inLead)
  · exact Or.inr ((isWord_of_isParameterName parameter.isName).isIdentifierChar inName)
  · exact Or.inl (parameter.gapBlank c inGap)

theorem text_eq (parameter : PlainParameter) :
    parameter.text = parameter.lead ++ (parameter.name ++ parameter.gap) ++ parameter.bound := by
  simp only [text, List.append_assoc]

theorem nested_text (parameter : PlainParameter) : Nested typeBrackets [','] parameter.text := by
  rw [text_eq]
  exact (nested_of_plain parameter.isBlank_or_isIdentifierChar).1.append parameter.nested

theorem unquoted_text (parameter : PlainParameter) : '"' ∉ parameter.text := by
  rw [text_eq, List.mem_append, not_or]
  exact ⟨(nested_of_plain parameter.isBlank_or_isIdentifierChar).2, parameter.unquoted⟩

/-- A bound does not touch the name before it. -/
theorem endsWord_behind (parameter : PlainParameter) :
    endsWord (parameter.gap ++ parameter.bound) = true := by
  cases gap : parameter.gap with
  | nil =>
    rw [parameter.spaced gap]
    rfl
  | cons c blanks =>
    have blank := parameter.gapBlank c (gap ▸ List.mem_cons_self)
    rw [List.cons_append, endsWord_cons, isIdentifierChar_of_isBlank blank]
    rfl

theorem parameterName_text (parameter : PlainParameter) :
    parameterName parameter.text = parameter.name := by
  rw [parameterName, text, nameBehindAnnotations?_name parameter.leadBlank parameter.isName
    parameter.endsWord_behind]
  rfl

/-- A declaration has a name, and so it is not blank. -/
theorem isAllBlank_text (parameter : PlainParameter) : parameter.text.isAllBlank = false := by
  have isWord := isWord_of_isParameterName parameter.isName
  obtain ⟨c, rest, split⟩ := List.exists_cons_of_ne_nil isWord.ne_nil
  have noBlank := Header.isBlank_of_head? isWord [] c (by rw [split]; rfl)
  rw [Text.isAllBlank, List.all_eq_false]
  refine ⟨c, ?_, Bool.eq_false_iff.mp noBlank⟩
  rw [text, split]
  simp

/-! ### Lists of plain declarations -/

variable {parameters : List PlainParameter}

theorem nested_listing : Nested typeBrackets [] (listing parameters) ∧ '"' ∉ listing parameters := by
  induction parameters with
  | nil => exact ⟨.nil [], List.not_mem_nil⟩
  | cons parameter parameters inductionHypothesis =>
    obtain ⟨nested, unquoted⟩ := inductionHypothesis
    by_cases last : parameters = []
    · subst last
      exact ⟨parameter.nested_text.unbarred, parameter.unquoted_text⟩
    · have split : listing (parameter :: parameters) =
          parameter.text ++ ([','] ++ listing parameters) := by
        rw [listing, List.map_cons, Text.joinWith_cons (by simpa using last), List.append_assoc]
        rfl
      have comma : Nested typeBrackets [] [','] := .of_free (by simp [typeBrackets])
      rw [split]
      refine ⟨parameter.nested_text.unbarred.append (comma.append nested), ?_⟩
      simp [parameter.unquoted_text, unquoted]

/-- The names of a list of plain declarations are those that it declares. -/
theorem listedNames_listing (nonempty : parameters ≠ []) :
    listedNames (listing parameters) = parameters.map PlainParameter.name := by
  have cut : splitTopLevel [','] (listing parameters) = parameters.map text := by
    refine splitTopLevel_joinWith (by simp [typeBrackets]) (by simpa using nonempty) ?_
    intro part member
    obtain ⟨parameter, -, rfl⟩ := List.mem_map.mp member
    exact parameter.nested_text
  have inked : (parameters.map text).filter (fun declaration => !declaration.isAllBlank) =
      parameters.map text := by
    refine List.filter_eq_self.mpr fun part member => ?_
    obtain ⟨parameter, -, rfl⟩ := List.mem_map.mp member
    rw [parameter.isAllBlank_text]
    rfl
  rw [listedNames, cut, inked, List.map_map]
  exact List.map_congr_left fun parameter _ => parameter.parameterName_text

theorem namesBehind?_listing (nonempty : parameters ≠ []) {tail rest : Text}
    (reads : tail.dropBlanks = '<' :: (listing parameters ++ '>' :: rest)) :
    namesBehind? tail = some (parameters.map PlainParameter.name) := by
  rw [namesBehind?, reads, balancedLength_list nested_listing.1 nested_listing.2]
  have inner : (('<' :: (listing parameters ++ '>' :: rest)).take
      ((listing parameters).length + 2 - 1)).drop 1 = listing parameters := by
    rw [show (listing parameters).length + 2 - 1 = (listing parameters).length + 1 from rfl,
      List.take_succ_cons, List.drop_one, List.tail_cons, List.take_left]
  rw [Option.map_some, inner, listedNames_listing nonempty]

end PlainParameter

/-! ### The first generic declaration -/

namespace Header

variable {name text : Text}

/-- A declaration is found at every place that reads as a generic one, whatever the name is. -/
theorem isSome_declaredAt?_place (place : GenericPlace name text) :
    (declaredAt? isGenericTail name place.before.reverse
      (place.keyword ++ (place.blanks ++ (name ++ place.tail)))).isSome = true := by
  rw [declaredAt?_keyword place.isKeyword name place.begins, List.findSome?_isSome_iff]
  refine ⟨name ++ place.tail, ?_, Option.isSome_iff_exists.mpr
    ⟨⟨_, place.tail⟩, namedAt?_eq_some_iff.mpr ⟨rfl, place.generic, rfl⟩⟩⟩
  obtain ⟨c, blanks, split⟩ := List.exists_cons_of_ne_nil place.spaced
  obtain ⟨here, later⟩ := List.forall_mem_cons.mp (split ▸ place.blank)
  rw [split, List.cons_append, Text.afterSomeRuns, if_pos here]
  exact Text.mem_afterRuns _ later

/-- Behind a keyword there is one bracket at most that can open the list of a name: the name begins
behind all blanks, or with some of them, or it consists of blanks. -/
theorem dropBlanks_eq_of_blanks {blanks others tail other : Text}
    (blank : ∀ c ∈ blanks, isBlank c = true) (otherBlank : ∀ c ∈ others, isBlank c = true)
    (same : blanks ++ (name ++ tail) = others ++ (name ++ other)) :
    tail.dropBlanks = other.dropBlanks := by
  have ahead := congrArg Text.dropBlanks same
  rw [Text.dropBlanks_append_of_blank _ blank, Text.dropBlanks_append_of_blank _ otherBlank]
    at ahead
  by_cases inked : name.dropBlanks = []
  · have blankName := List.dropWhile_eq_nil_iff.mp inked
    rwa [Text.dropBlanks_append_of_blank _ blankName, Text.dropBlanks_append_of_blank _ blankName]
      at ahead
  · rw [Text.dropBlanks_append_of_ne_nil _ inked, Text.dropBlanks_append_of_ne_nil _ inked] at ahead
    rw [List.append_cancel_left ahead]

theorem Place.dropBlanks_tail_eq (place other : Place name text)
    (same : place.before.length = other.before.length) :
    place.tail.dropBlanks = other.tail.dropBlanks := by
  have reads := place.reads.symm.trans other.reads
  obtain ⟨-, behind⟩ := List.append_inj reads same
  have heads := congrArg List.head? behind
  rw [List.head?_append_of_ne_nil _ (keyword_ne_nil _ place.isKeyword),
    List.head?_append_of_ne_nil _ (keyword_ne_nil _ other.isKeyword)] at heads
  rw [keyword_eq_of_head? _ place.isKeyword _ other.isKeyword heads] at behind
  exact dropBlanks_eq_of_blanks place.blank other.blank (List.append_cancel_left behind)

/-- The first place that reads as a generic declaration is the one whose list is found. -/
theorem findGeneric?_of_first (place : GenericPlace name text)
    (first : ∀ other : GenericPlace name text, place.before.length ≤ other.before.length) :
    ∃ declared, findGeneric? name text = some declared ∧
      declared.tail.dropBlanks = place.tail.dropBlanks := by
  have here := isSome_declaredAt?_place place
  cases found : findGeneric? name text with
  | none =>
    have none := Text.firstPlace_eq_none_iff.mp found place.before _ place.reads
    rw [List.append_nil] at none
    rw [none] at here
    cases here
  | some declared =>
    obtain ⟨before, ahead, split, stops, fails⟩ := Text.exists_first_of_firstPlace found
    rw [List.append_nil] at stops
    obtain ⟨other, rfl, rfl, generic⟩ := exists_place_of_declaredAt? split stops
    have notLater : other.before.length ≤ place.before.length := by
      by_contra earlier
      have none := fails place.before _ place.reads (Nat.lt_of_not_le earlier)
      rw [List.append_nil] at none
      rw [none] at here
      cases here
    exact ⟨other.declared, rfl, other.dropBlanks_tail_eq place.toPlace
      (Nat.le_antisymm notLater (first ⟨other, generic⟩))⟩

/-- What is ahead of the bracket that opens the list of a place. -/
theorem GenericPlace.drop_bracket (place : GenericPlace name text) :
    text.drop place.bracket = place.tail.dropBlanks := by
  have suffix : place.tail.dropBlanks <:+ text := by
    refine (List.dropWhile_suffix isBlank).trans ?_
    refine ⟨place.before ++ (place.keyword ++ (place.blanks ++ name)), ?_⟩
    rw [List.append_assoc, List.append_assoc, List.append_assoc]
    exact place.reads.symm
  exact (List.suffix_iff_eq_drop.mp suffix).symm

end Header

open Header in
/-- Where the first generic declaration of a name in a text has a list of plain declarations, the
names that they declare are the parameters that are read, in order. The scanner stops behind the
bracket that closes the list, and what follows that bracket is what follows the list in the header
that is found. -/
theorem parameterNames_of_plain_list {name text : Text} (place : GenericPlace name text)
    (first : ∀ other : GenericPlace name text, place.before.length ≤ other.before.length)
    (parameters : List PlainParameter) (nonempty : parameters ≠ []) (rest : Text)
    (reads : place.tail.dropBlanks = '<' :: (PlainParameter.listing parameters ++ '>' :: rest)) :
    parameterNames text name = .ok (parameters.map PlainParameter.name) ∧
      skipBalanced text .angle place.bracket =
        .ok (place.bracket + ((PlainParameter.listing parameters).length + 2)) ∧
      ∃ lead, find name text =
        .ok ⟨lead, (splitOpening rest.dropBlanks).1, (splitOpening rest.dropBlanks).2⟩ := by
  obtain ⟨declared, found, behind⟩ := findGeneric?_of_first place first
  have closes := balancedLength_list (@PlainParameter.nested_listing parameters).1
    PlainParameter.nested_listing.2 rest
  refine ⟨?_, ?_, declared.lead, ?_⟩
  · rw [parameterNames_eq_ok_iff, found]
    exact PlainParameter.namesBehind?_listing nonempty (behind.trans reads)
  · have opens : text[place.bracket]? = some '<' := by
      rw [← List.head?_drop, place.drop_bracket, reads]
      rfl
    have scanned := @skipBalanced_of_opening '<' '>' text place.bracket opens
    rw [place.drop_bracket, reads] at scanned
    rw [show BracketPair.angle = ⟨['<'], ['>']⟩ from rfl] at closes ⊢
    rw [scanned, closes]
    rfl
  · have dropped : ('<' :: (PlainParameter.listing parameters ++ '>' :: rest)).drop
        ((PlainParameter.listing parameters).length + 2) = rest := by
      rw [List.drop_succ_cons, ← List.drop_drop, List.drop_left]
      rfl
    rw [find, found]
    simp only [behind.trans reads, afterBalanced, closes, dropped]

/-- Two parameters of which both have bounds with brackets in them, one with a comma as well. -/
def boundedParameters : List PlainParameter := [
  { lead := "\n ".toList
    name := "K".toList
    gap := " ".toList
    bound := "extends Comparable".toList ++ '<' :: ("? super K".toList ++ '>' :: [])
    leadBlank := List.all_eq_true.mp (by decide +kernel)
    isName := by decide +kernel
    gapBlank := List.all_eq_true.mp (by decide +kernel)
    nested := (Nested.of_free (by simp [typeBrackets])).append
      (.group ('<', '>') (by decide) (.of_free (by simp [typeBrackets])) (.nil _))
    unquoted := by decide +kernel
    spaced := by decide +kernel },
  { lead := " ".toList
    name := "$V".toList
    gap := "\n".toList
    bound := "extends Map".toList ++
      '<' :: ("K, ".toList ++ '(' :: ("V, K".toList ++ ')' :: []) ++ '>' :: " ".toList)
    leadBlank := List.all_eq_true.mp (by decide +kernel)
    isName := by decide +kernel
    gapBlank := List.all_eq_true.mp (by decide +kernel)
    nested := (Nested.of_free (by simp [typeBrackets])).append
      (.group ('<', '>') (by decide)
        ((Nested.of_free (by simp [typeBrackets])).append
          (.group ('(', ')') (by decide) (.of_free (by simp [typeBrackets])) (.nil _)))
        (.of_free (by simp [typeBrackets])))
    unquoted := by decide +kernel
    spaced := by decide +kernel }]

/-- A record with these parameters, behind a comment that mentions its name. -/
def boundedRecord : Text :=
  "// Not Table<X>.\nrecord Table <\n K extends Comparable<? super K>, $V\nextends ".toList ++
    "Map<K, (V, K)> > (K k) \x7b\x7d // class Table<Y>\n".toList

/-- The place at which the record is declared. -/
def boundedPlace : Header.GenericPlace "Table".toList boundedRecord where
  before := "// Not Table<X>.\n".toList
  keyword := "record".toList
  blanks := " ".toList
  tail := boundedRecord.drop 29
  reads := by decide +kernel
  isKeyword := by decide +kernel
  begins := by decide +kernel
  spaced := by decide +kernel
  blank := List.all_eq_true.mp (by decide +kernel)
  ends := by decide +kernel
  generic := by decide +kernel

open Header in
theorem parameterNames_of_plain_list_bounded :
    (∀ other : GenericPlace "Table".toList boundedRecord,
      boundedPlace.before.length ≤ other.before.length) ∧
    boundedParameters ≠ [] ∧
    boundedPlace.tail.dropBlanks = '<' :: (PlainParameter.listing boundedParameters ++
      '>' :: " (K k) \x7b\x7d // class Table<Y>\n".toList) ∧
    parameterNames boundedRecord "Table".toList = .ok ["K".toList, "$V".toList] ∧
    skipBalanced boundedRecord .angle (30 : Nat) = .ok 93 ∧
    ∃ lead, find "Table".toList boundedRecord =
      .ok ⟨lead, "(".toList, "K k) \x7b\x7d // class Table<Y>\n".toList⟩ := by
  have noneBefore : (List.range boundedPlace.before.length).all (fun index =>
      (declaredAt? isGenericTail "Table".toList (boundedRecord.take index).reverse
        (boundedRecord.drop index)).isNone) = true := by decide +kernel
  have first (other : GenericPlace "Table".toList boundedRecord) :
      boundedPlace.before.length ≤ other.before.length := by
    by_contra shorter
    have isNone := List.all_eq_true.mp noneBefore other.before.length
      (List.mem_range.mpr (Nat.lt_of_not_le shorter))
    rw [declaredAt?_length (by decide +kernel) other.toPlace other.generic] at isNone
    cases isNone
  have nonempty : boundedParameters ≠ [] := List.cons_ne_nil _ _
  have reads : boundedPlace.tail.dropBlanks =
      '<' :: (PlainParameter.listing boundedParameters ++
        '>' :: " (K k) \x7b\x7d // class Table<Y>\n".toList) := by decide +kernel
  obtain ⟨names, skipped, lead, header⟩ :=
    parameterNames_of_plain_list boundedPlace first boundedParameters nonempty _ reads
  refine ⟨first, nonempty, reads, names, ?_, lead, ?_⟩
  · have bracket : boundedPlace.bracket = 30 ∧
        (PlainParameter.listing boundedParameters).length = 61 := by decide +kernel
    rw [bracket.1, bracket.2] at skipped
    exact skipped.trans (congrArg Except.ok (by decide))
  · have opening : splitOpening (Text.dropBlanks " (K k) \x7b\x7d // class Table<Y>\n".toList) =
        ("(".toList, "K k) \x7b\x7d // class Table<Y>\n".toList) := by decide +kernel
    rw [header, opening]

end Stencil
