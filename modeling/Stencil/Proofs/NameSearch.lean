/-
This file proves what a search through a list of names finds. The pattern of an item takes a dotted
name only if the run of ink that it stands in is that name, perhaps with a question mark, for a blank
or the end has to follow. A name that could give back characters until one fits would find a part of a
bad word, but no part of a run of ink is followed by a blank. So each run is one item, and what the
item is depends on the run alone.

That the node of a name spells dotted names is a matter of languages. Its ways are many, one for each
lead of the text that is a dotted name, and all but one of them end at the look ahead.
-/
import Stencil.Proofs.Edits
import Stencil.Proofs.ListSearch
import Stencil.Proofs.OutputPaths

namespace Stencil

open scoped Computability

/-! ### Dotted names -/

/-- A segment of a name: a word character that is no digit, followed by word characters and dollar
signs. -/
def IsSegment (text : Text) : Prop :=
  ∃ c rest, text = c :: rest ∧ isWordChar c = true ∧ isDecimalDigit c = false ∧
    ∀ d ∈ rest, isWordChar d = true ∨ d = '$'

/-- Segments with single dots between them. -/
def IsDotted (name : Text) : Prop :=
  ∃ segments, segments ≠ [] ∧ (∀ segment ∈ segments, IsSegment segment) ∧
    name = Text.joinWith ['.'] segments

theorem isSimpleName_iff {text : Text} : isSimpleName text = true ↔ IsSegment text := by
  constructor
  · intro simple
    cases text with
    | nil => cases simple
    | cons c rest =>
      simp only [isSimpleName, isNameStart, isIdentifierChar, Bool.and_eq_true, Bool.not_eq_true',
        List.all_eq_true, Bool.or_eq_true, beq_iff_eq] at simple
      exact ⟨c, rest, rfl, simple.1.1, simple.1.2, fun d member => (simple.2 d member).symm⟩
  · rintro ⟨c, rest, rfl, word, noDigit, others⟩
    simp only [isSimpleName, isNameStart, isIdentifierChar, Bool.and_eq_true, Bool.not_eq_true',
      List.all_eq_true, Bool.or_eq_true, beq_iff_eq]
    exact ⟨⟨word, noDigit⟩, fun d member => (others d member).symm⟩

theorem splitAtAll_joinWith {segments : List Text} (nonempty : segments ≠ [])
    (free : ∀ segment ∈ segments, '.' ∉ segment) :
    Text.splitAtAll (· == '.') (Text.joinWith ['.'] segments) = segments := by
  induction segments with
  | nil => exact absurd rfl nonempty
  | cons segment segments inductionHypothesis =>
    obtain ⟨here, later⟩ := List.forall_mem_cons.mp free
    have whole : Text.splitAtAll (· == '.') segment = [segment] :=
      Text.splitAtAll_of_free fun c member =>
        beq_eq_false_iff_ne.mpr fun same => here (same ▸ member)
    by_cases more : segments = []
    · rw [more]
      exact whole
    · have cut (rest : Text) : Text.splitAtAll (· == '.') (segment ++ '.' :: rest) =
          Text.splitAtAll (· == '.') segment ++ Text.splitAtAll (· == '.') rest :=
        Text.splitAtAll_append_cut rfl segment rest
      rw [Text.joinWith_cons more, List.append_assoc, List.singleton_append, cut, whole,
        inductionHypothesis more later]
      rfl

theorem isDottedName_iff {name : Text} : isDottedName name = true ↔ IsDotted name := by
  rw [isDottedName, List.all_eq_true]
  constructor
  · intro simple
    exact ⟨_, Text.splitAtAll_ne_nil _ name, fun segment member =>
      isSimpleName_iff.mp (simple segment member), (Text.joinWith_splitAtAll '.' name).symm⟩
  · rintro ⟨segments, nonempty, are, rfl⟩ segment member
    have simple (segment : Text) (member : segment ∈ segments) : isSimpleName segment = true :=
      isSimpleName_iff.mpr (are segment member)
    rw [splitAtAll_joinWith nonempty fun segment member =>
      (isComponent_of_isSimpleName (simple segment member)).noDot] at member
    exact simple segment member

theorem IsDotted.eq_or_isIdentifierChar {name : Text} (dotted : IsDotted name) :
    ∀ c ∈ name, c = '.' ∨ isIdentifierChar c = true := by
  obtain ⟨segments, nonempty, are, rfl⟩ := dotted
  clear nonempty
  induction segments with
  | nil => exact List.forall_mem_nil _
  | cons segment segments inductionHypothesis =>
    obtain ⟨here, later⟩ := List.forall_mem_cons.mp are
    have inside : ∀ c ∈ segment, c = '.' ∨ isIdentifierChar c = true := by
      obtain ⟨d, rest, rfl, word, -, others⟩ := here
      refine List.forall_mem_cons.mpr ⟨Or.inr (by rw [isIdentifierChar, word, Bool.or_true]), ?_⟩
      exact fun c member => Or.inr (by simpa [isIdentifierChar, or_comm] using others c member)
    by_cases more : segments = []
    · rw [more]
      exact inside
    · rw [Text.joinWith_cons more, List.append_assoc]
      intro c member
      rcases List.mem_append.mp member with within | behind
      · exact inside c within
      · rcases List.mem_cons.mp behind with same | within
        · exact Or.inl same
        · exact inductionHypothesis later c within

theorem not_isDotted_mark (name : Text) : ¬ IsDotted (name ++ ['?']) := by
  intro dotted
  have last : '?' ∈ name ++ ['?'] := List.mem_append_right name List.mem_cons_self
  exact absurd (dotted.eq_or_isIdentifierChar '?' last) (by decide +kernel)

theorem IsDotted.isInk {name : Text} (dotted : IsDotted name) : ∀ c ∈ name, isInk c = true := by
  intro c member
  by_contra blank
  rw [Stencil.isInk, Bool.not_eq_true, Bool.not_eq_false'] at blank
  rcases dotted.eq_or_isIdentifierChar c member with rfl | inside
  · exact absurd blank (by decide +kernel)
  · cases (isIdentifierChar_of_isBlank blank).symm.trans inside

theorem IsDotted.ne_nil {name : Text} (dotted : IsDotted name) : name ≠ [] := by
  obtain ⟨segments, nonempty, are, rfl⟩ := dotted
  obtain ⟨segment, segments, rfl⟩ := List.exists_cons_of_ne_nil nonempty
  obtain ⟨c, rest, rfl, -⟩ := are segment List.mem_cons_self
  cases segments <;> exact List.cons_ne_nil _ _

theorem isInk_mark : ∀ c ∈ ['?'], isInk c = true :=
  List.forall_mem_singleton.mpr (by decide +kernel)

/-! ### The languages of names -/

namespace NameItem

/-- A character that can begin a segment. -/
def startTest : CharTest := .set .exact true [.cls ⟨.word, true, false⟩, .cls ⟨.digit, false, false⟩]

/-- A character that can stand in a segment. -/
def laterTest : CharTest := .set .exact false [.cls ⟨.word, false, false⟩, .code '$'.toNat]

theorem accepts_startTest (c : Char) :
    startTest.accepts c = true ↔ isWordChar c = true ∧ isDecimalDigit c = false := by
  simp [startTest, CharTest.accepts, SetMember.accepts, CharClass.accepts, CharKind.holds]

theorem accepts_laterTest (c : Char) :
    laterTest.accepts c = true ↔ isWordChar c = true ∨ c = '$' := by
  have same : c.toNat = '$'.toNat ↔ c = '$' := Char.toNat_inj
  simp only [laterTest, CharTest.accepts, List.any_cons, List.any_nil, SetMember.accepts,
    CharClass.accepts, CharKind.holds, Bool.bne_false, Bool.or_false, Bool.or_eq_true, beq_iff_eq,
    same]

/-- Segments of names. -/
def segments : Language Char := {text | IsSegment text}

theorem segments_eq : startTest.language * laterTest.language∗ = segments := by
  ext text
  constructor
  · intro member
    obtain ⟨first, ⟨c, begins, rfl⟩, rest, later, rfl⟩ := Language.mem_mul.mp member
    obtain ⟨word, noDigit⟩ := (accepts_startTest c).mp begins
    refine ⟨c, rest, rfl, word, noDigit, fun d inside => ?_⟩
    exact (accepts_laterTest d).mp (CharTest.mem_kstar_language.mp later d inside)
  · rintro ⟨c, rest, rfl, word, noDigit, others⟩
    have begins : [c] ∈ startTest.language := ⟨c, (accepts_startTest c).mpr ⟨word, noDigit⟩, rfl⟩
    refine Language.mem_mul.mpr ⟨[c], begins, rest, ?_, rfl⟩
    exact CharTest.mem_kstar_language.mpr fun d inside => (accepts_laterTest d).mpr (others d inside)

/-- The single dot. -/
def dots : Language Char := CharTest.language (.literal .exact false '.'.toNat)

theorem mem_dots {text : Text} : text ∈ dots ↔ text = ['.'] := by
  have accepts (c : Char) :
      CharTest.accepts (.literal .exact false '.'.toNat) c = true ↔ c = '.' := by
    rw [CharTest.accepts_exactly, beq_iff_eq]
  constructor
  · rintro ⟨c, accepted, rfl⟩
    rw [(accepts c).mp accepted]
  · rintro rfl
    exact ⟨'.', (accepts '.').mpr rfl, rfl⟩

/-- Dotted names. -/
def names : Language Char := {text | IsDotted text}

theorem isDotted_of_flatten {texts : List Text} (parts : ∀ text ∈ texts, text ∈ dots * segments)
    {segment : Text} (first : IsSegment segment) : IsDotted (segment ++ texts.flatten) := by
  induction texts generalizing segment with
  | nil =>
    rw [List.flatten_nil, List.append_nil]
    exact ⟨[segment], List.cons_ne_nil _ _, List.forall_mem_singleton.mpr first, rfl⟩
  | cons text texts inductionHypothesis =>
    obtain ⟨here, later⟩ := List.forall_mem_cons.mp parts
    obtain ⟨dot, isDot, next, isSegment, rfl⟩ := Language.mem_mul.mp here
    obtain ⟨others, nonempty, are, same⟩ := inductionHypothesis later isSegment
    refine ⟨segment :: others, List.cons_ne_nil _ _, List.forall_mem_cons.mpr ⟨first, are⟩, ?_⟩
    rw [Text.joinWith_cons nonempty, ← same, mem_dots.mp isDot, List.flatten_cons]
    simp only [List.append_assoc]

theorem mem_names_of_segments {list : List Text} (nonempty : list ≠ [])
    (are : ∀ segment ∈ list, IsSegment segment) :
    Text.joinWith ['.'] list ∈ segments * (dots * segments)∗ := by
  induction list with
  | nil => exact absurd rfl nonempty
  | cons segment list inductionHypothesis =>
    obtain ⟨first, others⟩ := List.forall_mem_cons.mp are
    by_cases last : list = []
    · rw [last]
      exact Language.mem_mul.mpr ⟨segment, first, [], Language.nil_mem_kstar _, List.append_nil _⟩
    · have behind := inductionHypothesis last others
      have dotted : '.' :: Text.joinWith ['.'] list ∈ (dots * segments)∗ := by
        rw [← Language.one_add_self_mul_kstar_eq_kstar, mul_assoc]
        exact Or.inr (Language.mem_mul.mpr ⟨['.'], mem_dots.mpr rfl, _, behind, rfl⟩)
      rw [Text.joinWith_cons last, List.append_assoc]
      exact Language.mem_mul.mpr ⟨segment, first, _, dotted, rfl⟩

theorem names_eq : segments * (dots * segments)∗ = names := by
  ext text
  constructor
  · intro member
    obtain ⟨segment, first, rest, parts, rfl⟩ := Language.mem_mul.mp member
    obtain ⟨texts, rfl, are⟩ := Language.mem_kstar.mp parts
    exact isDotted_of_flatten are first
  · rintro ⟨list, nonempty, are, rfl⟩
    exact mem_names_of_segments nonempty are

theorem spells_nameNode : nameNode.Spells names := by
  have start : (Node.char startTest).Spells startTest.language := Node.spells_char startTest
  have later : (Node.loop .greedy 0 none (.char laterTest)).Spells laterTest.language∗ :=
    (Node.spells_char laterTest).loop laterTest.nil_not_mem_language
  have dot : (Node.exactly '.').Spells dots := Node.spells_char _
  have taking : [] ∉ dots * (startTest.language * laterTest.language∗) := by
    intro member
    obtain ⟨one, isDot, rest, -, same⟩ := Language.mem_mul.mp member
    rw [mem_dots.mp isDot] at same
    cases same
  have whole := start.seq (later.seq ((dot.seq (start.seq later)).loop taking))
  rw [← mul_assoc, segments_eq, names_eq] at whole
  exact whole

/-! ### One item -/

/-- The item of a word: a dotted name, perhaps with a question mark. -/
def ofWord (word : Text) : NameItem :=
  if isDottedName word then .name word false
  else if word.getLast? == some '?' && isDottedName word.dropLast then .name word.dropLast true
  else .invalid word

/-- The item at the front of a text that does not begin with a blank, and what follows it. -/
def next (text : Text) : NameItem × Text :=
  (ofWord (text.takeWhile isInk), text.dropWhile isInk)

theorem ways_optional (body : Node) (start : Cursor) :
    (Node.loop .greedy 0 (some 1) body).ways start = body.ways start ++ [start] := by
  have unrolled : (Node.loop .greedy 0 (some 1) body).ways start =
      (body.ways start).flatMap (fun stop => [stop]) ++ [start] := rfl
  rw [unrolled, List.flatMap_singleton']

/-- What has to follow a name: a blank or the end. -/
def endNode : Node := .ahead false (.alt .blank (.anchor .textEnd))

theorem ways_endNode_of_ink {start : Cursor} (ink : start.Faces isInk) : endNode.ways start = [] := by
  have notBlank : ¬ start.Faces isBlank := fun blank => Cursor.not_faces_isInk_of_blank blank ink
  obtain ⟨c, rest, ahead, -⟩ := ink
  have notEnd : (Node.anchor .textEnd).ways start = [] := by
    rw [Node.ways, ahead]
    rfl
  rw [← CharTest.accepts_blank] at notBlank
  rw [endNode, Node.ways, Node.ways, Node.blank, Node.ways_char_of_not_faces notBlank, notEnd]
  rfl

theorem ways_endNode {start : Cursor} (stops : ¬ start.Faces isInk) :
    endNode.ways start = [start] := by
  cases ahead : start.ahead with
  | nil =>
    have notBlank : ¬ start.Faces isBlank := by
      rintro ⟨c, rest, same, -⟩
      cases ahead.symm.trans same
    have atEnd : (Node.anchor .textEnd).ways start = [start] := by
      rw [Node.ways, ahead]
      rfl
    rw [← CharTest.accepts_blank] at notBlank
    rw [endNode, Node.ways, Node.ways, Node.blank, Node.ways_char_of_not_faces notBlank, atEnd]
    rfl
  | cons c rest =>
    have blank : isBlank c = true := by
      by_contra ink
      exact stops ⟨c, rest, ahead, by simpa [isInk] using ink⟩
    rw [← CharTest.accepts_blank] at blank
    rw [endNode, Node.ways, Node.ways, Node.blank, Node.ways_char_of_faces ahead blank]
    rfl

theorem markedNode_eq :
    markedNode = .seq (.capture 3 nameNode)
      (.seq (.loop .greedy 0 (some 1) (.capture 4 (.exactly '?'))) endNode) := rfl

/-- The cursor behind a name and a question mark. -/
def markedStop (start : Cursor) (name rest : Text) : Cursor :=
  { start.pass (name ++ ['?']) rest with
    captures :=
      [(4, ⟨start.offset + name.length, start.offset + name.length + 1, ['?']⟩),
        (3, ⟨start.offset, start.offset + name.length, name⟩)] }

/-- Behind a name, a question mark may follow, and then a blank or the end must. -/
theorem mem_ways_mark_end {start stop : Cursor} {name rest : Text} :
    stop ∈ (Node.seq (.loop .greedy 0 (some 1) (.capture 4 (.exactly '?'))) endNode).ways
        (start.take 3 name rest) ↔
      (¬ (start.pass name rest).Faces isInk ∧ stop = start.take 3 name rest) ∨
        ∃ later, rest = '?' :: later ∧ ¬ (start.pass (name ++ ['?']) later).Faces isInk ∧
          stop = markedStop start name later := by
  have unopened : (start.take 3 name rest).reopen 4 = start.take 3 name rest := rfl
  have marks : (Node.capture 4 (.exactly '?')).ways (start.take 3 name rest) =
      ((Node.exactly '?').ways (start.take 3 name rest)).map
        (·.record 4 (start.take 3 name rest)) := by
    rw [Node.ways, unopened]
  have atMark (later : Text) (whole : rest = '?' :: later) :
      ((start.take 3 name rest).step '?' later).record 4 (start.take 3 name rest) =
        markedStop start name later := by
    rw [whole]
    have one : start.offset + (name.length + 1) - (start.offset + name.length) = 1 := by omega
    simp [markedStop, Cursor.take, Cursor.pass, Cursor.step, Cursor.record, Nat.add_assoc, one]
  have ends (cursor : Cursor) :
      stop ∈ endNode.ways cursor ↔ ¬ cursor.Faces isInk ∧ stop = cursor := by
    by_cases ink : cursor.Faces isInk
    · rw [ways_endNode_of_ink ink]
      exact iff_of_false List.not_mem_nil fun stops => stops.1 ink
    · rw [ways_endNode ink, List.mem_singleton, and_iff_right ink]
  rw [Node.ways, ways_optional, List.flatMap_append, List.mem_append, List.flatMap_singleton, ends,
    marks, or_comm]
  refine or_congr_right ?_
  rw [List.mem_flatMap]
  constructor
  · rintro ⟨middle, inside, further⟩
    obtain ⟨behind, isWay, rfl⟩ := List.mem_map.mp inside
    by_cases faces : (start.take 3 name rest).Faces (· == '?')
    · obtain ⟨c, later, ahead, isMark⟩ := faces
      cases beq_iff_eq.mp isMark
      rw [Node.ways_exactly ahead] at isWay
      cases List.mem_singleton.mp isWay
      rw [atMark later ahead] at further
      obtain ⟨stops, rfl⟩ := (ends _).mp further
      exact ⟨later, ahead, stops, rfl⟩
    · rw [Node.ways_exactly_of_not_faces faces] at isWay
      cases isWay
  · rintro ⟨later, whole, stops, rfl⟩
    refine ⟨_, List.mem_map.mpr ⟨_, ?_, atMark later whole⟩, (ends _).mpr ⟨stops, rfl⟩⟩
    rw [Node.ways_exactly (show (start.take 3 name rest).ahead = '?' :: later from whole)]
    exact List.mem_singleton.mpr rfl

/-- The ways of a name, with a question mark or without, before a blank or the end. -/
theorem mem_ways_markedNode {start stop : Cursor} (fresh : start.captures = []) :
    stop ∈ markedNode.ways start ↔
      ∃ name rest, IsDotted name ∧ start.ahead = name ++ rest ∧
        ((¬ (start.pass name rest).Faces isInk ∧ stop = start.take 3 name rest) ∨
          ∃ later, rest = '?' :: later ∧ ¬ (start.pass (name ++ ['?']) later).Faces isInk ∧
            stop = markedStop start name later) := by
  rw [markedNode_eq, Node.ways, Node.ways_capture fresh, List.mem_flatMap]
  constructor
  · rintro ⟨middle, inside, further⟩
    obtain ⟨behind, isWay, rfl⟩ := List.mem_map.mp inside
    obtain ⟨name, dotted, rest, whole, rfl⟩ := (spells_nameNode start behind).mp isWay
    rw [Cursor.record_pass fresh whole] at further
    exact ⟨name, rest, dotted, whole, mem_ways_mark_end.mp further⟩
  · rintro ⟨name, rest, dotted, whole, ends⟩
    have isWay := (spells_nameNode start _).mpr ⟨name, dotted, rest, whole, rfl⟩
    refine ⟨start.take 3 name rest, List.mem_map.mpr ⟨_, isWay, ?_⟩, mem_ways_mark_end.mpr ends⟩
    exact Cursor.record_pass fresh whole 3

/-- A name that stands ahead before a blank or the end is the run of ink. -/
theorem eq_takeWhile_of_ends {start : Cursor} {word rest : Text} (ink : ∀ c ∈ word, isInk c = true)
    (whole : start.ahead = word ++ rest) (ends : ¬ (start.pass word rest).Faces isInk) :
    start.ahead.takeWhile isInk = word ∧ start.ahead.dropWhile isInk = rest := by
  have stops := Cursor.not_faces_iff.mp ends
  rw [whole]
  exact ⟨Text.takeWhile_append_of_stops ink stops, Text.dropWhile_append_of_stops ink stops⟩

theorem head?_of_only {Item : Type} {list : List Item} {item : Item} (member : item ∈ list)
    (only : ∀ other ∈ list, other = item) : list.head? = some item := by
  cases list with
  | nil => cases member
  | cons first list => rw [List.head?_cons, only first List.mem_cons_self]

/-- What a way of a marked name takes is the run of ink. -/
theorem cases_of_mem_markedNode {start stop : Cursor} (fresh : start.captures = [])
    (member : stop ∈ markedNode.ways start) :
    (IsDotted (start.ahead.takeWhile isInk) ∧
      stop = start.take 3 (start.ahead.takeWhile isInk) (start.ahead.dropWhile isInk)) ∨
      ∃ name, IsDotted name ∧ start.ahead.takeWhile isInk = name ++ ['?'] ∧
        stop = markedStop start name (start.ahead.dropWhile isInk) := by
  obtain ⟨name, rest, dotted, whole, ⟨ends, rfl⟩ | ⟨later, rfl, ends, rfl⟩⟩ :=
    (mem_ways_markedNode fresh).mp member
  · obtain ⟨sameName, sameRest⟩ := eq_takeWhile_of_ends dotted.isInk whole ends
    rw [sameName, sameRest]
    exact Or.inl ⟨dotted, rfl⟩
  · have inked : ∀ c ∈ name ++ ['?'], isInk c = true :=
      List.forall_mem_append.mpr ⟨dotted.isInk, isInk_mark⟩
    obtain ⟨sameName, sameRest⟩ :=
      eq_takeWhile_of_ends inked (by rw [whole, List.append_assoc]; rfl) ends
    rw [sameRest]
    exact Or.inr ⟨name, dotted, sameName, rfl⟩

/-- A run of ink that is a dotted name. -/
theorem firstTakes_plain {start : Cursor} (fresh : start.captures = []) (ink : start.Faces isInk)
    (dotted : IsDotted (start.ahead.takeWhile isInk)) :
    itemNode.FirstTakes ofMatch start
      (.name (start.ahead.takeWhile isInk) false, start.ahead.dropWhile isInk) := by
  refine .run ink 3 ?_ fun _ _ same => congrArg (NameItem.name · false) same
  have isWay := (mem_ways_markedNode fresh).mpr ⟨_, _, dotted,
    List.takeWhile_append_dropWhile.symm, Or.inl ⟨start.not_faces_passWhile isInk, rfl⟩⟩
  have first := head?_of_only isWay fun other member => by
    rcases cases_of_mem_markedNode fresh member with ⟨-, same⟩ | ⟨name, -, marked, -⟩
    · exact same
    · exact absurd (marked ▸ dotted) (not_isDotted_mark name)
  rw [itemNode, Node.ways, List.head?_append, first]
  rfl

/-- A run of ink that is a dotted name with a question mark. -/
theorem firstTakes_marked {start : Cursor} (fresh : start.captures = []) {name : Text}
    (dotted : IsDotted name) (marked : start.ahead.takeWhile isInk = name ++ ['?']) :
    itemNode.FirstTakes ofMatch start (.name name true, start.ahead.dropWhile isInk) := by
  have whole : start.ahead = (name ++ ['?']) ++ start.ahead.dropWhile isInk := by
    rw [← marked, List.takeWhile_append_dropWhile]
  have ends := start.not_faces_passWhile isInk
  rw [Cursor.passWhile, marked] at ends
  have isWay := (mem_ways_markedNode fresh).mpr ⟨name, '?' :: start.ahead.dropWhile isInk, dotted,
    by rw [List.append_cons, ← whole], Or.inr ⟨_, rfl, ends, rfl⟩⟩
  have first := head?_of_only isWay fun other member => by
    rcases cases_of_mem_markedNode fresh member with ⟨plain, -⟩ | ⟨other, -, same, rfl⟩
    · exact absurd (marked ▸ plain) (not_isDotted_mark name)
    · rw [List.append_cancel_right (same.symm.trans marked)]
  refine ⟨name ++ ['?'], (markedStop start name (start.ahead.dropWhile isInk)).captures, by simp,
    whole, ?_, fun _ => rfl⟩
  rw [itemNode, Node.ways, List.head?_append, first]
  rfl

/-- A run of ink that is neither. -/
theorem firstTakes_invalid {start : Cursor} (fresh : start.captures = []) (ink : start.Faces isInk)
    (notPlain : ¬ IsDotted (start.ahead.takeWhile isInk))
    (notMarked : ∀ name, IsDotted name → start.ahead.takeWhile isInk ≠ name ++ ['?']) :
    itemNode.FirstTakes ofMatch start
      (.invalid (start.ahead.takeWhile isInk), start.ahead.dropWhile isInk) := by
  refine .run ink 5 ?_ fun _ _ => congrArg NameItem.invalid
  have none : markedNode.ways start = [] := by
    refine List.eq_nil_iff_forall_not_mem.mpr fun stop member => ?_
    rcases cases_of_mem_markedNode fresh member with ⟨plain, -⟩ | ⟨name, dotted, marked, -⟩
    · exact notPlain plain
    · exact notMarked name dotted marked
  rw [← CharTest.accepts_ink] at ink ⊢
  rw [itemNode, Node.ways, none, List.nil_append]
  exact Node.head?_capture_loop_one fresh ink 5

theorem itemNode_takes : itemNode.Takes ofMatch next where
  nowhere start stops := by
    have noName : nameNode.ways (start.reopen 3) = [] := by
      refine List.eq_nil_iff_forall_not_mem.mpr fun stop member => stops ?_
      obtain ⟨name, dotted, rest, whole, -⟩ := (spells_nameNode _ stop).mp member
      obtain ⟨c, more, rfl⟩ := List.exists_cons_of_ne_nil (IsDotted.ne_nil dotted)
      rw [start.ahead_reopen, List.cons_append] at whole
      exact ⟨c, more ++ rest, whole, IsDotted.isInk dotted c List.mem_cons_self⟩
    rw [← CharTest.accepts_ink] at stops
    rw [itemNode, Node.ways, markedNode_eq, Node.ways, Node.ways, noName, Node.inkRun]
    exact Node.ways_capture_loop_one_of_not_faces stops 5
  first start fresh faces := by
    rw [next, ofWord]
    split
    · next dotted => exact firstTakes_plain fresh faces (isDottedName_iff.mp dotted)
    · next undotted =>
      split
      · next marked =>
        rw [Bool.and_eq_true, beq_iff_eq] at marked
        obtain ⟨name, same⟩ := List.getLast?_eq_some_iff.mp marked.1
        have dotted := marked.2
        rw [same, List.dropLast_concat] at dotted ⊢
        exact firstTakes_marked fresh (isDottedName_iff.mp dotted) same
      · next unmarked =>
        refine firstTakes_invalid fresh faces (mt isDottedName_iff.mpr undotted) ?_
        intro name dotted same
        rw [same] at unmarked
        simp [isDottedName_iff.mpr dotted] at unmarked

/-! ### Values -/

/-- The word that asks for nothing is all there is, blanks apart. -/
def isNone (value : Text) : Bool := (Text.after? noneWord value.dropBlanks).any Text.isAllBlank

/-- Blanks, the word that asks for nothing and blanks again, up to the end. -/
theorem ways_blanks_none (start : Cursor) :
    (Node.sequence (.zeroOrMore .blank ::
      (noneWord.map Node.exactly ++ [.zeroOrMore .blank, .anchor .textEnd]))).ways start =
      if isNone start.ahead then [start.pass start.ahead []] else [] := by
  have inked (stop : Cursor) (faces : stop.Faces isBlank) :
      (Node.sequence (noneWord.map Node.exactly ++
        [.zeroOrMore .blank, .anchor .textEnd])).ways stop = [] := by
    obtain ⟨c, rest, ahead, blank⟩ := faces
    have other : c ≠ 'N' := by
      rintro rfl
      exact absurd blank (by decide +kernel)
    have none : Text.after? noneWord stop.ahead = none := by
      rw [ahead]
      exact if_neg (Ne.symm other)
    rw [Node.ways_literals, none]
  have left : (start.passWhile isBlank).ahead = start.ahead.dropBlanks := rfl
  rw [Node.ways_sequence_cons, (Node.longestFirst_blanks _).flatMap_eq inked, Node.ways_literals,
    isNone, left]
  cases after : Text.after? noneWord start.ahead.dropBlanks with
  | none => rfl
  | some rest =>
    have behind := Node.ways_blanks_textEnd ((start.passWhile isBlank).pass noneWord rest)
    have whole : start.ahead.takeWhile isBlank ++ (noneWord ++ rest) = start.ahead := by
      rw [← (Text.after?_eq_some_iff _ _ _).mp after, Text.takeWhile_append_dropBlanks]
    refine behind.trans ?_
    rw [Cursor.passWhile, Cursor.pass_pass, Cursor.pass_pass, List.append_assoc]
    show (if rest.isAllBlank then [start.pass (_ ++ (noneWord ++ rest)) []] else []) = _
    rw [whole]
    rfl

theorem noneNode_eq :
    noneNode = .capture 2 (.seq (.anchor .textStart) (.sequence (.zeroOrMore .blank ::
      (noneWord.map Node.exactly ++ [.zeroOrMore .blank, .anchor .textEnd])))) := rfl

theorem ways_noneNode (value : Text) :
    noneNode.ways ⟨[], value, 0, []⟩ =
      if isNone value then [Cursor.take ⟨[], value, 0, []⟩ 2 value []] else [] := by
  rw [noneNode_eq, Node.ways_textStart, ways_blanks_none]
  split
  · exact congrArg ([·]) (Cursor.record_pass rfl (List.append_nil value).symm 2)
  · rfl

theorem ways_root_of_ne (cursor : Cursor) (behind : cursor.behind ≠ []) :
    pattern.root.ways cursor = (Node.padded itemNode).ways cursor := by
  rw [pattern, Node.ways, Node.ways_allBlank_of_ne behind, List.nil_append, Node.ways, noneNode_eq,
    Node.ways_textStart_of_ne behind, List.nil_append]

/-- The items of a value, read one by one. -/
theorem ofValue_eq (value : Text) :
    ofValue value =
      if value.isAllBlank then [⟨0, value.length, .blank value⟩]
      else if isNone value then [⟨0, value.length, .nothing value⟩]
      else itemsFrom next (value.length + 1) 0 value := by
  have start := Node.ways_allBlank value
  have none := ways_noneNode value
  rw [ofValue]
  split
  · next blank =>
    rw [if_pos blank] at start
    by_cases empty : value = []
    · cases empty
      rfl
    · rw [itemNode_takes.findAll_of_whole ways_root_of_ne empty 1]
      · rfl
      · rw [pattern, Node.ways, start]
        rfl
  · next inked =>
    rw [if_neg inked] at start
    split
    · next isNone =>
      have nonempty : value ≠ [] := by
        rintro rfl
        exact inked rfl
      rw [if_pos isNone] at none
      rw [itemNode_takes.findAll_of_whole ways_root_of_ne nonempty 2]
      · rfl
      · rw [pattern, Node.ways, start, Node.ways, none]
        rfl
    · next other =>
      rw [if_neg other] at none
      refine itemNode_takes.findAll_eq ways_root_of_ne inked ?_
      rw [pattern, Node.ways, start, List.nil_append, Node.ways, none, List.nil_append]

section

attribute [local instance] CharacterNames.signs

/-- The pattern is what its text is read as. -/
theorem ofText_patternText : Pattern.ofText patternText = .ok pattern := by decide +kernel

end

end NameItem

end Stencil
