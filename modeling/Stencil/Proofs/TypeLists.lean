/-
This file proves that lists of types are read without loss. Types that are written one behind the
other, bare or between quotation marks, are stored as they were written. And whatever a value looks
like, its items lie one right behind the other from its first character to its last one, so that
what cannot be read is an item of its own, and is refused.

Reading a list item by item loses nothing because each item, taken from the front of a text that
begins with ink, leaves a shorter text, and the blanks around it go with it.
-/
import Stencil.Proofs.ListSearch
import Stencil.Proofs.WrittenRules

namespace Stencil

/-! ### Types as they are written -/

/-- A type as it stands in a list: bare, if it has neither blanks nor quotation marks, or between
two marks of a kind that it does not have. -/
inductive SpellsType (type : Text) : Text → Prop
  | bare (nonempty : type ≠ []) (ink : ∀ c ∈ type, isBlank c = false)
      (unmarked : ∀ mark : Mark, mark.char ∉ type) : SpellsType type type
  | quoted (mark : Mark) (nonempty : type ≠ []) (free : mark.char ∉ type) :
      SpellsType type (mark.quoted type)

/-- A list of types with blanks between any two of them, and perhaps around them all. -/
inductive ListsTypes : List Text → Text → Prop
  | last {type text before after : Text} (blankBefore : ∀ c ∈ before, isBlank c = true)
      (spells : SpellsType type text) (blankAfter : ∀ c ∈ after, isBlank c = true) :
      ListsTypes [type] (before ++ (text ++ after))
  | cons {type text before between rest : Text} {types : List Text}
      (blankBefore : ∀ c ∈ before, isBlank c = true) (spells : SpellsType type text)
      (apart : between ≠ []) (blankBetween : ∀ c ∈ between, isBlank c = true)
      (more : ListsTypes types rest) :
      ListsTypes (type :: types) (before ++ (text ++ (between ++ rest)))

namespace SpellsType

variable {type text : Text}

theorem ne_nil (spells : SpellsType type text) : text ≠ [] := by
  cases spells with
  | bare nonempty _ _ => exact nonempty
  | quoted mark _ _ => exact List.cons_ne_nil _ _

/-- A type does not begin with a blank. -/
theorem dropBlanks_append (spells : SpellsType type text) (rest : Text) :
    (text ++ rest).dropBlanks = text ++ rest := by
  have begins : ∃ c more, text = c :: more ∧ isBlank c = false := by
    cases spells with
    | bare nonempty ink _ =>
      obtain ⟨c, more, rfl⟩ := List.exists_cons_of_ne_nil nonempty
      exact ⟨c, more, rfl, ink c List.mem_cons_self⟩
    | quoted mark _ _ => exact ⟨mark.char, _, rfl, mark.isBlank_char⟩
  obtain ⟨c, more, rfl, ink⟩ := begins
  exact List.dropWhile_cons_of_neg (Bool.eq_false_iff.mp ink)

end SpellsType

namespace TypeItem

/-- The type that an item is, unless it is refused. -/
def type? : TypeItem → Option Text
  | .doubleQuoted type | .singleQuoted type | .bare type => some type
  | .blank _ | .invalid _ => none

/-- What the refusal of an item names. -/
def complaint : TypeItem → Text
  | .invalid text => text
  | _ => []

/-- The item between two marks. -/
def ofMark : Mark → Text → TypeItem
  | .double => .doubleQuoted
  | .single => .singleQuoted

theorem type?_ofMark (mark : Mark) (type : Text) : (ofMark mark type).type? = some type := by
  cases mark <;> rfl

/-- What an item is read from, blanks around it apart. An item that is refused is a run of ink that
begins with a quotation mark. -/
inductive Stands : TypeItem → Text → Prop
  | blank {text : Text} (blank : ∀ c ∈ text, isBlank c = true) : Stands (.blank text) text
  | type {item : TypeItem} {type text : Text} (isType : item.type? = some type)
      (spells : SpellsType type text) : Stands item text
  | invalid (mark : Mark) {rest : Text} (ink : ∀ c ∈ rest, isBlank c = false) :
      Stands (.invalid (mark.char :: rest)) (mark.char :: rest)

/-- From the place `start` on, the stretches of the items make up the text, one right behind the
other. In each stretch stands its item, perhaps between blanks. -/
inductive Tiles : (start : Nat) → Text → List (Spanned TypeItem) → Prop
  | nil (start : Nat) : Tiles start [] []
  | cons {start : Nat} {item : TypeItem} {before text after rest : Text}
      {items : List (Spanned TypeItem)} (blankBefore : ∀ c ∈ before, isBlank c = true)
      (stands : item.Stands text) (blankAfter : ∀ c ∈ after, isBlank c = true)
      (more : Tiles (start + (before ++ (text ++ after)).length) rest items) :
      Tiles start (before ++ (text ++ (after ++ rest)))
        (⟨start, start + (before ++ (text ++ after)).length, item⟩ :: items)

/-! ### One item -/

theorem next_mark (mark : Mark) (text : Text) :
    next (mark.char :: text) =
      match quoted? mark.char text with
      | some (type, rest) => (ofMark mark type, rest)
      | none => refused (mark.char :: text) := by
  cases mark <;> rfl

theorem next_bare {c : Char} (unmarked : ∀ mark : Mark, c ≠ mark.char) (text : Text) :
    next (c :: text) =
      (.bare ((c :: text).takeWhile isBareChar), (c :: text).dropWhile isBareChar) :=
  next_other (unmarked .double) (unmarked .single) text

theorem isBareChar_iff {c : Char} :
    isBareChar c = true ↔ isBlank c = false ∧ ∀ mark : Mark, c ≠ mark.char := by
  have marks : (∀ mark : Mark, c ≠ mark.char) ↔ c ≠ '"' ∧ c ≠ '\'' :=
    ⟨fun unmarked => ⟨unmarked .double, unmarked .single⟩,
      by rintro ⟨noDouble, noSingle⟩ mark; cases mark <;> assumption⟩
  rw [marks]
  simp [isBareChar, isInk, and_assoc]

/-- The item at the front of a text takes the lead of the text that it is read from. -/
theorem exists_stands_next {c : Char} (ink : isBlank c = false) (text : Text) :
    ∃ taken, c :: text = taken ++ (next (c :: text)).2 ∧ taken ≠ [] ∧
      (next (c :: text)).1.Stands taken := by
  by_cases marked : ∃ mark : Mark, c = mark.char
  · obtain ⟨mark, rfl⟩ := marked
    rw [next_mark]
    cases found : quoted? mark.char text with
    | some read =>
      obtain ⟨type, rest⟩ := read
      obtain ⟨rfl, nonempty, free⟩ := quoted?_eq_some_iff.mp found
      refine ⟨mark.quoted type, by simp [Mark.quoted], List.cons_ne_nil _ _, ?_⟩
      exact .type (type?_ofMark mark type) (.quoted mark nonempty free)
    | none =>
      have inked : isInk mark.char = true := by rw [isInk, ink]; rfl
      have run : (mark.char :: text).takeWhile isInk = mark.char :: text.takeWhile isInk :=
        List.takeWhile_cons_of_pos inked
      refine ⟨(mark.char :: text).takeWhile isInk, ?_, by simp [run], ?_⟩
      · exact List.takeWhile_append_dropWhile.symm
      · rw [refused, run]
        refine .invalid mark fun d member => ?_
        have inside : isInk d = true := List.all_eq_true.mp List.all_takeWhile d member
        simpa [isInk] using inside
  · have unmarked : ∀ mark : Mark, c ≠ mark.char := fun mark same => marked ⟨mark, same⟩
    have bare : isBareChar c = true := isBareChar_iff.mpr ⟨ink, unmarked⟩
    have inside : ∀ d ∈ (c :: text).takeWhile isBareChar, isBareChar d = true :=
      List.all_eq_true.mp List.all_takeWhile
    have nonempty : (c :: text).takeWhile isBareChar ≠ [] := by
      simp [List.takeWhile_cons_of_pos bare]
    rw [next_bare unmarked]
    refine ⟨(c :: text).takeWhile isBareChar, List.takeWhile_append_dropWhile.symm, nonempty, ?_⟩
    refine .type rfl (.bare nonempty (fun d member => ?_) fun mark member => ?_)
    · exact (isBareChar_iff.mp (inside d member)).1
    · exact (isBareChar_iff.mp (inside mark.char member)).2 mark rfl

/-- A type as it is written is read back, if nothing but blanks can follow it directly. -/
theorem next_spelled {type text : Text} (spells : SpellsType type text) {rest : Text}
    (ends : ∀ c, rest.head? = some c → isBlank c = true) :
    ∃ item, next (text ++ rest) = (item, rest) ∧ item.type? = some type := by
  cases spells with
  | quoted mark nonempty free =>
    have found : quoted? mark.char (type ++ mark.char :: rest) = some (type, rest) :=
      quoted?_eq_some_iff.mpr ⟨rfl, nonempty, free⟩
    refine ⟨ofMark mark type, ?_, type?_ofMark mark type⟩
    rw [Mark.quoted, List.cons_append, List.append_assoc, List.singleton_append, next_mark, found]
  | bare nonempty ink unmarked =>
    have bare : ∀ c ∈ type, isBareChar c = true := fun c member =>
      isBareChar_iff.mpr ⟨ink c member, fun mark same => unmarked mark (same ▸ member)⟩
    have stops (c : Char) (first : rest.head? = some c) : isBareChar c = false := by
      simp [isBareChar, isInk, ends c first]
    obtain ⟨c, type, rfl⟩ := List.exists_cons_of_ne_nil nonempty
    have begins : ∀ mark : Mark, c ≠ mark.char :=
      (isBareChar_iff.mp (bare c List.mem_cons_self)).2
    refine ⟨.bare (c :: type), ?_, rfl⟩
    rw [List.cons_append, next_bare begins, ← List.cons_append,
      Text.takeWhile_append_of_stops bare stops, Text.dropWhile_append_of_stops bare stops]

/-! ### Item by item -/

/-- The items of a text, unless nothing but blanks is left of it, take all of it. -/
theorem tiles_itemsFrom (fuel offset : Nat) (text : Text) (enough : text.length < fuel)
    (notBlank : text.dropBlanks = [] → text = []) :
    Tiles offset text (itemsFrom next fuel offset text) := by
  induction fuel generalizing offset text with
  | zero => exact absurd enough (Nat.not_lt_zero _)
  | succ fuel inductionHypothesis =>
    cases ink : text.dropBlanks with
    | nil =>
      rw [itemsFrom_of_blank _ _ _ ink, notBlank ink]
      exact .nil offset
    | cons c rest =>
      -- A stretch is blanks, an item and the blanks behind it; the next one begins with ink.
      obtain ⟨before, whole, blankBefore⟩ := Text.exists_dropBlanks text
      obtain ⟨taken, split, nonempty, stands⟩ :=
        exists_stands_next (Text.isBlank_of_dropBlanks ink) rest
      obtain ⟨after, left, blankAfter⟩ := Text.exists_dropBlanks (next (c :: rest)).2
      have parts : text =
          before ++ (taken ++ (after ++ (next (c :: rest)).2.dropBlanks)) := by
        rw [← left, ← split, ← ink, ← whole]
      have lengths := congrArg List.length parts
      simp only [List.length_append] at lengths
      have stretch : text.length - (next (c :: rest)).2.dropBlanks.length =
          (before ++ (taken ++ after)).length := by
        simp only [List.length_append]
        omega
      have shorter : (next (c :: rest)).2.dropBlanks.length < fuel := by
        have positive := List.length_pos_of_ne_nil nonempty
        omega
      rw [itemsFrom_of_ink _ _ _ (ink ▸ List.cons_ne_nil c rest), ink, stretch, parts]
      refine .cons blankBefore stands blankAfter (inductionHypothesis _ _ shorter ?_)
      rw [Text.dropBlanks_dropBlanks]
      exact id

/-- The items of a value take all of it. -/
theorem tiles_ofValue (value : Text) : Tiles 0 value (ofValue value) := by
  rw [ofValue_eq]
  split
  · next blank =>
    have whole : Tiles 0 ([] ++ (value ++ ([] ++ []))) [⟨0, _, .blank value⟩] :=
      .cons (List.forall_mem_nil _) (.blank (List.all_eq_true.mp blank)) (List.forall_mem_nil _)
        (.nil _)
    simpa using whole
  · next inked =>
    exact tiles_itemsFrom _ 0 value (Nat.lt_succ_self _)
      fun blank => absurd (Text.dropBlanks_eq_nil_iff.mp blank) inked

theorem collect_cons {span : Spanned TypeItem} {type : Text} (isType : span.item.type? = some type)
    (items : List (Spanned TypeItem)) :
    collect (span :: items) = (collect items).map (type :: ·) := by
  obtain ⟨start, stop, item⟩ := span
  cases item with
  | blank text | invalid text => cases isType
  | doubleQuoted other | singleQuoted other | bare other =>
    cases isType
    rw [collect]
    cases collect items <;> rfl

/-- A type as it is written is the first item of a text that it begins. -/
theorem collect_itemsFrom_spelled {type text rest : Text} (spells : SpellsType type text)
    (ends : ∀ c, rest.head? = some c → isBlank c = true) (fuel offset : Nat) {value : Text}
    (begins : value.dropBlanks = text ++ rest) :
    ∃ stop, collect (itemsFrom next (fuel + 1) offset value) =
      (collect (itemsFrom next fuel stop rest.dropBlanks)).map (type :: ·) := by
  obtain ⟨item, read, isType⟩ := next_spelled spells ends
  cases cut : text ++ rest with
  | nil => exact absurd (List.append_eq_nil_iff.mp cut).1 spells.ne_nil
  | cons c more =>
    rw [cut] at begins read
    rw [itemsFrom_of_ink _ _ _ (begins ▸ List.cons_ne_nil c more), begins, read]
    exact ⟨_, collect_cons isType _⟩

/-- The types of a list are its items. -/
theorem collect_itemsFrom_listed {types : List Text} {listed : Text}
    (lists : ListsTypes types listed) (fuel offset : Nat) {value : Text}
    (same : value.dropBlanks = listed.dropBlanks) (enough : listed.dropBlanks.length < fuel) :
    collect (itemsFrom next fuel offset value) = .ok types := by
  induction lists generalizing fuel offset value with
  | @last type text before after blankBefore spells blankAfter =>
    rw [Text.dropBlanks_append_of_blank _ blankBefore, spells.dropBlanks_append] at same enough
    obtain ⟨fuel, rfl⟩ := Nat.exists_eq_add_one_of_ne_zero (Nat.ne_zero_of_lt enough)
    have ends (c : Char) (first : after.head? = some c) : isBlank c = true :=
      blankAfter c (List.mem_of_mem_head? first)
    obtain ⟨stop, collected⟩ := collect_itemsFrom_spelled spells ends fuel offset same
    have nothing : after.dropBlanks = [] := List.dropWhile_eq_nil_iff.mpr blankAfter
    rw [collected, nothing, itemsFrom_of_blank _ _ _ rfl]
    rfl
  | @cons type text before between rest types blankBefore spells apart blankBetween more
      inductionHypothesis =>
    rw [Text.dropBlanks_append_of_blank _ blankBefore, spells.dropBlanks_append] at same enough
    obtain ⟨fuel, rfl⟩ := Nat.exists_eq_add_one_of_ne_zero (Nat.ne_zero_of_lt enough)
    have ends (c : Char) (first : (between ++ rest).head? = some c) : isBlank c = true := by
      obtain ⟨d, between, rfl⟩ := List.exists_cons_of_ne_nil apart
      cases first
      exact blankBetween c List.mem_cons_self
    obtain ⟨stop, collected⟩ := collect_itemsFrom_spelled spells ends fuel offset same
    have shorter : rest.dropBlanks.length < fuel := by
      have positive := List.length_pos_of_ne_nil spells.ne_nil
      have fewer := (List.dropWhile_sublist isBlank (l := rest)).length_le
      simp only [List.length_append] at enough
      rw [Text.dropBlanks]
      omega
    have behind := inductionHypothesis fuel stop (Text.dropBlanks_dropBlanks rest) shorter
    rw [collected, Text.dropBlanks_append_of_blank _ blankBetween, behind]
    rfl

/-- The types of the items, or the first item that is none. -/
theorem collect_ok_or_refused (items : List (Spanned TypeItem)) :
    (∃ types, collect items = .ok types ∧
      items.map (fun span => span.item.type?) = types.map some) ∨
    ∃ front span behind, items = front ++ span :: behind ∧
      (∀ earlier ∈ front, earlier.item.type? ≠ none) ∧ span.item.type? = none ∧
      collect items = .error span.item.complaint := by
  induction items with
  | nil => exact Or.inl ⟨[], rfl, rfl⟩
  | cons span items inductionHypothesis =>
    cases isType : span.item.type? with
    | none =>
      refine Or.inr ⟨[], span, items, rfl, List.forall_mem_nil _, isType, ?_⟩
      obtain ⟨start, stop, item⟩ := span
      cases item with
      | blank text | invalid text => rfl
      | doubleQuoted type | singleQuoted type | bare type => cases isType
    | some type =>
      rw [collect_cons isType]
      rcases inductionHypothesis with
        ⟨types, collected, same⟩ | ⟨front, refused, behind, rfl, typed, untyped, collected⟩
      · rw [collected]
        exact Or.inl ⟨type :: types, rfl, by rw [List.map_cons, isType, same]; rfl⟩
      · rw [collected]
        refine Or.inr ⟨span :: front, refused, behind, rfl, ?_, untyped, rfl⟩
        exact List.forall_mem_cons.mpr ⟨by rw [isType]; exact Option.some_ne_none type, typed⟩

end TypeItem

/-! ### Values -/

theorem ListsTypes.dropBlanks_ne_nil {types : List Text} {value : Text}
    (lists : ListsTypes types value) : value.dropBlanks ≠ [] := by
  cases lists with
  | last blankBefore spells _ | cons blankBefore spells _ _ _ =>
    rw [Text.dropBlanks_append_of_blank _ blankBefore, spells.dropBlanks_append]
    exact fun empty => spells.ne_nil (List.append_eq_nil_iff.mp empty).1

/-- A list of types is read back as it was written. -/
theorem typesOfValue_of_lists {types : List Text} {value : Text} (lists : ListsTypes types value) :
    typesOfValue value = .ok types := by
  have inked : ¬ value.isAllBlank = true :=
    fun blank => lists.dropBlanks_ne_nil (Text.dropBlanks_eq_nil_iff.mpr blank)
  have fewer := (List.dropWhile_sublist isBlank (l := value)).length_le
  rw [typesOfValue, TypeItem.ofValue_eq, if_neg inked]
  exact TypeItem.collect_itemsFrom_listed lists _ _ rfl (Nat.lt_succ_of_le fewer)

namespace Reading

/-- Staging stores the types that a value is read as, or refuses what it cannot be read for. -/
theorem staged_types [CharacterNames] (owner : Text) {declared : Subordinate}
    {old : Option (List Text)} (uncommitted : declared.committed = false)
    (instantiates : declared.kind = .instantiation old) (value : Text) (line next : Nat) :
    staged (.subordinate owner declared) (.attribute .types value line) next =
      match typesOfValue value with
      | .ok types => .ok (.subordinate owner { declared with kind := .instantiation (some types) })
      | .error text => refuse line next (.invalidSpecification text .types) := by
  have changes (types : List Text) :
      Active.change (.subordinate owner declared) (.types (some types)) =
        .subordinate owner { declared with kind := .instantiation (some types) } := by
    simp [Active.change, Active.declaration, Declaration.change, Declaration.changed?,
      Subordinate.changed?, Declaration.committed, uncommitted, instantiates,
      Active.withDeclaration]
  rw [staged, attributeChange]
  cases typesOfValue value with
  | ok types => exact congrArg Except.ok (changes types)
  | error text => rfl

/-- Lists of types are read without loss. Types that are written one behind the other are stored as
they were written, in their order. And the items of any value make up the value, from its first
character to its last one: either all of them are types, and just these are stored, or the first
one that is none is refused. -/
theorem staged_types_loses_nothing [CharacterNames] (owner : Text) (declared : Subordinate)
    (old : Option (List Text)) (uncommitted : declared.committed = false)
    (instantiates : declared.kind = .instantiation old) (value : Text) (line next : Nat) :
    (∀ types, ListsTypes types value →
      staged (.subordinate owner declared) (.attribute .types value line) next =
        .ok (.subordinate owner { declared with kind := .instantiation (some types) })) ∧
    TypeItem.Tiles 0 value (TypeItem.ofValue value) ∧
    ((∃ types,
        (TypeItem.ofValue value).map (fun span => span.item.type?) = types.map some ∧
        staged (.subordinate owner declared) (.attribute .types value line) next =
          .ok (.subordinate owner { declared with kind := .instantiation (some types) })) ∨
      ∃ front span behind, TypeItem.ofValue value = front ++ span :: behind ∧
        (∀ earlier ∈ front, earlier.item.type? ≠ none) ∧ span.item.type? = none ∧
        staged (.subordinate owner declared) (.attribute .types value line) next =
          refuse line next (.invalidSpecification span.item.complaint .types)) := by
  rw [staged_types owner uncommitted instantiates]
  refine ⟨fun types lists => ?_, TypeItem.tiles_ofValue value, ?_⟩
  · rw [typesOfValue_of_lists lists]
  · rcases TypeItem.collect_ok_or_refused (TypeItem.ofValue value) with
      ⟨types, collected, same⟩ | ⟨front, span, behind, split, typed, untyped, collected⟩
    · exact Or.inl ⟨types, same, by rw [typesOfValue, collected]⟩
    · exact Or.inr ⟨front, span, behind, split, typed, untyped, by rw [typesOfValue, collected]⟩

/-- A type with blanks, and one with a mark of the other kind, over two lines. -/
def mixedTypes : Text := "\tint 'Map<K, V>'\n \"'a\"  ".toList

theorem listsTypes_mixedTypes :
    ListsTypes ["int".toList, "Map<K, V>".toList, "'a".toList] mixedTypes := by
  have blank {blanks : Text} (all : blanks.isAllBlank = true) : ∀ c ∈ blanks, isBlank c = true :=
    List.all_eq_true.mp all
  have ink {word : Text} (none : word.any isBlank = false) : ∀ c ∈ word, isBlank c = false := by
    simpa using none
  have bare : SpellsType "int".toList "int".toList :=
    .bare (by decide) (ink (by decide +kernel)) fun mark => by cases mark <;> decide
  have spaced : SpellsType "Map<K, V>".toList "'Map<K, V>'".toList :=
    .quoted .single (by decide) (by decide)
  have marked : SpellsType "'a".toList "\"'a\"".toList := .quoted .double (by decide) (by decide)
  have third : ListsTypes ["'a".toList] ([] ++ ("\"'a\"".toList ++ "  ".toList)) :=
    .last (List.forall_mem_nil _) marked (blank (by decide +kernel))
  have second : ListsTypes ["Map<K, V>".toList, "'a".toList]
      ([] ++ ("'Map<K, V>'".toList ++ ("\n ".toList ++ "\"'a\"  ".toList))) :=
    .cons (List.forall_mem_nil _) spaced (by decide) (blank (by decide +kernel)) third
  have first : ListsTypes ["int".toList, "Map<K, V>".toList, "'a".toList]
      ("\t".toList ++ ("int".toList ++ (" ".toList ++ "'Map<K, V>'\n \"'a\"  ".toList))) :=
    .cons (blank (by decide +kernel)) bare (by decide) (blank (by decide +kernel)) second
  exact first

section

attribute [local instance] CharacterNames.signs

theorem staged_types_loses_nothing_mixed :
    (Subordinate.instantiation "i".toList).committed = false ∧
    (Subordinate.instantiation "i".toList).kind = .instantiation none ∧
    ListsTypes ["int".toList, "Map<K, V>".toList, "'a".toList] mixedTypes ∧
    staged (.subordinate "T".toList (.instantiation "i".toList))
        (.attribute .types mixedTypes 4) 6 =
      .ok (.subordinate "T".toList ⟨"i".toList, false,
        .instantiation (some ["int".toList, "Map<K, V>".toList, "'a".toList]), none, []⟩) := by
  obtain ⟨stored, -⟩ := staged_types_loses_nothing "T".toList (.instantiation "i".toList) none rfl
    rfl mixedTypes 4 6
  exact ⟨rfl, rfl, listsTypes_mixedTypes, stored _ listsTypes_mixedTypes⟩

end

end Reading

end Stencil
