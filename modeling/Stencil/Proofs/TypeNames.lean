/-
This file proves that target names follow the structure of types. A type has a simple name, arguments
that are types again, and a number of array dimensions; a text spells it with qualifiers before the
name and with blanks wherever two tokens meet. What a type contributes to a target name is not read
by parsing: array brackets are spelled as words, the words of the text are collected, and of words
with dots between them the last one is kept. That comes to the same because no token grows together
with its neighbours: behind the name of a type, behind its arguments and behind each pair of square
brackets stands neither a letter nor a dot, so that every name and every array word is collected on
its own.
-/
import Stencil.Proofs.ImportStatements
import Stencil.Proofs.Leftovers
import Stencil.TargetName

namespace Stencil

/-! ### Types -/

/-- A type: its simple name, its arguments and its number of array dimensions. -/
inductive TypeTree where
  | mk (name : Text) (arguments : List TypeTree) (arrays : Nat)

namespace TypeTree

mutual

/-- The words of a type in order, each with a capital, and `Array` for every dimension. -/
def component : TypeTree → Text
  | .mk name arguments arrays =>
    capitalise name ++ components arguments ++ (List.replicate arrays "Array".toList).flatten

/-- The words of some types in order. -/
def components : List TypeTree → Text
  | [] => []
  | tree :: trees => component tree ++ components trees

end

theorem components_eq (trees : List TypeTree) : components trees = trees.flatMap component := by
  induction trees with
  | nil => rw [components, List.flatMap_nil]
  | cons tree trees inductionHypothesis =>
    rw [components, List.flatMap_cons, inductionHypothesis]

end TypeTree

/-! ### Texts that spell types -/

/-- How a simple name is spelled: behind any number of qualifiers, with a dot behind each of them and
blanks around the dots. -/
def SpellsName (name text : Text) : Prop :=
  ∃ segments, Import.Spells segments text ∧ (∀ segment ∈ segments, IsWord segment) ∧
    segments.getLast? = some name

/-- How array dimensions are spelled: as pairs of square brackets with blanks before and in them. -/
inductive SpellsArrays : Nat → Text → Prop
  | none : SpellsArrays 0 []
  | pair {count : Nat} {gap inner rest : Text} (gapBlank : ∀ c ∈ gap, isBlank c = true)
      (innerBlank : ∀ c ∈ inner, isBlank c = true) (later : SpellsArrays count rest) :
      SpellsArrays (count + 1) (gap ++ '[' :: (inner ++ ']' :: rest))

/-- How types are spelled, with commas between neighbours and blanks around each. The arguments of a
type are spelled in the same way between angle brackets, which may be empty. -/
inductive SpellsTypes : List TypeTree → Text → Prop
  | none {blanks : Text} (blank : ∀ c ∈ blanks, isBlank c = true) : SpellsTypes [] blanks
  | plain {name lead named brackets trail : Text} {arrays : Nat}
      (leadBlank : ∀ c ∈ lead, isBlank c = true) (spellsName : SpellsName name named)
      (spellsArrays : SpellsArrays arrays brackets) (trailBlank : ∀ c ∈ trail, isBlank c = true) :
      SpellsTypes [.mk name [] arrays] (lead ++ (named ++ (brackets ++ trail)))
  | generic {name lead named gap inner brackets trail : Text} {arguments : List TypeTree}
      {arrays : Nat} (leadBlank : ∀ c ∈ lead, isBlank c = true)
      (spellsName : SpellsName name named) (gapBlank : ∀ c ∈ gap, isBlank c = true)
      (inside : SpellsTypes arguments inner) (spellsArrays : SpellsArrays arrays brackets)
      (trailBlank : ∀ c ∈ trail, isBlank c = true) :
      SpellsTypes [.mk name arguments arrays]
        (lead ++ (named ++ (gap ++ '<' :: (inner ++ '>' :: (brackets ++ trail)))))
  | more {tree next : TypeTree} {trees : List TypeTree} {text rest : Text}
      (first : SpellsTypes [tree] text) (later : SpellsTypes (next :: trees) rest) :
      SpellsTypes (tree :: next :: trees) (text ++ ',' :: rest)

/-! ### Array brackets as words -/

theorem ne_of_isBlank {c d : Char} (blank : isBlank c = true) (ink : isBlank d = false) : c ≠ d :=
  fun same => Bool.false_ne_true (ink.symm.trans (same ▸ blank))

theorem spellArrays_append {text : Text} (free : '[' ∉ text) (rest : Text) :
    spellArrays none (text ++ rest) = text ++ spellArrays none rest := by
  induction text with
  | nil => rfl
  | cons c text inductionHypothesis =>
    rw [List.mem_cons, not_or] at free
    rw [List.cons_append, spellArrays, if_neg (Ne.symm free.1), inductionHypothesis free.2]
    rfl

/-- A pair of brackets is spelled as a word, whatever blanks are in it. -/
theorem spellArrays_pair {inner : Text} (blank : ∀ c ∈ inner, isBlank c = true) (seen rest : Text) :
    spellArrays (some seen) (inner ++ ']' :: rest) =
      " Array ".toList ++ spellArrays none rest := by
  induction inner generalizing seen with
  | nil => rw [List.nil_append, spellArrays, if_pos rfl]
  | cons c inner inductionHypothesis =>
    obtain ⟨here, later⟩ := List.forall_mem_cons.mp blank
    rw [List.cons_append, spellArrays, if_neg (ne_of_isBlank here (by decide)), if_pos here,
      inductionHypothesis later]

/-- What an opening bracket is spelled as: itself, or a word behind a blank. -/
theorem spellArrays_opening (seen text : Text) :
    (∃ rest, spellArrays (some seen) text = '[' :: rest) ∨
      ∃ rest, spellArrays (some seen) text = ' ' :: 'A' :: rest := by
  induction text generalizing seen with
  | nil => exact Or.inl ⟨_, rfl⟩
  | cons c text inductionHypothesis =>
    rw [spellArrays]
    split
    · exact Or.inr ⟨_, rfl⟩
    · split
      · exact inductionHypothesis _
      · split <;> exact Or.inl ⟨_, rfl⟩

/-! ### Tokens apart -/

/-- A text that goes on neither with a letter nor, behind blanks, with a dot. -/
def Apart (rest : Text) : Prop :=
  endsWord rest = true ∧ rest.dropBlanks.head? ≠ some '.'

theorem apart_nil : Apart [] := by
  constructor
  · rfl
  · simp [Text.dropBlanks]

theorem apart_cons {c : Char} (noLetter : isIdentifierChar c = false) (ink : isBlank c = false)
    (noDot : c ≠ '.') (rest : Text) : Apart (c :: rest) := by
  refine ⟨by rw [endsWord_cons, noLetter]; rfl, ?_⟩
  rw [Text.dropBlanks, List.dropWhile_cons_of_neg (Bool.eq_false_iff.mp ink)]
  simpa using noDot

theorem endsWord_blanks {blanks rest : Text} (ends : endsWord rest = true)
    (blank : ∀ c ∈ blanks, isBlank c = true) : endsWord (blanks ++ rest) = true := by
  cases blanks with
  | nil => exact ends
  | cons c blanks =>
    rw [List.cons_append, endsWord_cons, isIdentifierChar_of_isBlank (blank c List.mem_cons_self)]
    rfl

theorem Apart.blanks {blanks rest : Text} (apart : Apart rest)
    (blank : ∀ c ∈ blanks, isBlank c = true) : Apart (blanks ++ rest) := by
  refine ⟨endsWord_blanks apart.1 blank, ?_⟩
  rw [Text.dropBlanks_append_of_blank _ blank]
  exact apart.2

theorem not_mem_of_blank {c : Char} (ink : isBlank c = false) {blanks : Text}
    (blank : ∀ d ∈ blanks, isBlank d = true) : c ∉ blanks :=
  fun member => ne_of_isBlank (blank c member) ink rfl

theorem endsWord_spellArrays {rest : Text} (ends : endsWord rest = true) :
    endsWord (spellArrays none rest) = true := by
  cases rest with
  | nil => rfl
  | cons c rest =>
    rw [spellArrays]
    split
    · rcases spellArrays_opening [] rest with ⟨more, same⟩ | ⟨more, same⟩
      · rw [same]
        exact (apart_cons (by decide +kernel) (by decide) (by decide) more).1
      · rw [same, endsWord_cons, isIdentifierChar_of_isBlank (by decide)]
        rfl
    · exact ends

theorem isLinked_blanks {blanks : Text} (blank : ∀ c ∈ blanks, isBlank c = true) (rest : Text) :
    isLinked (blanks ++ rest) = isLinked rest := by
  rw [isLinked, isLinked, Text.dropBlanks_append_of_blank _ blank]

theorem isLinked_cons {c : Char} (ink : isBlank c = false) (noDot : c ≠ '.') (rest : Text) :
    isLinked (c :: rest) = false := by
  rw [isLinked, Text.dropBlanks, List.dropWhile_cons_of_neg (Bool.eq_false_iff.mp ink)]
  split
  · next same =>
    cases same
    exact absurd rfl noDot
  · rfl

/-- A word stays apart from a dot when array brackets are spelled as words. -/
theorem isLinked_of_apart {rest : Text} (noDot : rest.dropBlanks.head? ≠ some '.') :
    isLinked (spellArrays none rest) = false := by
  have blank : ∀ c ∈ rest.takeWhile isBlank, isBlank c = true :=
    List.all_eq_true.mp List.all_takeWhile
  have split : rest.takeWhile isBlank ++ rest.dropBlanks = rest :=
    List.takeWhile_append_dropWhile
  rw [← split, spellArrays_append (not_mem_of_blank (by decide) blank), isLinked_blanks blank]
  cases ahead : rest.dropBlanks with
  | nil => rfl
  | cons c more =>
    have ink : isBlank c = false := by
      have first := List.head?_dropWhile_not isBlank rest
      rw [← Text.dropBlanks, ahead] at first
      simpa using first
    rw [ahead] at noDot
    rw [spellArrays]
    -- A bracket is spelled as itself or as a word, and neither begins with a dot.
    split
    · rcases spellArrays_opening [] more with ⟨others, same⟩ | ⟨others, same⟩
      · rw [same, isLinked_cons (by decide) (by decide)]
      · rw [same, ← List.singleton_append,
          isLinked_blanks (List.forall_mem_singleton.mpr (by decide)),
          isLinked_cons (by decide) (by decide)]
    · exact isLinked_cons ink (by simpa using noDot) _

theorem not_mem_of_isWord {c : Char} (noLetter : isIdentifierChar c = false) {word : Text}
    (isWord : IsWord word) : c ∉ word :=
  fun member => Bool.false_ne_true (noLetter.symm.trans (isWord.isIdentifierChar member))

/-- A dot and a further word link a word to what follows. -/
theorem isLinked_of_dot {left right word : Text} (leftBlank : ∀ c ∈ left, isBlank c = true)
    (rightBlank : ∀ c ∈ right, isBlank c = true) (isWord : IsWord word) (more : Text) :
    isLinked (spellArrays none (left ++ '.' :: (right ++ (word ++ more)))) = true := by
  have free : '[' ∉ left ++ '.' :: (right ++ word) := by
    simp [not_mem_of_blank (by decide : isBlank '[' = false) leftBlank,
      not_mem_of_blank (by decide : isBlank '[' = false) rightBlank,
      not_mem_of_isWord (by decide +kernel : isIdentifierChar '[' = false) isWord]
  have spelled := spellArrays_append free more
  simp only [List.append_assoc, List.cons_append] at spelled
  have ahead : Text.dropBlanks (right ++ (word ++ spellArrays none more)) =
      word ++ spellArrays none more :=
    Text.dropWhile_append_of_stops rightBlank (Header.isBlank_of_head? isWord _)
  have dotted : Text.dropBlanks ('.' :: (right ++ (word ++ spellArrays none more))) =
      '.' :: (right ++ (word ++ spellArrays none more)) :=
    List.dropWhile_cons_of_neg (by decide)
  rw [spelled, isLinked_blanks leftBlank, isLinked, dotted]
  show (!endsWord (Text.dropBlanks (right ++ (word ++ spellArrays none more)))) = true
  rw [ahead, endsWord_append_word _ isWord]
  rfl

/-! ### What each token contributes -/

section

variable {rest : Text}

theorem typeComponent_nil : typeComponent [] = [] := rfl

theorem typeComponent_sign {c : Char} (noLetter : isIdentifierChar c = false) (notOpening : c ≠ '[')
    (rest : Text) : typeComponent (c :: rest) = typeComponent rest := by
  rw [typeComponent, spellArrays, if_neg notOpening, identifierRuns_sign _ _ noLetter]
  rfl

theorem typeComponent_blanks {blanks : Text} (blank : ∀ c ∈ blanks, isBlank c = true)
    (rest : Text) : typeComponent (blanks ++ rest) = typeComponent rest := by
  induction blanks with
  | nil => rfl
  | cons c blanks inductionHypothesis =>
    obtain ⟨here, later⟩ := List.forall_mem_cons.mp blank
    have notOpening : c ≠ '[' := ne_of_isBlank here (by decide)
    rw [List.cons_append, typeComponent_sign (isIdentifierChar_of_isBlank here) notOpening,
      inductionHypothesis later]

theorem typeComponent_word {word : Text} (isWord : IsWord word) (ends : endsWord rest = true) :
    typeComponent (word ++ rest) =
      (if isLinked (spellArrays none rest) then [] else capitalise word) ++ typeComponent rest := by
  have free : '[' ∉ word := not_mem_of_isWord (by decide +kernel) isWord
  rw [typeComponent, spellArrays_append free,
    identifierRuns_word _ _ isWord (endsWord_spellArrays ends), typeComponent]
  by_cases linked : isLinked (spellArrays none rest) = true
  · simp [linked]
  · simp [linked]

/-- The last word before a text that goes on with neither a letter nor a dot is kept. -/
theorem typeComponent_name {word : Text} (isWord : IsWord word) (apart : Apart rest) :
    typeComponent (word ++ rest) = capitalise word ++ typeComponent rest := by
  rw [typeComponent_word isWord apart.1, isLinked_of_apart apart.2]
  rfl

/-- A qualifier is left out. -/
theorem typeComponent_qualifier {word left right next : Text} (isWord : IsWord word)
    (leftBlank : ∀ c ∈ left, isBlank c = true) (rightBlank : ∀ c ∈ right, isBlank c = true)
    (isNext : IsWord next) (rest : Text) :
    typeComponent (word ++ (left ++ '.' :: (right ++ (next ++ rest)))) =
      typeComponent (next ++ rest) := by
  have dot : endsWord ('.' :: (right ++ (next ++ rest))) = true := by
    rw [endsWord_cons]
    decide +kernel
  have ends := endsWord_blanks dot leftBlank
  rw [typeComponent_word isWord ends, isLinked_of_dot leftBlank rightBlank isNext, if_pos rfl,
    List.nil_append, typeComponent_blanks leftBlank,
    typeComponent_sign (by decide +kernel) (by decide), typeComponent_blanks rightBlank]

theorem typeComponent_spellsName {name text : Text} (spellsName : SpellsName name text)
    (apart : Apart rest) :
    typeComponent (text ++ rest) = capitalise name ++ typeComponent rest := by
  obtain ⟨segments, spells, words, last⟩ := spellsName
  induction spells with
  | last segment =>
    obtain rfl : segment = name := by simpa using last
    exact typeComponent_name (words segment List.mem_cons_self) apart
  | @dot segment segments left right text leftBlank rightBlank later inductionHypothesis =>
    obtain ⟨isWord, laterWords⟩ := List.forall_mem_cons.mp words
    obtain ⟨next, others, rfl, isNext⟩ := later.exists_word laterWords
    rw [List.getLast?_cons_of_ne_nil later.ne_nil] at last
    have qualified := inductionHypothesis laterWords last
    simp only [List.append_assoc, List.cons_append] at qualified ⊢
    rw [typeComponent_qualifier isWord leftBlank rightBlank isNext, qualified]

/-- A pair of square brackets contributes its word. -/
theorem typeComponent_pair {inner : Text} (blank : ∀ c ∈ inner, isBlank c = true)
    (apart : Apart rest) :
    typeComponent ('[' :: (inner ++ ']' :: rest)) = "Array".toList ++ typeComponent rest := by
  have spelled : spellArrays none ('[' :: (inner ++ ']' :: rest)) =
      ' ' :: ("Array".toList ++ ' ' :: spellArrays none rest) := by
    rw [spellArrays, if_pos rfl, spellArrays_pair blank]
    simp
  have isWord : IsWord "Array".toList := by decide +kernel
  have capital : capitalise "Array".toList = "Array".toList := by decide +kernel
  have noLetter : isIdentifierChar ' ' = false := isIdentifierChar_of_isBlank (by decide)
  have unlinked : isLinked (' ' :: spellArrays none rest) = false := by
    rw [← List.singleton_append, isLinked_blanks (List.forall_mem_singleton.mpr (by decide)),
      isLinked_of_apart apart.2]
  rw [typeComponent, spelled, identifierRuns_sign _ _ noLetter,
    identifierRuns_word _ _ isWord (by rw [endsWord_cons, noLetter]; rfl),
    identifierRuns_sign _ _ noLetter, typeComponent]
  simp only [List.filter_cons, unlinked, Bool.not_false, if_true, List.flatMap_cons, capital]

theorem SpellsArrays.apart {arrays : Nat} {text : Text} (spells : SpellsArrays arrays text)
    (apart : Apart rest) : Apart (text ++ rest) := by
  cases spells with
  | none => exact apart
  | pair gapBlank _ _ =>
    rw [List.append_assoc, List.cons_append]
    exact (apart_cons (by decide +kernel) (by decide) (by decide) _).blanks gapBlank

theorem typeComponent_spellsArrays {arrays : Nat} {text : Text} (spells : SpellsArrays arrays text)
    (apart : Apart rest) :
    typeComponent (text ++ rest) =
      (List.replicate arrays "Array".toList).flatten ++ typeComponent rest := by
  induction spells with
  | none => rfl
  | @pair arrays gap inner text gapBlank innerBlank later inductionHypothesis =>
    simp only [List.append_assoc, List.cons_append]
    rw [typeComponent_blanks gapBlank, typeComponent_pair innerBlank (later.apart apart),
      inductionHypothesis, List.replicate_succ, List.flatten_cons, List.append_assoc]

/-- Types that are spelled at the front of a text contribute their words, whatever follows. -/
theorem typeComponent_spellsTypes {trees : List TypeTree} {text : Text}
    (spells : SpellsTypes trees text) (apart : Apart rest) :
    typeComponent (text ++ rest) = TypeTree.components trees ++ typeComponent rest := by
  -- What follows is general because arguments are followed by their bracket, and types by a comma.
  induction spells generalizing rest with
  | none blank =>
    rw [typeComponent_blanks blank, TypeTree.components]
    rfl
  | plain leadBlank spellsName spellsArrays trailBlank =>
    have behind := apart.blanks trailBlank
    simp only [List.append_assoc]
    rw [typeComponent_blanks leadBlank,
      typeComponent_spellsName spellsName (spellsArrays.apart behind),
      typeComponent_spellsArrays spellsArrays behind, typeComponent_blanks trailBlank]
    simp [TypeTree.components, TypeTree.component]
  | generic leadBlank spellsName gapBlank inside spellsArrays trailBlank inductionHypothesis =>
    have behind := apart.blanks trailBlank
    have opens (more : Text) : Apart ('<' :: more) :=
      apart_cons (by decide +kernel) (by decide) (by decide) more
    have closes (more : Text) : Apart ('>' :: more) :=
      apart_cons (by decide +kernel) (by decide) (by decide) more
    simp only [List.append_assoc, List.cons_append]
    rw [typeComponent_blanks leadBlank,
      typeComponent_spellsName spellsName ((opens _).blanks gapBlank),
      typeComponent_blanks gapBlank, typeComponent_sign (by decide +kernel) (by decide),
      inductionHypothesis (closes _), typeComponent_sign (by decide +kernel) (by decide),
      typeComponent_spellsArrays spellsArrays behind, typeComponent_blanks trailBlank]
    simp [TypeTree.components, TypeTree.component]
  | more first later firstHypothesis laterHypothesis =>
    have comma (more : Text) : Apart (',' :: more) :=
      apart_cons (by decide +kernel) (by decide) (by decide) more
    rw [List.append_assoc, List.cons_append, firstHypothesis (comma _),
      typeComponent_sign (by decide +kernel) (by decide), laterHypothesis apart]
    simp [TypeTree.components]

end

/-! ### Target names -/

theorem typeComponent_of_spells {tree : TypeTree} {type : Text} (spells : SpellsTypes [tree] type) :
    typeComponent type = tree.component := by
  have alone := typeComponent_spellsTypes spells apart_nil
  rwa [List.append_nil, typeComponent_nil, List.append_nil, TypeTree.components,
    TypeTree.components, List.append_nil] at alone

/-- A text that spells a type contributes the capitalised simple name of the type, what its arguments
contribute, in order, and `Array` for every dimension. So the target name of a source at some types is
known from the types alone, whatever their qualifiers are and wherever there are blanks. -/
theorem targetName_follows_types :
    (∀ (name : Text) (arguments : List TypeTree) (arrays : Nat) (type : Text),
      SpellsTypes [.mk name arguments arrays] type →
      typeComponent type = capitalise name ++ arguments.flatMap TypeTree.component ++
        (List.replicate arrays "Array".toList).flatten) ∧
    ∀ (source : Text) (trees : List TypeTree) (types : List Text),
      List.Forall₂ (fun tree type => SpellsTypes [tree] type) trees types →
      targetName source types .append = .ok (source ++ trees.flatMap TypeTree.component) ∧
      targetName source types .prepend = .ok (trees.flatMap TypeTree.component ++ source) := by
  constructor
  · intro name arguments arrays type spells
    rw [typeComponent_of_spells spells, TypeTree.component, TypeTree.components_eq]
  · intro source trees types spelled
    have components : types.flatMap typeComponent = trees.flatMap TypeTree.component := by
      induction spelled with
      | nil => rfl
      | cons spells _ inductionHypothesis =>
        rw [List.flatMap_cons, List.flatMap_cons, inductionHypothesis,
          typeComponent_of_spells spells]
    rw [targetName, targetName, components]
    exact ⟨rfl, rfl⟩

/-- A type with a qualified name, two arguments, of which one is an array, and two dimensions. -/
def mapType : Text := "java . util.Map < a.String\t, int [ ] >[] [\n]".toList

theorem spellsTypes_mapType :
    SpellsTypes [.mk "Map".toList [.mk "String".toList [] 0, .mk "int".toList [] 1] 2] mapType := by
  have blank : ∀ c ∈ " ".toList, isBlank c = true := List.all_eq_true.mp (by decide +kernel)
  have tab : ∀ c ∈ "\t".toList, isBlank c = true := List.all_eq_true.mp (by decide +kernel)
  have lineFeed : ∀ c ∈ "\n".toList, isBlank c = true := List.all_eq_true.mp (by decide +kernel)
  have none : ∀ c ∈ ([] : Text), isBlank c = true := by simp
  have named : SpellsName "Map".toList ("java".toList ++
      (" ".toList ++ '.' :: (" ".toList ++ ("util".toList ++ ([] ++ '.' :: ([] ++ "Map".toList)))))) :=
    ⟨["java".toList, "util".toList, "Map".toList],
      .dot _ blank blank (.dot _ none none (.last _)), by decide +kernel, rfl⟩
  have string : SpellsTypes [.mk "String".toList [] 0] _ :=
    .plain blank ⟨["a".toList, "String".toList], .dot _ none none (.last _), by decide +kernel, rfl⟩
      .none tab
  have int : SpellsTypes [.mk "int".toList [] 1] _ :=
    .plain blank ⟨["int".toList], .last _, by decide +kernel, rfl⟩ (.pair blank blank .none) blank
  have whole := SpellsTypes.generic none named blank (.more string int)
    (.pair none none (.pair blank lineFeed .none)) none
  convert whole using 1
  decide +kernel

theorem targetName_follows_types_map :
    List.Forall₂ (fun tree type => SpellsTypes [tree] type)
      [.mk "Map".toList [.mk "String".toList [] 0, .mk "int".toList [] 1] 2] [mapType] ∧
    typeComponent mapType = "MapStringIntArrayArrayArray".toList ∧
    targetName "Cell".toList [mapType] .append = .ok "CellMapStringIntArrayArrayArray".toList ∧
    targetName "Cell".toList [mapType] .prepend = .ok "MapStringIntArrayArrayArrayCell".toList := by
  have spelled : List.Forall₂ (fun tree type => SpellsTypes [tree] type)
      [.mk "Map".toList [.mk "String".toList [] 0, .mk "int".toList [] 1] 2] [mapType] :=
    .cons spellsTypes_mapType .nil
  obtain ⟨follows, named⟩ := targetName_follows_types
  obtain ⟨appended, prepended⟩ := named "Cell".toList _ _ spelled
  refine ⟨spelled, (follows _ _ _ _ spellsTypes_mapType).trans (by decide +kernel),
    appended.trans (by decide +kernel), prepended.trans (by decide +kernel)⟩

end Stencil
