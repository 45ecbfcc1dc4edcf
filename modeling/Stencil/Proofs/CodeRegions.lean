/-
This file proves when the header that is found is a real declaration. A source text is made of code,
comments and literals. A search for a generic declaration does not tell them apart: it stops at the
first place that reads as one. What reads as a declaration has neither a slash nor a quote in it, so
that a place that begins in code stays in code up to its bracket. If comments and literals read as a
declaration nowhere before the code does, the header found is therefore the first one in code; if one
of them does, it is that one.
-/
import Stencil.Proofs.Declarations
import Stencil.Proofs.Leftovers

namespace Stencil

/-- What a character of a source text belongs to: code, a comment between `/*` and `*/`, a comment
from `//` to the end of the line, or a literal between double quotes. -/
inductive Region where
  | code
  | block
  | line
  | literal
deriving Repr, DecidableEq

/-- The region of every character of a text that goes on in a region. In a literal, a backslash takes
away the meaning of the character behind it. -/
def regions : Region → Text → List Region
  | _, [] => []
  | .code, '/' :: '*' :: rest => .block :: .block :: regions .block rest
  | .code, '/' :: '/' :: rest => .line :: .line :: regions .line rest
  | .code, '"' :: rest => .literal :: regions .literal rest
  | .code, _ :: rest => .code :: regions .code rest
  | .block, '*' :: '/' :: rest => .block :: .block :: regions .code rest
  | .block, _ :: rest => .block :: regions .block rest
  | .line, '\n' :: rest => .code :: regions .code rest
  | .line, _ :: rest => .line :: regions .line rest
  | .literal, '\\' :: _ :: rest => .literal :: .literal :: regions .literal rest
  | .literal, '"' :: rest => .literal :: regions .code rest
  | .literal, _ :: rest => .literal :: regions .literal rest

/-- The region of the character at an index of a text. -/
def regionAt (text : Text) (index : Nat) : Option Region := (regions .code text)[index]?

/-! ### Code goes on -/

/-- A character that is not code is not the one that is. -/
theorem exists_beyond_mark {mark : Region} (notCode : mark ≠ .code) {c : Char}
    {tail before rest : Text} {marks : List Region} (split : c :: tail = before ++ rest)
    (inCode : (mark :: marks)[before.length]? = some .code) :
    ∃ inner, before = c :: inner ∧ tail = inner ++ rest ∧
      marks[inner.length]? = some .code := by
  cases before with
  | nil => exact absurd (Option.some.inj inCode) notCode
  | cons d inner =>
    cases split
    exact ⟨inner, rfl, rfl, inCode⟩

/-- From a character of code on, the regions of a text are those of a text that begins there. -/
theorem drop_regions {region : Region} {text before rest : Text} (split : text = before ++ rest)
    (inCode : (regions region text)[before.length]? = some .code) :
    (regions region text).drop before.length = regions .code rest := by
  fun_induction regions region text generalizing before
  case case1 => cases inCode
  case case2 inductionHypothesis | case3 inductionHypothesis | case6 inductionHypothesis
      | case10 inductionHypothesis =>
    obtain ⟨_, rfl, split, inCode⟩ := exists_beyond_mark (by decide) split inCode
    obtain ⟨inner, rfl, split, inCode⟩ := exists_beyond_mark (by decide) split inCode
    exact inductionHypothesis split inCode
  case case4 inductionHypothesis | case7 inductionHypothesis | case9 inductionHypothesis
      | case11 inductionHypothesis | case12 inductionHypothesis =>
    obtain ⟨inner, rfl, split, inCode⟩ := exists_beyond_mark (by decide) split inCode
    exact inductionHypothesis split inCode
  case case5 c tail noBlock noLine noLiteral inductionHypothesis =>
    cases before with
    | nil =>
      rw [List.nil_append] at split
      rw [List.length_nil, List.drop_zero, ← split, regions] <;> assumption
    | cons d inner =>
      cases split
      exact inductionHypothesis rfl inCode
  case case8 tail inductionHypothesis =>
    -- The line feed that ends a comment is code, and so it is where the text begins with it.
    cases before with
    | nil =>
      rw [List.nil_append] at split
      rw [← split, regions] <;> simp
    | cons d inner =>
      cases split
      exact inductionHypothesis rfl inCode

/-- Code without slashes and quotes is code throughout. -/
theorem regions_of_clear {part : Text} (rest : Text) (clear : ∀ c ∈ part, c ≠ '/' ∧ c ≠ '"') :
    regions .code (part ++ rest) = List.replicate part.length .code ++ regions .code rest := by
  induction part with
  | nil => rfl
  | cons c part inductionHypothesis =>
    obtain ⟨⟨noSlash, noQuote⟩, clear⟩ := List.forall_mem_cons.mp clear
    rw [List.cons_append, regions, inductionHypothesis clear, List.length_cons,
      List.replicate_succ, List.cons_append]
    · exact fun _ slash => absurd slash noSlash
    · exact fun _ slash => absurd slash noSlash
    · exact noQuote

namespace Header

/-! ### Places that read as generic declarations -/

/-- A place at which a text declares a name with type parameters. -/
structure GenericPlace (name text : Text) extends Place name text where
  generic : isGenericTail tail = true

theorem exists_gap_of_isGenericTail {tail : Text} (generic : isGenericTail tail = true) :
    ∃ gap rest, tail = gap ++ '<' :: rest ∧ (∀ c ∈ gap, isBlank c = true) ∧
      tail.dropBlanks = '<' :: rest := by
  rw [isGenericTail] at generic
  obtain ⟨rest, opens⟩ := List.head?_eq_some_iff.mp (beq_iff_eq.mp generic)
  refine ⟨tail.takeWhile isBlank, rest, ?_, fun c member => ?_, opens⟩
  · rw [← opens]
    exact List.takeWhile_append_dropWhile.symm
  · exact List.all_eq_true.mp List.all_takeWhile c member

namespace GenericPlace

variable {name text : Text}

/-- The index of the bracket that opens the type parameters. -/
def bracket (place : GenericPlace name text) : Nat :=
  text.length - place.tail.dropBlanks.length

/-- All of the place, from its keyword to its bracket, is code. -/
def InCode (place : GenericPlace name text) : Prop :=
  ∀ index ≤ place.bracket, place.before.length ≤ index → regionAt text index = some .code

instance (place : GenericPlace name text) : Decidable place.InCode :=
  inferInstanceAs (Decidable (∀ index ≤ place.bracket, _))

/-- There is a place where a declaration is found. -/
theorem exists_of_isSome (isName : IsWord name) {index : Nat} (inside : index ≤ text.length)
    (found : (declaredAt? isGenericTail name (text.take index).reverse
      (text.drop index)).isSome = true) :
    ∃ place : GenericPlace name text, place.before.length = index := by
  obtain ⟨place, length, generic⟩ := (exists_place_iff isName inside).mpr found
  exact ⟨⟨place, generic⟩, length⟩

/-- What reads as a declaration has no slashes and no quotes. -/
theorem clear_of_isName (isName : IsWord name) (place : GenericPlace name text) {gap : Text}
    (blank : ∀ c ∈ gap, isBlank c = true) :
    ∀ c ∈ place.keyword ++ place.blanks ++ name ++ gap ++ ['<'], c ≠ '/' ∧ c ≠ '"' := by
  have blankClear (c : Char) (isBlank : isBlank c = true) : c ≠ '/' ∧ c ≠ '"' := by
    constructor <;> rintro rfl <;> revert isBlank <;> decide
  have letterClear (c : Char) (letter : isIdentifierChar c = true) : c ≠ '/' ∧ c ≠ '"' := by
    constructor <;> rintro rfl <;> revert letter <;> decide +kernel
  have keywords : declarationKeywords.all (fun keyword => keyword.all isIdentifierChar) = true := by
    decide +kernel
  have letters := List.all_eq_true.mp (List.all_eq_true.mp keywords _ place.isKeyword)
  intro c member
  simp only [List.mem_append, List.mem_singleton] at member
  rcases member with (((inKeyword | inBlanks) | inName) | inGap) | rfl
  · exact letterClear c (letters c inKeyword)
  · exact blankClear c (place.blank c inBlanks)
  · exact letterClear c (isName.isIdentifierChar inName)
  · exact blankClear c (blank c inGap)
  · decide

theorem length_before_le_lead (place : GenericPlace name text) :
    place.before.length ≤ place.declared.lead.length := by
  rw [Place.declared, List.append_assoc, List.length_append]
  exact Nat.le_add_right _ _

/-- The declared name begins before the bracket. -/
theorem length_lead_le_bracket (place : GenericPlace name text) :
    place.declared.lead.length ≤ place.bracket := by
  obtain ⟨gap, rest, split, -, opens⟩ := exists_gap_of_isGenericTail place.generic
  have total := congrArg List.length place.reads
  rw [split] at total
  rw [bracket, opens, Place.declared, total]
  simp only [List.length_append, List.length_cons]
  omega

theorem length_before_le_bracket (place : GenericPlace name text) :
    place.before.length ≤ place.bracket :=
  place.length_before_le_lead.trans place.length_lead_le_bracket

/-- A place that begins in code is in code. -/
theorem inCode_of_begins (isName : IsWord name) (place : GenericPlace name text)
    (begins : regionAt text place.before.length = some .code) : place.InCode := by
  obtain ⟨gap, rest, split, blank, opens⟩ := exists_gap_of_isGenericTail place.generic
  generalize spanned : place.keyword ++ place.blanks ++ name ++ gap ++ ['<'] = span
  have clear : ∀ c ∈ span, c ≠ '/' ∧ c ≠ '"' := spanned ▸ clear_of_isName isName place blank
  have reads : text = place.before ++ (span ++ rest) := by
    have whole := place.reads
    rw [split] at whole
    rw [← spanned]
    simpa only [List.append_assoc, List.singleton_append] using whole
  have ahead := drop_regions reads begins
  rw [regions_of_clear rest clear] at ahead
  intro index upTo fromOn
  have inside : index - place.before.length < span.length := by
    have positive : 0 < span.length := by
      simp only [← spanned, List.length_append, List.length_singleton]
      omega
    have total := congrArg List.length reads
    rw [bracket, opens] at upTo
    simp only [List.length_append, List.length_cons] at total upTo
    omega
  have shifted : place.before.length + (index - place.before.length) = index := by omega
  rw [regionAt, ← shifted, ← List.getElem?_drop, ahead,
    List.getElem?_append_left (by rwa [List.length_replicate]),
    List.getElem?_replicate_of_lt inside]

end GenericPlace

/-! ### The header that is found -/

section

variable {name text : Text}

/-- Every place that is not in code comes behind one that is. -/
def CodeFirst (name text : Text) : Prop :=
  ∀ place : GenericPlace name text, ¬ place.InCode →
    ∃ earlier : GenericPlace name text, earlier.InCode ∧
      earlier.before.length < place.before.length

/-- Whether a place is in code is known from the number of characters before it. -/
theorem GenericPlace.inCode_of_length (isName : IsWord name) {place other : GenericPlace name text}
    (same : place.before.length = other.before.length) (inCode : place.InCode) : other.InCode :=
  other.inCode_of_begins isName
    (inCode _ (same ▸ place.length_before_le_bracket) (Nat.le_of_eq same))

/-- The first place of all is in code exactly if code comes first. -/
theorem GenericPlace.inCode_iff_codeFirst (isName : IsWord name) {place : GenericPlace name text}
    (first : ∀ other : GenericPlace name text, place.before.length ≤ other.before.length) :
    place.InCode ↔ CodeFirst name text := by
  constructor
  · intro inCode other outside
    refine ⟨place, inCode, Nat.lt_of_le_of_ne (first other) fun same => ?_⟩
    exact outside (inCode_of_length isName same inCode)
  · intro codeFirst
    by_contra outside
    obtain ⟨earlier, -, shorter⟩ := codeFirst place outside
    exact absurd (first earlier) (Nat.not_le_of_lt shorter)

/-- What is found is at the first place of all. -/
theorem exists_first_generic_place (isName : IsWord name) {declared : DeclaredName}
    (found : findGeneric? name text = some declared) :
    ∃ place : GenericPlace name text, place.declared = declared ∧
      ∀ other : GenericPlace name text, place.before.length ≤ other.before.length := by
  obtain ⟨place, same, generic, first⟩ := exists_first_place isName found
  exact ⟨⟨place, generic⟩, same, fun other => first other.toPlace other.generic⟩

/-- A search that finds a declaration gives its header, unless its list is not closed. -/
theorem find_of_declared {declared : DeclaredName}
    (found : findGeneric? name text = some declared) :
    (∃ header, find name text = .ok header ∧ header.lead = declared.lead) ∨
      find name text = .error (.unbalanced
        (.unclosed .angle (text.length - declared.tail.dropBlanks.length : Nat))) := by
  rw [find, found]
  simp only [afterBalanced]
  cases balancedLength .angle false 0 declared.tail.dropBlanks with
  | none => exact Or.inr rfl
  | some count => exact Or.inl ⟨_, rfl, rfl⟩

/-- Where code comes first, its first place is the one that is found. -/
theorem findGeneric?_of_codeFirst (isName : IsWord name) (codeFirst : CodeFirst name text)
    {place : GenericPlace name text}
    (firstInCode : ∀ other : GenericPlace name text, other.InCode →
      place.before.length ≤ other.before.length) :
    findGeneric? name text = some place.declared := by
  cases found : findGeneric? name text with
  | none =>
    have none := (firstDeclared_eq_none_iff isName).mp found place.toPlace
    rw [place.generic] at none
    cases none
  | some declared =>
    obtain ⟨first, rfl, least⟩ := exists_first_generic_place isName found
    have inCode := (GenericPlace.inCode_iff_codeFirst isName least).mpr codeFirst
    exact congrArg some (Place.declared_eq_of_length isName _ _
      (Nat.le_antisymm (least place) (firstInCode first inCode)))

end

/-- A header that is found is at the first place of all that read as a generic declaration of the
name, and that place is in code exactly if every place that is not in code comes behind one that is.
Then a header that is found begins in code, and the first place in code is the one found: either its
header is the result, or the search ends because the list that it opens is not closed. -/
theorem find_declares_in_code (name text : Text) (isName : IsWord name) :
    (∀ header, find name text = .ok header →
      ∃ place : GenericPlace name text,
        header.lead = place.before ++ place.keyword ++ place.blanks ∧
        (∀ other : GenericPlace name text, place.before.length ≤ other.before.length) ∧
        (place.InCode ↔ CodeFirst name text)) ∧
    (CodeFirst name text →
      (∀ header, find name text = .ok header → regionAt text header.lead.length = some .code) ∧
      ∀ place : GenericPlace name text, place.InCode →
        (∀ other : GenericPlace name text, other.InCode →
          place.before.length ≤ other.before.length) →
        (∃ header, find name text = .ok header ∧
          header.lead = place.before ++ place.keyword ++ place.blanks) ∨
        find name text = .error (.unbalanced (.unclosed .angle place.bracket))) := by
  have located : ∀ header, find name text = .ok header →
      ∃ place : GenericPlace name text, header.lead = place.declared.lead ∧
        (∀ other : GenericPlace name text, place.before.length ≤ other.before.length) ∧
        (place.InCode ↔ CodeFirst name text) := by
    intro header found
    obtain ⟨declared, declaredFound, lead⟩ := exists_declared_of_find found
    obtain ⟨place, rfl, first⟩ := exists_first_generic_place isName declaredFound
    exact ⟨place, lead, first, GenericPlace.inCode_iff_codeFirst isName first⟩
  refine ⟨located, fun codeFirst => ⟨fun header found => ?_, fun place _ firstInCode => ?_⟩⟩
  · obtain ⟨place, lead, -, inCodeIff⟩ := located header found
    rw [lead]
    exact inCodeIff.mpr codeFirst _ place.length_lead_le_bracket place.length_before_le_lead
  · exact find_of_declared (findGeneric?_of_codeFirst isName codeFirst firstInCode)

/-- A class that a comment and a literal mention before it is declared. The comment behind it reads
as another declaration of it. -/
def mentionedBox : Text :=
  ("/* Like Box<T>, no class Box. */\nString s = \"\\\"Box<X>\";\n// The class below\n" ++
    "class Box<T> \x7b\x7d // class Box<U>\n").toList

theorem find_declares_in_code_mentioned :
    IsWord "Box".toList ∧ CodeFirst "Box".toList mentionedBox ∧
      (∃ place : GenericPlace "Box".toList mentionedBox, ¬ place.InCode) ∧
      ∃ header, find "Box".toList mentionedBox = .ok header ∧
        regionAt mentionedBox header.lead.length = some .code ∧
        ∃ place : GenericPlace "Box".toList mentionedBox, place.before.length = 75 ∧
          header.lead = place.before ++ place.keyword ++ place.blanks := by
  have isName : IsWord "Box".toList := by decide +kernel
  obtain ⟨inside, found, laterFound, noneBefore, code, comment, closed⟩ :
      94 ≤ mentionedBox.length ∧
      (declaredAt? isGenericTail "Box".toList (mentionedBox.take 75).reverse
        (mentionedBox.drop 75)).isSome = true ∧
      (declaredAt? isGenericTail "Box".toList (mentionedBox.take 94).reverse
        (mentionedBox.drop 94)).isSome = true ∧
      (List.range 75).all (fun index =>
        (declaredAt? isGenericTail "Box".toList (mentionedBox.take index).reverse
          (mentionedBox.drop index)).isNone) = true ∧
      regionAt mentionedBox 75 = some .code ∧ regionAt mentionedBox 94 = some .line ∧
      (find "Box".toList mentionedBox).isOk = true := by decide +kernel
  obtain ⟨place, index⟩ := GenericPlace.exists_of_isSome isName (by omega) found
  obtain ⟨later, laterIndex⟩ := GenericPlace.exists_of_isSome isName inside laterFound
  have first (other : GenericPlace "Box".toList mentionedBox) :
      place.before.length ≤ other.before.length := by
    by_contra shorter
    have isNone := List.all_eq_true.mp noneBefore other.before.length
      (List.mem_range.mpr (by omega))
    rw [declaredAt?_length isName other.toPlace other.generic] at isNone
    cases isNone
  have inCode : place.InCode := place.inCode_of_begins isName (by rwa [index])
  have outside : ¬ later.InCode := by
    intro laterInCode
    have code := laterInCode _ later.length_before_le_bracket (Nat.le_refl _)
    rw [laterIndex, comment] at code
    cases code
  have codeFirst := (GenericPlace.inCode_iff_codeFirst isName first).mp inCode
  obtain ⟨-, declares⟩ := find_declares_in_code "Box".toList mentionedBox isName
  obtain ⟨inCodeOnly, finds⟩ := declares codeFirst
  rcases finds place inCode (fun other _ => first other) with ⟨header, found, lead⟩ | unclosed
  · exact ⟨isName, codeFirst, ⟨later, outside⟩, header, found, inCodeOnly header found,
      place, index, lead⟩
  · rw [unclosed] at closed
    cases closed

/-- A class that is declared behind a comment that reads as a declaration of it. -/
def commentedBox : Text :=
  "// A class Box<T> holds one value.\nclass Box<T> \x7b\x7d".toList

/-- The header that is found is in the comment, and the one in code is not. -/
theorem find_stops_in_comment :
    ∃ header, find "Box".toList commentedBox = .ok header ∧
      regionAt commentedBox header.lead.length = some .line ∧
      ∃ place : GenericPlace "Box".toList commentedBox, place.InCode ∧
        header.lead.length < place.before.length := by
  have isName : IsWord "Box".toList := by decide +kernel
  obtain ⟨place, index⟩ : ∃ place : GenericPlace "Box".toList commentedBox,
      place.before.length = 35 :=
    GenericPlace.exists_of_isSome isName (by decide +kernel) (by decide +kernel)
  have inCode : place.InCode := place.inCode_of_begins isName (by rw [index]; decide +kernel)
  refine ⟨⟨"// A class ".toList, [], "holds one value.\nclass Box<T> \x7b\x7d".toList⟩, ?_, ?_,
    place, inCode, ?_⟩
  · decide +kernel
  · decide +kernel
  · rw [index]
    decide +kernel

end Header

end Stencil
