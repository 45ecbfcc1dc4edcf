/-
This file proves that no name that was to be replaced is left over in a generated text. A pass takes
away every occurrence of its word and brings in no words but those of its substitute; the later
passes bring back a word only if one of their substitutes has it. The header that is put back
between the two sides of a text has the target name as its only word, and it does not grow together
with what stands next to it: a blank stands before the declared name, and behind the header comes a
character that belongs to no word.
-/
import Stencil.Expand
import Stencil.Proofs.Batch
import Stencil.Proofs.Substitution

namespace Stencil

/-! ### Words as stretches -/

theorem identifierRuns_sign (c : Char) (rest : Text) (noWord : isIdentifierChar c = false) :
    identifierRuns (c :: rest) = identifierRuns rest := by
  simp [identifierRuns, noWord]

theorem identifierRuns_word (name rest : Text) (isWord : IsWord name)
    (ends : endsWord rest = true) :
    identifierRuns (name ++ rest) = (name, rest) :: identifierRuns rest := by
  induction name with
  | nil => exact absurd rfl isWord.ne_nil
  | cons c name inductionHypothesis =>
    have letter : isIdentifierChar c = true := isWord.isIdentifierChar List.mem_cons_self
    by_cases last : name = []
    · simp [identifierRuns, last, letter, ends]
    · have tail : IsWord name :=
        ⟨last, List.all_eq_true.mpr fun d member =>
          isWord.isIdentifierChar (List.mem_cons_of_mem c member)⟩
      rw [List.cons_append, identifierRuns, if_pos letter, inductionHypothesis tail,
        endsWord_append_word rest tail]

/-- The words of a text are those among its stretches. -/
theorem mem_words_iff (name text : Text) : name ∈ words text ↔ .word name ∈ stretches text := by
  induction text using wordInduction with
  | nil => simp [words, identifierRuns, stretches]
  | sign c rest noWord inductionHypothesis =>
    rw [words, identifierRuns_sign c rest noWord, ← words, inductionHypothesis,
      stretches_sign c rest noWord]
    simp
  | word first rest isWord ends inductionHypothesis =>
    rw [words, identifierRuns_word first rest isWord ends, List.map_cons, ← words, List.mem_cons,
      inductionHypothesis, stretches_word first rest isWord ends]
    simp

/-! ### Words that are gone -/

/-- A word of a text whose words have been replaced is a word of one of the substitutes. -/
theorem exists_word_of_mapWords {substitute : Text → Text} {text name : Text}
    (member : .word name ∈ stretches (mapWords substitute text)) :
    ∃ word, .word word ∈ stretches text ∧ .word name ∈ stretches (substitute word) := by
  induction text using wordInduction with
  | nil => simp [mapWords_nil, stretches] at member
  | sign c rest noWord inductionHypothesis =>
    rw [mapWords_sign _ c rest noWord, stretches_sign c _ noWord] at member
    obtain ⟨word, inside, comes⟩ := inductionHypothesis (by simpa using member)
    exact ⟨word, by rw [stretches_sign c rest noWord]; exact List.mem_cons_of_mem _ inside, comes⟩
  | word first rest isWord ends inductionHypothesis =>
    rw [mapWords_word_append _ first rest isWord ends,
      stretches_append _ _ (endsWord_mapWords substitute rest ends)] at member
    rw [stretches_word first rest isWord ends]
    rcases List.mem_append.mp member with here | later
    · exact ⟨first, List.mem_cons_self, here⟩
    · obtain ⟨word, inside, comes⟩ := inductionHypothesis later
      exact ⟨word, List.mem_cons_of_mem _ inside, comes⟩

/-- A pass takes away its own word and brings in no word that its substitute does not have. -/
theorem not_mem_replaceWord {name substitute text word : Text}
    (absent : .word word ∉ stretches substitute)
    (gone : word = name ∨ .word word ∉ stretches text) :
    .word word ∉ stretches (replaceWord name substitute text) := by
  intro member
  obtain ⟨other, inside, comes⟩ := exists_word_of_mapWords member
  by_cases same : other = name
  · rw [if_pos same] at comes
    exact absent comes
  · rw [if_neg same, stretches_of_isWord (isWord_of_mem_stretches inside)] at comes
    obtain rfl : word = other := by simpa using comes
    exact gone.elim same (· inside)

/-- A word that a text does not have does not come in through passes none of which brings it in. -/
theorem not_mem_replaceWords {passes : List (Text × Text)} {text word : Text}
    (missing : .word word ∉ stretches text)
    (absent : ∀ pass ∈ passes, .word word ∉ stretches pass.2) :
    .word word ∉ stretches (replaceWords passes text) := by
  induction passes generalizing text with
  | nil => exact missing
  | cons pass passes inductionHypothesis =>
    refine inductionHypothesis ?_ fun other member => absent other (List.mem_cons_of_mem _ member)
    exact not_mem_replaceWord (absent pass List.mem_cons_self) (Or.inr missing)

/-- The word of a pass is gone when all passes are done, unless this pass or a later one brings it
in. -/
theorem not_mem_replaceWords_of_pass {earlier later : List (Text × Text)}
    {substitute text word : Text}
    (absent : ∀ pass ∈ (word, substitute) :: later, .word word ∉ stretches pass.2) :
    .word word ∉ stretches (replaceWords (earlier ++ (word, substitute) :: later) text) := by
  rw [replaceWords, List.foldl_append, List.foldl_cons]
  refine not_mem_replaceWords ?_ fun pass member => absent pass (List.mem_cons_of_mem _ member)
  exact not_mem_replaceWord (absent _ List.mem_cons_self) (Or.inl rfl)

/-! ### The edges of a header -/

namespace Header

/-- What comes before a header is what comes before the name in a declaration. -/
theorem exists_declared_of_find {name text : Text} {header : Header}
    (found : find name text = .ok header) :
    ∃ declared, findGeneric? name text = some declared ∧ header.lead = declared.lead := by
  rw [find] at found
  split at found
  · cases found
  · next declared declaredFound =>
    dsimp only at found
    split at found
    · cases found
    · cases found
      exact ⟨declared, declaredFound, rfl⟩

/-- A blank stands before a declared name. -/
theorem endsWord_reverse_lead {passes : Text → Bool} {name text : Text} {declared : DeclaredName}
    (found : Text.firstPlace (declaredAt? passes name) [] text = some declared) :
    endsWord declared.lead.reverse = true := by
  obtain ⟨passed, ahead, keyword, blanks, -, shape⟩ := firstDeclared_shape found
  rcases List.eq_nil_or_concat blanks with rfl | ⟨start, c, rfl⟩
  · exact absurd rfl shape.spaced
  · have noWord := isIdentifierChar_of_isBlank (shape.blank c (by simp))
    rw [shape.lead]
    simp [endsWord, noWord]

/-- A target header is the target name and signs. -/
theorem exists_signs_of_target (name opening : Text) :
    ∃ signs, signs ≠ [] ∧ (∀ c ∈ signs, isIdentifierChar c = false) ∧
      target name opening = name ++ signs := by
  have none : ['(', ' ', '\x7b'].any isIdentifierChar = false := by decide +kernel
  have signs (c : Char) (member : c ∈ ['(', ' ', '\x7b']) : isIdentifierChar c = false :=
    Bool.not_eq_true _ ▸ List.any_eq_false.mp none c member
  unfold target
  split
  · exact ⟨['('], by simp, fun c member => signs c (by simp_all), rfl⟩
  · split
    · exact ⟨[' ', '\x7b'], by simp, fun c member => signs c (by simp_all), rfl⟩
    · exact ⟨[' '], by simp, fun c member => signs c (by simp_all), rfl⟩

theorem endsWord_reverse_target (name opening : Text) :
    endsWord (target name opening).reverse = true := by
  obtain ⟨signs, nonempty, noWord, same⟩ := exists_signs_of_target name opening
  rcases List.eq_nil_or_concat signs with rfl | ⟨start, c, rfl⟩
  · exact absurd rfl nonempty
  · rw [same]
    simp [endsWord, noWord c (by simp)]

end Header

theorem endsWord_of_signs {signs : Text} (noWord : ∀ c ∈ signs, isIdentifierChar c = false) :
    endsWord signs = true := by
  cases signs with
  | nil => rfl
  | cons c signs => rw [endsWord_cons, noWord c List.mem_cons_self]; rfl

theorem not_mem_stretches_signs {signs : Text} (noWord : ∀ c ∈ signs, isIdentifierChar c = false)
    (word : Text) : .word word ∉ stretches signs := by
  induction signs with
  | nil => simp [stretches]
  | cons c signs inductionHypothesis =>
    rw [stretches_sign c signs (noWord c List.mem_cons_self)]
    simpa using inductionHypothesis fun d member => noWord d (List.mem_cons_of_mem c member)

theorem endsWord_reverse_mapWords (substitute : Text → Text) (text : Text)
    (ended : endsWord text.reverse = true) :
    endsWord (mapWords substitute text).reverse = true := by
  rcases List.eq_nil_or_concat text with rfl | ⟨start, c, rfl⟩
  · rfl
  · rw [List.concat_eq_append, List.reverse_append] at ended
    have noWord : isIdentifierChar c = false := by simpa [endsWord] using ended
    rw [List.concat_eq_append, mapWords_append_sign substitute start [] c noWord]
    simp [mapWords_nil, endsWord, noWord]

namespace Generate

variable {unit : SourceUnit} {spec : Spec} {text lead header tail : Text}

/-- A header that is put back has no word but the target name. -/
theorem HeaderAt.eq_target_of_mem (place : HeaderAt unit spec text lead header tail)
    (target : IsWord spec.target) {word : Text} (member : .word word ∈ stretches header) :
    word = spec.target := by
  cases place with
  | generic _ found =>
    obtain ⟨signs, -, noWord, same⟩ := Header.exists_signs_of_target spec.target _
    rw [same, stretches_word _ _ target (endsWord_of_signs noWord)] at member
    rcases List.mem_cons.mp member with equal | later
    · exact Stretch.word.inj equal
    · exact absurd later (not_mem_stretches_signs noWord word)
  | declared _ found =>
    rw [stretches_of_isWord target] at member
    simpa using member

/-- A header that is put back does not grow together with what stands next to it. -/
theorem HeaderAt.stretches_around (place : HeaderAt unit spec text lead header tail)
    (substitute : Text → Text) :
    stretches (mapWords substitute lead ++ header ++ mapWords substitute tail) =
      stretches (mapWords substitute lead) ++ stretches header ++
        stretches (mapWords substitute tail) := by
  cases place with
  | generic _ found =>
    obtain ⟨declared, declaredFound, lead⟩ := Header.exists_declared_of_find found
    rw [lead, List.append_assoc,
      stretches_append_of_ended _ _ (endsWord_reverse_mapWords substitute _
        (Header.endsWord_reverse_lead declaredFound)),
      stretches_append_of_ended _ _ (Header.endsWord_reverse_target _ _), List.append_assoc]
  | declared _ found =>
    obtain ⟨_, _, _, _, -, shape⟩ := Header.firstDeclared_shape found
    rw [List.append_assoc,
      stretches_append_of_ended _ _ (endsWord_reverse_mapWords substitute _
        (Header.endsWord_reverse_lead found)),
      stretches_append _ _ (endsWord_mapWords substitute _ shape.ends), List.append_assoc]

/-- A word that is not the target name and that the passes leave in no text is not in a text with
the header put back. -/
theorem HeaderAt.not_mem_around (place : HeaderAt unit spec text lead header tail)
    (target : IsWord spec.target) {passes : List (Text × Text)} {word : Text}
    (other : word ≠ spec.target) (gone : ∀ part, .word word ∉ stretches (replaceWords passes part)) :
    word ∉ words (mapWords (replaceWords passes) lead ++ header ++
      mapWords (replaceWords passes) tail) := by
  rw [mem_words_iff, place.stretches_around, List.mem_append, List.mem_append,
    ← replaceWords_eq_mapWords, ← replaceWords_eq_mapWords]
  rintro ((inLead | inHeader) | inTail)
  · exact gone lead inLead
  · exact other (place.eq_target_of_mem target inHeader)
  · exact gone tail inTail

/-- The last pass takes away the source name. -/
theorem simple_not_mem_passes (target : IsWord spec.target) (notSource : spec.target ≠ unit.simple)
    (part : Text) : .word unit.simple ∉ stretches (replaceWords (passes unit spec) part) := by
  refine not_mem_replaceWords_of_pass fun pass member => ?_
  rw [List.mem_singleton.mp member, stretches_of_isWord target]
  simpa using notSource.symm

/-- A parameter that no type mentions is taken away for good. -/
theorem parameter_not_mem_passes (target : IsWord spec.target)
    (instantiation : spec.derivation = false) (count : spec.types.length = unit.parameters.length)
    {parameter : Text} (declared : parameter ∈ unit.parameters) (other : parameter ≠ spec.target)
    (unmentioned : ∀ type ∈ spec.types, parameter ∉ words type) (part : Text) :
    .word parameter ∉ stretches (replaceWords (passes unit spec) part) := by
  have keys : (unit.parameters.zip spec.types).map Prod.fst = unit.parameters :=
    List.map_fst_zip (Nat.le_of_eq count.symm)
  obtain ⟨⟨_, type⟩, bound, rfl⟩ := List.mem_map.mp (keys ▸ declared)
  obtain ⟨earlier, later, listed⟩ := List.append_of_mem bound
  rw [passes_of_instantiation unit spec instantiation, listed, List.append_assoc, List.cons_append]
  refine not_mem_replaceWords_of_pass fun pass member => ?_
  rw [← List.cons_append, List.mem_append] at member
  rcases member with isBinding | isName
  · have inZip : pass ∈ unit.parameters.zip spec.types :=
      listed ▸ List.mem_append_right earlier isBinding
    rw [← mem_words_iff]
    exact unmentioned _ (List.of_mem_zip inZip).2
  · rw [List.mem_singleton.mp isName, stretches_of_isWord target]
    simpa using other

end Generate

/-- Behind the comment that names the source, a text generated without rules has no word that is the
source name, whatever the types are. If it is an instantiation, it has no word either that is a type
parameter, unless the target name is that parameter or a type mentions it. -/
theorem Generate.generate_leaves_no_names [CharacterNames] (unit : SourceUnit) (used : List Text)
    (spec : Spec) (result : Text) (simple : IsWord unit.simple)
    (parameters : ∀ parameter ∈ unit.parameters, IsWord parameter)
    (valid : Expand.validate unit used spec = .ok ()) (noRules : spec.rules = [])
    (target : IsWord spec.target) (returned : (generate unit spec).outcome = .ok result) :
    ∃ rest, result = "// generated from ".toList ++ unit.name ++ ['\n'] ++ rest ∧
      unit.simple ∉ words rest ∧
      (spec.derivation = false → ∀ parameter ∈ unit.parameters, parameter ≠ spec.target →
        (∀ type ∈ spec.types, parameter ∉ words type) → parameter ∉ words rest) := by
  obtain ⟨count, notSource, -⟩ := (Expand.validate_eq_ok_iff unit used spec).mp valid
  obtain ⟨placeholder, text, lead, header, tail, rewritten, chosen, cleaned, place, applied, rfl⟩ :=
    generate_eq_ok simple parameters returned
  rw [noRules] at applied
  cases applied
  rw [mapWords_around_header noRules target chosen cleaned place]
  refine ⟨_, rfl, ?_, fun instantiation parameter declared other unmentioned => ?_⟩
  · exact place.not_mem_around target notSource.symm (simple_not_mem_passes target notSource)
  · rw [instantiation] at count
    exact place.not_mem_around target other
      (parameter_not_mem_passes target instantiation count declared other unmentioned)

/-- A type that mentions the source name and a longer word with the parameter in it. -/
def mapBoxSpec : Spec where
  target := "MapBox".toList
  types := ["Map<Box, $T>".toList]
  rules := []
  derivation := false

/-- The text of the box at this type. -/
def mapBoxText : Text :=
  ("// generated from p.Box\nclass MapBox \x7b Map<MapBox, $T> t; " ++
    "MapBox<Map<MapBox, $T>> next; Out o; \x7d").toList

section

attribute [local instance] CharacterNames.signs

theorem Generate.generate_leaves_no_names_box :
    (generate boxUnit mapBoxSpec).outcome = .ok mapBoxText ∧
      ∃ rest, mapBoxText = "// generated from ".toList ++ boxUnit.name ++ ['\n'] ++ rest ∧
        boxUnit.simple ∉ words rest ∧ ['T'] ∉ words rest := by
  have returned : (generate boxUnit mapBoxSpec).outcome = .ok mapBoxText := by decide +kernel
  obtain ⟨rest, same, noSource, noParameter⟩ := generate_leaves_no_names boxUnit [] mapBoxSpec
    mapBoxText (by decide +kernel) (by decide +kernel) (by decide +kernel) rfl (by decide +kernel)
    returned
  exact ⟨returned, rest, same, noSource,
    noParameter rfl _ List.mem_cons_self (by decide +kernel) (by decide +kernel)⟩

end

end Stencil
