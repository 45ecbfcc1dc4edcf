/-
This file proves what an instantiation puts in place of the names of its source. One pass for each
type parameter and one for the source name go over the text, each over what the passes before it
have left. So a parameter becomes its type as the later passes leave it, and a type that mentions a
later parameter or the source name is rewritten itself. Where no type does, the passes amount to a
single replacement of all names at once, and their order does not matter.
-/
import Stencil.Proofs.HeaderProtection

namespace Stencil

/-! ### Replacing one word after another -/

theorem replaceWords_cons (name substitute : Text) (passes : List (Text × Text)) (text : Text) :
    replaceWords ((name, substitute) :: passes) text =
      replaceWords passes (replaceWord name substitute text) := rfl

/-- The passes treat every word of a text on its own. -/
theorem replaceWords_eq_mapWords (passes : List (Text × Text)) (text : Text) :
    replaceWords passes text = mapWords (replaceWords passes) text := by
  induction passes generalizing text with
  | nil => exact (mapWords_self text).symm
  | cons pass passes inductionHypothesis =>
    obtain ⟨name, substitute⟩ := pass
    rw [replaceWords_cons, inductionHypothesis, replaceWord, mapWords_mapWords]
    refine mapWords_congr _ _ text fun word inside => ?_
    have isWord := isWord_of_mem_stretches inside
    rw [← inductionHypothesis, replaceWords_cons, replaceWord, mapWords_word _ word isWord]

/-- A text none of whose words is replaced stays as it is. -/
theorem replaceWords_of_absent (passes : List (Text × Text)) (text : Text)
    (absent : ∀ pass ∈ passes, .word pass.1 ∉ stretches text) :
    replaceWords passes text = text := by
  induction passes with
  | nil => rfl
  | cons pass passes inductionHypothesis =>
    obtain ⟨name, substitute⟩ := pass
    have same : replaceWord name substitute text = text := by
      refine (mapWords_congr _ _ text fun word inside => ?_).trans (mapWords_self text)
      have other : word ≠ name := fun same =>
        absent _ List.mem_cons_self (same ▸ inside)
      exact if_neg other
    rw [replaceWords_cons, same]
    exact inductionHypothesis fun other member => absent other (List.mem_cons_of_mem _ member)

theorem replaceWord_word (name substitute word : Text) (isWord : IsWord word) :
    replaceWord name substitute word = if word = name then substitute else word :=
  mapWords_word _ word isWord

/-- A word that no pass replaces stays. -/
theorem replaceWords_other (passes : List (Text × Text)) (word : Text) (isWord : IsWord word)
    (other : ∀ pass ∈ passes, word ≠ pass.1) : replaceWords passes word = word := by
  induction passes with
  | nil => rfl
  | cons pass passes inductionHypothesis =>
    rw [replaceWords_cons, replaceWord_word _ _ word isWord, if_neg (other pass List.mem_cons_self)]
    exact inductionHypothesis fun later member => other later (List.mem_cons_of_mem _ member)

/-- A word becomes the substitute of the first pass that replaces it, as the later passes leave it.
-/
theorem replaceWords_first (earlier later : List (Text × Text)) (word substitute : Text)
    (isWord : IsWord word) (first : ∀ pass ∈ earlier, word ≠ pass.1) :
    replaceWords (earlier ++ (word, substitute) :: later) word = replaceWords later substitute := by
  have reached : replaceWords earlier word = word := replaceWords_other earlier word isWord first
  rw [replaceWords] at reached
  rw [replaceWords, List.foldl_append, reached, List.foldl_cons, replaceWord_word _ _ word isWord,
    if_pos rfl]
  rfl

/-! ### Replacing all words at once -/

/-- No substitute has a word that a later pass replaces. -/
def Uncaptured (passes : List (Text × Text)) : Prop :=
  passes.Pairwise fun earlier later => .word later.1 ∉ stretches earlier.2

instance (passes : List (Text × Text)) : Decidable (Uncaptured passes) :=
  inferInstanceAs (Decidable (passes.Pairwise _))

/-- What a word is replaced by if all are replaced at once. -/
def replacement (passes : List (Text × Text)) (word : Text) : Text :=
  (passes.lookup word).getD word

/-- Passes that do not rewrite each other's substitutes amount to one replacement. -/
theorem replaceWords_of_uncaptured (passes : List (Text × Text)) (text : Text)
    (uncaptured : Uncaptured passes) :
    replaceWords passes text = mapWords (replacement passes) text := by
  rw [replaceWords_eq_mapWords]
  refine mapWords_congr _ _ text fun word inside => ?_
  have isWord := isWord_of_mem_stretches inside
  clear inside
  induction passes with
  | nil => rfl
  | cons pass passes inductionHypothesis =>
    obtain ⟨name, substitute⟩ := pass
    obtain ⟨apart, uncaptured⟩ := List.pairwise_cons.mp uncaptured
    rw [replaceWords_cons, replaceWord_word _ _ word isWord, replacement, List.lookup_cons]
    by_cases same : word = name
    · rw [if_pos same, replaceWords_of_absent passes substitute apart, same, beq_self_eq_true]
      rfl
    · rw [if_neg same, inductionHypothesis uncaptured, beq_eq_false_iff_ne.mpr same]
      rfl

/-- The order of passes for different words does not matter to what replaces a word. -/
theorem replacement_perm {passes others : List (Text × Text)} (same : passes.Perm others)
    (distinct : (passes.map Prod.fst).Nodup) (word : Text) :
    replacement passes word = replacement others word := by
  have lookups : passes.lookup word = others.lookup word := by
    induction same with
    | nil => rfl
    | cons pass _ inductionHypothesis =>
      rw [List.lookup_cons, List.lookup_cons,
        inductionHypothesis (List.nodup_cons.mp distinct).2]
    | swap second first rest =>
      have different : second.1 ≠ first.1 := fun equal =>
        (List.nodup_cons.mp distinct).1 (equal ▸ List.mem_cons_self)
      rw [List.lookup_cons, List.lookup_cons, List.lookup_cons, List.lookup_cons]
      by_cases isFirst : word = first.1
      · rw [isFirst, beq_self_eq_true, beq_eq_false_iff_ne.mpr different.symm]
      · rw [beq_eq_false_iff_ne.mpr isFirst]
    | trans first _ inductionFirst inductionSecond =>
      rw [inductionFirst distinct, inductionSecond ((first.map Prod.fst).nodup_iff.mp distinct)]
  rw [replacement, replacement, lookups]

/-! ### The passes of an instantiation -/

namespace Generate

theorem passes_of_instantiation (unit : SourceUnit) (spec : Spec)
    (instantiation : spec.derivation = false) :
    passes unit spec = unit.parameters.zip spec.types ++ [(unit.simple, spec.target)] := by
  rw [passes, bindings, if_neg (by rw [instantiation]; decide)]

/-- The words that the passes replace are different if the parameters are. -/
theorem nodup_passes {unit : SourceUnit} {spec : Spec} (instantiation : spec.derivation = false)
    (count : spec.types.length = unit.parameters.length) (distinct : unit.parameters.Nodup)
    (apart : unit.simple ∉ unit.parameters) : ((passes unit spec).map Prod.fst).Nodup := by
  rw [passes_of_instantiation unit spec instantiation, List.map_append,
    List.map_fst_zip (Nat.le_of_eq count.symm), List.nodup_append]
  refine ⟨distinct, by simp, ?_⟩
  intro parameter member simple isSimple
  rw [List.mem_singleton.mp isSimple]
  rintro rfl
  exact apart member

/-- The marker is chosen by the characters of the types, not by their order. -/
theorem choose_perm {unit : SourceUnit} {spec : Spec} {parameters types : List Text}
    (same : types.Perm spec.types) :
    Placeholder.choose (markerSeed { unit with parameters } { spec with types }) =
      Placeholder.choose (markerSeed unit spec) := by
  refine Placeholder.choose_congr fun c => ?_
  simp only [markerSeed, List.mem_append, List.mem_flatten, same.mem_iff]

theorem isMarkerChar_of_isIdentifierChar {c : Char} (letter : isIdentifierChar c = true) :
    isMarkerChar c = false := by
  rw [← Bool.not_eq_true, isMarkerChar_iff]
  rintro ⟨low, high⟩
  exact Bool.false_ne_true ((isIdentifierChar_of_private c (by omega) high).symm.trans letter)

section

variable {unit : SourceUnit} {spec : Spec}

/-- A parameter becomes its type as the later passes leave it. -/
theorem passes_parameter (instantiation : spec.derivation = false)
    (words : ∀ parameter ∈ unit.parameters, IsWord parameter)
    (keys : ((passes unit spec).map Prod.fst).Nodup) {earlier later : List (Text × Text)}
    {parameter type : Text}
    (listed : unit.parameters.zip spec.types = earlier ++ (parameter, type) :: later) :
    replaceWords (passes unit spec) parameter =
      replaceWords (later ++ [(unit.simple, spec.target)]) type := by
  have member : (parameter, type) ∈ unit.parameters.zip spec.types := by rw [listed]; simp
  have split : passes unit spec =
      earlier ++ (parameter, type) :: (later ++ [(unit.simple, spec.target)]) := by
    rw [passes_of_instantiation unit spec instantiation, listed, List.append_assoc,
      List.cons_append]
  rw [split, List.map_append, List.nodup_append] at keys
  rw [split]
  refine replaceWords_first _ _ _ _ (words _ (List.of_mem_zip member).1) fun pass inside equal => ?_
  exact keys.2.2 pass.1 (List.mem_map_of_mem inside) parameter List.mem_cons_self equal.symm

/-- The source name becomes the target name. -/
theorem passes_simple (instantiation : spec.derivation = false) (simple : IsWord unit.simple)
    (apart : unit.simple ∉ unit.parameters) :
    replaceWords (passes unit spec) unit.simple = spec.target := by
  rw [passes_of_instantiation unit spec instantiation]
  refine replaceWords_first _ [] _ _ simple fun pass inside equal => apart ?_
  exact equal ▸ (List.of_mem_zip inside).1

/-- Every other word stays. -/
theorem passes_other (instantiation : spec.derivation = false) {name : Text} (isWord : IsWord name)
    (noParameter : name ∉ unit.parameters) (notSimple : name ≠ unit.simple) :
    replaceWords (passes unit spec) name = name := by
  rw [passes_of_instantiation unit spec instantiation]
  refine replaceWords_other _ _ isWord fun pass inside => ?_
  rcases List.mem_append.mp inside with isBinding | isName
  · exact fun equal => noParameter (equal ▸ (List.of_mem_zip isBinding).1)
  · rw [List.mem_singleton.mp isName]
    exact notSimple

/-- A parameter becomes its type as it stands if no word of the type is replaced later. -/
theorem passes_uncaptured (instantiation : spec.derivation = false)
    (words : ∀ parameter ∈ unit.parameters, IsWord parameter)
    (keys : ((passes unit spec).map Prod.fst).Nodup) (uncaptured : Uncaptured (passes unit spec))
    {parameter type : Text} (member : (parameter, type) ∈ unit.parameters.zip spec.types) :
    replaceWords (passes unit spec) parameter = type := by
  obtain ⟨earlier, later, listed⟩ := List.append_of_mem member
  rw [passes_parameter instantiation words keys listed]
  rw [passes_of_instantiation unit spec instantiation, listed, List.append_assoc, List.cons_append]
    at uncaptured
  have behind := (List.pairwise_append.mp uncaptured).2.1
  exact replaceWords_of_absent _ type (List.pairwise_cons.mp behind).1

/-- Without rules, the two sides of the header have every word replaced by what the passes make of
it. -/
theorem mapWords_around_header (noRules : spec.rules = []) (target : IsWord spec.target)
    {placeholder : Placeholder}
    (chosen : Placeholder.choose (markerSeed unit spec) = .ok placeholder)
    {text lead header tail : Text} (cleaned : unit.cleaned = .ok text)
    (place : HeaderAt unit spec text lead header tail) :
    (placeholder.unprotectFrom none
        (replaceWords (passes unit spec) (lead ++ placeholder.protect header ++ tail))).1 =
      mapWords (replaceWords (passes unit spec)) lead ++ header ++
        mapWords (replaceWords (passes unit spec)) tail := by
  obtain ⟨isMarker, absent⟩ := Placeholder.choose_eq_ok chosen
  have respects := respects_filled isMarker absent
    (fun c member => isMarkerChar_of_isIdentifierChar (target.isIdentifierChar member))
    (by rw [noRules]; simp)
  have unruled : filled unit spec = replaceWords (passes unit spec) := by
    funext part
    rw [filled, ruled, noRules]
    rfl
  have unhidden := unprotect_filled isMarker absent respects cleaned place
  rwa [unruled, replaceWords_eq_mapWords _ lead, replaceWords_eq_mapWords _ tail] at unhidden

end

/-- Pairs of parameters and types in another order give the same outcome, if in neither order a type
has a word that a later pass replaces. -/
theorem outcome_perm [CharacterNames] {unit : SourceUnit} {spec : Spec}
    {parameters types : List Text} (simple : IsWord unit.simple)
    (words : ∀ parameter ∈ unit.parameters, IsWord parameter) (distinct : unit.parameters.Nodup)
    (apart : unit.simple ∉ unit.parameters) (instantiation : spec.derivation = false)
    (count : spec.types.length = unit.parameters.length)
    (otherCount : types.length = parameters.length)
    (reordered : (parameters.zip types).Perm (unit.parameters.zip spec.types))
    (uncaptured : Uncaptured (passes unit spec))
    (otherUncaptured : Uncaptured (passes { unit with parameters } { spec with types })) :
    (generate { unit with parameters } { spec with types }).outcome =
      (generate unit spec).outcome := by
  have sameParameters : parameters.Perm unit.parameters := by
    have firsts := reordered.map Prod.fst
    rwa [List.map_fst_zip (Nat.le_of_eq otherCount.symm),
      List.map_fst_zip (Nat.le_of_eq count.symm)] at firsts
  have sameTypes : types.Perm spec.types := by
    have seconds := reordered.map Prod.snd
    rwa [List.map_snd_zip (Nat.le_of_eq otherCount),
      List.map_snd_zip (Nat.le_of_eq count)] at seconds
  have samePasses :
      (passes { unit with parameters } { spec with types }).Perm (passes unit spec) := by
    rw [passes_of_instantiation unit spec instantiation,
      passes_of_instantiation { unit with parameters } { spec with types } instantiation]
    exact reordered.append_right _
  have distinctPasses := (samePasses.map Prod.fst).nodup_iff.mpr
    (nodup_passes instantiation count distinct apart)
  have rewritten : replaceWords (passes { unit with parameters } { spec with types }) =
      replaceWords (passes unit spec) := by
    funext text
    rw [replaceWords_of_uncaptured _ text uncaptured,
      replaceWords_of_uncaptured _ text otherUncaptured,
      funext (replacement_perm samePasses distinctPasses)]
  rw [outcome_generate unit spec simple words,
    outcome_generate { unit with parameters } { spec with types } simple
      fun parameter member => words parameter (sameParameters.mem_iff.mp member),
    choose_perm sameTypes, rewritten]
  rfl

/-- Outside of the header an instantiation without rules puts in place of every parameter its type
as the later passes leave it, in place of the source name the target name, and leaves every other
word as it is. If no type has a word that a later pass replaces, the parameters become their types
as they stand, and the order in which parameters and types are listed does not matter. -/
theorem generate_replaces_words [CharacterNames] (unit : SourceUnit) (spec : Spec) (result : Text)
    (simple : IsWord unit.simple) (words : ∀ parameter ∈ unit.parameters, IsWord parameter)
    (distinct : unit.parameters.Nodup) (apart : unit.simple ∉ unit.parameters)
    (instantiation : spec.derivation = false) (noRules : spec.rules = [])
    (count : spec.types.length = unit.parameters.length) (target : IsWord spec.target)
    (returned : (generate unit spec).outcome = .ok result) :
    (∃ (becomes : Text → Text) (text lead header tail : Text),
      unit.cleaned = .ok text ∧
      (∃ rest, text = lead ++ (unit.simple ++ rest) ++ tail) ∧
      HeaderAt unit spec text lead header tail ∧
      result = "// generated from ".toList ++ unit.name ++ ['\n'] ++
        (mapWords becomes lead ++ header ++ mapWords becomes tail) ∧
      (∀ earlier parameter type later,
        unit.parameters.zip spec.types = earlier ++ (parameter, type) :: later →
          becomes parameter = replaceWords (later ++ [(unit.simple, spec.target)]) type) ∧
      becomes unit.simple = spec.target ∧
      (∀ name, IsWord name → name ∉ unit.parameters → name ≠ unit.simple → becomes name = name) ∧
      (Uncaptured (passes unit spec) →
        ∀ parameter type, (parameter, type) ∈ unit.parameters.zip spec.types →
          becomes parameter = type)) ∧
    (Uncaptured (passes unit spec) →
      ∀ parameters types : List Text, types.length = parameters.length →
        (parameters.zip types).Perm (unit.parameters.zip spec.types) →
        Uncaptured (passes { unit with parameters } { spec with types }) →
        (generate { unit with parameters } { spec with types }).outcome = .ok result) := by
  have keys := nodup_passes instantiation count distinct apart
  refine ⟨⟨replaceWords (passes unit spec), ?_⟩, ?_⟩
  · obtain ⟨placeholder, text, lead, header, tail, rewritten, chosen, cleaned, place, applied,
      rfl⟩ := generate_eq_ok simple words returned
    rw [noRules] at applied
    cases applied
    refine ⟨text, lead, header, tail, cleaned, place.span, place, ?_, ?_, ?_, ?_, ?_⟩
    · rw [mapWords_around_header noRules target chosen cleaned place]
      rfl
    · intro earlier parameter type later listed
      exact passes_parameter instantiation words keys listed
    · exact passes_simple instantiation simple apart
    · intro name isWord noParameter notSimple
      exact passes_other instantiation isWord noParameter notSimple
    · intro uncaptured parameter type member
      exact passes_uncaptured instantiation words keys uncaptured member
  · intro uncaptured parameters types otherCount reordered otherUncaptured
    rw [outcome_perm simple words distinct apart instantiation count otherCount reordered uncaptured
      otherUncaptured, returned]

/-- A pair whose type parameters can be bound to each other. -/
def pairUnit : SourceUnit where
  name := "p.Pair".toList
  text := "class Pair<T, U> \x7b T a; U b; \x7d".toList
  parameters := [['T'], ['U']]
  markers := []
  imports := []
  sigil := SourceUnit.defaultSigil

/-- Types that mention no parameter. -/
def listSpec : Spec where
  target := "ListPair".toList
  types := ["List<int>".toList, "long".toList]
  rules := []
  derivation := false

/-- The text of the pair at these types. -/
def listText : Text :=
  "// generated from p.Pair\nclass ListPair \x7b List<int> a; long b; \x7d".toList

section

attribute [local instance] CharacterNames.signs

theorem generate_replaces_words_pair :
    (generate pairUnit listSpec).outcome = .ok listText ∧
      (∃ (becomes : Text → Text) (text lead header tail : Text),
        HeaderAt pairUnit listSpec text lead header tail ∧
        listText = "// generated from ".toList ++ pairUnit.name ++ ['\n'] ++
          (mapWords becomes lead ++ header ++ mapWords becomes tail) ∧
        becomes ['T'] = "List<int>".toList ∧ becomes pairUnit.simple = "ListPair".toList) ∧
      (generate { pairUnit with parameters := [['U'], ['T']] }
        { listSpec with types := ["long".toList, "List<int>".toList] }).outcome = .ok listText := by
  have returned : (generate pairUnit listSpec).outcome = .ok listText := by decide +kernel
  have uncaptured : Uncaptured (passes pairUnit listSpec) := by decide +kernel
  obtain ⟨⟨becomes, text, lead, header, tail, _, _, place, same, _, name, _, plain⟩, reordered⟩ :=
    generate_replaces_words pairUnit listSpec listText (by decide +kernel) (by decide +kernel)
      (by decide +kernel) (by decide +kernel) rfl rfl rfl (by decide +kernel) returned
  refine ⟨returned, ⟨becomes, text, lead, header, tail, place, same, ?_, name⟩, ?_⟩
  · exact plain uncaptured _ _ List.mem_cons_self
  · exact reordered uncaptured _ _ rfl (List.Perm.swap _ _ _) (by decide +kernel)

end

/-- The passes replace all words at once: every parameter becomes its type as it stands, and the
source name becomes the target name. -/
def ReplacesAtOnce [CharacterNames] (unit : SourceUnit) (spec : Spec) : Prop :=
  ∀ result, (generate unit spec).outcome = .ok result →
    ∃ text lead header tail,
      unit.cleaned = .ok text ∧
      HeaderAt unit spec text lead header tail ∧
      result = "// generated from ".toList ++ unit.name ++ ['\n'] ++
        (mapWords (replacement (passes unit spec)) lead ++ header ++
          mapWords (replacement (passes unit spec)) tail)

/-- A generated text that is not what replacing at once makes of the two sides of the header. -/
theorem not_replacesAtOnce [CharacterNames] {unit : SourceUnit} {spec : Spec} (result text : Text)
    (header : Header) (instantiation : spec.derivation = false)
    (returned : (generate unit spec).outcome = .ok result) (cleaned : unit.cleaned = .ok text)
    (found : Header.find unit.simple text = .ok header)
    (differs : result ≠ provenance unit ++ (mapWords (replacement (passes unit spec)) header.lead ++
      Header.target spec.target header.opening ++
      mapWords (replacement (passes unit spec)) header.tail)) :
    ¬ ReplacesAtOnce unit spec := by
  intro atOnce
  obtain ⟨other, lead, _, tail, alsoCleaned, place, same⟩ := atOnce result returned
  obtain rfl := Except.ok.inj (cleaned.symm.trans alsoCleaned)
  cases place with
  | generic _ alsoFound =>
    obtain rfl := Except.ok.inj (found.symm.trans alsoFound)
    exact differs same
  | declared derivation _ =>
    exact Bool.false_ne_true (instantiation.symm.trans derivation)

/-- The type of the first parameter is the second parameter. -/
def capturedSpec : Spec where
  target := "IntPair".toList
  types := [['U'], "int".toList]
  rules := []
  derivation := false

/-- A unit whose name is the run character of the first letter of its target name. -/
def runCharUnit : SourceUnit where
  name := ['\uE041']
  text := "class \uE041<T> \x7b T a; \x7d".toList
  parameters := [['T']]
  markers := []
  imports := []
  sigil := SourceUnit.defaultSigil

def runCharSpec : Spec where
  target := ['A']
  types := ["int".toList]
  rules := []
  derivation := false

section

attribute [local instance] CharacterNames.signs

/-- Words are not replaced at once, and the order matters, if a type is a later parameter; and a
source name that is no word can be found within the hidden header. -/
theorem types_are_captured :
    (IsWord pairUnit.simple ∧ (∀ parameter ∈ pairUnit.parameters, IsWord parameter) ∧
      pairUnit.parameters.Nodup ∧ pairUnit.simple ∉ pairUnit.parameters ∧
      capturedSpec.types.length = pairUnit.parameters.length ∧ IsWord capturedSpec.target ∧
      ¬ ReplacesAtOnce pairUnit capturedSpec ∧
      (generate { pairUnit with parameters := [['U'], ['T']] }
          { capturedSpec with types := ["int".toList, ['U']] }).outcome ≠
        (generate pairUnit capturedSpec).outcome) ∧
    ((∀ parameter ∈ runCharUnit.parameters, IsWord parameter) ∧ runCharUnit.parameters.Nodup ∧
      runCharUnit.simple ∉ runCharUnit.parameters ∧
      runCharSpec.types.length = runCharUnit.parameters.length ∧ IsWord runCharSpec.target ∧
      Uncaptured (passes runCharUnit runCharSpec) ∧ ¬ ReplacesAtOnce runCharUnit runCharSpec) := by
  have captured : (generate pairUnit capturedSpec).outcome =
      .ok "// generated from p.Pair\nclass IntPair \x7b int a; int b; \x7d".toList := by
    decide +kernel
  have reordered : (generate { pairUnit with parameters := [['U'], ['T']] }
      { capturedSpec with types := ["int".toList, ['U']] }).outcome =
      .ok "// generated from p.Pair\nclass IntPair \x7b U a; int b; \x7d".toList := by
    decide +kernel
  refine ⟨⟨by decide +kernel, by decide +kernel, by decide +kernel, by decide +kernel,
    by decide +kernel, by decide +kernel, ?_, ?_⟩, by decide +kernel, by decide +kernel,
    by decide +kernel, by decide +kernel, by decide +kernel, by decide +kernel, ?_⟩
  · exact not_replacesAtOnce _ pairUnit.text
      ⟨"class ".toList, ['\x7b'], " T a; U b; \x7d".toList⟩ rfl captured (by decide +kernel)
      (by decide +kernel) (by decide +kernel)
  · rw [captured, reordered]
    decide +kernel
  · exact not_replacesAtOnce
      "// generated from \uE041\nclass \uF8FFA\uE020\uE07B\uF8FF int a; \x7d".toList
      runCharUnit.text ⟨"class ".toList, ['\x7b'], " T a; \x7d".toList⟩ rfl
      (by decide +kernel) (by decide +kernel) (by decide +kernel) (by decide +kernel)

end

end Generate

end Stencil
