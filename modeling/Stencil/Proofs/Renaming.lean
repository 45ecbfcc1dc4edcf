/-
This file proves that a derivation without rules renames its source. The declared name is hidden
behind a placeholder while the other occurrences of the name are replaced, and it comes back as the
target name. A blank stands before the declared name and no identifier character behind it, so that
neither the cut nor the placeholder changes where words begin and end on either side; hiding one
occurrence and replacing the others is then the same as replacing all of them. Nothing can fail on
the way but the search for the declaration.
-/
import Stencil.Proofs.Containment
import Stencil.Proofs.Declarations
import Stencil.Proofs.Leftovers

namespace Stencil

/-- Where a word ended behind, a text is replaced from there on on its own. -/
theorem mapWords_append_of_ended (substitute : Text → Text) (before after : Text)
    (ended : endsWord before.reverse = true) :
    mapWords substitute (before ++ after) =
      mapWords substitute before ++ mapWords substitute after := by
  rw [mapWords, stretches_append_of_ended before after ended, List.flatMap_append]
  rfl

/-- At a declared name a text is cut in three, and each part is replaced on its own. -/
theorem replaceWord_around_declared {name text : Text} {declared : DeclaredName} (target : Text)
    (isName : IsWord name) (found : Header.findDeclared? name text = some declared) :
    replaceWord name target text =
      replaceWord name target declared.lead ++ target ++ replaceWord name target declared.tail := by
  obtain ⟨_, _, _, _, -, shape⟩ := Header.firstDeclared_shape found
  rw [Header.findDeclared?_eq_some found, List.append_assoc, replaceWord,
    mapWords_append_of_ended _ _ _ (Header.endsWord_reverse_lead found),
    mapWords_word_append _ name _ isName shape.ends, if_pos rfl, List.append_assoc]

theorem Header.findDeclared?_eq_none_iff {name : Text} (isName : IsWord name) (text : Text) :
    findDeclared? name text = none ↔ ¬ Nonempty (Place name text) := by
  rw [findDeclared?, firstDeclared_eq_none_iff isName, not_nonempty_iff, isEmpty_iff]
  simp only [Bool.true_eq_false]

namespace Generate

variable {unit : SourceUnit} {spec : Spec}

theorem filled_of_derivation (derivation : spec.derivation = true) (noRules : spec.rules = []) :
    filled unit spec = replaceWord unit.simple spec.target := by
  funext text
  rw [filled, ruled, noRules, passes, bindings, if_pos derivation]
  rfl

/-- Behind the header a derivation replaces the words that are the source name, and unhides. -/
theorem outcome_completed_derivation [CharacterNames] (simple : IsWord unit.simple)
    (derivation : spec.derivation = true) (placeholder : Placeholder) (hidden : Text) :
    (completed unit spec placeholder hidden).outcome =
      .ok (provenance unit ++ (placeholder.unprotectFrom none
        (replaceWord unit.simple spec.target hidden)).1) := by
  have untyped : (withTypes unit.name [] hidden).outcome = .ok hidden := rfl
  rw [completed, bindings, if_pos derivation]
  simp only [Run.outcome_bind, untyped]
  simp only [bind, Except.bind, outcome_withName _ _ _ simple]
  rfl

/-- What is left to a derivation without rules when a marker is chosen and the source cleaned. -/
theorem outcome_generate_derivation [CharacterNames] (simple : IsWord unit.simple)
    (derivation : spec.derivation = true) (noRules : spec.rules = []) {placeholder : Placeholder}
    {text : Text} (chosen : Placeholder.choose (markerSeed unit spec) = .ok placeholder)
    (cleaned : unit.cleaned = .ok text) :
    (generate unit spec).outcome =
      (ending (Header.replaceDerived placeholder unit.simple spec.target text)).map fun hidden =>
        provenance unit ++ (placeholder.unprotectFrom none
          (replaceWord unit.simple spec.target hidden)).1 := by
  have hides : headed unit spec placeholder text =
      Header.replaceDerived placeholder unit.simple spec.target text := by
    rw [headed, if_pos derivation]
  rw [outcome_generate_ruled, chosen, cleaned, noRules]
  simp only [bind, Except.bind, ending, hides, applied, List.foldlM_nil,
    outcome_completed_derivation simple derivation]
  cases Header.replaceDerived placeholder unit.simple spec.target text <;> rfl

/-- A declaration that is found is renamed with all else. -/
theorem outcome_of_declared [CharacterNames] (simple : IsWord unit.simple)
    (derivation : spec.derivation = true) (noRules : spec.rules = [])
    (target : ∀ c ∈ spec.target, isMarkerChar c = false) {placeholder : Placeholder} {text : Text}
    (chosen : Placeholder.choose (markerSeed unit spec) = .ok placeholder)
    (cleaned : unit.cleaned = .ok text) {declared : DeclaredName}
    (found : Header.findDeclared? unit.simple text = some declared) :
    (generate unit spec).outcome =
      .ok (provenance unit ++ replaceWord unit.simple spec.target text) := by
  obtain ⟨isMarker, absent⟩ := Placeholder.choose_eq_ok chosen
  have respects := respects_filled isMarker absent target (by rw [noRules]; simp)
  have unhidden := unprotect_filled isMarker absent respects cleaned
    (.declared derivation found : HeaderAt unit spec text _ _ _)
  rw [filled_of_derivation derivation noRules] at unhidden
  rw [outcome_generate_derivation simple derivation noRules chosen cleaned, Header.replaceDerived,
    found]
  simp only [ending, Except.map, unhidden, replaceWord_around_declared spec.target simple found]

/-- Without a declaration the derivation fails for want of one. -/
theorem outcome_of_undeclared [CharacterNames] (simple : IsWord unit.simple)
    (derivation : spec.derivation = true) (noRules : spec.rules = []) {placeholder : Placeholder}
    {text : Text} (chosen : Placeholder.choose (markerSeed unit spec) = .ok placeholder)
    (cleaned : unit.cleaned = .ok text) (missing : Header.findDeclared? unit.simple text = none) :
    (generate unit spec).outcome = .error (.failure (.declarationNotFound
      ("declaration of `" ++ unit.simple.str ++ "` not found"))) := by
  rw [outcome_generate_derivation simple derivation noRules chosen cleaned, Header.replaceDerived,
    missing]
  rfl

/-- A derivation without rules is a renaming: behind the comment that names the source, its text is
the cleaned source with every word that is the source name replaced by the target name. If a marker
can be chosen and the source can be cleaned, it fails exactly where the cleaned text nowhere declares
the source name, and then it says so. -/
theorem generate_derivation_renames [CharacterNames] (unit : SourceUnit) (spec : Spec)
    (simple : IsWord unit.simple) (derivation : spec.derivation = true) (noRules : spec.rules = [])
    (target : ∀ c ∈ spec.target, isMarkerChar c = false) :
    (∀ result, (generate unit spec).outcome = .ok result →
      ∃ text, unit.cleaned = .ok text ∧
        result = "// generated from ".toList ++ unit.name ++ ['\n'] ++
          replaceWord unit.simple spec.target text) ∧
    ∀ placeholder text, Placeholder.choose (markerSeed unit spec) = .ok placeholder →
      unit.cleaned = .ok text →
      ((∃ result, (generate unit spec).outcome = .ok result) ↔
        Nonempty (Header.Place unit.simple text)) ∧
      ((generate unit spec).outcome = .error (.failure (.declarationNotFound
          ("declaration of `" ++ unit.simple.str ++ "` not found"))) ↔
        ¬ Nonempty (Header.Place unit.simple text)) := by
  constructor
  · intro result returned
    rw [outcome_generate_ruled] at returned
    obtain ⟨placeholder, chosen, rest⟩ := exists_ok_of_bind returned
    obtain ⟨text, cleaned, -⟩ := exists_ok_of_bind rest
    rw [← outcome_generate_ruled] at returned
    refine ⟨text, eq_ok_of_ending cleaned, ?_⟩
    cases found : Header.findDeclared? unit.simple text with
    | none =>
      rw [outcome_of_undeclared simple derivation noRules chosen (eq_ok_of_ending cleaned) found]
        at returned
      cases returned
    | some declared =>
      rw [outcome_of_declared simple derivation noRules target chosen (eq_ok_of_ending cleaned)
        found] at returned
      exact (Except.ok.inj returned).symm
  · intro placeholder text chosen cleaned
    cases found : Header.findDeclared? unit.simple text with
    | none =>
      have undeclared := (Header.findDeclared?_eq_none_iff simple text).mp found
      rw [outcome_of_undeclared simple derivation noRules chosen cleaned found]
      simp [undeclared]
    | some declared =>
      have declares : Nonempty (Header.Place unit.simple text) := by
        by_contra undeclared
        rw [(Header.findDeclared?_eq_none_iff simple text).mpr undeclared] at found
        cases found
      rw [outcome_of_declared simple derivation noRules target chosen cleaned found]
      simp [declares]

/-- An enumeration whose name occurs on its own, within longer words and in a comment. -/
def cageUnit : SourceUnit where
  name := "p.Cage".toList
  text := "@Template()\nenum Cage \x7b Cage$x, eCage, b; Cage c; /*Cage*/ \x7d".toList
  parameters := ["no name".toList]
  markers := SourceUnit.defaultMarkers
  imports := []
  sigil := SourceUnit.defaultSigil

/-- The target name has the source name in it, and a character that hidden names are made of. -/
def ownCageSpec : Spec where
  target := "\uE041.Cage".toList
  types := []
  rules := []
  derivation := true

/-- The text of the enumeration under this name. -/
def ownCageText : Text :=
  ("// generated from p.Cage\nenum \uE041.Cage \x7b Cage$x, eCage, b; \uE041.Cage c; " ++
    "/*\uE041.Cage*/ \x7d").toList

section

attribute [local instance] CharacterNames.signs

theorem generate_derivation_renames_cage :
    IsWord cageUnit.simple ∧ (generate cageUnit ownCageSpec).outcome = .ok ownCageText ∧
      ∃ text, cageUnit.cleaned = .ok text ∧
        ownCageText = "// generated from ".toList ++ cageUnit.name ++ ['\n'] ++
          replaceWord cageUnit.simple ownCageSpec.target text ∧
        Nonempty (Header.Place cageUnit.simple text) := by
  have returned : (generate cageUnit ownCageSpec).outcome = .ok ownCageText := by decide +kernel
  have chosen : Placeholder.choose (markerSeed cageUnit ownCageSpec) = .ok ⟨'\uF8FF'⟩ := by
    decide +kernel
  have unmarked : ownCageSpec.target.all (fun c => !isMarkerChar c) = true := by decide +kernel
  have simple : IsWord cageUnit.simple := by decide +kernel
  obtain ⟨renames, fails⟩ := generate_derivation_renames cageUnit ownCageSpec simple rfl rfl
    fun c member => by simpa using List.all_eq_true.mp unmarked c member
  obtain ⟨text, cleaned, same⟩ := renames _ returned
  exact ⟨simple, returned, text, cleaned, same,
    (fails _ text chosen cleaned).1.mp ⟨_, returned⟩⟩

end

end Generate

end Stencil
