/-
This file proves that the header of a generated text is what the spec asks for, whatever the rules,
the types and the names are. The header is hidden while the rest of the text is rewritten. Literal
rules whose patterns have no private characters and replacements of words leave a placeholder alone,
and what they put in does not have its marker. So the text before the header and the text behind it
are rewritten on their own, and the header comes back as it was hidden.
-/
import Stencil.Proofs.Generation

namespace Stencil

namespace Generate

/-- What becomes of a text outside of the header: the literal rules in order, then the types for the
parameters in order, then the target name for the source name. -/
def filled (unit : SourceUnit) (spec : Spec) (text : Text) : Text :=
  replaceWords (passes unit spec) (ruled spec text)

/-- A literal rule that cannot tear a placeholder: it replaces a text that is not empty and has
neither run characters nor markers. -/
structure SparesPlaceholders (rule : Rule) : Prop where
  literal : rule.isRegex = false
  nonempty : rule.pattern ≠ []
  apart : ∀ c ∈ rule.pattern, Placeholder.isRunChar c = false ∧ isMarkerChar c = false

section

variable {unit : SourceUnit} {spec : Spec} {placeholder : Placeholder}

theorem not_mem_type_of_not_mem_seed (absent : placeholder.marker ∉ markerSeed unit spec)
    {type : Text} (member : type ∈ spec.types) : placeholder.marker ∉ type := by
  intro inside
  refine absent (List.mem_append_left _ (List.mem_append_right _ ?_))
  exact List.mem_flatten.mpr ⟨type, member, inside⟩

theorem not_mem_substitute_of_not_mem_seed (absent : placeholder.marker ∉ markerSeed unit spec)
    {rule : Rule} (member : rule ∈ spec.rules) : placeholder.marker ∉ rule.substitute := by
  intro inside
  refine absent (List.mem_append_right _ ?_)
  exact List.mem_flatten.mpr ⟨_, List.mem_map_of_mem member, inside⟩

theorem not_mem_cleaned_of_not_mem_seed (absent : placeholder.marker ∉ markerSeed unit spec)
    (isMarker : isMarkerChar placeholder.marker = true) {text : Text}
    (cleaned : unit.cleaned = .ok text) : placeholder.marker ∉ text := by
  intro inside
  rcases mem_cleaned cleaned inside with inSource | lineFeed
  · exact absent (List.mem_append_left _ (List.mem_append_left _ inSource))
  · rw [lineFeed] at isMarker
    exact absurd isMarker (by decide)

/-- Rules, types and names leave a placeholder alone if its marker occurs in none of them. -/
theorem respects_filled (isMarker : isMarkerChar placeholder.marker = true)
    (absent : placeholder.marker ∉ markerSeed unit spec)
    (target : ∀ c ∈ spec.target, isMarkerChar c = false)
    (rules : ∀ rule ∈ spec.rules, SparesPlaceholders rule) :
    placeholder.Respects (filled unit spec) := by
  have ruling : placeholder.Respects (ruled spec) := by
    refine Placeholder.Respects.foldl _ spec.rules fun rule member => ?_
    have spares := rules rule member
    refine .replaceAll rule.pattern rule.substitute spares.nonempty (fun c inside => ⟨?_, ?_⟩)
      (not_mem_substitute_of_not_mem_seed absent member)
    · rintro rfl
      exact Bool.false_ne_true ((spares.apart _ inside).2.symm.trans isMarker)
    · exact (spares.apart c inside).1
  have passing : placeholder.Respects (replaceWords (passes unit spec)) := by
    refine Placeholder.Respects.foldl (fun pass => replaceWord pass.1 pass.2) (passes unit spec)
      fun pass member => .replaceWord _ _ isMarker ?_
    rcases List.mem_append.mp member with isBinding | isName
    · rw [bindings] at isBinding
      split at isBinding
      · cases isBinding
      · exact not_mem_type_of_not_mem_seed absent (List.of_mem_zip isBinding).2
    · rw [List.mem_singleton.mp isName]
      exact fun inside => Bool.false_ne_true ((target _ inside).symm.trans isMarker)
  exact passing.comp ruling

/-- Unhiding a rewritten text gives back the header between what became of the two sides of it. -/
theorem unprotect_filled (isMarker : isMarkerChar placeholder.marker = true)
    (absent : placeholder.marker ∉ markerSeed unit spec)
    (respects : placeholder.Respects (filled unit spec)) {text lead header tail : Text}
    (cleaned : unit.cleaned = .ok text) (place : HeaderAt unit spec text lead header tail) :
    (placeholder.unprotectFrom none
        (filled unit spec (lead ++ placeholder.protect header ++ tail))).1 =
      filled unit spec lead ++ header ++ filled unit spec tail := by
  have free := not_mem_cleaned_of_not_mem_seed absent isMarker cleaned
  obtain ⟨span, split⟩ := place.span
  rw [split, List.mem_append, List.mem_append, not_or, not_or] at free
  rw [respects.around, Placeholder.unprotectFrom_between placeholder _ header _ isMarker
    (respects.free lead free.1.1) (respects.free tail free.2)]

end

/-- A generated text is, behind the comment that names the source, the text before the header
rewritten, the header that the spec asks for, and the text behind the header rewritten. -/
theorem generate_eq_around_header [CharacterNames] (unit : SourceUnit) (spec : Spec) (result : Text)
    (simple : IsWord unit.simple) (words : ∀ parameter ∈ unit.parameters, IsWord parameter)
    (target : ∀ c ∈ spec.target, isMarkerChar c = false)
    (rules : ∀ rule ∈ spec.rules, SparesPlaceholders rule)
    (returned : (generate unit spec).outcome = .ok result) :
    ∃ text lead header tail,
      unit.cleaned = .ok text ∧
      (∃ rest, text = lead ++ (unit.simple ++ rest) ++ tail) ∧
      HeaderAt unit spec text lead header tail ∧
      result = "// generated from ".toList ++ unit.name ++ ['\n'] ++
        (filled unit spec lead ++ header ++ filled unit spec tail) := by
  obtain ⟨placeholder, text, lead, header, tail, rewritten, chosen, cleaned, place, applied, rfl⟩ :=
    generate_eq_ok simple words returned
  obtain ⟨isMarker, absent⟩ := Placeholder.choose_eq_ok chosen
  have respects := respects_filled isMarker absent target rules
  have literal := withRules_literal
    (fun rule member => ⟨(rules rule member).literal, (rules rule member).nonempty⟩) applied
  refine ⟨text, lead, header, tail, cleaned, place.span, place, ?_⟩
  rw [literal, ← unprotect_filled isMarker absent respects cleaned place]
  rfl

/-- A box whose imports mention the name of its type parameter. -/
def boxUnit : SourceUnit where
  name := "p.Box".toList
  text := "@Template(int)\nimport p.T;\nclass Box<T> \x7b T t; Box<T> next; Out o; \x7d".toList
  parameters := [['T']]
  markers := SourceUnit.defaultMarkers
  imports := ["p.T".toList]
  sigil := SourceUnit.defaultSigil

/-- A rule for a part of the target name, and a type that is the source name. -/
def outBoxSpec : Spec where
  target := "OutBox".toList
  types := ["Box".toList]
  rules := [⟨"Out".toList, "In".toList, false, true⟩]
  derivation := false

/-- The rule does not reach the header, and the type becomes the target name. -/
def outBoxText : Text :=
  "// generated from p.Box\nclass OutBox \x7b OutBox t; OutBox<OutBox> next; In o; \x7d".toList

section

attribute [local instance] CharacterNames.signs

theorem generate_eq_around_header_box :
    (generate boxUnit outBoxSpec).outcome = .ok outBoxText ∧
      ∃ text lead header tail,
        boxUnit.cleaned = .ok text ∧
        (∃ rest, text = lead ++ (boxUnit.simple ++ rest) ++ tail) ∧
        HeaderAt boxUnit outBoxSpec text lead header tail ∧
        outBoxText = "// generated from ".toList ++ boxUnit.name ++ ['\n'] ++
          (filled boxUnit outBoxSpec lead ++ header ++ filled boxUnit outBoxSpec tail) := by
  have returned : (generate boxUnit outBoxSpec).outcome = .ok outBoxText := by decide +kernel
  have target : outBoxSpec.target.all (fun c => !isMarkerChar c) = true := by decide +kernel
  have apart : "Out".toList.all (fun c => !Placeholder.isRunChar c && !isMarkerChar c) = true := by
    decide +kernel
  refine ⟨returned, generate_eq_around_header boxUnit outBoxSpec _ (by decide +kernel)
    (by decide +kernel) (fun c member => ?_) (fun rule member => ?_) returned⟩
  · simpa using List.all_eq_true.mp target c member
  · obtain rfl := List.mem_singleton.mp member
    exact ⟨rfl, by decide +kernel,
      fun c inside => by simpa using List.all_eq_true.mp apart c inside⟩

end

end Generate

end Stencil
