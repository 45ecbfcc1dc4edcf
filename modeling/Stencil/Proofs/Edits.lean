/-
This file takes the cleaning of a source apart into single edits. An edit cuts a stretch out of a
text and puts blanks, mostly none, in its place. Removing a directive is one edit, and so is erasing
an import line with the blank lines around it. Following the same recursions as the cleaning itself,
each text on the way is obtained from the one before by an edit; what a single edit keeps is
therefore kept by the cleaning as a whole.
-/
import Stencil.Proofs.Generation

namespace Stencil

/-- A stretch to be cut out of a text, what stands before and behind it, and the blanks that take its
place. -/
structure Edit where
  before : Text
  cut : Text
  filler : Text
  after : Text
  blank : ∀ c ∈ filler, isBlank c = true

namespace Edit

/-- The text before the edit. -/
def old (edit : Edit) : Text := edit.before ++ (edit.cut ++ edit.after)

/-- The text after the edit. -/
def new (edit : Edit) : Text := edit.before ++ (edit.filler ++ edit.after)

end Edit

/-- A text, edits that are performed on it one after another, and the text that they lead to. -/
inductive Performed : Text → List Edit → Text → Prop
  | nil (text : Text) : Performed text [] text
  | cons {text result : Text} {edits : List Edit} (edit : Edit) (starts : text = edit.old)
      (rest : Performed edit.new edits result) : Performed text (edit :: edits) result

theorem Performed.append {text middle result : Text} {edits others : List Edit}
    (first : Performed text edits middle) (second : Performed middle others result) :
    Performed text (edits ++ others) result := by
  induction first with
  | nil => exact second
  | cons edit starts _ inductionHypothesis => exact .cons edit starts (inductionHypothesis second)

/-! ### Directives -/

theorem Text.exists_blanks_of_trimRight (text : Text) :
    ∃ blanks, text = text.trimRight ++ blanks ∧ ∀ c ∈ blanks, isBlank c = true := by
  refine ⟨(text.reverse.takeWhile isBlank).reverse, ?_, fun c member => ?_⟩
  · rw [trimRight, ← List.reverse_append, List.takeWhile_append_dropWhile, List.reverse_reverse]
  · exact List.all_eq_true.mp List.all_takeWhile c (List.mem_reverse.mp member)

namespace Directive

/-- Tidying keeps all but the trailing blanks and puts blanks behind it. -/
theorem exists_tidyLead (lead : Text) :
    ∃ filler, tidyLead lead = lead.trimRight ++ filler ∧ ∀ c ∈ filler, isBlank c = true := by
  rw [tidyLead]
  split
  · exact Text.exists_blanks_of_trimRight lead
  · have lineFeed : isBlank '\n' = true := by decide
    exact ⟨_, rfl, by simp [lineFeed]⟩

theorem isBlank_of_mem_filler (lead : Text) :
    ∀ c ∈ (tidyLead lead).drop lead.trimRight.length, isBlank c = true := by
  obtain ⟨filler, tidied, blank⟩ := exists_tidyLead lead
  rw [tidied, List.drop_left]
  exact blank

/-- The edit that removes a directive: `lead` is what stands before it, and `result` is the text
without it. -/
def edit (text lead result : Text) : Edit where
  before := lead.trimRight
  cut := (text.drop lead.trimRight.length).take
    (text.length - lead.trimRight.length - (result.length - (tidyLead lead).length))
  filler := (tidyLead lead).drop lead.trimRight.length
  after := result.drop (tidyLead lead).length
  blank := isBlank_of_mem_filler lead

theorem edit_of_remove {sigil name text result : Text} {place : DirectivePlace}
    (found : find? sigil name text = some place) (removed : remove text place = .ok result) :
    text = (edit text place.lead result).old ∧ (edit text place.lead result).new = result := by
  obtain ⟨between, split⟩ := exists_between_of_find? found
  obtain ⟨filler, tidied, -⟩ := exists_tidyLead place.lead
  obtain ⟨blanks, trimmed, -⟩ := Text.exists_blanks_of_trimRight place.lead
  rw [remove] at removed
  split at removed
  · next rest balanced =>
    cases removed
    obtain ⟨arguments, toRest⟩ := suffix_of_afterBalanced balanced
    obtain ⟨moreBlanks, toAfter⟩ : rest.dropBlanks <:+ rest := List.dropWhile_suffix _
    -- The text is the kept lead, everything that goes, and what follows the directive.
    have whole : text = place.lead.trimRight ++
        ((blanks ++ between ++ arguments ++ moreBlanks) ++ rest.dropBlanks) := by
      have pieces : text = place.lead.trimRight ++ blanks ++ between ++
          (arguments ++ (moreBlanks ++ rest.dropBlanks)) := by
        rw [toAfter, toRest, ← trimmed]
        exact split
      simpa only [List.append_assoc] using pieces
    constructor
    · generalize blanks ++ between ++ arguments ++ moreBlanks = cut at whole
      have count : text.length - place.lead.trimRight.length -
          ((tidyLead place.lead ++ rest.dropBlanks).length - (tidyLead place.lead).length) =
          cut.length := by
        rw [whole]
        simp only [List.length_append]
        omega
      rw [Edit.old, edit, count, List.drop_left]
      rw [whole, List.drop_left, List.take_left]
    · show place.lead.trimRight ++ ((tidyLead place.lead).drop place.lead.trimRight.length ++
        (tidyLead place.lead ++ rest.dropBlanks).drop (tidyLead place.lead).length) = _
      rw [List.drop_left, tidied, List.drop_left, List.append_assoc]
  · cases removed

/-- The edits that remove the occurrences of a directive. -/
def edits (sigil name : Text) : (fuel : Nat) → Text → List Edit
  | 0, _ => []
  | fuel + 1, text =>
    match find? sigil name text with
    | none => []
    | some place =>
      match remove text place with
      | .ok result => edit text place.lead result :: edits sigil name fuel result
      | .error _ => []

theorem performed_of_stripRest {sigil name text result : Text} {fuel : Nat}
    (stripped : stripRest sigil name fuel text = .ok result) :
    Performed text (edits sigil name fuel text) result := by
  induction fuel generalizing text with
  | zero =>
    cases stripped
    exact .nil _
  | succ fuel inductionHypothesis =>
    rw [stripRest] at stripped
    rw [edits]
    cases found : find? sigil name text with
    | none =>
      rw [found] at stripped
      cases stripped
      exact .nil _
    | some place =>
      simp only [found] at stripped ⊢
      cases same : remove text place with
      | error failure =>
        rw [same] at stripped
        cases stripped
      | ok removed =>
        simp only [same] at stripped ⊢
        obtain ⟨starts, leads⟩ := edit_of_remove found same
        refine .cons _ starts ?_
        rw [leads]
        exact inductionHypothesis stripped

/-- The edits that remove the directives of some markers, one marker after another. -/
def allEdits (sigil : Text) : List Marker → Text → List Edit
  | [], _ => []
  | marker :: markers, text =>
    edits sigil marker.name text.length text ++
      match stripAll sigil marker text with
      | .ok result => allEdits sigil markers result
      | .error _ => []

theorem performed_of_stripAll {sigil : Text} {markers : List Marker} {text result : Text}
    (stripped : markers.foldlM (fun text marker => stripAll sigil marker text) text =
      .ok result) : Performed text (allEdits sigil markers text) result := by
  induction markers generalizing text with
  | nil =>
    cases stripped
    exact .nil _
  | cons marker markers inductionHypothesis =>
    rw [List.foldlM_cons] at stripped
    obtain ⟨middle, first, rest⟩ := exists_ok_of_bind stripped
    have here : Performed text (edits sigil marker.name text.length text) middle := by
      rw [stripAll] at first
      split at first
      · cases first
      · exact performed_of_stripRest first
    rw [allEdits, first]
    exact here.append (inductionHypothesis rest)

end Directive

/-! ### Imports -/

namespace Import

/-- The blanks that take the place of an import line: nothing at the start of a text, and otherwise
as many line ends as there were on the side that had more. -/
def fillerOf (first : Bool) (before after : Text) : Text :=
  if first then [] else List.replicate (max before.lineFeeds after.lineFeeds) '\n'

theorem isBlank_of_mem_fillerOf (first : Bool) (before after : Text) :
    ∀ c ∈ fillerOf first before after, isBlank c = true := by
  intro c member
  rw [fillerOf] at member
  split at member
  · cases member
  · rw [(List.mem_replicate.mp member).2]
    decide

/-- The edits that erase import lines from the start of a line on, where `done` stands before it. -/
def edits (segments : List Text) : (fuel : Nat) → (first : Bool) → (done text : Text) → List Edit
  | 0, _, _, _ => []
  | fuel + 1, first, done, text =>
    let before := blankLines text
    match afterStatement? segments (text.drop before.length) with
    | some rest =>
      let after := rest.drop (blankLines rest).length
      let filler := fillerOf first before (blankLines rest)
      ⟨done, text.take (text.length - after.length), filler, after,
          isBlank_of_mem_fillerOf first before (blankLines rest)⟩ ::
        edits segments fuel false (done ++ filler) after
    | none =>
      match splitLine (text.drop before.length) with
      | (_, []) => []
      | (line, rest) => edits segments fuel false (done ++ (before ++ line)) rest

theorem blankLines_append (text : Text) :
    blankLines text ++ text.drop (blankLines text).length = text := by
  have toBlanks : blankLines text <+: text.takeWhile isBlank := by
    rw [blankLines, ← List.reverse_suffix, List.reverse_reverse]
    exact List.dropWhile_suffix _
  exact List.prefix_iff_eq_append.mp (toBlanks.trans (List.takeWhile_prefix _))

theorem performed_eraseFrom (segments : List Text) (fuel : Nat) (first : Bool) (done text : Text) :
    Performed (done ++ text) (edits segments fuel first done text)
      (done ++ eraseFrom segments fuel first text) := by
  induction fuel generalizing first done text with
  | zero => exact .nil _
  | succ fuel inductionHypothesis =>
    rw [eraseFrom, edits]
    cases passes : afterStatement? segments (text.drop (blankLines text).length) with
    | some rest =>
      have suffix : rest.drop (blankLines rest).length <:+ text :=
        (List.drop_suffix _ _).trans
          ((suffix_of_afterStatement? passes).trans (List.drop_suffix _ _))
      have later := inductionHypothesis false
        (done ++ fillerOf first (blankLines text) (blankLines rest))
        (rest.drop (blankLines rest).length)
      rw [List.append_assoc, List.append_assoc] at later
      refine .cons _ ?_ later
      rw [Edit.old, List.suffix_iff_eq_append.mp suffix]
    | none =>
      have whole := splitLine_append (text.drop (blankLines text).length)
      rcases cut : splitLine (text.drop (blankLines text).length) with ⟨line, rest⟩
      rw [cut] at whole
      cases rest with
      | nil =>
        have all : blankLines text ++ line = text := by
          have same : line = text.drop (blankLines text).length := by
            rw [← whole]
            exact (List.append_nil line).symm
          rw [same, blankLines_append]
        show Performed (done ++ text) [] (done ++ (blankLines text ++ line))
        rw [all]
        exact .nil _
      | cons c rest =>
        have later := inductionHypothesis false (done ++ (blankLines text ++ line)) (c :: rest)
        have start : done ++ (blankLines text ++ line) ++ c :: rest = done ++ text := by
          rw [List.append_assoc, List.append_assoc, whole, blankLines_append]
        rw [start, List.append_assoc] at later
        exact later

/-- The edits that erase the imports of some names, one name after another. -/
def allEdits : List Text → Text → List Edit
  | [], _ => []
  | name :: names, text =>
    edits (nameSegments name) (text.length + 1) true [] text ++ allEdits names (erase name text)

theorem performed_erase (names : List Text) (text : Text) :
    Performed text (allEdits names text)
      (names.foldl (fun text name => erase name text) text) := by
  induction names generalizing text with
  | nil => exact .nil _
  | cons name names inductionHypothesis =>
    exact (performed_eraseFrom (nameSegments name) (text.length + 1) true [] text).append
      (inductionHypothesis (erase name text))

end Import

/-- The edits that clean the text of a unit. -/
def SourceUnit.edits (unit : SourceUnit) : List Edit :=
  Directive.allEdits unit.sigil unit.markers unit.text ++
    match unit.markers.foldlM (fun text marker => Directive.stripAll unit.sigil marker text)
        unit.text with
    | .ok stripped => Import.allEdits unit.imports stripped
    | .error _ => []

/-- Cleaning a unit is performing its edits. -/
theorem SourceUnit.performed_of_cleaned {unit : SourceUnit} {text : Text}
    (cleaned : unit.cleaned = .ok text) : Performed unit.text unit.edits text := by
  rw [SourceUnit.cleaned] at cleaned
  obtain ⟨stripped, strips, rfl⟩ := exists_ok_of_map cleaned
  rw [SourceUnit.edits, strips]
  exact (Directive.performed_of_stripAll strips).append (Import.performed_erase _ _)

end Stencil
