/-
This file proves what the steps before any replacement leave of a source text. Directives and
imports are taken out, and nothing but line feeds is put in. A header is a stretch of the text that
is left: the text is what stands before the header, the header and what stands behind it, and the
header begins with the declared name.
-/
import Stencil.Header
import Stencil.Import
import Stencil.Unit
import Stencil.Proofs.Texts

namespace Stencil

/-- What follows a balanced bracket is the end of the text. -/
theorem suffix_of_afterBalanced {pair : BracketPair} {start : Nat} {ahead rest : Text}
    (balanced : afterBalanced pair start ahead = .ok rest) : rest <:+ ahead := by
  rw [afterBalanced] at balanced
  split at balanced
  · cases balanced
    exact List.drop_suffix _ _
  · cases balanced

/-! ### Directives -/

namespace Directive

theorem at?_eq_some {sigil name behind ahead : Text} {place : DirectivePlace}
    (found : at? sigil name behind ahead = some place) :
    place.lead = behind.reverse ∧ place.arguments <:+ ahead := by
  simp only [at?, Option.bind_eq_bind, Option.bind_eq_some_iff] at found
  obtain ⟨rest, sigilEnds, found⟩ := found
  obtain ⟨blanks, member, found⟩ := List.exists_of_findSome?_eq_some found
  obtain ⟨named, nameEnds, found⟩ := Option.bind_eq_some_iff.mp found
  rw [Text.after?_eq_some_iff] at sigilEnds nameEnds
  have suffix : named.dropBlanks <:+ ahead := by
    have inBlanks := Text.suffix_of_mem_afterRuns member
    rw [nameEnds] at inBlanks
    rw [sigilEnds]
    exact (List.dropWhile_suffix _).trans
      ((List.suffix_append name named).trans (inBlanks.trans (List.suffix_append sigil rest)))
  split at found
  · next arguments opens =>
    cases found
    exact ⟨rfl, opens ▸ suffix⟩
  · cases found

/-- A directive stands between what comes before it and its arguments. -/
theorem exists_between_of_find? {sigil name text : Text} {place : DirectivePlace}
    (found : find? sigil name text = some place) :
    ∃ between, text = place.lead ++ between ++ place.arguments := by
  obtain ⟨passed, rest, split, here⟩ := Text.firstPlace_eq_some found
  obtain ⟨lead, between, arguments⟩ := at?_eq_some here
  rw [List.append_nil, List.reverse_reverse] at lead
  refine ⟨between, ?_⟩
  rw [split, ← arguments, lead, List.append_assoc]

/-- What stands before a directive and what follows its name are parts of the text. -/
theorem find?_eq_some {sigil name text : Text} {place : DirectivePlace}
    (found : find? sigil name text = some place) :
    place.lead <+: text ∧ place.arguments <:+ text := by
  obtain ⟨between, split⟩ := exists_between_of_find? found
  refine ⟨⟨between ++ place.arguments, ?_⟩, ⟨place.lead ++ between, split.symm⟩⟩
  rw [split, List.append_assoc]

theorem mem_tidyLead {lead : Text} {c : Char} (member : c ∈ tidyLead lead) :
    c ∈ lead ∨ c = '\n' := by
  rw [tidyLead] at member
  split at member
  · exact Or.inl member
  · rcases List.mem_append.mp member with inside | lineFeed
    · rw [Text.trimRight, List.mem_reverse] at inside
      exact Or.inl (List.mem_reverse.mp ((List.dropWhile_suffix _).subset inside))
    · simp at lineFeed
      exact Or.inr lineFeed

/-- Removing a directive brings in nothing but line feeds. -/
theorem mem_remove {text result sigil name : Text} {place : DirectivePlace} {c : Char}
    (found : find? sigil name text = some place) (removed : remove text place = .ok result)
    (member : c ∈ result) : c ∈ text ∨ c = '\n' := by
  obtain ⟨lead, arguments⟩ := find?_eq_some found
  rw [remove] at removed
  split at removed
  · next rest balanced =>
    cases removed
    rcases List.mem_append.mp member with inLead | inRest
    · exact (mem_tidyLead inLead).imp_left fun inside => lead.subset inside
    · have inside := (List.dropWhile_suffix _).subset inRest
      exact Or.inl (arguments.subset ((suffix_of_afterBalanced balanced).subset inside))
  · cases removed

theorem mem_stripRest {sigil name text result : Text} {fuel : Nat} {c : Char}
    (stripped : stripRest sigil name fuel text = .ok result) (member : c ∈ result) :
    c ∈ text ∨ c = '\n' := by
  induction fuel generalizing text with
  | zero =>
    cases stripped
    exact Or.inl member
  | succ fuel inductionHypothesis =>
    rw [stripRest] at stripped
    split at stripped
    · cases stripped
      exact Or.inl member
    · next place found =>
      split at stripped
      · next removed same =>
        rcases inductionHypothesis stripped with inside | lineFeed
        · exact mem_remove found same inside
        · exact Or.inr lineFeed
      · cases stripped

theorem mem_stripAll {sigil text result : Text} {marker : Marker} {c : Char}
    (stripped : stripAll sigil marker text = .ok result) (member : c ∈ result) :
    c ∈ text ∨ c = '\n' := by
  rw [stripAll] at stripped
  split at stripped
  · cases stripped
  · exact mem_stripRest stripped member

end Directive

/-! ### Imports -/

namespace Import

theorem suffix_of_afterSegments {next : Text → Option Text} {segments : List Text}
    {text rest : Text} (passes : afterSegments next segments text = some rest)
    (goesOn : ∀ middle, next middle = some rest → rest <:+ middle) : rest <:+ text := by
  induction segments generalizing text with
  | nil => exact goesOn text passes
  | cons segment segments inductionHypothesis =>
    cases segments with
    | nil =>
      obtain ⟨middle, ends, passes⟩ := Option.bind_eq_some_iff.mp passes
      rw [Text.after?_eq_some_iff] at ends
      exact (goesOn middle passes).trans ⟨segment, ends.symm⟩
    | cons second segments =>
      rw [afterSegments] at passes
      · split at passes
        · cases passes
        · next middle ends =>
          rw [Text.after?_eq_some_iff] at ends
          obtain ⟨dotted, member, passes⟩ := List.exists_of_findSome?_eq_some passes
          have toDot := Text.suffix_of_mem_afterRuns member
          split at passes
          · next behindDot =>
            obtain ⟨start, inside, passes⟩ := List.exists_of_findSome?_eq_some passes
            have toStart := Text.suffix_of_mem_afterRuns inside
            exact (inductionHypothesis passes).trans (toStart.trans ((List.suffix_cons _ _).trans
              (toDot.trans ⟨segment, ends.symm⟩)))
          · cases passes
      · simp

theorem suffix_of_afterName? {text rest : Text} (passes : afterName? text = some rest) :
    rest <:+ text := by
  obtain ⟨behindBlanks, blanks, passes⟩ := List.exists_of_findSome?_eq_some passes
  obtain ⟨behindSign, sign, passes⟩ := List.exists_of_findSome?_eq_some passes
  obtain ⟨lineEnd, moreBlanks, passes⟩ := List.exists_of_findSome?_eq_some passes
  have toSign : behindSign <:+ behindBlanks := by
    unfold afterSemicolon at sign
    split at sign
    · rcases List.mem_cons.mp sign with same | same
      · rw [same]
        exact List.suffix_cons _ _
      · obtain rfl := List.mem_singleton.mp same
        exact List.suffix_refl _
    · obtain rfl := List.mem_singleton.mp sign
      exact List.suffix_refl _
  have toEnd : rest <:+ lineEnd := by
    unfold afterLineEnd? at passes
    split at passes
    · cases passes
      exact List.suffix_refl _
    · cases passes
      exact List.suffix_cons _ _
    · cases passes
  exact toEnd.trans ((Text.suffix_of_mem_afterRuns moreBlanks).trans
    (toSign.trans (Text.suffix_of_mem_afterRuns blanks)))

theorem suffix_of_afterStatement? {segments : List Text} {text rest : Text}
    (passes : afterStatement? segments text = some rest) : rest <:+ text := by
  obtain ⟨start, blanks, passes⟩ := List.exists_of_findSome?_eq_some passes
  obtain ⟨behindWord, word, passes⟩ := Option.bind_eq_some_iff.mp passes
  obtain ⟨name, moreBlanks, passes⟩ := List.exists_of_findSome?_eq_some passes
  rw [Text.after?_eq_some_iff] at word
  exact (suffix_of_afterSegments passes fun _ => suffix_of_afterName?).trans
    ((Text.suffix_of_mem_afterSomeRuns moreBlanks).trans
      ((show behindWord <:+ start from ⟨_, word.symm⟩).trans (Text.suffix_of_mem_afterRuns blanks)))

theorem blankLines_subset (text : Text) : blankLines text ⊆ text := by
  intro c member
  rw [blankLines, List.mem_reverse] at member
  have inside := (List.dropWhile_suffix _).subset member
  exact (List.takeWhile_prefix _).subset (List.mem_reverse.mp inside)

/-- A line and what follows it are the text. -/
theorem splitLine_append (text : Text) : (splitLine text).1 ++ (splitLine text).2 = text := by
  have whole := List.takeWhile_append_dropWhile (p := (· != '\n')) (l := text)
  unfold splitLine
  split
  · exact List.append_nil text
  · next lineEnd rest ahead =>
    rw [ahead] at whole
    simpa using whole

/-- Erasing imports brings in nothing but line feeds. -/
theorem mem_eraseFrom {segments : List Text} {fuel : Nat} {first : Bool} {text : Text} {c : Char}
    (member : c ∈ eraseFrom segments fuel first text) : c ∈ text ∨ c = '\n' := by
  induction fuel generalizing first text with
  | zero => exact Or.inl member
  | succ fuel inductionHypothesis =>
    have dropped (count : Nat) (rest : Text) : rest.drop count ⊆ rest :=
      (List.drop_suffix count rest).subset
    simp only [eraseFrom] at member
    split at member
    · next rest passes =>
      have inText : rest ⊆ text := fun c inside =>
        dropped _ text ((suffix_of_afterStatement? passes).subset inside)
      rcases List.mem_append.mp member with filler | later
      · split at filler
        · cases filler
        · exact Or.inr (List.mem_replicate.mp filler).2
      · exact (inductionHypothesis later).imp_left fun inside => inText (dropped _ rest inside)
    · have whole := splitLine_append (text.drop (blankLines text).length)
      have lineInText : (splitLine (text.drop (blankLines text).length)).1 ⊆ text := fun c inside =>
        dropped _ text (whole ▸ List.mem_append_left _ inside)
      have restInText : (splitLine (text.drop (blankLines text).length)).2 ⊆ text := fun c inside =>
        dropped _ text (whole ▸ List.mem_append_right _ inside)
      split at member
      · next line cut =>
        rw [cut] at lineInText
        rcases List.mem_append.mp member with before | inLine
        · exact Or.inl (blankLines_subset text before)
        · exact Or.inl (lineInText inLine)
      · next line rest _ cut =>
        rw [cut] at lineInText restInText
        rcases List.mem_append.mp member with front | later
        · rcases List.mem_append.mp front with before | inLine
          · exact Or.inl (blankLines_subset text before)
          · exact Or.inl (lineInText inLine)
        · exact (inductionHypothesis later).imp_left fun inside => restInText inside

theorem mem_erase {name text : Text} {c : Char} (member : c ∈ erase name text) :
    c ∈ text ∨ c = '\n' :=
  mem_eraseFrom member

end Import

/-! ### Headers -/

namespace Header

/-- How a declaration that was found reads: a keyword, blanks and the name as a whole, with its tail
behind it. -/
structure Shape (passes : Text → Bool) (name behind ahead : Text) (declared : DeclaredName)
    (keyword blanks : Text) : Prop where
  isKeyword : keyword ∈ declarationKeywords
  spaced : blanks ≠ []
  blank : ∀ c ∈ blanks, isBlank c = true
  reads : ahead = keyword ++ blanks ++ name ++ declared.tail
  lead : declared.lead = behind.reverse ++ keyword ++ blanks
  begins : endsWord behind = true
  ends : endsWord declared.tail = true
  tested : passes declared.tail = true

theorem declaredAt?_eq_some {passes : Text → Bool} {name behind ahead : Text}
    {declared : DeclaredName} (found : declaredAt? passes name behind ahead = some declared) :
    ∃ keyword blanks, Shape passes name behind ahead declared keyword blanks := by
  rw [declaredAt?] at found
  split at found
  · next begins =>
    obtain ⟨keyword, isKeyword, found⟩ := List.exists_of_findSome?_eq_some found
    obtain ⟨rest, keywordEnds, found⟩ := Option.bind_eq_some_iff.mp found
    obtain ⟨start, member, found⟩ := List.exists_of_findSome?_eq_some found
    obtain ⟨blanks, spaced, split, blank⟩ := Text.exists_run_of_mem_afterSomeRuns member
    rw [Text.after?_eq_some_iff] at keywordEnds
    split at found
    · next tail nameEnds =>
      rw [Text.after?_eq_some_iff] at nameEnds
      have reads : ahead = keyword ++ blanks ++ start := by
        rw [keywordEnds, split, List.append_assoc]
      have taken : ahead.take (ahead.length - start.length) = keyword ++ blanks := by
        rw [reads, List.length_append, Nat.add_sub_cancel, List.take_left]
      split at found
      · next tests =>
        rw [Bool.and_eq_true] at tests
        cases found
        refine ⟨keyword, blanks, isKeyword, spaced, blank, ?_, ?_, begins, tests.1, tests.2⟩
        · rw [reads, nameEnds]
          simp only [List.append_assoc]
        · rw [taken, List.append_assoc]
      · cases found
    · cases found
  · cases found

/-- The first declaration reads as one that stands behind what was passed over. -/
theorem firstDeclared_shape {passes : Text → Bool} {name text : Text} {declared : DeclaredName}
    (found : Text.firstPlace (declaredAt? passes name) [] text = some declared) :
    ∃ passed ahead keyword blanks, text = passed ++ ahead ∧
      Shape passes name passed.reverse ahead declared keyword blanks := by
  obtain ⟨passed, ahead, split, here⟩ := Text.firstPlace_eq_some found
  rw [List.append_nil] at here
  obtain ⟨keyword, blanks, shape⟩ := declaredAt?_eq_some here
  exact ⟨passed, ahead, keyword, blanks, split, shape⟩

theorem firstDeclared_eq_some {passes : Text → Bool} {name text : Text} {declared : DeclaredName}
    (found : Text.firstPlace (declaredAt? passes name) [] text = some declared) :
    text = declared.lead ++ name ++ declared.tail := by
  obtain ⟨passed, ahead, keyword, blanks, split, shape⟩ := firstDeclared_shape found
  rw [split, shape.reads, shape.lead, List.reverse_reverse]
  simp only [List.append_assoc]

/-- A declared name stands between what comes before and what comes behind it. -/
theorem findDeclared?_eq_some {name text : Text} {declared : DeclaredName}
    (found : findDeclared? name text = some declared) :
    text = declared.lead ++ name ++ declared.tail :=
  firstDeclared_eq_some found

theorem splitOpening_append (text : Text) :
    (splitOpening text).1 ++ (splitOpening text).2 = text := by
  unfold splitOpening
  split <;> rfl

/-- A header stands between what comes before and what comes behind it; it begins with the name and
ends with its opening bracket. -/
theorem find_eq_ok {name text : Text} {header : Header} (found : find name text = .ok header) :
    ∃ between, text = header.lead ++ (name ++ between ++ header.opening) ++ header.tail := by
  rw [find] at found
  split at found
  · cases found
  · next declared declaredFound =>
    have around := firstDeclared_eq_some declaredFound
    dsimp only at found
    split at found
    · cases found
    · next rest balanced =>
      obtain ⟨blanks, behindName⟩ : declared.tail.dropBlanks <:+ declared.tail :=
        List.dropWhile_suffix _
      obtain ⟨parameters, bracketed⟩ := suffix_of_afterBalanced balanced
      obtain ⟨moreBlanks, behindParameters⟩ : rest.dropBlanks <:+ rest := List.dropWhile_suffix _
      cases found
      refine ⟨blanks ++ parameters ++ moreBlanks, ?_⟩
      have pieces : text = declared.lead ++ name ++ (blanks ++ (parameters ++ (moreBlanks ++
          ((splitOpening rest.dropBlanks).1 ++ (splitOpening rest.dropBlanks).2)))) := by
        rw [splitOpening_append, behindParameters, bracketed, behindName]
        exact around
      simpa only [List.append_assoc] using pieces

end Header

end Stencil
