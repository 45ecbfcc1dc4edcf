/-
This file proves what stripping a directive does to a text. A directive occurs where the text reads
as sigil, blanks, name, blanks and an opening parenthesis. A pass takes out the span from the start
of the first occurrence to the end of its arguments, tidies the blanks before it and drops those
behind it; all that is not blank stays as it was. Two parentheses go at least and no more blanks
come in than go, so that every pass leaves a shorter text and the passes come to an end: at a text
without the directive, or at one whose arguments are never closed.
-/
import Mathlib.Logic.Relation
import Stencil.Proofs.Balance

namespace Stencil

namespace Directive

/-! ### Occurrences -/

/-- A place at which a text has a directive, up to the parenthesis that opens its arguments. -/
structure Occurrence (sigil name text : Text) where
  before : Text
  gap : Text
  space : Text
  inner : Text
  reads : text = before ++ (sigil ++ (gap ++ (name ++ (space ++ '(' :: inner))))
  gapBlank : ∀ c ∈ gap, isBlank c = true
  spaceBlank : ∀ c ∈ space, isBlank c = true

namespace Occurrence

variable {sigil name text : Text}

/-- The index of the sigil. -/
def start (site : Occurrence sigil name text) : Nat := site.before.length

/-- The index of the opening parenthesis. -/
def bracket (site : Occurrence sigil name text) : Nat :=
  site.before.length + (sigil.length + (site.gap.length + (name.length + site.space.length)))

/-- What was found where the directive occurs. -/
def place (site : Occurrence sigil name text) : DirectivePlace := ⟨site.before, '(' :: site.inner⟩

theorem take_start (site : Occurrence sigil name text) : text.take site.start = site.before := by
  have taken := congrArg (List.take site.start) site.reads
  rwa [start, List.take_left] at taken

theorem drop_bracket (site : Occurrence sigil name text) :
    text.drop site.bracket = '(' :: site.inner := by
  have whole : text = (site.before ++ (sigil ++ (site.gap ++ (name ++ site.space)))) ++
      '(' :: site.inner := by
    simpa only [List.append_assoc] using site.reads
  have dropped := congrArg (List.drop site.bracket) whole
  rwa [List.drop_left' (by simp only [bracket, List.length_append])] at dropped

theorem opens (site : Occurrence sigil name text) : text[site.bracket]? = some '(' := by
  have first := congrArg (fun rest => rest[0]?) site.drop_bracket
  simpa only [List.getElem?_drop, Nat.add_zero, List.getElem?_cons_zero] using first

theorem length_eq (site : Occurrence sigil name text) :
    text.length = site.bracket + (site.inner.length + 1) := by
  have total := congrArg List.length site.reads
  simp only [List.length_append, List.length_cons] at total
  rw [bracket]
  omega

theorem length_sub_arguments (site : Occurrence sigil name text) :
    text.length - site.place.arguments.length = site.bracket := by
  rw [place, List.length_cons, site.length_eq, Nat.add_sub_cancel]

end Occurrence

section

variable {sigil name text : Text}

theorem dropBlanks_parenthesis {space : Text} (inner : Text)
    (blank : ∀ c ∈ space, isBlank c = true) :
    Text.dropBlanks (space ++ '(' :: inner) = '(' :: inner := by
  have sign : isBlank '(' = false := by decide
  rw [Text.dropBlanks_append_of_blank _ blank, Text.dropBlanks,
    List.dropWhile_cons_of_neg (by simp [sign])]

/-- Where a directive is found it occurs. -/
theorem exists_occurrence_of_at? {before ahead : Text} {place : DirectivePlace}
    (split : text = before ++ ahead) (found : at? sigil name before.reverse ahead = some place) :
    ∃ site : Occurrence sigil name text, site.before = before ∧ site.place = place := by
  simp only [at?, Option.bind_eq_bind, Option.bind_eq_some_iff] at found
  obtain ⟨rest, sigilEnds, found⟩ := found
  obtain ⟨start, member, found⟩ := List.exists_of_findSome?_eq_some found
  obtain ⟨tail, nameEnds, found⟩ := Option.bind_eq_some_iff.mp found
  obtain ⟨gap, gapSplit, gapBlank⟩ := Text.exists_run_of_mem_afterRuns member
  rw [Text.after?_eq_some_iff] at sigilEnds nameEnds
  split at found
  · next inner opens =>
    have tailSplit : tail = tail.takeWhile isBlank ++ '(' :: inner := by
      rw [← opens]
      exact List.takeWhile_append_dropWhile.symm
    cases found
    refine ⟨⟨before, gap, tail.takeWhile isBlank, inner, ?_, gapBlank, fun c inside =>
      List.all_eq_true.mp List.all_takeWhile c inside⟩, rfl, ?_⟩
    · rw [split, sigilEnds, gapSplit, nameEnds, ← tailSplit]
    · rw [Occurrence.place, List.reverse_reverse]
  · cases found

/-- Where a directive occurs one is found. -/
theorem isSome_at?_occurrence (site : Occurrence sigil name text) :
    (at? sigil name site.before.reverse
      (sigil ++ (site.gap ++ (name ++ (site.space ++ '(' :: site.inner))))).isSome = true := by
  simp only [at?, Option.bind_eq_bind, Text.after?_append, Option.bind_some]
  rw [List.findSome?_isSome_iff]
  refine ⟨_, Text.mem_afterRuns _ site.gapBlank, ?_⟩
  rw [Text.after?_append, Option.bind_some, dropBlanks_parenthesis _ site.spaceBlank]
  rfl

theorem find?_eq_none_iff :
    find? sigil name text = none ↔ IsEmpty (Occurrence sigil name text) := by
  rw [find?, Text.firstPlace_eq_none_iff]
  constructor
  · intro fails
    refine ⟨fun site => ?_⟩
    have none := fails site.before _ site.reads
    have found := isSome_at?_occurrence site
    rw [List.append_nil] at none
    rw [none] at found
    cases found
  · intro empty before ahead split
    rw [List.append_nil]
    cases found : at? sigil name before.reverse ahead with
    | none => rfl
    | some place => exact empty.elim (exists_occurrence_of_at? split found).choose

/-- A search stops at the first occurrence. -/
theorem exists_first_occurrence {place : DirectivePlace}
    (found : find? sigil name text = some place) :
    ∃ site : Occurrence sigil name text, site.place = place ∧
      ∀ other : Occurrence sigil name text, site.start ≤ other.start := by
  obtain ⟨before, ahead, split, here, fails⟩ := Text.exists_first_of_firstPlace found
  rw [List.append_nil] at here
  obtain ⟨site, rfl, same⟩ := exists_occurrence_of_at? split here
  refine ⟨site, same, fun other => ?_⟩
  by_contra earlier
  have none := fails other.before _ other.reads (Nat.lt_of_not_le earlier)
  have otherFound := isSome_at?_occurrence other
  rw [List.append_nil] at none
  rw [none] at otherFound
  cases otherFound

/-- What comes before an occurrence tells where its parenthesis is: the blanks that the name begins
with, or consists of, are the last ones of those behind the sigil. -/
theorem Occurrence.inner_eq {site other : Occurrence sigil name text}
    (same : site.before = other.before) : site.inner = other.inner := by
  have reads := site.reads.symm.trans other.reads
  rw [same, List.append_cancel_left_eq, List.append_cancel_left_eq] at reads
  have ahead := congrArg Text.dropBlanks reads
  rw [Text.dropBlanks_append_of_blank _ site.gapBlank,
    Text.dropBlanks_append_of_blank _ other.gapBlank] at ahead
  have behindName : Text.dropBlanks (site.space ++ '(' :: site.inner) =
      Text.dropBlanks (other.space ++ '(' :: other.inner) := by
    by_cases inked : name.dropBlanks = []
    · have blank := List.dropWhile_eq_nil_iff.mp inked
      rwa [Text.dropBlanks_append_of_blank _ blank, Text.dropBlanks_append_of_blank _ blank]
        at ahead
    · rw [Text.dropBlanks_append_of_ne_nil _ inked, Text.dropBlanks_append_of_ne_nil _ inked,
        List.append_cancel_left_eq] at ahead
      exact congrArg Text.dropBlanks ahead
  rw [dropBlanks_parenthesis _ site.spaceBlank, dropBlanks_parenthesis _ other.spaceBlank]
    at behindName
  exact (List.cons.inj behindName).2

/-- The first occurrence is the one that a search stops at. -/
theorem find?_of_first {site : Occurrence sigil name text}
    (first : ∀ other : Occurrence sigil name text, site.start ≤ other.start) :
    find? sigil name text = some site.place := by
  cases found : find? sigil name text with
  | none => exact (find?_eq_none_iff.mp found).elim site
  | some place =>
    obtain ⟨other, rfl, otherFirst⟩ := exists_first_occurrence found
    have same : other.before = site.before := by
      rw [← other.take_start, ← site.take_start, Nat.le_antisymm (otherFirst site) (first other)]
    rw [Occurrence.place, Occurrence.place, same, Occurrence.inner_eq same]

/-! ### Single removals -/

/-- Arguments that are closed go with their directive; others are an error. -/
theorem remove_occurrence (site : Occurrence sigil name text) :
    (∃ stop : Nat, skipBalanced text .round site.bracket = .ok stop ∧
      remove text site.place = .ok (tidyLead site.before ++ Text.dropBlanks (text.drop stop))) ∨
    skipBalanced text .round site.bracket = .error (.unclosed .round site.bracket) ∧
      remove text site.place = .error (.unbalanced (.unclosed .round site.bracket)) := by
  have ahead : site.place.arguments = text.drop site.bracket := site.drop_bracket.symm
  rw [remove, site.length_sub_arguments, ahead, afterBalanced, BracketPair.round,
    skipBalanced_of_opening site.opens]
  cases balanced : balancedLength ⟨['('], [')']⟩ false 0 (text.drop site.bracket) with
  | none => exact Or.inr ⟨rfl, rfl⟩
  | some count =>
    refine Or.inl ⟨site.bracket + count, rfl, ?_⟩
    rw [← List.drop_drop]
    rfl

end

/-- A span that can be taken out of a text: the first occurrence of a directive with its arguments,
which are closed. -/
structure Removal (sigil name text : Text) where
  site : Occurrence sigil name text
  first : ∀ other : Occurrence sigil name text, site.start ≤ other.start
  stop : Nat
  closed : skipBalanced text .round site.bracket = .ok stop

namespace Removal

variable {sigil name text : Text}

/-- What stands before the span. -/
def before (removal : Removal sigil name text) : Text := text.take removal.site.start

/-- What stands behind the span. -/
def after (removal : Removal sigil name text) : Text := text.drop removal.stop

/-- The text without the span, its blanks tidied. -/
def result (removal : Removal sigil name text) : Text :=
  tidyLead removal.before ++ removal.after.dropBlanks

theorem bounds (removal : Removal sigil name text) :
    removal.site.start < removal.stop ∧ removal.stop ≤ text.length := by
  obtain ⟨inside, rest, ahead, stop, -⟩ := exists_stretch_of_skipBalanced removal.closed
  have total := congrArg List.length ahead
  rw [List.length_drop, List.length_append, List.length_cons] at total
  have later : removal.site.start ≤ removal.site.bracket := Nat.le_add_right _ _
  omega

end Removal

section

variable (sigil name text : Text)

/-- A pass finds no directive, or takes the first one out, or cannot tell where it ends. -/
theorem strip_cases :
    (IsEmpty (Occurrence sigil name text) ∧
      strip sigil name text = .error (.directiveNotFound sigil name)) ∨
    (∃ removal : Removal sigil name text, strip sigil name text = .ok removal.result) ∨
    ∃ site : Occurrence sigil name text,
      skipBalanced text .round site.bracket = .error (.unclosed .round site.bracket) ∧
      strip sigil name text = .error (.unbalanced (.unclosed .round site.bracket)) := by
  rw [strip]
  cases found : find? sigil name text with
  | none => exact Or.inl ⟨find?_eq_none_iff.mp found, rfl⟩
  | some place =>
    obtain ⟨site, rfl, first⟩ := exists_first_occurrence found
    rcases remove_occurrence site with ⟨stop, closed, removed⟩ | ⟨unclosed, refused⟩
    · refine Or.inr (Or.inl ⟨⟨site, first, stop, closed⟩, ?_⟩)
      rw [Removal.result, Removal.before, site.take_start]
      exact removed
    · exact Or.inr (Or.inr ⟨site, unclosed, refused⟩)

end

section

variable {sigil name text next : Text}

theorem strip_removal (removal : Removal sigil name text) :
    strip sigil name text = .ok removal.result := by
  rw [strip, find?_of_first removal.first]
  rcases remove_occurrence removal.site with ⟨stop, closed, removed⟩ | ⟨unclosed, -⟩
  · have same : stop = removal.stop :=
      Int.ofNat.inj (Except.ok.inj (closed.symm.trans removal.closed))
    rw [Removal.result, Removal.before, removal.site.take_start, Removal.after, ← same]
    exact removed
  · rw [removal.closed] at unclosed
    cases unclosed

/-- A pass leaves the text without a span that can be taken out. -/
theorem strip_eq_ok_iff :
    strip sigil name text = .ok next ↔
      ∃ removal : Removal sigil name text, removal.result = next := by
  constructor
  · intro passes
    rcases strip_cases sigil name text with ⟨-, refused⟩ | ⟨removal, same⟩ | ⟨_, _, refused⟩
    · rw [refused] at passes
      cases passes
    · exact ⟨removal, Except.ok.inj (same.symm.trans passes)⟩
    · rw [refused] at passes
      cases passes
  · rintro ⟨removal, rfl⟩
    exact strip_removal removal

/-! ### What is not blank -/

/-- The characters of a text that are not blank. -/
def ink (text : Text) : Text := text.filter fun c => !isBlank c

theorem ink_append (first second : Text) : ink (first ++ second) = ink first ++ ink second :=
  List.filter_append ..

theorem ink_of_blank {blanks : Text} (blank : ∀ c ∈ blanks, isBlank c = true) :
    ink blanks = [] := by
  rw [ink, List.filter_eq_nil_iff]
  intro c member
  simp [blank c member]

theorem ink_tidyLead (lead : Text) : ink (tidyLead lead) = ink lead := by
  obtain ⟨filler, tidied, fillerBlank⟩ := exists_tidyLead lead
  obtain ⟨blanks, trimmed, blank⟩ := Text.exists_blanks_of_trimRight lead
  have whole := congrArg ink trimmed
  rw [ink_append, ink_of_blank blank, List.append_nil] at whole
  rw [tidied, ink_append, ink_of_blank fillerBlank, List.append_nil, whole]

theorem ink_dropBlanks (text : Text) : ink text.dropBlanks = ink text := by
  have whole := congrArg ink (List.takeWhile_append_dropWhile (p := isBlank) (l := text))
  rw [ink_append, ink_of_blank (List.all_eq_true.mp List.all_takeWhile)] at whole
  exact whole

theorem Removal.ink_result (removal : Removal sigil name text) :
    ink removal.result = ink removal.before ++ ink removal.after := by
  rw [result, ink_append, ink_tidyLead, ink_dropBlanks]

/-! ### Passes -/

theorem length_tidyLead_le (lead : Text) : (tidyLead lead).length ≤ lead.length := by
  rw [tidyLead]
  split
  · exact Nat.le_refl _
  · next several =>
    rw [List.length_append]
    exact Nat.le_of_not_lt several

/-- Every pass leaves a shorter text. -/
theorem length_lt_of_strip (passes : strip sigil name text = .ok next) :
    next.length < text.length := by
  obtain ⟨removal, rfl⟩ := strip_eq_ok_iff.mp passes
  obtain ⟨nonempty, inside⟩ := removal.bounds
  calc removal.result.length
      = (tidyLead removal.before).length + removal.after.dropBlanks.length := List.length_append
    _ ≤ removal.before.length + removal.after.length :=
        Nat.add_le_add (length_tidyLead_le _) (List.dropWhile_suffix _).length_le
    _ ≤ removal.site.start + (text.length - removal.stop) := by
        rw [Removal.before, Removal.after, List.length_drop]
        exact Nat.add_le_add_right (List.length_take_le _ _) _
    _ < text.length := by omega

theorem wellFounded_strip (sigil name : Text) :
    WellFounded fun next text => strip sigil name text = .ok next :=
  Subrelation.wf length_lt_of_strip (InvImage.wf List.length Nat.lt_wfRel.wf)

/-- A loop that may run as often as the text has characters ends because it is done: at a text
without the directive, or at a directive whose arguments are never closed. -/
theorem exists_last_of_stripRest (sigil name : Text) {fuel : Nat} {text : Text}
    (enough : text.length ≤ fuel) :
    ∃ last, Relation.ReflTransGen (fun text next => strip sigil name text = .ok next) text last ∧
      (IsEmpty (Occurrence sigil name last) ∧ stripRest sigil name fuel text = .ok last ∨
        ∃ site : Occurrence sigil name last,
          skipBalanced last .round site.bracket = .error (.unclosed .round site.bracket) ∧
          stripRest sigil name fuel text =
            .error (.unbalanced (.unclosed .round site.bracket))) := by
  induction fuel generalizing text with
  | zero =>
    obtain rfl := List.length_eq_zero_iff.mp (Nat.le_zero.mp enough)
    refine ⟨[], .refl, Or.inl ⟨⟨fun site => ?_⟩, rfl⟩⟩
    exact absurd site.length_eq (by simp)
  | succ fuel inductionHypothesis =>
    rw [stripRest]
    cases found : find? sigil name text with
    | none => exact ⟨text, .refl, Or.inl ⟨find?_eq_none_iff.mp found, rfl⟩⟩
    | some place =>
      obtain ⟨site, -, -⟩ := exists_first_occurrence found
      have same : remove text place = strip sigil name text := by rw [strip, found]
      dsimp only
      rw [same]
      rcases strip_cases sigil name text with
        ⟨empty, -⟩ | ⟨removal, passes⟩ | ⟨endless, unclosed, refused⟩
      · exact empty.elim site
      · have shorter := length_lt_of_strip passes
        obtain ⟨last, reached, ends⟩ := @inductionHypothesis removal.result (by omega)
        rw [passes]
        exact ⟨last, .head passes reached, ends⟩
      · rw [refused]
        exact ⟨text, .refl, Or.inr ⟨endless, unclosed, rfl⟩⟩

theorem stripRest_of_isEmpty (fuel : Nat) (empty : IsEmpty (Occurrence sigil name text)) :
    stripRest sigil name fuel text = .ok text := by
  cases fuel with
  | zero => rfl
  | succ fuel => rw [stripRest, find?_eq_none_iff.mpr empty]

/-- What is enforced and absent is an error; otherwise the loop decides. -/
theorem stripAll_cases (sigil : Text) (marker : Marker) (text : Text) :
    (IsEmpty (Occurrence sigil marker.name text) ∧ marker.enforced = true ∧
      stripAll sigil marker text = .error (.directiveNotFound sigil marker.name)) ∨
    ¬ (IsEmpty (Occurrence sigil marker.name text) ∧ marker.enforced = true) ∧
      stripAll sigil marker text = stripRest sigil marker.name text.length text := by
  rw [← find?_eq_none_iff, ← Option.isNone_iff_eq_none, stripAll]
  by_cases absent : (marker.enforced && (find? sigil marker.name text).isNone) = true
  · rw [if_pos absent]
    rw [Bool.and_eq_true] at absent
    exact Or.inl ⟨absent.2, absent.1, rfl⟩
  · rw [if_neg absent]
    rw [Bool.and_eq_true, and_comm] at absent
    exact Or.inr ⟨absent, rfl⟩

/-- All occurrences of a directive are removed, one pass after another. No run of passes goes on
without end; it leads to a text without the directive, also where the pieces around a removed one
have made up a new one, or to arguments that are never closed. A pass takes out one span and nothing
else that is not blank. That there is no directive to begin with is an error exactly if presence is
enforced, and the only other error are arguments that are not closed. -/
theorem stripAll_removes_every_occurrence (sigil : Text) (marker : Marker) (text : Text) :
    (WellFounded fun next text => strip sigil marker.name text = .ok next) ∧
    (∀ text next, strip sigil marker.name text = .ok next ↔
      ∃ removal : Removal sigil marker.name text, removal.result = next) ∧
    (∀ text (removal : Removal sigil marker.name text),
      ink removal.result = ink (text.take removal.site.start) ++ ink (text.drop removal.stop)) ∧
    (stripAll sigil marker text = .error (.directiveNotFound sigil marker.name) ∨
      ∃ last, Relation.ReflTransGen (fun text next => strip sigil marker.name text = .ok next)
          text last ∧
        (IsEmpty (Occurrence sigil marker.name last) ∧ stripAll sigil marker text = .ok last ∨
          ∃ site : Occurrence sigil marker.name last,
            skipBalanced last .round site.bracket = .error (.unclosed .round site.bracket) ∧
            stripAll sigil marker text =
              .error (.unbalanced (.unclosed .round site.bracket)))) ∧
    (∀ result, stripAll sigil marker text = .ok result →
      IsEmpty (Occurrence sigil marker.name result) ∧ find? sigil marker.name result = none ∧
        stripAll sigil ⟨marker.name, false⟩ result = .ok result) ∧
    (stripAll sigil marker text = .error (.directiveNotFound sigil marker.name) ↔
      IsEmpty (Occurrence sigil marker.name text) ∧ marker.enforced = true) := by
  refine ⟨wellFounded_strip sigil marker.name, fun _ _ => strip_eq_ok_iff,
    fun _ removal => removal.ink_result, ?_⟩
  obtain ⟨last, reached, ends⟩ :=
    exists_last_of_stripRest sigil marker.name (Nat.le_refl text.length)
  rcases stripAll_cases sigil marker text with ⟨empty, enforced, refused⟩ | ⟨allowed, same⟩
  · rw [refused]
    exact ⟨Or.inl rfl, fun _ other => (nomatch other), fun _ => ⟨empty, enforced⟩, fun _ => rfl⟩
  · rw [same]
    refine ⟨Or.inr ⟨last, reached, ends⟩, fun result stripped => ?_, ?_⟩
    · rcases ends with ⟨empty, done⟩ | ⟨_, _, refused⟩
      · obtain rfl : last = result := Except.ok.inj (done.symm.trans stripped)
        refine ⟨empty, find?_eq_none_iff.mpr empty, ?_⟩
        exact stripRest_of_isEmpty last.length empty
      · rw [refused] at stripped
        cases stripped
    · refine ⟨fun refused => ?_, fun absent => absurd absent allowed⟩
      rcases ends with ⟨_, done⟩ | ⟨_, _, unclosed⟩
      · rw [done] at refused
        cases refused
      · rw [unclosed] at refused
        cases refused

/-- The directive that is left behind when one is taken out is a directive like any other. -/
example : stripAll ['@'] ⟨['T'], true⟩ "a @@T(\")\") T(b) c".toList = .ok "a c".toList := by
  decide +kernel

end

end Directive

end Stencil
