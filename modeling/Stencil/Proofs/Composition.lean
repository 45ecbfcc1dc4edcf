/-
This file proves that rules compose: what two texts of rules declare one after the other is what
they declare when they are joined by a line feed, the numbers of lines apart.

The proof compares two runs over the second text. One starts afresh. The other goes on from where
the first text has left off, which may be in the middle of a declaration and beneath a template, and
all its line numbers are higher. Line numbers are written down by reading but never looked at. The
declaration in the middle is concluded by the first line of the second text that is no comment,
because that text, read by itself, cannot go on with a declaration that it has not opened. The
template does not matter, because that text opens a template before it opens anything beneath one.
-/
import Stencil.Proofs.LineNumbers

namespace Stencil

/-! ### Lines of joined texts -/

namespace Text

theorem lines_eq_nil {text : Text} (none : text.lines = []) : text = [] := by
  unfold Text.lines at none
  split at none
  · rfl
  · cases none
  · split at none
    · cases none
    · split at none <;> cases none

theorem lines_of_end {c : Char} {rest : Text} (isEnd : isLineEnd c = true)
    (other : ¬ (c = '\r' ∧ ∃ more, rest = '\n' :: more)) :
    Text.lines (c :: rest) = [] :: Text.lines rest := by
  rw [Text.lines.eq_3 _ _ (fun more carriage feed => other ⟨carriage, more, feed⟩), if_pos isEnd]

theorem lines_of_not_end {c : Char} (rest : Text) (notEnd : ¬ isLineEnd c = true) :
    Text.lines (c :: rest) = (c :: rest.lines.headD []) :: rest.lines.tail := by
  have notReturn (carriage : c = '\r') : False := notEnd (carriage ▸ by decide)
  refine ((Text.lines.eq_3 c rest fun _ carriage _ => notReturn carriage).trans
    (if_neg notEnd)).trans ?_
  cases rest.lines <;> rfl

/-- A line feed between two texts ends the last line of the first one. If there is none to end, it
makes a blank line. -/
theorem lines_joined (first second : Text) :
    ∃ gap, (gap = [] ∨ gap = [[]]) ∧
      Text.lines (first ++ '\n' :: second) = first.lines ++ (gap ++ second.lines) := by
  have feed : Text.lines ('\n' :: second) = [] :: second.lines :=
    lines_of_end (by decide) fun both => absurd both.1 (by decide)
  fun_induction Text.lines first with
  | case1 => exact ⟨[[]], Or.inr rfl, feed⟩
  | case2 rest inductionHypothesis =>
    obtain ⟨gap, isGap, parts⟩ := inductionHypothesis
    exact ⟨gap, isGap, congrArg (List.cons []) parts⟩
  | case3 c rest apart isEnd inductionHypothesis =>
    by_cases split : c = '\r' ∧ rest = []
    · -- The carriage return and the line feed are one end of a line.
      obtain ⟨rfl, rfl⟩ := split
      exact ⟨[], Or.inl rfl, rfl⟩
    · obtain ⟨gap, isGap, parts⟩ := inductionHypothesis
      refine ⟨gap, isGap, ?_⟩
      rw [List.cons_append, lines_of_end isEnd, parts]
      · rfl
      · rintro ⟨rfl, more, same⟩
        cases rest with
        | nil => exact split ⟨rfl, rfl⟩
        | cons next rest =>
          cases same
          exact apart rest rfl rfl
  | case4 c rest apart notEnd noLines inductionHypothesis =>
    cases lines_eq_nil noLines
    refine ⟨[], Or.inl rfl, ?_⟩
    rw [List.cons_append, lines_of_not_end _ notEnd, List.nil_append, feed]
    rfl
  | case5 c rest apart notEnd line more someLines inductionHypothesis =>
    obtain ⟨gap, isGap, parts⟩ := inductionHypothesis
    refine ⟨gap, isGap, ?_⟩
    rw [List.cons_append, lines_of_not_end _ notEnd, parts, someLines]
    rfl

end Text

/-! ### Alike but for line numbers -/

namespace Store

variable {joined split : Store}

theorem ids_congr (same : joined.unnumbered = split.unnumbered) : joined.ids = split.ids := by
  rw [← ids_unnumbered, same, ids_unnumbered]

theorem isSome_entry?_congr (same : joined.unnumbered = split.unnumbered) (name : Text) :
    (joined.entry? name).isSome = (split.entry? name).isSome := by
  rw [← Option.isSome_map, ← entry?_unnumbered, same, entry?_unnumbered, Option.isSome_map]

theorem barren?_congr (same : joined.unnumbered = split.unnumbered)
    (fruitful : split.barren? = none) : joined.barren? = none := by
  have erased : joined.barren?.map StoreEntry.unnumbered = none := by
    rw [← barren?_unnumbered, same, barren?_unnumbered, fruitful]
    rfl
  exact Option.map_eq_none_iff.mp erased

end Store

theorem Active.declaration_congr {joined split : Active}
    (same : joined.unnumbered = split.unnumbered) : joined.declaration = split.declaration := by
  rw [← declaration_unnumbered, same, declaration_unnumbered]

namespace Reading

/-! ### Steps of two runs -/

/-- Staging does not depend on lines. -/
theorem staged_congr [CharacterNames] {joined split after : Active} {pending splitPending : Pending}
    {next : Nat} (same : joined.unnumbered = split.unnumbered)
    (samePending : pending.unnumbered = splitPending.unnumbered)
    (staging : staged split splitPending next = .ok after) (number : Nat) :
    ∃ result, staged joined pending number = .ok result ∧
      result.unnumbered = after.unnumbered := by
  apply exists_ok_of_unnumberedOutcome
  rw [unnumbered_staged, same, samePending, ← unnumbered_staged split splitPending next, staging]
  rfl

theorem stage_of_idle [CharacterNames] {reading : Reading} {next : Nat}
    (idle : reading.active = none ∨ reading.pending = none) :
    reading.stage next = .ok reading := by
  rw [stage]
  split
  · next isActive isPending =>
    rcases idle with inactive | cleared
    · cases inactive.symm.trans isActive
    · cases cleared.symm.trans isPending
  · rfl

/-- The state of one run is that of another, the numbers of lines apart. It may also have a closest
template where the other has none. -/
structure Follows (joined split : Reading) : Prop where
  store : joined.store.unnumbered = split.store.unnumbered
  template : ∀ name, split.template = some name → joined.template = some name
  active : joined.active.map Active.unnumbered = split.active.map Active.unnumbered
  pending : joined.pending.map Pending.unnumbered = split.pending.map Pending.unnumbered

namespace Follows

variable {joined split after : Reading} {next : Nat}

theorem refl (reading : Reading) : reading.Follows reading := ⟨rfl, fun _ same => same, rfl, rfl⟩

theorem active_eq_none (follows : joined.Follows split) (inactive : split.active = none) :
    joined.active = none := by
  have same := follows.active
  rw [inactive] at same
  exact Option.map_eq_none_iff.mp same

theorem exists_active (follows : joined.Follows split) {active : Active}
    (isActive : split.active = some active) :
    ∃ other, joined.active = some other ∧ other.unnumbered = active.unnumbered := by
  have same := follows.active
  rw [isActive] at same
  exact Option.map_eq_some_iff.mp same

theorem pending_eq_none (follows : joined.Follows split) (cleared : split.pending = none) :
    joined.pending = none := by
  have same := follows.pending
  rw [cleared] at same
  exact Option.map_eq_none_iff.mp same

theorem exists_pending (follows : joined.Follows split) {pending : Pending}
    (isPending : split.pending = some pending) :
    ∃ other, joined.pending = some other ∧ other.unnumbered = pending.unnumbered := by
  have same := follows.pending
  rw [isPending] at same
  exact Option.map_eq_some_iff.mp same

theorem stage [CharacterNames] (follows : joined.Follows split)
    (same : split.stage next = .ok after) (number : Nat) :
    ∃ result, joined.stage number = .ok result ∧ result.Follows after := by
  by_cases idle : split.active = none ∨ split.pending = none
  · rw [stage_of_idle idle] at same
    cases same
    exact ⟨joined, stage_of_idle (idle.imp follows.active_eq_none follows.pending_eq_none), follows⟩
  · obtain ⟨isActive, isPending⟩ := not_or.mp idle
    obtain ⟨active, isActive⟩ := Option.ne_none_iff_exists'.mp isActive
    obtain ⟨pending, isPending⟩ := Option.ne_none_iff_exists'.mp isPending
    obtain ⟨ownActive, isOwn, sameActive⟩ := follows.exists_active isActive
    obtain ⟨ownPending, pends, samePending⟩ := follows.exists_pending isPending
    simp only [Reading.stage, isActive, isPending] at same
    split at same <;> cases same
    next staging =>
    obtain ⟨result, staged, sameResult⟩ := staged_congr sameActive samePending staging number
    refine ⟨{ joined with active := some result, pending := none }, ?_, ?_⟩
    · simp only [Reading.stage, isOwn, pends, staged]
    · exact ⟨follows.store, follows.template, congrArg some sameResult, rfl⟩

theorem commit (follows : joined.Follows split) {active : Active}
    (isActive : split.active = some active) {store : Store}
    (commits : committed split.store active next = .ok store) (number : Nat) :
    ∃ own result, joined.active = some own ∧ committed joined.store own number = .ok result ∧
      result.unnumbered = store.unnumbered := by
  obtain ⟨own, isOwn, same⟩ := follows.exists_active isActive
  have plain : unnumberedOutcome Store.unnumbered (committed joined.store own number) =
      .ok store.unnumbered := by
    rw [unnumbered_committed, follows.store, same, ← unnumbered_committed _ _ next, commits]
    rfl
  obtain ⟨result, committed, sameStore⟩ := exists_ok_of_unnumberedOutcome plain
  exact ⟨own, result, isOwn, committed, sameStore⟩

theorem conclude [CharacterNames] (follows : joined.Follows split)
    (same : split.conclude next = .ok after) (number : Nat) :
    ∃ result, joined.conclude number = .ok result ∧ result.Follows after := by
  obtain ⟨middle, staging, ⟨inactive, rfl⟩ | ⟨active, store, isActive, commits, rfl⟩⟩ :=
    conclude_eq_ok same
  · obtain ⟨result, staged, follows⟩ := follows.stage staging number
    refine ⟨result, ?_, follows⟩
    simp only [Reading.conclude, staged, follows.active_eq_none inactive]
  · obtain ⟨result, staged, follows⟩ := follows.stage staging number
    obtain ⟨own, ownStore, isOwn, committed, sameStore⟩ := follows.commit isActive commits number
    refine ⟨{ result with store := ownStore, active := none, pending := none }, ?_, ?_⟩
    · simp only [Reading.conclude, staged, isOwn, committed]
    · exact ⟨sameStore, follows.template, rfl, rfl⟩

/-- A subordinate is opened beneath the closest template of the run that is followed, which is then
the closest one of both. -/
theorem beginDeclaration (follows : joined.Follows split) {className : Text} {subject : Subject}
    (same : split.beginDeclaration next className subject = .ok after) (number : Nat) :
    ∃ result, joined.beginDeclaration number className subject = .ok result ∧
      result.Follows after := by
  unfold Reading.beginDeclaration at same ⊢
  rw [Store.ids_congr follows.store]
  split at same
  · next isTemplate =>
    rw [if_pos isTemplate]
    split at same
    · cases same
    · next name =>
      rw [← Store.isSome_entry?_congr follows.store] at same
      split at same <;> cases same
      next undeclared =>
      refine ⟨_, if_neg undeclared, follows.store, fun _ same => same, rfl, follows.pending⟩
  · next isOther =>
    rw [if_neg isOther]
    split at same
    · cases same
    · cases same
    · cases same
    · next begins id owner starts isTemplate =>
      split at same <;> cases same
      next unused =>
      rw [starts, follows.template owner isTemplate]
      refine ⟨_, if_neg unused, follows.store, fun name named => ?_, rfl, follows.pending⟩
      exact isTemplate.symm.trans named

theorem beginAttribute (follows : joined.Follows split) {word value : Text}
    (same : split.beginAttribute next word value = .ok after) (number : Nat) :
    ∃ result, joined.beginAttribute number word value = .ok result ∧ result.Follows after := by
  unfold Reading.beginAttribute at same
  split at same
  · cases same
  · next active isActive =>
    obtain ⟨own, isOwn, sameActive⟩ := follows.exists_active isActive
    split at same <;> cases same
    next setting found =>
    rw [← Active.declaration_congr sameActive] at found
    refine ⟨{ joined with pending := some (.attribute setting value number) }, ?_, ?_⟩
    · simp only [Reading.beginAttribute, isOwn, found]
    · exact ⟨follows.store, follows.template, follows.active, rfl⟩

theorem beginSubstitution (follows : joined.Follows split) {text : Text}
    (same : split.beginSubstitution next text = .ok after) (number : Nat) :
    ∃ result, joined.beginSubstitution number text = .ok result ∧ result.Follows after := by
  unfold Reading.beginSubstitution at same
  split at same <;> cases same
  next active isActive =>
  obtain ⟨own, isOwn, -⟩ := follows.exists_active isActive
  refine ⟨{ joined with pending := some (.substitution text number) }, ?_, ?_⟩
  · simp only [Reading.beginSubstitution, isOwn]
  · exact ⟨follows.store, follows.template, follows.active, rfl⟩

theorem resume (follows : joined.Follows split) {text : Text}
    (same : split.resume next text = .ok after) (number : Nat) :
    ∃ result, joined.resume number text = .ok result ∧ result.Follows after := by
  unfold Reading.resume at same
  split at same
  · next isPending =>
    obtain ⟨own, pends, samePending⟩ := follows.exists_pending isPending
    cases same
    cases own <;> cases samePending
    refine ⟨_, by simp only [Reading.resume, pends]; rfl, ?_⟩
    exact ⟨follows.store, follows.template, follows.active, rfl⟩
  · next isPending =>
    obtain ⟨own, pends, samePending⟩ := follows.exists_pending isPending
    cases same
    cases own <;> cases samePending
    refine ⟨_, by simp only [Reading.resume, pends]; rfl, ?_⟩
    exact ⟨follows.store, follows.template, follows.active, rfl⟩
  · cases same

/-- What one run reads without stopping is read by a run that follows it. -/
theorem step [CharacterNames] (follows : joined.Follows split) {line : Line}
    (same : split.step next line = (after, none)) (number : Nat) :
    ∃ result, joined.step number line = (result, none) ∧ result.Follows after := by
  cases line with
  | comment =>
    cases same
    exact ⟨joined, rfl, follows⟩
  | blank =>
    obtain ⟨result, concluded, follows⟩ := follows.conclude (orStay_eq_going.mp same) number
    exact ⟨result, orStay_eq_going.mpr concluded, follows⟩
  | opening className subject =>
    obtain ⟨middle, first, second⟩ := andThen_eq_going.mp same
    obtain ⟨own, concluded, follows⟩ := follows.conclude (orStay_eq_going.mp first) number
    obtain ⟨result, begun, follows⟩ := follows.beginDeclaration second number
    exact ⟨result, andThen_eq_going.mpr ⟨own, orStay_eq_going.mpr concluded, begun⟩, follows⟩
  | «attribute» word value =>
    obtain ⟨middle, first, second⟩ := andThen_eq_going.mp same
    obtain ⟨own, staged, follows⟩ := follows.stage (orStay_eq_going.mp first) number
    obtain ⟨result, begun, follows⟩ := follows.beginAttribute second number
    exact ⟨result, andThen_eq_going.mpr ⟨own, orStay_eq_going.mpr staged, begun⟩, follows⟩
  | substitution text =>
    obtain ⟨middle, first, second⟩ := andThen_eq_going.mp same
    obtain ⟨own, staged, follows⟩ := follows.stage (orStay_eq_going.mp first) number
    obtain ⟨result, begun, follows⟩ := follows.beginSubstitution second number
    exact ⟨result, andThen_eq_going.mpr ⟨own, orStay_eq_going.mpr staged, begun⟩, follows⟩
  | continuation text =>
    obtain ⟨result, resumed, follows⟩ := follows.resume (orStay_eq_going.mp same) number
    exact ⟨result, orStay_eq_going.mpr resumed, follows⟩
  | other => cases same

end Follows

/-! ### Where the second text begins -/

/-- How a run of joined texts stands to a run of the second text only: it follows it, or the second
text has not come to a line yet that is no comment, and what the first one has left will be
concluded there. -/
inductive Trails [CharacterNames] (joined : Reading) : Reading → Prop
  | follows {split : Reading} (follows : joined.Follows split) : Trails joined split
  | behind {store : Store}
      (concludes : ∀ number, ∃ result, joined.conclude number = .ok result ∧
        result.Follows (beginning store)) : Trails joined (beginning store)

namespace Trails

variable {joined split after : Reading} {next : Nat}

theorem conclude [CharacterNames] (trails : joined.Trails split)
    (same : split.conclude next = .ok after) (number : Nat) :
    ∃ result, joined.conclude number = .ok result ∧ result.Follows after := by
  cases trails with
  | follows follows => exact follows.conclude same number
  | behind concludes =>
    cases same
    exact concludes number

/-- A text that is read from its beginning goes on with no declaration but its own. -/
theorem step [CharacterNames] (trails : joined.Trails split) {line : Line}
    (same : split.step next line = (after, none)) (number : Nat) :
    ∃ result, joined.step number line = (result, none) ∧ result.Trails after := by
  cases trails with
  | follows follows =>
    obtain ⟨result, stepped, follows⟩ := follows.step same number
    exact ⟨result, stepped, .follows follows⟩
  | behind concludes =>
    obtain ⟨own, concluded, follows⟩ := concludes number
    have left : joined.orStay (joined.conclude number) = (own, none) :=
      orStay_eq_going.mpr concluded
    cases line with
    | comment =>
      cases same
      exact ⟨joined, rfl, .behind concludes⟩
    | blank =>
      cases same
      exact ⟨own, left, .follows follows⟩
    | opening className subject =>
      rw [Reading.step] at same
      obtain ⟨middle, first, second⟩ := andThen_eq_going.mp same
      cases first
      obtain ⟨result, begun, follows⟩ := follows.beginDeclaration second number
      exact ⟨result, andThen_eq_going.mpr ⟨own, left, begun⟩, .follows follows⟩
    | «attribute» _ _ | substitution _ =>
      -- Read by itself, the second text has no declaration for these.
      rw [Reading.step] at same
      obtain ⟨middle, first, second⟩ := andThen_eq_going.mp same
      cases first
      cases second
    | continuation _ | other => cases same

theorem passes [CharacterNames] (trails : joined.Trails split) {list : List Text}
    (passed : split.Passes next list after) (number : Nat) :
    ∃ result, joined.Passes number list result ∧ result.Trails after := by
  induction list generalizing joined split next number with
  | nil =>
    cases passed
    exact ⟨joined, rfl, trails⟩
  | cons line list inductionHypothesis =>
    obtain ⟨middle, stepped, passed⟩ := passes_cons.mp passed
    obtain ⟨own, ownStep, trails⟩ := trails.step stepped number
    obtain ⟨result, rest, trails⟩ := inductionHypothesis trails passed (number + 1)
    exact ⟨result, passes_cons.mpr ⟨own, ownStep, rest⟩, trails⟩

end Trails

/-- Rules that are read to their end. -/
theorem all_eq_going [CharacterNames] {store : Store} {text : Text} {after : Reading} :
    all store text = (after, none) ↔
      ∃ before, (beginning store).Passes 1 text.lines before ∧
        before.conclude (1 + text.lines.length) = .ok after ∧ after.store.barren? = none := by
  constructor
  · intro same
    rw [all] at same
    cases read : (beginning store).lines 1 text.lines with
    | mk taken next =>
      rw [read] at same
      obtain ⟨concluded, checking, checked⟩ := andThen_eq_going.mp same
      obtain ⟨before, rfl, concluding⟩ := andThen_eq_going.mp checking
      have passes := passes_of_lines read
      obtain rfl : next = 1 + text.lines.length := (Prod.mk.inj (read.symm.trans passes)).2
      obtain ⟨rfl, fruitful⟩ := checkBarren_eq_ok checked
      exact ⟨before, passes, concluding, fruitful⟩
  · rintro ⟨before, passes, concluded, fruitful⟩
    have checked : after.checkBarren = .ok after := by rw [checkBarren, fruitful]
    rw [all, passes]
    exact andThen_eq_going.mpr ⟨after, andThen_eq_going.mpr ⟨before, rfl, concluded⟩, checked⟩

/-- Where the first text has been concluded, the second one can be read on, with or without a blank
line between. -/
theorem trails_gap [CharacterNames] {reading after : Reading} {next : Nat}
    (concluded : reading.conclude next = .ok after) (inactive : after.active = none)
    (cleared : after.pending = none) {gap : List Text} (isGap : gap = [] ∨ gap = [[]])
    (number : Nat) :
    ∃ result, reading.Passes number gap result ∧ result.Trails (beginning after.store) := by
  have concludes (number : Nat) : ∃ result, reading.conclude number = .ok result ∧
      result.Follows (beginning after.store) := by
    obtain ⟨result, ends, follows⟩ := (Follows.refl reading).conclude concluded number
    have ownInactive := follows.active_eq_none inactive
    have ownCleared := follows.pending_eq_none cleared
    refine ⟨result, ends, follows.store, fun _ none => (by cases none), ?_, ?_⟩
    · rw [ownInactive]
    · rw [ownCleared]
  rcases isGap with rfl | rfl
  · exact ⟨reading, rfl, .behind concludes⟩
  · obtain ⟨result, ends, follows⟩ := concludes number
    refine ⟨result, passes_cons.mpr ⟨result, ?_, rfl⟩, .follows follows⟩
    exact orStay_eq_going.mpr ends

/-- Two texts read one after the other, and joined. -/
theorem all_joined [CharacterNames] {store : Store} {first second : Text} {middle last : Reading}
    (isRead : all store first = (middle, none))
    (alsoRead : all middle.store second = (last, none)) :
    ∃ result, all store (first ++ '\n' :: second) = (result, none) ∧
      result.store.unnumbered = last.store.unnumbered := by
  obtain ⟨left, passesFirst, concludesFirst, -⟩ := all_eq_going.mp isRead
  obtain ⟨final, passesSecond, concludesSecond, fruitful⟩ := all_eq_going.mp alsoRead
  obtain ⟨-, inactive, cleared⟩ :=
    ((Tidy.start store).passes passesFirst).conclude concludesFirst
  obtain ⟨gap, isGap, parts⟩ := Text.lines_joined first second
  obtain ⟨bridge, passesGap, trails⟩ :=
    trails_gap concludesFirst inactive cleared isGap (1 + first.lines.length)
  obtain ⟨own, passesOwn, trails⟩ :=
    trails.passes passesSecond (1 + first.lines.length + gap.length)
  have passes := passesFirst.append (passesGap.append passesOwn)
  rw [← parts] at passes
  obtain ⟨result, concluded, follows⟩ := trails.conclude concludesSecond
    (1 + (Text.lines (first ++ '\n' :: second)).length)
  refine ⟨result, all_eq_going.mpr ⟨own, passes, concluded, ?_⟩, follows.store⟩
  exact Store.barren?_congr follows.store fruitful

end Reading

namespace Store

theorem all_of_outcome [CharacterNames] {store : Store} {file text : Text}
    (isRead : (store.readRules file text).outcome = .ok ()) :
    Reading.all store text = ((Reading.all store text).1, none) := by
  rw [outcome_readRules] at isRead
  refine Prod.ext rfl ?_
  split at isRead
  · assumption
  · cases isRead
  · cases isRead

/-- Rules compose. Where two texts of rules are read one after the other, each to its end, the texts
joined by a line feed are read to their end too, and the same is declared in the same order: the
same templates with the same settings and the same subordinates beneath them, and so the same ids.
Only the numbers of the lines may differ. -/
theorem readRules_joined [CharacterNames] (store : Store) (file first second : Text)
    (isRead : (store.readRules file first).outcome = .ok ())
    (alsoRead : ((store.readRules file first).world.readRules file second).outcome = .ok ()) :
    (store.readRules file (first ++ '\n' :: second)).outcome = .ok () ∧
      (store.readRules file (first ++ '\n' :: second)).world.unnumbered =
        ((store.readRules file first).world.readRules file second).world.unnumbered ∧
      (store.readRules file (first ++ '\n' :: second)).world.ids =
        ((store.readRules file first).world.readRules file second).world.ids := by
  rw [world_readRules] at alsoRead
  obtain ⟨result, joined, same⟩ :=
    Reading.all_joined (all_of_outcome isRead) (all_of_outcome alsoRead)
  have stores : (store.readRules file (first ++ '\n' :: second)).world.unnumbered =
      ((store.readRules file first).world.readRules file second).world.unnumbered := by
    rw [world_readRules, world_readRules, world_readRules, joined]
    exact same
  refine ⟨?_, stores, ids_congr stores⟩
  rw [outcome_readRules, joined]

/-- Rules that leave an instantiation open. -/
def openCellRules : Text := "Template: p.Cell\n\nInstantiation: #int\n- types: int".toList

/-- Rules that begin with a comment. -/
def commentedBoxRules : Text :=
  "# boxes\nTemplate: p.Box\n\nDerivation: #crate\n- name: Crate\n".toList

section

attribute [local instance] CharacterNames.signs

theorem readRules_joined_cell_box :
    (readRules [] [] openCellRules).outcome = .ok () ∧
    ((readRules [] [] openCellRules).world.readRules [] commentedBoxRules).outcome = .ok () ∧
    (readRules [] [] (openCellRules ++ '\n' :: commentedBoxRules)).outcome = .ok () ∧
    (readRules [] [] (openCellRules ++ '\n' :: commentedBoxRules)).world.unnumbered =
      ((readRules [] [] openCellRules).world.readRules [] commentedBoxRules).world.unnumbered ∧
    (readRules [] [] (openCellRules ++ '\n' :: commentedBoxRules)).world.map StoreEntry.line =
      [1, 6] ∧
    ((readRules [] [] openCellRules).world.readRules [] commentedBoxRules).world.map
      StoreEntry.line = [1, 2] := by
  have isRead : (readRules [] [] openCellRules).outcome = .ok () := by decide +kernel
  have alsoRead : ((readRules [] [] openCellRules).world.readRules [] commentedBoxRules).outcome =
      .ok () := by decide +kernel
  obtain ⟨joined, stores, -⟩ :=
    readRules_joined [] [] openCellRules commentedBoxRules isRead alsoRead
  exact ⟨isRead, alsoRead, joined, stores, by decide +kernel, by decide +kernel⟩

end

end Store

end Stencil
