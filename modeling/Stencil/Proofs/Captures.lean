/-
This file proves what a match can have captured and that the substitute of a stored rule never asks
for more. Running a node keeps the cursor inside its text, and only the groups of the node are
captured, each with a stretch of the text. A substitute that was read for a pattern refers to groups
of the pattern only, so it can be rendered for every match: a group that took no part gives nothing,
and there is no reference left that would give an error.

The rules of a store were read when they were stored. Hence applying one never meets a bad pattern
or a bad substitute, whatever the text; all that can happen is that nothing is found where a rule
enforces presence.
-/
import Stencil.Proofs.Refusals
import Stencil.Proofs.Escaping
import Stencil.Proofs.StoreExpansion

namespace Stencil

/-! ### Cursors inside a text -/

/-- A cursor is somewhere in a text, and what it has captured are stretches of the text, each for
one of some groups. -/
structure Cursor.Inside (text : Text) (groups : List Nat) (cursor : Cursor) : Prop where
  whole : cursor.behind.reverse ++ cursor.ahead = text
  captured : ∀ entry ∈ cursor.captures, entry.1 ∈ groups ∧ entry.2.text <:+: text

namespace Cursor.Inside

variable {text : Text} {groups : List Nat} {cursor : Cursor}

theorem step (inside : cursor.Inside text groups) {c : Char} {rest : Text}
    (faces : cursor.ahead = c :: rest) : (cursor.step c rest).Inside text groups where
  whole := by
    rw [← inside.whole, faces]
    simp [Cursor.step]
  captured := inside.captured

theorem back? {count : Nat} (inside : cursor.Inside text groups) {start : Cursor}
    (found : cursor.back? count = some start) : start.Inside text groups := by
  fun_induction Cursor.back? count cursor with
  | case1 cursor =>
    cases found
    exact inside
  | case2 => cases found
  | case3 count cursor c behind faces inductionHypothesis =>
    refine inductionHypothesis ⟨?_, inside.captured⟩ found
    rw [← inside.whole, faces]
    simp

theorem reopen (inside : cursor.Inside text groups) (group : Nat) :
    (cursor.reopen group).Inside text groups := by
  unfold Cursor.reopen
  split
  · split
    · exact ⟨inside.whole, fun entry mem => inside.captured entry (List.mem_filter.1 mem).1⟩
    · exact inside
  · exact inside

theorem record (inside : cursor.Inside text groups) {group : Nat} (isGroup : group ∈ groups)
    {start : Cursor} (started : start.Inside text groups) :
    (cursor.record group start).Inside text groups where
  whole := inside.whole
  captured entry mem := by
    rcases List.mem_cons.1 mem with rfl | earlier
    · refine ⟨isGroup, (List.take_prefix _ _).isInfix.trans ?_⟩
      rw [← started.whole]
      exact (List.suffix_append _ _).isInfix
    · exact inside.captured entry (List.mem_filter.1 earlier).1

theorem repeat? {fold : Fold} {again : Text} (inside : cursor.Inside text groups) {found : Cursor}
    (passed : cursor.repeat? fold again = some found) : found.Inside text groups := by
  fun_induction Cursor.repeat? fold again cursor with
  | case1 cursor =>
    cases passed
    exact inside
  | case2 => cases passed
  | case3 c again cursor d rest faces _ inductionHypothesis =>
    exact inductionHypothesis (inside.step faces) passed
  | case4 => cases passed

/-- A look around takes the captures of what it has found and stays where it was. -/
theorem lookAround {found : Cursor} (inside : cursor.Inside text groups)
    (seen : found.Inside text groups) :
    Cursor.Inside text groups { cursor with captures := found.captures } :=
  ⟨inside.whole, seen.captured⟩

end Cursor.Inside

/-! ### Runs -/

/-- A continuation that ends inside the text if it starts there. -/
def Continuation.Stays (text : Text) (groups : List Nat) (next : Continuation) : Prop :=
  ∀ cursor found, cursor.Inside text groups → next cursor = some found → found.Inside text groups

section Loops

variable {text : Text} {groups : List Nat}

theorem stays_greedyLoop {round : Continuation → Continuation} {next : Continuation}
    (rounds : ∀ next : Continuation, next.Stays text groups →
      Continuation.Stays text groups (round next))
    (stays : next.Stays text groups) (least : Nat) (most : Option Nat) (fuel count : Nat)
    (last : Option Nat) :
    Continuation.Stays text groups (greedyLoop round least most next fuel count last) := by
  induction fuel generalizing count last with
  | zero => exact stays
  | succ fuel inductionHypothesis =>
    intro cursor found inside ends
    rw [greedyLoop] at ends
    split at ends
    · exact rounds _ (inductionHypothesis _ _) cursor found inside ends
    · split at ends
      · split at ends
        · next another =>
          cases ends
          exact rounds _ (inductionHypothesis _ _) cursor _ inside another
        · exact stays cursor found inside ends
      · exact stays cursor found inside ends

theorem stays_reluctantLoop {round : Continuation → Continuation} {next : Continuation}
    (rounds : ∀ next : Continuation, next.Stays text groups →
      Continuation.Stays text groups (round next))
    (stays : next.Stays text groups) (least : Nat) (most : Option Nat) (fuel count : Nat)
    (last : Option Nat) :
    Continuation.Stays text groups (reluctantLoop round least most next fuel count last) := by
  induction fuel generalizing count last with
  | zero => exact stays
  | succ fuel inductionHypothesis =>
    intro cursor found inside ends
    rw [reluctantLoop] at ends
    split at ends
    · exact rounds _ (inductionHypothesis _ _) cursor found inside ends
    · split at ends
      · next stopped =>
        cases ends
        exact stays cursor _ inside stopped
      · split at ends
        · exact rounds _ (inductionHypothesis _ _) cursor found inside ends
        · cases ends

theorem stays_possessiveLoop {round : Continuation} (rounds : round.Stays text groups)
    (least : Nat) (most : Option Nat) (fuel count : Nat) (last : Option Nat) :
    Continuation.Stays text groups (possessiveLoop round least most fuel count last) := by
  induction fuel generalizing count last with
  | zero =>
    intro cursor found inside ends
    cases ends
    exact inside
  | succ fuel inductionHypothesis =>
    intro cursor found inside ends
    rw [possessiveLoop] at ends
    split at ends
    · split at ends
      · next another => exact inductionHypothesis _ _ _ _ (rounds cursor _ inside another) ends
      · cases ends
    · split at ends
      · split at ends
        · next another => exact inductionHypothesis _ _ _ _ (rounds cursor _ inside another) ends
        · cases ends
          exact inside
      · cases ends
        exact inside

end Loops

theorem Continuation.stays_some (text : Text) (groups : List Nat) :
    Continuation.Stays text groups some := by
  intro cursor found inside ends
  cases ends
  exact inside

/-- Running a node stays inside the text, and the only groups that it captures are its own. -/
theorem Node.stays_run (text : Text) (groups : List Nat) (node : Node)
    (own : node.groups ⊆ groups) {next : Continuation} (stays : next.Stays text groups) :
    Continuation.Stays text groups (node.run next) := by
  induction node generalizing next with
  | empty => exact stays
  | char test =>
    intro cursor found inside ends
    rw [run] at ends
    split at ends
    · cases ends
    · next c rest faces =>
      split at ends
      · exact stays _ found (inside.step faces) ends
      · cases ends
  | anchor place =>
    intro cursor found inside ends
    rw [run] at ends
    split at ends
    · exact stays cursor found inside ends
    · cases ends
  | seq first second firstHypothesis secondHypothesis =>
    obtain ⟨ownFirst, ownSecond⟩ := List.append_subset.1 own
    exact firstHypothesis ownFirst (secondHypothesis ownSecond stays)
  | alt first second firstHypothesis secondHypothesis =>
    obtain ⟨ownFirst, ownSecond⟩ := List.append_subset.1 own
    intro cursor found inside ends
    rw [run] at ends
    split at ends
    · next firstFound =>
      cases ends
      exact firstHypothesis ownFirst stays cursor _ inside firstFound
    · exact secondHypothesis ownSecond stays cursor found inside ends
  | capture group body inductionHypothesis =>
    obtain ⟨isGroup, ownBody⟩ := List.cons_subset.1 own
    intro cursor found inside ends
    refine inductionHypothesis ownBody ?_ _ found (inside.reopen group) ends
    exact fun stop found stopped ends => stays _ found (stopped.record isGroup inside) ends
  | loop greed least most body inductionHypothesis =>
    intro cursor found inside ends
    cases greed with
    | greedy =>
      exact stays_greedyLoop (fun _ => inductionHypothesis own) stays _ _ _ _ _ cursor found inside
        ends
    | reluctant =>
      exact stays_reluctantLoop (fun _ => inductionHypothesis own) stays _ _ _ _ _ cursor found
        inside ends
    | possessive =>
      simp only [run] at ends
      split at ends
      · next stop stopped =>
        refine stays stop found ?_ ends
        exact stays_possessiveLoop (inductionHypothesis own (Continuation.stays_some text groups))
          _ _ _ _ _ cursor stop inside stopped
      · cases ends
  | atomic body inductionHypothesis =>
    intro cursor found inside ends
    rw [run] at ends
    split at ends
    · next stop stopped =>
      refine stays stop found ?_ ends
      exact inductionHypothesis own (Continuation.stays_some text groups) cursor stop inside stopped
    · cases ends
  | ahead negated body inductionHypothesis =>
    intro cursor found inside ends
    rw [run] at ends
    split at ends
    · next seen isSeen =>
      split at ends
      · cases ends
      · refine stays _ found (inside.lookAround ?_) ends
        exact inductionHypothesis own (Continuation.stays_some text groups) cursor seen inside
          isSeen
    · split at ends
      · exact stays cursor found inside ends
      · cases ends
  | behind negated width body inductionHypothesis =>
    intro cursor found inside ends
    rw [run] at ends
    split at ends
    · split at ends
      · exact stays cursor found inside ends
      · cases ends
    · next start isStart =>
      split at ends
      · next seen isSeen =>
        split at ends
        · cases ends
        · refine stays _ found (inside.lookAround ?_) ends
          exact inductionHypothesis own (Continuation.stays_some text groups) start seen
            (inside.back? isStart) isSeen
      · split at ends
        · exact stays cursor found inside ends
        · cases ends
  | again fold group width =>
    intro cursor found inside ends
    rw [run] at ends
    split at ends
    · cases ends
    · split at ends
      · next passed => exact stays _ found (inside.repeat? passed) ends
      · cases ends
  | ifCaptured group yes no yesHypothesis noHypothesis =>
    obtain ⟨ownYes, ownNo⟩ := List.append_subset.1 own
    intro cursor found inside ends
    rw [run] at ends
    split at ends
    · exact yesHypothesis ownYes stays cursor found inside ends
    · exact noHypothesis ownNo stays cursor found inside ends

/-! ### Matches -/

namespace Pattern

/-- A match of the pattern somewhere in a text. -/
def Finds (pattern : Pattern) (text : Text) (found : Match) : Prop :=
  ∃ advance before after, text = before ++ after ∧
    pattern.matchAt advance before.reverse after before.length = some found

/-- The captures of a match are stretches of the text, each for a group of the pattern. -/
theorem Finds.captured {pattern : Pattern} {text : Text} {found : Match}
    (finds : pattern.Finds text found) :
    ∀ entry ∈ found.captures, entry.1 ∈ pattern.root.groups ∧ entry.2.text <:+: text := by
  obtain ⟨advance, before, after, split, isMatch⟩ := finds
  rw [matchAt] at isMatch
  split at isMatch
  · next stop ran =>
    cases isMatch
    refine (Node.stays_run text pattern.root.groups pattern.root (List.Subset.refl _) ?_ _ stop
      ⟨?_, ?_⟩ ran).captured
    · intro cursor found inside ends
      dsimp only at ends
      split at ends
      · cases ends
      · cases ends
        exact inside
    · rw [List.reverse_reverse, split]
    · intro entry mem
      cases mem
  · cases isMatch

theorem occursFrom_iff (pattern : Pattern) (behind ahead : Text) (offset : Nat) :
    pattern.occursFrom behind ahead offset = true ↔
      ∃ before after, ahead = before ++ after ∧
        (pattern.matchAt false (before.reverse ++ behind) after
          (offset + before.length)).isSome := by
  induction ahead generalizing behind offset with
  | nil =>
    rw [occursFrom]
    constructor
    · exact fun isSome => ⟨[], [], rfl, isSome⟩
    · rintro ⟨before, after, split, isSome⟩
      obtain ⟨rfl, rfl⟩ := List.append_eq_nil_iff.1 split.symm
      exact isSome
  | cons c rest inductionHypothesis =>
    rw [occursFrom, Bool.or_eq_true, inductionHypothesis]
    constructor
    · rintro (isSome | ⟨before, after, rfl, isSome⟩)
      · exact ⟨[], c :: rest, rfl, isSome⟩
      · refine ⟨c :: before, after, rfl, ?_⟩
        rwa [List.reverse_cons, List.append_assoc, List.length_cons, Nat.add_comm before.length,
          ← Nat.add_assoc]
    · rintro ⟨before, after, split, isSome⟩
      cases before with
      | nil =>
        cases split
        exact .inl isSome
      | cons d before =>
        cases split
        refine .inr ⟨before, after, rfl, ?_⟩
        rwa [List.reverse_cons, List.append_assoc, List.length_cons, Nat.add_comm before.length,
          ← Nat.add_assoc] at isSome

/-- A pattern occurs in a text where it matches at some place. -/
theorem occursIn_eq_false_iff (pattern : Pattern) (text : Text) :
    pattern.occursIn text = false ↔
      ∀ before after, text = before ++ after →
        pattern.matchAt false before.reverse after before.length = none := by
  rw [← Bool.not_eq_true, occursIn, occursFrom_iff]
  simp

/-- The text of a group that a pattern has, empty if it took no part; the whole match is group
zero. -/
def groupText? (pattern : Pattern) (found : Match) (group : Nat) : Option Text :=
  if group = 0 then some found.text
  else if group ∈ pattern.root.groups then
    some (((found.captures.lookup group).map Capture.text).getD [])
  else none

theorem groupText?_eq {pattern : Pattern}
    (numbered : ∀ group, group ∈ pattern.root.groups ↔ 1 ≤ group ∧ group ≤ pattern.groupCount)
    {group : Nat} (within : group ≤ pattern.groupCount) (found : Match) :
    pattern.groupText? found group = some (found.groupText group) := by
  unfold groupText? Match.groupText
  by_cases isWhole : group = 0
  · rw [if_pos isWhole, if_pos isWhole]
  · have isGroup := (numbered group).2 ⟨Nat.pos_of_ne_zero isWhole, within⟩
    rw [if_neg isWhole, if_pos isGroup, if_neg isWhole]
    cases found.captures.lookup group <;> rfl

end Pattern

/-- What a part of a substitute gives for a match, if the group that it refers to exists. -/
def SubstitutePart.text? (pattern : Pattern) (found : Match) : SubstitutePart → Option Text
  | .text stretch => some stretch
  | .group number => pattern.groupText? found number

theorem SubstitutePart.Within.text?_eq {pattern : Pattern} {part : SubstitutePart}
    (within : part.Within pattern)
    (numbered : ∀ group, group ∈ pattern.root.groups ↔ 1 ≤ group ∧ group ≤ pattern.groupCount)
    (found : Match) : part.text? pattern found = some (Substitute.render [part] found) := by
  cases part with
  | text stretch => rw [Substitute.render, List.flatMap_singleton, SubstitutePart.text?]
  | group number =>
    rw [Substitute.render, List.flatMap_singleton]
    exact Pattern.groupText?_eq numbered within found

namespace Substitute

/-- What replaces a match, if all groups that are referred to exist. -/
def render? (pattern : Pattern) (substitute : Substitute) (found : Match) : Option Text :=
  (substitute.mapM (SubstitutePart.text? pattern found)).map List.flatten

theorem render?_eq {pattern : Pattern} {substitute : Substitute}
    (numbered : ∀ group, group ∈ pattern.root.groups ↔ 1 ≤ group ∧ group ≤ pattern.groupCount)
    (within : ∀ part ∈ substitute, part.Within pattern) (found : Match) :
    substitute.render? pattern found = some (substitute.render found) := by
  have all : substitute.mapM (SubstitutePart.text? pattern found) =
      some (substitute.map fun part => render [part] found) := by
    induction substitute with
    | nil => rfl
    | cons part substitute inductionHypothesis =>
      rw [List.mapM_cons, (within part List.mem_cons_self).text?_eq numbered found,
        inductionHypothesis fun part mem => within part (List.mem_cons_of_mem _ mem)]
      rfl
  rw [render?, all, Option.map_some, ← List.flatMap_def, render]
  simp only [render, List.flatMap_singleton]

end Substitute

/-! ### Rules of a store -/

/-- Applying a rule that can be read. -/
theorem Rule.applyPattern_of_readable [CharacterNames] {rule : Rule} {pattern : Pattern}
    {substitute : Substitute} (patternRead : Pattern.ofText rule.pattern = .ok pattern)
    (substituteRead : Substitute.ofText pattern rule.substitute = .ok substitute)
    (owner text : Text) :
    rule.applyPattern owner text =
      if rule.enforced = true ∧ pattern.occursIn text = false then
        .error (.failure (.patternNotFound owner rule.pattern))
      else .ok (pattern.replaceAll substitute.render text) := by
  unfold applyPattern
  rw [patternRead]
  by_cases occurs : pattern.occursIn text = true
  · simp [occurs, substituteRead]
  · rw [Bool.not_eq_true] at occurs
    by_cases enforced : rule.enforced = true
    · simp [occurs, enforced]
    · simp [occurs, enforced, Pattern.replaceAll_of_not_occursIn]

namespace Store

/-- A pattern rule of a store can be applied to every text. It has been read, so that there is a
pattern and a substitute; whatever match there is, in it only groups of the pattern have captured,
and all groups that the substitute refers to exist. So the matches are replaced, and the only error
is that a rule that enforces presence matches nowhere. -/
theorem pattern_rules_apply [CharacterNames] (calls : List (Text × Text)) {entry : StoreEntry}
    (stored : entry ∈ ofRules calls) {subordinate : Subordinate}
    (declared : subordinate ∈ entry.subordinates) {rule : Rule} (given : rule ∈ subordinate.rules)
    (isRegex : rule.isRegex = true) (owner text : Text) :
    ∃ pattern substitute, Pattern.ofText rule.pattern = .ok pattern ∧
      Substitute.ofText pattern rule.substitute = .ok substitute ∧
      (∀ found, pattern.Finds text found →
        (∀ entry ∈ found.captures, entry.1 ∈ pattern.root.groups ∧ entry.2.text <:+: text) ∧
        substitute.render? pattern found = some (substitute.render found)) ∧
      (rule.apply owner text = .ok (pattern.replaceAll substitute.render text) ∨
        rule.apply owner text = .error (.failure (.patternNotFound owner rule.pattern))) ∧
      (rule.apply owner text = .error (.failure (.patternNotFound owner rule.pattern)) ↔
        rule.enforced = true ∧ ∀ before after, text = before ++ after →
          pattern.matchAt false before.reverse after before.length = none) := by
  have sound :=
    ((sound_ofRules calls).subordinates entry stored subordinate declared).rules rule given
  obtain ⟨pattern, substitute, patternRead, substituteRead⟩ := sound.readable isRegex
  have numbered := Pattern.readFrom_ofText rule.pattern
  rw [patternRead] at numbered
  have within := Substitute.readFor_ofText pattern rule.substitute
  rw [substituteRead] at within
  have applied : rule.apply owner text = _ :=
    (if_pos isRegex).trans (Rule.applyPattern_of_readable patternRead substituteRead owner text)
  refine ⟨pattern, substitute, patternRead, substituteRead, ?_, ?_, ?_⟩
  · intro found finds
    exact ⟨finds.captured, Substitute.render?_eq numbered within found⟩
  · rw [applied]
    split
    · exact .inr rfl
    · exact .inl rfl
  · rw [applied, ← Pattern.occursIn_eq_false_iff]
    split
    · next missing => exact ⟨fun _ => missing, fun _ => rfl⟩
    · next occurs =>
      refine ⟨fun same => ?_, fun missing => absurd missing occurs⟩
      cases same

/-- Rules with a pattern one of whose groups takes part in some matches only. -/
def hutchRules : Text :=
  "Template: p.Cage\n\nDerivation: #hutch\n- name: Hutch\n* (hen)|egg ~~> <\\1>\n".toList

/-- The rule that they give. -/
def hutchRule : Rule := ⟨"(hen)|egg".toList, "<\\1>".toList, true, true⟩

/-- The derivation that they declare. -/
def hutch : Subordinate :=
  ⟨"hutch".toList, true, .derivation, some "Hutch".toList, [hutchRule]⟩

/-- What they store. -/
def hutchEntry : StoreEntry where
  template := { Template.start "p.Cage".toList with committed := true }
  line := 1
  subordinates := [hutch]

section

attribute [local instance] CharacterNames.signs

/-- The group takes part in one of two matches, and in a third text there is no match. -/
theorem pattern_rules_apply_hutch :
    hutchEntry ∈ ofRules [([], hutchRules)] ∧
      (∃ pattern substitute, Pattern.ofText hutchRule.pattern = .ok pattern ∧
        "a <hen>, an <>".toList = pattern.replaceAll (Substitute.render substitute)
          "a hen, an egg".toList) ∧
      ∃ pattern, Pattern.ofText hutchRule.pattern = .ok pattern ∧
        ∀ before after, "a fox".toList = before ++ after →
          pattern.matchAt false before.reverse after before.length = none := by
  have stored : hutchEntry ∈ ofRules [([], hutchRules)] := by decide +kernel
  have applies := pattern_rules_apply [([], hutchRules)] stored (List.mem_singleton_self hutch)
    (List.mem_singleton_self hutchRule) rfl []
  have isReplaced : hutchRule.apply [] "a hen, an egg".toList = .ok "a <hen>, an <>".toList := by
    decide +kernel
  obtain ⟨pattern, substitute, patternRead, -, -, replaced | missing, -⟩ :=
    applies "a hen, an egg".toList
  · obtain ⟨other, -, otherRead, -, -, -, nowhere⟩ := applies "a fox".toList
    refine ⟨stored, ⟨pattern, substitute, patternRead, ?_⟩, other, otherRead, ?_⟩
    · exact Except.ok.inj (isReplaced.symm.trans replaced)
    · exact (nowhere.1 (by decide +kernel)).2
  · rw [isReplaced] at missing
    cases missing

end

end Store

end Stencil
