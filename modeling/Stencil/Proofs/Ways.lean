/-
This file proves what it means to run a node of a pattern. A node has ways to match at a place, in
the order in which they are tried, and running it with a continuation finds the first way that the
continuation accepts. A match is therefore the first way of the whole pattern, and what it is can be
told in two parts: which ways there are, and which of them comes first.

For nodes that only pass over characters, which ways there are is a matter of a language: a way leads
over each text of the language that stands ahead. Of the ways of a loop over one character the
longest comes first.
-/
import Mathlib.Computability.Language
import Stencil.Pattern.Match

namespace Stencil

open scoped Computability

/-! ### The ways of a node -/

/-- The ways of a loop that prefers another round. -/
def greedyWays (round : Cursor → List Cursor) (least : Nat) (most : Option Nat) :
    (fuel count : Nat) → (last : Option Nat) → Cursor → List Cursor
  | 0, _, _, cursor => [cursor]
  | fuel + 1, count, last, cursor =>
    if count < least then
      (round cursor).flatMap (greedyWays round least most fuel (count + 1) last)
    else if roomFor most count && last != some cursor.offset then
      (round cursor).flatMap (greedyWays round least most fuel (count + 1) (some cursor.offset)) ++
        [cursor]
    else [cursor]

/-- The ways of a loop that prefers to stop. -/
def reluctantWays (round : Cursor → List Cursor) (least : Nat) (most : Option Nat) :
    (fuel count : Nat) → (last : Option Nat) → Cursor → List Cursor
  | 0, _, _, cursor => [cursor]
  | fuel + 1, count, last, cursor =>
    if count < least then
      (round cursor).flatMap (reluctantWays round least most fuel (count + 1) last)
    else if roomFor most count && last != some cursor.offset then
      cursor ::
        (round cursor).flatMap
          (reluctantWays round least most fuel (count + 1) (some cursor.offset))
    else [cursor]

/-- The cursors behind all matches of a node at a cursor, in the order in which they are tried. -/
def Node.ways : Node → Cursor → List Cursor
  | .empty, cursor => [cursor]
  | .char test, cursor =>
    match cursor.ahead with
    | [] => []
    | c :: rest => if test.accepts c then [cursor.step c rest] else []
  | .anchor place, cursor => if place.holds cursor.behind cursor.ahead then [cursor] else []
  | .seq first second, cursor => (first.ways cursor).flatMap fun middle => second.ways middle
  | .alt first second, cursor => first.ways cursor ++ second.ways cursor
  | .capture group body, cursor =>
    (body.ways (cursor.reopen group)).map fun stop => stop.record group cursor
  | .loop greed least most body, cursor =>
    let bound := roundBound least cursor
    match greed with
    | .greedy => greedyWays (fun c => body.ways c) least most bound 0 none cursor
    | .reluctant => reluctantWays (fun c => body.ways c) least most bound 0 none cursor
    | .possessive =>
      (possessiveLoop (fun c => (body.ways c).head?) least most bound 0 none cursor).toList
  | .atomic body, cursor => (body.ways cursor).head?.toList
  | .ahead negated body, cursor =>
    match (body.ways cursor).head? with
    | some found => if negated then [] else [{ cursor with captures := found.captures }]
    | none => if negated then [cursor] else []
  | .behind negated width body, cursor =>
    match cursor.back? width.least with
    | none => if negated then [cursor] else []
    | some start =>
      match (body.ways start).head? with
      | some found => if negated then [] else [{ cursor with captures := found.captures }]
      | none => if negated then [cursor] else []
  | .again fold group _, cursor =>
    match cursor.captured? group with
    | none => []
    | some text => (cursor.repeat? fold text).toList
  | .ifCaptured group yes no, cursor =>
    if (cursor.captured? group).isSome then yes.ways cursor else no.ways cursor

theorem findSome?_flatMap {First Second Third : Type} (list : List First)
    (make : First → List Second) (test : Second → Option Third) :
    (list.flatMap make).findSome? test = list.findSome? fun item => (make item).findSome? test := by
  induction list with
  | nil => rfl
  | cons item list inductionHypothesis =>
    rw [List.flatMap_cons, List.findSome?_append, inductionHypothesis, List.findSome?_cons]
    cases (make item).findSome? test <;> rfl

theorem findSome?_some {Item : Type} (list : List Item) : list.findSome? some = list.head? := by
  cases list <;> rfl

theorem findSome?_toList {First Second : Type} (found : Option First)
    (test : First → Option Second) : found.toList.findSome? test = found.bind test := by
  cases found with
  | none => rfl
  | some item => exact List.findSome?_singleton

section

variable {round : Continuation → Continuation} {ways : Cursor → List Cursor}
  (finds : ∀ next cursor, round next cursor = (ways cursor).findSome? next)

include finds

theorem greedyLoop_eq_findSome? (least : Nat) (most : Option Nat) (next : Continuation)
    (fuel count : Nat) (last : Option Nat) (cursor : Cursor) :
    greedyLoop round least most next fuel count last cursor =
      (greedyWays ways least most fuel count last cursor).findSome? next := by
  induction fuel generalizing count last cursor with
  | zero => exact List.findSome?_singleton.symm
  | succ fuel inductionHypothesis =>
    have later (last : Option Nat) :
        greedyLoop round least most next fuel (count + 1) last = fun cursor =>
          (greedyWays ways least most fuel (count + 1) last cursor).findSome? next :=
      funext fun cursor => inductionHypothesis _ _ cursor
    rw [greedyLoop, greedyWays]
    split
    · rw [finds, findSome?_flatMap, later]
    · split
      · rw [finds, List.findSome?_append, findSome?_flatMap, List.findSome?_singleton, later]
        cases (ways cursor).findSome? _ <;> rfl
      · exact List.findSome?_singleton.symm

theorem reluctantLoop_eq_findSome? (least : Nat) (most : Option Nat) (next : Continuation)
    (fuel count : Nat) (last : Option Nat) (cursor : Cursor) :
    reluctantLoop round least most next fuel count last cursor =
      (reluctantWays ways least most fuel count last cursor).findSome? next := by
  induction fuel generalizing count last cursor with
  | zero => exact List.findSome?_singleton.symm
  | succ fuel inductionHypothesis =>
    have later (last : Option Nat) :
        reluctantLoop round least most next fuel (count + 1) last = fun cursor =>
          (reluctantWays ways least most fuel (count + 1) last cursor).findSome? next :=
      funext fun cursor => inductionHypothesis _ _ cursor
    rw [reluctantLoop, reluctantWays]
    split
    · rw [finds, findSome?_flatMap, later]
    · rw [finds, later]
      cases roomFor most count && last != some cursor.offset with
      | true =>
        rw [if_pos rfl, if_pos rfl, List.findSome?_cons, findSome?_flatMap]
        cases next cursor <;> rfl
      | false =>
        rw [if_neg Bool.false_ne_true, if_neg Bool.false_ne_true, List.findSome?_singleton]
        cases next cursor <;> rfl

end

/-- A sequence is its first node and then the rest of it. -/
theorem Node.ways_sequence_cons (node : Node) (nodes : List Node) (start : Cursor) :
    (Node.sequence (node :: nodes)).ways start =
      (node.ways start).flatMap (Node.sequence nodes).ways := by
  cases nodes with
  | nil => exact (List.flatMap_singleton' (node.ways start)).symm
  | cons second nodes => rfl

/-- The first round of a loop that needs one. -/
theorem Node.ways_loop_one (body : Node) (start : Cursor) :
    (Node.loop .greedy 1 none body).ways start =
      (body.ways start).flatMap
        (greedyWays body.ways 1 none (1 + start.ahead.length + 1) 1 none) := rfl

/-- Running a node finds the first of its ways that the continuation accepts. -/
theorem Node.run_eq_findSome? (node : Node) (next : Continuation) (cursor : Cursor) :
    node.run next cursor = (node.ways cursor).findSome? next := by
  have first {body : Node}
      (finds : ∀ next cursor, body.run next cursor = (body.ways cursor).findSome? next)
      (cursor : Cursor) : body.run some cursor = (body.ways cursor).head? := by
    rw [finds, findSome?_some]
  induction node generalizing next cursor with
  | empty => exact List.findSome?_singleton.symm
  | char test =>
    rw [run, ways]
    cases cursor.ahead with
    | nil => rfl
    | cons c rest =>
      dsimp only
      split
      · exact List.findSome?_singleton.symm
      · rfl
  | anchor place =>
    rw [run, ways]
    split
    · exact List.findSome?_singleton.symm
    · rfl
  | seq one two runsOne runsTwo =>
    rw [run, ways, runsOne, findSome?_flatMap]
    simp only [runsTwo]
  | alt one two runsOne runsTwo =>
    rw [run, ways, List.findSome?_append, runsOne, runsTwo]
    cases (one.ways cursor).findSome? next <;> rfl
  | capture group body runs =>
    rw [run, ways, runs, List.findSome?_map]
    rfl
  | loop greed least most body runs =>
    cases greed with
    | greedy => exact greedyLoop_eq_findSome? runs least most next _ _ _ cursor
    | reluctant => exact reluctantLoop_eq_findSome? runs least most next _ _ _ cursor
    | possessive =>
      simp only [run, ways, first runs, findSome?_toList]
      cases possessiveLoop (fun c => (body.ways c).head?) least most _ 0 none cursor <;> rfl
  | atomic body runs =>
    rw [run, ways, first runs, findSome?_toList]
    cases (body.ways cursor).head? <;> rfl
  | ahead negated body runs =>
    rw [run, ways, first runs]
    cases (body.ways cursor).head? <;> cases negated <;> simp
  | behind negated width body runs =>
    rw [run, ways]
    cases cursor.back? width.least with
    | none => cases negated <;> simp
    | some start =>
      dsimp only
      rw [first runs]
      cases (body.ways start).head? <;> cases negated <;> simp
  | again fold group width =>
    rw [run, ways]
    cases cursor.captured? group with
    | none => rfl
    | some text =>
      dsimp only
      rw [findSome?_toList]
      cases cursor.repeat? fold text <;> rfl
  | ifCaptured group yes no runsYes runsNo =>
    rw [run, ways]
    split
    · exact runsYes next cursor
    · exact runsNo next cursor

/-- The match at a place is the first way of the pattern. -/
theorem Pattern.matchAt_eq_head? (pattern : Pattern) (behind ahead : Text) (offset : Nat) :
    pattern.matchAt false behind ahead offset =
      ((pattern.root.ways ⟨behind, ahead, offset, []⟩).head?).map fun stop =>
        ⟨ahead.take (stop.offset - offset), stop.captures⟩ := by
  have accepted : (fun cursor : Cursor =>
      if (false && cursor.offset == offset) = true then none else some cursor) = some := rfl
  rw [matchAt, accepted, Node.run_eq_findSome?, findSome?_some]
  cases (pattern.root.ways ⟨behind, ahead, offset, []⟩).head? <;> rfl

/-! ### Passing over texts -/

namespace Cursor

/-- The cursor behind a text that stands ahead, where `rest` is what follows. -/
def pass (cursor : Cursor) (text rest : Text) : Cursor :=
  { cursor with
    behind := text.reverse ++ cursor.behind, ahead := rest, offset := cursor.offset + text.length }

theorem pass_nil {cursor : Cursor} {rest : Text} (same : cursor.ahead = rest) :
    cursor.pass [] rest = cursor := by
  cases same
  rfl

theorem pass_pass (cursor : Cursor) (first second middle rest : Text) :
    (cursor.pass first middle).pass second rest = cursor.pass (first ++ second) rest := by
  simp [pass, Nat.add_assoc]

theorem step_eq_pass (cursor : Cursor) (c : Char) (rest : Text) :
    cursor.step c rest = cursor.pass [c] rest := rfl

end Cursor

/-! ### Languages -/

/-- Ways from a place lead over the texts of a language, and over nothing else. -/
def Leads (ways : Cursor → List Cursor) (start : Cursor) (language : Language Char) : Prop :=
  ∀ stop, stop ∈ ways start ↔
    ∃ text ∈ language, ∃ rest, start.ahead = text ++ rest ∧ stop = start.pass text rest

/-- The ways of a node lead over the texts of a language, wherever it is run. -/
def Node.Spells (node : Node) (language : Language Char) : Prop :=
  ∀ start, Leads node.ways start language

theorem CharTest.accepts_exactly (c : Char) :
    CharTest.accepts (.literal .exact false c.toNat) = (· == c) := by
  funext d
  simp [accepts, Fold.peers, Fold.apply, Char.toNat_inj, beq_eq_decide]

/-- The single characters that pass a test. -/
def CharTest.language (test : CharTest) : Language Char :=
  {text | ∃ c, test.accepts c = true ∧ text = [c]}

/-- Any number of characters that pass a test. -/
theorem CharTest.mem_kstar_language {test : CharTest} {text : Text} :
    text ∈ test.language∗ ↔ ∀ c ∈ text, test.accepts c = true := by
  rw [Language.mem_kstar]
  constructor
  · rintro ⟨texts, rfl, each⟩ c member
    obtain ⟨one, among, inside⟩ := List.mem_flatten.mp member
    obtain ⟨d, accepted, rfl⟩ := each one among
    exact List.mem_singleton.mp inside ▸ accepted
  · intro accepted
    refine ⟨text.map fun c => [c], (List.flatMap_singleton' text).symm, fun one among => ?_⟩
    obtain ⟨c, member, rfl⟩ := List.mem_map.mp among
    exact ⟨c, accepted c member, rfl⟩

theorem CharTest.nil_not_mem_language (test : CharTest) : [] ∉ test.language := by
  rintro ⟨c, -, none⟩
  cases none

section

variable {L M : Language Char}

/-- One way after another. -/
theorem Leads.flatMap {first second : Cursor → List Cursor} {start : Cursor}
    (leads : Leads first start L)
    (leadsOn : ∀ one ∈ L, ∀ middle, start.ahead = one ++ middle →
      Leads second (start.pass one middle) M) :
    Leads (fun cursor => (first cursor).flatMap second) start (L * M) := by
  intro stop
  rw [List.mem_flatMap]
  constructor
  · rintro ⟨middle, here, there⟩
    obtain ⟨one, inFirst, ahead, whole, rfl⟩ := (leads middle).mp here
    obtain ⟨two, inSecond, rest, split, rfl⟩ := (leadsOn one inFirst ahead whole stop).mp there
    refine ⟨one ++ two, Language.mem_mul.mpr ⟨one, inFirst, two, inSecond, rfl⟩, rest, ?_,
      start.pass_pass one two _ rest⟩
    rw [whole, List.append_assoc]
    exact congrArg (one ++ ·) split
  · rintro ⟨text, member, rest, whole, rfl⟩
    obtain ⟨one, inFirst, two, inSecond, rfl⟩ := Language.mem_mul.mp member
    rw [List.append_assoc] at whole
    refine ⟨start.pass one (two ++ rest), (leads _).mpr ⟨one, inFirst, _, whole, rfl⟩, ?_⟩
    exact (leadsOn one inFirst _ whole _).mpr
      ⟨two, inSecond, rest, rfl, (start.pass_pass one two _ rest).symm⟩

theorem Node.Spells.seq {first second : Node} (spells : first.Spells L)
    (spellsNext : second.Spells M) : (Node.seq first second).Spells (L * M) :=
  fun start => (spells start).flatMap fun _ _ _ _ => spellsNext _

theorem Node.spells_char (test : CharTest) : (Node.char test).Spells test.language := by
  intro start stop
  rw [ways]
  cases ahead : start.ahead with
  | nil =>
    refine iff_of_false List.not_mem_nil ?_
    rintro ⟨text, ⟨c, -, rfl⟩, rest, whole, -⟩
    cases whole
  | cons c rest =>
    dsimp only
    constructor
    · intro member
      split at member
      · next accepted =>
        exact ⟨[c], ⟨c, accepted, rfl⟩, rest, rfl, List.mem_singleton.mp member⟩
      · cases member
    · rintro ⟨text, ⟨d, accepted, rfl⟩, later, whole, rfl⟩
      obtain ⟨rfl, rfl⟩ := List.cons.inj whole
      rw [if_pos accepted]
      exact List.mem_singleton.mpr rfl

variable {body : Node} (spells : body.Spells L) (taking : [] ∉ L)

include spells taking

/-- A loop whose rounds all take characters, once it has had the rounds that it needs. Each round
moves on, so that none is refused for standing still and the bound is not reached. -/
theorem leads_greedyWays {least : Nat} (fuel count : Nat) (rounds : least ≤ count)
    (last : Option Nat) (start : Cursor) (enough : start.ahead.length < fuel)
    (moved : last ≠ some start.offset) :
    Leads (greedyWays body.ways least none fuel count last) start (L∗) := by
  induction fuel generalizing count last start with
  | zero => exact absurd enough (Nat.not_lt_zero _)
  | succ fuel inductionHypothesis =>
    have goesOn : (roomFor none count && last != some start.offset) = true := by
      rw [roomFor, Bool.true_and, bne_iff_ne]
      exact moved
    have round : Leads
        (fun cursor => (body.ways cursor).flatMap
          (greedyWays body.ways least none fuel (count + 1) (some start.offset)))
        start (L * L∗) := by
      refine (spells start).flatMap fun one inLanguage rest whole => ?_
      have taken : one ≠ [] := fun none => taking (none ▸ inLanguage)
      have positive := List.length_pos_of_ne_nil taken
      have shorter := congrArg List.length whole
      rw [List.length_append] at shorter
      refine inductionHypothesis (count + 1) (Nat.le_succ_of_le rounds) _ _ ?_ ?_
      · show rest.length < fuel
        omega
      · simp only [Cursor.pass, ne_eq, Option.some.injEq]
        omega
    have language (text : Text) : text ∈ L∗ ↔ text = [] ∨ text ∈ L * L∗ := by
      nth_rewrite 1 [← Language.one_add_self_mul_kstar_eq_kstar]
      exact Iff.rfl
    intro stop
    rw [greedyWays, if_neg (Nat.not_lt.mpr rounds), if_pos goesOn, List.mem_append, round stop,
      List.mem_singleton]
    constructor
    · rintro (⟨text, member, further⟩ | rfl)
      · exact ⟨text, (language text).mpr (Or.inr member), further⟩
      · exact ⟨[], (language []).mpr (Or.inl rfl), _, rfl, rfl⟩
    · rintro ⟨text, member, rest, whole, rfl⟩
      obtain rfl | taken := (language text).mp member
      · rw [List.nil_append] at whole
        exact Or.inr (Cursor.pass_nil whole)
      · exact Or.inl ⟨text, taken, rest, whole, rfl⟩

/-- A loop spells any number of texts of its body. -/
theorem Node.Spells.loop : (Node.loop .greedy 0 none body).Spells (L∗) := fun start =>
  leads_greedyWays spells taking _ 0 (Nat.le_refl 0) none start (by rw [roundBound]; omega)
    (Option.some_ne_none _).symm

end

/-! ### Runs of characters -/

/-- The cursor behind the longest run of characters of a kind. -/
def Cursor.passWhile (cursor : Cursor) (inClass : Char → Bool) : Cursor :=
  cursor.pass (cursor.ahead.takeWhile inClass) (cursor.ahead.dropWhile inClass)

/-- A character of a kind is next. -/
def Cursor.Faces (cursor : Cursor) (inClass : Char → Bool) : Prop :=
  ∃ c rest, cursor.ahead = c :: rest ∧ inClass c = true

theorem Cursor.Faces.mono {cursor : Cursor} {inClass other : Char → Bool}
    (faces : cursor.Faces inClass) (within : ∀ c, inClass c = true → other c = true) :
    cursor.Faces other := by
  obtain ⟨c, rest, ahead, passes⟩ := faces
  exact ⟨c, rest, ahead, within c passes⟩

theorem Cursor.faces_iff {cursor : Cursor} {inClass : Char → Bool} :
    cursor.Faces inClass ↔ cursor.ahead.takeWhile inClass ≠ [] := by
  rw [Faces]
  cases cursor.ahead with
  | nil => simp
  | cons c rest => by_cases passes : inClass c = true <;> simp [passes]

theorem Cursor.not_faces_iff {cursor : Cursor} {inClass : Char → Bool} :
    ¬ cursor.Faces inClass ↔ ∀ c, cursor.ahead.head? = some c → inClass c = false := by
  rw [Faces]
  cases cursor.ahead with
  | nil => simp
  | cons c rest => simp

theorem Cursor.passWhile_of_faces {cursor : Cursor} {inClass : Char → Bool} {c : Char} {rest : Text}
    (ahead : cursor.ahead = c :: rest) (passes : inClass c = true) :
    cursor.passWhile inClass = (cursor.step c rest).passWhile inClass := by
  rw [step_eq_pass, passWhile, passWhile, pass_pass, ahead, List.takeWhile_cons_of_pos passes,
    List.dropWhile_cons_of_pos passes]
  rfl

theorem Cursor.passWhile_of_not_faces {cursor : Cursor} {inClass : Char → Bool}
    (stops : ¬ cursor.Faces inClass) : cursor.passWhile inClass = cursor := by
  cases ahead : cursor.ahead with
  | nil =>
    rw [passWhile, ahead]
    exact pass_nil ahead
  | cons c rest =>
    have fails : ¬ inClass c = true := fun passes => stops ⟨c, rest, ahead, passes⟩
    rw [passWhile, ahead, List.takeWhile_cons_of_neg fails, List.dropWhile_cons_of_neg fails]
    exact pass_nil ahead

theorem Cursor.not_faces_passWhile (cursor : Cursor) (inClass : Char → Bool) :
    ¬ (cursor.passWhile inClass).Faces inClass := by
  rintro ⟨c, rest, ahead, passes⟩
  have stops := List.head?_dropWhile_not inClass cursor.ahead
  rw [show cursor.ahead.dropWhile inClass = c :: rest from ahead] at stops
  simp [passes] at stops

/-- The first way passes over the longest run of characters of a kind; every other one stops before
such a character. -/
def LongestFirst (inClass : Char → Bool) (start : Cursor) (ways : List Cursor) : Prop :=
  ∃ shorter, ways = start.passWhile inClass :: shorter ∧ ∀ stop ∈ shorter, stop.Faces inClass

namespace LongestFirst

variable {inClass : Char → Bool} {start : Cursor} {ways : List Cursor}

theorem head?_eq (longest : LongestFirst inClass start ways) :
    ways.head? = some (start.passWhile inClass) := by
  obtain ⟨shorter, rfl, -⟩ := longest
  rfl

/-- What cannot begin with a character of the kind follows the longest run only. -/
theorem flatMap_eq (longest : LongestFirst inClass start ways) {next : Cursor → List Cursor}
    (stops : ∀ stop, stop.Faces inClass → next stop = []) :
    ways.flatMap next = next (start.passWhile inClass) := by
  obtain ⟨shorter, rfl, faces⟩ := longest
  rw [List.flatMap_cons, List.flatMap_eq_nil_iff.mpr fun stop member => stops stop (faces stop member),
    List.append_nil]

end LongestFirst

namespace Node

variable {inClass : Char → Bool} {test : CharTest}

theorem ways_char_of_faces {start : Cursor} {c : Char} {rest : Text} (ahead : start.ahead = c :: rest)
    (passes : test.accepts c = true) : (Node.char test).ways start = [start.step c rest] := by
  rw [ways, ahead]
  exact if_pos passes

theorem ways_char_of_not_faces {start : Cursor} (stops : ¬ start.Faces test.accepts) :
    (Node.char test).ways start = [] := by
  rw [ways]
  cases ahead : start.ahead with
  | nil => rfl
  | cons c rest => exact if_neg fun passes => stops ⟨c, rest, ahead, passes⟩

theorem ways_exactly {start : Cursor} {c : Char} {rest : Text} (ahead : start.ahead = c :: rest) :
    (exactly c).ways start = [start.step c rest] :=
  ways_char_of_faces ahead (by rw [CharTest.accepts_exactly]; exact beq_self_eq_true c)

theorem ways_exactly_of_not_faces {start : Cursor} {c : Char} (stops : ¬ start.Faces (· == c)) :
    (exactly c).ways start = [] :=
  ways_char_of_not_faces (by rwa [CharTest.accepts_exactly])

/-- Literal characters match the text that they spell and nothing else. -/
theorem ways_literals (text : Text) (nodes : List Node) (start : Cursor) :
    (Node.sequence (text.map exactly ++ nodes)).ways start =
      match Text.after? text start.ahead with
      | some rest => (Node.sequence nodes).ways (start.pass text rest)
      | none => [] := by
  induction text generalizing start with
  | nil => rw [Text.after?]; exact congrArg _ (Cursor.pass_nil rfl).symm
  | cons c text inductionHypothesis =>
    rw [List.map_cons, List.cons_append, ways_sequence_cons]
    by_cases faces : start.Faces (· == c)
    · obtain ⟨d, rest, ahead, same⟩ := faces
      cases beq_iff_eq.mp same
      rw [ways_exactly ahead, List.flatMap_singleton, inductionHypothesis, ahead, Text.after?,
        if_pos rfl]
      cases after : Text.after? text rest with
      | none => simp only [Cursor.step, after]
      | some later =>
        simp only [Cursor.step, after]
        exact congrArg _ (start.pass_pass [c] text rest later)
    · rw [ways_exactly_of_not_faces faces]
      cases ahead : start.ahead with
      | nil => rfl
      | cons d rest =>
        have differs : c ≠ d := fun same => faces ⟨d, rest, ahead, by simp [same]⟩
        rw [Text.after?, if_neg differs]
        rfl

theorem longestFirst_greedyWays (test : CharTest) {least : Nat} (fuel count : Nat)
    (rounds : least ≤ count) (last : Option Nat) (start : Cursor)
    (enough : start.ahead.length < fuel) (moved : last ≠ some start.offset) :
    LongestFirst test.accepts start
      (greedyWays (Node.char test).ways least none fuel count last start) := by
  induction fuel generalizing count last start with
  | zero => exact absurd enough (Nat.not_lt_zero _)
  | succ fuel inductionHypothesis =>
    have goesOn : (roomFor none count && last != some start.offset) = true := by
      rw [roomFor, Bool.true_and, bne_iff_ne]
      exact moved
    rw [greedyWays, if_neg (Nat.not_lt.mpr rounds), if_pos goesOn]
    by_cases faces : start.Faces test.accepts
    · obtain ⟨c, rest, ahead, passes⟩ := faces
      have shorter : rest.length < fuel := by
        rw [ahead, List.length_cons] at enough
        omega
      obtain ⟨others, same, stops⟩ := inductionHypothesis (count + 1) (Nat.le_succ_of_le rounds)
        (some start.offset) (start.step c rest) shorter (by simp [Cursor.step])
      rw [ways_char_of_faces ahead passes, List.flatMap_singleton, same, LongestFirst,
        Cursor.passWhile_of_faces ahead passes]
      refine ⟨others ++ [start], rfl, List.forall_mem_append.mpr ⟨stops, ?_⟩⟩
      exact List.forall_mem_singleton.mpr ⟨c, rest, ahead, passes⟩
    · rw [ways_char_of_not_faces faces, LongestFirst, Cursor.passWhile_of_not_faces faces]
      exact ⟨[], rfl, List.forall_mem_nil _⟩

theorem longestFirst_loop (test : CharTest) (start : Cursor) :
    LongestFirst test.accepts start ((Node.loop .greedy 0 none (.char test)).ways start) :=
  longestFirst_greedyWays test _ 0 (Nat.le_refl 0) none start (by rw [roundBound]; omega)
    (Option.some_ne_none _).symm

theorem longestFirst_loop_one {start : Cursor} (faces : start.Faces test.accepts) :
    LongestFirst test.accepts start ((Node.loop .greedy 1 none (.char test)).ways start) := by
  obtain ⟨c, rest, ahead, passes⟩ := faces
  have enough : rest.length < 1 + start.ahead.length + 1 := by
    rw [ahead, List.length_cons]
    omega
  have later := longestFirst_greedyWays test (1 + start.ahead.length + 1) 1
    (Nat.le_refl 1) none (start.step c rest) enough (Option.some_ne_none _).symm
  rw [ways_loop_one, ways_char_of_faces ahead passes, List.flatMap_singleton, LongestFirst,
    Cursor.passWhile_of_faces ahead passes]
  exact later

theorem ways_loop_one_of_not_faces {start : Cursor} (stops : ¬ start.Faces test.accepts) :
    (Node.loop .greedy 1 none (.char test)).ways start = [] := by
  rw [ways_loop_one, ways_char_of_not_faces stops]
  rfl

end Node

end Stencil
