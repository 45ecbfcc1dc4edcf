/-
This file proves that a search through a list passes over nothing. A search may go on one character
further where a pattern does not match. The patterns of lists of names and of types always match:
blanks, an item and the blanks behind it are taken together, a run that is no item of any other kind
is an invalid one, and so each match begins where the one before it has ended.

The search is compared with reading item by item: skip the blanks, take the item that the text begins
with, skip the blanks behind it, and go on. For types that item is told here; which alternative of the
pattern matches is settled by the character that the text begins with.
-/
import Mathlib.Data.List.DropRight
import Stencil.Pattern.Reader
import Stencil.Rules.Value
import Stencil.Proofs.Texts
import Stencil.Proofs.Ways

namespace Stencil

/-- Characters that are no blanks. -/
def isInk (c : Char) : Bool := !isBlank c

/-! ### Blanks before a text -/

namespace Text

theorem dropBlanks_eq_nil_iff {text : Text} : text.dropBlanks = [] ↔ text.isAllBlank = true := by
  rw [dropBlanks, List.dropWhile_eq_nil_iff, isAllBlank, List.all_eq_true]

theorem isBlank_of_dropBlanks {text rest : Text} {c : Char} (ink : text.dropBlanks = c :: rest) :
    isBlank c = false := by
  have stops := List.head?_dropWhile_not isBlank text
  rw [← dropBlanks, ink] at stops
  simpa using stops

theorem takeWhile_append_dropBlanks (text : Text) :
    text.takeWhile isBlank ++ text.dropBlanks = text := List.takeWhile_append_dropWhile

/-- A text and the blanks that it begins with. -/
theorem exists_dropBlanks (text : Text) :
    ∃ blanks, text = blanks ++ text.dropBlanks ∧ ∀ c ∈ blanks, isBlank c = true :=
  ⟨text.takeWhile isBlank, text.takeWhile_append_dropBlanks.symm,
    List.all_eq_true.mp List.all_takeWhile⟩

theorem dropBlanks_dropBlanks (text : Text) : text.dropBlanks.dropBlanks = text.dropBlanks :=
  List.dropWhile_idempotent isBlank text

end Text

/-! ### The characters of the patterns -/

namespace CharTest

theorem accepts_blank : accepts (.set .exact false [.cls ⟨.blank, false, false⟩]) = isBlank := by
  funext c
  simp [accepts, SetMember.accepts, CharClass.accepts, CharKind.holds]

theorem accepts_ink : accepts (.set .exact false [.cls ⟨.blank, true, false⟩]) = isInk := by
  funext c
  simp [accepts, SetMember.accepts, CharClass.accepts, CharKind.holds, isInk]

theorem accepts_other (c : Char) : accepts (.literal .exact true c.toNat) = (· != c) := by
  funext d
  simp [accepts, Fold.peers, Fold.apply, Char.toNat_inj, bne, beq_eq_decide]

end CharTest

/-! ### Item by item -/

section

variable {Item : Type}

/-- The items of a text from an offset on, where `next` takes the item that a text begins with, and
the blanks on both sides go with the item. -/
def itemsFrom (next : Text → Item × Text) : (fuel offset : Nat) → Text → List (Spanned Item)
  | 0, _, _ => []
  | fuel + 1, offset, text =>
    if text.dropBlanks.isEmpty then []
    else
      let (item, rest) := next text.dropBlanks
      let stop := offset + (text.length - rest.dropBlanks.length)
      ⟨offset, stop, item⟩ :: itemsFrom next fuel stop rest.dropBlanks

theorem itemsFrom_of_blank (next : Text → Item × Text) (fuel offset : Nat) {text : Text}
    (blank : text.dropBlanks = []) : itemsFrom next fuel offset text = [] := by
  cases fuel with
  | zero => rfl
  | succ fuel => rw [itemsFrom, blank]; rfl

theorem itemsFrom_of_ink (next : Text → Item × Text) (fuel offset : Nat) {text : Text}
    (ink : text.dropBlanks ≠ []) :
    itemsFrom next (fuel + 1) offset text =
      ⟨offset, offset + (text.length - (next text.dropBlanks).2.dropBlanks.length),
        (next text.dropBlanks).1⟩ ::
        itemsFrom next fuel (offset + (text.length - (next text.dropBlanks).2.dropBlanks.length))
          (next text.dropBlanks).2.dropBlanks := by
  rw [itemsFrom, if_neg (mt List.isEmpty_iff.mp ink)]

end

/-! ### Searching -/

namespace Pattern

variable (pattern : Pattern)

theorem findFrom_skip (taken behind rest : Text) (offset : Nat) :
    pattern.findFrom taken.length behind (taken ++ rest) offset =
      pattern.findFrom 0 (taken.reverse ++ behind) rest (offset + taken.length) := by
  induction taken generalizing behind offset with
  | nil => rfl
  | cons c taken inductionHypothesis =>
    rw [List.length_cons, List.cons_append, findFrom, inductionHypothesis]
    simp [Nat.add_comm, Nat.add_left_comm]

/-- A match that takes characters, and the search behind it. -/
theorem findFrom_of_match {behind taken rest : Text} {offset : Nat} {captures : List (Nat × Capture)}
    (nonempty : taken ≠ [])
    (found : pattern.matchAt false behind (taken ++ rest) offset = some ⟨taken, captures⟩) :
    pattern.findFrom 0 behind (taken ++ rest) offset =
      ⟨offset, offset + taken.length, ⟨taken, captures⟩⟩ ::
        pattern.findFrom 0 (taken.reverse ++ behind) rest (offset + taken.length) := by
  obtain ⟨c, taken, rfl⟩ := List.exists_cons_of_ne_nil nonempty
  have skipped := pattern.findFrom_skip (c :: taken) behind rest offset
  rw [List.length_cons, List.cons_append, findFrom] at skipped
  rw [List.cons_append] at found ⊢
  rw [findFrom, findHere, found]
  simpa using skipped

/-- Where nothing is left and nothing matches, the search ends. -/
theorem findFrom_nil {behind : Text} {offset : Nat}
    (none : pattern.matchAt false behind [] offset = none) :
    pattern.findFrom 0 behind [] offset = [] := by
  rw [findFrom, findHere, none]

end Pattern

namespace Cursor

theorem faces_isInk_iff {cursor : Cursor} :
    (cursor.passWhile isBlank).Faces isInk ↔ cursor.ahead.dropBlanks ≠ [] := by
  constructor
  · rintro ⟨c, rest, ahead, -⟩ none
    cases ahead.symm.trans none
  · intro inked
    obtain ⟨c, rest, ahead⟩ := List.exists_cons_of_ne_nil inked
    refine ⟨c, rest, ahead, ?_⟩
    by_contra blank
    exact cursor.not_faces_passWhile isBlank ⟨c, rest, ahead, by simpa [isInk] using blank⟩

theorem not_faces_isInk_of_blank {cursor : Cursor} (faces : cursor.Faces isBlank) :
    ¬ cursor.Faces isInk := by
  obtain ⟨c, rest, ahead, blank⟩ := faces
  rintro ⟨d, more, same, ink⟩
  cases ahead.symm.trans same
  simp [isInk, blank] at ink

end Cursor

/-! ### Captures and anchors -/

namespace Cursor

theorem behind_reopen (cursor : Cursor) (group : Nat) :
    (cursor.reopen group).behind = cursor.behind := by
  rw [reopen]
  split
  · split <;> rfl
  · rfl

theorem ahead_reopen (cursor : Cursor) (group : Nat) :
    (cursor.reopen group).ahead = cursor.ahead := by
  rw [reopen]
  split
  · split <;> rfl
  · rfl

theorem reopen_fresh {cursor : Cursor} (fresh : cursor.captures = []) (group : Nat) :
    cursor.reopen group = cursor := by
  rw [reopen, fresh]
  rfl

/-- The cursor behind a text that a group has taken, where no other group has taken any. -/
def take (cursor : Cursor) (group : Nat) (text rest : Text) : Cursor :=
  { cursor.pass text rest with
    captures := [(group, ⟨cursor.offset, cursor.offset + text.length, text⟩)] }

theorem record_pass {cursor : Cursor} (fresh : cursor.captures = []) {text rest : Text}
    (whole : cursor.ahead = text ++ rest) (group : Nat) :
    (cursor.pass text rest).record group cursor = cursor.take group text rest := by
  simp [record, take, pass, whole, fresh]

theorem record_passWhile {cursor : Cursor} (fresh : cursor.captures = []) (inClass : Char → Bool)
    (group : Nat) :
    (cursor.passWhile inClass).record group cursor =
      cursor.take group (cursor.ahead.takeWhile inClass) (cursor.ahead.dropWhile inClass) :=
  record_pass fresh List.takeWhile_append_dropWhile.symm group

end Cursor

namespace Node

theorem ways_capture {start : Cursor} (fresh : start.captures = []) (group : Nat) (body : Node) :
    (capture group body).ways start = (body.ways start).map (·.record group start) := by
  rw [ways, Cursor.reopen_fresh fresh]

/-- A run that a group takes. -/
theorem head?_capture_loop_one {test : CharTest} {start : Cursor} (fresh : start.captures = [])
    (faces : start.Faces test.accepts) (group : Nat) :
    ((capture group (.oneOrMore (.char test))).ways start).head? =
      some (start.take group (start.ahead.takeWhile test.accepts)
        (start.ahead.dropWhile test.accepts)) := by
  rw [ways_capture fresh, List.head?_map, oneOrMore, (longestFirst_loop_one faces).head?_eq,
    Option.map_some, Cursor.record_passWhile fresh]

theorem ways_capture_loop_one_of_not_faces {test : CharTest} {start : Cursor}
    (stops : ¬ start.Faces test.accepts) (group : Nat) :
    (capture group (.oneOrMore (.char test))).ways start = [] := by
  have reopened : ¬ (start.reopen group).Faces test.accepts := by
    rwa [Cursor.Faces, Cursor.ahead_reopen]
  rw [ways, oneOrMore, ways_loop_one_of_not_faces reopened]
  rfl

theorem ways_textStart_of_ne {start : Cursor} (behind : start.behind ≠ []) (group : Nat)
    (body : Node) : (capture group (.seq (.anchor .textStart) body)).ways start = [] := by
  have inside :
      ¬ Anchor.textStart.holds (start.reopen group).behind (start.reopen group).ahead = true := by
    rw [Cursor.behind_reopen]
    exact mt List.isEmpty_iff.mp behind
  rw [ways, ways, ways, if_neg inside]
  rfl

theorem ways_textStart (value : Text) (group : Nat) (body : Node) :
    (capture group (.seq (.anchor .textStart) body)).ways ⟨[], value, 0, []⟩ =
      (body.ways ⟨[], value, 0, []⟩).map (·.record group ⟨[], value, 0, []⟩) := by
  rw [ways_capture rfl, ways, ways]
  exact congrArg (List.map _) (List.flatMap_singleton ..)

end Node

/-! ### Items and the blanks around them -/

namespace Node

theorem longestFirst_blanks (start : Cursor) :
    LongestFirst isBlank start ((zeroOrMore blank).ways start) :=
  CharTest.accepts_blank ▸ longestFirst_loop _ start

/-- Blanks up to the end of the text. -/
theorem ways_blanks_textEnd (start : Cursor) :
    (Node.seq (.zeroOrMore .blank) (.anchor .textEnd)).ways start =
      if start.ahead.isAllBlank then [start.pass start.ahead []] else [] := by
  have atEnd (cursor : Cursor) : (anchor .textEnd).ways cursor =
      if cursor.ahead.isEmpty then [cursor] else [] := by
    rw [ways]
    rfl
  rw [ways, (longestFirst_blanks start).flatMap_eq fun stop faces => ?_, atEnd]
  · by_cases blank : start.ahead.dropBlanks = []
    · have whole := start.ahead.takeWhile_append_dropBlanks
      rw [blank, List.append_nil] at whole
      have ends : (start.passWhile isBlank) = start.pass start.ahead [] := by
        rw [Cursor.passWhile, ← Text.dropBlanks, blank, whole]
      rw [ends, if_pos (Text.dropBlanks_eq_nil_iff.mp blank)]
      rfl
    · rw [if_neg (mt Text.dropBlanks_eq_nil_iff.mpr blank)]
      exact if_neg (mt List.isEmpty_iff.mp blank)
  · obtain ⟨c, rest, ahead, -⟩ := faces
    rw [atEnd, ahead]
    rfl

theorem ways_allBlank_of_ne {start : Cursor} (behind : start.behind ≠ []) :
    allBlank.ways start = [] := ways_textStart_of_ne behind 1 _

theorem ways_allBlank (value : Text) :
    allBlank.ways ⟨[], value, 0, []⟩ =
      if value.isAllBlank then [Cursor.take ⟨[], value, 0, []⟩ 1 value []] else [] := by
  have anchored := ways_textStart value 1 (.seq (.zeroOrMore .blank) (.anchor .textEnd))
  rw [ways_blanks_textEnd] at anchored
  refine anchored.trans ?_
  split
  · exact congrArg ([·]) (Cursor.record_pass rfl (List.append_nil value).symm 1)
  · rfl

variable {Item : Type}

/-- The first way of a node takes an item and leaves a rest. -/
def FirstTakes (body : Node) (item : Match → Item) (start : Cursor) (read : Item × Text) : Prop :=
  ∃ taken captures, taken ≠ [] ∧ start.ahead = taken ++ read.2 ∧
    (body.ways start).head? = some { start.pass taken read.2 with captures := captures } ∧
    ∀ text, item ⟨text, captures⟩ = read.1

/-- A node matches where a text begins with ink, and nowhere else: its first way takes the item that
`next` takes. -/
structure Takes (body : Node) (item : Match → Item) (next : Text → Item × Text) : Prop where
  nowhere : ∀ start : Cursor, ¬ start.Faces isInk → body.ways start = []
  first : ∀ start : Cursor, start.captures = [] → start.Faces isInk →
    body.FirstTakes item start (next start.ahead)

/-- A run that one group has taken. -/
theorem FirstTakes.run {body : Node} {item : Match → Item} {start : Cursor} {inClass : Char → Bool}
    (faces : start.Faces inClass) (group : Nat)
    (first : (body.ways start).head? = some (start.take group (start.ahead.takeWhile inClass)
      (start.ahead.dropWhile inClass))) {read : Item}
    (isItem : ∀ text capture, capture.text = start.ahead.takeWhile inClass →
      item ⟨text, [(group, capture)]⟩ = read) :
    body.FirstTakes item start (read, start.ahead.dropWhile inClass) :=
  ⟨_, _, Cursor.faces_iff.mp faces, List.takeWhile_append_dropWhile.symm, first,
    fun text => isItem text _ rfl⟩

section

variable {body : Node} {item : Match → Item} {next : Text → Item × Text}
  (takes : body.Takes item next)

include takes

theorem Takes.ways_padded (start : Cursor) :
    (padded body).ways start =
      (body.ways (start.passWhile isBlank)).flatMap (zeroOrMore blank).ways := by
  have inside : (padded body).ways start = ((zeroOrMore blank).ways start).flatMap fun middle =>
      (body.ways middle).flatMap (zeroOrMore blank).ways := rfl
  rw [inside, (longestFirst_blanks start).flatMap_eq fun stop faces => ?_]
  rw [takes.nowhere stop (Cursor.not_faces_isInk_of_blank faces)]
  rfl

theorem Takes.ways_padded_of_blank {start : Cursor} (blank : start.ahead.dropBlanks = []) :
    (padded body).ways start = [] := by
  rw [takes.ways_padded, takes.nowhere _ (mt Cursor.faces_isInk_iff.mp (not_not_intro blank))]
  rfl

theorem Takes.head?_padded (start : Cursor) :
    ((padded body).ways start).head? =
      (body.ways (start.passWhile isBlank)).head?.map (·.passWhile isBlank) := by
  rw [takes.ways_padded, List.head?_flatMap]
  cases body.ways (start.passWhile isBlank) with
  | nil => rfl
  | cons stop stops => rw [List.findSome?_cons, (longestFirst_blanks stop).head?_eq]; rfl

/-- A match takes the blanks before an item, the item and the blanks behind it. -/
theorem Takes.exists_match {pattern : Pattern} {behind ahead : Text} {offset : Nat}
    (inside : pattern.root.ways ⟨behind, ahead, offset, []⟩ =
      (padded body).ways ⟨behind, ahead, offset, []⟩)
    (ink : ahead.dropBlanks ≠ []) :
    ∃ taken captures, taken ≠ [] ∧ ahead = taken ++ (next ahead.dropBlanks).2.dropBlanks ∧
      pattern.matchAt false behind ahead offset = some ⟨taken, captures⟩ ∧
      ∀ text, item ⟨text, captures⟩ = (next ahead.dropBlanks).1 := by
  let start : Cursor := ⟨behind, ahead, offset, []⟩
  obtain ⟨taken, captures, nonempty, split, first, read⟩ :=
    takes.first (start.passWhile isBlank) rfl (Cursor.faces_isInk_iff.mpr ink)
  have left : (start.passWhile isBlank).ahead = ahead.dropBlanks := rfl
  rw [left] at split first read
  let blanks := ahead.takeWhile isBlank
  let after := (next ahead.dropBlanks).2.takeWhile isBlank
  have whole : ahead = (blanks ++ taken ++ after) ++ (next ahead.dropBlanks).2.dropBlanks := by
    simp only [List.append_assoc]
    rw [Text.takeWhile_append_dropBlanks, ← split, Text.takeWhile_append_dropBlanks]
  refine ⟨blanks ++ taken ++ after, captures, by simp [nonempty], whole, ?_, read⟩
  rw [pattern.matchAt_eq_head?, inside, takes.head?_padded, first]
  have length : offset + blanks.length + taken.length + after.length - offset =
      (blanks ++ taken ++ after).length := by
    simp only [List.length_append]
    omega
  refine congrArg some (congrArg (Match.mk · captures) ?_)
  show ahead.take (offset + blanks.length + taken.length + after.length - offset) = _
  rw [length]
  conv => lhs; rw [whole]
  exact List.take_left

variable {pattern : Pattern} (inside : ∀ cursor : Cursor, cursor.behind ≠ [] →
  pattern.root.ways cursor = (padded body).ways cursor)

include inside

/-- Behind a match that has taken the blanks too, the search goes on item by item. -/
theorem Takes.findFrom_eq (fuel : Nat) {behind ahead : Text} (offset : Nat)
    (enough : ahead.length < fuel) (notBlank : ahead.dropBlanks = [] → ahead = [])
    (here : pattern.root.ways ⟨behind, ahead, offset, []⟩ =
      (padded body).ways ⟨behind, ahead, offset, []⟩) :
    (pattern.findFrom 0 behind ahead offset).map (·.map item) =
      itemsFrom next fuel offset ahead := by
  induction fuel generalizing behind ahead offset with
  | zero => exact absurd enough (Nat.not_lt_zero _)
  | succ fuel inductionHypothesis =>
    by_cases blank : ahead.dropBlanks = []
    · have none : pattern.matchAt false behind ahead offset = none := by
        rw [pattern.matchAt_eq_head?, here, takes.ways_padded_of_blank blank]
        rfl
      rw [itemsFrom_of_blank _ _ _ blank]
      rw [notBlank blank] at none ⊢
      rw [pattern.findFrom_nil none]
      rfl
    · obtain ⟨taken, captures, nonempty, whole, found, read⟩ := takes.exists_match here blank
      rw [itemsFrom_of_ink _ _ _ blank, ← read taken]
      generalize (next ahead.dropBlanks).2 = rest at whole ⊢
      rw [whole] at found enough ⊢
      have positive := List.length_pos_of_ne_nil nonempty
      rw [List.length_append] at enough
      have stretch : (taken ++ rest.dropBlanks).length - rest.dropBlanks.length = taken.length := by
        rw [List.length_append]
        omega
      have behindMatch : taken.reverse ++ behind ≠ [] := by simp [nonempty]
      rw [pattern.findFrom_of_match nonempty found, stretch, List.map_cons,
        inductionHypothesis _ (by omega) ?_ (inside _ behindMatch)]
      · rfl
      · rw [Text.dropBlanks_dropBlanks]
        exact id

/-- Where the first way takes all of a text, its match is the only one. -/
theorem Takes.findAll_of_whole {value : Text} (nonempty : value ≠ []) (group : Nat)
    (first : (pattern.root.ways ⟨[], value, 0, []⟩).head? =
      some (Cursor.take ⟨[], value, 0, []⟩ group value [])) :
    pattern.findAll value =
      [⟨0, value.length, ⟨value, [(group, ⟨0, value.length, value⟩)]⟩⟩] := by
  have found : pattern.matchAt false [] (value ++ []) 0 =
      some ⟨value, [(group, ⟨0, value.length, value⟩)]⟩ := by
    rw [List.append_nil, pattern.matchAt_eq_head?, first]
    simp [Cursor.take, Cursor.pass]
  have none : pattern.matchAt false value.reverse [] value.length = none := by
    rw [pattern.matchAt_eq_head?, inside _ (mt List.reverse_eq_nil_iff.mp nonempty),
      takes.ways_padded_of_blank rfl]
    rfl
  have searched := pattern.findFrom_of_match nonempty found
  rw [List.append_nil, List.append_nil, Nat.zero_add, pattern.findFrom_nil none] at searched
  exact searched

/-- Where no way but that of an item is left at the start, the matches are the items. -/
theorem Takes.findAll_eq {value : Text} (inked : ¬ value.isAllBlank = true)
    (start : pattern.root.ways ⟨[], value, 0, []⟩ = (padded body).ways ⟨[], value, 0, []⟩) :
    (pattern.findAll value).map (·.map item) = itemsFrom next (value.length + 1) 0 value :=
  takes.findFrom_eq inside _ 0 (Nat.lt_succ_self _)
    (fun blank => absurd (Text.dropBlanks_eq_nil_iff.mp blank) inked) start

end

end Node

/-! ### Lists of types -/

namespace TypeItem

/-- What stands between a quotation mark that has been taken and the next one. -/
def quoted? (mark : Char) (text : Text) : Option (Text × Text) :=
  let type := text.takeWhile (· != mark)
  match text.dropWhile (· != mark) with
  | _ :: rest => if type.isEmpty then none else some (type, rest)
  | [] => none

/-- A run without blanks that cannot be read, and what follows it. -/
def refused (text : Text) : TypeItem × Text :=
  (.invalid (text.takeWhile isInk), text.dropWhile isInk)

/-- Characters of types without quotation marks. -/
def isBareChar (c : Char) : Bool := isInk c && c != '"' && c != '\''

/-- The item at the front of a text that does not begin with a blank, and what follows it. -/
def next (text : Text) : TypeItem × Text :=
  match text with
  | '"' :: rest =>
    match quoted? '"' rest with
    | some (type, rest) => (.doubleQuoted type, rest)
    | none => refused text
  | '\'' :: rest =>
    match quoted? '\'' rest with
    | some (type, rest) => (.singleQuoted type, rest)
    | none => refused text
  | _ => (.bare (text.takeWhile isBareChar), text.dropWhile isBareChar)

theorem next_double (text : Text) :
    next ('"' :: text) = match quoted? '"' text with
      | some (type, rest) => (.doubleQuoted type, rest)
      | none => refused ('"' :: text) := rfl

theorem next_single (text : Text) :
    next ('\'' :: text) = match quoted? '\'' text with
      | some (type, rest) => (.singleQuoted type, rest)
      | none => refused ('\'' :: text) := rfl

theorem next_other {c : Char} (double : c ≠ '"') (single : c ≠ '\'') (text : Text) :
    next (c :: text) =
      (.bare ((c :: text).takeWhile isBareChar), (c :: text).dropWhile isBareChar) := by
  unfold next
  split
  · next same => exact absurd (List.cons.inj same).1 double
  · next same => exact absurd (List.cons.inj same).1 single
  · rfl

theorem eq_of_dropWhile_bne {mark first : Char} {text rest : Text}
    (dropped : text.dropWhile (· != mark) = first :: rest) : first = mark := by
  have stops := List.head?_dropWhile_not (· != mark) text
  rw [dropped] at stops
  simpa using stops

theorem quoted?_eq_some_iff {mark : Char} {text type rest : Text} :
    quoted? mark text = some (type, rest) ↔
      text = type ++ mark :: rest ∧ type ≠ [] ∧ mark ∉ type := by
  have differs {c : Char} : (c != mark) = true ↔ c ≠ mark := bne_iff_ne
  constructor
  · intro found
    have whole := List.takeWhile_append_dropWhile (p := (· != mark)) (l := text)
    have passed : ∀ c ∈ text.takeWhile (· != mark), (c != mark) = true :=
      List.all_eq_true.mp List.all_takeWhile
    have free : mark ∉ text.takeWhile (· != mark) :=
      fun member => differs.mp (passed mark member) rfl
    rw [quoted?] at found
    split at found
    · next first later dropped =>
      split at found
      · cases found
      · next nonempty =>
        obtain ⟨rfl, rfl⟩ := Prod.mk.inj (Option.some.inj found)
        refine ⟨?_, by simpa using nonempty, free⟩
        rw [eq_of_dropWhile_bne dropped] at dropped
        rw [← dropped, whole]
    · cases found
  · rintro ⟨rfl, nonempty, free⟩
    have passed : ∀ c ∈ type, (c != mark) = true :=
      fun c member => differs.mpr fun same => free (same ▸ member)
    have stops (c : Char) (first : (mark :: rest).head? = some c) : (c != mark) = false := by
      cases first
      exact bne_self_eq_false mark
    rw [quoted?, Text.takeWhile_append_of_stops passed stops,
      Text.dropWhile_append_of_stops passed stops]
    simp [nonempty]

theorem accepts_bare :
    CharTest.accepts (.set .exact true
      [.cls ⟨.blank, false, false⟩, .code '"'.toNat, .code '\''.toNat]) = isBareChar := by
  funext c
  have same (d : Char) : (c.toNat == d.toNat) = (c == d) := by
    rw [Bool.eq_iff_iff, beq_iff_eq, beq_iff_eq, Char.toNat_inj]
  simp only [CharTest.accepts, List.any_cons, List.any_nil, SetMember.accepts, CharClass.accepts,
    CharKind.holds, same, isBareChar, isInk, bne]
  cases isBlank c <;> cases c == '"' <;> cases c == '\'' <;> rfl

theorem quotedNode_eq (mark : Char) (group : Nat) :
    quotedNode mark group =
      .seq (.exactly mark) (.seq
        (.capture group (.oneOrMore (.char (.literal .exact true mark.toNat))))
        (.exactly mark)) := rfl

theorem ways_quotedNode_of_not_faces {start : Cursor} {mark : Char}
    (stops : ¬ start.Faces (· == mark)) (group : Nat) : (quotedNode mark group).ways start = [] := by
  rw [quotedNode_eq, Node.ways, Node.ways_exactly_of_not_faces stops]
  rfl

/-- A type and the mark behind it have one way at most: up to the next mark. -/
theorem ways_type_mark (start : Cursor) (fresh : start.captures = []) (mark : Char) (group : Nat) :
    (Node.seq (.capture group (.oneOrMore (.char (.literal .exact true mark.toNat))))
        (.exactly mark)).ways start =
      match quoted? mark start.ahead with
      | some (type, rest) => [(start.take group type (mark :: rest)).step mark rest]
      | none => [] := by
  let body : Node := .char (.literal .exact true mark.toNat)
  have recorded : (Node.seq (.capture group (.oneOrMore body)) (.exactly mark)).ways start =
      ((Node.oneOrMore body).ways start).flatMap fun stop =>
        (Node.exactly mark).ways (stop.record group start) := by
    rw [Node.ways, Node.ways_capture fresh, List.flatMap_map]
  rw [recorded, quoted?]
  by_cases faces : start.Faces (· != mark)
  · -- Every stop but the longest one has another character than the mark ahead.
    have stays (stop : Cursor) (other : stop.Faces (· != mark)) :
        (Node.exactly mark).ways (stop.record group start) = [] := by
      obtain ⟨c, rest, later, differs⟩ := other
      refine Node.ways_exactly_of_not_faces ?_
      rintro ⟨d, more, same, isMark⟩
      cases later.symm.trans same
      exact bne_iff_ne.mp differs (beq_iff_eq.mp isMark)
    have longest : LongestFirst (· != mark) start ((Node.oneOrMore body).ways start) := by
      rw [← CharTest.accepts_other] at faces ⊢
      exact Node.longestFirst_loop_one faces
    have nonempty : (start.ahead.takeWhile (· != mark)).isEmpty = false :=
      List.isEmpty_eq_false_iff.mpr (Cursor.faces_iff.mp faces)
    rw [longest.flatMap_eq stays, Cursor.record_passWhile fresh]
    cases left : start.ahead.dropWhile (· != mark) with
    | nil => exact Node.ways_exactly_of_not_faces (by rintro ⟨c, rest, ahead, -⟩; cases ahead)
    | cons c rest =>
      rw [eq_of_dropWhile_bne left, nonempty]
      exact Node.ways_exactly rfl
  · have none : (Node.oneOrMore body).ways start = [] := by
      rw [← CharTest.accepts_other] at faces
      exact Node.ways_loop_one_of_not_faces faces
    have empty : start.ahead.takeWhile (· != mark) = [] := not_not.mp (mt Cursor.faces_iff.mpr faces)
    rw [none, empty]
    cases start.ahead.dropWhile (· != mark) <;> rfl

/-- A type between two marks has one way at most. -/
theorem ways_quotedNode {start : Cursor} (fresh : start.captures = []) (mark : Char) (group : Nat)
    {text : Text} (ahead : start.ahead = mark :: text) :
    (quotedNode mark group).ways start =
      match quoted? mark text with
      | some (type, rest) =>
        [((start.step mark text).take group type (mark :: rest)).step mark rest]
      | none => [] := by
  have inner := ways_type_mark (start.step mark text) fresh mark group
  rw [quotedNode_eq, Node.ways, Node.ways_exactly ahead, List.flatMap_singleton]
  exact inner

theorem isInk_of_isBareChar (c : Char) (bare : isBareChar c = true) : isInk c = true := by
  rw [isBareChar, Bool.and_eq_true, Bool.and_eq_true] at bare
  exact bare.1.1

theorem isInk_of_beq {mark : Char} (ink : isInk mark = true) (c : Char) (same : (c == mark) = true) :
    isInk c = true := beq_iff_eq.mp same ▸ ink

theorem firstTakes_quoted {start : Cursor} (fresh : start.captures = []) {mark : Char} {group : Nat}
    {text : Text} (ahead : start.ahead = mark :: text) {others : List Cursor}
    (leads : itemNode.ways start = (quotedNode mark group).ways start ++ others)
    {type rest : Text} (found : quoted? mark text = some (type, rest)) {read : TypeItem}
    (isItem : ∀ text capture, capture.text = type → ofMatch ⟨text, [(group, capture)]⟩ = read) :
    itemNode.FirstTakes ofMatch start (read, rest) := by
  obtain ⟨whole, -, -⟩ := quoted?_eq_some_iff.mp found
  refine ⟨mark :: (type ++ [mark]),
    [(group, ⟨start.offset + 1, start.offset + 1 + type.length, type⟩)], List.cons_ne_nil _ _, ?_, ?_,
    fun text => isItem text _ rfl⟩
  · rw [ahead, whole, List.cons_append, List.append_assoc]
    rfl
  · rw [leads, ways_quotedNode fresh mark group ahead, found]
    simp [Cursor.take, Cursor.pass, Cursor.step]
    omega

/-- Where there is ink but neither a type between marks nor a bare one, the whole run is taken. -/
theorem firstTakes_refused {start : Cursor} (fresh : start.captures = []) (ink : start.Faces isInk)
    (noDouble : (quotedNode '"' 2).ways start = []) (noSingle : (quotedNode '\'' 3).ways start = [])
    (notBare : ¬ start.Faces isBareChar) :
    itemNode.FirstTakes ofMatch start (refused start.ahead) := by
  refine .run ink 5 ?_ fun _ _ => congrArg TypeItem.invalid
  rw [← accepts_bare] at notBare
  rw [← CharTest.accepts_ink] at ink ⊢
  rw [itemNode, Node.ways, Node.ways, Node.ways, noDouble, noSingle, bareNode,
    Node.ways_capture_loop_one_of_not_faces notBare]
  exact Node.head?_capture_loop_one fresh ink 5

theorem itemNode_takes : itemNode.Takes ofMatch next where
  nowhere start stops := by
    have double : ¬ start.Faces (· == '"') :=
      fun faces => stops (faces.mono (isInk_of_beq (by decide +kernel)))
    have single : ¬ start.Faces (· == '\'') :=
      fun faces => stops (faces.mono (isInk_of_beq (by decide +kernel)))
    have bare : ¬ start.Faces isBareChar := fun faces => stops (faces.mono isInk_of_isBareChar)
    rw [← accepts_bare] at bare
    rw [← CharTest.accepts_ink] at stops
    rw [itemNode, Node.ways, Node.ways, Node.ways, ways_quotedNode_of_not_faces double,
      ways_quotedNode_of_not_faces single, bareNode, Node.inkRun,
      Node.ways_capture_loop_one_of_not_faces bare]
    exact Node.ways_capture_loop_one_of_not_faces stops 5
  first start fresh faces := by
    obtain ⟨c, text, ahead, ink⟩ := faces
    have faces : start.Faces isInk := ⟨c, text, ahead, ink⟩
    have other (mark : Char) (differs : c ≠ mark) (group : Nat) :
        (quotedNode mark group).ways start = [] := by
      refine ways_quotedNode_of_not_faces ?_ group
      rintro ⟨d, more, same, isMark⟩
      cases ahead.symm.trans same
      exact differs (beq_iff_eq.mp isMark)
    have bareIff : start.Faces isBareChar ↔ isBareChar c = true := by
      rw [Cursor.Faces, ahead]
      exact ⟨by rintro ⟨d, more, same, bare⟩; cases same; exact bare, fun bare => ⟨c, text, rfl, bare⟩⟩
    by_cases double : c = '"'
    · subst double
      have noSingle := other '\'' (by decide) 3
      have ways := ways_quotedNode fresh '"' 2 ahead
      rw [ahead, next_double, ← ahead]
      cases found : quoted? '"' text with
      | some read =>
        exact firstTakes_quoted fresh ahead rfl found fun _ _ => congrArg TypeItem.doubleQuoted
      | none =>
        rw [found] at ways
        exact firstTakes_refused fresh faces ways noSingle (mt bareIff.mp (by decide +kernel))
    by_cases single : c = '\''
    · subst single
      have noDouble := other '"' (by decide) 2
      have ways := ways_quotedNode fresh '\'' 3 ahead
      rw [ahead, next_single, ← ahead]
      cases found : quoted? '\'' text with
      | some read =>
        have leads : itemNode.ways start = (quotedNode '\'' 3).ways start ++
            (Node.alt bareNode .inkRun).ways start := by
          rw [itemNode, Node.ways, Node.ways, noDouble]
          rfl
        exact firstTakes_quoted fresh ahead leads found fun _ _ => congrArg TypeItem.singleQuoted
      | none =>
        rw [found] at ways
        exact firstTakes_refused fresh faces noDouble ways (mt bareIff.mp (by decide +kernel))
    · have bare : start.Faces isBareChar := bareIff.mpr (by simp [isBareChar, ink, double, single])
      rw [ahead, next_other double single, ← ahead]
      refine .run bare 4 ?_ fun _ _ => congrArg TypeItem.bare
      rw [← accepts_bare] at bare ⊢
      rw [itemNode, Node.ways, Node.ways, Node.ways, other _ double, other _ single, bareNode,
        List.nil_append, List.nil_append, List.head?_append,
        Node.head?_capture_loop_one fresh bare]
      rfl

theorem ways_root_of_ne (cursor : Cursor) (behind : cursor.behind ≠ []) :
    pattern.root.ways cursor = (Node.padded itemNode).ways cursor := by
  rw [pattern, Node.ways, Node.ways_allBlank_of_ne behind, List.nil_append]

/-- The items of a value, read one by one. -/
theorem ofValue_eq (value : Text) :
    ofValue value =
      if value.isAllBlank then [⟨0, value.length, .blank value⟩]
      else itemsFrom next (value.length + 1) 0 value := by
  have start := Node.ways_allBlank value
  rw [ofValue]
  split
  · next blank =>
    rw [if_pos blank] at start
    by_cases empty : value = []
    · cases empty
      rfl
    · rw [itemNode_takes.findAll_of_whole ways_root_of_ne empty 1]
      · rfl
      · rw [pattern, Node.ways, start]
        rfl
  · next inked =>
    rw [if_neg inked] at start
    refine itemNode_takes.findAll_eq ways_root_of_ne inked ?_
    rw [pattern, Node.ways, start, List.nil_append]

section

attribute [local instance] CharacterNames.signs

/-- The pattern is what its text is read as. -/
theorem ofText_patternText : Pattern.ofText patternText = .ok pattern := by decide +kernel

end

end TypeItem

end Stencil
