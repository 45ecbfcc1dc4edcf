/-
Matching. A node is run at a cursor with a continuation that says what has to succeed after it; the
first way in which node and continuation both succeed is the result. The order of ways is the order
of the pattern: alternatives from left to right, loops by their greed. Nothing is undone on failure,
since a cursor is a value and the captures belong to it.

A loop ends after a round that consumed nothing, so the rounds beyond the required ones are at most
one more than the characters ahead; that bounds the recursion.
-/
import Stencil.Pattern.Basic

namespace Stencil

/-- The text that a group took, and where. -/
structure Capture where
  start : Nat
  stop : Nat
  text : Text
deriving Repr, DecidableEq

/-- A place in a text, the characters behind it (nearest first) and ahead of it, its offset from the
start, and the captures made on the way. -/
structure Cursor where
  behind : Text
  ahead : Text
  offset : Nat
  captures : List (Nat × Capture)
deriving Repr, DecidableEq

namespace Cursor

/-- One character further. -/
def step (cursor : Cursor) (c : Char) (rest : Text) : Cursor :=
  { cursor with behind := c :: cursor.behind, ahead := rest, offset := cursor.offset + 1 }

/-- Several characters back, if there are as many. -/
def back? : (count : Nat) → Cursor → Option Cursor
  | 0, cursor => some cursor
  | count + 1, cursor =>
    match cursor.behind with
    | [] => none
    | c :: behind =>
      back? count
        { cursor with behind := behind, ahead := c :: cursor.ahead, offset := cursor.offset - 1 }

/-- The text that a group took last. -/
def captured? (cursor : Cursor) (group : Nat) : Option Text :=
  (cursor.captures.lookup group).map Capture.text

/-- While a group is open its earlier capture counts only if it does not end before the group's new
start. -/
def reopen (cursor : Cursor) (group : Nat) : Cursor :=
  match cursor.captures.lookup group with
  | some capture =>
    if capture.stop < cursor.offset then
      { cursor with captures := cursor.captures.filter fun entry => entry.1 != group }
    else cursor
  | none => cursor

/-- Records what a group took between its start and this place. -/
def record (cursor : Cursor) (group : Nat) (start : Cursor) : Cursor :=
  let capture : Capture :=
    ⟨start.offset, cursor.offset, start.ahead.take (cursor.offset - start.offset)⟩
  { cursor with
    captures := (group, capture) :: cursor.captures.filter fun entry => entry.1 != group }

end Cursor

/-- What is still to be matched after a node. -/
abbrev Continuation := Cursor → Option Cursor

/-! ### Anchors and repeated texts -/

/-- The nearest character of a list is a word character. -/
def touchesWord (ascii : Bool) : Text → Bool
  | [] => false
  | c :: _ => CharKind.word.holds ascii c

/-- Whether an anchor holds at a place. In an empty text there is neither a boundary nor a place that
is none. -/
def Anchor.holds (anchor : Anchor) (behind ahead : Text) : Bool :=
  match anchor with
  | .textStart => behind.isEmpty
  | .textEnd => ahead.isEmpty
  | .lineStart => behind.isEmpty || behind.head? == some '\n'
  | .lineEnd => ahead.isEmpty || ahead.head? == some '\n'
  | .lastLineEnd => ahead.isEmpty || ahead == ['\n']
  | .boundary ascii negated =>
    !(behind.isEmpty && ahead.isEmpty) &&
      (touchesWord ascii behind != touchesWord ascii ahead) != negated

/-- Passes over a text once more, comparing by `fold`. -/
def Cursor.repeat? (fold : Fold) : Text → Cursor → Option Cursor
  | [], cursor => some cursor
  | c :: text, cursor =>
    match cursor.ahead with
    | [] => none
    | d :: rest =>
      if fold.apply c.toNat = fold.apply d.toNat then repeat? fold text (cursor.step d rest)
      else none

/-! ### Loops -/

/-- One more round is allowed after `count`. -/
def roomFor (most : Option Nat) (count : Nat) : Bool :=
  match most with
  | some most => count < most
  | none => true

/-- A loop that prefers another round. `last` is where the round before the next one began, if it
was not a required one. -/
def greedyLoop (round : Continuation → Continuation) (least : Nat) (most : Option Nat)
    (next : Continuation) : (fuel count : Nat) → (last : Option Nat) → Continuation
  | 0, _, _, cursor => next cursor
  | fuel + 1, count, last, cursor =>
    if count < least then
      round (greedyLoop round least most next fuel (count + 1) last) cursor
    else if roomFor most count && last != some cursor.offset then
      match round (greedyLoop round least most next fuel (count + 1) (some cursor.offset)) cursor with
      | some found => some found
      | none => next cursor
    else next cursor

/-- A loop that prefers to stop. -/
def reluctantLoop (round : Continuation → Continuation) (least : Nat) (most : Option Nat)
    (next : Continuation) : (fuel count : Nat) → (last : Option Nat) → Continuation
  | 0, _, _, cursor => next cursor
  | fuel + 1, count, last, cursor =>
    if count < least then
      round (reluctantLoop round least most next fuel (count + 1) last) cursor
    else
      match next cursor with
      | some found => some found
      | none =>
        if roomFor most count && last != some cursor.offset then
          round (reluctantLoop round least most next fuel (count + 1) (some cursor.offset)) cursor
        else none

/-- A loop that takes every round in its first way and as many rounds as it can. -/
def possessiveLoop (round : Continuation) (least : Nat) (most : Option Nat) :
    (fuel count : Nat) → (last : Option Nat) → Continuation
  | 0, _, _, cursor => some cursor
  | fuel + 1, count, last, cursor =>
    if count < least then
      match round cursor with
      | some found => possessiveLoop round least most fuel (count + 1) last found
      | none => none
    else if roomFor most count && last != some cursor.offset then
      match round cursor with
      | some found => possessiveLoop round least most fuel (count + 1) (some cursor.offset) found
      | none => some cursor
    else some cursor

/-- A bound on the rounds of a loop that starts here. -/
def roundBound (least : Nat) (cursor : Cursor) : Nat := least + cursor.ahead.length + 2

/-! ### Running -/

/-- Runs a node at a cursor: the first way to match it so that the continuation succeeds too. -/
def Node.run : Node → Continuation → Continuation
  | .empty, next, cursor => next cursor
  | .char test, next, cursor =>
    match cursor.ahead with
    | [] => none
    | c :: rest => if test.accepts c then next (cursor.step c rest) else none
  | .anchor place, next, cursor =>
    if place.holds cursor.behind cursor.ahead then next cursor else none
  | .seq first second, next, cursor => first.run (fun middle => second.run next middle) cursor
  | .alt first second, next, cursor =>
    match first.run next cursor with
    | some found => some found
    | none => second.run next cursor
  | .capture group body, next, cursor =>
    body.run (fun stop => next (stop.record group cursor)) (cursor.reopen group)
  | .loop greed least most body, next, cursor =>
    let bound := roundBound least cursor
    match greed with
    | .greedy => greedyLoop (fun k c => body.run k c) least most next bound 0 none cursor
    | .reluctant => reluctantLoop (fun k c => body.run k c) least most next bound 0 none cursor
    | .possessive =>
      match possessiveLoop (fun c => body.run some c) least most bound 0 none cursor with
      | some found => next found
      | none => none
  | .atomic body, next, cursor =>
    match body.run some cursor with
    | some found => next found
    | none => none
  | .ahead negated body, next, cursor =>
    match body.run some cursor with
    | some found => if negated then none else next { cursor with captures := found.captures }
    | none => if negated then next cursor else none
  | .behind negated width body, next, cursor =>
    match cursor.back? width.least with
    | none => if negated then next cursor else none
    | some start =>
      match body.run some start with
      | some found => if negated then none else next { cursor with captures := found.captures }
      | none => if negated then next cursor else none
  | .again fold group _, next, cursor =>
    match cursor.captured? group with
    | none => none
    | some text =>
      match cursor.repeat? fold text with
      | some found => next found
      | none => none
  | .ifCaptured group yes no, next, cursor =>
    if (cursor.captured? group).isSome then yes.run next cursor else no.run next cursor

/-! ### Matches in a text -/

/-- A match: how many characters it took, its text and the captures of its groups. -/
structure Match where
  text : Text
  captures : List (Nat × Capture)
deriving Repr, DecidableEq

/-- The text of a group, the whole match for group zero; empty for a group that took no part. -/
def Match.groupText (found : Match) (group : Nat) : Text :=
  if group = 0 then found.text
  else
    match found.captures.lookup group with
    | some capture => capture.text
    | none => []

/-- Something and the stretch of a text that it takes. -/
structure Spanned (Item : Type) where
  start : Nat
  stop : Nat
  item : Item
deriving Repr, DecidableEq

/-- Something made of it, on the same stretch. -/
def Spanned.map {First Second : Type} (make : First → Second) (span : Spanned First) :
    Spanned Second :=
  ⟨span.start, span.stop, make span.item⟩

namespace Pattern

/-- The text of a group by its name, if the group took part. -/
def named? (pattern : Pattern) (found : Match) (name : String) : Option Text :=
  match pattern.names.lookup name.toList with
  | some group => (found.captures.lookup group).map Capture.text
  | none => none

/-- The match of a pattern at a place; with `advance`, only one that takes a character. -/
def matchAt (pattern : Pattern) (advance : Bool) (behind ahead : Text) (offset : Nat) :
    Option Match :=
  let finish : Continuation := fun cursor =>
    if advance && cursor.offset == offset then none else some cursor
  match pattern.root.run finish ⟨behind, ahead, offset, []⟩ with
  | some stop => some ⟨ahead.take (stop.offset - offset), stop.captures⟩
  | none => none

/-- Whether the pattern matches somewhere ahead. -/
def occursFrom (pattern : Pattern) : (behind ahead : Text) → (offset : Nat) → Bool
  | behind, [], offset => (pattern.matchAt false behind [] offset).isSome
  | behind, c :: rest, offset =>
    (pattern.matchAt false behind (c :: rest) offset).isSome ||
      occursFrom pattern (c :: behind) rest (offset + 1)

/-- Whether the pattern matches somewhere in a text. -/
def occursIn (pattern : Pattern) (text : Text) : Bool := pattern.occursFrom [] text 0

/-- The replacement of the matches at one place, and how many characters they took. An empty match
may be followed, at the same place, by one that takes characters. -/
def replaceHere (pattern : Pattern) (render : Match → Text) (behind ahead : Text) (offset : Nat) :
    Text × Nat :=
  match pattern.matchAt false behind ahead offset with
  | none => ([], 0)
  | some first =>
    if first.text.isEmpty then
      match pattern.matchAt true behind ahead offset with
      | none => (render first, 0)
      | some second => (render first ++ render second, second.text.length)
    else (render first, first.text.length)

/-- Replaces every match ahead; `skip` characters of the last match are still to be passed over. -/
def replaceFrom (pattern : Pattern) (render : Match → Text) :
    (skip : Nat) → (behind ahead : Text) → (offset : Nat) → Text
  | skip + 1, behind, c :: rest, offset =>
    replaceFrom pattern render skip (c :: behind) rest (offset + 1)
  | _ + 1, _, [], _ => []
  | 0, behind, [], offset => (pattern.replaceHere render behind [] offset).1
  | 0, behind, c :: rest, offset =>
    let (replacement, taken) := pattern.replaceHere render behind (c :: rest) offset
    match taken with
    | 0 => replacement ++ c :: replaceFrom pattern render 0 (c :: behind) rest (offset + 1)
    | taken + 1 => replacement ++ replaceFrom pattern render taken (c :: behind) rest (offset + 1)

/-- Replaces every match in a text, from left to right. -/
def replaceAll (pattern : Pattern) (render : Match → Text) (text : Text) : Text :=
  pattern.replaceFrom render 0 [] text 0

/-- The matches at one place: one, or an empty one and one that takes characters. -/
def findHere (pattern : Pattern) (behind ahead : Text) (offset : Nat) : List (Spanned Match) :=
  let spanned (found : Match) : Spanned Match := ⟨offset, offset + found.text.length, found⟩
  match pattern.matchAt false behind ahead offset with
  | none => []
  | some first =>
    if first.text.isEmpty then
      spanned first :: ((pattern.matchAt true behind ahead offset).map spanned).toList
    else [spanned first]

/-- The matches ahead, from left to right; `skip` characters of the last match are still to be passed
over. Where there is no match, the search goes on one character further. -/
def findFrom (pattern : Pattern) :
    (skip : Nat) → (behind ahead : Text) → (offset : Nat) → List (Spanned Match)
  | skip + 1, behind, c :: rest, offset => findFrom pattern skip (c :: behind) rest (offset + 1)
  | _ + 1, _, [], _ => []
  | 0, behind, [], offset => pattern.findHere behind [] offset
  | 0, behind, c :: rest, offset =>
    let found := pattern.findHere behind (c :: rest) offset
    let stop := (found.getLast?.map Spanned.stop).getD offset
    found ++ findFrom pattern (stop - offset - 1) (c :: behind) rest (offset + 1)

/-- The matches in a text, from left to right. -/
def findAll (pattern : Pattern) (text : Text) : List (Spanned Match) := pattern.findFrom 0 [] text 0

end Pattern

end Stencil
