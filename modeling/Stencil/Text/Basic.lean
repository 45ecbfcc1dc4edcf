/-
Texts are lists of characters, so that every function on them is a recursion that a proof can
follow. This file holds the operations that the rest of the library shares: cutting a lead off a
text, trimming blanks, looking for the first place at which a test succeeds, and replacing one text
by another throughout.
-/
import Stencil.Text.Blank

namespace Stencil

/-- Source texts, names and patterns. -/
abbrev Text := List Char

namespace Text

/-- The text as a string, for messages. -/
def str (text : Text) : String := String.ofList text

/-! ### Leads -/

/-- What follows `lead` in a text that begins with it. -/
def after? : (lead text : Text) → Option Text
  | [], text => some text
  | _ :: _, [] => none
  | a :: lead, b :: text => if a = b then after? lead text else none

/-- Whether the text begins with `lead`. -/
def hasLead (lead text : Text) : Bool := (after? lead text).isSome

/-- Whether `part` occurs somewhere in the text. -/
def occursIn (part : Text) : Text → Bool
  | [] => part.isEmpty
  | c :: rest => hasLead part (c :: rest) || occursIn part rest

/-! ### Blanks -/

/-- The text without its leading blanks. -/
def dropBlanks (text : Text) : Text := text.dropWhile isBlank

/-- The text without its trailing blanks. -/
def trimRight (text : Text) : Text := (text.reverse.dropWhile isBlank).reverse

/-- The text without leading and trailing blanks. -/
def trim (text : Text) : Text := (dropBlanks text).trimRight

/-- Whether the text consists of blanks only. -/
def isAllBlank (text : Text) : Bool := text.all isBlank

/-- What remains of a text after a run of characters of a class, for the longest run first and for
the empty run last. -/
def afterRuns (inClass : Char → Bool) : Text → List Text
  | [] => [[]]
  | c :: rest => if inClass c then afterRuns inClass rest ++ [c :: rest] else [c :: rest]

/-- What remains of a text after a run of at least one character of a class, longest run first. -/
def afterSomeRuns (inClass : Char → Bool) : Text → List Text
  | [] => []
  | c :: rest => if inClass c then afterRuns inClass rest else []

/-! ### Pieces -/

/-- The pieces between the characters that a test singles out. -/
def splitAtAll (isCut : Char → Bool) : Text → List Text
  | [] => [[]]
  | c :: rest =>
    if isCut c then [] :: splitAtAll isCut rest
    else
      match splitAtAll isCut rest with
      | [] => [[c]]
      | piece :: pieces => (c :: piece) :: pieces

/-- The pieces one after another with `separator` between neighbours. -/
def joinWith (separator : Text) : List Text → Text
  | [] => []
  | [piece] => piece
  | piece :: pieces => piece ++ separator ++ joinWith separator pieces

/-! ### Searching -/

/-- The first place of a text at which a test succeeds. The test sees the characters behind the
place, nearest first, and those ahead of it; the end of the text is a place too. -/
def firstPlace {Found : Type} (test : (behind ahead : Text) → Option Found) :
    (behind ahead : Text) → Option Found
  | behind, [] => test behind []
  | behind, c :: rest =>
    match test behind (c :: rest) with
    | some found => some found
    | none => firstPlace test (c :: behind) rest

/-! ### Replacing -/

/-- Replaces a non-empty text from left to right; `skip` characters of an occurrence that has been
replaced already are still to be passed over. -/
def replaceFrom (part substitute : Text) : (skip : Nat) → Text → Text
  | _, [] => []
  | skip + 1, _ :: rest => replaceFrom part substitute skip rest
  | 0, c :: rest =>
    if hasLead part (c :: rest) then
      substitute ++ replaceFrom part substitute (part.length - 1) rest
    else c :: replaceFrom part substitute 0 rest

/-- Replaces every occurrence of a text, from left to right. The empty text occurs before every
character and at the end. -/
def replaceAll (part substitute text : Text) : Text :=
  if part.isEmpty then substitute ++ text.flatMap fun c => c :: substitute
  else replaceFrom part substitute 0 text

end Text

end Stencil
