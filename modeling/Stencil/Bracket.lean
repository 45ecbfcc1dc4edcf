/-
Balanced brackets. The scanner starts at an opening bracket and stops behind the closing bracket that
balances it. Brackets between double quotes do not count, and there a backslash takes away the
meaning of the character after it.
-/
import Stencil.Text.Basic

namespace Stencil

/-- An opening and a closing bracket. Only texts of one character can occur as brackets. -/
structure BracketPair where
  opening : Text
  closing : Text
deriving Repr, DecidableEq

namespace BracketPair

/-- Parentheses. -/
def round : BracketPair := ⟨['('], [')']⟩

/-- Angle brackets. -/
def angle : BracketPair := ⟨['<'], ['>']⟩

end BracketPair

/-- Why no balancing bracket can be found. -/
inductive BracketFault where
  | notOpening (pair : BracketPair) (start : Int)
  | unclosed (pair : BracketPair) (start : Int)
  | beforeText
deriving Repr, DecidableEq

/-- The wording of a fault. -/
def BracketFault.message : BracketFault → String
  | .notOpening pair start =>
    "internal error: opening bracket `" ++ pair.opening.str ++ "` not at index " ++ toString start
  | .unclosed pair start =>
    "internal error: reached end of text without finding `" ++ pair.closing.str ++
      "` to balance `" ++ pair.opening.str ++ "` at index " ++ toString start
  | .beforeText => "string index out of range"

/-- The number of characters up to and including the bracket that brings the depth back to zero.
Between double quotes (`quoted`) brackets do not count. -/
def balancedLength (pair : BracketPair) : (quoted : Bool) → (depth : Int) → Text → Option Nat
  | _, _, [] => none
  | true, depth, '\\' :: rest =>
    match rest with
    | [] => none
    | _ :: rest => (balancedLength pair true depth rest).map (· + 2)
  | true, depth, c :: rest => (balancedLength pair (c != '"') depth rest).map (· + 1)
  | false, depth, c :: rest =>
    if c = '"' then (balancedLength pair true depth rest).map (· + 1)
    else if pair.opening = [c] then (balancedLength pair false (depth + 1) rest).map (· + 1)
    else if pair.closing = [c] then
      if depth = 1 then some 1
      else (balancedLength pair false (depth - 1) rest).map (· + 1)
    else (balancedLength pair false depth rest).map (· + 1)

/-- The characters from an index on. A negative index counts from the end, and the scan goes on from
there through the whole text. -/
def scannedFrom (text : Text) (start : Int) : Text :=
  if 0 ≤ start then text.drop start.toNat
  else text.drop (text.length + start).toNat ++ text

/-- The index behind the bracket that balances the opening bracket at `start`. -/
def skipBalanced (text : Text) (pair : BracketPair) (start : Int) : Except BracketFault Int :=
  if text.length ≤ start then .error (.notOpening pair start)
  else if start < -text.length then .error .beforeText
  else
    let scanned := scannedFrom text start
    match scanned with
    | [] => .error (.notOpening pair start)
    | c :: _ =>
      if pair.opening = [c] then
        match balancedLength pair false 0 scanned with
        | some count => .ok (start + count)
        | none => .error (.unclosed pair start)
      else .error (.notOpening pair start)

/-- What follows the bracket that balances the one at the front of `ahead`, which is at the index
`start` of the whole text. -/
def afterBalanced (pair : BracketPair) (start : Nat) (ahead : Text) : Except BracketFault Text :=
  match balancedLength pair false 0 ahead with
  | some count => .ok (ahead.drop count)
  | none => .error (.unclosed pair start)

end Stencil
