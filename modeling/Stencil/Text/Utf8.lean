/-
The octets of a text. Writing follows the four forms of UTF-8; reading is strict: no overlong form,
no surrogate, nothing above the last code point. A refusal names the octets that cannot be read and
why.
-/
import Stencil.Text.Basic
import Stencil.Text.Quoted

namespace Stencil

/-- Why octets are no text. -/
inductive OctetProblem where
  | start
  | continuation
  | ending
deriving Repr, DecidableEq

/-- The octets at which reading stopped: the position of the first, how many they are, and the first
itself. -/
structure OctetFault where
  position : Nat
  count : Nat
  octet : UInt8
  problem : OctetProblem
deriving Repr, DecidableEq

/-- The wording of a problem. -/
def OctetProblem.message : OctetProblem → String
  | .start => "invalid start byte"
  | .continuation => "invalid continuation byte"
  | .ending => "unexpected end of data"

/-- The wording of a refusal. -/
def OctetFault.message (fault : OctetFault) : String :=
  let place :=
    if fault.count = 1 then
      "byte 0x" ++ (hexDigits 2 fault.octet.toNat).str ++ " in position " ++ toString fault.position
    else
      "bytes in position " ++ toString fault.position ++ "-" ++
        toString (fault.position + fault.count - 1)
  "'utf-8' codec can't decode " ++ place ++ ": " ++ fault.problem.message

/-! ### Writing -/

/-- The octets of one character. -/
def charOctets (c : Char) : List UInt8 :=
  let code := c.toNat
  if code < 0x80 then [code.toUInt8]
  else if code < 0x800 then [(0xC0 + code / 0x40).toUInt8, (0x80 + code % 0x40).toUInt8]
  else if code < 0x10000 then
    [(0xE0 + code / 0x1000).toUInt8, (0x80 + code / 0x40 % 0x40).toUInt8,
      (0x80 + code % 0x40).toUInt8]
  else
    [(0xF0 + code / 0x40000).toUInt8, (0x80 + code / 0x1000 % 0x40).toUInt8,
      (0x80 + code / 0x40 % 0x40).toUInt8, (0x80 + code % 0x40).toUInt8]

/-- The octets of a text. -/
def Text.octets (text : Text) : List UInt8 := text.flatMap charOctets

/-! ### Reading -/

/-- An octet that continues a character. -/
def isContinuation (octet : UInt8) : Bool :=
  decide (0x80 ≤ octet.toNat) && decide (octet.toNat < 0xC0)

/-- Whether the second octet can follow this first one: besides being a continuation it must not make
the form overlong, a surrogate or too large. -/
def isSecond (first second : UInt8) : Bool :=
  isContinuation second &&
    (first.toNat != 0xE0 || decide (0xA0 ≤ second.toNat)) &&
    (first.toNat != 0xED || decide (second.toNat < 0xA0)) &&
    (first.toNat != 0xF0 || decide (0x90 ≤ second.toNat)) &&
    (first.toNat != 0xF4 || decide (second.toNat < 0x90))

/-- The number of octets that a first octet announces. -/
def octetForm (first : UInt8) : Option Nat :=
  let code := first.toNat
  if code < 0x80 then some 1
  else if code < 0xC2 then none
  else if code < 0xE0 then some 2
  else if code < 0xF0 then some 3
  else if code < 0xF5 then some 4
  else none

/-- The character that a full form spells. -/
def formChar (first : UInt8) (rest : List UInt8) : Char :=
  let lead :=
    match rest.length with
    | 0 => first.toNat
    | 1 => first.toNat - 0xC0
    | 2 => first.toNat - 0xE0
    | _ => first.toNat - 0xF0
  Char.ofNat (rest.foldl (fun code octet => code * 0x40 + (octet.toNat - 0x80)) lead)

/-- How many octets of a form can be read before it breaks off, and whether it broke off at an octet
that does not belong to it. The first octet is counted. -/
def brokenForm (first : UInt8) : List UInt8 → Nat × OctetProblem
  | [] => (1, .ending)
  | second :: rest =>
    if isSecond first second then
      let good := rest.takeWhile isContinuation
      if good.length = rest.length then (2 + good.length, .ending)
      else (2 + good.length, .continuation)
    else (1, .continuation)

/-- Reads octets from a position on; `fuel` is at least their number. -/
def decodeFrom : (fuel position : Nat) → List UInt8 → Except OctetFault Text
  | _, _, [] => .ok []
  | 0, _, _ :: _ => .ok []
  | fuel + 1, position, first :: rest =>
    match octetForm first with
    | none => .error ⟨position, 1, first, .start⟩
    | some size =>
      let form := rest.take (size - 1)
      if form.length = size - 1 && (form.head?.all (isSecond first)) && form.all isContinuation then
        match decodeFrom fuel (position + size) (rest.drop (size - 1)) with
        | .ok text => .ok (formChar first form :: text)
        | .error fault => .error fault
      else
        let (count, problem) := brokenForm first form
        .error ⟨position, count, first, problem⟩

/-- Reads a text from its octets. -/
def decode (octets : List UInt8) : Except OctetFault Text :=
  decodeFrom octets.length 0 octets

end Stencil
