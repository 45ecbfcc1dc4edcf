/-
What one character of a pattern accepts: a given character, a set, or any. Where case is ignored two
characters count as equal when their lower cases agree, or when these are among the few lower-case
letters that share one upper case.
-/
import Stencil.Text.Alphanumeric
import Stencil.Text.Blank
import Stencil.Text.Case
import Stencil.Text.Digit

namespace Stencil

/-! ### Character classes -/

/-- The named classes of characters. -/
inductive CharKind where
  | digit
  | blank
  | word
deriving Repr, DecidableEq

/-- A named class or its complement, over all characters or over ASCII. -/
structure CharClass where
  kind : CharKind
  negated : Bool
  ascii : Bool
deriving Repr, DecidableEq

/-- The characters of a named class. -/
def CharKind.holds : CharKind → (ascii : Bool) → Char → Bool
  | .digit, true, c => c.isDigit
  | .digit, false, c => isDecimalDigit c
  | .blank, true, c => c.toNat < 0x80 && (c == ' ' || (9 ≤ c.toNat && c.toNat ≤ 13))
  | .blank, false, c => isBlank c
  | .word, true, c => c == '_' || c.isAlphanum
  | .word, false, c => isWordChar c

/-- The characters of a class. -/
def CharClass.accepts (cls : CharClass) (c : Char) : Bool :=
  cls.kind.holds cls.ascii c != cls.negated

/-! ### Ignoring case -/

/-- How characters are compared: as they are, or without regard to case among the ASCII letters or
among all. -/
inductive Fold where
  | exact
  | ascii
  | full
deriving Repr, DecidableEq

/-- Lower case of the ASCII letters only. -/
def asciiLowerCode (code : Nat) : Nat :=
  if 0x41 ≤ code ∧ code ≤ 0x5A then code + 0x20 else code

/-- The code point that stands for all that are compared as equal to it by case. -/
def Fold.apply : Fold → Nat → Nat
  | .exact, code => code
  | .ascii, code => asciiLowerCode code
  | .full, code => lowerCode code

/-- Lower-case letters that share their upper case. -/
def sharedUpperCase : List (List Nat) := [
  [0x69, 0x131], [0x73, 0x17F], [0xB5, 0x3BC], [0x345, 0x3B9, 0x1FBE], [0x390, 0x1FD3],
  [0x3B0, 0x1FE3], [0x3B2, 0x3D0], [0x3B5, 0x3F5], [0x3B8, 0x3D1], [0x3BA, 0x3F0], [0x3C0, 0x3D6],
  [0x3C1, 0x3F1], [0x3C2, 0x3C3], [0x3C6, 0x3D5], [0x432, 0x1C80], [0x434, 0x1C81],
  [0x43E, 0x1C82], [0x441, 0x1C83], [0x442, 0x1C84, 0x1C85], [0x44A, 0x1C86], [0x463, 0x1C87],
  [0x1C88, 0xA64B], [0x1E61, 0x1E9B], [0xFB05, 0xFB06]]

/-- A lower-case letter with those that share its upper case. -/
def Fold.peers : Fold → Nat → List Nat
  | .full, code =>
    match sharedUpperCase.find? fun letters => letters.contains code with
    | some letters => letters
    | none => [code]
  | _, code => [code]

/-- The code points whose lower case is `code`. -/
def lowerSources (fold : Fold) (code : Nat) : List Nat :=
  let self := if fold.apply code = code then [code] else []
  match fold with
  | .exact => [code]
  | .ascii => if 0x61 ≤ code ∧ code ≤ 0x7A then self ++ [code - 0x20] else self
  | .full =>
    self ++ lowerStretches.filterMap fun stretch =>
      let source := ((code : Int) - stretch.shift).toNat
      if stretch.covers source && fold.apply source = code then some source else none

/-! ### Sets -/

/-- A member of a set: one code point, a range or a class. -/
inductive SetMember where
  | code (point : Nat)
  | range (span : CodeRange)
  | cls (named : CharClass)
deriving Repr, DecidableEq

/-- The last code point of the basic plane. Beyond it set members are compared without their own
lower case. -/
def basicPlaneEnd : Nat := 0xFFFF

/-- Whether a member of a set accepts a character. -/
def SetMember.accepts (fold : Fold) (c : Char) : SetMember → Bool
  | .cls named => named.accepts c
  | .code point =>
    match fold with
    | .exact => c.toNat == point
    | _ =>
      let lower := fold.apply point
      if lower ≤ basicPlaneEnd then (fold.peers lower).contains (fold.apply c.toNat)
      else fold.apply c.toNat == point
  | .range span =>
    match fold with
    | .exact => span.contains c.toNat
    | _ =>
      let lower := fold.apply c.toNat
      ((fold.peers lower).any fun peer =>
        (lowerSources fold peer).any fun source =>
          source ≤ basicPlaneEnd && span.contains source) ||
      (basicPlaneEnd < span.last &&
        (span.contains lower || (upperCodes lower).head?.any span.contains))

/-! ### Tests -/

/-- What one character of a pattern accepts. -/
inductive CharTest where
  | literal (fold : Fold) (negated : Bool) (code : Nat)
  | set (fold : Fold) (negated : Bool) (members : List SetMember)
  | any (acrossLines : Bool)
deriving Repr, DecidableEq

/-- Whether a character passes the test. -/
def CharTest.accepts : CharTest → Char → Bool
  | .literal fold negated code, c =>
    (fold.peers (fold.apply code)).contains (fold.apply c.toNat) != negated
  | .set fold negated members, c => members.any (SetMember.accepts fold c) != negated
  | .any acrossLines, c => acrossLines || c != '\n'

end Stencil
