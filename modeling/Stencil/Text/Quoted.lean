/-
Texts between quotation marks, as messages show them. A text stands between apostrophes, unless it
has an apostrophe and no double quote. The mark itself, the backslash and whatever would not show
are spelled by escapes.
-/
import Stencil.Text.Basic
import Stencil.Text.Printable

namespace Stencil

/-- The `width` lowest hexadecimal digits of a number. -/
def hexDigits : (width value : Nat) → Text
  | 0, _ => []
  | width + 1, value => hexDigits width (value / 16) ++ [Nat.digitChar (value % 16)]

/-- The escape that spells a character by its number. -/
def numberEscape (c : Char) : Text :=
  if c.toNat < 0x100 then '\\' :: 'x' :: hexDigits 2 c.toNat
  else if c.toNat < 0x10000 then '\\' :: 'u' :: hexDigits 4 c.toNat
  else '\\' :: 'U' :: hexDigits 8 c.toNat

namespace Text

/-- The quotation mark that spares most escapes. -/
def quotationMark (text : Text) : Char :=
  if text.contains '\'' && !text.contains '"' then '"' else '\''

/-- A character that stands for itself, or its escape. -/
def escapeQuoted (mark c : Char) : Text :=
  if c = mark || c = '\\' then ['\\', c]
  else if c = '\t' then ['\\', 't']
  else if c = '\n' then ['\\', 'n']
  else if c = '\r' then ['\\', 'r']
  else if isPrintable c then [c]
  else numberEscape c

/-- The text between quotation marks. -/
def quoted (text : Text) : Text :=
  let mark := text.quotationMark
  mark :: text.flatMap (escapeQuoted mark) ++ [mark]

/-- A list of texts, each between quotation marks. -/
def quotedList (texts : List Text) : Text :=
  '[' :: joinWith [',', ' '] (texts.map quoted) ++ [']']

end Text

/-- An octet that stands for the character of its number, or its escape. -/
def escapeOctet (mark : Char) (octet : UInt8) : Text :=
  let c := Char.ofNat octet.toNat
  if c = mark || c = '\\' then ['\\', c]
  else if c = '\t' then ['\\', 't']
  else if c = '\n' then ['\\', 'n']
  else if c = '\r' then ['\\', 'r']
  else if 0x20 ≤ octet.toNat ∧ octet.toNat < 0x7F then [c]
  else '\\' :: 'x' :: hexDigits 2 octet.toNat

/-- A sequence of octets between quotation marks, led by the letter that tells it from a text. -/
def quotedOctets (octets : List UInt8) : Text :=
  let mark := Text.quotationMark (octets.map fun octet => Char.ofNat octet.toNat)
  'b' :: mark :: octets.flatMap (escapeOctet mark) ++ [mark]

end Stencil
