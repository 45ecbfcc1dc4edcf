/-
Lines. Rules are read line by line, and every character that any convention takes for the end of a
line ends one there; a carriage return with a line feed is one end. Source files end their lines by
line feeds once they are read.
-/
import Stencil.Text.Basic

namespace Stencil

/-- The characters that end a line of rules. -/
def isLineEnd (c : Char) : Bool :=
  inRanges [⟨0xA, 0xD⟩, ⟨0x1C, 0x1E⟩, ⟨0x85, 0x85⟩, ⟨0x2028, 0x2029⟩] c.toNat

namespace Text

/-- The lines of a text, without their ends. Nothing follows the end of the last line. -/
def lines : Text → List Text
  | [] => []
  | '\r' :: '\n' :: rest => [] :: lines rest
  | c :: rest =>
    if isLineEnd c then [] :: lines rest
    else
      match lines rest with
      | [] => [[c]]
      | line :: more => (c :: line) :: more

/-- Carriage returns, alone or before a line feed, turned into line feeds. -/
def unifyLineEnds : Text → Text
  | [] => []
  | '\r' :: '\n' :: rest => '\n' :: unifyLineEnds rest
  | c :: rest => (if c = '\r' then '\n' else c) :: unifyLineEnds rest

/-- The number of line feeds. -/
def lineFeeds (text : Text) : Nat := text.count '\n'

end Text

end Stencil
