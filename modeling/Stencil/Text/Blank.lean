/-
Blanks: the characters that separate words and pad lines, of which the line feed alone ends a line
of source text.
-/
import Stencil.Text.Range

namespace Stencil

/-- The blank characters: controls, spaces of every width, line and paragraph separators. -/
def blankRanges : List CodeRange := [
  ⟨0x9, 0xD⟩, ⟨0x1C, 0x20⟩, ⟨0x85, 0x85⟩, ⟨0xA0, 0xA0⟩, ⟨0x1680, 0x1680⟩, ⟨0x2000, 0x200A⟩,
  ⟨0x2028, 0x2029⟩, ⟨0x202F, 0x202F⟩, ⟨0x205F, 0x205F⟩, ⟨0x3000, 0x3000⟩]

/-- Whether the character is a blank. -/
def isBlank (c : Char) : Bool :=
  inRanges blankRanges c.toNat

/-- Whether the character is a blank that does not end a line. -/
def isInlineBlank (c : Char) : Bool :=
  isBlank c && c != '\n'

end Stencil
