/-
Names of characters. A pattern may ask for a character by its name. Which character has which name is
not settled here: patterns are read with any table of names.
-/
import Stencil.Text.Basic

namespace Stencil

/-- A table of names. A name that stands for no single character is not in it. -/
class CharacterNames where
  /-- The character that has a name. -/
  character? : (name : Text) → Option Char

namespace CharacterNames

/-- The names of the ASCII signs that are neither letters nor digits. -/
def signNames : List (String × Char) := [
  ("SPACE", ' '), ("EXCLAMATION MARK", '!'), ("QUOTATION MARK", '"'), ("NUMBER SIGN", '#'),
  ("DOLLAR SIGN", '$'), ("PERCENT SIGN", '%'), ("AMPERSAND", '&'), ("APOSTROPHE", '\''),
  ("LEFT PARENTHESIS", '('), ("RIGHT PARENTHESIS", ')'), ("ASTERISK", '*'), ("PLUS SIGN", '+'),
  ("COMMA", ','), ("HYPHEN-MINUS", '-'), ("FULL STOP", '.'), ("SOLIDUS", '/'), ("COLON", ':'),
  ("SEMICOLON", ';'), ("LESS-THAN SIGN", '<'), ("EQUALS SIGN", '='), ("GREATER-THAN SIGN", '>'),
  ("QUESTION MARK", '?'), ("COMMERCIAL AT", '@'), ("LEFT SQUARE BRACKET", '['),
  ("REVERSE SOLIDUS", '\\'), ("RIGHT SQUARE BRACKET", ']'), ("CIRCUMFLEX ACCENT", '^'),
  ("LOW LINE", '_'), ("GRAVE ACCENT", '\x60'), ("LEFT CURLY BRACKET", '\x7b'),
  ("VERTICAL LINE", '|'), ("RIGHT CURLY BRACKET", '\x7d'), ("TILDE", '~')]

/-- The table of these signs alone. -/
@[reducible]
def signs : CharacterNames where
  character? name := (signNames.find? fun entry => entry.1.toList == name).map Prod.snd

end CharacterNames

end Stencil
