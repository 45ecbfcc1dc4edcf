/-
Placeholders. A text that later steps must not touch is hidden behind a placeholder: its octets, each
as a character of a private run, between two markers. The marker is a private character that occurs
nowhere in the text at hand, and neither marker nor run characters are identifier characters, so that
no identifier is found inside a placeholder. Unhiding turns every placeholder back into its text.
-/
import Stencil.Log
import Stencil.Text.Utf8

namespace Stencil

/-- The marker between which placeholders stand. -/
structure Placeholder where
  marker : Char
deriving Repr, DecidableEq

namespace Placeholder

/-- The highest character that can be a marker. -/
def highestMarker : Nat := 0xF8FF

/-- The number of characters that can be markers. -/
def markerCount : Nat := 0x900

/-- The first of the run characters, which stands for the octet zero. -/
def runStart : Nat := 0xE000

/-- The markers to choose from, the preferred one first. -/
def markers : List Char :=
  (List.range markerCount).map fun index => Char.ofNat (highestMarker - index)

/-- Chooses the highest marker that does not occur in a text. -/
def choose (text : Text) : Except Abort Placeholder :=
  match markers.find? fun marker => !text.contains marker with
  | some marker => .ok ⟨marker⟩
  | none => .error .noFreeMarker

/-- The run character of an octet. -/
def runChar (octet : UInt8) : Char := Char.ofNat (runStart + octet.toNat)

/-- Whether a character stands for an octet. -/
def isRunChar (c : Char) : Bool := runStart ≤ c.toNat && c.toNat < runStart + 0x100

/-- The octet that a run character stands for. -/
def octetOf (c : Char) : UInt8 := (c.toNat - runStart).toUInt8

/-- Hides a text behind a placeholder. -/
def protect (placeholder : Placeholder) (text : Text) : Text :=
  placeholder.marker :: text.octets.map runChar ++ [placeholder.marker]

/-- The warning that a run does not spell a text. -/
def spoiled (octets : List UInt8) : Event :=
  .warning <|
    "warning: placeholder encountered with run characters representing invalid byte sequence " ++
    (quotedOctets octets).str ++
    "; substituted with U+FFFD REPLACEMENT CHARACTER as a fallback\n\n" ++
    "Likely cause: a custom replacement rule tampers with strings of the form " ++
    "`«marker»«run_characters»«marker»`"

/-- The text that a run spells; a replacement character and a warning if it spells none. -/
def restore (run : Text) : Text × Log :=
  let octets := run.map octetOf
  match decode octets with
  | .ok text => (text, [])
  | .error _ => (['�'], [spoiled octets])

/-- Unhides a text. Behind a marker, the run characters seen since are kept, last one first, until it
is known whether another marker ends them. -/
def unprotectFrom (placeholder : Placeholder) : (run : Option Text) → Text → Text × Log
  | none, [] => ([], [])
  | some run, [] => (placeholder.marker :: run.reverse, [])
  | none, c :: rest =>
    if c = placeholder.marker then unprotectFrom placeholder (some []) rest
    else
      let (text, log) := unprotectFrom placeholder none rest
      (c :: text, log)
  | some run, c :: rest =>
    if c = placeholder.marker then
      let (restored, warnings) := restore run.reverse
      let (text, log) := unprotectFrom placeholder none rest
      (restored ++ text, warnings ++ log)
    else if isRunChar c then unprotectFrom placeholder (some (c :: run)) rest
    else
      let (text, log) := unprotectFrom placeholder none rest
      (placeholder.marker :: run.reverse ++ c :: text, log)

/-- Turns every placeholder of a text back into what it hides. -/
def unprotect (placeholder : Placeholder) (text : Text) : Run Text :=
  let (restored, log) := unprotectFrom placeholder none text
  ⟨log, .ok restored⟩

end Placeholder

end Stencil
