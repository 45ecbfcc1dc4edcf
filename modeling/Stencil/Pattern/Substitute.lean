/-
Substitutes. What replaces a match is a text with references to groups: `\1`, `\g<1>` and `\g<name>`
stand for what a group took, `\g<0>` for the whole match, and a few escapes for single characters. A
text without a backslash replaces a match as it is.
-/
import Stencil.Text.NameChar
import Stencil.Pattern.Match
import Stencil.Pattern.Reader

namespace Stencil

/-- A stretch of text, or what a group took. -/
inductive SubstitutePart where
  | text (text : Text)
  | group (group : Nat)
deriving Repr, DecidableEq

/-- A substitute that has been read. -/
abbrev Substitute := List SubstitutePart

namespace Substitute

/-- What replaces a match. -/
def render (substitute : Substitute) (found : Match) : Text :=
  substitute.flatMap fun
    | .text text => text
    | .group group => found.groupText group

/-- A reference to a group that must exist; it began `before` characters ago. -/
def groupPart (pattern : Pattern) (stream : TokenStream) (before group : Nat) :
    Except Refusal SubstitutePart :=
  if pattern.groupCount < group then .error (stream.faultBefore before (.invalidGroup group))
  else .ok (.group group)

/-- The reference between angle brackets, by name or by number. -/
def bracketedGroup (pattern : Pattern) (stream : TokenStream) :
    Except Refusal (SubstitutePart × TokenStream) := do
  let (opened, stream) ← stream.accept '<'
  if !opened then throw (stream.faultBefore 0 .missingAngle)
  let (name, stream) ← stream.name '>' "group name".toList
  let before := name.length + 1
  let group ←
    if isGroupName name then
      match pattern.names.lookup name with
      | some group => pure group
      | none => throw (.unknownGroup name)
    else
      match groupNumber? name with
      | some group => pure group
      | none => throw (stream.faultBefore before (.badGroupName name))
  return (← groupPart pattern stream before group, stream)

/-- A digit after a backslash: three octal digits are a character, all else is a group. -/
def digitPart (pattern : Pattern) (c : Char) (stream : TokenStream) :
    Except Refusal (SubstitutePart × TokenStream) := do
  let (second, stream) ← stream.takeWhile isAsciiDigit 1
  let (third, stream) ←
    if isOctalDigit c && !second.isEmpty && second.all isOctalDigit then
      stream.takeWhile isOctalDigit 1
    else pure ([], stream)
  let digits := c :: second ++ third
  if third.isEmpty then
    return (← groupPart pattern stream digits.length (digitsValue 10 digits), stream)
  let value := digitsValue 8 digits
  if 0o377 < value then
    throw (stream.faultBefore (digits.length + 1) (.octalTooLarge ('\\' :: digits)))
  return (.text [Char.ofNat value], stream)

/-- The part that an escape stands for. -/
def escapePart (pattern : Pattern) (c : Char) (stream : TokenStream) :
    Except Refusal (SubstitutePart × TokenStream) := do
  if c = 'g' then bracketedGroup pattern stream
  else if c = '0' then
    let (digits, stream) ← stream.takeWhile isOctalDigit 2
    return (.text [Char.ofNat (digitsValue 8 digits)], stream)
  else if isAsciiDigit c then digitPart pattern c stream
  else
    match Reader.controlEscape? c with
    | some code => return (.text [Char.ofNat code], stream)
    | none =>
      if isAsciiLetter c then throw (stream.faultBefore 2 (.badEscape ['\\', c]))
      return (.text ['\\', c], stream)

/-- The parts of what is ahead; `fuel` is more than the number of tokens. -/
def parts (pattern : Pattern) : (fuel : Nat) → TokenStream → Except Refusal Substitute
  | 0, _ => .ok []
  | fuel + 1, stream => do
    let (token, stream) ← stream.next
    match token with
    | none => return []
    | some (.plain c) => return .text [c] :: (← parts pattern fuel stream)
    | some (.escape c) =>
      let (part, stream) ← escapePart pattern c stream
      return part :: (← parts pattern fuel stream)

/-- Reads a substitute for the matches of a pattern. -/
def ofText (pattern : Pattern) (text : Text) : Except Refusal Substitute :=
  if text.contains '\\' then do
    let stream ← TokenStream.ofText text
    parts pattern (stream.ahead.length + 1) stream
  else .ok [.text text]

end Substitute

/-! ### Writing patterns and substitutes -/

/-- The characters that have a meaning of their own in patterns, and the blanks of ASCII. -/
def isPatternSign (c : Char) : Bool :=
  "\t\n\x0b\x0c\r #$&()*+-.?[\\]^\x7b|\x7d~".toList.contains c

/-- The pattern that matches a text and nothing else. -/
def escapePattern (text : Text) : Text :=
  text.flatMap fun c => if isPatternSign c then ['\\', c] else [c]

/-- The substitute that stands for a text as it is. -/
def escapeSubstitute (text : Text) : Text :=
  text.flatMap fun c => if c = '\\' then ['\\', '\\'] else [c]

end Stencil
