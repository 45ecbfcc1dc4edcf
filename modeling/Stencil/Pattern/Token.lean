/-
Tokens. Patterns and substitutes are read as a sequence of tokens, each a character or a backslash
with the character after it. A reader looks one token ahead, so a backslash with nothing after it is
refused as soon as the token before it has been taken.
-/
import Stencil.Text.Basic
import Stencil.Text.Digit
import Stencil.Pattern.Fault

namespace Stencil

/-- A character by itself, or behind a backslash. -/
inductive Token where
  | plain (c : Char)
  | escape (c : Char)
deriving Repr, DecidableEq

namespace Token

/-- The characters of a token. -/
def text : Token → Text
  | .plain c => [c]
  | .escape c => ['\\', c]

/-- The number of characters of a token. -/
def width : Token → Nat
  | .plain _ => 1
  | .escape _ => 2

/-- Whether the token is this very character. -/
def isPlain (token : Token) (c : Char) : Bool := token == .plain c

end Token

/-- The tokens of a text, and whether a lone backslash is left at its end. -/
def tokenize : Text → List Token × Bool
  | [] => ([], false)
  | ['\\'] => ([], true)
  | '\\' :: c :: rest => ((tokenize rest).1.cons (.escape c), (tokenize rest).2)
  | c :: rest => ((tokenize rest).1.cons (.plain c), (tokenize rest).2)

/-- The tokens ahead and the position of the first of them. -/
structure TokenStream where
  ahead : List Token
  position : Nat
  loneBackslash : Bool
deriving Repr, DecidableEq

namespace TokenStream

/-- A fault that shows `before` characters before the present position. -/
def faultBefore (stream : TokenStream) (before : Nat) (cause : FaultCause) : Refusal :=
  .fault ⟨cause, some (stream.position - before)⟩

/-- Refuses a stream that has come upon a lone backslash. -/
def checked (stream : TokenStream) : Except Refusal TokenStream :=
  if stream.ahead.isEmpty && stream.loneBackslash then
    .error (stream.faultBefore 0 .loneBackslash)
  else .ok stream

/-- The stream at the start of a text. -/
def ofText (text : Text) : Except Refusal TokenStream :=
  checked ⟨(tokenize text).1, 0, (tokenize text).2⟩

/-- Takes the next token, if there is one. -/
def next (stream : TokenStream) : Except Refusal (Option Token × TokenStream) :=
  match stream.ahead with
  | [] => .ok (none, stream)
  | token :: ahead =>
    match checked { stream with ahead := ahead, position := stream.position + token.width } with
    | .ok stream => .ok (some token, stream)
    | .error refusal => .error refusal

/-- Takes the next token if it is the given character. -/
def accept (stream : TokenStream) (c : Char) : Except Refusal (Bool × TokenStream) :=
  match stream.ahead with
  | token :: _ =>
    if token.isPlain c then
      match stream.next with
      | .ok (_, stream) => .ok (true, stream)
      | .error refusal => .error refusal
    else .ok (false, stream)
  | [] => .ok (false, stream)

/-- Takes at most `count` characters of a class. -/
def takeWhile (inClass : Char → Bool) :
    (count : Nat) → TokenStream → Except Refusal (Text × TokenStream)
  | 0, stream => .ok ([], stream)
  | count + 1, stream =>
    match stream.ahead with
    | .plain c :: _ =>
      if inClass c then do
        let (_, stream) ← stream.next
        let (text, stream) ← takeWhile inClass count stream
        return (c :: text, stream)
      else .ok ([], stream)
    | _ => .ok ([], stream)

/-- Takes the name up to a terminator and the terminator itself. `taken` is the name so far, and
`fuel` is more than the number of tokens ahead. -/
def takeName (terminator : Char) (what : Text) :
    (fuel : Nat) → (taken : Text) → TokenStream → Except Refusal (Text × TokenStream)
  | 0, taken, stream => .ok (taken, stream)
  | fuel + 1, taken, stream => do
    let (token, stream) ← stream.next
    match token with
    | none =>
      if taken.isEmpty then .error (stream.faultBefore 0 (.missingName what))
      else .error (stream.faultBefore taken.length (.unterminatedName terminator))
    | some token =>
      if token.isPlain terminator then
        if taken.isEmpty then .error (stream.faultBefore 1 (.missingName what))
        else .ok (taken, stream)
      else takeName terminator what fuel (taken ++ token.text) stream

/-- The name up to a terminator. -/
def name (stream : TokenStream) (terminator : Char) (what : Text) :
    Except Refusal (Text × TokenStream) :=
  takeName terminator what (stream.ahead.length + 1) [] stream

end TokenStream

/-! ### Numbers -/

/-- ASCII digits. -/
def isAsciiDigit (c : Char) : Bool := c.isDigit

/-- Octal digits. -/
def isOctalDigit (c : Char) : Bool := '0' ≤ c && c ≤ '7'

/-- Hexadecimal digits. -/
def isHexDigit (c : Char) : Bool :=
  c.isDigit || ('a' ≤ c && c ≤ 'f') || ('A' ≤ c && c ≤ 'F')

/-- ASCII letters. -/
def isAsciiLetter (c : Char) : Bool := c.isAlpha

/-- The value of a hexadecimal digit. -/
def hexValue (c : Char) : Nat :=
  if c.isDigit then c.toNat - 0x30
  else if 'a' ≤ c then c.toNat - 0x61 + 10
  else c.toNat - 0x41 + 10

/-- The number that digits spell in a base. -/
def digitsValue (base : Nat) (digits : Text) : Nat :=
  digits.foldl (fun value c => value * base + hexValue c) 0

/-- Digits of any script, with single low lines allowed between them; `value` is what has been read
and `gap` tells that a digit has to come. -/
def readDigits : (value : Nat) → (gap : Bool) → Text → Option Nat
  | value, gap, [] => if gap then none else some value
  | value, gap, c :: rest =>
    match digitValue? c with
    | some digit => readDigits (value * 10 + digit) false rest
    | none => if c = '_' && !gap then readDigits value true rest else none

/-- The number that a group reference spells: digits, perhaps signed, perhaps between blanks. A
negative number is none. -/
def groupNumber? (text : Text) : Option Nat :=
  let padding : Char → Bool := fun c => isBlank c && !(0x1C ≤ c.toNat && c.toNat ≤ 0x1F)
  let core := ((text.dropWhile padding).reverse.dropWhile padding).reverse
  match core with
  | '+' :: digits => readDigits 0 true digits
  | '-' :: digits => (readDigits 0 true digits).filter (· == 0)
  | digits => readDigits 0 true digits

end Stencil
