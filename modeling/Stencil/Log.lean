/-
What a call says. Every step puts events into a log, whether anybody listens or not; how much of the
log is shown is decided when it is rendered. Errors always go to the error stream. Notes and the
before and after of every transformation go to the output stream, in verbose mode only.
-/
import Stencil.Failure

namespace Stencil

/-- Something said on the way. -/
inductive Event where
  | error (message : String)
  /-- The cause of the error before it: its kind and wording. -/
  | trace (kind message : String)
  | note (message : String)
  | transformation (label : String) (before after : Text)
  | warning (message : String)
deriving Repr, DecidableEq

/-- Events in the order in which they were said. -/
abbrev Log := List Event

/-! ### Rendering -/

/-- The number of signs in a divider. -/
def dividerLength : Nat := 48

/-- A line of signs. -/
def divider (sign : Char) : String := String.ofList (List.replicate dividerLength sign)

/-- The texts that an event prints to the output stream in verbose mode, each followed by a line
feed. -/
def Event.prints : Event → List String
  | .note message => ["note: " ++ message]
  | .transformation label before after =>
    [divider '<' ++ " BEFORE " ++ label,
      before.str,
      divider '=' ++ (if before = after then " (no change)" else ""),
      after.str,
      divider '>' ++ " AFTER " ++ label,
      "\n\n\n"]
  | _ => []

/-- The texts that an event prints to the error stream. -/
def Event.errorPrints : Event → List String
  | .error message => ["error: " ++ message]
  | .trace kind message =>
    ["traceback: " ++ kind ++ (if message.isEmpty then "" else ": " ++ message)]
  | _ => []

/-- The text of a warning. -/
def Event.warning? : Event → Option String
  | .warning message => some message
  | _ => none

/-- Texts printed one after another. -/
def printed (texts : List String) : String :=
  String.join (texts.map fun text => text ++ "\n")

namespace Log

/-- What a log shows on the output stream. -/
def output (verbose : Bool) (log : Log) : String :=
  if verbose then printed (log.flatMap Event.prints) else ""

/-- What a log shows on the error stream. -/
def errors (log : Log) : String := printed (log.flatMap Event.errorPrints)

/-- The warnings of a log. -/
def warnings (log : Log) : List String := log.filterMap Event.warning?

end Log

/-! ### Streams that take ASCII only -/

/-- Why an event could not be printed. -/
inductive PrintFault where
  | transformation
  /-- The characters of a text, from a position on, that the stream does not take. -/
  | characters (position : Nat) (refused : Text)
deriving Repr, DecidableEq

/-- The wording of a printing fault. -/
def PrintFault.message : PrintFault → String
  | .transformation =>
    "bad print due to non-Unicode terminal encoding. " ++
      "Try setting the `PYTHONIOENCODING` environment variable to `utf-8`."
  | .characters position refused =>
    let what :=
      match refused with
      | [c] => "character '" ++ (numberEscape c).str ++ "' in position " ++ toString position
      | _ =>
        "characters in position " ++ toString position ++ "-" ++
          toString (position + refused.length - 1)
    "'ascii' codec can't encode " ++ what ++ ": ordinal not in range(128)"

/-- Whether a character is in ASCII. -/
def isAscii (c : Char) : Bool := c.toNat < 0x80

/-- What a stream that takes ASCII only shows of some texts: all before the first that it refuses,
which comes along. -/
def printedAscii : List String → String × Option String
  | [] => ("", none)
  | text :: texts =>
    if text.toList.all isAscii then
      let (rest, refused) := printedAscii texts
      (text ++ "\n" ++ rest, refused)
    else ("", some text)

/-- What an event shows on an output stream, and why it did not get further. -/
def Event.show (verbose asciiOnly : Bool) (event : Event) : String × Option PrintFault :=
  if !verbose then ("", none)
  else if !asciiOnly then (printed event.prints, none)
  else
    match printedAscii event.prints with
    | (shown, none) => (shown, none)
    | (shown, some refused) =>
      match event with
      | .transformation _ _ _ => (shown, some .transformation)
      | _ =>
        let text := refused.toList
        let position := (text.takeWhile isAscii).length
        (shown, some (.characters position ((text.drop position).takeWhile (!isAscii ·))))

/-! ### Runs -/

/-- A run: what was said, and the result or what ended it. -/
structure Run (Result : Type) where
  log : Log
  outcome : Except Abort Result

namespace Run

/-- A run that says nothing. -/
def quiet {Result : Type} (outcome : Except Abort Result) : Run Result := ⟨[], outcome⟩

/-- A run that only says something. -/
def say (event : Event) : Run Unit := ⟨[event], .ok ()⟩

/-- One run after another, unless the first one was ended. -/
def andThen {First Second : Type} (first : Run First) (second : First → Run Second) : Run Second :=
  match first.outcome with
  | .ok result => ⟨first.log ++ (second result).log, (second result).outcome⟩
  | .error abort => ⟨first.log, .error abort⟩

instance : Monad Run where
  pure result := ⟨[], .ok result⟩
  bind := andThen

end Run

end Stencil
