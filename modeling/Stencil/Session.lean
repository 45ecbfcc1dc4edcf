/-
Sessions. Where a log is kept and shown later, a session says everything at once: errors are printed
as they occur, notes and transformations if the messenger is verbose. Printing is a step like any
other. On a stream that does not take every character it can go wrong, and that ends the session.
-/
import Stencil.Workspace

namespace Stencil

/-- Who is told what happens: whether notes and transformations are wanted, and whether the output
stream takes ASCII only. -/
structure Messenger where
  verbose : Bool
  asciiOnly : Bool
deriving Repr, DecidableEq

/-- A world and what has been printed and warned of while it became what it is. -/
structure Console (World : Type) where
  world : World
  output : String
  errors : String
  warnings : List String
deriving Repr, DecidableEq

/-- A world before anything has been said. -/
def Console.start {World : Type} (world : World) : Console World := ⟨world, "", "", []⟩

/-- What ends a session early. -/
inductive Halt where
  | abort (abort : Abort)
  /-- Something could not be printed. No spec is to blame for that. -/
  | unprintable (fault : PrintFault)
deriving Repr, DecidableEq

/-- Work that is told to a messenger while it is done. -/
def Session (World Result : Type) : Type :=
  Messenger → Console World → Console World × Except Halt Result

namespace Session

variable {World Result : Type}

/-- One session after another, unless the first one was ended. -/
def andThen {First Second : Type} (first : Session World First)
    (second : First → Session World Second) : Session World Second := fun messenger console =>
  match first messenger console with
  | (console, .ok result) => second result messenger console
  | (console, .error halt) => (console, .error halt)

instance : Monad (Session World) where
  pure result := fun _ console => (console, .ok result)
  bind := andThen

/-- Prints an event. What has been printed of it stays if it cannot be printed to its end. -/
def say (event : Event) : Session World Unit := fun messenger console =>
  let (shown, fault?) := event.show messenger.verbose messenger.asciiOnly
  let console : Console World :=
    { console with
      output := console.output ++ shown
      errors := console.errors ++ printed event.errorPrints
      warnings := console.warnings ++ event.warning?.toList }
  match fault? with
  | none => (console, .ok ())
  | some fault => (console, .error (.unprintable fault))

/-- Prints events one after another. -/
def sayAll : Log → Session World Unit
  | [] => return
  | event :: events => do
    say event
    sayAll events

/-- Goes on with a result, or is ended. -/
def settle (outcome : Except Abort Result) : Session World Result := fun _ console =>
  (console, outcome.mapError .abort)

/-- The world as it is now. -/
def world : Session World World := fun _ console => (console, .ok console.world)

/-- Asks the workspace to emit a unit. -/
def emit (workspace : Workspace World) (name text : Text) : Session World Unit :=
  fun _ console =>
    let (world, emitted) := workspace.emit console.world name text
    ({ console with world := world },
      emitted.mapError fun failure => .abort (.failure failure))

/-- Goes on after a failure, and after a failure only. -/
def caught (session : Session World Result) : Session World (Except Failure Result) :=
  fun messenger console =>
    match session messenger console with
    | (console, .ok result) => (console, .ok (.ok result))
    | (console, .error (.abort (.failure failure))) => (console, .ok (.error failure))
    | (console, .error halt) => (console, .error halt)

end Session

end Stencil
