/-
Reports. Expanding the specs of one source leaves one record per spec, in order: the unit that was
emitted, or the failure of one that was not.
-/
import Stencil.Failure

namespace Stencil

/-- What became of one spec, under the qualified name of its target. -/
inductive Record where
  | emitted (target : Text)
  | failed (target : Text) (failure : Failure)
deriving Repr, DecidableEq

/-- What became of the specs of one source. -/
structure Report where
  source : Text
  records : List Record
deriving Repr, DecidableEq

namespace Report

/-- The report before any spec has been looked at. -/
def start (source : Text) : Report := ⟨source, []⟩

/-- One more record. -/
def add (report : Report) (record : Record) : Report :=
  { report with records := report.records ++ [record] }

/-- The names of the emitted units, in order. -/
def emitted (report : Report) : List Text :=
  report.records.filterMap fun
    | .emitted target => some target
    | .failed _ _ => none

/-- The failures with their targets, in order. -/
def failures (report : Report) : List (Text × Failure) :=
  report.records.filterMap fun
    | .emitted _ => none
    | .failed target failure => some (target, failure)

/-- Whether nothing failed. -/
def successful (report : Report) : Bool := report.failures.isEmpty

end Report

end Stencil
