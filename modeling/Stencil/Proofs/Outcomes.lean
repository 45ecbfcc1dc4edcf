/-
This file proves how runs end and what they say, step by step. A run that is made of two ends as the
second one does, unless the first one was ended already; and what is true of everything that both of
them say is true of everything that the whole run says.
-/
import Stencil.Log

namespace Stencil

/-! ### Outcomes -/

instance decidableEqExcept {Error Result : Type} [DecidableEq Error] [DecidableEq Result] :
    DecidableEq (Except Error Result)
  | .ok first, .ok second => decidable_of_iff (first = second) ⟨congrArg _, Except.ok.inj⟩
  | .error first, .error second => decidable_of_iff (first = second) ⟨congrArg _, Except.error.inj⟩
  | .ok _, .error _ => isFalse nofun
  | .error _, .ok _ => isFalse nofun

theorem exists_ok_of_bind {Error First Second : Type} {first : Except Error First}
    {second : First → Except Error Second} {result : Second}
    (returned : (first >>= second) = .ok result) :
    ∃ middle, first = .ok middle ∧ second middle = .ok result := by
  cases first with
  | error cause => cases returned
  | ok middle => exact ⟨middle, rfl, returned⟩

theorem exists_ok_of_map {Error First Second : Type} {first : Except Error First}
    {change : First → Second} {result : Second} (returned : first.map change = .ok result) :
    ∃ middle, first = .ok middle ∧ change middle = result := by
  cases first with
  | error cause => cases returned
  | ok middle => exact ⟨middle, rfl, Except.ok.inj returned⟩

theorem eq_error_of_map {Error First Second : Type} {first : Except Error First}
    {change : First → Second} {error : Error} (mapped : first.map change = .error error) :
    first = .error error := by
  cases first <;> cases mapped
  rfl

namespace Run

theorem outcome_bind {First Second : Type} (first : Run First) (second : First → Run Second) :
    (first >>= second).outcome = first.outcome >>= fun result => (second result).outcome := by
  show (first.andThen second).outcome = _
  rw [andThen]
  cases first.outcome <;> rfl

theorem outcome_quiet {Result : Type} (outcome : Except Abort Result) :
    (quiet outcome).outcome = outcome := rfl

end Run

/-! ### Logs in parts -/

theorem printed_append (first rest : List String) :
    printed (first ++ rest) = printed first ++ printed rest := by
  rw [printed, List.map_append, String.join_append]
  rfl

namespace Log

theorem output_append (verbose : Bool) (first rest : Log) :
    output verbose (first ++ rest) = output verbose first ++ output verbose rest := by
  cases verbose with
  | false => rfl
  | true =>
    show printed ((first ++ rest).flatMap Event.prints) = _
    rw [List.flatMap_append, printed_append]
    rfl

theorem errors_append (first rest : Log) :
    errors (first ++ rest) = errors first ++ errors rest := by
  rw [errors, List.flatMap_append, printed_append]
  rfl

theorem warnings_append (first rest : Log) :
    warnings (first ++ rest) = warnings first ++ warnings rest :=
  List.filterMap_append

theorem errors_cons (message : String) (log : Log) :
    errors (.error message :: log) = "error: " ++ message ++ "\n" ++ errors log := by
  rw [← List.singleton_append, errors_append]
  refine congrArg (· ++ errors log) ?_
  simp [errors, Event.errorPrints, printed]

end Log

/-! ### What is said and how it ends -/

/-- A run that says and ends in nothing but what two tests allow. -/
structure Run.Only {Result : Type} (speaks : Event → Prop) (ends : Abort → Prop)
    (run : Run Result) : Prop where
  events : ∀ event ∈ run.log, speaks event
  abort : ∀ abort, run.outcome = .error abort → ends abort

namespace Run.Only

variable {speaks : Event → Prop} {ends : Abort → Prop}

theorem pure {Result : Type} (result : Result) :
    Only speaks ends (Pure.pure result : Run Result) :=
  ⟨fun _ member => (nomatch member), fun _ ended => (nomatch ended)⟩

theorem quiet {Result : Type} {outcome : Except Abort Result}
    (abort : ∀ abort, outcome = .error abort → ends abort) : Only speaks ends (Run.quiet outcome) :=
  ⟨fun _ member => (nomatch member), abort⟩

theorem bind {First Second : Type} {first : Run First} {second : First → Run Second}
    (before : Only speaks ends first) (after : ∀ result, Only speaks ends (second result)) :
    Only speaks ends (first >>= second) := by
  show Only speaks ends (first.andThen second)
  rw [andThen]
  cases ended : first.outcome with
  | error abort =>
    refine ⟨before.events, fun other same => ?_⟩
    cases same
    exact before.abort abort ended
  | ok result =>
    refine ⟨fun event member => ?_, (after result).abort⟩
    rcases List.mem_append.mp member with said | later
    · exact before.events event said
    · exact (after result).events event later

end Run.Only

end Stencil
