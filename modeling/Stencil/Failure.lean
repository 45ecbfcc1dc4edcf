/-
What can go wrong. A failure concerns one spec of a batch: it is reported, and the batch goes on. An
abort ends the whole call. Both are causes; their wording is given here and nowhere else.
-/
import Stencil.Bracket
import Stencil.File.Fault
import Stencil.Text.Utf8
import Stencil.Pattern.Fault

namespace Stencil

/-- Why a spec cannot be expanded. -/
inductive Failure where
  | sourceNotFound (reason : String)
  | declarationNotFound (reason : String)
  | directiveNotFound (sigil name : Text)
  | literalNotFound (owner pattern : Text)
  | patternNotFound (owner pattern : Text)
  | badPattern (owner pattern : Text) (fault : Fault)
  | badSubstitute (owner pattern substitute : Text) (fault : Fault)
  | derivationWithTypes (target : Text) (typeCount : Nat)
  | typeCountMismatch (typeCount : Nat) (parameters : List Text)
  | targetIsSource (target : Text)
  | targetTaken (target : Text)
  | emitFailed (reason : String)
  | unbalanced (fault : BracketFault)
deriving Repr, DecidableEq

/-- The wording of a failure. -/
def Failure.message : Failure → String
  | .sourceNotFound reason => reason
  | .declarationNotFound reason => reason
  | .directiveNotFound sigil name => "directive `" ++ sigil.str ++ name.str ++ "` not found"
  | .literalNotFound owner pattern =>
    "search term not found in " ++ owner.str ++ ": `" ++ pattern.str ++ "`"
  | .patternNotFound owner pattern =>
    "regex search term not found in " ++ owner.str ++ ": `" ++ pattern.str ++ "`"
  | .badPattern owner pattern fault =>
    "bad regex pattern `" ++ pattern.str ++ "` for " ++ owner.str ++ ": " ++ fault.message pattern
  | .badSubstitute owner pattern substitute fault =>
    "bad regex substitute `" ++ substitute.str ++ "` for pattern `" ++ pattern.str ++ "` in " ++
      owner.str ++ ": " ++ fault.message substitute
  | .derivationWithTypes target typeCount =>
    "derivation `" ++ target.str ++ "` takes no type bindings (got " ++ toString typeCount ++ ")"
  | .typeCountMismatch typeCount parameters =>
    toString typeCount ++ " type binding(s) supplied for " ++ toString parameters.length ++
      " type parameter(s) " ++ (Text.quotedList parameters).str
  | .targetIsSource target => "target name `" ++ target.str ++ "` equals the source name"
  | .targetTaken target => "target name `" ++ target.str ++ "` already used in this batch"
  | .emitFailed reason => reason
  | .unbalanced fault => fault.message

/-- Why a call ends without a result. -/
inductive Abort where
  | failure (cause : Failure)
  | noFreeMarker
  | repetitionTooLarge
  | incompatibleFlags
  | unknownGroup (name : Text)
  | missingKey (key : Text)
  | noSpecs (source : Text)
  | unknownPlacement (placement : Text)
  | notSet
  | rulesRefused
  | rulesFileNotFound (file : Text)
  | undecodable (fault : OctetFault)
  | unreadable (fault : FileFault)
deriving Repr, DecidableEq

/-- The wording of an abort. -/
def Abort.message : Abort → String
  | .failure cause => cause.message
  | .noFreeMarker => "error: no Private Use Area marker is absent from the string"
  | .repetitionTooLarge => "the repetition number is too large"
  | .incompatibleFlags => "ASCII and UNICODE flags are incompatible"
  | .unknownGroup name => "unknown group name " ++ name.quoted.str
  | .missingKey key => key.quoted.str
  | .noSpecs source => "no instantiations supplied for `" ++ source.str ++ "`"
  | .unknownPlacement placement => "error: invalid type name position `" ++ placement.str ++ "`"
  | .notSet => "'NoneType' object is not iterable"
  | .rulesRefused => "1"
  | .rulesFileNotFound file => "rules file `" ++ file.str ++ "` not found"
  | .undecodable fault => fault.message
  | .unreadable fault => fault.message

/-- The abort of a refusal that is no fault, or the failure that a fault makes. -/
def Refusal.abort (failureOf : Fault → Failure) : Refusal → Abort
  | .fault found => .failure (failureOf found)
  | .repetitionTooLarge => .repetitionTooLarge
  | .incompatibleFlags => .incompatibleFlags
  | .unknownGroup name => .unknownGroup name

end Stencil
