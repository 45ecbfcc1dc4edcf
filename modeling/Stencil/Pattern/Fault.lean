/-
Why a pattern or a substitute cannot be read. A fault has a cause and, nearly always, the position of
the character at which it shows; the wording adds line and column where the text has several lines.
-/
import Stencil.Text.Basic
import Stencil.Text.Lines
import Stencil.Text.Quoted

namespace Stencil

/-- The causes of faults in patterns and substitutes. -/
inductive FaultCause where
  | loneBackslash
  | badEscape (escape : Text)
  | incompleteEscape (escape : Text)
  | octalTooLarge (escape : Text)
  | missingBrace
  | undefinedCharacterName (name : Text)
  | unterminatedSet
  | badRange (first last : Text)
  | leastAboveMost
  | nothingToRepeat
  | multipleRepeat
  | unexpectedEnd
  | unknownExtension (extension : Text)
  | unterminatedComment
  | unterminatedGroup
  | unbalancedParenthesis
  | missingName (what : Text)
  | unterminatedName (terminator : Char)
  | badGroupName (name : Text)
  | unknownGroupName (name : Text)
  | redefinedGroupName (name : Text) (group earlier : Nat)
  | groupStillOpen
  | groupOfSameLookbehind
  | invalidGroup (group : Nat)
  | groupZero
  | tooManyBranches
  | missingFlag
  | missingFlagEnd
  | missingColon
  | unknownFlag
  | localeFlag
  | typeFlagsClash
  | typeFlagOff
  | globalFlagOn
  | globalFlagOff
  | flagOnAndOff
  | globalFlagsNotFirst
  | variableLookbehind
  | lookbehindTooFar
  | loopNotAllowed (operator : Text)
  | missingAngle
deriving Repr, DecidableEq

/-- The wording of a cause. -/
def FaultCause.message : FaultCause → String
  | .loneBackslash => "bad escape (end of pattern)"
  | .badEscape escape => "bad escape " ++ escape.str
  | .incompleteEscape escape => "incomplete escape " ++ escape.str
  | .octalTooLarge escape => "octal escape value " ++ escape.str ++ " outside of range 0-0o377"
  | .missingBrace => "missing \x7b"
  | .undefinedCharacterName name => "undefined character name " ++ name.quoted.str
  | .unterminatedSet => "unterminated character set"
  | .badRange first last => "bad character range " ++ first.str ++ "-" ++ last.str
  | .leastAboveMost => "min repeat greater than max repeat"
  | .nothingToRepeat => "nothing to repeat"
  | .multipleRepeat => "multiple repeat"
  | .unexpectedEnd => "unexpected end of pattern"
  | .unknownExtension extension => "unknown extension ?" ++ extension.str
  | .unterminatedComment => "missing ), unterminated comment"
  | .unterminatedGroup => "missing ), unterminated subpattern"
  | .unbalancedParenthesis => "unbalanced parenthesis"
  | .missingName what => "missing " ++ what.str
  | .unterminatedName terminator => "missing " ++ terminator.toString ++ ", unterminated name"
  | .badGroupName name => "bad character in group name " ++ name.quoted.str
  | .unknownGroupName name => "unknown group name " ++ name.quoted.str
  | .redefinedGroupName name group earlier =>
    "redefinition of group name " ++ name.quoted.str ++ " as group " ++ toString group ++
      "; was group " ++ toString earlier
  | .groupStillOpen => "cannot refer to an open group"
  | .groupOfSameLookbehind => "cannot refer to group defined in the same lookbehind subpattern"
  | .invalidGroup group => "invalid group reference " ++ toString group
  | .groupZero => "bad group number"
  | .tooManyBranches => "conditional backref with more than two branches"
  | .missingFlag => "missing flag"
  | .missingFlagEnd => "missing -, : or )"
  | .missingColon => "missing :"
  | .unknownFlag => "unknown flag"
  | .localeFlag => "bad inline flags: cannot use 'L' flag with a str pattern"
  | .typeFlagsClash => "bad inline flags: flags 'a', 'u' and 'L' are incompatible"
  | .typeFlagOff => "bad inline flags: cannot turn off flags 'a', 'u' and 'L'"
  | .globalFlagOn => "bad inline flags: cannot turn on global flag"
  | .globalFlagOff => "bad inline flags: cannot turn off global flag"
  | .flagOnAndOff => "bad inline flags: flag turned on and off"
  | .globalFlagsNotFirst => "global flags not at the start of the expression"
  | .variableLookbehind => "look-behind requires fixed-width pattern"
  | .lookbehindTooFar => "looks too much behind"
  | .loopNotAllowed operator => "internal: unsupported template operator " ++ operator.str
  | .missingAngle => "missing <"

/-- A cause and the position at which it shows. -/
structure Fault where
  cause : FaultCause
  position : Option Nat
deriving Repr, DecidableEq

/-- The line of a position, counted from one. -/
def lineOf (text : Text) (position : Nat) : Nat := Text.lineFeeds (text.take position) + 1

/-- The column of a position, counted from one. -/
def columnOf (text : Text) (position : Nat) : Nat :=
  ((text.take position).reverse.takeWhile (· != '\n')).length + 1

/-- The wording of a fault in a text. -/
def Fault.message (fault : Fault) (text : Text) : String :=
  match fault.position with
  | none => fault.cause.message
  | some position =>
    let place := fault.cause.message ++ " at position " ++ toString position
    if text.contains '\n' then
      place ++ " (line " ++ toString (lineOf text position) ++ ", column " ++
        toString (columnOf text position) ++ ")"
    else place

/-- What reading a pattern or a substitute can end in besides a result. Only a fault is the kind of
error that the callers foresee. -/
inductive Refusal where
  | fault (found : Fault)
  | repetitionTooLarge
  | incompatibleFlags
  | unknownGroup (name : Text)
deriving Repr, DecidableEq

end Stencil
