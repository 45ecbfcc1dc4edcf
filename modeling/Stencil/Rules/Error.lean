/-
Errors in rules. An error has a cause and the lines that it concerns; reading rules stops at the first
one.
-/
import Stencil.Declaration
import Stencil.Log

namespace Stencil

/-- Why rules are refused. -/
inductive RulesCause where
  | invalidSyntax
  | templateById (id : Text)
  | templateDeclared (name : Text)
  | unknownClass (className : Text)
  | subordinateByName (className name : Text)
  | withoutTemplate (className : Text)
  | idDeclared (id : Text)
  | strayAttribute
  | unknownAttribute (word className : Text)
  | straySubstitution
  | strayContinuation
  | invalidSpecification (text : Text) (setting : Attribute)
  | invalidValue (text : Text) (setting : Attribute)
  | derivationWithoutName
  | noSubstitutions (className : Text)
  | missingArrow (substitution : Text)
  | emptyPattern (substitution : Text)
  | badPattern (pattern : Text) (fault : Fault)
  | badSubstitute (substitute pattern : Text) (fault : Fault)
  | missingAttribute (setting : Attribute) (className : Text)
  | withoutSubordinates (template : Text)
deriving Repr, DecidableEq

/-- What rules look like. -/
def rulesHelp : String :=
  "In Templex rules syntax, a line must be one of the following:\n" ++
  "(1) whitespace-only;\n" ++
  "(2) a comment (beginning with `#`);\n" ++
  "(3) a template declaration (`Template: «qualified.SourceName»`);\n" ++
  "(4) an instantiation or derivation declaration (`Instantiation: #«id»`, `Derivation: #«id»`);\n" ++
  "(5) the start of an attribute declaration (`- «name»: «value»`);\n" ++
  "(6) the start of a substitution declaration (`* «pattern» --> «substitute»`);\n" ++
  "(7) a continuation (beginning with whitespace).\n" ++
  "- Note for (4): an instantiation or derivation belongs to the closest preceding template.\n" ++
  "- Note for (6): the delimiter `-->` declares a literal substitution,\n" ++
  "  and the delimiter `~~>` declares a regex substitution.\n" ++
  "  The number of hyphens (or tildes) may be arbitrarily increased\n" ++
  "  should «pattern» contain the shorter delimiter.\n" ++
  "  The bullet `*` requires «pattern» to be present;\n" ++
  "  the bullet `?` makes the substitution best effort.\n" ++
  "- Note for (7): continuations are only allowed for attribute declarations\n" ++
  "  and for substitution declarations.\n"

/-- The wording of a cause. -/
def RulesCause.message : RulesCause → String
  | .invalidSyntax => "invalid syntax\n\n" ++ rulesHelp
  | .templateById id => "`Template` requires a qualified name, not an id `#" ++ id.str ++ "`"
  | .templateDeclared name => "template already declared for `" ++ name.str ++ "`"
  | .unknownClass className => "unrecognised declaration class `" ++ className.str ++ "`"
  | .subordinateByName className name =>
    "`" ++ className.str ++ "` requires an id `#«id»`, not a name `" ++ name.str ++ "`"
  | .withoutTemplate className =>
    "`" ++ className.str ++ "` without a preceding `Template` declaration"
  | .idDeclared id => "declaration already made with id `" ++ id.str ++ "`"
  | .strayAttribute => "attribute declaration without an active class declaration"
  | .unknownAttribute word className =>
    "unrecognised attribute `" ++ word.str ++ "` for `" ++ className.str ++ "`"
  | .straySubstitution => "substitution declaration without an active class declaration"
  | .strayContinuation => "continuation only allowed for attribute or substitution declarations"
  | .invalidSpecification text setting =>
    "invalid specification `" ++ text.str ++ "` for attribute `" ++ setting.word.str ++ "`"
  | .invalidValue text setting =>
    "invalid value `" ++ text.str ++ "` for attribute `" ++ setting.word.str ++ "`"
  | .derivationWithoutName => "invalid value `NONE` for attribute `name` of `Derivation`"
  | .noSubstitutions className =>
    "class `" ++ className.str ++ "` does not allow substitutions"
  | .missingArrow substitution =>
    "missing delimiter `-->` or `~~>` in substitution `" ++ substitution.str ++ "`"
  | .emptyPattern substitution => "empty pattern in substitution `" ++ substitution.str ++ "`"
  | .badPattern pattern _ => "bad regex pattern `" ++ pattern.str ++ "`"
  | .badSubstitute substitute pattern _ =>
    "bad regex substitute `" ++ substitute.str ++ "` for pattern `" ++ pattern.str ++ "`"
  | .missingAttribute setting className =>
    "missing attribute `" ++ setting.word.str ++ "` for " ++ className.str
  | .withoutSubordinates template =>
    "no instantiations supplied for template `" ++ template.str ++ "`"

/-- The fault of a pattern or substitute behind a cause, in words. -/
def RulesCause.trace? : RulesCause → Option String
  | .badPattern pattern fault => some (fault.message pattern)
  | .badSubstitute substitute _ fault => some (fault.message substitute)
  | _ => none

/-- A cause and the first and last of the lines that it concerns. -/
structure RulesError where
  first : Nat
  last : Nat
  cause : RulesCause
deriving Repr, DecidableEq

namespace RulesError

/-- The lines that an error concerns, in words. -/
def lines (error : RulesError) : String :=
  if error.first = error.last then "line " ++ toString error.first
  else "lines " ++ toString error.first ++ " to " ++ toString error.last

/-- The wording of an error in a file. -/
def message (error : RulesError) (file : Text) : String :=
  "`" ++ file.str ++ "`, " ++ error.lines ++ ": " ++ error.cause.message

/-- What is said of an error in a file. -/
def events (error : RulesError) (file : Text) : Log :=
  .error (error.message file) ::
    match error.cause.trace? with
    | some trace => [.trace "re.error" trace]
    | none => []

end RulesError

/-- Why reading rules stops: an error in the rules, or an abort. -/
inductive Stop where
  | refused (error : RulesError)
  | aborted (abort : Abort)
deriving Repr, DecidableEq

end Stencil
