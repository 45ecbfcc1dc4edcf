/-
Replacement rules. A literal rule replaces a text by another; a pattern rule replaces every match of a
pattern by what its substitute makes of it. A rule that enforces presence fails where it finds
nothing to replace; any other leaves such a text alone.
-/
import Stencil.Failure
import Stencil.Name
import Stencil.Pattern.Substitute

namespace Stencil

/-- A replacement. -/
structure Rule where
  pattern : Text
  substitute : Text
  isRegex : Bool
  enforced : Bool
deriving Repr, DecidableEq

/-- The pattern of an identifier that is not part of a longer one. -/
def wholeIdentifierPattern (identifier : Text) : Text :=
  "(?<![\\w$])".toList ++ escapePattern identifier ++ "(?![\\w$])".toList

/-- The pattern of a dotted name with blanks allowed around the dots. -/
def qualifiedNamePattern (name : Text) : Text :=
  Text.joinWith "\\s*[.]\\s*".toList ((nameSegments name).map escapePattern)

namespace Rule

variable [CharacterNames]

/-- The rule that replaces an identifier, where it occurs as a whole, by a text as it is. -/
def wholeIdentifier (identifier substitute : Text) : Rule where
  pattern := wholeIdentifierPattern identifier
  substitute := escapeSubstitute substitute
  isRegex := true
  enforced := false

/-- Applies a literal rule. -/
def applyLiteral (owner : Text) (rule : Rule) (text : Text) : Except Abort Text :=
  if Text.occursIn rule.pattern text then .ok (Text.replaceAll rule.pattern rule.substitute text)
  else if rule.enforced then .error (.failure (.literalNotFound owner rule.pattern))
  else .ok text

/-- Applies a pattern rule. The substitute is read only where the pattern matches. -/
def applyPattern (owner : Text) (rule : Rule) (text : Text) : Except Abort Text :=
  match Pattern.ofText rule.pattern with
  | .error refusal => .error (refusal.abort (.badPattern owner rule.pattern))
  | .ok pattern =>
    if pattern.occursIn text then
      match Substitute.ofText pattern rule.substitute with
      | .error refusal => .error (refusal.abort (.badSubstitute owner rule.pattern rule.substitute))
      | .ok substitute => .ok (pattern.replaceAll substitute.render text)
    else if rule.enforced then .error (.failure (.patternNotFound owner rule.pattern))
    else .ok text

/-- Applies a rule to a text of the unit `owner`. -/
def apply (owner : Text) (rule : Rule) (text : Text) : Except Abort Text :=
  if rule.isRegex then applyPattern owner rule text else applyLiteral owner rule text

end Rule

end Stencil
