/-
Target names. An instantiation without a name of its own is named for its types: the simple name of
the source with, for every type, its simple name and those of its arguments, each with a capital, and
`Array` for every pair of square brackets.
-/
import Stencil.Failure
import Stencil.Identifier
import Stencil.Name

namespace Stencil

/-- Spells pairs of square brackets, with blanks between them or none, as words. Behind an opening
bracket the blanks seen since are kept, last one first, until it is known whether it is closed. -/
def spellArrays : (blanks : Option Text) → Text → Text
  | none, [] => []
  | some blanks, [] => '[' :: blanks.reverse
  | none, c :: rest => if c = '[' then spellArrays (some []) rest else c :: spellArrays none rest
  | some blanks, c :: rest =>
    if c = ']' then " Array ".toList ++ spellArrays none rest
    else if isBlank c then spellArrays (some (c :: blanks)) rest
    else if c = '[' then '[' :: blanks.reverse ++ spellArrays (some []) rest
    else '[' :: blanks.reverse ++ c :: spellArrays none rest

/-- A dot and a further segment follow, perhaps after blanks. -/
def isLinked (after : Text) : Bool :=
  match after.dropBlanks with
  | '.' :: rest => !endsWord (Text.dropBlanks rest)
  | _ => false

/-- What a type contributes to a target name. -/
def typeComponent (type : Text) : Text :=
  let runs := identifierRuns (spellArrays none type)
  (runs.filter fun run => !isLinked run.2).flatMap fun run => capitalise run.1

/-- Where the types go in a target name. -/
inductive Placement where
  | append
  | prepend
  /-- Any other word, which cannot be followed. -/
  | unknown (word : Text)
deriving Repr, DecidableEq

namespace Placement

/-- The placement that a word asks for. -/
def ofText (word : Text) : Placement :=
  if word = "APPEND".toList then append
  else if word = "PREPEND".toList then prepend
  else unknown word

/-- The word for a placement. -/
def text : Placement → Text
  | append => "APPEND".toList
  | prepend => "PREPEND".toList
  | unknown word => word

end Placement

/-- The target name of a source at some types. -/
def targetName (source : Text) (types : List Text) (placement : Placement) : Except Abort Text :=
  let components := types.flatMap typeComponent
  match placement with
  | .append => .ok (source ++ components)
  | .prepend => .ok (components ++ source)
  | .unknown word => .error (.unknownPlacement word)

end Stencil
