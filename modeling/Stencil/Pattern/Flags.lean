/-
Flags. A letter between `(?` and `)` or `:` changes how what follows is read: whether case counts,
where lines start and end, what the dot accepts, whether blanks count, and whether the named classes
go beyond ASCII.
-/
import Stencil.Pattern.CharTest

namespace Stencil

/-- The flags that have a letter. -/
inductive Flag where
  | ignoreCase
  | locale
  | multiline
  | dotAll
  | verbose
  | ascii
  | loopFree
  | unicode
deriving Repr, DecidableEq

namespace Flag

/-- The flag of a letter. -/
def ofChar? : Char → Option Flag
  | 'i' => some ignoreCase
  | 'L' => some locale
  | 'm' => some multiline
  | 's' => some dotAll
  | 'x' => some verbose
  | 'a' => some ascii
  | 't' => some loopFree
  | 'u' => some unicode
  | _ => none

/-- The flags that say which characters the named classes have, of which one at most can be on. -/
def isType : Flag → Bool
  | ascii | locale | unicode => true
  | _ => false

/-- The flag that can only be on for a whole pattern. -/
def isGlobal : Flag → Bool
  | loopFree => true
  | _ => false

end Flag

/-- The state of the flags at some point of a pattern. -/
structure Flags where
  ignoreCase : Bool
  multiline : Bool
  dotAll : Bool
  verbose : Bool
  ascii : Bool
deriving Repr, DecidableEq

namespace Flags

/-- The flags of replacement rules: every line has a start and an end, and the dot accepts all. -/
def ofRules : Flags := ⟨false, true, true, false, false⟩

/-- Turns flags on and off. -/
def set (flags : Flags) (on off : List Flag) : Flags where
  ignoreCase := (flags.ignoreCase || on.contains .ignoreCase) && !off.contains .ignoreCase
  multiline := (flags.multiline || on.contains .multiline) && !off.contains .multiline
  dotAll := (flags.dotAll || on.contains .dotAll) && !off.contains .dotAll
  verbose := (flags.verbose || on.contains .verbose) && !off.contains .verbose
  ascii := on.contains .ascii || (flags.ascii && !on.contains .unicode)

/-- How characters are compared under these flags. -/
def fold (flags : Flags) : Fold :=
  if flags.ignoreCase then (if flags.ascii then .ascii else .full) else .exact

end Flags

end Stencil
