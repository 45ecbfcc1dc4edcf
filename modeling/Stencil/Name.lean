/-
Dotted names. A qualified name is a simple name behind a package, with a dot between them; a name
without a dot has no package.
-/
import Stencil.Text.Basic
import Stencil.Text.Case

namespace Stencil

/-- The part of a dotted name behind its last dot. -/
def simpleName (name : Text) : Text :=
  (name.reverse.takeWhile (· != '.')).reverse

/-- The part of a dotted name before its last dot, empty if there is none. -/
def packageName (name : Text) : Text :=
  ((name.reverse.dropWhile (· != '.')).drop 1).reverse

/-- The simple name in a package. -/
def qualifyName (package name : Text) : Text :=
  if package.isEmpty then name else package ++ '.' :: name

/-- The segments between the dots of a name. -/
def nameSegments (name : Text) : List Text :=
  Text.splitAtAll (· == '.') name

/-- The text with its first character in upper case, which may be several characters. -/
def capitalise : Text → Text
  | [] => []
  | c :: rest => upperCase c ++ rest

end Stencil
