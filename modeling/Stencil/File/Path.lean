/-
Paths as texts. A path is a row of components with slashes between them. Nothing is resolved here: that
needs a tree of files.
-/
import Stencil.Text.Basic

namespace Stencil

namespace Path

/-- The components of a path. More slashes than one count as one. -/
def components (path : Text) : List Text :=
  (Text.splitAtAll (· == '/') path).filter fun component => !component.isEmpty

/-- Whether a path begins at the root of everything. -/
def isAbsolute : Text → Bool
  | '/' :: _ => true
  | _ => false

/-- Whether a path ends in a slash, and so can only be a directory. -/
def endsInSlash (path : Text) : Bool := path.getLast? == some '/'

/-- A path without the slashes at its end, unless it has nothing else. -/
def dropSlashes (path : Text) : Text :=
  let trimmed := (path.reverse.dropWhile (· == '/')).reverse
  if trimmed.isEmpty then path else trimmed

/-- What stands behind the last slash. -/
def leaf (path : Text) : Text := (path.reverse.takeWhile (· != '/')).reverse

/-- What stands before the last slash. -/
def parent (path : Text) : Text := dropSlashes (path.reverse.dropWhile (· != '/')).reverse

/-- A path seen from a root. An absolute path is itself. -/
def join (root path : Text) : Text :=
  if isAbsolute path || root.isEmpty then path
  else if endsInSlash root then root ++ path
  else root ++ '/' :: path

/-- The file of a unit: packages are directories. -/
def ofUnit (root extension name : Text) : Text :=
  join root (name.map (fun c => if c = '.' then '/' else c) ++ extension)

end Path

end Stencil
