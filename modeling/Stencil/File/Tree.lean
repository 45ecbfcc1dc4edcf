/-
Trees of files. A tree lists its files and directories by place, that is, by the names on the way from
its root, which is a directory without an entry of its own. A path is walked component by component,
from the root if it is absolute and else from the place that is home; every component but the last
must lead to a directory that is there.
-/
import Stencil.File.Fault
import Stencil.File.Path
import Stencil.Text.Utf8

namespace Stencil

/-- The names on the way from the root of a tree. -/
abbrev Place := List Text

/-- What can be at a place. -/
inductive FileNode where
  | file (octets : List UInt8)
  | directory
deriving Repr, DecidableEq

/-- Files and directories by place, and the place from which relative paths lead on. -/
structure FileTree where
  entries : List (Place × FileNode)
  home : Place
deriving Repr, DecidableEq

namespace FileTree

/-- The tree that has nothing but its root, which is home. -/
def empty : FileTree := ⟨[], []⟩

/-- What is at a place. -/
def node? (tree : FileTree) (place : Place) : Option FileNode :=
  if place.isEmpty then some .directory else tree.entries.lookup place

/-- The tree with something at a place, instead of what was there. -/
def put (tree : FileTree) (place : Place) (node : FileNode) : FileTree :=
  { tree with entries := tree.entries.filter (fun entry => entry.1 != place) ++ [(place, node)] }

/-! ### Walking -/

/-- From a place, which must be a directory, to the place that a component names. Above the root is the
root. -/
def enter (tree : FileTree) (here : Place) (component : Text) : Except FileProblem Place :=
  match tree.node? here with
  | none => .error .notFound
  | some (.file _) => .error .notDirectory
  | some .directory =>
    if component = ['.'] then .ok here
    else if component = ['.', '.'] then .ok here.dropLast
    else .ok (here ++ [component])

/-- From a place along components. -/
def walk (tree : FileTree) : Place → List Text → Except FileProblem Place
  | here, [] => .ok here
  | here, component :: components =>
    match tree.enter here component with
    | .ok next => walk tree next components
    | .error problem => .error problem

/-- The place from which a path leads on. -/
def start (tree : FileTree) (path : Text) : Place := if Path.isAbsolute path then [] else tree.home

/-- The place of a path. -/
def place (tree : FileTree) (path : Text) : Except FileProblem Place :=
  if path.isEmpty then .error .notFound else tree.walk (tree.start path) (Path.components path)

/-- Whether there is a directory at a path. -/
def isDirectory (tree : FileTree) (path : Text) : Bool :=
  match tree.place path with
  | .error _ => false
  | .ok place => tree.node? place == some .directory

/-- Whether there is anything at a path. -/
def has (tree : FileTree) (path : Text) : Bool :=
  match tree.place path with
  | .error _ => false
  | .ok place =>
    match tree.node? place with
    | none => false
    | some .directory => true
    | some (.file _) => !Path.endsInSlash path

/-! ### Reading and writing -/

/-- The octets of the file at a path. -/
def read (tree : FileTree) (path : Text) : Except FileProblem (List UInt8) :=
  match tree.place path with
  | .error problem => .error problem
  | .ok place =>
    match tree.node? place with
    | none => .error .notFound
    | some .directory => .error .isDirectory
    | some (.file octets) => if Path.endsInSlash path then .error .notDirectory else .ok octets

/-- Writes a file, new or in place of an old one. -/
def write (tree : FileTree) (path : Text) (octets : List UInt8) : Except FileProblem FileTree :=
  match tree.place path with
  | .error problem => .error problem
  | .ok place =>
    if Path.endsInSlash path || tree.node? place == some .directory then .error .isDirectory
    else .ok (tree.put place (.file octets))

/-- Makes a directory where nothing is. -/
def makeDirectory (tree : FileTree) (path : Text) : Except FileProblem FileTree :=
  match tree.place path with
  | .error problem => .error problem
  | .ok place =>
    match tree.node? place with
    | none => .ok (tree.put place .directory)
    | some _ => .error .taken

/-- Makes a directory, unless it is there. -/
def ensureDirectory (tree : FileTree) (path : Text) : FileTree × Except FileFault Unit :=
  match tree.makeDirectory path with
  | .ok tree => (tree, .ok ())
  | .error problem =>
    if tree.isDirectory path then (tree, .ok ()) else (tree, .error ⟨problem, path⟩)

/-- Makes a directory and those above it that are missing, outermost first; `fuel` is no less than the
number of characters of the path. That something is in the way above is found out further below. -/
def ensureAll : (fuel : Nat) → FileTree → (path : Text) → FileTree × Except FileFault Unit
  | 0, tree, path => tree.ensureDirectory path
  | fuel + 1, tree, path =>
    let trimmed := if (Path.leaf path).isEmpty then Path.parent path else path
    let above := Path.parent trimmed
    if above.isEmpty || (Path.leaf trimmed).isEmpty || tree.has above then
      tree.ensureDirectory path
    else
      let finish (tree : FileTree) : FileTree × Except FileFault Unit :=
        if Path.leaf trimmed = ['.'] then (tree, .ok ()) else tree.ensureDirectory path
      match ensureAll fuel tree above with
      | (tree, .ok ()) => finish tree
      | (tree, .error fault) =>
        if fault.problem = .taken then finish tree else (tree, .error fault)

/-- Makes a directory and those above it that are missing. What has been made stays, whatever comes
of the rest. -/
def makeDirectories (tree : FileTree) (path : Text) : FileTree × Except FileFault Unit :=
  ensureAll path.length tree path

end FileTree

end Stencil
