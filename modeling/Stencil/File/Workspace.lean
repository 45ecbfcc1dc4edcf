/-
Workspaces of files. Sources are read from below one directory and units emitted below another, in
files that are found by the names of the units. Texts are read and written as UTF-8, and line ends of
all kinds are read as line feeds.
-/
import Stencil.File.Tree
import Stencil.Text.Lines
import Stencil.Workspace

namespace Stencil

/-- Where the files of units are. -/
structure Folder where
  root : Text
  extension : Text
deriving Repr, DecidableEq

namespace Folder

/-- The extension of files unless another one is given. -/
def defaultExtension : Text := ".java".toList

/-- The file of a unit. -/
def path (folder : Folder) (name : Text) : Text := Path.ofUnit folder.root folder.extension name

end Folder

/-- A text and where it is, or why it cannot be had; `missing` is the abort for a file that is not
found. -/
def FileTree.readText (tree : FileTree) (path : Text) (missing : Abort) : Except Abort Text :=
  match tree.read path with
  | .error .notFound => .error missing
  | .error problem => .error (.unreadable ⟨problem, path⟩)
  | .ok octets =>
    match decode octets with
    | .ok text => .ok text.unifyLineEnds
    | .error fault => .error (.undecodable fault)

namespace Folder

/-- Reads the source of a unit. -/
def read (folder : Folder) (tree : FileTree) (name : Text) : Except Abort Text :=
  let path := folder.path name
  tree.readText path <| .failure <| .sourceNotFound <|
    "source file `" ++ path.str ++ "` not found for `" ++ name.str ++ "`"

/-- The directory of the file of a unit. -/
def directory (folder : Folder) (name : Text) : Text :=
  let above := Path.parent (folder.path name)
  if above.isEmpty then ['.'] else above

/-- The failure to emit a unit. -/
def emitFailure (folder : Folder) (name : Text) (fault : FileFault) : Failure :=
  .emitFailed ("cannot write to `" ++ (folder.path name).str ++ "` for `" ++ name.str ++ "`: " ++
    fault.message)

/-- Emits a unit. Directories that were made for it stay even if it cannot be written. -/
def emit (folder : Folder) (tree : FileTree) (name text : Text) : FileTree × Except Failure Unit :=
  match tree.makeDirectories (folder.directory name) with
  | (tree, .error fault) => (tree, .error (folder.emitFailure name fault))
  | (tree, .ok ()) =>
    match tree.write (folder.path name) text.octets with
    | .ok tree => (tree, .ok ())
    | .error problem => (tree, .error (folder.emitFailure name ⟨problem, folder.path name⟩))

end Folder

/-- Sources in one folder and generated units in another. -/
def Workspace.folders (sources units : Folder) : Workspace FileTree where
  read := sources.read
  emit := units.emit

end Stencil
