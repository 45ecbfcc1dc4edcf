/-
Why a path cannot be read or written.
-/
import Stencil.Text.Quoted

namespace Stencil

/-- What is wrong with a path. -/
inductive FileProblem where
  | notFound
  | taken
  | notDirectory
  | isDirectory
deriving Repr, DecidableEq

/-- The wording of a problem, with its number. -/
def FileProblem.message : FileProblem → String
  | .notFound => "[Errno 2] No such file or directory"
  | .taken => "[Errno 17] File exists"
  | .notDirectory => "[Errno 20] Not a directory"
  | .isDirectory => "[Errno 21] Is a directory"

/-- A problem and the path that has it. -/
structure FileFault where
  problem : FileProblem
  path : Text
deriving Repr, DecidableEq

/-- The wording of a fault. -/
def FileFault.message (fault : FileFault) : String :=
  fault.problem.message ++ ": " ++ fault.path.quoted.str

end Stencil
