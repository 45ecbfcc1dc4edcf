/-
Expanding a file of rules.
-/
import Stencil.File.Workspace
import Stencil.Rules.Expand

namespace Stencil

variable [CharacterNames]

/-- Where the rules, the sources and the generated units of a run are. -/
structure RulesFile where
  path : Text
  sources : Option Text
  units : Option Text
  extension : Text
deriving Repr, DecidableEq

namespace RulesFile

/-- Sources are below the directory of the rules, unless another one is given. -/
def sourceFolder (rules : RulesFile) : Folder :=
  ⟨rules.sources.getD (Path.parent rules.path), rules.extension⟩

/-- Units go where the sources are, unless another directory is given. -/
def unitFolder (rules : RulesFile) : Folder :=
  ⟨rules.units.getD rules.sourceFolder.root, rules.extension⟩

/-- The notes on the files that have been written. -/
def written (rules : RulesFile) (reports : List Report) : Log :=
  reports.flatMap fun report => report.emitted.map fun name =>
    .note ("wrote `" ++ (rules.unitFolder.path name).str ++ "`")

/-- Expands the templates that a file of rules declares; the result is whether all went well. -/
def expand (rules : RulesFile) (tree : FileTree) : Work FileTree Bool :=
  match tree.readText rules.path (.rulesFileNotFound rules.path) with
  | .error abort => ⟨tree, [], .error abort⟩
  | .ok text =>
    let workspace := Workspace.folders rules.sourceFolder rules.unitFolder
    let work := expandRules workspace rules.path text tree
    match work.outcome with
    | .error abort => ⟨work.world, work.log, .error abort⟩
    | .ok reports =>
      ⟨work.world, work.log ++ rules.written reports, .ok (reports.all Report.successful)⟩

end RulesFile

end Stencil
