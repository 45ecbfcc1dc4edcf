/-
Workspaces. Sources are read from a world and generated units are emitted into it. What the world is
does not matter to expansion: it may be a pair of tables in memory or a tree of files. Emitting may
change the world even where it fails.
-/
import Stencil.Log

namespace Stencil

/-- How sources are read from a world and units emitted into it. -/
structure Workspace (World : Type) where
  read : World → (name : Text) → Except Abort Text
  emit : World → (name text : Text) → World × Except Failure Unit

/-- A piece of work in a world: the world it leaves, what was said, and how it ended. -/
structure Work (World Result : Type) where
  world : World
  log : Log
  outcome : Except Abort Result

/-! ### Memory -/

/-- Texts by name, each name at most once. -/
abbrev TextTable := List (Text × Text)

namespace TextTable

/-- The table with a text under a name, in place of what was there. -/
def put (table : TextTable) (name text : Text) : TextTable :=
  table.filter (fun entry => entry.1 != name) ++ [(name, text)]

end TextTable

namespace Workspace

/-- Sources in one table and generated units in another. The latter refuses some names. -/
def memory (sources : TextTable) (refused : List Text) : Workspace TextTable where
  read _ name :=
    match sources.lookup name with
    | some text => .ok text
    | none => .error (.failure (.sourceNotFound ("no source for `" ++ name.str ++ "`")))
  emit table name text :=
    if refused.contains name then
      (table, .error (.emitFailed ("cannot write `" ++ name.str ++ "`")))
    else (table.put name text, .ok ())

end Workspace

end Stencil
