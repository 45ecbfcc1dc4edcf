/-
Handles. What rules do to a declaration can also be done by hand, one operation after another: its
attributes are set or cleared, rules are added, it is committed, and a subordinate is asked for its
request. An operation that fails leaves everything as it was.
-/
import Stencil.Declaration

namespace Stencil

/-- A declaration in somebody's hands. Rules always leave a template with a placement, imports and a
sigil; by hand they can be cleared as well, and `cleared` keeps track of what has been. -/
structure Handle where
  declaration : Declaration
  cleared : List Attribute
deriving Repr, DecidableEq

/-- What can be done to a declaration. -/
inductive Operation where
  /-- Gives an attribute a value, or adds a rule. -/
  | change (change : Change)
  /-- Takes the value of an attribute away. -/
  | clear (setting : Attribute)
  | commit
  /-- Asks a subordinate what it requests beneath a template. -/
  | request (template : Template)
deriving Repr, DecidableEq

/-- Why an operation fails. -/
inductive OperationFault where
  | declaration (fault : DeclarationFault)
  | abort (abort : Abort)
deriving Repr, DecidableEq

/-- The change that takes the value of an attribute away. An attribute that cannot do without one goes
back to what a template starts with. -/
def Attribute.clearing : Attribute → Change
  | .parameters => .parameters none
  | .placement => .placement .append
  | .directives => .markers none
  | .imports => .imports []
  | .sigil => .sigil SourceUnit.defaultSigil
  | .types => .types none
  | .name => .target none

namespace Handle

/-- A handle on a declaration with nothing cleared. -/
def start (declaration : Declaration) : Handle := ⟨declaration, []⟩

/-- Changes the declaration, and with it which attributes are cleared. A change that does not concern
the declaration does nothing. -/
def change (handle : Handle) (change : Change) (cleared : List Attribute) :
    Handle × Except OperationFault (Option Request) :=
  match handle.declaration.changed? change with
  | none => (handle, .ok none)
  | some _ =>
    match handle.declaration.change change with
    | .ok changed => (⟨changed, cleared⟩, .ok none)
    | .error fault => (handle, .error (.declaration fault))

/-- Performs an operation. Only a subordinate that is asked for its request has anything to answer. -/
def perform (handle : Handle) :
    Operation → Handle × Except OperationFault (Option Request)
  | .change change =>
    handle.change change (handle.cleared.filter fun setting => some setting != change.setting?)
  | .clear setting => handle.change setting.clearing (setting :: handle.cleared)
  | .commit =>
    match handle.declaration.commit with
    | .ok committed => ({ handle with declaration := committed }, .ok none)
    | .error fault => (handle, .error (.declaration fault))
  | .request template =>
    match handle.declaration with
    | .template _ => (handle, .ok none)
    | .subordinate subordinate =>
      let requested := subordinate.request (simpleName template.name) template.placement
      (handle, (requested.map some).mapError .abort)

/-- Performs operations one after another, whether they fail or not. -/
def run (handle : Handle) (operations : List Operation) : Handle :=
  operations.foldl (fun handle operation => (handle.perform operation).1) handle

end Handle

end Stencil
