/-
The store of declarations. It holds the committed templates in the order of their declaration, each
with the committed subordinates beneath it.
-/
import Stencil.Declaration

namespace Stencil

/-- A template, the line on which it was declared, and its subordinates. -/
structure StoreEntry where
  template : Template
  line : Nat
  subordinates : List Subordinate
deriving Repr, DecidableEq

/-- The declarations of all rules read so far. -/
abbrev Store := List StoreEntry

namespace Store

/-- The entry of a template. -/
def entry? (store : Store) (name : Text) : Option StoreEntry :=
  store.find? fun entry => entry.template.name == name

/-- The ids of all subordinates. -/
def ids (store : Store) : List Text :=
  store.flatMap fun entry => entry.subordinates.map Subordinate.id

/-- The store with one more template. -/
def addTemplate (store : Store) (template : Template) (line : Nat) : Store :=
  store ++ [⟨template, line, []⟩]

/-- The store with one more subordinate beneath a template. -/
def addSubordinate (store : Store) (owner : Text) (subordinate : Subordinate) : Store :=
  store.map fun entry =>
    if entry.template.name == owner then
      { entry with subordinates := entry.subordinates ++ [subordinate] }
    else entry

/-- The first template that has no subordinates. -/
def barren? (store : Store) : Option StoreEntry :=
  store.find? fun entry => entry.subordinates.isEmpty

end Store

end Stencil
