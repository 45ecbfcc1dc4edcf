/-
Patterns. A pattern is a tree of nodes whose meaning is fixed by the node alone: flags and names have
been resolved when the tree is built. Every node has a least and a greatest width, which is what a
look behind needs to know how far to step back.
-/
import Stencil.Text.Basic
import Stencil.Pattern.CharTest

namespace Stencil

/-- Places that consume nothing. -/
inductive Anchor where
  /-- The start of the text. -/
  | textStart
  /-- The end of the text. -/
  | textEnd
  /-- The start of the text or of a line. -/
  | lineStart
  /-- The end of the text or of a line. -/
  | lineEnd
  /-- The end of the text, or before the line feed that ends it. -/
  | lastLineEnd
  /-- Between a word character and another, or anywhere else if negated. -/
  | boundary (ascii negated : Bool)
deriving Repr, DecidableEq

/-- In which order a loop tries its numbers of rounds: as many as possible first, as few as possible
first, or as many as possible without going back. -/
inductive Greed where
  | greedy
  | reluctant
  | possessive
deriving Repr, DecidableEq

/-- The least and the greatest number of characters that a node can take. -/
structure Width where
  least : Nat
  most : Nat
deriving Repr, DecidableEq

/-- The nodes of a pattern. -/
inductive Node where
  | empty
  | char (test : CharTest)
  | anchor (place : Anchor)
  | seq (first second : Node)
  | alt (first second : Node)
  | capture (group : Nat) (body : Node)
  | loop (greed : Greed) (least : Nat) (most : Option Nat) (body : Node)
  | atomic (body : Node)
  | ahead (negated : Bool) (body : Node)
  | behind (negated : Bool) (width : Width) (body : Node)
  /-- The text of a group once more. -/
  | again (fold : Fold) (group : Nat) (width : Width)
  | ifCaptured (group : Nat) (yes no : Node)
deriving Repr, DecidableEq

/-- A pattern: its tree, the number of its groups and their names. -/
structure Pattern where
  root : Node
  groupCount : Nat
  names : List (Text × Nat)
deriving Repr, DecidableEq

/-! ### Widths -/

namespace Width

/-- Widths are told apart up to this one. -/
def limit : Nat := Nat.pow 2 64

/-- Both bounds cut off at the limit. -/
def capped (least most : Nat) : Width := ⟨min least limit, min most limit⟩

/-- One after the other. -/
def add (a b : Width) : Width := capped (a.least + b.least) (a.most + b.most)

/-- Either one. -/
def join (a b : Width) : Width := ⟨min a.least b.least, max a.most b.most⟩

/-- Several rounds. -/
def times (a : Width) (least : Nat) : (most : Option Nat) → Width
  | some most => capped (a.least * least) (a.most * most)
  | none => capped (a.least * least) (if a.most = 0 then 0 else limit)

end Width

/-- The width of a node. -/
def Node.width : Node → Width
  | .empty => ⟨0, 0⟩
  | .char _ => ⟨1, 1⟩
  | .anchor _ => ⟨0, 0⟩
  | .seq first second => first.width.add second.width
  | .alt first second => first.width.join second.width
  | .capture _ body => body.width
  | .loop _ least most body => body.width.times least most
  | .atomic body => body.width
  | .ahead _ _ => ⟨0, 0⟩
  | .behind _ _ _ => ⟨0, 0⟩
  | .again _ _ width => width
  | .ifCaptured _ yes no => yes.width.join no.width

/-! ### Building -/

/-- A given character. -/
def Node.exactly (c : Char) : Node := .char (.literal .exact false c.toNat)

/-- Nodes one after another. -/
def Node.sequence : List Node → Node
  | [] => .empty
  | [node] => node
  | node :: nodes => .seq node (sequence nodes)

end Stencil
