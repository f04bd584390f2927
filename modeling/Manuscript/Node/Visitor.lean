import Manuscript.Node

/-!
# Visitors

A visitor has a method for each kind of nodes. A node that accepts a visitor hands itself over to the
method of its kind (`Node.accept`), and the method may let the nodes directly beneath accept the
visitor in turn. A visitor does the same at nodes of all kinds, except where it has a method of its
own (`Visitor.method`).
-/

namespace Manuscript

/-- A node is larger than those directly beneath it. -/
theorem Node.sizeOf_lt_of_mem_children {n c : Node} (h : c ∈ n.children) :
    sizeOf c < sizeOf n := by
  cases n with
  | table header rows =>
    obtain h | h := List.mem_append.1 h
    · obtain rfl := Option.mem_toList.1 h
      simp +arith
    · have := List.sizeOf_lt_of_mem h
      simp
      omega
  | document ns | heading _ ns | paragraph ns | bulletList ns | orderedList _ ns | listItem ns
  | tableRow ns | tableCell ns | blockQuote ns | emphasis ns | strong ns | underline ns
  | link _ ns =>
    have := List.sizeOf_lt_of_mem (show c ∈ ns from h)
    simp
    omega
  | fencedCode | indentedCode | thematicBreak | htmlBlock | text | code | image | softBreak
  | hardBreak | htmlInline => cases h

variable {m : Type → Type} {α : Type}

/-- What a visitor does at a node, given how the nodes directly beneath accept the visitor. -/
abbrev Visitor.Method (m : Type → Type) (α : Type) : Type :=
  (n : Node) → ((c : Node) → c ∈ n.children → m α) → m α

/-- A visitor: what it does at most nodes, and the methods of its own for some kinds. -/
structure Visitor (m : Type → Type) (α : Type) where
  generic : Visitor.Method m α
  own : Node.Kind → Option (Visitor.Method m α) := fun _ => none

namespace Visitor

/-- The method for a kind of nodes. -/
def method (v : Visitor m α) (k : Node.Kind) : Method m α :=
  (v.own k).getD v.generic

/-- The visitor that does nothing. -/
def idle [Pure m] : Visitor m Unit where
  generic _ _ := pure ()

/-- The visitor that records each node and goes on to those directly beneath it, except for the kinds
    of nodes that it deals with by itself. -/
def walking [Monad m] (own : Node.Kind → Option (Node → m Unit)) (record : Node → m Unit) :
    Visitor m Unit where
  generic n accept := do
    record n
    n.children.attach.forM fun c => accept c.1 c.2
  own k := (own k).map fun f n _ => f n

end Visitor

/-- Hands a node over to the method of a visitor for its kind. -/
def Node.accept (v : Visitor m α) (n : Node) : m α :=
  v.method n.kind n fun c _ => c.accept v
termination_by n
decreasing_by exact sizeOf_lt_of_mem_children ‹_›

end Manuscript
