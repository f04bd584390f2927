import Manuscript.Node

/-!
# Walking a tree

A walk visits a tree in document order, each node before the nodes beneath it. At a node of a kind
that the walk stops at, what is beneath is not visited (`Node.visits`).
-/

namespace Manuscript.Node

/-- One step of a walk: the node that is visited, and whether the walk stopped there. -/
structure Visit where
  node : Node
  stopped : Bool
  deriving Repr, Inhabited

mutual

/-- The visits of a walk that stops at the nodes of the kinds `stops`. -/
def visits (stops : Kind → Bool) (n : Node) : List Visit :=
  if stops n.kind then [⟨n, true⟩]
  else ⟨n, false⟩ :: match n with
    | .document ns _ | .heading _ ns _ | .paragraph ns _ | .bulletList ns _ | .orderedList _ ns _
    | .listItem ns _ | .tableRow ns _ | .tableCell ns _ | .blockQuote ns _ | .emphasis ns _
    | .strong ns _ | .underline ns _ | .link _ ns _ _ => visitsList stops ns
    | .table none rows _ => visitsList stops rows
    | .table (some header) rows _ => visits stops header ++ visitsList stops rows
    | .fencedCode .. | .indentedCode .. | .thematicBreak .. | .htmlBlock .. | .text .. | .code ..
    | .image .. | .softBreak .. | .hardBreak .. | .htmlInline .. => []

/-- The visits of a walk over a list of nodes, one after another. -/
def visitsList (stops : Kind → Bool) : List Node → List Visit
  | [] => []
  | n :: ns => visits stops n ++ visitsList stops ns

end

/-- A walk goes on to the nodes directly beneath each node that it does not stop at. -/
theorem visits_eq (stops : Kind → Bool) (n : Node) :
    visits stops n =
      if stops n.kind then [⟨n, true⟩] else ⟨n, false⟩ :: visitsList stops n.children := by
  rw [visits.eq_def]
  split
  · rfl
  · cases n with
    | table header rows _ => cases header <;> simp [children, visitsList]
    | _ => simp [children, visitsList]

end Manuscript.Node
