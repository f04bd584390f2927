import Manuscript.Node.Visit

/-!
# Listing the nodes of trees

All nodes of a list of trees in document order (`listing`), each before the nodes beneath it. What
is asked of a whole tree is asked of all nodes of the listing: that a tree is formed, for instance,
of each node and the kinds of the nodes directly beneath it (`Formed`).
-/

namespace Manuscript.Node

/-- The nodes of a list of trees, in document order. -/
def listing (ns : List Node) : List Node :=
  (visitsList (fun _ => false) ns).map (·.node)

@[simp] theorem listing_nil : listing [] = [] := rfl

theorem listing_cons (n : Node) (ns : List Node) :
    listing (n :: ns) = n :: (listing n.children ++ listing ns) := by
  rw [listing, visitsList, visits_eq]
  simp [listing]

/-- A property holds of all nodes of a list of trees if it holds of the first root, of all nodes
    beneath it and of all nodes of the other trees. -/
theorem forall_mem_listing_cons {P : Node → Prop} {n : Node} {ns : List Node} :
    (∀ m ∈ listing (n :: ns), P m) ↔
      P n ∧ (∀ m ∈ listing n.children, P m) ∧ ∀ m ∈ listing ns, P m := by
  rw [listing_cons, List.forall_mem_cons, List.forall_mem_append]

/-- What holds of all nodes of a list of trees holds of all nodes beneath each root. -/
theorem forall_mem_listing_children {P : Node → Prop} {ns : List Node}
    (h : ∀ m ∈ listing ns, P m) {n : Node} (hn : n ∈ ns) : ∀ m ∈ listing n.children, P m := by
  induction ns with
  | nil => cases hn
  | cons n' ns ih =>
    obtain ⟨-, hchildren, hrest⟩ := forall_mem_listing_cons.1 h
    obtain rfl | hn := List.mem_cons.1 hn
    · exact hchildren
    · exact ih hrest hn

/-! ## Formed trees -/

/-- Whether a node of one kind may hold nodes of another directly beneath it. Other than in a
    well-sorted tree, an item may stand outside of a list. -/
def Kind.admits (outer inner : Kind) : Bool :=
  match outer with
  | .document | .blockQuote | .listItem =>
    inner.role == .block && inner != .tableRow && inner != .tableCell
  | .bulletList | .orderedList => inner == .listItem
  | .table => inner == .tableRow
  | .tableRow => inner == .tableCell
  | .heading | .paragraph | .tableCell | .emphasis | .strong | .underline | .link =>
    inner.role == .inline
  | .fencedCode | .indentedCode | .thematicBreak | .htmlBlock | .text | .code | .image | .softBreak
  | .hardBreak | .htmlInline => false

/-- A node that holds only nodes of kinds that it may hold. -/
def Formed (n : Node) : Prop :=
  ∀ m ∈ n.children, n.kind.admits m.kind = true

instance (n : Node) : Decidable n.Formed :=
  inferInstanceAs (Decidable (∀ _ ∈ _, _))

end Manuscript.Node
