import Manuscript.Node

/-!
# Well-sorted trees

In a well-sorted tree every node stands where nodes of its kind belong: blocks in documents, quotes
and list items, items in lists, rows in tables and cells in rows, and inlines in headings,
paragraphs, cells and other inlines. A tree is well-sorted if what stands directly beneath its root
fits there and is well-sorted (`wellSorted_iff`).
-/

namespace Manuscript.Node

/-- The positions of a tree. -/
inductive Position
  | block | item | row | cell | inline
  deriving DecidableEq, Repr, Inhabited

/-- Where a kind of node belongs. A document belongs beneath no other node. -/
def Kind.position? : Kind → Option Position
  | .document => none
  | .heading | .paragraph | .bulletList | .orderedList | .table | .fencedCode | .indentedCode
  | .blockQuote | .thematicBreak | .htmlBlock => some .block
  | .listItem => some .item
  | .tableRow => some .row
  | .tableCell => some .cell
  | .text | .emphasis | .strong | .underline | .code | .link | .image | .softBreak | .hardBreak
  | .htmlInline => some .inline

/-- What belongs beneath a kind of node, if anything does. -/
def Kind.beneath? : Kind → Option Position
  | .document | .blockQuote | .listItem => some .block
  | .bulletList | .orderedList => some .item
  | .table => some .row
  | .tableRow => some .cell
  | .heading | .paragraph | .tableCell | .emphasis | .strong | .underline | .link => some .inline
  | .fencedCode | .indentedCode | .thematicBreak | .htmlBlock | .text | .code | .image | .softBreak
  | .hardBreak | .htmlInline => none

/-- A node may stand directly beneath another one of some kind. -/
def Fits (outer : Kind) (n : Node) : Prop :=
  n.kind.position?.isSome ∧ n.kind.position? = outer.beneath?

instance (outer : Kind) (n : Node) : Decidable (Fits outer n) :=
  inferInstanceAs (Decidable (_ ∧ _))

/-- A tree in which every node stands where its kind belongs. -/
inductive WellSorted : Node → Prop
  | intro {n : Node} (fits : ∀ m ∈ n.children, Fits n.kind m)
      (beneath : ∀ m ∈ n.children, WellSorted m) : WellSorted n

theorem wellSorted_iff {n : Node} :
    n.WellSorted ↔ ∀ m ∈ n.children, Fits n.kind m ∧ m.WellSorted :=
  ⟨fun ⟨fits, beneath⟩ m h => ⟨fits m h, beneath m h⟩,
    fun h => .intro (fun m hm => (h m hm).1) fun m hm => (h m hm).2⟩

/-- A node without others beneath it is well-sorted. -/
theorem WellSorted.of_children_eq_nil {n : Node} (h : n.children = []) : n.WellSorted :=
  .intro (by simp [h]) (by simp [h])

end Manuscript.Node
