import Mathlib.Data.List.Forall2
import Manuscript.Proofs.Node.Listing
import Manuscript.Render

/-!
# Two layouts of one tree

A tree that is laid out twice, in two ways, gives documents that are related block by block if what
each of its nodes gives by itself is: the paragraph that an item opens with, and the blocks of a
node that is neither a document nor a list or an item (`Pairs`). Lists and items only put these
together, so nothing more has to be known of them (`paired_blocks`).
-/

namespace Manuscript.Render

open Layout Node

/-- A node that only puts together what is beneath it. -/
def Groups (n : Node) : Prop :=
  n.kind ∈ [.document, .bulletList, .orderedList, .listItem]

/-- Two documents have the same properties, and their blocks are related one by one. -/
structure Paired (related : Block → Block → Prop) (d d' : Document) : Prop where
  metadata : d.metadata = d'.metadata
  blocks : List.Forall₂ related d.blocks d'.blocks

/-- Two ways to lay out give related blocks, wherever all nodes beneath are as
    demanded: for the text that an item opens with, and for a node that gives blocks by itself. -/
structure Pairs (demand : Node → Prop) (related : Block → Block → Prop) (s s' : Setup) : Prop where
  opening : ∀ (m : Marking) (depth : Nat) (text : List Node), (∀ n ∈ listing text, demand n) →
    related (.paragraph (m.paragraph s.options depth (runs s.options .plain text)))
      (.paragraph (m.paragraph s'.options depth (runs s'.options .plain text)))
  single : ∀ (depth : Nat) (n : Node), ¬Groups n → (∀ m ∈ listing n.children, demand m) →
    Paired related (block s depth n) (block s' depth n)

variable {demand : Node → Prop} {related : Block → Block → Prop} {s s' : Setup}

namespace Paired

theorem empty (m : Metadata) : Paired related { metadata := m } { metadata := m } :=
  ⟨rfl, .nil⟩

theorem ofParagraph {p p' : Paragraph} (h : related (.paragraph p) (.paragraph p')) :
    Paired related (.ofParagraph p) (.ofParagraph p') :=
  ⟨rfl, .cons h .nil⟩

/-- Documents that are paired part by part are paired. -/
theorem append {d d' e e' : Document} (hd : Paired related d d') (he : Paired related e e') :
    Paired related (d ++ e) (d' ++ e') where
  metadata := congrArg₂ Metadata.update hd.metadata he.metadata
  blocks := List.rel_append hd.blocks he.blocks

/-- Pairing is kept where fewer blocks are told apart. -/
theorem mono {d d' : Document} (hd : Paired related d d') {weaker : Block → Block → Prop}
    (h : ∀ b b', related b b' → weaker b b') : Paired weaker d d' :=
  ⟨hd.metadata, hd.blocks.imp h⟩

end Paired

/-- The empty paragraphs that an item starts with are paired. -/
theorem Pairs.bare (h : Pairs demand related s s') (m : Marking) (depth : Nat) :
    Paired related (.ofParagraph (m.paragraph s.options depth []))
      (.ofParagraph (m.paragraph s'.options depth [])) :=
  .ofParagraph (h.opening m depth [] nofun)

mutual

/-- The blocks of a node in two setups are paired, if what is beneath it meets the demand. -/
theorem paired_block (h : Pairs demand related s s') (depth : Nat) (n : Node)
    (hn : ∀ m ∈ listing n.children, demand m) :
    Paired related (block s depth n) (block s' depth n) := by
  cases n with
  | document ns m =>
    rw [block, block]
    exact (Paired.empty m).append (paired_blocks h depth ns hn)
  | bulletList ns | orderedList _ ns =>
    rw [block, block]
    exact paired_items h depth _ ns hn
  | listItem ns =>
    rw [block, block]
    exact paired_itemBlocks h depth _ ns hn
  | _ => exact h.single depth _ (by simp [Groups, Node.kind]) hn

/-- The blocks of a tree are related one by one, if all its nodes are as demanded. -/
theorem paired_blocks (h : Pairs demand related s s') (depth : Nat) (ns : List Node)
    (hns : ∀ n ∈ listing ns, demand n) :
    Paired related (blocks s depth ns) (blocks s' depth ns) := by
  cases ns with
  | nil =>
    rw [blocks, blocks]
    exact .empty _
  | cons n ns =>
    obtain ⟨-, hchildren, hrest⟩ := forall_mem_listing_cons.1 hns
    rw [blocks, blocks]
    exact (paired_block h depth n hchildren).append (paired_blocks h depth ns hrest)

/-- The blocks of the items of a list are paired. -/
theorem paired_items (h : Pairs demand related s s') (depth : Nat) (m : Marking)
    (ns : List Node) (hns : ∀ n ∈ listing ns, demand n) :
    Paired related (items s depth m ns) (items s' depth m ns) := by
  cases ns with
  | nil =>
    rw [items, items]
    exact .empty _
  | cons n ns =>
    obtain ⟨-, hchildren, hrest⟩ := forall_mem_listing_cons.1 hns
    rw [items, items]
    exact (paired_item h depth m n hchildren).append (paired_items h depth m.next ns hrest)

theorem paired_item (h : Pairs demand related s s') (depth : Nat) (m : Marking) (n : Node)
    (hn : ∀ k ∈ listing n.children, demand k) :
    Paired related (item s depth m n) (item s' depth m n) := by
  cases n with
  | listItem ns | document ns | blockQuote ns =>
    rw [item, item]
    exact paired_itemBlocks h depth m ns hn
  | _ =>
    simp only [item]
    exact h.bare m depth

/-- The blocks that an item holds are paired. -/
theorem paired_itemBlocks (h : Pairs demand related s s') (depth : Nat) (m : Marking)
    (ns : List Node) (hns : ∀ n ∈ listing ns, demand n) :
    Paired related (itemBlocks s depth m ns) (itemBlocks s' depth m ns) := by
  cases ns with
  | nil =>
    rw [itemBlocks, itemBlocks]
    exact h.bare m depth
  | cons n ns =>
    obtain ⟨-, hchildren, hrest⟩ := forall_mem_listing_cons.1 hns
    by_cases hp : n.kind = .paragraph
    · cases n with
      | paragraph text =>
        rw [itemBlocks, itemBlocks]
        exact (Paired.ofParagraph (h.opening m depth text hchildren)).append
          (paired_blocks h (depth + 1) ns hrest)
      | _ => cases hp
    · -- An item that opens with no paragraph gets one of its own for the marking.
      rw [itemBlocks_cons_of_ne hp, itemBlocks_cons_of_ne hp, blocks, blocks]
      exact (h.bare m depth).append
        ((paired_block h (depth + 1) n hchildren).append (paired_blocks h (depth + 1) ns hrest))

end

end Manuscript.Render
