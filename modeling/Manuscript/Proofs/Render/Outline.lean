import Mathlib.Data.List.Forall2
import Manuscript.Render

/-!
# The outline of lists

Laying out a tree flattens its lists, and yet the lists can be read off the paragraphs. The nodes
that are reached through documents, lists and items alone are listed in document order, each at its
*place*: its index and the nodes above it (`reached`). The blocks of the document are those that
the places give, one place after another (`Place.blocks`), and what a place gives depends on nothing
but its node, its index and what is above it. So each item opens one paragraph that says its list,
its number and its depth, and what else it holds follows before the next item.

* `flatMap_blocks_placesList`, `flatMap_blocks_items`, `flatMap_blocks_beneath`: the blocks of the
  places among blocks, among the items of a list, and within an item;
* `nested_placesList`: the places beneath a node come right behind its own;
* `of_mem_block`: apart from items, only paragraphs and code blocks have a level at all.
-/

namespace Manuscript.Render

open Layout

/-! ## Places -/

/-- A node that is reached through documents, lists and items, with its index among its siblings and
    the nodes above it, the innermost first. -/
structure Place where
  node : Node
  index : Nat
  above : List Node

mutual

/-- The places reached from a node, in document order: its own and those beneath it. -/
def places (above : List Node) (index : Nat) (n : Node) : List Place :=
  ⟨n, index, above⟩ :: match n with
    | .document ns _ | .bulletList ns _ | .orderedList _ ns _ | .listItem ns _ =>
      placesList (n :: above) 0 ns
    | _ => []

/-- The places reached from siblings, of which the first has the index `index`. -/
def placesList (above : List Node) (index : Nat) : List Node → List Place
  | [] => []
  | n :: ns => places above index n ++ placesList above (index + 1) ns

end

/-- The places reached in a list of trees. -/
def reached (ns : List Node) : List Place :=
  placesList [] 0 ns

/-- The number of items among nodes. -/
def level (above : List Node) : Nat :=
  above.countP fun n => n.kind == .listItem

/-- An item is one level further in. -/
theorem level_cons_item {n : Node} (h : n.kind = .listItem) (above : List Node) :
    level (n :: above) = level above + 1 := by
  simp [level, h]

/-- Anything else is on the level of what is around it. -/
theorem level_cons_of_ne {n : Node} (h : n.kind ≠ .listItem) (above : List Node) :
    level (n :: above) = level above := by
  simp [level, h]

/-- How the item of an index is marked, by the list right above it. -/
def marking (above : List Node) (index : Nat) : Marking :=
  match above.head? with
  | some (.orderedList start ..) => .ordinal (start + index)
  | some (.bulletList ..) => .bullet
  | _ => .unmarked

/-- The text that an item opens with: that of its first node, if that is a paragraph. -/
def ownText : List Node → List Node
  | .paragraph text _ :: _ => text
  | _ => []

/-- The nodes of an item that follow its own paragraph. -/
def following : List Node → List Node
  | .paragraph .. :: ns => ns
  | ns => ns

namespace Place

/-- The node right above a place. -/
def parent? (p : Place) : Option Node :=
  p.above.head?

/-- The places beneath a place. -/
def beneath (p : Place) : List Place :=
  match p.node with
  | .document ns _ | .bulletList ns _ | .orderedList _ ns _ | .listItem ns _ =>
    placesList (p.node :: p.above) 0 ns
  | _ => []

/-- Whether the node is an item. -/
def isItem (p : Place) : Bool :=
  p.node.kind == .listItem

/-- Whether the node is the paragraph whose text an item opens with. -/
def isOwnText (p : Place) : Bool :=
  p.node.kind == .paragraph && p.index == 0 && p.parent?.any fun n => n.kind == .listItem

/-- The number of an item of an ordered list, counted on from that of the first item. -/
def ordinal? (p : Place) : Option Int :=
  match p.parent? with
  | some (.orderedList start ..) => some (start + p.index)
  | _ => none

/-- What is written before the text of an item, by the list that it is in. -/
def label (o : DocxOptions) (p : Place) : String :=
  match p.parent? with
  | some (.bulletList ..) => o.bulletGlyph
  | some (.orderedList start ..) =>
    if o.numberOrderedLists then toString (start + p.index : Int) ++ ". " else ""
  | _ => ""

/-- The paragraph that an item opens with. -/
def opening (s : Setup) (p : Place) : Paragraph :=
  (marking p.above p.index).paragraph s.options (level p.above)
    (runs s.options .plain (ownText p.node.children))

/-- The blocks that a place gives itself, those of the places beneath it left out. -/
def blocks (s : Setup) (p : Place) : List Block :=
  match p.node with
  | .listItem .. => [.paragraph (p.opening s)]
  | .document .. | .bulletList .. | .orderedList .. => []
  | n => if p.isOwnText then [] else (block s (level p.above) n).blocks

/-- A paragraph is the one that an item opens with. -/
structure Opens (s : Setup) (p : Place) (q : Paragraph) : Prop where
  level : q.listLevel = level p.above
  kind : q.listKind = some (if p.ordinal?.isSome then .ordered else .bullet)
  ordinal : q.listOrdinal = p.ordinal?
  runs : q.runs =
    (if p.label s.options = "" then [] else [{ text := p.label s.options }]) ++
      runs s.options .plain (ownText p.node.children)

/-- A list holds nothing but items. -/
def HoldsItems (p : Place) : Prop :=
  p.node.kind = .bulletList ∨ p.node.kind = .orderedList →
    ∀ n ∈ p.node.children, n.kind = .listItem

instance (p : Place) : Decidable p.HoldsItems :=
  inferInstanceAs (Decidable (_ → ∀ _ ∈ _, _))

end Place

/-- The places in a node are its own and those beneath it. -/
theorem places_eq (above : List Node) (index : Nat) (n : Node) :
    places above index n = ⟨n, index, above⟩ :: (Place.mk n index above).beneath := by
  cases n <;> rfl

/-- An item gives its first paragraph, and then what follows in it. -/
theorem blocks_itemBlocks (s : Setup) (depth : Nat) (m : Marking) (ns : List Node) :
    (itemBlocks s depth m ns).blocks =
      .paragraph (m.paragraph s.options depth (runs s.options .plain (ownText ns))) ::
        (blocks s (depth + 1) (following ns)).blocks := by
  cases ns with
  | nil => rfl
  | cons n ns =>
    by_cases h : n.kind = .paragraph
    · cases n with
      | paragraph => rfl
      | _ => cases h
    · rw [itemBlocks_cons_of_ne h]
      cases n with
      | paragraph => exact absurd rfl h
      | _ => rfl

/-! ## The blocks of places -/

/-- Nodes beneath `above` stand among blocks, and not among the items of a list. -/
def AmongBlocks (above : List Node) : Prop :=
  ∀ n ∈ above.head?, n.kind ≠ .bulletList ∧ n.kind ≠ .orderedList

/-- Among blocks nothing is marked as an item. -/
theorem marking_eq_unmarked {above : List Node} (h : AmongBlocks above) (index : Nat) :
    marking above index = .unmarked := by
  cases above with
  | nil => rfl
  | cons a above =>
    obtain ⟨hb, ho⟩ := h a rfl
    cases a with
    | bulletList => exact absurd rfl hb
    | orderedList => exact absurd rfl ho
    | _ => rfl

/-- Outside items nothing is the text of one. -/
theorem isOwnText_eq_false {above : List Node} (h : ∀ n ∈ above.head?, n.kind ≠ .listItem)
    (n : Node) (index : Nat) : (Place.mk n index above).isOwnText = false := by
  cases above with
  | nil => simp [Place.isOwnText, Place.parent?]
  | cons a above => simp [Place.isOwnText, Place.parent?, h a rfl]

/-- The markings of the items of a list count on. -/
theorem next_marking (list : Node) (above : List Node) (index : Nat) :
    (marking (list :: above) index).next = marking (list :: above) (index + 1) := by
  cases list with
  | orderedList start =>
    simp only [marking, List.head?_cons, Marking.next, Int.add_assoc]
    rfl
  | _ => rfl

variable (s : Setup)

mutual

/-- The blocks of a node are those of the places in it, one after the other. -/
theorem flatMap_blocks_places (above : List Node) (index : Nat) (n : Node)
    (habove : AmongBlocks above) (hown : (Place.mk n index above).isOwnText = false)
    (h : ∀ p ∈ places above index n, p.HoldsItems) :
    (places above index n).flatMap (Place.blocks s) = (block s (level above) n).blocks := by
  cases n with
  | document ns m =>
    rw [places, List.forall_mem_cons] at h
    have hns := flatMap_blocks_placesList (.document ns m :: above) 0 ns
      (by simp [AmongBlocks, Node.kind]) (fun _ => by simp [Node.kind]) h.2
    rw [places, List.flatMap_cons, hns, level_cons_of_ne (by simp [Node.kind])]
    simp [block, Place.blocks]
  | bulletList ns m =>
    rw [places, List.forall_mem_cons] at h
    rw [places, List.flatMap_cons,
      flatMap_blocks_items (.bulletList ns m) above 0 ns (h.1 (.inl rfl)) (by simp [Node.kind]) h.2]
    rfl
  | orderedList start ns m =>
    rw [places, List.forall_mem_cons] at h
    rw [places, List.flatMap_cons,
      flatMap_blocks_items (.orderedList start ns m) above 0 ns (h.1 (.inr rfl))
        (by simp [Node.kind]) h.2]
    simp [block, Place.blocks, marking]
  | listItem ns m =>
    rw [places, List.forall_mem_cons] at h
    -- No list is right above, so neither side marks the item.
    have hopening : (Place.mk (.listItem ns m) index above).blocks s =
        [.paragraph (Marking.unmarked.paragraph s.options (level above)
          (runs s.options .plain (ownText ns)))] := by
      rw [Place.blocks, Place.opening, marking_eq_unmarked habove]
      rfl
    rw [places, List.flatMap_cons, flatMap_blocks_beneath (.listItem ns m) above ns rfl h.2,
      hopening, block, blocks_itemBlocks]
    rfl
  | heading | paragraph | table | tableRow | tableCell | fencedCode | indentedCode | blockQuote
  | thematicBreak | htmlBlock | text | emphasis | strong | underline | code | link | image
  | softBreak | hardBreak | htmlInline =>
    simp [places, Place.blocks, hown]
termination_by structural n

/-- The blocks of places among blocks. -/
theorem flatMap_blocks_placesList (above : List Node) (index : Nat) (ns : List Node)
    (habove : AmongBlocks above) (hindex : index = 0 → ∀ n ∈ above.head?, n.kind ≠ .listItem)
    (h : ∀ p ∈ placesList above index ns, p.HoldsItems) :
    (placesList above index ns).flatMap (Place.blocks s) = (blocks s (level above) ns).blocks := by
  cases ns with
  | nil => rfl
  | cons n ns =>
    rw [placesList, List.forall_mem_append] at h
    have hown : (Place.mk n index above).isOwnText = false := by
      by_cases hzero : index = 0
      · exact isOwnText_eq_false (hindex hzero) n index
      · simp [Place.isOwnText, hzero]
    rw [placesList, List.flatMap_append, flatMap_blocks_places above index n habove hown h.1,
      flatMap_blocks_placesList above (index + 1) ns habove (by simp) h.2, blocks,
      Document.blocks_append]
termination_by structural ns

/-- The blocks of the places in a list. -/
theorem flatMap_blocks_items (list : Node) (above : List Node) (index : Nat) (ns : List Node)
    (hitems : ∀ n ∈ ns, n.kind = .listItem) (hlist : list.kind ≠ .listItem)
    (h : ∀ p ∈ placesList (list :: above) index ns, p.HoldsItems) :
    (placesList (list :: above) index ns).flatMap (Place.blocks s) =
      (items s (level above) (marking (list :: above) index) ns).blocks := by
  cases ns with
  | nil => rfl
  | cons n ns =>
    rw [placesList, List.forall_mem_append] at h
    obtain ⟨hn, hns⟩ := List.forall_mem_cons.1 hitems
    cases n with
    | listItem ms m =>
      rw [places, List.forall_mem_cons] at h
      rw [placesList, places, List.flatMap_append, List.flatMap_cons,
        flatMap_blocks_beneath (.listItem ms m) (list :: above) ms rfl h.1.2,
        flatMap_blocks_items list above (index + 1) ns hns hlist h.2, level_cons_of_ne hlist,
        items, item, Document.blocks_append, blocks_itemBlocks, next_marking]
      simp only [Place.blocks, Place.opening, level_cons_of_ne hlist]
      rfl
    | _ => cases hn
termination_by structural ns

/-- The blocks of the places in an item: its own text is none of them. -/
theorem flatMap_blocks_beneath (item : Node) (above : List Node) (ns : List Node)
    (hitem : item.kind = .listItem) (h : ∀ p ∈ placesList (item :: above) 0 ns, p.HoldsItems) :
    (placesList (item :: above) 0 ns).flatMap (Place.blocks s) =
      (blocks s (level above + 1) (following ns)).blocks := by
  have habove : AmongBlocks (item :: above) := by simp [AmongBlocks, hitem]
  cases ns with
  | nil => rfl
  | cons n ns =>
    rw [placesList, List.forall_mem_append] at h
    -- Behind the first node no paragraph is the own text of the item any more.
    rw [placesList, List.flatMap_append,
      flatMap_blocks_placesList (item :: above) 1 ns habove (by simp) h.2, level_cons_item hitem]
    by_cases hp : n.kind = .paragraph
    · cases n with
      | paragraph text m =>
        have hown : (Place.mk (.paragraph text m) 0 (item :: above)).isOwnText = true := by
          simp only [Place.isOwnText, Place.parent?, List.head?_cons, Option.any_some, hitem]
          rfl
        simp [places, Place.blocks, hown, following]
      | _ => cases hp
    · have hown : (Place.mk n 0 (item :: above)).isOwnText = false := by
        simp [Place.isOwnText, hp]
      have hfollowing : following (n :: ns) = n :: ns := by
        cases n with
        | paragraph => exact absurd rfl hp
        | _ => rfl
      rw [flatMap_blocks_places (item :: above) 0 n habove hown h.1, level_cons_item hitem,
        hfollowing, Render.blocks, Document.blocks_append]
termination_by structural ns

end

/-! ## Nesting -/

/-- Behind each place come the places beneath it, and then the others. -/
def Nested (ps : List Place) : Prop :=
  ∀ before p after, ps = before ++ p :: after → ∃ rest, after = p.beneath ++ rest

/-- Listings of what is nested may be put one after the other. -/
theorem Nested.append {ps qs : List Place} (hp : Nested ps) (hq : Nested qs) :
    Nested (ps ++ qs) := by
  intro before p after h
  rcases List.append_eq_append_iff.1 h with ⟨c, -, hc⟩ | ⟨c, hc, hd⟩
  · exact hq c p after hc
  · -- The place is in `ps`, unless `ps` ends right before it.
    cases c with
    | nil => exact hq [] p after hd.symm
    | cons p' c =>
      obtain ⟨rfl, rfl⟩ := List.cons.inj hd
      obtain ⟨rest, hrest⟩ := hp before p c hc
      refine ⟨rest ++ qs, ?_⟩
      rw [← List.append_assoc, ← hrest]
      rfl

theorem Nested.cons {p : Place} (h : Nested p.beneath) : Nested (p :: p.beneath) := by
  intro before q after hq
  cases before with
  | nil =>
    obtain ⟨rfl, rfl⟩ := List.cons.inj hq
    exact ⟨[], (List.append_nil _).symm⟩
  | cons p' before => exact h before q after (List.cons.inj hq).2

theorem nested_nil : Nested [] := by
  intro before p after h
  simp at h

mutual

/-- What is beneath a place is listed before what comes after it. -/
theorem nested_beneath (above : List Node) (index : Nat) (n : Node) :
    Nested (Place.mk n index above).beneath := by
  cases n with
  | document ns m | bulletList ns m | orderedList start ns m | listItem ns m =>
    exact nested_placesList _ 0 ns
  | _ => exact nested_nil
termination_by structural n

theorem nested_placesList (above : List Node) (index : Nat) (ns : List Node) :
    Nested (placesList above index ns) := by
  cases ns with
  | nil => exact nested_nil
  | cons n ns =>
    rw [placesList, places_eq]
    exact (nested_beneath above index n).cons.append (nested_placesList above (index + 1) ns)
termination_by structural ns

end

/-! ## The outline -/

/-- The label of an item is that of its place. -/
theorem Place.label_marking (o : DocxOptions) (p : Place) :
    (marking p.above p.index).label o = p.label o := by
  obtain ⟨n, index, above⟩ := p
  cases above with
  | nil => rfl
  | cons a above => cases a <;> rfl

/-- The first paragraph of an item opens it. -/
theorem Place.opens_opening (p : Place) : p.Opens s (p.opening s) := by
  have hruns : (p.opening s).runs =
      (if p.label s.options = "" then [] else [{ text := p.label s.options }]) ++
        Render.runs s.options .plain (ownText p.node.children) := by
    simp [opening, Marking.paragraph, textRuns, label_marking]
  obtain ⟨n, index, above⟩ := p
  cases above with
  | nil => exact ⟨rfl, rfl, rfl, hruns⟩
  | cons a above => cases a <;> exact ⟨rfl, rfl, rfl, hruns⟩

/-- Of its own an item gives the paragraph that opens it. -/
theorem Place.blocks_of_isItem {p : Place} (h : p.isItem = true) :
    p.blocks s = [.paragraph (p.opening s)] := by
  obtain ⟨n, index, above⟩ := p
  cases n with
  | listItem => rfl
  | _ => cases h

/-- The text that opens an item gives nothing more. -/
theorem Place.blocks_of_isOwnText {p : Place} (h : p.isOwnText = true) : p.blocks s = [] := by
  obtain ⟨n, index, above⟩ := p
  cases n with
  | paragraph => simp [blocks, h]
  | _ => simp [isOwnText, Node.kind] at h

/-- Any other leaf among blocks gives one paragraph. -/
theorem Place.exists_blocks_eq {p : Place} (hown : p.isOwnText = false)
    (h : p.node.kind ∈ [.paragraph, .fencedCode, .indentedCode, .heading, .thematicBreak]) :
    ∃ q, p.blocks s = [.paragraph q] := by
  obtain ⟨n, index, above⟩ := p
  cases n with
  | paragraph | fencedCode | indentedCode | heading | thematicBreak =>
    exact ⟨_, by rw [blocks, hown]; rfl⟩
  | _ => simp [Node.kind] at h

/-- The blocks beneath an item are those of the nodes that follow its own paragraph. -/
theorem Place.flatMap_blocks_beneath {p : Place} (hp : p.isItem = true)
    (h : ∀ q ∈ p.beneath, q.HoldsItems) :
    p.beneath.flatMap (Place.blocks s) =
      (Render.blocks s (level p.above + 1) (following p.node.children)).blocks := by
  obtain ⟨n, index, above⟩ := p
  cases n with
  | listItem ns m => exact Render.flatMap_blocks_beneath s _ above ns rfl h
  | _ => cases hp

/-- A block that is not made of other blocks gives paragraphs of no list. The level is the depth for
    the paragraphs and code blocks of the source, and zero for all else. -/
theorem of_mem_block {depth : Nat} {n : Node} {q : Paragraph}
    (hn : n.kind ∉ [.document, .bulletList, .orderedList, .listItem])
    (h : .paragraph q ∈ (block s depth n).blocks) :
    q.listKind = none ∧ q.listLevel =
      if n.kind ∈ [.paragraph, .fencedCode, .indentedCode] then (depth : Int) else 0 := by
  cases n with
  | heading value ns =>
    obtain rfl : q = heading s value ns := by simpa [block, Document.ofParagraph] using h
    rw [heading]
    -- A heading that falls back to a plain paragraph is in no list either.
    split <;> exact ⟨rfl, rfl⟩
  | paragraph | fencedCode | indentedCode | thematicBreak =>
    obtain rfl : q = _ := by simpa [block, Document.ofParagraph] using h
    exact ⟨rfl, rfl⟩
  | blockQuote ns =>
    rw [block, quote, Quotation.blocks] at h
    split at h
    · simp at h
    · obtain rfl : q = _ := by simpa using h
      exact ⟨rfl, rfl⟩
  | document | bulletList | orderedList | listItem => simp [Node.kind] at hn
  | _ => simp [block] at h

/-- What is no item gives paragraphs of no list, on the level where it stands. -/
theorem Place.of_mem_blocks {p : Place} {q : Paragraph} (hp : p.isItem = false)
    (h : .paragraph q ∈ p.blocks s) :
    q.listKind = none ∧ q.listLevel =
      if p.node.kind ∈ [.paragraph, .fencedCode, .indentedCode] then (Render.level p.above : Int)
      else 0 := by
  obtain ⟨n, index, above⟩ := p
  cases n with
  | listItem => cases hp
  | document | bulletList | orderedList => cases h
  | _ =>
    simp only [blocks] at h
    split at h
    · cases h
    · exact of_mem_block s (by simp [Node.kind]) h

/-- The paragraphs of lists that a place gives: the one that its item opens with. -/
theorem Place.items_blocks (p : Place) :
    ((p.blocks s).filterMap Block.paragraph?).filter (·.listKind.isSome) =
      if p.isItem then [p.opening s] else [] := by
  cases hp : p.isItem with
  | true =>
    rw [p.blocks_of_isItem s hp]
    rfl
  | false =>
    rw [if_neg Bool.false_ne_true, List.filter_eq_nil_iff]
    intro q hq
    obtain ⟨b, hb, hbq⟩ := List.mem_filterMap.1 hq
    cases b with
    | paragraph q' =>
      obtain rfl : q' = q := Option.some.inj hbq
      simp [(of_mem_blocks s hp hb).1]
    | table => cases hbq

/-- The paragraphs of lists are those that open items, in the same order. -/
theorem filter_listKind_flatMap_blocks (ps : List Place) :
    ((ps.flatMap (Place.blocks s)).filterMap Block.paragraph?).filter (·.listKind.isSome) =
      (ps.filter Place.isItem).map (Place.opening s) := by
  induction ps with
  | nil => rfl
  | cons p ps ih =>
    rw [List.flatMap_cons, List.filterMap_append, List.filter_append, ih, Place.items_blocks,
      List.filter_cons]
    cases p.isItem <;> rfl

/-- A document outlines the lists that are reached at some places. -/
structure Outlines (ps : List Place) (d : Document) : Prop where
  /-- The blocks are those of the places, one place after another. -/
  blocks : d.blocks = ps.flatMap (Place.blocks s)
  /-- The items and the paragraphs that belong to a list correspond one to one, in order. -/
  items : List.Forall₂ (Place.Opens s) (ps.filter Place.isItem)
    (d.paragraphs.filter (·.listKind.isSome))
  /-- Right behind the paragraph of an item come the blocks of the other nodes that it holds, and
      only then what lies outside of it. -/
  inside : ∀ before p after, ps = before ++ p :: after → p.isItem = true →
    ∃ q rest, p.Opens s q ∧ after = p.beneath ++ rest ∧
      d.blocks = before.flatMap (Place.blocks s) ++ .paragraph q ::
        ((Render.blocks s (level p.above + 1) (following p.node.children)).blocks ++
          rest.flatMap (Place.blocks s))
  /-- The text that an item opens with is not given again. -/
  ownText : ∀ p ∈ ps, p.isOwnText = true → p.blocks s = []
  /-- Any other paragraph and any code block, heading or thematic break gives one paragraph. -/
  single : ∀ p ∈ ps, p.isOwnText = false →
    p.node.kind ∈ [.paragraph, .fencedCode, .indentedCode, .heading, .thematicBreak] →
      ∃ q, p.blocks s = [.paragraph q]
  /-- A paragraph that no item opens with belongs to no list. Paragraphs and code blocks are as deep
      as they lie in items, and all else is at the level zero. -/
  others : ∀ p ∈ ps, p.isItem = false → ∀ q, .paragraph q ∈ p.blocks s →
    q.listKind = none ∧ q.listLevel =
      if p.node.kind ∈ [.paragraph, .fencedCode, .indentedCode] then (level p.above : Int) else 0

/-- Flattening keeps the lists of a tree whose lists hold nothing but items. -/
theorem outlines_render (ns : List Node) (h : ∀ p ∈ reached ns, p.HoldsItems) :
    Outlines s (reached ns) (render s ns) := by
  have hblocks : (render s ns).blocks = (reached ns).flatMap (Place.blocks s) :=
    (flatMap_blocks_placesList s [] 0 ns (by simp [AmongBlocks]) (by simp) h).symm
  refine ⟨hblocks, ?_, ?_, fun p _ => p.blocks_of_isOwnText s, fun p _ => p.exists_blocks_eq s,
    fun p _ hp q => p.of_mem_blocks s hp⟩
  · rw [Document.paragraphs, hblocks, filter_listKind_flatMap_blocks, List.forall₂_map_right_iff,
      List.forall₂_same]
    exact fun p _ => p.opens_opening s
  · intro before p after hps hp
    obtain ⟨rest, rfl⟩ := nested_placesList [] 0 ns before p after hps
    have hbeneath : ∀ q ∈ p.beneath, q.HoldsItems := fun q hq =>
      h q (by rw [hps]; simp [hq])
    refine ⟨p.opening s, rest, p.opens_opening s, rfl, ?_⟩
    rw [hblocks, hps, List.flatMap_append, List.flatMap_cons, List.flatMap_append,
      p.blocks_of_isItem s hp, p.flatMap_blocks_beneath s hp hbeneath]
    rfl

/-- Two numbered items, of which the first holds a list of its own. -/
theorem outlines_render_nested_list :
    let ns : List Node := [.orderedList 3
      [.listItem [.paragraph [.text "a"], .bulletList [.listItem [.paragraph [.text "b"]]]],
        .listItem [.paragraph [.text "c"]]]]
    (∀ p ∈ reached ns, p.HoldsItems) ∧ Outlines {} (reached ns) (render {} ns) ∧
      (render {} ns).paragraphs.map (fun q => (q.listOrdinal, q.listLevel)) =
        [(some 3, 0), (none, 1), (some 4, 0)] := by
  intro ns
  have h : ∀ p ∈ reached ns, p.HoldsItems := by decide
  exact ⟨h, outlines_render {} ns h, by decide⟩

end Manuscript.Render
