import Manuscript.Proofs.Node.Listing
import Manuscript.Proofs.Node.Properties
import Manuscript.Proofs.Render.Gathering
import Manuscript.Renderer

/-!
# What a walk writes

A renderer changes as it walks over a tree, but a part of a walk sees little of it: the answer and
what is added to the document hang on nothing but the number of items around, and the rest of the
renderer is afterwards as it was before (`Renderer.Writes`). That is so of writing a block, and it
is kept by sequences and by going down into an item, whether or not a fault ends the part. So it is
so of every walk, and the document that a walk adds is the one that the tree is laid out to by
itself if each list holds items only (`Renderer.Lays`):

* `Writes.bind`, `Writes.deeper`: how parts are put together;
* `lays_visit`, `lays_visitAll`, `lays_visitItems`, `lays_visitHeld`: the walks over a node, a list
  of nodes, the items of a list and what an item holds.
-/

namespace Manuscript

open Layout Render

/-! ## Documents one after another -/

namespace Layout.Document

theorem append_empty (d : Document) : d ++ ({} : Document) = d := by
  change (⟨d.blocks ++ [], d.metadata⟩ : Document) = d
  rw [List.append_nil]

theorem empty_append {d : Document} (h : d.metadata.Distinct) : ({} : Document) ++ d = d :=
  congrArg (Document.mk d.blocks) (Metadata.nil_update h)

/-- Documents are put together to the same from either end, if the one between them names no property
    twice. -/
theorem append_assoc (c : Document) {d : Document} (h : d.metadata.Distinct) (e : Document) :
    c ++ d ++ e = c ++ (d ++ e) :=
  congrArg₂ Document.mk (List.append_assoc ..) (Metadata.update_update h _ _).symm

end Layout.Document

/-! ## Regular trees -/

/-- A node that holds items only if it is a list, and that names no property twice. -/
structure Node.Regular (n : Node) : Prop where
  items : n.kind = .bulletList ∨ n.kind = .orderedList → ∀ m ∈ n.children, m.kind = .listItem
  names : n.metadata.Distinct

instance (n : Node) : Decidable n.Regular :=
  decidable_of_iff ((n.kind = .bulletList ∨ n.kind = .orderedList →
      ∀ m ∈ n.children, m.kind = .listItem) ∧ n.metadata.Distinct)
    ⟨fun ⟨items, names⟩ => ⟨items, names⟩, fun h => ⟨h.items, h.names⟩⟩

/-- All nodes of some trees are regular. -/
def Node.AllRegular (ns : List Node) : Prop :=
  ∀ n ∈ listing ns, n.Regular

instance (ns : List Node) : Decidable (Node.AllRegular ns) :=
  inferInstanceAs (Decidable (∀ _ ∈ _, _))

/-- Nodes are regular if the first, what is beneath it, and the others are. -/
theorem Node.allRegular_cons {n : Node} {ns : List Node} :
    AllRegular (n :: ns) ↔ n.Regular ∧ AllRegular n.children ∧ AllRegular ns :=
  forall_mem_listing_cons

namespace Renderer

open Node

/-- The renderer after another document has been added to the one that is written into. -/
def extended (r : Renderer) (d : Document) : Renderer :=
  { r with documents := r.documents.modify r.current (· ++ d) }

theorem extended_empty (r : Renderer) : r.extended {} = r := by
  have hid : (fun d : Document => d ++ ({} : Document)) = id := funext Document.append_empty
  rw [extended, hid, List.modify_id]

/-- Extending a renderer twice is extending it by both documents. -/
theorem extended_extended (r : Renderer) {d : Document} (h : d.metadata.Distinct) (e : Document) :
    (r.extended d).extended e = r.extended (d ++ e) := by
  have hassoc : (fun c : Document => c ++ d ++ e) = fun c => c ++ (d ++ e) :=
    funext fun c => Document.append_assoc c h e
  rw [extended, extended, extended, List.modify_modify_eq]
  exact congrArg (fun f => { r with documents := r.documents.modify r.current f }) hassoc

/-! ## What one part writes -/

theorem run_bind (x : Writing α) (y : α → Writing β) (r : Renderer) :
    (x >>= y).run.run r =
      match x.run.run r with
      | (.ok a, r) => (y a).run.run r
      | (.error e, r) => (.error e, r) := by
  cases h : x.run.run r with
  | mk answer r =>
    rw [ExceptT.run_bind, StateT.run_bind, h]
    cases answer <;> rfl

/-- What is written deeper leaves the depth as it was. -/
theorem run_deeper (x : Writing Unit) (r : Renderer) :
    (deeper x).run.run r =
      match x.run.run { r with depth := r.depth + 1 } with
      | (answer, r) => (answer, { r with depth := r.depth - 1 }) := by
  have hrun (p : Except Fault Unit × Renderer) (h : x { r with depth := r.depth + 1 } = p) :
      (deeper x).run.run r = (p.1, { p.2 with depth := p.2.depth - 1 }) := by
    simp only [deeper, modify, modifyGet, MonadStateOf.modifyGet, StateT.modifyGet, monadLift,
      MonadLift.monadLift, ExceptT.lift, ExceptT.mk, bind, ExceptT.bind, ExceptT.run, StateT.run,
      StateT.bind, ExceptT.bindCont, tryFinally, tryFinally', Functor.map, StateT.map, ExceptT.map,
      pure, h]
    obtain ⟨answer | answer, r⟩ := p <;> rfl
  exact hrun _ rfl

/-- What a part of a walk gives, by the number of items around: its answer, and the document that
    it adds to the one that is written into. -/
abbrev Effect (α : Type) :=
  Nat → Except Fault α × Document

/-- The effect of two parts, one after the other. The second is left out if the first ends with a
    fault. -/
def Effect.andThen (f : Effect α) (g : α → Effect β) : Effect β := fun depth =>
  match f depth with
  | (.ok a, d) => ((g a depth).1, d ++ (g a depth).2)
  | (.error e, d) => (.error e, d)

/-- A part of a walk has an effect, whichever renderer it is part of, and changes nothing else. -/
structure Writes (x : Writing α) (f : Effect α) : Prop where
  distinct : ∀ depth, (f depth).2.metadata.Distinct
  run : ∀ r : Renderer, x.run.run r = ((f r.depth).1, r.extended (f r.depth).2)

namespace Writes

theorem pure (a : α) : Writes (Pure.pure a) fun _ => (.ok a, {}) where
  distinct _ := Metadata.distinct_nil
  run r := by
    rw [extended_empty]
    rfl

theorem throw (e : Fault) : Writes (α := α) (throw e) fun _ => (.error e, {}) where
  distinct _ := Metadata.distinct_nil
  run r := by
    rw [extended_empty]
    rfl

/-- A block that is written may hang on the number of items around. -/
theorem write (b : Nat → Block) :
    Writes (do write (b (← get).depth)) fun depth => (.ok (), { blocks := [b depth] }) where
  distinct _ := Metadata.distinct_nil
  run _ := rfl

theorem setProperties (m : Metadata) :
    Writes (setProperties m) fun _ => (.ok (), { metadata := Metadata.update [] m }) where
  distinct _ := Metadata.distinct_nil.update m
  run r := by
    have hset : (fun d : Document => { d with metadata := d.metadata.update m }) =
        (· ++ ({ metadata := Metadata.update [] m } : Document)) := by
      funext d
      refine congrArg₂ Document.mk (List.append_nil _).symm ?_
      exact (Metadata.update_update Metadata.distinct_nil d.metadata m).symm
    rw [extended, ← hset]
    rfl

variable {f : Effect α} {x : Writing α}

/-- One step and then another add what the first adds, and then what the second does. -/
theorem bind (hx : Writes x f) {y : α → Writing β} {g : α → Effect β}
    (hy : ∀ a, Writes (y a) (g a)) : Writes (x >>= y) (f.andThen g) where
  distinct depth := by
    have hd := hx.distinct depth
    rw [Effect.andThen]
    split
    · next a d h =>
      rw [h] at hd
      exact hd.update _
    · next e d h =>
      rw [h] at hd
      exact hd
  run r := by
    have hd := hx.distinct r.depth
    rw [run_bind, hx.run, Effect.andThen]
    -- An error ends both; otherwise what follows starts from the document that was extended.
    rcases h : f r.depth with ⟨e | a, d⟩
    · rfl
    · rw [h] at hd
      change (y a).run.run (r.extended d) = _
      rw [(hy a).run, extended_extended r hd]
      rfl

theorem deeper {x : Writing Unit} {f : Effect Unit} (hx : Writes x f) :
    Writes (deeper x) fun depth => f (depth + 1) where
  distinct depth := hx.distinct (depth + 1)
  run r := by
    rw [run_deeper, hx.run]
    rfl

end Writes

/-! ## Walks -/

/-- A part of a walk has some effect, and if the condition holds it ends well and adds the given
    documents, each for a number of items around. -/
def Lays (condition : Prop) (x : Writing Unit) (d : Nat → Document) : Prop :=
  ∃ f, Writes x f ∧ (condition → f = fun depth => (.ok (), d depth))

namespace Lays

variable {p q : Prop} {x y : Writing Unit} {d e : Nat → Document}

/-- What lays out a document under a condition does so under a stronger one. -/
theorem mono (h : Lays p x d) (hq : q → p) : Lays q x d := by
  obtain ⟨f, hf, hok⟩ := h
  exact ⟨f, hf, hok ∘ hq⟩

theorem skip : Lays p (Pure.pure ()) fun _ => {} :=
  ⟨_, .pure (), fun _ => rfl⟩

theorem throw (e : Fault) : Lays False (throw e) d :=
  ⟨_, .throw e, False.elim⟩

theorem write (b : Nat → Block) :
    Lays p (do Renderer.write (b (← get).depth)) fun depth => { blocks := [b depth] } :=
  ⟨_, .write b, fun _ => rfl⟩

theorem setProperties (m : Metadata) :
    Lays m.Distinct (setProperties m) fun _ => { metadata := m } :=
  ⟨_, .setProperties m, fun hm => by rw [Metadata.nil_update hm]⟩

/-- Two steps lay out their documents one after the other. -/
theorem seq (hx : Lays p x d) (hy : Lays q y e) :
    Lays (p ∧ q) (do x; y) fun depth => d depth ++ e depth := by
  obtain ⟨f, hf, hfok⟩ := hx
  obtain ⟨g, hg, hgok⟩ := hy
  refine ⟨_, hf.bind fun _ => hg, fun ⟨hp, hq⟩ => ?_⟩
  rw [hfok hp, hgok hq]
  rfl

theorem deeper (hx : Lays p x d) : Lays p (deeper x) fun depth => d (depth + 1) := by
  obtain ⟨f, hf, hok⟩ := hx
  exact ⟨_, hf.deeper, fun hp => by rw [hok hp]⟩

/-- Writing a block for each member lays out those blocks. -/
theorem forM_write (bs : List α) (b : α → Block) :
    Lays p (bs.forM fun a => Renderer.write (b a)) fun _ => { blocks := bs.map b } := by
  induction bs with
  | nil => exact skip
  | cons a bs ih => exact ((write fun _ => b a).seq ih).mono fun hp => ⟨hp, hp⟩

end Lays

/-- An item is opened with its paragraph, at the depth that holds there. -/
theorem lays_writeOpening (s : Setup) (m : Marking) (text : List Run) :
    Lays True (writeOpening s m text) fun depth =>
      .ofParagraph (m.paragraph s.options depth text) :=
  .write fun depth => .paragraph (m.paragraph s.options depth text)

/-- A quote is written as its blocks. -/
theorem lays_writeQuote (s : Setup) (g : Gathering) :
    Lays True (writeQuote s g) fun _ => { blocks := g.blocks s.options } := by
  have htables := Lays.forM_write (p := True) g.tables fun t => .table (table s.options t.1 t.2)
  rw [writeQuote, Gathering.blocks]
  by_cases h : (!g.runs.isEmpty || g.tables.isEmpty) = true
  · rw [if_pos h, if_pos h]
    have htext := Lays.write (p := True) fun _ => .paragraph g.paragraph
    exact (htext.seq htables).mono fun h => ⟨h, h⟩
  · rw [if_neg h, if_neg h]
    exact (Lays.skip.seq htables).mono fun h => ⟨trivial, h⟩

/-- What an item holds that does not begin with a paragraph is visited within the item. -/
theorem visitHeld_cons_of_ne {n : Node} (h : n.kind ≠ .paragraph) (s : Setup) (m : Marking)
    (ns : List Node) :
    visitHeld s m (n :: ns) = (do writeOpening s m []; deeper (visitAll s (n :: ns))) := by
  cases n with
  | paragraph => exact absurd rfl h
  | _ => simp only [visitHeld, visitAll]

mutual

/-- Visiting a node lays out its blocks, by cases on the node. -/
theorem lays_visit (s : Setup) (n : Node) :
    Lays (n.Regular ∧ AllRegular n.children) (visit s n) fun depth => block s depth n := by
  cases n with
  | document ns m =>
    simp only [visit, block]
    exact ((Lays.setProperties m).seq (lays_visitAll s ns)).mono fun h => ⟨h.1.names, h.2⟩
  | bulletList ns m | orderedList _ ns m =>
    simp only [visit, block]
    exact (lays_visitItems s _ ns).mono fun h => ⟨h.1.items (by simp [Node.kind]), h.2⟩
  | listItem ns m =>
    simp only [visit, block]
    exact (lays_visitHeld s _ ns).mono (·.2)
  | blockQuote ns m =>
    simp only [visit, block, ← blocks_gatherAll]
    exact (lays_writeQuote s _).mono fun _ => trivial
  | heading | table | thematicBreak =>
    simp only [visit, block]
    exact .write fun _ => _
  | fencedCode code | indentedCode code =>
    simp only [visit, block]
    exact .write fun depth => .paragraph (codeBlock s depth code)
  | paragraph ns m =>
    simp only [visit, block]
    exact .write fun depth => .paragraph
      { runs := runs s.options .plain ns, spacingAfter := some 150, listLevel := depth }
  | tableRow | tableCell | htmlBlock | text | emphasis | strong | underline | code | link | image
  | softBreak | hardBreak | htmlInline =>
    simp only [visit, block]
    exact .skip

/-- Visiting nodes lays out their blocks one after the other. -/
theorem lays_visitAll (s : Setup) (ns : List Node) :
    Lays (AllRegular ns) (visitAll s ns) fun depth => blocks s depth ns := by
  cases ns with
  | nil =>
    simp only [visitAll, blocks]
    exact .skip
  | cons n ns =>
    simp only [visitAll, blocks]
    refine ((lays_visit s n).seq (lays_visitAll s ns)).mono fun h => ?_
    obtain ⟨hn, hchildren, hns⟩ := allRegular_cons.1 h
    exact ⟨⟨hn, hchildren⟩, hns⟩

/-- Visiting the items of a list lays out their blocks, if they are items. -/
theorem lays_visitItems (s : Setup) (m : Marking) (ns : List Node) :
    Lays ((∀ n ∈ ns, n.kind = .listItem) ∧ AllRegular ns) (visitItems s m ns) fun depth =>
      items s depth m ns := by
  cases ns with
  | nil =>
    simp only [visitItems, items]
    exact .skip
  | cons n ns =>
    simp only [visitItems, items]
    refine ((lays_visitItem s m n).seq (lays_visitItems s m.next ns)).mono fun ⟨hitems, h⟩ => ?_
    obtain ⟨hn, hchildren, hns⟩ := allRegular_cons.1 h
    rw [List.forall_mem_cons] at hitems
    exact ⟨⟨hitems.1, hchildren⟩, hitems.2, hns⟩

/-- Visiting an item lays out its blocks. -/
theorem lays_visitItem (s : Setup) (m : Marking) (n : Node) :
    Lays (n.kind = .listItem ∧ AllRegular n.children) (visitItem s m n) fun depth =>
      item s depth m n := by
  cases n with
  | listItem ns | document ns | blockQuote ns =>
    simp only [visitItem, item]
    exact (lays_visitHeld s m ns).mono (·.2)
  | _ =>
    simp only [visitItem]
    exact (Lays.throw _).mono fun h => nomatch h.1

/-- Visiting what an item holds lays out what is there after its first paragraph. -/
theorem lays_visitHeld (s : Setup) (m : Marking) (ns : List Node) :
    Lays (AllRegular ns) (visitHeld s m ns) fun depth => itemBlocks s depth m ns := by
  cases ns with
  | nil =>
    simp only [visitHeld, itemBlocks]
    exact (lays_writeOpening s m []).mono fun _ => trivial
  | cons n ns =>
    by_cases hn : n.kind = .paragraph
    · cases n with
      | paragraph text =>
        simp only [visitHeld, itemBlocks]
        refine ((lays_writeOpening s m _).seq (lays_visitAll s ns).deeper).mono fun h => ?_
        exact ⟨trivial, (allRegular_cons.1 h).2.2⟩
      | _ => cases hn
    · simp only [visitHeld_cons_of_ne hn, itemBlocks_cons_of_ne hn]
      -- The walk over the node is split off again, for the sake of the recursion.
      simp only [visitAll, blocks]
      refine ((lays_writeOpening s m []).seq
        ((lays_visit s n).seq (lays_visitAll s ns)).deeper).mono fun h => ?_
      obtain ⟨hn, hchildren, hns⟩ := allRegular_cons.1 h
      exact ⟨trivial, ⟨hn, hchildren⟩, hns⟩

end

end Renderer

end Manuscript
