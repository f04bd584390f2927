import Manuscript.Node.Visitor
import Manuscript.Node.Visit
import Mathlib.Data.List.Forall2

/-!
# Walks of visitors

A node stands at a place in a tree: the fields and indices that lead to it from the root (`at?`).
Places have an order, in which a node comes before those beneath it and what is beneath one field or
index before what is beneath a later one (`Step.Precedes`). This says which nodes a tree holds, and in
which order they stand in the document, without a word about visitors.

A visitor that goes on to the nodes directly beneath, save at nodes of some kinds, comes to each place
that no node of these kinds stands above, once and in the order of places (`accept_walking`).
-/

namespace Manuscript.Node

/-! ## Places -/

/-- The fields of nodes in which they hold nodes. -/
inductive Slot
  | children | content | items | header | rows | cells
  deriving DecidableEq

/-- The nodes that a node holds in a field. -/
def held : Node → Slot → List Node
  | .document ns _, .children | .listItem ns _, .children | .blockQuote ns _, .children => ns
  | .heading _ ns _, .content | .paragraph ns _, .content | .tableCell ns _, .content
  | .emphasis ns _, .content | .strong ns _, .content | .underline ns _, .content
  | .link _ ns _ _, .content => ns
  | .bulletList ns _, .items | .orderedList _ ns _, .items => ns
  | .table header _ _, .header => header.toList
  | .table _ rows _, .rows => rows
  | .tableRow ns _, .cells => ns
  | _, _ => []

/-- A step from a node to one that it holds. -/
structure Step where
  slot : Slot
  index : Nat

/-- The steps from the root of a tree to one of its nodes. -/
abbrev Place := List Step

/-- The node at a place. -/
def at? (n : Node) : Place → Option Node
  | [] => some n
  | s :: rest => (n.held s.slot)[s.index]?.bind fun c => c.at? rest

/-- The order of the document: a field by its indices, and the header of a table before its rows. -/
inductive Step.Precedes : Step → Step → Prop
  | index {slot : Slot} {i j : Nat} : i < j → Precedes ⟨slot, i⟩ ⟨slot, j⟩
  | header {i j : Nat} : Precedes ⟨.header, i⟩ ⟨.rows, j⟩

/-- A place of a tree with no node above it that is of a kind at which a walk stops. -/
def Reaches (stops : Kind → Bool) (n : Node) (a : Place) : Prop :=
  (n.at? a).isSome ∧
    ∀ above c, above <+: a → above ≠ a → n.at? above = some c → stops c.kind = false

/-- What is at a place is found step by step. -/
theorem at?_cons_eq_some_iff {n c : Node} {s : Step} {a : Place} :
    n.at? (s :: a) = some c ↔ ∃ b, (n.held s.slot)[s.index]? = some b ∧ b.at? a = some c := by
  rw [at?, Option.bind_eq_some_iff]

theorem reaches_nil (stops : Kind → Bool) (n : Node) : Reaches stops n [] :=
  ⟨rfl, fun _ _ h hne => absurd (List.prefix_nil.1 h) hne⟩

/-- A walk reaches a place if it does not stop before it. -/
theorem reaches_cons_iff {stops : Kind → Bool} {n : Node} {s : Step} {a : Place} :
    Reaches stops n (s :: a) ↔
      stops n.kind = false ∧ ∃ c, (n.held s.slot)[s.index]? = some c ∧ Reaches stops c a := by
  constructor
  · rintro ⟨hat, habove⟩
    obtain ⟨b, hb⟩ := Option.isSome_iff_exists.1 hat
    obtain ⟨c, hc, hcb⟩ := at?_cons_eq_some_iff.1 hb
    -- The node itself is above all the rest of the way, so no visitor stops there.
    refine ⟨habove [] n (List.nil_prefix) (List.cons_ne_nil _ _).symm rfl, c, hc,
      Option.isSome_iff_exists.2 ⟨b, hcb⟩, fun above d hp hne hd => ?_⟩
    exact habove (s :: above) d (List.cons_prefix_cons.2 ⟨rfl, hp⟩) (by simpa using hne)
      (at?_cons_eq_some_iff.2 ⟨c, hc, hd⟩)
  · rintro ⟨hn, c, hc, hat, habove⟩
    obtain ⟨b, hb⟩ := Option.isSome_iff_exists.1 hat
    refine ⟨Option.isSome_iff_exists.2 ⟨b, at?_cons_eq_some_iff.2 ⟨c, hc, hb⟩⟩,
      fun above d hp hne hd => ?_⟩
    cases above with
    | nil =>
      cases hd
      exact hn
    | cons s' above =>
      obtain ⟨rfl, hp'⟩ := List.cons_prefix_cons.1 hp
      obtain ⟨c', hc', hd'⟩ := at?_cons_eq_some_iff.1 hd
      obtain rfl := Option.some.inj (hc.symm.trans hc')
      exact habove above d hp' (by simpa using hne) hd'

/-! ## Steps -/

/-- The steps into a field that holds some nodes, each with the node that it leads to. -/
def indexed (slot : Slot) (ns : List Node) : List (Step × Node) :=
  ns.zipIdx.map fun p => (⟨slot, p.2⟩, p.1)

@[simp] theorem indexed_nil (slot : Slot) : indexed slot [] = [] := rfl

/-- A child is held at its index. -/
theorem mem_indexed_iff {slot : Slot} {ns : List Node} {s : Step} {c : Node} :
    (s, c) ∈ indexed slot ns ↔ s.slot = slot ∧ ns[s.index]? = some c := by
  obtain ⟨slot', i⟩ := s
  simp only [indexed, List.mem_map, List.mem_zipIdx_iff_getElem?, Prod.mk.injEq, Prod.exists]
  constructor
  · rintro ⟨_, _, h, ⟨rfl, rfl⟩, rfl⟩
    exact ⟨rfl, h⟩
  · rintro ⟨rfl, h⟩
    exact ⟨c, i, h, rfl, rfl⟩

theorem map_indexed (slot : Slot) (ns : List Node) : (indexed slot ns).map (·.2) = ns := by
  rw [indexed, List.map_map]
  exact List.zipIdx_map_fst 0 ns

/-- Children are listed in the order of their indices. -/
theorem pairwise_indexed (slot : Slot) (ns : List Node) :
    (indexed slot ns).Pairwise fun p q => p.1.Precedes q.1 := by
  rw [indexed, List.pairwise_map, List.pairwise_iff_getElem]
  intro i j hi hj hij
  rw [List.getElem_zipIdx, List.getElem_zipIdx]
  exact .index (by simpa using hij)

/-- The steps from a node, in the order of the document. -/
def steps (n : Node) : List (Step × Node) :=
  [Slot.children, .content, .items, .header, .rows, .cells].flatMap fun slot =>
    indexed slot (n.held slot)

/-- The steps from a node are to what it holds. -/
theorem mem_steps_iff {n c : Node} {s : Step} :
    (s, c) ∈ n.steps ↔ (n.held s.slot)[s.index]? = some c := by
  rw [steps, List.mem_flatMap]
  constructor
  · rintro ⟨slot, -, h⟩
    obtain ⟨rfl, h⟩ := mem_indexed_iff.1 h
    exact h
  · intro h
    exact ⟨s.slot, by cases s.slot <;> simp, mem_indexed_iff.2 ⟨rfl, h⟩⟩

/-- The nodes directly beneath a node are those that it holds, in the order of the document. -/
theorem map_steps (n : Node) : n.steps.map (·.2) = n.children := by
  rw [steps, List.map_flatMap]
  simp only [map_indexed]
  cases n <;> simp [held, children]

/-- The steps from a node are listed in order, field by field. -/
theorem pairwise_steps (n : Node) : n.steps.Pairwise fun p q => p.1.Precedes q.1 := by
  cases n with
  | table header rows =>
    -- The one kind of nodes with two fields.
    simp only [steps, held, List.flatMap_cons, List.flatMap_nil, indexed_nil, List.nil_append,
      List.append_nil]
    refine List.pairwise_append.2 ⟨pairwise_indexed _ _, pairwise_indexed _ _, ?_⟩
    rintro ⟨s, c⟩ hc ⟨s', c'⟩ hc'
    obtain ⟨slot, i⟩ := s
    obtain ⟨slot', j⟩ := s'
    obtain ⟨rfl, -⟩ := mem_indexed_iff.1 hc
    obtain ⟨rfl, -⟩ := mem_indexed_iff.1 hc'
    exact .header
  | _ => simp [steps, held, pairwise_indexed]

/-! ## Walks -/

/-- What holds of a node whenever it holds of those directly beneath it holds of all nodes. -/
theorem induction_children {P : Node → Prop} (h : ∀ n, (∀ c ∈ n.children, P c) → P n) (n : Node) :
    P n :=
  h n fun c _ => induction_children h c
termination_by n
decreasing_by exact sizeOf_lt_of_mem_children ‹_›

variable {stops : Kind → Bool}

/-- The places that a walk comes to, in order, and the nodes that it finds there. -/
structure Walks (stops : Kind → Bool) (n : Node) (as : List Place) (cs : List Node) : Prop where
  ordered : as.Pairwise (List.Lex Step.Precedes)
  mem_iff : ∀ a, a ∈ as ↔ Reaches stops n a
  found : List.Forall₂ (fun a c => n.at? a = some c) as cs

/-- The walks from some nodes, one after another, are ordered as the steps that lead to these. -/
theorem exists_walks_beneath {ps : List (Step × Node)}
    (hps : ps.Pairwise fun p q => p.1.Precedes q.1)
    (h : ∀ p ∈ ps, ∃ as, Walks stops p.2 as ((visits stops p.2).map (·.node))) :
    ∃ as, as.Pairwise (List.Lex Step.Precedes) ∧
      (∀ a, a ∈ as ↔ ∃ p ∈ ps, ∃ b, a = p.1 :: b ∧ Reaches stops p.2 b) ∧
      List.Forall₂ (fun a c => ∃ p ∈ ps, ∃ b, a = p.1 :: b ∧ p.2.at? b = some c) as
        ((visitsList stops (ps.map (·.2))).map (·.node)) := by
  induction ps with
  | nil => exact ⟨[], .nil, by simp, .nil⟩
  | cons p ps ih =>
    -- The places beneath the first node come before those beneath the others.
    obtain ⟨hp, hps⟩ := List.pairwise_cons.1 hps
    obtain ⟨as, has⟩ := h p List.mem_cons_self
    obtain ⟨bs, hordered, hmem, hfound⟩ := ih hps fun q hq => h q (List.mem_cons_of_mem p hq)
    refine ⟨as.map (p.1 :: ·) ++ bs, List.pairwise_append.2 ⟨?_, hordered, ?_⟩, ?_, ?_⟩
    · exact List.pairwise_map.2 (has.ordered.imp .cons)
    · intro a ha b hb
      obtain ⟨a, -, rfl⟩ := List.mem_map.1 ha
      obtain ⟨q, hq, b, rfl, -⟩ := (hmem b).1 hb
      exact .rel (hp q hq)
    · intro a
      simp only [List.mem_append, List.mem_map, hmem, has.mem_iff, List.exists_mem_cons_iff]
      refine or_congr_left ?_
      constructor
      · rintro ⟨b, hb, rfl⟩
        exact ⟨b, rfl, hb⟩
      · rintro ⟨b, rfl, hb⟩
        exact ⟨b, hb, rfl⟩
    · rw [List.map_cons, visitsList, List.map_append]
      refine List.rel_append ?_ ?_
      · exact List.forall₂_map_left_iff.2
          (has.found.imp fun a c hc => ⟨p, List.mem_cons_self, a, rfl, hc⟩)
      · refine hfound.imp fun a c hc => ?_
        obtain ⟨q, hq, hc⟩ := hc
        exact ⟨q, List.mem_cons_of_mem p hq, hc⟩

/-- The visits of a walk are to the nodes at the places that it reaches. -/
theorem exists_walks (stops : Kind → Bool) (n : Node) :
    ∃ as, Walks stops n as ((visits stops n).map (·.node)) := by
  induction n using induction_children with
  | h n ih =>
    rw [visits_eq]
    cases hn : stops n.kind with
    | true =>
      refine ⟨[[]], List.pairwise_singleton _ _, fun a => ?_, .cons rfl .nil⟩
      cases a with
      | nil => simp [reaches_nil]
      | cons s a => simp [reaches_cons_iff, hn]
    | false =>
      have hbeneath (p : Step × Node) (hp : p ∈ n.steps) :
          ∃ as, Walks stops p.2 as ((visits stops p.2).map (·.node)) :=
        ih p.2 (map_steps n ▸ List.mem_map_of_mem hp)
      obtain ⟨as, hordered, hmem, hfound⟩ := exists_walks_beneath (pairwise_steps n) hbeneath
      rw [map_steps] at hfound
      -- The node itself is at the empty place, which comes before all places beneath it.
      refine ⟨[] :: as, List.pairwise_cons.2 ⟨fun a ha => ?_, hordered⟩, fun a => ?_,
        .cons rfl (hfound.imp fun a c => ?_)⟩
      · obtain ⟨p, -, b, rfl, -⟩ := (hmem a).1 ha
        exact .nil
      · cases a with
        | nil => simp [reaches_nil]
        | cons s a =>
          simp only [List.mem_cons, reduceCtorEq, false_or, hmem, reaches_cons_iff, hn, true_and]
          constructor
          · rintro ⟨p, hp, b, hab, hb⟩
            obtain ⟨rfl, rfl⟩ := List.cons.inj hab
            exact ⟨p.2, mem_steps_iff.1 hp, hb⟩
          · rintro ⟨c, hc, ha⟩
            exact ⟨(s, c), mem_steps_iff.2 hc, a, rfl, ha⟩
      · rintro ⟨p, hp, b, rfl, hc⟩
        exact at?_cons_eq_some_iff.2 ⟨p.2, mem_steps_iff.1 hp, hc⟩

/-! ## Visitors -/

section Accept

variable {m : Type → Type} [Monad m] (own : Kind → Option (Node → m Unit)) (record : Node → m Unit)

/-- What a walking visitor does at a node that it comes to. -/
def handle (n : Node) : m Unit :=
  (own n.kind).getD record n

variable {own record}

/-- A node with work of its own is not walked beneath. -/
theorem accept_walking_of_some {n : Node} {f : Node → m Unit} (h : own n.kind = some f) :
    n.accept (.walking own record) = f n := by
  rw [accept]
  simp [Visitor.method, Visitor.walking, h]

/-- Any other node is recorded, and then its children are walked. -/
theorem accept_walking_of_none [LawfulMonad m] {n : Node} (h : own n.kind = none) :
    n.accept (.walking own record) =
      (do record n; forM n.children fun c => c.accept (.walking own record)) := by
  have hmethod :
      (Visitor.walking own record).method n.kind = (Visitor.walking own record).generic := by
    simp [Visitor.method, Visitor.walking, h]
  rw [accept, hmethod]
  conv_rhs => rw [← List.attach_map_subtype_val n.children, List.forM_map]
  rfl

variable [LawfulMonad m]

/-- A walking visitor does its work at the nodes of a walk that stops where it has methods of its
    own. -/
theorem accept_walking_eq (n : Node) :
    n.accept (.walking own record) =
      forM ((visits (fun k => (own k).isSome) n).map (·.node)) (handle own record) := by
  induction n using induction_children with
  | h n ih =>
    rw [visits_eq]
    cases hn : own n.kind with
    | some f => simp [accept_walking_of_some hn, handle, hn]
    | none =>
      have hbeneath (ns : List Node) (hns : ∀ c ∈ ns, c ∈ n.children) :
          forM ns (fun c => c.accept (.walking own record)) =
            forM ((visitsList (fun k => (own k).isSome) ns).map (·.node)) (handle own record) := by
        induction ns with
        | nil => rfl
        | cons c ns ihns =>
          obtain ⟨hc, hns⟩ := List.forall_mem_cons.1 hns
          rw [List.forM_cons, visitsList, List.map_append, List.forM_append, ih c hc, ihns hns]
      rw [accept_walking_of_none hn, hbeneath n.children fun _ => id]
      simp [handle, hn]

/-- A visitor that goes on to the nodes directly beneath each node, save at the kinds of nodes that it
    has methods of its own for, comes to a list of places: in the order of the document, none twice,
    and all of those places of the tree that no node of such a kind stands above, and no others. It
    does its work at the nodes there, one after another and nothing else: at a node of such a kind
    what the method for it does, and at the others what it does at most nodes. -/
theorem accept_walking (own : Kind → Option (Node → m Unit)) (record : Node → m Unit) (n : Node) :
    ∃ (as : List Place) (cs : List Node),
      as.Pairwise (List.Lex Step.Precedes) ∧
      (∀ a, a ∈ as ↔ Reaches (fun k => (own k).isSome) n a) ∧
      List.Forall₂ (fun a c => n.at? a = some c) as cs ∧
      n.accept (.walking own record) = forM cs fun c => (own c.kind).getD record c := by
  obtain ⟨as, has⟩ := exists_walks (fun k => (own k).isSome) n
  exact ⟨as, _, has.ordered, has.mem_iff, has.found, accept_walking_eq n⟩

/-- A visitor that notes the kinds of nodes and deals with links by itself: it notes a link and not
    what is beneath it, and goes on with what comes after the link. -/
theorem accept_walking_past_link :
    let note (c : Node) : StateM (List Kind) Unit := modify (· ++ [c.kind])
    let own (k : Kind) := if k = .link then some note else none
    let n := Node.paragraph [.link "a" [.emphasis []] none, .strong [.text "b"]]
    (∃ (as : List Place) (cs : List Node),
      as.Pairwise (List.Lex Step.Precedes) ∧
      (∀ a, a ∈ as ↔ Reaches (fun k => (own k).isSome) n a) ∧
      List.Forall₂ (fun a c => n.at? a = some c) as cs ∧
      n.accept (.walking own note) = forM cs fun c => (own c.kind).getD note c) ∧
    ((n.accept (.walking own note)).run []).2 = [.paragraph, .link, .strong, .text] := by
  intro note own n
  refine ⟨accept_walking own note n, ?_⟩
  rw [accept_walking_eq]
  rfl

end Accept

end Manuscript.Node
