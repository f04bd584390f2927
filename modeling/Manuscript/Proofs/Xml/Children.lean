import Manuscript.Xml
import Mathlib.Data.List.TakeWhile

/-!
# Changing the children of a node

A node keeps its name and its attributes when its children are changed. Where one of them is changed
or some are put in front of one, what is found among them by another name is found as before
(`Node.child?_updateChild`), and what is changed is found in its place
(`Node.child?_withChildren_updateFirst`).
-/

namespace Manuscript

namespace Xml

/-- Names are the same if their namespaces and their words are, whatever their leads. -/
theorem Name.same_iff {a b : Name} : a.same b = true ↔ a.space = b.space ∧ a.word = b.word := by
  simp [Name.same]

namespace Node

/-- Other children change no attribute. -/
theorem attribute?_withChildren (n : Node) (children : List Node) (name : Name) :
    (n.withChildren children).attribute? name = n.attribute? name := by
  cases n <;> rfl

theorem isNamed_withChildren (n : Node) (children : List Node) (name : Name) :
    (n.withChildren children).isNamed name = n.isNamed name := by
  cases n <;> rfl

/-- Updating a child does not change what is found of another kind. -/
theorem find?_updateFirst {p q : Node → Bool} {f : Node → Node}
    (h : ∀ n, p n = true → q n = false ∧ q (f n) = false) (ns : List Node) :
    (updateFirst p f ns).find? q = ns.find? q := by
  induction ns with
  | nil => rfl
  | cons n ns ih =>
    rw [updateFirst]
    split
    · obtain ⟨hn, hfn⟩ := h n ‹_›
      rw [List.find?_cons_of_neg (by simp [hfn]), List.find?_cons_of_neg (by simp [hn])]
    · rw [List.find?_cons, List.find?_cons, ih]

/-- Inserting children does not change what is found of another kind. -/
theorem find?_insertBefore {q : Node → Bool} {new : List Node} (h : ∀ n ∈ new, q n = false)
    (followers : List Name) (ns : List Node) :
    (insertBefore followers new ns).find? q = ns.find? q := by
  have hnew : new.find? q = none := List.find?_eq_none.2 fun n hn => by simp [h n hn]
  rw [insertBefore]
  split
  · rw [List.find?_append, hnew, Option.or_none]
  · rename_i name _
    rw [List.find?_append, List.find?_append, hnew, Option.or_none, ← List.find?_append,
      List.takeWhile_append_dropWhile]

/-- The first member that is changed is found where it was. -/
theorem find?_updateFirst_self {p : Node → Bool} {f : Node → Node} (h : ∀ n, p (f n) = p n)
    (ns : List Node) : (updateFirst p f ns).find? p = (ns.find? p).map f := by
  induction ns with
  | nil => rfl
  | cons n ns ih =>
    rw [updateFirst]
    split
    · rw [List.find?_cons_of_pos (by simp [*]), List.find?_cons_of_pos ‹_›]
      rfl
    · rw [List.find?_cons_of_neg ‹_›, List.find?_cons_of_neg ‹_›, ih]

/-- What is put in front of the members of a name stands between those before the first of them and
    the others. -/
theorem insertBefore_singleton (name : Name) (new ns : List Node) :
    insertBefore [name] new ns =
      ns.takeWhile (fun n => !n.isNamed name) ++ new ++ ns.dropWhile fun n => !n.isNamed name := by
  cases hany : ns.any (·.isNamed name) with
  | true => simp [insertBefore, hany]
  | false =>
    have hnone : ∀ n ∈ ns, (!n.isNamed name) = true := by simpa using hany
    rw [List.takeWhile_eq_self_iff.2 hnone, List.dropWhile_eq_nil_iff.2 hnone]
    simp [insertBefore, hany]

/-- Updating a child changes no attribute. -/
theorem attribute?_updateChild (n : Node) (name : Name) (followers : List Name) (f : Node → Node)
    (key : Name) : (n.updateChild name followers f).attribute? key = n.attribute? key := by
  rw [updateChild]
  split <;> exact attribute?_withChildren _ _ _

theorem isNamed_updateChild (n : Node) (name : Name) (followers : List Name) (f : Node → Node)
    (key : Name) : (n.updateChild name followers f).isNamed key = n.isNamed key := by
  rw [updateChild]
  split <;> exact isNamed_withChildren _ _ _

theorem child?_withChildren {n : Node} {children : List Node} {name : Name}
    (h : children.find? (·.isNamed name) = n.children.find? (·.isNamed name)) :
    (n.withChildren children).child? name = n.child? name := by
  cases n with
  | text s => rfl
  | element m as cs => exact h

/-- The child that is updated is found as it has become. -/
theorem child?_withChildren_updateFirst {name : Name} {f : Node → Node}
    (hf : ∀ n, (f n).isNamed name = n.isNamed name) (n : Node) :
    (n.withChildren (updateFirst (·.isNamed name) f n.children)).child? name =
      (n.child? name).map f := by
  cases n with
  | text s => rfl
  | element m as cs => exact find?_updateFirst_self hf cs

/-- Changing the child of a name leaves the first child of another one as it is. -/
theorem child?_updateChild {name other : Name} (hne : name.same other = false) {f : Node → Node}
    (hf : ∀ n key, (f n).isNamed key = n.isNamed key) (n : Node) (followers : List Name) :
    (n.updateChild name followers f).child? other = n.child? other := by
  have hdistinct (m : Node) (hm : m.isNamed name = true) : m.isNamed other = false := by
    cases m with
    | text s => rfl
    | element lead as cs =>
      rw [isNamed, Name.same_iff] at hm
      rw [isNamed, Name.same, hm.1, hm.2]
      exact hne
  rw [updateChild]
  split
  -- The child that is changed keeps its name, which is not the one that is looked for.
  · refine child?_withChildren (find?_updateFirst (fun m hm => ⟨hdistinct m hm, ?_⟩) n.children)
    rw [hf]
    exact hdistinct m hm
  · refine child?_withChildren (find?_insertBefore (fun m hm => ?_) followers n.children)
    cases List.mem_singleton.1 hm
    rw [hf]
    exact hne

end Node

end Xml

end Manuscript
