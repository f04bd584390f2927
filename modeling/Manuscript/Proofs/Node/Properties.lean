import Mathlib.Data.List.Nodup
import Manuscript.Value

/-!
# Properties

The properties of a node are a list of names with values. A list that names no property twice
(`Metadata.Distinct`) is a mapping, and overriding makes such lists a monoid:

* `nil_update`: a mapping that overrides nothing is as it was;
* `update_update`: it is one whether a mapping is overridden before it overrides another or
  afterwards;
* `Distinct.update`: overriding a mapping gives a mapping.
-/

namespace Manuscript.Metadata

/-- No property is named twice. -/
def Distinct (m : Metadata) : Prop :=
  (m.map (·.1)).Nodup

instance (m : Metadata) : Decidable m.Distinct :=
  inferInstanceAs (Decidable (List.Nodup _))

theorem distinct_nil : Distinct [] :=
  .nil

@[simp] theorem update_nil (m : Metadata) : m.update [] = m := rfl

@[simp] theorem update_cons (m : Metadata) (e : String × Value) (es : Metadata) :
    m.update (e :: es) = (m.put e.1 e.2).update es := rfl

/-! ## Setting one property -/

theorem mem_names_put {m : Metadata} {name k : String} {v : Value} :
    k ∈ (m.put name v).map (·.1) ↔ k = name ∨ k ∈ m.map (·.1) := by
  induction m with
  | nil => simp [put]
  | cons e m ih =>
    by_cases h : e.1 = name
    · simp [put, h]
    · simp only [put, h, if_false, List.map_cons, List.mem_cons, ih]
      exact or_left_comm

theorem Distinct.put {m : Metadata} (h : m.Distinct) (name : String) (v : Value) :
    (m.put name v).Distinct := by
  induction m with
  | nil => simp [Distinct, Metadata.put]
  | cons e m ih =>
    obtain ⟨hnot, hrest⟩ := List.nodup_cons.1 h
    rw [Metadata.put]
    split
    · exact List.nodup_cons.2 ⟨hnot, hrest⟩
    · next hne =>
      refine List.nodup_cons.2 ⟨fun hmem => ?_, ih hrest⟩
      exact (mem_names_put.1 hmem).elim hne hnot

/-- The second of two values that one name is set to wins. -/
theorem put_put (m : Metadata) (name : String) (v w : Value) :
    (m.put name v).put name w = m.put name w := by
  induction m with
  | nil => simp [put]
  | cons e m ih => by_cases h : e.1 = name <;> simp [put, h, ih]

/-- A name that is there keeps its place, so it may as well be set before another. -/
theorem put_comm {m : Metadata} {name other : String} (hne : other ≠ name)
    (hmem : name ∈ m.map (·.1)) (v w : Value) :
    (m.put other w).put name v = (m.put name v).put other w := by
  induction m with
  | nil => simp at hmem
  | cons e m ih =>
    by_cases hname : e.1 = name
    · simp [put, hname, hne.symm]
    · have hmem : name ∈ m.map (·.1) := by simpa [Ne.symm hname] using hmem
      by_cases hother : e.1 = other
      · simp [put, hother, hne]
      · simp [put, hname, hother, ih hmem]

theorem put_of_notMem {m : Metadata} {name : String} (h : name ∉ m.map (·.1)) (v : Value) :
    m.put name v = m ++ [(name, v)] := by
  induction m with
  | nil => rfl
  | cons e m ih =>
    rw [List.map_cons, List.mem_cons, not_or] at h
    simp [put, Ne.symm h.1, ih h.2]

/-! ## Overriding -/

theorem Distinct.update {m : Metadata} (h : m.Distinct) (new : Metadata) :
    (m.update new).Distinct := by
  induction new generalizing m with
  | nil => exact h
  | cons e new ih => exact ih (h.put e.1 e.2)

/-- A name that is there may as well be set before others. -/
theorem put_update {m new : Metadata} {name : String} (hmem : name ∈ m.map (·.1))
    (hnew : name ∉ new.map (·.1)) (v : Value) :
    (m.update new).put name v = (m.put name v).update new := by
  induction new generalizing m with
  | nil => rfl
  | cons e new ih =>
    rw [List.map_cons, List.mem_cons, not_or] at hnew
    rw [update_cons, update_cons, ih (mem_names_put.2 (.inr hmem)) hnew.2,
      put_comm (Ne.symm hnew.1) hmem]

/-- It is one whether a name is set in what overrides or afterwards. -/
theorem update_put {m : Metadata} (h : m.Distinct) (c : Metadata) (name : String) (v : Value) :
    c.update (m.put name v) = (c.update m).put name v := by
  induction m generalizing c with
  | nil => rfl
  | cons e m ih =>
    obtain ⟨hnot, hrest⟩ := List.nodup_cons.1 h
    rw [put]
    split
    · next heq =>
      -- The place of the name is the one that it has got by its first value.
      subst heq
      rw [update_cons, update_cons, put_update (mem_names_put.2 (.inl rfl)) hnot, put_put]
    · rw [update_cons, update_cons, ih hrest]

/-- It is one whether a mapping is overridden before it overrides another or afterwards. -/
theorem update_update {m : Metadata} (h : m.Distinct) (c new : Metadata) :
    c.update (m.update new) = (c.update m).update new := by
  induction new generalizing m with
  | nil => rfl
  | cons e new ih => rw [update_cons, update_cons, ih (h.put e.1 e.2), update_put h]

theorem update_eq_append {m new : Metadata} (h : (m ++ new).Distinct) :
    m.update new = m ++ new := by
  induction new generalizing m with
  | nil => simp
  | cons e new ih =>
    have hsplit : m ++ e :: new = (m ++ [e]) ++ new := by simp
    have hnot : e.1 ∉ m.map (·.1) := fun hmem => by
      rw [Distinct, List.map_append, List.nodup_append] at h
      exact h.2.2 _ hmem _ List.mem_cons_self rfl
    rw [hsplit] at h ⊢
    rw [update_cons, put_of_notMem hnot]
    exact ih h

/-- A mapping that overrides nothing is as it was. -/
theorem nil_update {m : Metadata} (h : m.Distinct) : update [] m = m :=
  update_eq_append h

end Manuscript.Metadata
