import Manuscript.Proofs.Docx.Outcome
import Mathlib.Data.List.Basic
import Mathlib.Data.List.Nodup
import Mathlib.Data.List.Perm.Subperm

/-!
# Identifiers of relationships

What is written refers to a relationship by its identifier, so it matters that no two relationships
of a part have the same one (`Relationship.Distinct`). That is so for every list that a document is
read with (`distinct_main`), and it stays so when a relationship is added: the search for a number
that is not taken goes far enough to find one (`exists_free`).

* `distinct_relate`: adding a relationship leaves the identifiers distinct;
* `withId?_relate`: the identifier that is handed out leads to what it was asked for.
-/

namespace Manuscript.Docx

namespace Relationship

/-- No two relationships have the same identifier. -/
def Distinct (rs : List Relationship) : Prop :=
  (rs.map (·.id)).Nodup

/-- The relationship that an identifier stands for. -/
def withId? (rs : List Relationship) (id : String) : Option Relationship :=
  rs.find? (·.id == id)

/-- A relationship with a new identifier keeps identifiers distinct. -/
theorem distinct_append {rs : List Relationship} (h : Distinct rs) {r : Relationship}
    (hr : ∀ q ∈ rs, q.id ≠ r.id) : Distinct (rs ++ [r]) := by
  rw [Distinct, List.map_append, List.nodup_append]
  refine ⟨h, List.nodup_singleton _, fun a ha b hb => ?_⟩
  obtain ⟨q, hq, rfl⟩ := List.mem_map.1 ha
  cases List.mem_singleton.1 hb
  exact hr q hq

/-- Putting a relationship takes the place of one with its identifier, so they stay distinct. -/
theorem distinct_put {rs : List Relationship} (h : Distinct rs) (r : Relationship) :
    Distinct (put rs r) := by
  rw [put]
  split
  · have hid : ∀ q : Relationship, (if q.id = r.id then r else q).id = q.id := by
      intro q
      split
      · exact (‹q.id = r.id›).symm
      · rfl
    rwa [Distinct, List.map_map, show (fun q : Relationship => q.id) ∘
      (fun q => if q.id = r.id then r else q) = (·.id) from funext hid]
  · refine distinct_append h fun q hq heq => ?_
    have hany := List.any_eq_false.1 (Bool.not_eq_true _ ▸ ‹¬ _›) q hq
    exact hany (beq_iff_eq.2 heq)

theorem distinct_foldl_put {rs : List Relationship} (h : Distinct rs) (new : List Relationship) :
    Distinct (new.foldl put rs) := by
  induction new generalizing rs with
  | nil => exact h
  | cons r new ih => exact ih (distinct_put h r)

/-- What is found by an identifier has it. -/
theorem id_of_withId? {rs : List Relationship} {id : String} {r : Relationship}
    (h : withId? rs id = some r) : r.id = id := by
  have hid := List.find?_some (show rs.find? (·.id == id) = some r from h)
  exact beq_iff_eq.1 hid

/-- In a list without doubles the identifier of a relationship stands for it. -/
theorem withId?_of_mem {rs : List Relationship} (h : Distinct rs) {r : Relationship} (hr : r ∈ rs) :
    withId? rs r.id = some r := by
  induction rs with
  | nil => cases hr
  | cons q rs ih =>
    obtain ⟨hq, hrs⟩ := List.nodup_cons.1 h
    rw [withId?, List.find?_cons]
    rcases List.mem_cons.1 hr with rfl | hr
    · simp
    · have hne : q.id ≠ r.id := by
        intro heq
        exact hq (List.mem_map.2 ⟨r, hr, heq.symm⟩)
      rw [beq_eq_false_iff_ne.2 hne]
      exact ih hrs hr

/-- What an identifier stands for stays when relationships are added at the end. -/
theorem withId?_of_prefix {rs rs' : List Relationship} (h : rs <+: rs') {id : String}
    {r : Relationship} (hr : withId? rs id = some r) : withId? rs' id = some r := by
  obtain ⟨new, rfl⟩ := h
  rw [withId?, List.find?_append, show rs.find? (·.id == id) = some r from hr]
  rfl

end Relationship

open Relationship

/-! ## Relationships that are added -/

namespace Container

/-- One of the names that an injective numbering gives is not among finitely many ones, and it comes
    soon. -/
theorem exists_free [DecidableEq β] (taken : List β) {name : Nat → β} (hname : name.Injective)
    (start : Nat) : ∃ k ≤ taken.length, name (start + k) ∉ taken := by
  by_contra hnone
  have htaken : ∀ k ≤ taken.length, name (start + k) ∈ taken := by simpa using hnone
  -- One more name than there are taken ones: by their number not all of them are taken.
  let names := (List.range (taken.length + 1)).map fun k => name (start + k)
  have hnodup : names.Nodup :=
    List.nodup_range.map fun i j hij => Nat.add_left_cancel (hname hij)
  have hsub : names ⊆ taken := by
    intro x hx
    obtain ⟨k, hk, rfl⟩ := List.mem_map.1 hx
    exact htaken k (Nat.le_of_lt_succ (List.mem_range.1 hk))
  have hlen := (List.Nodup.subperm hnodup hsub).length_le
  simp only [names, List.length_map, List.length_range] at hlen
  omega

/-- The number that is found is not taken, if one that is not taken is near enough. -/
theorem freeNumber_free {taken : Nat → Bool} {start fuel : Nat}
    (h : ∃ k ≤ fuel, taken (start + k) = false) :
    taken (freeNumber taken start fuel) = false := by
  induction fuel generalizing start with
  | zero =>
    obtain ⟨k, hk, hfree⟩ := h
    cases Nat.le_zero.1 hk
    exact hfree
  | succ fuel ih =>
    rw [freeNumber]
    split
    · obtain ⟨k, hk, hfree⟩ := h
      cases k with
      | zero => simp_all
      | succ k => exact ih ⟨k, by omega, by rwa [Nat.add_right_comm]⟩
    · exact Bool.not_eq_true _ ▸ ‹¬ _›

/-- Numbered identifiers are distinct. -/
theorem numbered_injective : Function.Injective fun n : Nat => "rId" ++ toString n := by
  intro m n hmn
  have hdigits := String.ofList_injective (by
    simpa only [Nat.toString_eq_ofList_toDigits] using (String.append_right_inj _).1 hmn)
  rw [← Nat.ofDigitChars_ten_toDigits (n := m), hdigits, Nat.ofDigitChars_ten_toDigits]

/-- A relationship that is asked for is there already, or it is added under a new identifier. -/
theorem relate_cases (rs : List Relationship) (kind : String) (target : Target) :
    (∃ r ∈ rs, r.kind = kind ∧ r.target = target ∧ relate rs kind target = (rs, r.id)) ∨
    ∃ id, (∀ q ∈ rs, q.id ≠ id) ∧
      relate rs kind target = (rs ++ [⟨id, kind, target⟩], id) := by
  rw [relate]
  split
  · rename_i r hr
    have hkind := List.find?_some hr
    rw [Bool.and_eq_true, beq_iff_eq, beq_iff_eq] at hkind
    exact .inl ⟨r, List.mem_of_find?_eq_some hr, hkind.1, hkind.2, rfl⟩
  · refine .inr ⟨_, fun q hq heq => ?_, rfl⟩
    obtain ⟨k, hk, hfree⟩ := exists_free (rs.map (·.id)) numbered_injective 1
    let taken (n : Nat) : Bool := rs.any (·.id == "rId" ++ toString n)
    have hnone : taken (freeNumber taken 1 rs.length) = false :=
      freeNumber_free ⟨k, by simpa using hk, List.any_eq_false.2 fun q hq heq =>
        hfree (List.mem_map.2 ⟨q, hq, beq_iff_eq.1 heq⟩)⟩
    exact List.any_eq_false.1 hnone q hq (beq_iff_eq.2 heq)

/-- Relating something new keeps identifiers distinct. -/
theorem distinct_relate {rs : List Relationship} (h : Distinct rs) (kind : String)
    (target : Target) : Distinct (relate rs kind target).1 := by
  obtain ⟨r, hr, -, -, heq⟩ | ⟨id, hid, heq⟩ := relate_cases rs kind target
  · rwa [heq]
  · rw [heq]
    exact distinct_append h hid

/-- What has been related is found by its identifier. -/
theorem withId?_relate {rs : List Relationship} (h : Distinct rs) (kind : String)
    (target : Target) :
    ∃ r, withId? (relate rs kind target).1 (relate rs kind target).2 = some r ∧
      r.kind = kind ∧ r.target = target := by
  have hdistinct := distinct_relate h kind target
  obtain ⟨r, hr, hkind, htarget, heq⟩ | ⟨id, hid, heq⟩ := relate_cases rs kind target
  · exact ⟨r, by rw [heq]; exact withId?_of_mem h hr, hkind, htarget⟩
  · rw [heq] at hdistinct ⊢
    have hmem : (⟨id, kind, target⟩ : Relationship) ∈ rs ++ [⟨id, kind, target⟩] := by simp
    exact ⟨⟨id, kind, target⟩, withId?_of_mem hdistinct hmem, rfl, rfl⟩

/-! ## Relationships that are read -/

/-- What is read of an archive has distinct identifiers, as a later one takes the place of an
    earlier. -/
theorem distinct_relationshipsOf {archive : Archive} {name : String} {rs : List Relationship}
    (h : relationshipsOf archive name = .ok rs) : Distinct rs := by
  rw [relationshipsOf] at h
  split at h
  · cases h
    exact List.nodup_nil
  · cases h
  · obtain ⟨tree, -, h⟩ := ok_of_bind h
    obtain ⟨listed, -, h⟩ := ok_of_bind h
    cases h
    have hnil : Distinct [] := List.nodup_nil
    exact distinct_foldl_put hnil listed

/-- What every step of a fold keeps, the fold keeps. -/
theorem foldlM_keeps {P : β → Prop} {f : β → α → Except Fault β}
    (hf : ∀ b a b', P b → f b a = .ok b' → P b') {as : List α} {b b' : β} (hb : P b)
    (h : as.foldlM f b = .ok b') : P b' := by
  induction as generalizing b with
  | nil =>
    cases h
    exact hb
  | cons a as ih =>
    rw [List.foldlM_cons] at h
    obtain ⟨c, hc, h⟩ := ok_of_bind h
    exact ih (hf b a c hb hc) h

theorem distinct_reach {archive : Archive} {types : ContentTypes} {depth : Nat} {found : List Part}
    {rs : List Relationship} {parts : List Part} (hfound : ∀ p ∈ found, Distinct p.relationships)
    (h : reach archive types depth found rs = .ok parts) :
    ∀ p ∈ parts, Distinct p.relationships := by
  -- A part is added before what it leads to is, so the invariant is one of the parts found so far.
  induction depth generalizing found rs parts with
  | zero =>
    cases h
    exact hfound
  | succ depth ih =>
    rw [reach] at h
    refine foldlM_keeps (P := fun ps => ∀ p ∈ ps, Distinct p.relationships) ?_ hfound h
    intro ps r ps' hps hstep
    split at hstep
    · cases hstep
      exact hps
    · split at hstep
      · cases hstep
        exact hps
      · obtain ⟨relationships, hrel, hstep⟩ := ok_of_bind hstep
        obtain ⟨content, -, hstep⟩ := ok_of_bind hstep
        obtain ⟨mediaType, -, hstep⟩ := ok_of_bind hstep
        have hnew : ∀ part : Part, part.relationships = relationships →
            ∀ p ∈ ps ++ [part], Distinct p.relationships := by
          intro part hpart p hp
          rcases List.mem_append.1 hp with hp | hp
          · exact hps p hp
          · cases List.mem_singleton.1 hp
            rw [hpart]
            exact distinct_relationshipsOf hrel
        dsimp only at hstep
        split at hstep
        · obtain ⟨-, -, hstep⟩ := ok_of_bind hstep
          exact ih (hnew _ rfl) hstep
        · exact ih (hnew _ rfl) hstep

/-- The parts of a container that is read have relationships with distinct identifiers. -/
theorem distinct_read {bs : ByteArray} {c : Container} (h : Container.read bs = .ok c) :
    ∀ p ∈ c.parts, Distinct p.relationships := by
  rw [Container.read] at h
  split at h
  · cases h
  · obtain ⟨content, -, h⟩ := ok_of_bind h
    obtain ⟨tree, -, h⟩ := ok_of_bind h
    obtain ⟨types, -, h⟩ := ok_of_bind h
    obtain ⟨rs, -, h⟩ := ok_of_bind h
    obtain ⟨parts, hparts, h⟩ := ok_of_bind h
    cases h
    exact distinct_reach (by simp) hparts

/-- What is found as related is a part of the container. -/
theorem mem_of_related {c : Container} {rs : List Relationship} {kind : String} {p : Part}
    (h : c.related rs kind = .ok (some p)) : p ∈ c.parts := by
  rw [related] at h
  split at h
  · cases h
  · split at h
    · cases h
      exact List.mem_of_find?_eq_some ‹_›
    · cases h
  · cases h
  · cases h

theorem mem_of_main {c : Container} {p : Part} (h : c.main = .ok p) : p ∈ c.parts := by
  rw [main] at h
  obtain ⟨found, hfound, h⟩ := ok_of_bind h
  split at h
  · cases h
  · split at h
    · cases h
      exact mem_of_related hfound
    · cases h

end Container

theorem distinct_standard : ∀ p ∈ Container.standard.parts, Distinct p.relationships := by
  simp [Container.standard, Distinct]

/-- A template is the one that stands for nothing, or it has been read from a file; its document is
    one of its parts. -/
theorem openTemplate_cases {fs : Files} {o : DocxOptions} {c : Container} {main : Part}
    (h : openTemplate fs o = .ok (c, main)) :
    c.main = .ok main ∧ (c = Container.standard ∨ ∃ bs, Container.read bs = .ok c) := by
  rw [openTemplate] at h
  split at h
  · cases hmain : Container.standard.main with
    | error f => rw [hmain] at h; cases h
    | ok p =>
      rw [hmain] at h
      cases h
      exact ⟨hmain, .inl rfl⟩
  · obtain ⟨isThere, -, h⟩ := ok_of_bind h
    dsimp only at h
    split at h
    · obtain ⟨-, h, -⟩ := ok_of_bind h
      cases h
    · split at h
      · rename_i read hread
        cases h
        rw [readTemplate] at hread
        dsimp only at hread
        split at hread
        · obtain ⟨-, hread, -⟩ := ok_of_bind hread
          cases hread
        · obtain ⟨bytes, -, hread⟩ := ok_of_bind hread
          obtain ⟨c', hc, hread⟩ := ok_of_bind hread
          obtain ⟨p, hp, hread⟩ := ok_of_bind hread
          cases hread
          exact ⟨hp, .inr ⟨bytes, hc⟩⟩
      · cases h

/-- The document of a template has no two relationships of one identifier. -/
theorem distinct_main {fs : Files} {o : DocxOptions} {c : Container} {main : Part}
    (h : openTemplate fs o = .ok (c, main)) : Distinct main.relationships := by
  obtain ⟨hmain, rfl | ⟨bs, hread⟩⟩ := openTemplate_cases h
  · exact distinct_standard _ (Container.mem_of_main hmain)
  · exact Container.distinct_read hread _ (Container.mem_of_main hmain)

end Manuscript.Docx
