import Manuscript.Proofs.Node.Properties
import Manuscript.Proofs.Source.Outcome

/-!
# Taking front matter off

Front matter ends at the first line after the opening one that closes it (`ClosesAt`), and reading
it takes away the lines up to this one and no others, whatever becomes of the properties
(`read_splits_lines`). A text that is not opened, or is never closed, is left as it is.

* `split?_of_closesAt`, `split?_eq_none`: where a text is cut;
* `names_of_properties`: a mapping gives a property to the text of each key, and where the keys of
  several entries have one text the last entry holds.
-/

namespace Manuscript

theorem Metadata.find?_put (m : Metadata) (name : String) (v : Value) (k : String) :
    (m.put name v).find? k = if name = k then some v else m.find? k := by
  induction m with
  | nil => by_cases h : name = k <;> simp [put, find?, h]
  | cons e m ih =>
    rw [put]
    by_cases hname : e.1 = name
    · by_cases hk : name = k <;> simp [find?, hname, hk]
    · rw [if_neg hname]
      simp only [find?] at ih
      by_cases hk : e.1 = k
      · subst hk
        simp [find?, Ne.symm hname]
      · simp [find?, hk, ih]

namespace FrontMatter

open Text (lines strip)

/-! ## Where a text is cut -/

/-- A text opens with a line of three dashes. -/
def Opens (text : String) : Prop :=
  "---\n".toList <+: text.toList ∨ "---\r\n".toList <+: text.toList

/-- A line after the first closes front matter: it is three dashes between blanks. -/
def Closes (text : String) (i : Nat) : Prop :=
  0 < i ∧ ∃ line, (lines text.toList)[i]? = some line ∧ strip line = "---".toList

/-- A text opens with front matter, and the line at a place is the first one that closes it. -/
structure ClosesAt (text : String) (i : Nat) : Prop where
  opens : Opens text
  closes : Closes text i
  first : ∀ j, Closes text j → i ≤ j

/-- The lines up to a place, the one there included. -/
def linesThrough (text : String) (i : Nat) : String :=
  .ofList ((lines text.toList).take (i + 1)).flatten

/-- The lines behind a place. -/
def linesAfter (text : String) (i : Nat) : String :=
  .ofList ((lines text.toList).drop (i + 1)).flatten

/-- The lines between the first one and a place. -/
def linesWithin (text : String) (i : Nat) : String :=
  .ofList ((lines text.toList).tail.take (i - 1)).flatten

/-- The lines up to a place and those behind it are the text. -/
theorem linesThrough_append (text : String) (i : Nat) :
    linesThrough text i ++ linesAfter text i = text := by
  rw [linesThrough, linesAfter, ← String.ofList_append, ← List.flatten_append,
    List.take_append_drop, Text.flatten_lines, String.ofList_toList]

theorem isOpen_iff {text : String} : isOpen text.toList = true ↔ Opens text := by
  simp [isOpen, Opens]

theorem closes_iff {text : String} {i : Nat} :
    Closes text i ↔ ∃ j, i = j + 1 ∧ ∃ line,
      (lines text.toList).tail[j]? = some line ∧ isClose line = true := by
  cases i with
  | zero => simp [Closes]
  | succ j => simp [Closes, isClose, fence]

/-- Where a text is cut: at the first line that closes its front matter. -/
theorem split?_of_closesAt {text : String} {i : Nat} (h : ClosesAt text i) :
    split? text = some (linesWithin text i, linesAfter text i) := by
  obtain ⟨j, rfl, line, hline, hclose⟩ := closes_iff.1 h.closes
  obtain ⟨hj, rfl⟩ := List.getElem?_eq_some_iff.1 hline
  -- No line before it closes, so it is the one that is found.
  have hindex : (lines text.toList).tail.findIdx isClose = j := by
    rw [List.findIdx_eq hj]
    refine ⟨hclose, fun k hk => Bool.eq_false_iff.2 fun hcl => ?_⟩
    have hle := h.first (k + 1) (closes_iff.2 ⟨k, rfl, _, List.getElem?_eq_getElem _, hcl⟩)
    omega
  have hdrop : (lines text.toList).tail.dropWhile (fun l => !isClose l) =
      (lines text.toList).tail[j] :: (lines text.toList).tail.drop (j + 1) := by
    rw [List.dropWhile_eq_drop_findIdx_not]
    simp only [Bool.not_not, hindex]
    exact List.drop_eq_getElem_cons hj
  have htake : (lines text.toList).tail.takeWhile (fun l => !isClose l) =
      (lines text.toList).tail.take j := by
    rw [List.takeWhile_eq_take_findIdx_not]
    simp only [Bool.not_not, hindex]
  rw [split?, if_pos (isOpen_iff.2 h.opens)]
  simp only [hdrop, htake, linesWithin, linesAfter, List.drop_tail, Nat.add_sub_cancel]

/-- A text that is not opened, or has no line that closes front matter, is not cut. -/
theorem split?_eq_none {text : String} (h : Opens text → ∀ i, ¬ Closes text i) :
    split? text = none := by
  rw [split?]
  split
  · next hopen =>
    have hnil : (lines text.toList).tail.dropWhile (fun l => !isClose l) = [] := by
      rw [List.dropWhile_eq_nil_iff]
      intro line hline
      obtain ⟨j, hj⟩ := List.getElem?_of_mem hline
      cases hclose : isClose line with
      | false => rfl
      | true => exact absurd (closes_iff.2 ⟨j, rfl, line, hj, hclose⟩) (h (isOpen_iff.1 hopen) _)
    simp only [hnil]
  · rfl

/-! ## Properties -/

/-- Properties are the entries of a mapping, each by the text of its key. Of the entries whose keys
    have one text, the last one holds. -/
structure Names (entries : List (Value × Value)) (m : Metadata) : Prop where
  distinct : m.Distinct
  find?_eq : ∀ name, m.find? name =
    (entries.reverse.find? fun e => e.1.toText == name).map (·.2)

/-- Properties that are put behind others are named by their own keys first. -/
theorem find?_of_propertiesFrom {before m : Metadata} {entries : List (Value × Value)}
    (h : propertiesFrom before entries = .ok m) (hbefore : before.Distinct) :
    m.Distinct ∧ ∀ name, m.find? name =
      ((entries.reverse.find? fun e => e.1.toText == name).map (·.2)).or (before.find? name) := by
  induction entries generalizing before with
  | nil =>
    cases h
    exact ⟨hbefore, fun _ => rfl⟩
  | cons e entries ih =>
    rw [propertiesFrom] at h
    by_cases hlong : IsLong e.1
    · rw [keyText_of_isLong hlong] at h
      cases h
    · rw [keyText_of_not_isLong hlong] at h
      obtain ⟨hdistinct, hfind⟩ := ih h (hbefore.put _ _)
      refine ⟨hdistinct, fun name => ?_⟩
      rw [hfind, Metadata.find?_put, List.reverse_cons, List.find?_append]
      cases entries.reverse.find? fun e => e.1.toText == name with
      | some e' => rfl
      | none => by_cases hname : e.1.toText = name <;> simp [hname]

theorem names_of_properties {entries : List (Value × Value)} {m : Metadata}
    (h : properties (.map entries) = .ok m) : Names entries m := by
  obtain ⟨hdistinct, hfind⟩ := find?_of_propertiesFrom h Metadata.distinct_nil
  refine ⟨hdistinct, fun name => ?_⟩
  rw [hfind, Metadata.find?, List.find?_nil, Option.map_none, Option.or_none]

/-! ## Reading -/

/-- A text that is not opened by three dashes, or has no line after the first that closes front
    matter, is left as it is. Otherwise the body is exactly what stands behind the first such line,
    and what is within are the properties: those of a mapping, by the texts of their keys, and none
    of anything else. What breaks the rules of YAML is dropped with a warning. Only a mapping with a
    key that has no text is refused. -/
theorem read_splits_lines (reader : YamlReader) (text : String) :
    (lines text.toList).flatten = text.toList ∧
    ((Opens text → ∀ i, ¬ Closes text i) → (read reader text).result = (.ok (text, []), [])) ∧
    ∀ i, ClosesAt text i →
      linesThrough text i ++ linesAfter text i = text ∧
      (∀ entries, reader (linesWithin text i) = .ok (.map entries) →
        ((∀ e ∈ entries, ¬ IsLong e.1) →
          ∃ m, (read reader text).result = (.ok (linesAfter text i, m), []) ∧ Names entries m) ∧
        ((∃ e ∈ entries, IsLong e.1) →
          (read reader text).result = (.error (.fault (.badValue Text.unshowable)), []))) ∧
      (∀ v, reader (linesWithin text i) = .ok v → (∀ entries, v ≠ .map entries) →
        (read reader text).result = (.ok (linesAfter text i, []), [])) ∧
      (∀ why, reader (linesWithin text i) = .error (.malformed why) →
        (read reader text).result = (.ok (linesAfter text i, []), [malformedRecord why])) := by
  refine ⟨Text.flatten_lines _, fun h => ?_, fun i h => ⟨linesThrough_append text i, ?_, ?_, ?_⟩⟩
  · rw [result_read, split?_eq_none h]
  · intro entries hread
    refine ⟨fun hshort => ?_, fun ⟨e, he, hlong⟩ => ?_⟩
    · cases hm : properties (.map entries) with
      | error f =>
        obtain ⟨-, _, ⟨⟩, e, he, hlong⟩ := properties_eq_error_iff.1 hm
        exact absurd hlong (hshort e he)
      | ok m =>
        refine ⟨m, ?_, names_of_properties hm⟩
        rw [result_read, split?_of_closesAt h]
        dsimp only
        rw [hread]
        dsimp only
        rw [hm]
        rfl
    · exact result_read_of_breaks (.key (split?_of_closesAt h) hread he hlong)
  · intro v hread hv
    have hnone : properties v = .ok [] := by
      cases v with
      | map entries => exact absurd rfl (hv entries)
      | _ => rfl
    rw [result_read, split?_of_closesAt h]
    dsimp only
    rw [hread]
    dsimp only
    rw [hnone]
    rfl
  · exact fun why hread => result_read_of_malformed (split?_of_closesAt h) hread

/-- The block is closed by dashes between blanks, and the second of two keys of one text holds. -/
theorem read_splits_lines_twoKeys :
    let text := "---\n1: x\n'1': y\n --- \u2028body"
    let entries := [(.int 1, .text "x"), (.text "1", .text "y")]
    let reader : YamlReader := fun block =>
      if block = "1: x\n'1': y\n" then .ok (.map entries) else .error (.malformed "")
    ClosesAt text 3 ∧ reader (linesWithin text 3) = .ok (.map entries) ∧
      ∃ m, (read reader text).result = (.ok ("body", m), []) ∧ Names entries m := by
  intro text entries reader
  have hlines : lines text.toList = ["---\n".toList, "1: x\n".toList, "'1': y\n".toList,
      " --- \u2028".toList, "body".toList] := by decide +kernel
  have hcloses : ClosesAt text 3 := by
    refine ⟨.inl (by decide +kernel), ⟨by decide, " --- \u2028".toList, ?_, by decide +kernel⟩, ?_⟩
    · rw [hlines]
      rfl
    · rintro j ⟨hpos, line, hline, hstrip⟩
      rw [hlines] at hline
      match j, hpos with
      | 1, _ | 2, _ =>
        cases hline
        revert hstrip
        decide +kernel
      | j + 3, _ => omega
  have hread : reader (linesWithin text 3) = .ok (.map entries) := by
    rw [linesWithin, hlines]
    rfl
  have hshort : ∀ e ∈ entries, ¬ IsLong e.1 := by
    simp only [entries, List.forall_mem_cons]
    refine ⟨?_, ?_, List.forall_mem_nil _⟩
    · rintro ⟨_, ⟨⟩, hn⟩
      revert hn
      decide +kernel
    · rintro ⟨_, ⟨⟩, -⟩
  have hbody : linesAfter text 3 = "body" := by
    rw [linesAfter, hlines]
    rfl
  exact ⟨hcloses, hread,
    hbody ▸ (((read_splits_lines reader text).2.2 3 hcloses).2.1 _ hread).1 hshort⟩

end FrontMatter

end Manuscript
