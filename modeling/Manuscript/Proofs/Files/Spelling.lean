import Manuscript.Proofs.Picture.Location

/-!
# Spelling of paths

A path is spelled by its text. Most texts can be spelled in several ways, and the path of a text is
the same for all of them; what is said here is that a path which comes from a text is the one that
its own text spells (`Path.ofText_text`).
-/

namespace Manuscript

namespace Path

/-- A path is regular if its root is one that a text can have, and each name of it could stand
    between two slashes. -/
structure IsRegular (p : Path) : Prop where
  root : p.root ∈ ["", "/", "//"]
  names : ∀ n ∈ p.names, n ≠ "" ∧ n ≠ "." ∧ '/' ∉ n.toList

theorem isRegular_ofText (s : String) : (ofText s).IsRegular where
  root := by
    rw [ofText, rootOf]
    split <;> simp
  names n hn := by
    obtain ⟨hn, hkept⟩ := List.mem_filter.1 hn
    obtain ⟨part, hpart, rfl⟩ := List.mem_map.1 hn
    simp only [Bool.and_eq_true, Bool.not_eq_true', String.isEmpty_eq_false_iff, bne_iff_ne] at hkept
    refine ⟨hkept.1, hkept.2, fun hslash => ?_⟩
    rw [String.toList_ofList] at hslash
    exact (exists_mem_splitOn_iff.1 ⟨part, hpart, hslash⟩).2 rfl

/-- The names that are spelled between slashes. -/
def namesIn (cs : List Char) : List String :=
  ((cs.splitOn '/').map .ofList).filter fun n => !n.isEmpty && n != "."

theorem namesIn_slash (cs : List Char) : namesIn ('/' :: cs) = namesIn cs := by
  rw [namesIn, List.splitOn_cons_eq_if_modifyHead, if_pos (beq_self_eq_true '/'), List.map_cons,
    List.filter_cons_of_neg (by simp)]
  rfl

theorem namesIn_root_append {root : String} (hroot : root ∈ ["", "/", "//"]) (cs : List Char) :
    namesIn (root.toList ++ cs) = namesIn cs := by
  simp only [List.mem_cons, List.not_mem_nil, or_false] at hroot
  obtain rfl | rfl | rfl := hroot
  · rfl
  · exact namesIn_slash cs
  · exact (namesIn_slash ('/' :: cs)).trans (namesIn_slash cs)

theorem rootOf_eq {s root : String} {cs : List Char} (hs : s.toList = root.toList ++ cs)
    (hroot : root ∈ ["", "/", "//"]) (hcs : cs.head? ≠ some '/') : rootOf s = root := by
  have hend : cs.takeWhile (· == '/') = [] := by
    cases cs with
    | nil => rfl
    | cons c cs => simpa using hcs
  simp only [List.mem_cons, List.not_mem_nil, or_false] at hroot
  have hslashes : ∀ c ∈ root.toList, (c == '/') = true := by
    obtain rfl | rfl | rfl := hroot <;> simp
  rw [rootOf, hs, List.takeWhile_append_of_pos hslashes, hend, List.append_nil]
  obtain rfl | rfl | rfl := hroot <;> rfl

/-- What stands between slashes is spelled by the names and slashes between them. -/
theorem namesIn_intercalate {names : List String}
    (h : ∀ n ∈ names, n ≠ "" ∧ n ≠ "." ∧ '/' ∉ n.toList) :
    namesIn (['/'].intercalate (names.map String.toList)) = names := by
  cases names with
  | nil => rfl
  | cons name rest =>
    rw [namesIn, List.splitOn_intercalate '/' ?_ (by simp)]
    · rw [List.map_map, List.filter_eq_self.2]
      · simp
      · intro n hn
        obtain ⟨m, hm, rfl⟩ := List.mem_map.1 hn
        obtain ⟨hempty, hdot, -⟩ := h m hm
        simp [hempty, hdot]
    · intro l hl
      obtain ⟨n, hn, rfl⟩ := List.mem_map.1 hl
      exact (h n hn).2.2

/-- No slash comes first where names are spelled with slashes between them. -/
theorem head?_intercalate {names : List String}
    (h : ∀ n ∈ names, n ≠ "" ∧ n ≠ "." ∧ '/' ∉ n.toList) :
    (['/'].intercalate (names.map String.toList)).head? ≠ some '/' := by
  cases names with
  | nil => nofun
  | cons name rest =>
    obtain ⟨hempty, -, hslash⟩ := h name List.mem_cons_self
    obtain ⟨c, cs, hname⟩ := List.exists_cons_of_ne_nil (mt String.toList_eq_nil_iff.1 hempty)
    have hhead : (['/'].intercalate ((name :: rest).map String.toList)).head? = some c := by
      rw [List.map_cons, hname]
      cases rest <;> rfl
    rw [hhead]
    rintro ⟨⟩
    exact hslash (hname ▸ List.mem_cons_self)

/-- The text of a regular path spells it. -/
theorem ofText_text {p : Path} (h : p.IsRegular) : ofText p.text = p := by
  obtain ⟨root, names⟩ := p
  by_cases hstays : root.isEmpty ∧ names.isEmpty
  · obtain ⟨hroot, hnames⟩ := hstays
    rw [String.isEmpty_iff] at hroot
    rw [List.isEmpty_iff] at hnames
    subst hroot hnames
    rfl
  · have htext : (text ⟨root, names⟩).toList =
        root.toList ++ ['/'].intercalate (names.map String.toList) := by
      rw [text, if_neg hstays, String.toList_append, String.toList_intercalate]
      rfl
    change Path.mk (rootOf _) (namesIn _) = _
    rw [rootOf_eq htext h.root (head?_intercalate h.names), htext, namesIn_root_append h.root,
      namesIn_intercalate h.names]

/-- The stem of a name has no characters but those of the name. -/
theorem mem_splitName {name : String} {c : Char} (h : c ∈ (splitName name).1.toList) :
    c ∈ name.toList := by
  rw [splitName] at h
  split at h
  · exact h
  · rw [String.toList_ofList] at h
    exact List.mem_of_mem_take h

theorem isRegular_withSuffix {p : Path} (h : p.IsRegular) {suffix : String}
    (hlong : 1 < suffix.length) (hslash : '/' ∉ suffix.toList) :
    (p.withSuffix suffix).IsRegular where
  root := h.root
  names n hn := by
    obtain hn | hn := List.mem_append.1 hn
    · exact h.names n (List.dropLast_subset _ hn)
    · rw [List.mem_singleton] at hn
      subst hn
      have hlength (s : String) (hs : s.length ≤ 1) : (splitName p.name).1 ++ suffix ≠ s := by
        rintro rfl
        rw [String.length_append] at hs
        omega
      refine ⟨hlength "" (by decide), hlength "." (by decide), fun hmem => ?_⟩
      rw [String.toList_append] at hmem
      refine (List.mem_append.1 hmem).elim (fun hstem => ?_) hslash
      have hname := mem_splitName hstem
      rw [name] at hname
      cases hlast : p.names.getLast? with
      | none =>
        rw [hlast] at hname
        cases hname
      | some last =>
        rw [hlast] at hname
        exact (h.names last (List.mem_of_getLast? hlast)).2.2 hname

end Path

end Manuscript
