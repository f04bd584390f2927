import Manuscript.Files
import Mathlib.Data.List.Infix

/-!
# Places

A place is where names lead to from the top of all files. What stands at a place (`Files.at?`) is an
entry without what it holds: what a folder holds stands at other places.

* `Files.resolve_of_locate`: where a path leads to something, it is to the place that the path
  leads to in the end;
* `Files.locate_join`: a relative path leads on from a folder;
* `Entry.at?_put_of_ne`: a file or an empty folder that is put at a place changes no other place,
  if there is a folder to hold it and nothing was beneath it.
-/

namespace Manuscript

/-- A path has the names of its parent and its own after them. -/
theorem Path.names_eq_concat {p : Path} (h : p.names ≠ []) :
    p.names = p.parent.names ++ [p.name] := by
  rw [name, List.getLast?_eq_some_getLast h, Option.getD_some, parent,
    List.dropLast_append_getLast]

namespace Entry

/-- An entry without what it holds. -/
def emptied : Entry → Entry
  | folder _ => folder []
  | e => e

/-- What stands under a sequence of names: a folder stands there without what it holds. -/
def at? (e : Entry) (names : List String) : Option Entry :=
  (e.get? names).map emptied

/-- What is no folder is what stands under the names. -/
theorem at?_eq_some_iff {e c : Entry} {names : List String} (hc : ∀ entries, c ≠ folder entries) :
    e.at? names = some c ↔ e.get? names = some c := by
  rw [at?]
  cases e.get? names with
  | none => simp
  | some found =>
    cases found with
    | folder entries => simp [emptied, (hc _).symm]
    | _ => simp [emptied]

/-- There is a file at a place exactly if it stands under its names. -/
theorem at?_eq_file_iff {e : Entry} {names : List String} {content : ByteArray} :
    e.at? names = some (file content) ↔ e.get? names = some (file content) :=
  at?_eq_some_iff fun _ h => nomatch h

theorem at?_eq_device_iff {e : Entry} {names : List String} :
    e.at? names = some device ↔ e.get? names = some device :=
  at?_eq_some_iff fun _ h => nomatch h

theorem at?_eq_link_iff {e : Entry} {names place : List String} :
    e.at? names = some (link place) ↔ e.get? names = some (link place) :=
  at?_eq_some_iff fun _ h => nomatch h

theorem at?_eq_twin_iff {e : Entry} {names place : List String} :
    e.at? names = some (twin place) ↔ e.get? names = some (twin place) :=
  at?_eq_some_iff fun _ h => nomatch h

theorem at?_eq_none_iff {e : Entry} {names : List String} :
    e.at? names = none ↔ e.get? names = none := by
  rw [at?, Option.map_eq_none_iff]

/-- An entry is a leaf if nothing stands beneath it. -/
def IsLeaf (e : Entry) : Prop :=
  ∀ name, e.child? name = none

theorem isLeaf_file (content : ByteArray) : (file content).IsLeaf :=
  fun _ => rfl

theorem isLeaf_emptyFolder : (folder []).IsLeaf :=
  fun _ => rfl

/-- Names are followed one after the other. -/
theorem get?_append (e : Entry) (names rest : List String) :
    e.get? (names ++ rest) = (e.get? names).bind fun c => c.get? rest := by
  induction names generalizing e with
  | nil => rfl
  | cons name names ih =>
    rw [List.cons_append, get?, get?, Option.bind_assoc]
    congr 1
    funext c
    exact ih c

/-- There is nothing under a leaf. -/
theorem IsLeaf.get?_eq_none {e : Entry} (h : e.IsLeaf) {names : List String} (hne : names ≠ []) :
    e.get? names = none := by
  cases names with
  | nil => exact absurd rfl hne
  | cons name names => rw [get?, h name, Option.bind_none]

/-- What stands in an entry stands in a folder. -/
theorem exists_folder_of_child? {e c : Entry} {name : String} (h : e.child? name = some c) :
    ∃ entries, e = folder entries := by
  cases e with
  | folder entries => exact ⟨entries, rfl⟩
  | _ => cases h

/-- There is a folder on the way to everything but the top. -/
theorem exists_folder_of_get? {e c : Entry} {names : List String} (hne : names ≠ [])
    (h : e.get? names = some c) : ∃ entries, e.get? names.dropLast = some (folder entries) := by
  -- The last name is one under what the others lead to.
  rw [← List.dropLast_append_getLast hne, get?_append] at h
  obtain ⟨parent, hparent, hchild⟩ := Option.bind_eq_some_iff.1 h
  rw [get?] at hchild
  obtain ⟨found, hfound, -⟩ := Option.bind_eq_some_iff.1 hchild
  obtain ⟨entries, rfl⟩ := exists_folder_of_child? hfound
  exact ⟨entries, hparent⟩

/-! ## Putting an entry at a place -/

theorem child?_cons (n : String) (e : Entry) (rest : List (String × Entry)) (name : String) :
    (folder ((n, e) :: rest)).child? name =
      if n = name then some e else (folder rest).child? name := by
  rw [child?, child?, List.find?_cons]
  by_cases h : n = name
  · rw [if_pos h, beq_iff_eq.2 h]
    rfl
  · rw [if_neg h, beq_eq_false_iff_ne.2 h]

/-- Changing what stands under a name changes nothing under another. -/
theorem child?_putEntry (entries : List (String × Entry)) (name other : String)
    (f : Option Entry → Entry) :
    (folder (putEntry entries name f)).child? other =
      if name = other then some (f ((folder entries).child? name))
      else (folder entries).child? other := by
  induction entries with
  | nil => rw [putEntry, child?_cons]; rfl
  | cons first rest ih =>
    obtain ⟨n, e⟩ := first
    rw [putEntry, child?_cons, child?_cons]
    by_cases hn : n = name
    · rw [if_pos hn, if_pos hn, child?_cons, hn]
      split <;> rfl
    · rw [if_neg hn, if_neg hn, child?_cons, ih]
      by_cases h : name = other
      · rw [if_pos h, if_pos h, if_neg (h ▸ hn)]
      · rw [if_neg h, if_neg h]

theorem put_folder (entries : List (String × Entry)) (new : Entry) (name : String)
    (rest : List String) :
    (folder entries).put new (name :: rest) =
      folder (putEntry entries name fun old => (old.getD (folder [])).put new rest) :=
  rfl

/-- What is put under names ends up in a folder, whatever was there. -/
theorem exists_put_eq (e new : Entry) (name : String) (rest : List String) :
    ∃ entries, e.put new (name :: rest) =
      folder (putEntry entries name fun old => (old.getD (folder [])).put new rest) := by
  cases e with
  | folder entries => exact ⟨entries, rfl⟩
  | _ => exact ⟨[], rfl⟩

/-- What is put under names stands there. -/
theorem get?_put (e new : Entry) (names : List String) :
    (e.put new names).get? names = some new := by
  induction names generalizing e with
  | nil => rfl
  | cons name names ih =>
    obtain ⟨entries, hput⟩ := exists_put_eq e new name names
    rw [hput, get?, child?_putEntry, if_pos rfl, Option.bind_some]
    exact ih _

/-- A leaf that is put at a place changes nothing but what stands there, if there is a folder to
    hold it and what it takes the place of was a leaf as well. -/
theorem at?_put_of_ne {e new : Entry} {names other : List String}
    (hparent : names ≠ [] → ∃ entries, e.get? names.dropLast = some (folder entries))
    (hnew : new.IsLeaf) (hold : ∀ old, e.get? names = some old → old.IsLeaf)
    (hother : other ≠ names) : (e.put new names).at? other = e.at? other := by
  by_cases hbeneath : names <+: other
  · -- Beneath the place there is nothing, neither before nor after.
    obtain ⟨rest, rfl⟩ := hbeneath
    have hrest : rest ≠ [] := by
      rintro rfl
      exact hother (List.append_nil names)
    rw [at?, at?, get?_append, get?_append, get?_put, Option.bind_some, hnew.get?_eq_none hrest]
    cases hget : e.get? names with
    | none => rfl
    | some old => rw [Option.bind_some, (hold old hget).get?_eq_none hrest]
  · -- Elsewhere the names are followed down to where they part. What is put and what it takes the
    -- place of make no difference to that.
    clear hother hold hnew
    induction names generalizing e other with
    | nil => exact absurd List.nil_prefix hbeneath
    | cons name names ih =>
      obtain ⟨found, hparent⟩ := hparent (List.cons_ne_nil name names)
      obtain ⟨entries, rfl⟩ : ∃ entries, e = folder entries := by
        cases names with
        | nil =>
          rw [List.dropLast_singleton, get?, Option.some.injEq] at hparent
          exact ⟨found, hparent⟩
        | cons next names =>
          rw [List.dropLast_cons_cons, get?] at hparent
          obtain ⟨c, hc, -⟩ := Option.bind_eq_some_iff.1 hparent
          exact exists_folder_of_child? hc
      cases other with
      | nil => rfl
      | cons first other =>
        rw [put_folder, at?, at?, get?, get?, child?_putEntry]
        by_cases hfirst : name = first
        · subst hfirst
          rw [if_pos rfl, Option.bind_some]
          have hdeeper : ¬ names <+: other := fun h => hbeneath (List.cons_prefix_cons.2 ⟨rfl, h⟩)
          have hnames : names ≠ [] := by
            rintro rfl
            exact hdeeper List.nil_prefix
          rw [List.dropLast_cons_of_ne_nil hnames, get?] at hparent
          obtain ⟨c, hc, hparent⟩ := Option.bind_eq_some_iff.1 hparent
          rw [hc, Option.bind_some]
          exact ih (fun _ => ⟨found, hparent⟩) hdeeper
        · rw [if_neg hfirst]

end Entry

namespace Files

/-- What stands at a place: a folder stands there without what it holds. -/
def at? (fs : Files) (place : List String) : Option Entry :=
  fs.top.at? place

variable {fs : Files} {p : Path}

/-- A folder is what there is at its place. -/
theorem item?_of_folder {place : List String} {entries : List (String × Entry)}
    (h : fs.top.get? place = some (.folder entries)) : fs.item? place = some .folder := by
  rw [item?, h]

/-- A name that nothing stands under leads to its own place. -/
theorem step_of_vacant {place : List String} {name : String}
    (h : fs.top.get? (place ++ [name]) = none) : fs.step place name = place ++ [name] := by
  rw [step, h]

/-! ## Where paths lead -/

/-- Where names can be followed, they lead where they are resolved to. -/
theorem foldl_of_follow {place names here : List String} (h : fs.follow place names = .ok here) :
    here = names.foldl (fun place name => if name = ".." then place.dropLast else fs.step place name)
      place := by
  induction names generalizing place with
  | nil =>
    cases h
    rfl
  | cons name names ih =>
    rw [follow] at h
    rw [List.foldl_cons]
    split at h
    · cases h
    · split at h
      · rename_i hname
        rw [if_pos hname]
        exact ih h
      · rename_i hname
        rw [if_neg hname]
        split at h
        · cases h
        · split at h
          · exact ih h
          · cases h
    · cases h

/-- Where a path leads to something, it is to the place that the path leads to in the end. -/
theorem resolve_of_locate {place : List String} (h : fs.locate p = .ok place) :
    fs.resolve p = place := by
  rw [locate] at h
  cases hform : checkForm p with
  | error r =>
    rw [hform] at h
    cases h
  | ok =>
    rw [hform] at h
    exact (foldl_of_follow h).symm

/-- Names are followed one after the other: more of them lead on from where the first ones lead. -/
theorem follow_append (fs : Files) (place names rest : List String) :
    fs.follow place (names ++ rest) = fs.follow place names >>= fun here => fs.follow here rest := by
  induction names generalizing place with
  | nil => rfl
  | cons name names ih =>
    rw [List.cons_append, follow, follow]
    split
    · rfl
    · split
      · exact ih _
      · split
        · rfl
        · split
          · exact ih _
          · rfl
    · rfl

/-- A relative path leads on from a folder: its names are followed from the place of that. -/
theorem locate_join {b : Path} (hp : p.isAbsolute = false) (hform : checkForm (b.join p) = .ok ()) :
    fs.locate (b.join p) =
      fs.follow (fs.start b) b.names >>= fun place => fs.follow place p.names := by
  have hjoin : b.join p = { b with names := b.names ++ p.names } := if_neg (by simp [hp])
  have hstart : fs.start (b.join p) = fs.start b := by rw [hjoin]; rfl
  rw [locate, hform, hstart, hjoin]
  exact fs.follow_append _ _ _

/-- Resolving a path is resolving its parent and then a step to its name. -/
theorem resolve_eq_step (hnames : p.names ≠ []) (hname : p.name ≠ "..") :
    fs.resolve p = fs.step (fs.resolve p.parent) p.name := by
  rw [resolve, Path.names_eq_concat hnames, List.foldl_append, List.foldl_cons, List.foldl_nil,
    if_neg hname]
  rfl

/-! ## Writing -/

/-- Writing ends well where the file can be opened and nothing breaks off. -/
theorem write_eq_ok_iff {fs' : Files} {content : ByteArray} :
    fs.write p content = .ok fs' ↔
      ∃ place, fs.target p = .ok place ∧ fs.breaks place = none ∧ fs' = fs.keep place content := by
  rw [write]
  cases fs.target p with
  | error r => simp [bind, Except.bind]
  | ok place => cases hbreaks : fs.breaks place <;> simp [bind, Except.bind, hbreaks, eq_comm]

end Files

end Manuscript
