import Manuscript.Proofs.Docx.Outcome
import Manuscript.Proofs.Picture.Location

/-!
# Paths that are refused

Not every text is the path of a file. One refusal is not the operating system's: no path holds the
character NUL, and where that is looked for, nothing else is (`Files.target_eq_badName_iff`). A name
that is longer than that of any file is refused wherever it is looked for (`Files.find_of_long`),
and for no other reason is the question whether there is a file left without an answer
(`Files.holds_eq_error_iff`).
-/

namespace Manuscript

theorem mem_intercalate_iff {x : α} {sep : List α} {parts : List (List α)} (hx : x ∉ sep) :
    x ∈ sep.intercalate parts ↔ ∃ part ∈ parts, x ∈ part := by
  induction parts with
  | nil => simp
  | cons part parts ih =>
    cases parts with
    | nil => simp
    | cons part' parts =>
      rw [List.intercalate_cons_cons, List.mem_append, List.mem_append, ih]
      simp [hx]

namespace Path

/-- A text without slashes that is more than a dot is a path of one name. -/
theorem ofText_eq_single {s : String} (hslash : '/' ∉ s.toList) (hempty : s ≠ "") (hdot : s ≠ ".") :
    ofText s = { names := [s] } := by
  have hroot : s.toList.takeWhile (· == '/') = [] := by
    rw [List.takeWhile_eq_nil_iff]
    intro hlength
    rw [Bool.not_eq_true, beq_eq_false_iff_ne]
    intro heq
    exact hslash (heq ▸ List.getElem_mem hlength)
  rw [ofText, rootOf, hroot, List.splitOn_eq_singleton hslash]
  simp [hempty, hdot]

/-- The text of a path has the characters of its names, beside slashes and dots. -/
theorem mem_text_iff {p : Path} {c : Char} (hslash : c ≠ '/') (hdot : c ≠ '.')
    (hroot : c ∉ p.root.toList) : c ∈ p.text.toList ↔ ∃ n ∈ p.names, c ∈ n.toList := by
  rw [text]
  split
  case isTrue h =>
    rw [List.isEmpty_iff.1 h.2]
    simp [hdot]
  case isFalse h =>
    rw [String.toList_append, List.mem_append, String.toList_intercalate,
      mem_intercalate_iff (by simpa using hslash)]
    simp [hroot]

end Path

namespace Files

/-! ## NUL -/

theorem checkForm_eq_badName_iff {p : Path} :
    checkForm p = .error .badName ↔ '\x00' ∈ p.text.toList := by
  rw [checkForm, ← List.contains_iff_mem]
  split
  case isTrue h => exact iff_of_true rfl h
  case isFalse h =>
    refine iff_of_false ?_ h
    split <;> nofun

/-- Following names never ends with a character that no path may hold: that is looked for in the
    whole path before. -/
theorem follow_ne_badName (fs : Files) (place names : List String) :
    fs.follow place names ≠ .error .badName := by
  induction names generalizing place with
  | nil => nofun
  | cons name rest ih =>
    rw [follow]
    split
    · nofun
    · split
      · exact ih _
      · split
        · nofun
        · split
          · exact ih _
          · nofun
    · nofun

theorem locate_eq_badName_iff {fs : Files} {p : Path} :
    fs.locate p = .error .badName ↔ '\x00' ∈ p.text.toList := by
  rw [locate, bind_eq_error_iff, checkForm_eq_badName_iff]
  refine or_iff_left ?_
  rintro ⟨-, -, h⟩
  exact follow_ne_badName fs _ _ h

theorem vacant_ne_badName (fs : Files) (place : List String) :
    fs.vacant place ≠ .error .badName := by
  rw [vacant]
  split
  · nofun
  · split <;> nofun
  · nofun

/-- A file has no place at a path with a character that no path may hold, and in no other way is
    the form of a path wrong. -/
theorem target_eq_badName_iff {fs : Files} {path : String} :
    fs.target (.ofText path) = .error .badName ↔ '\x00' ∈ path.toList := by
  have hroot : '\x00' ∉ (Path.ofText path).root.toList := by
    rw [Path.ofText, Path.rootOf]
    split <;> simp
  have hpath : fs.locate (.ofText path) = .error .badName ↔ '\x00' ∈ path.toList := by
    rw [locate_eq_badName_iff, Path.mem_text_iff (by decide) (by decide) hroot]
    constructor
    · rintro ⟨n, hn, hc⟩
      exact Path.mem_toList_of_mem_names hn hc
    · exact fun h => Path.exists_mem_names h (by decide) (by decide)
  have hspot : fs.target (.ofText path) = .error .badName ↔
      fs.spot (.ofText path) = .error .badName := by
    rw [target, bind_eq_error_iff]
    refine or_iff_left ?_
    rintro ⟨place, -, h⟩
    split at h
    · split at h <;> cases h
    · cases h
  rw [← hpath, hspot, spot]
  constructor
  · intro h
    split at h
    · split at h <;> cases h
    · rename_i habsent
      obtain h | ⟨folder, -, h⟩ := bind_eq_error_iff.1 h
      -- The names of the folder that a file would be in are names of its path.
      · have hparent :=
          Path.mem_text_iff (p := (Path.ofText path).parent) (by decide) (by decide) hroot
        obtain ⟨n, hn, hc⟩ := hparent.1 (locate_eq_badName_iff.1 h)
        exact hpath.2 (Path.mem_toList_of_mem_names (List.dropLast_subset _ hn) hc)
      · split at h
        · split at h
          · cases h
          · exact absurd h (fs.vacant_ne_badName _)
        · cases h
    · rename_i r hr
      cases h
      exact hr
  · intro h
    rw [h]

theorem write_eq_badName_iff {fs : Files} {p : Path} {content : ByteArray} :
    fs.write p content = .error .badName ↔ fs.target p = .error .badName := by
  rw [write, bind_eq_error_iff]
  refine or_iff_left ?_
  rintro ⟨place, -, h⟩
  split at h <;> cases h

/-! ## Long names -/

theorem holds_eq_error_iff {fs : Files} {p : Path} {kind : Item → Bool} {f : Fault} :
    fs.holds p kind = .error f ↔
      f = Refusal.nameTooLong.fault ∧ fs.find p = .error .nameTooLong := by
  rw [holds]
  obtain r | e := fs.find p
  · cases r <;> simp [eq_comm]
  · simp

/-- There is a file where one is found. -/
theorem isFile_eq_true_iff {fs : Files} {p : Path} :
    fs.isFile p = .ok true ↔ ∃ content, fs.find p = .ok (.file content) := by
  rw [isFile, holds]
  generalize fs.find p = found
  constructor
  · intro h
    obtain r | content | _ | _ := found
    · cases r <;> cases h
    · exact ⟨content, rfl⟩
    · cases h
    · cases h
  · rintro ⟨content, rfl⟩
    rfl

/-! ## Reading -/

/-- The file at a path can be opened for reading, and has a content. -/
structure Opens (fs : Files) (p : Path) (content : ByteArray) : Prop where
  find_eq : fs.find p = .ok (.file content)
  lock?_eq : fs.lock? p = none

theorem Opens.read_eq {fs : Files} {p : Path} {content : ByteArray} (h : fs.Opens p content) :
    fs.read p = .ok content := by
  rw [read, h.find_eq]
  dsimp only [bind, Except.bind]
  rw [h.lock?_eq]

theorem read_of_lock? {fs : Files} {p : Path} {content : ByteArray} {number : Nat} {why : String}
    (h : fs.find p = .ok (.file content)) (hlock : fs.lock? p = some (number, why)) :
    fs.read p = .error (.failed number why) := by
  rw [read, h]
  dsimp only [bind, Except.bind]
  rw [hlock]

/-- A file can be opened for reading, or the operating system says why not. -/
theorem opens_or_lock? {fs : Files} {p : Path} {content : ByteArray}
    (h : fs.find p = .ok (.file content)) :
    fs.Opens p content ∨ ∃ number why, fs.lock? p = some (number, why) := by
  cases hlock : fs.lock? p with
  | none => exact .inl ⟨h, hlock⟩
  | some lock => exact .inr ⟨lock.1, lock.2, rfl⟩

/-- A name that is longer than that of any file is not found in the folder that is worked in. -/
theorem find_of_long {fs : Files} {name : String} {entries : List (String × Entry)}
    (hworking : fs.top.get? fs.working = some (.folder entries)) (hslash : '/' ∉ name.toList)
    (hnul : '\x00' ∉ name.toList) (hlong : maxName < name.utf8ByteSize) :
    fs.find (.ofText name) = .error .nameTooLong := by
  have hne (s : String) (hs : s.utf8ByteSize ≤ maxName) : name ≠ s := by
    rintro rfl
    exact absurd hlong (Nat.not_lt.2 hs)
  have hpath : Path.ofText name = { names := [name] } :=
    Path.ofText_eq_single hslash (hne "" (by decide)) (hne "." (by decide))
  have hform : checkForm (.ofText name) = .error .nameTooLong ∨
      checkForm (.ofText name) = .ok () := by
    have hnot : ¬ (Path.ofText name).text.toList.contains '\x00' = true := by
      rw [List.contains_iff_mem, hpath]
      simpa [Path.text, String.toList_intercalate] using hnul
    -- The path as a whole may be too long as well, which is the same refusal.
    rw [checkForm, if_neg hnot]
    split
    · exact .inl rfl
    · exact .inr rfl
  have hfollow : fs.follow fs.working [name] = .error .nameTooLong := by
    rw [follow, hworking]
    simp only [hne ".." (by decide), if_false, if_pos hlong]
  have hlocate : fs.locate (.ofText name) = .error .nameTooLong := by
    rw [locate]
    rcases hform with hform | hform
    · rw [hform]
      rfl
    · rw [hform, hpath]
      exact hfollow
  rw [find, hlocate]
  rfl

end Files

end Manuscript
