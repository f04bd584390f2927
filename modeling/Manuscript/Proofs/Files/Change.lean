import Manuscript.Proofs.Docx.Outcome
import Manuscript.Proofs.Files.Place

/-!
# What changes files

Files change in two ways: the content of a file is written, and folders are created. Either changes
what stands at one place and nothing else.

* `keeps_of_write`: writing changes the place of the path, where the content stands then;
* `changes_createFolder`: a folder is created where nothing was;
* `grows_ensureFolders`: whether all of the folders on the way to a path are created or the rest is
  refused, each new one stands where nothing was and on the way to the path.
-/

namespace Manuscript

namespace Files

variable {fs fs' : Files} {p : Path}

/-- Two states of the files differ in what stands at a place, and in nothing else. -/
structure Changes (place : List String) (fs fs' : Files) : Prop where
  working : fs'.working = fs.working
  home : fs'.home = fs.home
  breaks : fs'.breaks = fs.breaks
  at?_eq : ∀ other ≠ place, fs'.at? other = fs.at? other

/-- Putting a leaf in the place of one, or where there was nothing in a folder, changes that place
    only. -/
theorem changes_put {place : List String} {new : Entry}
    (hparent : place ≠ [] → ∃ entries, fs.top.get? place.dropLast = some (.folder entries))
    (hnew : new.IsLeaf) (hold : ∀ old, fs.top.get? place = some old → old.IsLeaf) :
    Changes place fs { fs with top := fs.top.put new place } where
  working := rfl
  home := rfl
  breaks := rfl
  at?_eq _ hother := Entry.at?_put_of_ne hparent hnew hold hother

/-- What is put at a place is there, without what it holds. -/
theorem at?_put (fs : Files) (new : Entry) (place : List String) :
    ({ fs with top := fs.top.put new place } : Files).at? place = some new.emptied := by
  rw [at?, Entry.at?, Entry.get?_put, Option.map_some]

/-! ## Following names -/

/-- Where the same links stand, names lead to the same places. -/
theorem resolve_congr (hworking : fs'.working = fs.working)
    (hlinks : ∀ place other, fs'.at? place = some (.link other) ↔ fs.at? place = some (.link other))
    (p : Path) : fs'.resolve p = fs.resolve p := by
  have hstep (place : List String) (name : String) : fs'.step place name = fs.step place name := by
    have hget (other : List String) : fs'.top.get? (place ++ [name]) = some (.link other) ↔
        fs.top.get? (place ++ [name]) = some (.link other) := by
      rw [← Entry.at?_eq_link_iff, ← Entry.at?_eq_link_iff]
      exact hlinks _ _
    rw [step, step]
    split
    · rename_i other hlink
      rw [(hget other).1 hlink]
    · rename_i hnone
      split
      · rename_i other hlink
        exact absurd ((hget other).2 hlink) (hnone other)
      · rfl
  simp only [resolve, start, hworking, hstep]

/-- What a path leads to is at the place of the path. -/
theorem item?_of_find {e : Item} (h : fs.find p = .ok e) : fs.item? (fs.resolve p) = some e := by
  obtain ⟨place, hlocate, h⟩ := ok_of_bind h
  rw [resolve_of_locate hlocate]
  split at h
  · rename_i hitem
    cases h
    exact hitem
  · cases h

/-- A file is in the folder of its path, under its name. -/
theorem exists_folder_of_find {content : ByteArray} (h : fs.find p = .ok (.file content))
    (hnames : p.names ≠ []) :
    ∃ folder, fs.follow (fs.start p) p.parent.names = .ok folder ∧
      fs.locate p = .ok (fs.step folder p.name) := by
  obtain ⟨place, hlocate, hfile⟩ := ok_of_bind h
  have hplace : fs.item? place = some (.file content) := by
    split at hfile
    · rename_i hitem
      cases hfile
      exact hitem
    · cases hfile
  obtain ⟨-, -, hfollow⟩ := ok_of_bind hlocate
  rw [Path.names_eq_concat hnames, follow_append] at hfollow
  obtain ⟨folder, hfolder, hlast⟩ := ok_of_bind hfollow
  refine ⟨folder, hfolder, ?_⟩
  rw [follow] at hlast
  split at hlast
  · cases hlast
  · rename_i entries hget
    split at hlast
    · -- The step back from a folder leads to a folder.
      cases hlast
      by_cases hnil : folder = []
      · subst hnil
        cases (item?_of_folder hget).symm.trans hplace
      · obtain ⟨entries', hparent⟩ := Entry.exists_folder_of_get? hnil hget
        cases (item?_of_folder hparent).symm.trans hplace
    · split at hlast
      · cases hlast
      · split at hlast
        · cases hlast
          exact hlocate
        · cases hlast
  · cases hlast

/-- A path that leads nowhere has names. -/
theorem names_ne_nil_of_locate_absent (h : fs.locate p = .error .absent) : p.names ≠ [] := by
  intro hnil
  obtain hform | ⟨-, -, h⟩ := bind_eq_error_iff.1 h
  · rw [checkForm] at hform
    split at hform
    · cases hform
    · split at hform <;> cases hform
  · rw [hnil] at h
    cases h

/-! ## Writing -/

/-- A file can be written where there is one already or a device, or in a folder in which its name is
    missing. -/
inductive IsTarget (fs : Files) (place : List String) : Prop
  | file {content : ByteArray} (h : fs.top.get? place = some (.file content))
  | device (h : fs.top.get? place = some .device)
  | vacant {entries : List (String × Entry)} (hne : place ≠ []) (h : fs.top.get? place = none)
    (hfolder : fs.top.get? place.dropLast = some (.folder entries))

/-- What is at a place other than a folder is written at its own place. -/
theorem isTarget_own {place : List String} {e : Item} (h : fs.item? place = some e)
    (hfolder : e ≠ .folder) : fs.IsTarget (fs.own place) := by
  rw [item?] at h
  split at h
  · rename_i content hget
    rw [own, hget]
    exact .file hget
  · cases h
    exact absurd rfl hfolder
  · rename_i hget
    rw [own, hget]
    exact .device hget
  · rename_i other hget
    rw [own, hget]
    split at h
    · rename_i content hother
      exact .file hother
    · cases h
  · cases h

/-- A new file has its place in a folder in which its name is missing, or where the link under its
    name leads. -/
theorem isTarget_of_vacant {folder place : List String} {entries : List (String × Entry)}
    {name : String} (hfolder : fs.top.get? folder = some (.folder entries))
    (h : fs.vacant (folder ++ [name]) = .ok place) :
    fs.step folder name = place ∧ fs.top.get? place = none ∧ fs.IsTarget place := by
  rw [vacant] at h
  split at h
  · rename_i hnone
    cases h
    have hparent : fs.top.get? (folder ++ [name]).dropLast = some (.folder entries) := by
      rw [List.dropLast_concat]
      exact hfolder
    exact ⟨step_of_vacant hnone, hnone, .vacant (by simp) hnone hparent⟩
  · -- A link that leads nowhere yet: what it leads to is written, if its folder is there.
    rename_i other hlink
    split at h
    · rename_i entries' hparent hnone
      cases h
      refine ⟨?_, hnone, .vacant ?_ hnone hparent⟩
      · rw [step, hlink]
      · rintro rfl
        cases hnone
    · cases h
  · cases h

/-- What is opened for writing is the place that the path resolves to. -/
theorem isTarget_of_target {place : List String} (h : fs.target p = .ok place) :
    fs.own (fs.resolve p) = place ∧ fs.IsTarget place := by
  obtain ⟨spot, hspot, h⟩ := ok_of_bind h
  -- Opening the spot for writing can only be refused, it leads nowhere else.
  obtain rfl : spot = place := by
    split at h
    · split at h <;> cases h
      rfl
    · cases h
      rfl
  rw [Files.spot] at hspot
  split at hspot
  · -- The path leads to something, which is written at its own place.
    rename_i here hlocate
    rw [resolve_of_locate hlocate]
    split at hspot
    · cases hspot
    · rename_i e hfolder hitem
      cases hspot
      exact ⟨rfl, isTarget_own hitem hfolder⟩
    · cases hspot
  · rename_i habsent
    obtain ⟨folder, hparent, hspot⟩ := ok_of_bind hspot
    split at hspot
    · rename_i entries hfolder
      split at hspot
      · cases hspot
      · rename_i hname
        rw [not_or] at hname
        obtain ⟨hstep, hnone, htarget⟩ := isTarget_of_vacant hfolder hspot
        rw [resolve_eq_step (names_ne_nil_of_locate_absent habsent) hname.1,
          resolve_of_locate hparent, hstep, own, hnone]
        exact ⟨rfl, htarget⟩
    · cases hspot
  · cases hspot

/-- What keeping a content at a place does: a device keeps nothing, and otherwise the content stands
    there then, where nothing or a file was before. -/
inductive Keeps (fs : Files) (place : List String) (content : ByteArray) : Files → Prop
  | device (h : fs.at? place = some .device) : Keeps fs place content fs
  | file {fs' : Files} (hchanges : Changes place fs fs')
    (hnew : fs'.at? place = some (.file content))
    (hold : ∀ e, fs.at? place = some e → ∃ before, e = .file before) : Keeps fs place content fs'

/-- Writing at the place of a file changes what stands there, and nothing else. -/
theorem IsTarget.keeps {place : List String} (h : fs.IsTarget place) (content : ByteArray) :
    Keeps fs place content (fs.keep place content) := by
  cases h with
  | device h =>
    rw [keep, h]
    exact .device (Entry.at?_eq_device_iff.2 h)
  | @file before h =>
    rw [keep, h]
    refine .file (changes_put (fun hne => Entry.exists_folder_of_get? hne h)
      (Entry.isLeaf_file content) fun old hold => ?_) (at?_put fs _ place) fun e he => ?_
    · cases h.symm.trans hold
      exact Entry.isLeaf_file before
    · cases (Entry.at?_eq_file_iff.2 h).symm.trans he
      exact ⟨before, rfl⟩
  | vacant hne h hfolder =>
    rw [keep, h]
    refine .file (changes_put (fun _ => ⟨_, hfolder⟩) (Entry.isLeaf_file content) fun old hold => ?_)
      (at?_put fs _ place) fun e he => ?_
    · cases h.symm.trans hold
    · cases (Entry.at?_eq_none_iff.2 h).symm.trans he

/-- Writing the file at a path changes what stands at the place of the path, and nothing else. No
    folder gives way to it, and no link. -/
theorem keeps_of_write {content : ByteArray} (h : fs.write p content = .ok fs') :
    Keeps fs (fs.own (fs.resolve p)) content fs' := by
  obtain ⟨place, htarget, -, rfl⟩ := write_eq_ok_iff.1 h
  obtain ⟨rfl, hplace⟩ := isTarget_of_target htarget
  exact hplace.keeps content

/-- Where writing broke off, what is left of the file is kept at its place, and nothing else has
    changed. -/
theorem afterRefusal_cases (fs : Files) (p : Path) :
    fs.afterRefusal p = fs ∨ ∃ (b : Break) (left : ByteArray),
      (∀ content, fs.write p content = .error b.refusal) ∧
      b.left = some left ∧ Keeps fs (fs.own (fs.resolve p)) left (fs.afterRefusal p) := by
  rw [afterRefusal]
  split
  · exact .inl rfl
  · rename_i place htarget
    obtain ⟨rfl, hplace⟩ := isTarget_of_target htarget
    split
    · rename_i left hleft
      obtain ⟨b, hb, hleft⟩ := Option.bind_eq_some_iff.1 hleft
      refine .inr ⟨b, left, fun content => ?_, hleft, hplace.keeps left⟩
      simp only [write, htarget, bind, Except.bind, hb]
    · exact .inl rfl

/-! ## Folders -/

/-- Creating the folder at a path changes what stands at the place of the path, where nothing was,
    and nothing else. -/
theorem changes_createFolder (h : fs.createFolder p = .ok fs') :
    Changes (fs.resolve p) fs fs' ∧ fs'.at? (fs.resolve p) = some (.folder []) ∧
      fs.at? (fs.resolve p) = none := by
  rw [createFolder] at h
  split at h
  · cases h
  · rename_i habsent
    obtain ⟨folder, hparent, h⟩ := ok_of_bind h
    split at h
    · rename_i entries hfolder
      dsimp only at h
      split at h
      · cases h
      · rename_i hname
        split at h
        · cases h
        · rename_i hvacant
          rw [Bool.not_eq_true, Option.isSome_eq_false_iff, Option.isNone_iff_eq_none] at hvacant
          split at h
          · cases h
          · cases h
            rw [resolve_eq_step (names_ne_nil_of_locate_absent habsent) hname,
              resolve_of_locate hparent, step_of_vacant hvacant]
            refine ⟨changes_put (fun _ => ⟨entries, ?_⟩) Entry.isLeaf_emptyFolder ?_,
              at?_put fs _ _, Entry.at?_eq_none_iff.2 hvacant⟩
            · rw [List.dropLast_concat]
              exact hfolder
            · intro old hget
              cases hvacant.symm.trans hget
    · cases h
  · cases h

/-- Files have grown by folders: what stood at a place stands there still, and what is new are
    folders, at places of some sort. -/
structure Grows (P : List String → Prop) (fs fs' : Files) : Prop where
  working : fs'.working = fs.working
  home : fs'.home = fs.home
  breaks : fs'.breaks = fs.breaks
  at?_cases : ∀ place, fs'.at? place = fs.at? place ∨
    fs.at? place = none ∧ fs'.at? place = some (.folder []) ∧ P place

variable {P Q : List String → Prop}

theorem Grows.refl (P : List String → Prop) (fs : Files) : Grows P fs fs :=
  ⟨rfl, rfl, rfl, fun _ => .inl rfl⟩

/-- Growing twice is growing. -/
theorem Grows.trans {fs'' : Files} (h : Grows P fs fs') (h' : Grows P fs' fs'') :
    Grows P fs fs'' where
  working := h'.working.trans h.working
  home := h'.home.trans h.home
  breaks := h'.breaks.trans h.breaks
  at?_cases place := by
    obtain heq | ⟨hnone, hnew, hP⟩ := h.at?_cases place
    · rw [← heq]
      exact h'.at?_cases place
    · refine .inr ⟨hnone, ?_, hP⟩
      obtain heq' | ⟨hnone', -, -⟩ := h'.at?_cases place
      · rw [heq', hnew]
      · cases hnone'.symm.trans hnew

theorem Grows.mono (h : Grows P fs fs') (hPQ : ∀ place, P place → Q place) : Grows Q fs fs' where
  working := h.working
  home := h.home
  breaks := h.breaks
  at?_cases place := (h.at?_cases place).imp_right fun ⟨hnone, hnew, hP⟩ => ⟨hnone, hnew, hPQ _ hP⟩

/-- Where files have grown by folders, all else is as it was. -/
theorem Grows.at?_iff (h : Grows P fs fs') {e : Entry} (he : e ≠ .folder []) (place : List String) :
    fs'.at? place = some e ↔ fs.at? place = some e := by
  obtain heq | ⟨hnone, hnew, -⟩ := h.at?_cases place
  · rw [heq]
  · rw [hnone, hnew]
    exact iff_of_false (fun heq => he (Option.some.inj heq).symm) nofun

/-- There is a file at a place if it stands there, or if a further name of it does. -/
theorem item?_eq_file_iff {place : List String} {content : ByteArray} :
    fs.item? place = some (.file content) ↔ fs.at? place = some (.file content) ∨
      ∃ other, fs.at? place = some (.twin other) ∧ fs.at? other = some (.file content) := by
  simp only [at?, Entry.at?_eq_file_iff, Entry.at?_eq_twin_iff]
  rw [item?]
  split
  case h_4 other htwin =>
    rw [htwin]
    split
    · rename_i c hfile
      simp [hfile]
    · rename_i hnot
      simpa using hnot content
  all_goals simp_all

/-- Where files have grown by folders, each file is as it was. -/
theorem Grows.item?_file_iff (h : Grows P fs fs') (place : List String) (content : ByteArray) :
    fs'.item? place = some (.file content) ↔ fs.item? place = some (.file content) := by
  have htwin (other : List String) := h.at?_iff (e := .twin other) nofun
  have hfile := h.at?_iff (e := .file content) nofun
  simp only [item?_eq_file_iff, htwin, hfile]

/-- Growing changes no further names of files. -/
theorem Grows.own_eq (h : Grows P fs fs') (place : List String) : fs'.own place = fs.own place := by
  have htwin (other : List String) : fs'.top.get? place = some (.twin other) ↔
      fs.top.get? place = some (.twin other) := by
    rw [← Entry.at?_eq_twin_iff, ← Entry.at?_eq_twin_iff]
    exact h.at?_iff (e := .twin other) nofun place
  rw [own, own]
  split
  · rename_i other hget
    rw [(htwin other).1 hget]
  · rename_i hnone
    split
    · rename_i other hget
      exact absurd ((htwin other).2 hget) (hnone other)
    · rfl

/-- Growing changes nothing about where paths lead. -/
theorem Grows.resolve_eq (h : Grows P fs fs') (p : Path) : fs'.resolve p = fs.resolve p :=
  resolve_congr h.working (fun place other => h.at?_iff (e := .link other) nofun place) p

/-- Creating a folder is growing at its place. -/
theorem Grows.of_createFolder (h : fs.createFolder p = .ok fs') (hP : P (fs.resolve p)) :
    Grows P fs fs' := by
  obtain ⟨hchanges, hnew, hnone⟩ := changes_createFolder h
  refine ⟨hchanges.working, hchanges.home, hchanges.breaks, fun place => ?_⟩
  by_cases hplace : place = fs.resolve p
  · subst hplace
    exact .inr ⟨hnone, hnew, hP⟩
  · exact .inl (hchanges.at?_eq place hplace)

theorem Grows.of_ensureFolder (h : fs.ensureFolder p = .ok fs') (hP : P (fs.resolve p)) :
    Grows P fs fs' := by
  rw [ensureFolder] at h
  split at h
  · split at h
    · cases h
      exact .refl P fs
    · cases h
  · exact .of_createFolder h hP

/-- Trying to create a folder is growing at its place, whether or not it is refused. -/
theorem Grows.of_attempt (hP : P (fs.resolve p)) :
    Grows P fs (fs.attempt (fs.ensureFolder p)).1 := by
  cases h : fs.ensureFolder p with
  | error r => exact .refl P fs
  | ok fs' => exact .of_ensureFolder h hP

/-- A place lies on the way to a path if some of the first names of the path lead there. -/
def LiesOnWay (fs : Files) (p : Path) (place : List String) : Prop :=
  ∃ names, names <+: p.names ∧ place = fs.resolve { p with names }

theorem liesOnWay_resolve (fs : Files) (p : Path) : fs.LiesOnWay p (fs.resolve p) :=
  ⟨p.names, List.prefix_rfl, rfl⟩

/-- What lies on the way to the parent lies on the way to the path. -/
theorem LiesOnWay.of_parent {place : List String} (h : fs.LiesOnWay p.parent place) :
    fs.LiesOnWay p place := by
  obtain ⟨names, hprefix, rfl⟩ := h
  exact ⟨names, hprefix.trans (List.dropLast_prefix _), rfl⟩

/-- Creating folders grows on the way to the path only, however many are tried. -/
theorem grows_ensureFoldersFrom (fs : Files) (p : Path) (n : Nat) :
    Grows (fs.LiesOnWay p) fs (fs.ensureFoldersFrom p n).1 := by
  induction n generalizing p with
  | zero => exact .of_attempt (fs.liesOnWay_resolve p)
  | succ n ih =>
    rw [ensureFoldersFrom]
    split
    · split
      · exact .refl _ fs
      · -- The folder above is missing: it is created first, and where the path leads stays the
        -- same.
        have hparent := (ih p.parent).mono fun _ h => h.of_parent
        split
        · rename_i fs' hmade
          rw [hmade] at hparent
          refine hparent.trans (.of_attempt ?_)
          rw [hparent.resolve_eq]
          exact fs.liesOnWay_resolve p
        · exact hparent
    · exact .of_attempt (fs.liesOnWay_resolve p)

/-- Creating the folders on the way to a path changes nothing that is there, whether or not it is
    refused halfway. -/
theorem grows_ensureFolders (fs : Files) (p : Path) :
    Grows (fs.LiesOnWay p) fs (fs.ensureFolders p).1 :=
  grows_ensureFoldersFrom fs p _

/-- Files have grown by folders, at places of some sort, and a content was kept at a place, where
    nothing, a file or a device was. -/
structure Leaves (P : List String → Prop) (place : List String) (content : ByteArray)
    (fs fs' : Files) : Prop where
  kept : fs.at? place = some .device ∧ fs'.at? place = some .device ∨
    (∀ e, fs.at? place = some e → ∃ before, e = .file before) ∧
      fs'.at? place = some (.file content)
  at?_cases : ∀ other ≠ place, fs'.at? other = fs.at? other ∨
    fs.at? other = none ∧ fs'.at? other = some (.folder []) ∧ P other

/-- Growing and then writing leaves a content at its place and changes nothing else. -/
theorem Grows.leaves {fs'' : Files} {place : List String} {content : ByteArray}
    (h : Grows P fs fs') (hkeeps : Keeps fs' place content fs'') :
    Leaves P place content fs fs'' := by
  cases hkeeps with
  | device hdevice =>
    exact ⟨.inl ⟨(h.at?_iff (e := .device) nofun place).1 hdevice, hdevice⟩,
      fun other _ => h.at?_cases other⟩
  | file hchanges hnew hold =>
    refine ⟨.inr ⟨fun e he => ?_, hnew⟩, fun other hother => ?_⟩
    · obtain heq | ⟨hnone, -, -⟩ := h.at?_cases place
      · exact hold e (heq.trans he)
      · cases hnone.symm.trans he
    · rw [hchanges.at?_eq other hother]
      exact h.at?_cases other

/-- Each file that has not its own place there is as it was. -/
theorem Leaves.item?_file_iff {place : List String} {content : ByteArray}
    (h : Leaves P place content fs fs') {other : List String} (hother : fs.own other ≠ place)
    (c : ByteArray) : fs'.item? other = some (.file c) ↔ fs.item? other = some (.file c) := by
  have hsame {q : List String} (hq : q ≠ place) {e : Entry} (he : e ≠ .folder []) :
      fs'.at? q = some e ↔ fs.at? q = some e := by
    obtain heq | ⟨hnone, hnew, -⟩ := h.at?_cases q hq
    · rw [heq]
    · rw [hnone, hnew]
      exact iff_of_false (fun heq => he (Option.some.inj heq).symm) nofun
  -- No further name stands at the place, neither before nor after.
  have hplain {q : List String} :
      fs.at? place ≠ some (.twin q) ∧ fs'.at? place ≠ some (.twin q) := by
    obtain ⟨hdevice, hdevice'⟩ | ⟨hold, hnew⟩ := h.kept
    · simp [hdevice, hdevice']
    · refine ⟨fun htwin => ?_, by simp [hnew]⟩
      obtain ⟨_, hfile⟩ := hold _ htwin
      cases hfile
  have hne : other = place → fs.own other = other := by
    rintro rfl
    rw [own]
    split
    · rename_i q htwin
      exact absurd (Entry.at?_eq_twin_iff.2 htwin) hplain.1
    · rfl
  have hother' : other ≠ place := fun heq => hother ((hne heq).trans heq)
  simp only [item?_eq_file_iff]
  refine or_congr (hsame hother' nofun) (exists_congr fun q => ?_)
  rw [hsame hother' (e := .twin q) nofun]
  refine and_congr_right fun htwin => hsame ?_ nofun
  rw [own, Entry.at?_eq_twin_iff.1 htwin] at hother
  exact hother

end Files

end Manuscript
