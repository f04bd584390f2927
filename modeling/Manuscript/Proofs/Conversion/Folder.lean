import Manuscript.Conversion
import Manuscript.Proofs.Files.Change
import Manuscript.Proofs.Source.Outcome

/-!
# Where the pictures of a source are looked for

Whether a text names a file is found out twice: when the text is read, and when the folder is asked
for that its pictures are in. Both find the same (`Source.folder?_eq_some_iff`,
`Source.folder?_text_eq_none_iff`), also where the operating system refuses to look. So relative
pictures are looked for from the folder that holds the file that the Markdown is read from, and from
the one that is worked in if it is read from no file (`Conversion.looks_from_folder`).

* `Source.ReadFrom`: the file that a source is read from;
* `Source.pictureStart`: the place from which relative pictures are followed;
* `Source.exists_pictureStart`: the file of a source stands in that place.
-/

namespace Manuscript

namespace Source

variable {fs : Files} {s : String} {p q : Path} {source : Source}

/-! ## Texts that name files -/

/-- A text is read as the path of a file: what is found there is its text, or that it cannot be
    opened is the error that reading ends with. -/
def ReadsAs (fs : Files) (s : String) (p : Path) : Prop :=
  p = .ofText s ∧ ∃ content, fs.find p = .ok (.file content) ∧
    (fs.lock? p = none → named? fs s = .ok (some (decode content))) ∧
    ∀ n why, fs.lock? p = some (n, why) →
      named? fs s = .error (.error (.ofKind (.fileAccess p.text) (some (.system n why))))

theorem readsAs_iff : ReadsAs fs s p ↔ namedFile? fs s = some p := by
  constructor
  · -- That there is a file is not enough, since a long text names none.
    rintro ⟨rfl, content, hfind, hopened, hlocked⟩
    rw [named?_eq] at hopened hlocked
    cases h : namedFile? fs s with
    | none =>
      rw [h] at hopened hlocked
      cases hlock : fs.lock? (.ofText s) with
      | none => cases hopened hlock
      | some lock => cases hlocked _ _ hlock
    | some q => rw [(namedFile?_eq_some_iff.1 h).1]
  · intro h
    obtain ⟨rfl, -, -, content, hfind⟩ := namedFile?_eq_some_iff.1 h
    refine ⟨rfl, content, hfind, fun hlock => ?_, fun n why hlock => ?_⟩
    · rw [named?_eq, h]
      dsimp only
      rw [readFile_of_opens ⟨hfind, hlock⟩]
      rfl
    · rw [named?_eq, h]
      dsimp only
      rw [readFile_of_lock? hfind hlock]
      rfl

theorem named?_eq_none_iff : named? fs s = .ok none ↔ namedFile? fs s = none := by
  rw [named?_eq]
  cases namedFile? fs s with
  | none => simp
  | some p => cases h : readFile fs p <;> simp [h, Except.map]

/-- A text is read as the path of a file, or is Markdown itself. -/
theorem load_text_cases (fs : Files) (s : String) :
    (named? fs s = .ok none ∧ (text s).load fs = .ok s) ∨
      ∃ p, ReadsAs fs s p ∧ (text s).load fs = readFile fs p := by
  rw [load_text]
  cases h : namedFile? fs s with
  | none => exact .inl ⟨named?_eq_none_iff.2 h, rfl⟩
  | some p => exact .inr ⟨p, readsAs_iff.2 h, rfl⟩

/-- A text is Markdown itself if the operating system refuses to look for a file of its name. -/
theorem named?_of_refused {f : Fault} (h : fs.isFile (.ofText s) = .error f) :
    named? fs s = .ok none := by
  rw [named?_eq_none_iff, Option.eq_none_iff_forall_ne_some]
  intro p hp
  obtain ⟨rfl, -, -, hfind⟩ := namedFile?_eq_some_iff.1 hp
  cases h.symm.trans (Files.isFile_eq_true_iff.2 hfind)

/-! ## Folders -/

/-- A source is read from a file: it is the path of that file, or a text that is read as one. -/
inductive ReadFrom (fs : Files) : Source → Path → Prop
  | text {s : String} {p : Path} (h : ReadsAs fs s p) : ReadFrom fs (.text s) p
  | path {p : Path} : ReadFrom fs (.path p) p

/-- The folder is found in its own way, which comes to the same. -/
theorem folder?_text (fs : Files) (s : String) :
    (text s).folder? fs = (namedFile? fs s).map (·.parent) := by
  rw [folder?, namedFile?]
  split
  · -- No file and no answer from the operating system come to the same here: there is no folder.
    cases fs.isFile (.ofText s) with
    | error f => rfl
    | ok there => cases there <;> rfl
  · rfl

theorem folder?_eq_some_iff :
    source.folder? fs = some q ↔ ∃ p, source.ReadFrom fs p ∧ q = p.parent := by
  cases source with
  | text s =>
    rw [folder?_text, Option.map_eq_some_iff]
    constructor
    · rintro ⟨p, hp, rfl⟩
      exact ⟨p, .text (readsAs_iff.2 hp), rfl⟩
    · rintro ⟨p, ⟨hp⟩, rfl⟩
      exact ⟨p, readsAs_iff.1 hp, rfl⟩
  | path p =>
    rw [folder?, Option.some.injEq]
    constructor
    · rintro rfl
      exact ⟨p, .path, rfl⟩
    · rintro ⟨_, ⟨⟩, rfl⟩
      rfl
  | bytes | stream | characters => exact ⟨nofun, nofun⟩

theorem folder?_text_eq_none_iff : (text s).folder? fs = none ↔ named? fs s = .ok none := by
  rw [folder?_text, Option.map_eq_none_iff, named?_eq_none_iff]

/-- The place from which the relative pictures of a source are followed. -/
def pictureStart (fs : Files) (source : Source) : Except Refusal (List String) :=
  match source.folder? fs with
  | none => .ok fs.working
  | some b => fs.follow (fs.start b) b.names

/-- The file that a source is read from stands in the place from which pictures are followed. -/
theorem exists_pictureStart (h : source.ReadFrom fs p) {content : ByteArray}
    (hfind : fs.find p = .ok (.file content)) (hnames : p.names ≠ []) :
    ∃ folder, source.pictureStart fs = .ok folder ∧ fs.locate p = .ok (fs.step folder p.name) := by
  obtain ⟨folder, hfolder, hlocate⟩ := Files.exists_folder_of_find hfind hnames
  refine ⟨folder, ?_, hlocate⟩
  rw [pictureStart, folder?_eq_some_iff.2 ⟨p, h, rfl⟩]
  exact hfolder

end Source

namespace Conversion

open Source (ReadsAs ReadFrom named? readFile)

variable {c : Conversion} {source : Source}

theorem exists_locate_setting (fs : Files) (horigin : c.origin = .markdown source)
    {address : String} {p : Path} (haddress : Picture.path? address = .ok (some p))
    (hp : p.isAbsolute = false) :
    ∃ q, Picture.locate (c.setting fs).base address = .ok (some q) ∧
      (Files.checkForm q = .ok () →
        fs.locate q = source.pictureStart fs >>= fun folder => fs.follow folder p.names) := by
  have hbase : (c.setting fs).base = source.folder? fs := by rw [setting, horigin]
  rw [hbase, Picture.locate, haddress, Source.pictureStart]
  cases source.folder? fs with
  | none =>
    refine ⟨p, rfl, fun hform => ?_⟩
    have hstart : fs.start p = fs.working := if_neg (by simp [hp])
    rw [Files.locate, hform, hstart]
    rfl
  | some b => exact ⟨b.join p, rfl, Files.locate_join hp⟩

/-- A source has a folder if and only if it is read from a file, and then it is the folder of that
    file. A text that is read from none, as it is if the operating system refuses to look, is
    Markdown itself, and it has no folder; nor has what comes in bytes or characters. A relative
    picture is followed from the folder, which holds the file, or without one from the folder that
    is worked in. -/
theorem looks_from_folder (fs : Files) :
    (∀ source b, source.folder? fs = some b ↔ ∃ p, ReadFrom fs source p ∧ b = p.parent) ∧
    (∀ s, (Source.text s).folder? fs = none ↔ named? fs s = .ok none) ∧
    (∀ s, (named? fs s = .ok none ∧ (Source.text s).load fs = .ok s) ∨
      ∃ p, ReadsAs fs s p ∧ (Source.text s).load fs = readFile fs p) ∧
    (∀ s f, fs.isFile (.ofText s) = .error f → named? fs s = .ok none) ∧
    (∀ content, (Source.bytes content).folder? fs = none ∧
      (Source.stream content).folder? fs = none) ∧
    (∀ s, (Source.characters s).folder? fs = none) ∧
    (∀ source p content, ReadFrom fs source p → fs.find p = .ok (.file content) → p.names ≠ [] →
      ∃ folder, source.pictureStart fs = .ok folder ∧ fs.locate p = .ok (fs.step folder p.name)) ∧
    (∀ source : Source, source.folder? fs = none → source.pictureStart fs = .ok fs.working) ∧
    ∀ (c : Conversion) source address p, c.origin = .markdown source →
      Picture.path? address = .ok (some p) → p.isAbsolute = false →
      ∃ q, Picture.locate (c.setting fs).base address = .ok (some q) ∧
        (Files.checkForm q = .ok () →
          fs.locate q = source.pictureStart fs >>= fun folder => fs.follow folder p.names) := by
  refine ⟨fun _ _ => Source.folder?_eq_some_iff, fun _ => Source.folder?_text_eq_none_iff,
    Source.load_text_cases fs, fun _ _ => Source.named?_of_refused, fun _ => ⟨rfl, rfl⟩,
    fun _ => rfl, fun _ _ _ hp => Source.exists_pictureStart hp, fun source h => ?_,
    fun _ _ _ _ horigin => exists_locate_setting fs horigin⟩
  rw [Source.pictureStart, h]

/-- A text that names a file in another folder, and one that has more bytes than any name. -/
theorem looks_from_folder_text :
    let fs : Files := { top := .folder [("docs", .folder [("a.md", .file .empty)])] }
    let c : Conversion := { origin := .markdown (.text "docs/a.md") }
    let long : String := .ofList (List.replicate 256 'a')
    ReadsAs fs "docs/a.md" (.ofText "docs/a.md") ∧
    (Source.text "docs/a.md").pictureStart fs = .ok ["docs"] ∧
    (∃ q, Picture.locate (c.setting fs).base "b.png" = .ok (some q) ∧
      (Files.checkForm q = .ok () → fs.locate q = fs.follow ["docs"] ["b.png"])) ∧
    named? fs long = .ok none ∧ (Source.text long).pictureStart fs = .ok [] := by
  intro fs c long
  obtain ⟨-, hnone, -, hrefused, -, -, hholds, hworking, hlocate⟩ := looks_from_folder fs
  have hreads : ReadsAs fs "docs/a.md" (.ofText "docs/a.md") :=
    Source.readsAs_iff.2 (by decide +kernel)
  obtain ⟨content, hfind, -⟩ := hreads.2
  obtain ⟨folder, hfolder, -⟩ := hholds _ _ content (.text hreads) hfind (by decide +kernel)
  have hdocs : (Source.text "docs/a.md").pictureStart fs = .ok ["docs"] := by decide +kernel
  obtain rfl : ["docs"] = folder := Except.ok.inj (hdocs.symm.trans hfolder)
  obtain ⟨q, hq, hform⟩ :=
    hlocate c _ "b.png" (.ofText "b.png") rfl (by decide +kernel) (by decide +kernel)
  have hnames : (Path.ofText "b.png").names = ["b.png"] := by decide +kernel
  rw [hfolder, hnames] at hform
  have hletters (ch : Char) (hch : ch ≠ 'a') : ch ∉ long.toList := by
    rw [String.toList_ofList]
    exact fun h => hch (List.eq_of_mem_replicate h)
  have hsize : Files.maxName < long.utf8ByteSize := by decide +kernel
  have hlong : fs.isFile (.ofText long) = .error Refusal.nameTooLong.fault :=
    Files.holds_eq_error_iff.2 ⟨rfl, Files.find_of_long rfl (hletters '/' (by decide))
      (hletters '\x00' (by decide)) hsize⟩
  have hmarkdown := hrefused long _ hlong
  exact ⟨hreads, hfolder, ⟨q, hq, hform⟩, hmarkdown, hworking _ ((hnone long).2 hmarkdown)⟩

end Conversion

end Manuscript
