import Mathlib.Data.String.Basic
import Manuscript.Proofs.Docx.Saving
import Manuscript.Proofs.Files.Refusal

/-!
# How writing a document fails

A document that cannot be written is reported with an error of the library, and so are styles that
cannot be listed. That is what is meant; a few faults end these tasks by themselves, and they are
all said here (`ends_with_fault_iff`):

* the operating system refuses to look for the template, as its path or a name in it is too long
  (`TemplateRefused`);
* the styles of the template cannot be read, when they are listed (`StylesBreak`);
* the file of the document has a path with a character that no path may hold, or one of its links
  leads to an address that cannot be written (`Container.LeadsAstray`). Only refusals of the
  operating system are turned into errors where a file is written.

Where a document is written to a stream, whatever goes wrong there becomes an error.
-/

namespace Manuscript

namespace Docx

/-! ## Addresses -/

namespace Container

/-- A relationship in a container leads to an address outside that cannot be written. -/
def LeadsAstray (c : Container) : Prop :=
  ∃ address, (Reaches c.relationships address ∨ ∃ p ∈ c.parts, Reaches p.relationships address) ∧
    ∃ ch ∈ address.toList, Xml.isAllowed ch = false

/-- A text can be written if all its characters are allowed. -/
theorem exists_checked_iff {s : String} :
    (∃ t, Xml.checked s = .ok t) ↔ ∀ c ∈ s.toList, Xml.isAllowed c = true := by
  rw [Xml.checked, ← List.all_eq_true]
  split
  case isTrue hall => exact iff_of_true ⟨s, rfl⟩ hall
  case isFalse hall => exact iff_of_false nofun hall

/-- A container can be put into bytes if no address in it leads astray. -/
theorem exists_bytes_iff_not_leadsAstray {c : Container} :
    (∃ bs, c.bytes = .ok bs) ↔ ¬ c.LeadsAstray := by
  simp only [exists_bytes_iff, Writable, exists_checked_iff, LeadsAstray]
  constructor
  · rintro ⟨houter, hparts⟩ ⟨address, hreach | ⟨p, hp, hreach⟩, ch, hch, hnot⟩
    · exact absurd (houter address hreach ch hch) (by simp [hnot])
    · exact absurd (hparts p hp address hreach ch hch) (by simp [hnot])
  · intro h
    refine ⟨fun address hreach ch hch => ?_, fun p hp address hreach ch hch => ?_⟩
    · by_contra hnot
      exact h ⟨address, .inl hreach, ch, hch, by simpa using hnot⟩
    · by_contra hnot
      exact h ⟨address, .inr ⟨p, hp, hreach⟩, ch, hch, by simpa using hnot⟩

/-- Relationships are refused for an address that cannot be written, and for nothing else. -/
theorem eq_unwritable_of_relationshipsTree {folder : List String} {rs : List Relationship}
    {f : Fault} (h : relationshipsTree folder rs = .error f) : f = Xml.unwritable := by
  rw [relationshipsTree] at h
  obtain h | ⟨entries, -, h⟩ := bind_eq_error_iff.1 h
  · obtain ⟨r, -, h⟩ := exists_of_mapM_eq_error h
    cases htarget : r.target with
    | part name =>
      rw [htarget] at h
      cases h
    | external address =>
      rw [htarget] at h
      obtain h | ⟨t, -, h⟩ := bind_eq_error_iff.1 h
      · rw [Xml.checked] at h
        split at h <;> cases h
        rfl
      · cases h
  · cases h

/-- A part is refused for an address that cannot be written, and for nothing else. -/
theorem eq_unwritable_of_filesOf {p : Part} {f : Fault} (h : filesOf p = .error f) :
    f = Xml.unwritable := by
  rw [filesOf] at h
  split at h
  · cases h
  · obtain h | ⟨tree, -, h⟩ := bind_eq_error_iff.1 h
    · exact eq_unwritable_of_relationshipsTree h
    · cases h

/-- A container cannot be put into bytes if an address in it cannot be written, and for no other
    reason. -/
theorem bytes_eq_error_iff {c : Container} {f : Fault} :
    c.bytes = .error f ↔ f = Xml.unwritable ∧ c.LeadsAstray := by
  -- Every way that writing a container goes wrong is the same one.
  have hcause {f : Fault} (h : c.bytes = .error f) : f = Xml.unwritable := by
    rw [bytes] at h
    obtain h | ⟨tree, -, h⟩ := bind_eq_error_iff.1 h
    · exact eq_unwritable_of_relationshipsTree h
    · obtain h | ⟨files, -, h⟩ := bind_eq_error_iff.1 h
      · obtain ⟨p, -, h⟩ := exists_of_mapM_eq_error h
        exact eq_unwritable_of_filesOf h
      · cases h
  have hiff := exists_bytes_iff_not_leadsAstray (c := c)
  cases hbytes : c.bytes with
  | ok bs => exact iff_of_false (by simp) fun h => hiff.1 ⟨bs, hbytes⟩ h.2
  | error f' =>
    have hastray : c.LeadsAstray := by
      by_contra h
      obtain ⟨bs, hbs⟩ := hiff.2 h
      rw [hbytes] at hbs
      cases hbs
    rw [hcause hbytes, Except.error.injEq, eq_comm]
    exact (and_iff_left hastray).symm

end Container

/-! ## Templates -/

/-- The operating system refuses to look for the template, as its path or a name in it is too
    long. -/
def TemplateRefused (fs : Files) (o : DocxOptions) (f : Fault) : Prop :=
  f = Refusal.nameTooLong.fault ∧ ∃ path, o.templatePath = some path ∧ path ≠ "" ∧
    fs.find (.ofText path) = .error .nameTooLong

/-- A template is refused if its name is longer than that of any file. -/
theorem templateRefused_of_long {fs : Files} {o : DocxOptions} {name : String}
    {entries : List (String × Entry)} (hworking : fs.top.get? fs.working = some (.folder entries))
    (ho : o.templatePath = some name) (hslash : '/' ∉ name.toList) (hnul : '\x00' ∉ name.toList)
    (hlong : Files.maxName < name.utf8ByteSize) :
    TemplateRefused fs o Refusal.nameTooLong.fault := by
  refine ⟨rfl, name, ho, ?_, Files.find_of_long hworking hslash hnul hlong⟩
  rintro rfl
  exact absurd hlong (by decide)

/-- The styles of a template cannot be read, or what they are called cannot be. -/
def StylesBreak (fs : Files) (o : DocxOptions) (f : Fault) : Prop :=
  ∃ c main, openTemplate fs o = .ok (c, main) ∧
    (stylesOf c main = .error f ∨
      ∃ found, stylesOf c main = .ok found ∧ found.1.paragraphNames = .error f)

theorem exists_main_standard : ∃ p, Container.standard.main = .ok p :=
  ⟨_, rfl⟩

/-- Opening a template ends with a fault only where the look for it does. -/
theorem openTemplate_eq_fault_iff {fs : Files} {o : DocxOptions} {f : Fault} :
    openTemplate fs o = .error (.fault f) ↔ TemplateRefused fs o f := by
  have hnamed (path : String) : o.templatePath.filter (!·.isEmpty) = some path ↔
      o.templatePath = some path ∧ path ≠ "" := by
    simp [Option.filter_eq_some_iff]
  rw [openTemplate]
  cases hfilter : o.templatePath.filter (!·.isEmpty) with
  | none =>
    obtain ⟨p, hp⟩ := exists_main_standard
    dsimp only
    rw [hp]
    refine iff_of_false (by simp [Except.map, Except.mapError]) ?_
    rintro ⟨-, path, hpath, hempty, -⟩
    rw [(hnamed path).2 ⟨hpath, hempty⟩] at hfilter
    cases hfilter
  | some path =>
    obtain ⟨hpath, hempty⟩ := (hnamed path).1 hfilter
    -- A fault comes from asking whether the file is there; all that follows is caught.
    have hrefused : TemplateRefused fs o f ↔ fs.isFile (.ofText path) = .error f := by
      rw [Files.isFile, Files.holds_eq_error_iff, TemplateRefused, hpath]
      simp [hempty]
    rw [hrefused]
    dsimp only
    cases fs.isFile (.ofText path) with
    | error f' => simp [Except.mapError, bind, Except.bind]
    | ok found =>
      refine iff_of_false (fun h => ?_) (by simp)
      cases found with
      | false => cases h
      | true =>
        obtain h | ⟨-, -, h⟩ := bind_eq_error_iff.1 h
        · cases h
        · split at h <;> cases h

/-- The styles that are available are those of the template that is opened. -/
theorem availableStyles_of_openTemplate {fs : Files} {o : DocxOptions} {c : Container}
    {main : Part} (h : openTemplate fs o = .ok (c, main)) :
    availableStyles fs o =
      (stylesOf c main >>= fun found => found.1.paragraphNames).mapError .fault := by
  rw [availableStyles, templateStyles, h]
  change ((stylesOf c main).mapError Failure.fault >>= fun found => pure found.1) >>= _ = _
  cases stylesOf c main <;> rfl

/-- Listing styles ends with a fault because of the look for the template, or of its styles. -/
theorem availableStyles_eq_fault_iff {fs : Files} {o : DocxOptions} {f : Fault} :
    availableStyles fs o = .error (.fault f) ↔ TemplateRefused fs o f ∨ StylesBreak fs o f := by
  rw [← openTemplate_eq_fault_iff, StylesBreak]
  cases hopen : openTemplate fs o with
  | error e => simp [availableStyles, templateStyles, hopen, bind, Except.bind]
  | ok opened =>
    obtain ⟨c, main⟩ := opened
    rw [availableStyles_of_openTemplate hopen, mapError_fault_eq_iff, bind_eq_error_iff]
    constructor
    · exact fun h => .inr ⟨c, main, rfl, h⟩
    · rintro (h | ⟨c', main', heq, h⟩)
      · cases h
      · cases heq
        exact h

/-! ## Outputs -/

/-- Writes a laid out document to a stream, which takes its bytes or refuses them. -/
def toStream (s : Setting) (document : Layout.Document) (put : ByteArray → Except Fault α) :
    Job α := do
  let container ← build s document
  explaining (Job.ofFault (container.bytes >>= put))
    (stageError "save" "Failed to write DOCX stream: ")

/-- The bytes of a document are what is written to a stream that takes them. -/
theorem toBytes_eq_toStream (s : Setting) (document : Layout.Document) :
    toBytes s document = toStream s document .ok := by
  rw [toBytes, toStream]
  refine congrArg (build s document >>= ·) (funext fun c => ?_)
  cases c.bytes <;> rfl

variable {s : Setting} {document : Layout.Document}

/-- Building a container ends with a fault only because of the look for the template. -/
theorem mayFail_build {f : Fault} (h : (build s document).MayFail (.fault f)) :
    TemplateRefused s.files s.options f := by
  rw [← openTemplate_eq_fault_iff, ← Job.mayFail_of]
  obtain h | ⟨made, -, h⟩ := h.of_bind
  · obtain h | ⟨opened, -, h⟩ := h.of_bind
    · exact h
    · exact absurd h (not_mayFail_explaining _ _ f)
  · exact absurd h (not_mayFail_explaining _ _ f)

/-- A look for the template that ends with a fault ends the building, whatever was recorded. -/
theorem fails_build {f : Fault} (h : TemplateRefused s.files s.options f) :
    (build s document).Fails (.fault f) :=
  ((Job.fails_of (openTemplate_eq_fault_iff.2 h)).bind _).bind _

/-- Writing to a stream ends with the faults of building and no others. -/
theorem toStream_eq_fault_iff {put : ByteArray → Except Fault α} {f : Fault} :
    (toStream s document put).result.1 = .error (.fault f) ↔
      TemplateRefused s.files s.options f := by
  constructor
  · intro h
    obtain h | ⟨c, -, h⟩ := (Job.mayFail_of_result_eq h).of_bind
    · exact mayFail_build h
    · exact absurd h (not_mayFail_explaining _ _ f)
  · exact fun h => ((fails_build h).bind _).result_eq

/-- Of the refusals of a place, one stays a fault: that of a name that no path may hold. -/
theorem mayFail_placed {path : String} {r : Except Refusal α} {f : Fault} :
    (placed path r).MayFail (.fault f) ↔ f = Refusal.badName.fault ∧ r = .error .badName := by
  cases r with
  | ok a => exact iff_of_false (Job.not_mayFail_pure a _) nofun
  | error r =>
    cases r with
    | badName => exact Job.mayFail_throw.trans (by simp [eq_comm])
    | _ => exact iff_of_false (fun h => nomatch Job.mayFail_throw.1 h) nofun

theorem fails_placed {path : String} :
    (placed path (.error .badName : Except Refusal α)).Fails (.fault Refusal.badName.fault) :=
  Job.fails_throw _

/-- Writing to a file ends with the faults of building, of the path, and of addresses that cannot be
    written. -/
theorem toFile_eq_fault_iff {path : String} {f : Fault} :
    (toFile s document path).result.1 = .error (.fault f) ↔
      TemplateRefused s.files s.options f ∨ ∃ c, (build s document).Gives c ∧
        (f = Refusal.badName.fault ∧ '\x00' ∈ path.toList ∨
          f = Xml.unwritable ∧ HasPlace s.files path ∧ c.LeadsAstray) := by
  rw [toFile]
  constructor
  · intro h
    obtain h | ⟨c, hbuild, h⟩ := (Job.mayFail_of_result_eq h).of_bind
    · exact .inl (mayFail_build h)
    -- The document is built, so what is left to fail is its place and its bytes.
    obtain ⟨nss, d, hwritten, hfinish⟩ := mayGive_build hbuild
    refine .inr ⟨c, gives_build hwritten hfinish, ?_⟩
    obtain h | ⟨place, hplaced, h⟩ := h.of_bind
    · obtain ⟨hf, htarget⟩ := mayFail_placed.1 h
      exact .inl ⟨hf, Files.target_eq_badName_iff.1 htarget⟩
    have hplace := mayGive_placed.1 hplaced
    dsimp only at h
    split at h
    case isTrue hname =>
      obtain h | ⟨_, hnone, -⟩ := h.of_bind
      · cases (mayFail_placed.1 h).2
      · cases mayGive_placed.1 hnone
    case isFalse hname =>
      obtain h | ⟨bs, -, h⟩ := h.of_bind
      · obtain ⟨hf, hastray⟩ := Container.bytes_eq_error_iff.1 (Job.mayFail_ofFault.1 h)
        exact .inr ⟨hf, ⟨by simpa using hname, place, hplace⟩, hastray⟩
      -- There is a place for the file, so writing it may break off, which is no fault.
      · obtain h | ⟨fs', -, h⟩ := h.of_bind
        · rw [Files.write_eq_badName_iff.1 (mayFail_placed.1 h).2] at hplace
          cases hplace
        · obtain h | ⟨-, -, h⟩ := h.of_bind
          · exact absurd h (Job.not_mayFail_record _ _ _ _)
          · exact absurd h (Job.not_mayFail_pure _ _)
  · rintro (h | ⟨c, hbuild, ⟨rfl, hnul⟩ | ⟨rfl, ⟨hname, place, hplace⟩, hastray⟩⟩)
    · exact ((fails_build h).bind _).result_eq
    · refine (hbuild.bind_fails ?_).result_eq
      rw [Files.target_eq_badName_iff.2 hnul]
      exact fails_placed.bind _
    · refine (hbuild.bind_fails ?_).result_eq
      rw [hplace]
      refine (Job.gives_pure place).bind_fails ?_
      dsimp only
      rw [if_neg (by simp [hname])]
      exact (Job.fails_ofFault (Container.bytes_eq_error_iff.2 ⟨rfl, hastray⟩)).bind _

/-- Listing the styles of a template and writing a document end with a fault in these cases, and
    with an error of the library whenever else they fail. -/
theorem ends_with_fault_iff (s : Setting) (document : Layout.Document) (f : Fault) :
    (availableStyles s.files s.options = .error (.fault f) ↔
      TemplateRefused s.files s.options f ∨ StylesBreak s.files s.options f) ∧
    (∀ (α : Type) (put : ByteArray → Except Fault α),
      (toStream s document put).result.1 = .error (.fault f) ↔
        TemplateRefused s.files s.options f) ∧
    ((toBytes s document).result.1 = .error (.fault f) ↔ TemplateRefused s.files s.options f) ∧
    ∀ path, (toFile s document path).result.1 = .error (.fault f) ↔
      TemplateRefused s.files s.options f ∨ ∃ c, (build s document).Gives c ∧
        (f = Refusal.badName.fault ∧ '\x00' ∈ path.toList ∨
          f = Xml.unwritable ∧ HasPlace s.files path ∧ c.LeadsAstray) := by
  refine ⟨availableStyles_eq_fault_iff, fun α put => toStream_eq_fault_iff, ?_,
    fun path => toFile_eq_fault_iff⟩
  rw [toBytes_eq_toStream]
  exact toStream_eq_fault_iff

/-- Options with a template whose name is longer than that of any file. -/
def longTemplate : DocxOptions :=
  { templatePath := some (.ofList (List.replicate 256 'a')) }

/-- The template cannot be looked for, and neither listing nor writing reports that as an error. -/
theorem ends_with_fault_longTemplate :
    let s : Setting := { options := longTemplate }
    availableStyles s.files s.options = .error (.fault Refusal.nameTooLong.fault) ∧
      (toBytes s {}).result.1 = .error (.fault Refusal.nameTooLong.fault) ∧
      (toFile s {} "out.docx").result.1 = .error (.fault Refusal.nameTooLong.fault) := by
  have hletters (c : Char) (hc : c ≠ 'a') :
      c ∉ (String.ofList (List.replicate 256 'a')).toList := by
    rw [String.toList_ofList]
    exact fun h => hc (List.eq_of_mem_replicate h)
  have hlong : Files.maxName < (String.ofList (List.replicate 256 'a')).utf8ByteSize := by
    rw [String.utf8ByteSize_ofList]
    decide +kernel
  have hrefused : TemplateRefused {} longTemplate Refusal.nameTooLong.fault :=
    templateRefused_of_long rfl rfl (hletters '/' (by decide)) (hletters '\x00' (by decide)) hlong
  obtain ⟨hstyles, -, hbytes, hfile⟩ :=
    ends_with_fault_iff { options := longTemplate } {} Refusal.nameTooLong.fault
  exact ⟨hstyles.2 (.inl hrefused), hbytes.2 hrefused, (hfile "out.docx").2 (.inl hrefused)⟩

end Docx

end Manuscript
