import Manuscript.CommandLine
import Manuscript.Proofs.Docx.Standard
import Manuscript.Proofs.Files.Change
import Manuscript.Proofs.Files.Refusal
import Manuscript.Proofs.Files.Spelling
import Manuscript.Proofs.Source.Outcome

/-!
# What a run changes

A run of the command line without a journal file writes one file, its output, and that only if it
ends with the code zero or writing breaks off (`run_touches_output`). All else that it may leave
behind are new folders on the way to the output. The document that it reads is at another place than
the output, however the two are spelled, and also where links lead to one of them. Two names of one
file are two places, though: then the document is written over (`run_loses_document`).

* `reads_of_paths`: what is known of the document and the output before anything is changed;
* `code_of_ended`: the code is zero if something was written, and another one if not;
* `converts_convert`: a conversion that fails has created folders at most, or broke off writing, and
  one that succeeds has written the bytes of the document.
-/

namespace Manuscript

namespace Error

/-- No error is taken for success. -/
theorem exitCode_ne_zero (e : Error) : e.exitCode ≠ 0 := by
  rw [exitCode]
  cases e.kind.family <;> decide

end Error

namespace Conversion

/-- What is written into a file are the bytes that the same conversion gives. -/
theorem write_of_toFile {c : Conversion} {fs fs' : Files} {path : String}
    (h : (c.toFile fs path).result.1 = .ok fs') :
    ∃ bs, (c.toBytes fs).result.1 = .ok bs ∧ fs.write (.ofText path) bs = .ok fs' := by
  obtain ⟨document, hlayout, h⟩ := Job.result_of_bind h
  obtain ⟨bs, hbytes, hwrite⟩ := Docx.write_of_toFile h
  exact ⟨bs, Job.result_bind_of_gives hlayout hbytes, hwrite⟩

/-- A conversion that fails leaves the files as they are, unless writing its bytes broke off. -/
theorem leftBehind_cases (c : Conversion) (fs : Files) (p : Path) :
    c.leftBehind fs p = fs ∨ ∃ (bs : ByteArray) (b : Break) (left : ByteArray),
      (c.toBytes fs).result.1 = .ok bs ∧ fs.write p bs = .error b.refusal ∧ b.left = some left ∧
      fs.Keeps (fs.own (fs.resolve p)) left (c.leftBehind fs p) := by
  rw [leftBehind]
  split
  · rename_i bs hbytes
    obtain heq | ⟨b, left, hwrite, hleft, hkeeps⟩ := fs.afterRefusal_cases p
    · exact .inl heq
    · exact .inr ⟨bs, b, left, hbytes, hwrite bs, hleft, hkeeps⟩
  · exact .inl rfl

end Conversion

namespace CommandLine

variable {w : World} {a : Arguments}

/-! ## Sources and outputs -/

/-- The path of the output: the one that is given, or that of the document with another suffix. -/
def outputPath (a : Arguments) : Path :=
  match a.output.filter (!·.isEmpty) with
  | some o => .ofText o
  | none => (Path.ofText a.input).withSuffix ".docx"

theorem isRegular_outputPath (a : Arguments) : (outputPath a).IsRegular := by
  rw [outputPath]
  split
  · exact Path.isRegular_ofText _
  · exact Path.isRegular_withSuffix (Path.isRegular_ofText a.input) (by decide) (by decide)

/-- Where a document is read: from the standard input, or from a file that is there and that is at
    another place than the output. -/
inductive Reads (w : World) (a : Arguments) : Source → Prop
  | input (h : a.input = standardInput) : Reads w a (.bytes w.input)
  | file {content : ByteArray} (h : a.input ≠ standardInput)
    (hfile : w.files.item? (w.files.resolve (.ofText a.input)) = some (.file content))
    (hother : w.files.resolve (.ofText a.input) ≠ w.files.resolve (outputPath a)) :
    Reads w a (.path (.ofText a.input))

theorem resolve_of_goal {fs : Files} {p : Path} {place : List String}
    (h : (fs.goal p).mapError Failure.fault = .ok place) : fs.resolve p = place := by
  rw [Files.goal] at h
  split at h <;> cases h
  rfl

theorem reads_of_paths {source : Source} {path : Path} (h : paths w a = .ok (source, path)) :
    path = outputPath a ∧ Reads w a source := by
  rw [paths] at h
  dsimp only at h
  split at h
  · rename_i hinput
    split at h
    · cases h
    · rename_i o ho
      cases h
      refine ⟨?_, .input hinput⟩
      rw [outputPath, ho]
  · rename_i hinput
    obtain ⟨found, hfound, h⟩ := ok_of_bind h
    split at h
    · cases h
    · rename_i hthere
      obtain ⟨output, houtput, h⟩ := ok_of_bind h
      obtain ⟨input, hin, h⟩ := ok_of_bind h
      split at h
      · cases h
      · rename_i hne
        cases h
        refine ⟨rfl, ?_⟩
        -- Looking for the document has ended well, so there is a file.
        have hfile : w.files.isFile (.ofText a.input) = .ok true := by
          cases hisFile : w.files.isFile (.ofText a.input) with
          | error f => rw [hisFile] at hfound; cases hfound
          | ok there =>
            rw [hisFile] at hfound
            cases hfound
            simpa using hthere
        obtain ⟨content, hfind⟩ := Files.isFile_eq_true_iff.1 hfile
        refine .file hinput (Files.item?_of_find hfind) ?_
        rw [resolve_of_goal hin]
        exact fun heq => hne ((resolve_of_goal houtput).symm.trans heq.symm)

theorem prepare_cases {c : Conversion} {path : Path} (h : prepare w a = .ok (c, path)) :
    path = outputPath a ∧ ∃ source markdown docx, Reads w a source ∧
      options w a = .ok (markdown, docx) ∧
        c = { origin := .markdown source, readers := w.readers, markdown, docx } := by
  obtain ⟨⟨markdown, docx⟩, hoptions, h⟩ := ok_of_bind h
  obtain ⟨⟨source, output⟩, hpaths, h⟩ := ok_of_bind h
  cases h
  obtain ⟨houtput, hreads⟩ := reads_of_paths hpaths
  exact ⟨houtput, source, markdown, docx, hreads, hoptions, rfl⟩

/-! ## Stages of a run -/

/-- The folders on the way to the output are all that is made before it is written. -/
theorem grows_makeWay (fs : Files) (p : Path) :
    fs.Grows (fs.LiesOnWay p.parent) (makeWay fs p).1 := by
  rw [makeWay]
  split
  · exact .refl _ fs
  · exact fs.grows_ensureFolders p.parent

/-- The code is zero if something was written, and another one if not. -/
theorem code_of_ended {fs fs' : Files} {result : Except Failure (Files × Path)} {last : Message}
    {code : Nat} (h : ended fs result = .ok (fs', last, code)) :
    (code = 0 ∧ ∃ path, result = .ok (fs', path)) ∨
      (code ≠ 0 ∧ fs' = fs ∧ ∃ f, result = .error f) := by
  unfold ended at h
  split at h
  · rename_i path
    cases h
    exact .inl ⟨rfl, path, rfl⟩
  · rename_i e
    cases h
    exact .inr ⟨e.exitCode_ne_zero, rfl, _, rfl⟩
  · cases h
    exact .inr ⟨by decide, rfl, _, rfl⟩
  · cases h

/-- The place where the output is written. -/
def outputPlace (w : World) (a : Arguments) : List String :=
  w.files.own (w.files.resolve (outputPath a))

/-- The files are new folders on the way to the output apart as they were, but for a content that was
    kept at the place of the output. -/
def Leaves (w : World) (a : Arguments) (content : ByteArray) (fs : Files) : Prop :=
  w.files.Leaves (w.files.LiesOnWay (outputPath a).parent) (outputPlace w a) content fs

/-- The bytes of the document that a run reads and lays out, and the files at that moment: folders on
    the way to the output have been created. -/
def Composes (w : World) (a : Arguments) (made : Files) (bs : ByteArray) : Prop :=
  ∃ source markdown docx, Reads w a source ∧ options w a = .ok (markdown, docx) ∧
    makeWay w.files (outputPath a) = (made, .ok ()) ∧
    (Conversion.toBytes { origin := .markdown source, readers := w.readers, markdown, docx }
      made).result.1 = .ok bs

/-- A run that converts a document has failed and has left nothing but new folders on the way to the
    output, or it broke off writing the bytes of the document there, or it has written them. -/
inductive Converts (w : World) (a : Arguments) : Files → Nat → Prop
  | failed {fs : Files} {code : Nat} (hcode : code ≠ 0)
    (hgrows : w.files.Grows (w.files.LiesOnWay (outputPath a).parent) fs) : Converts w a fs code
  | brokeOff {made fs : Files} {bs left : ByteArray} {b : Break} {code : Nat} (hcode : code ≠ 0)
    (hcomposes : Composes w a made bs) (hwrite : made.write (outputPath a) bs = .error b.refusal)
    (hleft : b.left = some left) (hleaves : Leaves w a left fs) : Converts w a fs code
  | written {made fs : Files} {bs : ByteArray} (hcomposes : Composes w a made bs)
    (hleaves : Leaves w a bs fs) : Converts w a fs 0

theorem leaves_of_keeps {made fs : Files} {content : ByteArray}
    (hmade : makeWay w.files (outputPath a) = (made, .ok ()))
    (h : made.Keeps (made.own (made.resolve (outputPath a))) content fs) :
    Leaves w a content fs := by
  have hgrows := grows_makeWay w.files (outputPath a)
  rw [hmade] at hgrows
  rw [hgrows.resolve_eq, hgrows.own_eq] at h
  exact hgrows.leaves h

theorem converts_convert {fs : Files} {last : Message} {code : Nat}
    (h : (convert w a).1 = .ok (fs, last, code)) : Converts w a fs code := by
  rw [convert] at h
  split at h
  · -- ⟨hcode, rfl, -⟩ := code_of_ended h | The arguments are refused before anything is changed.
    obtain ⟨-, _, hnone⟩ | ⟨hcode, rfl, -⟩ := code_of_ended h
    · cases hnone
    · exact .failed hcode (.refl _ w.files)
  · rename_i c path hprepare
    obtain ⟨rfl, source, markdown, docx, hreads, hoptions, rfl⟩ := prepare_cases hprepare
    have hgrows := grows_makeWay w.files (outputPath a)
    split at h
    · -- A folder on the way to the output is refused: those before it have been created.
      rename_i made f hmade
      rw [hmade] at hgrows
      obtain ⟨-, _, hnone⟩ | ⟨hcode, rfl, -⟩ := code_of_ended h
      · cases hnone
      · exact .failed hcode hgrows
    · rename_i made hmade
      rw [hmade] at hgrows
      split at h <;> dsimp only at h
      · -- The document is written, into the files that have its folders.
        rename_i fs' records hresult
        obtain ⟨rfl, path, hfile⟩ | ⟨-, -, f, hnone⟩ := code_of_ended h
        · cases hfile
          obtain ⟨bs, hbytes, hwrite⟩ := Conversion.write_of_toFile (congrArg Prod.fst hresult)
          rw [Path.ofText_text (isRegular_outputPath a)] at hwrite
          exact .written ⟨source, markdown, docx, hreads, hoptions, hmade, hbytes⟩
            (leaves_of_keeps hmade (Files.keeps_of_write hwrite))
        · cases hnone
      · obtain ⟨-, _, hnone⟩ | ⟨hcode, rfl, -⟩ := code_of_ended h
        · cases hnone
        · obtain heq | ⟨bs, b, left, hbytes, hwrite, hleft, hkeeps⟩ :=
            Conversion.leftBehind_cases _ made (outputPath a)
          · rw [heq]
            exact .failed hcode hgrows
          · exact .brokeOff hcode ⟨source, markdown, docx, hreads, hoptions, hmade, hbytes⟩ hwrite
              hleft (leaves_of_keeps hmade hkeeps)

/-- Without a file for its journal, a run leaves the files as its conversion does. -/
theorem convert_of_runWith {o : Outcome} (hlog : a.logFile = none) (h : runWith w a = .ok o) :
    ∃ last, (convert w a).1 = .ok (o.files, last, o.code) := by
  rw [runWith, hlog] at h
  obtain ⟨started, hstart, h⟩ := ok_of_bind h
  cases hstart
  dsimp only at h
  obtain ⟨⟨fs, last, code⟩, hconvert, h⟩ := ok_of_bind h
  cases h
  exact ⟨last, hconvert⟩

/-! ## Whole runs -/

/-- A run has left the bytes of its document at the place of the output, unless a device is there. No
    other file is new or has another content, but for further names of the output. The document was
    not read from the output, but it may have been read from a further name of it. -/
structure Delivers (w : World) (a : Arguments) (fs : Files) : Prop where
  written : ∃ made bs, Composes w a made bs ∧ Leaves w a bs fs
  files : ∀ place, w.files.own place ≠ outputPlace w a → ∀ content,
    fs.item? place = some (.file content) ↔ w.files.item? place = some (.file content)
  input : a.input ≠ standardInput →
    w.files.resolve (.ofText a.input) ≠ w.files.resolve (outputPath a) ∧
      ∃ content, w.files.item? (w.files.resolve (.ofText a.input)) = some (.file content) ∧
        (w.files.own (w.files.resolve (.ofText a.input)) ≠ outputPlace w a →
          fs.item? (w.files.resolve (.ofText a.input)) = some (.file content))

/-- A run has broken off writing the bytes of its document, and what is left of them is at the place
    of the output, unless a device is there. No other file is new or has another content, but for
    further names of the output. -/
structure BreaksOff (w : World) (a : Arguments) (fs : Files) : Prop where
  left : ∃ (made : Files) (bs : ByteArray) (b : Break) (left : ByteArray), Composes w a made bs ∧
    made.write (outputPath a) bs = .error b.refusal ∧ b.left = some left ∧ Leaves w a left fs
  files : ∀ place, w.files.own place ≠ outputPlace w a → ∀ content,
    fs.item? place = some (.file content) ↔ w.files.item? place = some (.file content)

theorem Converts.delivers {fs : Files} (h : Converts w a fs 0) : Delivers w a fs := by
  generalize hcode : (0 : Nat) = code at h
  cases h with
  | failed hne _ => exact absurd hcode.symm hne
  | brokeOff hne _ _ _ _ => exact absurd hcode.symm hne
  | @written made _ bs hcomposes hleaves =>
    refine ⟨⟨made, bs, hcomposes, hleaves⟩, fun _ hplace => hleaves.item?_file_iff hplace,
      fun hinput => ?_⟩
    obtain ⟨source, -, -, hreads, -, -, -⟩ := hcomposes
    cases hreads with
    | input h => exact absurd h hinput
    | file _ hfile hother =>
      exact ⟨hother, _, hfile, fun hplace => (hleaves.item?_file_iff hplace _).2 hfile⟩

/-- A run that is accepted and adds to no journal file changes no file but its output. If it ends
    with another code than zero, every file is as before, and all that may be new are folders on the
    way to the output; only if writing the document broke off, what is left of it is at the place of
    the output. If it ends with zero, the document is there, unless that is a device, no other file
    has changed but for further names of the same file, and the document was read from another place,
    however the two paths are spelled and wherever links lead. -/
theorem run_touches_output {texts : List String} {o : Outcome}
    (hread : Arguments.read texts = .ok a) (hlog : a.logFile = none) (hrun : run w texts = .ok o) :
    (o.code ≠ 0 →
      ((∀ place content,
        o.files.item? place = some (.file content) ↔ w.files.item? place = some (.file content)) ∧
      w.files.Grows (w.files.LiesOnWay (outputPath a).parent) o.files) ∨ BreaksOff w a o.files) ∧
    (o.code = 0 → Delivers w a o.files) := by
  rw [run, hread] at hrun
  obtain ⟨last, hconvert⟩ := convert_of_runWith hlog hrun
  have hconverts := converts_convert hconvert
  constructor
  · generalize o.code = code at hconverts
    intro hcode
    cases hconverts with
    | failed _ hgrows => exact .inl ⟨hgrows.item?_file_iff, hgrows⟩
    | brokeOff _ hcomposes hwrite hleft hleaves =>
      exact .inr ⟨⟨_, _, _, _, hcomposes, hwrite, hleft, hleaves⟩,
        fun _ hplace => hleaves.item?_file_iff hplace⟩
    | written => exact absurd rfl hcode
  · intro hcode
    rw [hcode] at hconverts
    exact hconverts.delivers

/-- An output that is a link to the document itself, and is spelled by way of a folder that is not
    there. -/
theorem run_touches_output_respelled :
    let w : World := { files := {
      top := .folder [("work", .folder [("doc.md", .file ⟨#[0x78]⟩),
        ("out.docx", .link ["work", "doc.md"])])]
      working := ["work"] } }
    let a : Arguments := { input := "doc.md", output := some "missing/../out.docx" }
    let texts := ["doc.md", "-o", "missing/../out.docx"]
    (Arguments.read texts = .ok a ∧ a.logFile = none) ∧
    ∃ o, (run w texts = .ok o ∧ o.code = 3) ∧
      (((∀ place content,
        o.files.item? place = some (.file content) ↔ w.files.item? place = some (.file content)) ∧
      w.files.Grows (w.files.LiesOnWay (outputPath a).parent) o.files) ∨ BreaksOff w a o.files) := by
  intro w a texts
  have hread : Arguments.read texts = .ok a := by decide +kernel
  have hcode : (run w texts).map (·.code) = .ok 3 := by decide +kernel
  cases hrun : run w texts with
  | error f =>
    rw [hrun] at hcode
    cases hcode
  | ok o =>
    rw [hrun] at hcode
    have hcode : o.code = 3 := Except.ok.inj hcode
    obtain ⟨hfailed, -⟩ := run_touches_output hread rfl hrun
    exact ⟨⟨hread, rfl⟩, o, ⟨rfl, hcode⟩, hfailed (by simp [hcode])⟩

/-- A run whose conversion writes the output ends with the code zero, with the files that are
    written. -/
theorem exists_run_of_toFile {texts : List String} {c : Conversion} {path : Path} {made fs : Files}
    (hread : Arguments.read texts = .ok a) (hlog : a.logFile = none)
    (hprepare : prepare w a = .ok (c, path)) (hmade : makeWay w.files path = (made, .ok ()))
    (hfile : (c.toFile made path.text).result.1 = .ok fs) :
    ∃ o, run w texts = .ok o ∧ o.code = 0 ∧ o.files = fs := by
  have hresult : (c.toFile made path.text).result =
      (.ok fs, (c.toFile made path.text).result.2) := Prod.ext hfile rfl
  have hconvert : convert w a =
      (.ok (fs, "Wrote " ++ path.text, 0), (c.toFile made path.text).result.2) := by
    rw [convert, hprepare]
    dsimp only
    rw [hmade]
    dsimp only
    rw [hresult]
    rfl
  -- Without a file, the journal starts and changes nothing.
  have hstart : (journal a).start w.files w.time a.logFile =
      .ok { journal := journal a, files := w.files } := by
    rw [hlog]
    rfl
  rw [run, hread]
  dsimp only
  rw [runWith, hstart]
  simp only [Except.mapError, bind, Except.bind, hconvert]
  exact ⟨_, rfl, rfl, rfl⟩

/-! ## Outputs that lose the document -/

/-- A file without content is laid out as a document without blocks. -/
theorem exists_toFile_blank {fs : Files} {p : Path} {path : String}
    (hopen : fs.Opens p .empty) (htakes : Docx.TakesAll fs path) :
    ∃ fs', (Conversion.toFile { origin := .markdown (.path p) } fs path).result.1 = .ok fs' := by
  have hload : (Source.path p).load fs = .ok "" := by
    rw [Source.load, Source.readFile_of_opens hopen]
    rfl
  have htree : (Conversion.tree { origin := .markdown (.path p) } fs).result.1 =
      .ok (.document [] []) := by
    change ((Source.path p).document {} fs {}).result.1 = _
    rw [Source.result_document_of_ok hload]
    rfl
  obtain ⟨names, hnames⟩ := Docx.exists_availableStyles_standard fs
  have hlayout : ∃ document, (Conversion.layout { origin := .markdown (.path p) } fs).result.1 =
      .ok document ∧ document.blocks = [] ∧ document.metadata = [] := by
    refine ⟨_, Job.result_bind_of_gives htree
      ((Job.gives_of_ok hnames).bind (Job.gives_pure _)), rfl, rfl⟩
  obtain ⟨document, hlayout, hblocks, hmetadata⟩ := hlayout
  have hsaves : Docx.Saves (Conversion.setting { origin := .markdown (.path p) } fs) document := by
    refine Docx.saves_of_leads_standard rfl hmetadata fun d _ => ⟨[], ?_⟩
    rw [hblocks]
    exact Docx.leads_pure [] d
  obtain ⟨fs', hfs'⟩ := Docx.gives_toFile hsaves htakes
  exact ⟨fs', Job.result_bind_of_gives hlayout hfs'⟩

/-- A file without content is written as a document that has some, if there is a place for that. -/
theorem exists_run_blank {texts : List String} {p : Path}
    (hread : Arguments.read texts = .ok a) (hlog : a.logFile = none) (hreaders : w.readers = {})
    (hoptions : options w a = .ok ({}, {})) (hpaths : paths w a = .ok (.path p, outputPath a))
    (hopen : w.files.Opens p .empty)
    (hmade : makeWay w.files (outputPath a) = (w.files, .ok ()))
    (htakes : Docx.TakesAll w.files (outputPath a).text) :
    ∃ o bs, run w texts = .ok o ∧ o.code = 0 ∧ bs ≠ .empty ∧
      w.files.Keeps (outputPlace w a) bs o.files := by
  have hprepare : prepare w a = .ok ({ origin := .markdown (.path p) }, outputPath a) := by
    rw [prepare, hoptions]
    change paths w a >>= _ = _
    rw [hpaths, hreaders]
    rfl
  obtain ⟨fs, hfile⟩ := exists_toFile_blank hopen htakes
  obtain ⟨o, hrun, hcode, rfl⟩ := exists_run_of_toFile hread hlog hprepare hmade hfile
  obtain ⟨bs, hbytes, hwrite⟩ := Conversion.write_of_toFile hfile
  rw [Path.ofText_text (isRegular_outputPath a)] at hwrite
  obtain ⟨document, -, hbytes⟩ := Job.result_of_bind hbytes
  obtain ⟨c, hc⟩ := Docx.exists_bytes_of_toBytes hbytes
  exact ⟨o, bs, hrun, hcode, Docx.Container.ne_empty_of_bytes hc, Files.keeps_of_write hwrite⟩

/-- A device as the output keeps nothing of the document, and an output that is a further name of
    the file that is read takes the place of what was read. -/
theorem run_loses_document :
    let device : World := { files := {
      top := .folder [("dev", .folder [("null", .device)]), ("in.md", .file .empty)] } }
    let twin : World := { files := {
      top := .folder [("in.md", .file .empty), ("out.docx", .twin ["in.md"])] } }
    (∃ o, run device ["in.md", "-o", "/dev/null"] = .ok o ∧ o.code = 0 ∧
      ∀ content, o.files.item? ["dev", "null"] ≠ some (.file content)) ∧
    (∃ o, run twin ["in.md", "-o", "out.docx"] = .ok o ∧ o.code = 0 ∧
      twin.files.item? ["in.md"] = some (.file .empty) ∧
        o.files.item? ["in.md"] ≠ some (.file .empty)) := by
  intro device twin
  constructor
  · have hread : Arguments.read ["in.md", "-o", "/dev/null"] =
        .ok { input := "in.md", output := some "/dev/null" } := by
      decide +kernel
    obtain ⟨o, bs, hrun, hcode, -, hkeeps⟩ := exists_run_blank (w := device) hread rfl rfl
      (by decide +kernel) rfl ⟨rfl, rfl⟩ rfl
      ⟨by decide +kernel, ["dev", "null"], by decide +kernel, rfl⟩
    refine ⟨o, hrun, hcode, fun content => ?_⟩
    have hplace : outputPlace device { input := "in.md", output := some "/dev/null" } =
        ["dev", "null"] := by
      decide +kernel
    rw [hplace] at hkeeps
    generalize o.files = fs at hkeeps
    cases hkeeps with
    | device => nofun
    | file _ _ hold =>
      obtain ⟨_, hfile⟩ := hold .device rfl
      cases hfile
  · have hread : Arguments.read ["in.md", "-o", "out.docx"] =
        .ok { input := "in.md", output := some "out.docx" } := by
      decide +kernel
    obtain ⟨o, bs, hrun, hcode, hne, hkeeps⟩ := exists_run_blank (w := twin) hread rfl rfl
      (by decide +kernel) rfl ⟨rfl, rfl⟩ rfl ⟨by decide +kernel, ["in.md"], by decide +kernel, rfl⟩
    refine ⟨o, hrun, hcode, rfl, fun hsame => ?_⟩
    have hplace : outputPlace twin { input := "in.md", output := some "out.docx" } = ["in.md"] := by
      decide +kernel
    rw [hplace] at hkeeps
    generalize o.files = fs at hkeeps hsame
    cases hkeeps with
    | device h => cases h
    | file _ hnew _ =>
      cases hsame.symm.trans (Files.item?_eq_file_iff.2 (.inl hnew))
      exact hne rfl

end CommandLine

end Manuscript
