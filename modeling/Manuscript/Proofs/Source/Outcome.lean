import Manuscript.Proofs.Docx.Outcome
import Manuscript.Proofs.Files.Refusal
import Manuscript.Proofs.Text.Integer
import Manuscript.Source

/-!
# How reading a source ends

A source is read to a document, or reading ends with one of the library's own errors: the file at a
path is not there, or cannot be read (`Source.CannotRead`), or the text cannot be cut into tokens
(`Source.CannotParse`). It is meant to end in no other way, and there are two more
(`document_ends`). The operating system refuses a path with a name that is too long, and front
matter can be refused with a fault though it is not malformed (`FrontMatter.Breaks`). Front matter
that is malformed is dropped with a warning. All of that is so for any readers.

* `readFile_eq`: what reading the file at a path ends with, by what the path leads to;
* `load_eq_error_iff`: only a path fails to be loaded;
* `result_document_of_error`, `result_document_of_ok`: the stages of reading a source, loading its
  text, taking its front matter and cutting the rest into tokens.
-/

namespace Manuscript

theorem map_eq_error_iff {x : Except ε α} {g : α → β} {e : ε} :
    x.map g = .error e ↔ x = .error e := by
  cases x <;> simp [Except.map]

/-! ## Front matter -/

namespace FrontMatter

open Text (Malformed)

variable {reader : YamlReader}

/-- A key that has no text: a whole number with too many digits. -/
def IsLong (key : Value) : Prop :=
  ∃ n : Int, key = .int n ∧ Text.maxDigits < (toString n.natAbs).length

/-- A number of too many digits has no text. -/
theorem keyText_of_isLong {key : Value} (h : IsLong key) :
    keyText key = .error (.badValue Text.unshowable) := by
  obtain ⟨n, rfl, hn⟩ := h
  rw [keyText, if_pos hn]

/-- Every other key is given by its text. -/
theorem keyText_of_not_isLong {key : Value} (h : ¬ IsLong key) : keyText key = .ok key.toText := by
  unfold keyText
  split
  · rename_i n
    rw [if_neg fun hn => h ⟨n, rfl, hn⟩]
    rfl
  · rfl

/-- Properties cannot be read if and only if one of their keys has no text. -/
theorem propertiesFrom_eq_error_iff {before : Metadata} {entries : List (Value × Value)}
    {f : Fault} : propertiesFrom before entries = .error f ↔
      f = .badValue Text.unshowable ∧ ∃ e ∈ entries, IsLong e.1 := by
  induction entries generalizing before with
  | nil => simp [propertiesFrom]
  | cons e entries ih =>
    rw [propertiesFrom, List.exists_mem_cons_iff]
    by_cases h : IsLong e.1
    · rw [keyText_of_isLong h, or_iff_left_of_imp fun _ => h, and_iff_left h]
      exact ⟨fun he => (Except.error.inj he).symm, fun he => congrArg Except.error he.symm⟩
    · rw [keyText_of_not_isLong h, or_iff_right h]
      exact ih

/-- Only a mapping with a key that has no text stands for no properties. -/
theorem properties_eq_error_iff {v : Value} {f : Fault} :
    properties v = .error f ↔ f = .badValue Text.unshowable ∧
      ∃ entries, v = .map entries ∧ ∃ e ∈ entries, IsLong e.1 := by
  cases v with
  | map entries =>
    rw [properties, propertiesFrom_eq_error_iff]
    simp
  | _ => simp [properties]

/-- The record of front matter that is malformed. -/
def malformedRecord (why : String) : Log.Record :=
  ⟨Log.warning, origin, { text := "Ignoring malformed YAML front matter: ", detail := some why }⟩

/-- The front matter of a text is refused with a fault. -/
inductive Breaks (reader : YamlReader) (text : String) : Fault → Prop
  /-- The reader ends with another fault than that the block is malformed. -/
  | block {block body : String} {f : Fault} (hsplit : split? text = some (block, body))
    (hread : reader block = .error f) (hf : ¬ Malformed f) : Breaks reader text f
  /-- One of the keys has no text. -/
  | key {block body : String} {entries : List (Value × Value)} {e : Value × Value}
    (hsplit : split? text = some (block, body)) (hread : reader block = .ok (.map entries))
    (he : e ∈ entries) (hlong : IsLong e.1) : Breaks reader text (.badValue Text.unshowable)

/-- Front matter is read if there is some, and what comes of it is decided by what the reader says.
    -/
theorem result_read (reader : YamlReader) (text : String) :
    (read reader text).result =
      match split? text with
      | none => (.ok (text, []), [])
      | some (block, body) =>
        match reader block with
        | .ok v => (((properties v).mapError .fault).map fun m => (body, m), [])
        | .error (.malformed why) => (.ok (body, []), [malformedRecord why])
        | .error f => (.error (.fault f), []) := by
  rw [read]
  obtain _ | ⟨block, body⟩ := split? text
  · rfl
  · dsimp only
    obtain f | v := reader block
    · cases f <;> rfl
    · dsimp only
      cases properties v <;> rfl

/-- Malformed front matter is dropped, and a warning is left. -/
theorem result_read_of_malformed {text block body why : String}
    (hsplit : split? text = some (block, body)) (hread : reader block = .error (.malformed why)) :
    (read reader text).result = (.ok (body, []), [malformedRecord why]) := by
  rw [result_read, hsplit]
  dsimp only
  rw [hread]

/-- Front matter that breaks ends the reading with a fault. -/
theorem result_read_of_breaks {text : String} {f : Fault} (h : Breaks reader text f) :
    (read reader text).result = (.error (.fault f), []) := by
  rw [result_read]
  cases h with
  | block hsplit hread hf =>
    rw [hsplit]
    dsimp only
    rw [hread]
    cases f with
    | malformed why => exact absurd ⟨why, rfl⟩ hf
    | _ => rfl
  | key hsplit hread he hlong =>
    rw [hsplit]
    dsimp only
    rw [hread]
    dsimp only
    rw [properties_eq_error_iff.2 ⟨rfl, _, rfl, _, he, hlong⟩]
    rfl

/-- Reading front matter ends with the faults of what breaks, and in no other failure. -/
theorem result_read_eq_error_iff {text : String} {e : Failure} :
    (read reader text).result.1 = .error e ↔ ∃ f, e = .fault f ∧ Breaks reader text f := by
  constructor
  · intro h
    rw [result_read] at h
    split at h
    · cases h
    · rename_i block body hsplit
      split at h
      · rename_i v hread
        cases hv : properties v with
        | error f =>
          obtain ⟨rfl, entries, rfl, e, he, hlong⟩ := properties_eq_error_iff.1 hv
          rw [hv] at h
          cases h
          exact ⟨_, rfl, .key hsplit hread he hlong⟩
        | ok m =>
          rw [hv] at h
          cases h
      · cases h
      · rename_i f hf hread
        cases h
        refine ⟨f, rfl, .block hsplit hread ?_⟩
        rintro ⟨why, rfl⟩
        exact hf why rfl
  · rintro ⟨f, rfl, hbreaks⟩
    rw [result_read_of_breaks hbreaks]

end FrontMatter

namespace Source

/-! ## Texts of sources -/

/-- The file at a path is not there, or cannot be read, and an error says so. -/
inductive CannotRead (fs : Files) (p : Path) : Error → Prop
  | missing {r : Refusal} (h : fs.find p = .error r) (hr : r ≠ .nameTooLong) :
    CannotRead fs p (.ofKind (.fileNotFound p.text))
  | folder (h : fs.find p = .ok .folder) :
    CannotRead fs p (.ofKind (.fileAccess p.text) (some Refusal.isFolder.fault))
  | locked {content : ByteArray} {n : Nat} {why : String} (h : fs.find p = .ok (.file content))
    (hlock : fs.lock? p = some (n, why)) :
    CannotRead fs p (.ofKind (.fileAccess p.text) (some (.system n why)))

/-- The text of a file with a content, or the error that it cannot be opened. -/
def opened (fs : Files) (p : Path) (content : ByteArray) : Except Failure String :=
  match fs.lock? p with
  | some (n, why) => .error (.error (.ofKind (.fileAccess p.text) (some (.system n why))))
  | none => .ok (decode content)

theorem opened_of_opens {fs : Files} {p : Path} {content : ByteArray} (h : fs.Opens p content) :
    opened fs p content = .ok (decode content) := by
  rw [opened, h.lock?_eq]

theorem opened_of_lock? {fs : Files} {p : Path} {n : Nat} {why : String} (content : ByteArray)
    (h : fs.lock? p = some (n, why)) :
    opened fs p content =
      .error (.error (.ofKind (.fileAccess p.text) (some (.system n why)))) := by
  rw [opened, h]

/-- Reading a file is decided by what is found at its path, and whether it can be opened. -/
theorem readFile_eq (fs : Files) (p : Path) :
    readFile fs p =
      match fs.find p with
      | .ok (.file content) => opened fs p content
      | .ok .device => .ok (decode .empty)
      | .ok .folder =>
        .error (.error (.ofKind (.fileAccess p.text) (some Refusal.isFolder.fault)))
      | .error .nameTooLong => .error (.fault Refusal.nameTooLong.fault)
      | .error _ => .error (.error (.ofKind (.fileNotFound p.text))) := by
  rw [readFile, Files.isThere, Files.holds]
  cases h : fs.find p with
  | error r =>
    rw [Files.read, h]
    cases r <;> rfl
  | ok i =>
    cases i with
    | file content =>
      obtain hopen | ⟨n, why, hlock⟩ := Files.opens_or_lock? h
      · rw [hopen.read_eq]
        exact (opened_of_opens hopen).symm
      · rw [Files.read_of_lock? h hlock]
        exact (opened_of_lock? content hlock).symm
    | folder | device =>
      rw [Files.read, h]
      rfl

theorem readFile_of_opens {fs : Files} {p : Path} {content : ByteArray} (h : fs.Opens p content) :
    readFile fs p = .ok (decode content) := by
  rw [readFile_eq, h.find_eq]
  exact opened_of_opens h

/-- A file that cannot be opened is an error of access. -/
theorem readFile_of_lock? {fs : Files} {p : Path} {content : ByteArray} {n : Nat} {why : String}
    (h : fs.find p = .ok (.file content)) (hlock : fs.lock? p = some (n, why)) :
    readFile fs p = .error (.error (.ofKind (.fileAccess p.text) (some (.system n why)))) := by
  rw [readFile_eq, h]
  exact opened_of_lock? content hlock

/-- Reading a file fails with an error of the library, or because its name is too long. -/
theorem readFile_eq_error_iff {fs : Files} {p : Path} {e : Failure} :
    readFile fs p = .error e ↔
      (∃ e', e = .error e' ∧ CannotRead fs p e') ∨
        (e = .fault Refusal.nameTooLong.fault ∧ fs.find p = .error .nameTooLong) := by
  rw [readFile_eq]
  constructor
  · intro h
    split at h
    · rename_i content hfind
      obtain hopen | ⟨n, why, hlock⟩ := Files.opens_or_lock? hfind
      · rw [opened_of_opens hopen] at h
        cases h
      · rw [opened_of_lock? content hlock] at h
        cases h
        exact .inl ⟨_, rfl, .locked hfind hlock⟩
    · cases h
    · rename_i hfind
      cases h
      exact .inl ⟨_, rfl, .folder hfind⟩
    · rename_i hfind
      cases h
      exact .inr ⟨rfl, hfind⟩
    · rename_i r hr hfind
      cases h
      exact .inl ⟨_, rfl, .missing hfind hr⟩
  · rintro (⟨_, rfl, h⟩ | ⟨rfl, hfind⟩)
    · cases h with
      | @missing r hfind hr =>
        rw [hfind]
        cases r with
        | nameTooLong => exact absurd rfl hr
        | _ => rfl
      | folder hfind => rw [hfind]
      | @locked content _ _ hfind hlock =>
        rw [← readFile_eq]
        exact readFile_of_lock? hfind hlock
    · rw [hfind]

theorem readFile?_eq (fs : Files) (p : Path) :
    readFile? fs p =
      match fs.find p with
      | .ok (.file content) => (opened fs p content).map some
      | _ => .ok none := by
  rw [readFile?, readFile_eq, Files.isFile, Files.holds]
  obtain r | content | _ | _ := fs.find p
  · cases r <;> rfl
  · -- What may not be opened is an error of the library's own, and those go on.
    dsimp only
    rw [opened]
    cases fs.lock? p <;> rfl
  · rfl
  · rfl

/-- The file that a text names: it is short, of one line, and there is such a file. -/
def namedFile? (fs : Files) (s : String) : Option Path :=
  if s.length ≤ 260 ∧ ¬ s.toList.contains '\n' then
    match fs.isFile (.ofText s) with
    | .ok true => some (.ofText s)
    | _ => none
  else none

/-- A text names a file if it is short and of one line and there is such a file. -/
theorem namedFile?_eq_some_iff {fs : Files} {s : String} {p : Path} :
    namedFile? fs s = some p ↔ p = .ofText s ∧ s.length ≤ 260 ∧ '\n' ∉ s.toList ∧
      ∃ content, fs.find p = .ok (.file content) := by
  rw [namedFile?, ← List.contains_iff_mem]
  constructor
  · intro h
    split at h
    · rename_i hform
      split at h
      · rename_i hfile
        cases h
        exact ⟨rfl, hform.1, hform.2, Files.isFile_eq_true_iff.1 hfile⟩
      · cases h
    · cases h
  · rintro ⟨rfl, hlength, hline, hfind⟩
    rw [if_pos ⟨hlength, hline⟩, Files.isFile_eq_true_iff.2 hfind]

/-- Reading a file by the text that names it refuses nothing that reading it by its path does not. -/
theorem named?_eq (fs : Files) (s : String) :
    named? fs s =
      match namedFile? fs s with
      | some p => (readFile fs p).map some
      | none => .ok none := by
  rw [named?]
  split
  case isTrue hform =>
    rw [readFile?_eq]
    cases hnamed : namedFile? fs s with
    | some p =>
      obtain ⟨rfl, -, -, content, hfind⟩ := namedFile?_eq_some_iff.1 hnamed
      rw [hfind]
      dsimp only
      rw [readFile_eq, hfind]
    | none =>
      split
      · rename_i content hfind
        have hline : '\n' ∉ s.toList := by simpa using hform.2
        cases hnamed.symm.trans (namedFile?_eq_some_iff.2 ⟨rfl, hform.1, hline, content, hfind⟩)
      · rfl
  case isFalse hform =>
    rw [namedFile?, if_neg hform]
    rfl

/-- A text is read as the file that it names, if it names one. -/
theorem load_text (fs : Files) (s : String) :
    load fs (.text s) =
      match namedFile? fs s with
      | some p => readFile fs p
      | none => .ok s := by
  rw [load, named?_eq]
  obtain _ | p := namedFile? fs s
  · rfl
  · dsimp only
    cases readFile fs p <;> rfl

/-- A source is read from a path: it is that path or, being short and of one line, a text that there
    is a file of the name of. -/
inductive FoundAt (fs : Files) : Source → Path → Prop
  | path {p : Path} : FoundAt fs (.path p) p
  | text {s : String} {content : ByteArray} (hlength : s.length ≤ 260) (hline : '\n' ∉ s.toList)
    (hfind : fs.find (.ofText s) = .ok (.file content)) : FoundAt fs (.text s) (.ofText s)

theorem foundAt_text_iff {fs : Files} {s : String} {p : Path} :
    FoundAt fs (.text s) p ↔ namedFile? fs s = some p := by
  rw [namedFile?_eq_some_iff]
  constructor
  · rintro ⟨⟩
    rename_i content hlength hline hfind
    exact ⟨rfl, hlength, hline, content, hfind⟩
  · rintro ⟨rfl, hlength, hline, content, hfind⟩
    exact .text hlength hline hfind

/-- Only what is read from a path fails to be read. -/
theorem load_eq_error_iff {fs : Files} {s : Source} {e : Failure} :
    s.load fs = .error e ↔ ∃ p, FoundAt fs s p ∧ readFile fs p = .error e := by
  cases s with
  | text s =>
    simp only [foundAt_text_iff]
    rw [load_text]
    cases namedFile? fs s <;> simp
  | path p =>
    refine ⟨fun h => ⟨p, .path, h⟩, ?_⟩
    rintro ⟨_, ⟨⟩, h⟩
    exact h
  | bytes | stream | characters => exact ⟨nofun, nofun⟩

/-! ## Documents of sources -/

/-- The body of a text and the properties at its head, if they are to be read. -/
def head (r : Readers) (o : MarkdownOptions) (text : String) : Job (String × Metadata) :=
  if o.parseFrontmatter then FrontMatter.read r.yaml text else pure (text, [])

/-- The document of a body and the properties before it. -/
def documentOf (r : Readers) (o : MarkdownOptions) (body : String) (metadata : Metadata) :
    Except Failure Node :=
  match r.markdown o body with
  | .ok tokens => .ok (.document (Node.ofTokens o tokens) (if o.extractMetadata then metadata else []))
  | .error f => .error (.error (unparsable f))

/-- The body of a text cannot be cut into tokens, and an error says so. -/
def CannotParse (r : Readers) (o : MarkdownOptions) (text : String) (e : Error) : Prop :=
  ∃ body metadata f, (head r o text).result.1 = .ok (body, metadata) ∧
    r.markdown o body = .error f ∧ e = unparsable f

variable {r : Readers} {fs : Files} {o : MarkdownOptions} {s : Source}

/-- The head of a text breaks only if it is to be read. -/
theorem head_eq_error_iff {text : String} {e : Failure} :
    (head r o text).result.1 = .error e ↔
      o.parseFrontmatter = true ∧ ∃ f, e = .fault f ∧ FrontMatter.Breaks r.yaml text f := by
  rw [head]
  split
  · rename_i ho
    rw [FrontMatter.result_read_eq_error_iff, and_iff_right ho]
  · rename_i ho
    exact ⟨nofun, fun h => absurd h.1 ho⟩

/-- A body gives no document only where it cannot be cut into tokens. -/
theorem documentOf_eq_error_iff {body : String} {metadata : Metadata} {e : Failure} :
    documentOf r o body metadata = .error e ↔
      ∃ f, r.markdown o body = .error f ∧ e = .error (unparsable f) := by
  rw [documentOf]
  cases r.markdown o body with
  | error f => simp only [Except.error.injEq, exists_eq_left', eq_comm]
  | ok tokens => simp

/-- A document is read in three steps: the text, its head, and its body. -/
theorem document_eq (r : Readers) (fs : Files) (o : MarkdownOptions) (s : Source) :
    s.document r fs o = Job.of (s.load fs) >>= fun text => head r o text >>= fun p =>
      Job.of (documentOf r o p.1 p.2) := by
  rw [document]
  congr 1
  funext text
  rw [head]
  have hparse (p : String × Metadata) :
      (do
        let tokens ← Job.of ((r.markdown o p.1).mapError fun f => .error (unparsable f))
        return Node.document (Node.ofTokens o tokens) (if o.extractMetadata then p.2 else [])) =
      Job.of (documentOf r o p.1 p.2) := by
    rw [documentOf]
    cases r.markdown o p.1 <;> rfl
  simp only [← hparse]
  cases o.parseFrontmatter <;> rfl

theorem result_document_of_error {e : Failure} (h : s.load fs = .error e) :
    (s.document r fs o).result = (.error e, []) := by
  rw [document_eq, h]
  rfl

theorem result_document_of_ok {text : String} (h : s.load fs = .ok text) :
    (s.document r fs o).result =
      ((head r o text).result.1 >>= fun p => documentOf r o p.1 p.2, (head r o text).result.2) := by
  rw [document_eq, h, Job.result, Job.run_bind]
  -- Loading leaves no record behind, so what follows it begins with none.
  change (head r o text >>= _).run.run [] = _
  rw [Job.run_bind, Job.result]
  obtain ⟨_ | p, records⟩ := (head r o text).run.run []
  · rfl
  · change (Job.of (documentOf r o p.1 p.2)).run.run records = (documentOf r o p.1 p.2, records)
    cases documentOf r o p.1 p.2 <;> rfl

/-- Where front matter is read and the block of a text is malformed, the document is that of the
    body alone, and a warning is left behind. -/
theorem result_document_of_malformed {text block body why : String} (ho : o.parseFrontmatter = true)
    (h : s.load fs = .ok text) (hsplit : FrontMatter.split? text = some (block, body))
    (hread : r.yaml block = .error (.malformed why)) :
    (s.document r fs o).result =
      (documentOf r o body [], [FrontMatter.malformedRecord why]) := by
  rw [result_document_of_ok h, head, if_pos ho,
    FrontMatter.result_read_of_malformed hsplit hread]
  rfl

/-- Reading ends without a document in one of these three steps. -/
theorem result_document_eq_error_iff {e : Failure} :
    (s.document r fs o).result.1 = .error e ↔
      s.load fs = .error e ∨ ∃ text, s.load fs = .ok text ∧
        ((head r o text).result.1 = .error e ∨ ∃ e', e = .error e' ∧ CannotParse r o text e') := by
  cases h : s.load fs with
  | error e' =>
    rw [result_document_of_error h]
    constructor
    · rintro ⟨⟩
      exact .inl rfl
    · rintro (⟨⟨⟩⟩ | ⟨_, ⟨⟩, _⟩)
      rfl
  | ok text =>
    rw [result_document_of_ok h, bind_eq_error_iff]
    constructor
    · rintro (hhead | ⟨⟨body, metadata⟩, hhead, hparse⟩)
      · exact .inr ⟨text, rfl, .inl hhead⟩
      · obtain ⟨f, hf, rfl⟩ := documentOf_eq_error_iff.1 hparse
        exact .inr ⟨text, rfl, .inr ⟨_, rfl, body, metadata, f, hhead, hf, rfl⟩⟩
    · rintro (⟨⟨⟩⟩ | ⟨_, ⟨⟩, hhead | ⟨_, rfl, body, metadata, f, hhead, hf, rfl⟩⟩)
      · exact .inl hhead
      · exact .inr ⟨(body, metadata), hhead, documentOf_eq_error_iff.2 ⟨f, hf, rfl⟩⟩

/-- What is read is a document. -/
theorem kind_eq_document_of_result {n : Node} (h : (s.document r fs o).result.1 = .ok n) :
    n.kind = .document := by
  cases hload : s.load fs with
  | error e =>
    rw [result_document_of_error hload] at h
    cases h
  | ok text =>
    rw [result_document_of_ok hload] at h
    obtain ⟨p, -, hp⟩ := ok_of_bind h
    rw [documentOf] at hp
    split at hp <;> cases hp
    rfl

theorem result_document_eq_error_error_iff {e : Error} :
    (s.document r fs o).result.1 = .error (.error e) ↔
      (∃ p, FoundAt fs s p ∧ CannotRead fs p e) ∨
        ∃ text, s.load fs = .ok text ∧ CannotParse r o text e := by
  rw [result_document_eq_error_iff, load_eq_error_iff]
  constructor
  · rintro (⟨p, hs, hread⟩ | ⟨text, hload, hhead | ⟨_, ⟨⟩, hparse⟩⟩)
    · obtain ⟨_, ⟨⟩, hread⟩ | ⟨⟨⟩, _⟩ := readFile_eq_error_iff.1 hread
      exact .inl ⟨p, hs, hread⟩
    · obtain ⟨_, _, ⟨⟩, _⟩ := head_eq_error_iff.1 hhead
    · exact .inr ⟨text, hload, hparse⟩
  · rintro (⟨p, hs, hread⟩ | ⟨text, hload, hparse⟩)
    · exact .inl ⟨p, hs, readFile_eq_error_iff.2 (.inl ⟨e, rfl, hread⟩)⟩
    · exact .inr ⟨text, hload, .inr ⟨e, rfl, hparse⟩⟩

theorem result_document_eq_error_fault_iff {f : Fault} :
    (s.document r fs o).result.1 = .error (.fault f) ↔
      (∃ p, s = .path p ∧ fs.find p = .error .nameTooLong ∧ f = Refusal.nameTooLong.fault) ∨
      (o.parseFrontmatter = true ∧
        ∃ text, s.load fs = .ok text ∧ FrontMatter.Breaks r.yaml text f) := by
  rw [result_document_eq_error_iff, load_eq_error_iff]
  constructor
  · rintro (⟨p, hs, hread⟩ | ⟨text, hload, hhead | ⟨_, ⟨⟩, _⟩⟩)
    · obtain ⟨_, ⟨⟩, _⟩ | ⟨⟨⟩, hfind⟩ := readFile_eq_error_iff.1 hread
      -- What a text names is a file, and its name is not too long.
      cases hs with
      | path => exact .inl ⟨p, rfl, hfind, rfl⟩
      | text _ _ hfile => cases hfile.symm.trans hfind
    · obtain ⟨ho, _, ⟨⟩, hbreaks⟩ := head_eq_error_iff.1 hhead
      exact .inr ⟨ho, text, hload, hbreaks⟩
  · rintro (⟨p, rfl, hfind, rfl⟩ | ⟨ho, text, hload, hbreaks⟩)
    · exact .inl ⟨p, .path, readFile_eq_error_iff.2 (.inr ⟨rfl, hfind⟩)⟩
    · exact .inr ⟨text, hload, .inl (head_eq_error_iff.2 ⟨ho, f, rfl, hbreaks⟩)⟩

/-- Reading a source ends with a document or with one of the library's errors, which is that the
    file at a path is not there or cannot be read, or that the text cannot be cut into tokens.
    Malformed front matter is dropped with a warning. It ends in no other way, but for two faults: a
    path whose name is too long, and front matter that breaks though it is not malformed, because
    the reader of YAML ends so or a key has no text. -/
theorem document_ends (r : Readers) (fs : Files) (o : MarkdownOptions) (s : Source) :
    (∀ n, (s.document r fs o).result.1 = .ok n → n.kind = .document) ∧
    (∀ e, (s.document r fs o).result.1 = .error (.error e) ↔
      (∃ p, FoundAt fs s p ∧ CannotRead fs p e) ∨
        ∃ text, s.load fs = .ok text ∧ CannotParse r o text e) ∧
    (∀ f, (s.document r fs o).result.1 = .error (.fault f) ↔
      (∃ p, s = .path p ∧ fs.find p = .error .nameTooLong ∧ f = Refusal.nameTooLong.fault) ∨
      (o.parseFrontmatter = true ∧
        ∃ text, s.load fs = .ok text ∧ FrontMatter.Breaks r.yaml text f)) ∧
    ∀ text block body why, o.parseFrontmatter = true → s.load fs = .ok text →
      FrontMatter.split? text = some (block, body) → r.yaml block = .error (.malformed why) →
      (s.document r fs o).result =
        (documentOf r o body [], [FrontMatter.malformedRecord why]) :=
  ⟨fun _ => kind_eq_document_of_result, fun _ => result_document_eq_error_error_iff,
    fun _ => result_document_eq_error_fault_iff, fun _ _ _ _ => result_document_of_malformed⟩

/-- A reader of YAML that finds a date in a month that there is not. -/
theorem document_ends_badDate :
    let r : Readers := { yaml := fun _ => .error (.badValue "month must be in 1..12") }
    (Source.document r {} {} (.text "---\ndate: 2024-13-45\n---\nx")).result.1 =
      .error (.fault (.badValue "month must be in 1..12")) := by
  intro r
  refine ((document_ends r {} {} _).2.2.1 _).2 (.inr ⟨rfl, "---\ndate: 2024-13-45\n---\nx", ?_,
    @FrontMatter.Breaks.block _ _ "date: 2024-13-45\n" "x" _ ?_ rfl ?_⟩)
  · decide +kernel
  · decide +kernel
  · rintro ⟨_, ⟨⟩⟩

end Source

end Manuscript
