import Manuscript.Config
import Manuscript.Proofs.Docx.Outcome
import Manuscript.Proofs.Files.Refusal
import Manuscript.Proofs.Json.Faults
import Manuscript.Proofs.Toml.Faults

/-!
# How loading a configuration ends

Loading the file at a path gives the mapping in it (`Configures`), or ends with an error that
carries the path (`Unusable`). It is meant to end in no other way, but there are faults that nothing
turns into an error (`load_ends`). The operating system refuses a path with a name that is too long,
and what a file holds can be refused though it is not malformed (`Format.Breaks`). That is so for
any reader of YAML.

* `Format.breaks_of_read`: how a text that is not malformed is refused, by its format;
* `Format.holds_or_refused`: bytes stand for a value, are malformed, or break;
* `load_cases`: a file is a configuration, or there is an error or fault to say why it is none.
-/

namespace Manuscript.Config

open Text (Malformed TooLong)

variable {reader : YamlReader} {fs : Files} {p : Path} {content : ByteArray} {text : String}
  {f : Fault}

/-! ## What files hold -/

namespace Format

variable {format : Format}

/-- Bytes stand for a value. -/
def Holds (format : Format) (content : ByteArray) (v : Value) : Prop :=
  ∃ text, Text.decodeUtf8? content = some text ∧ format.read text = .ok v

/-- Bytes break the rules of a format. -/
def IsMalformed (format : Format) (content : ByteArray) (why : String) : Prop :=
  ∃ text, Text.decodeUtf8? content = some text ∧ format.read text = .error (.malformed why)

/-- The reader of a format is refused by the operating system. -/
def IsRefused (format : Format) (content : ByteArray) (number : Nat) (reason : String) : Prop :=
  ∃ text, Text.decodeUtf8? content = some text ∧ format.read text = .error (.system number reason)

/-- Bytes are refused with another fault: not because they break the rules of a format, and not by
    the operating system. -/
inductive Breaks (format : Format) (content : ByteArray) : Fault → Prop
  /-- They are no text. -/
  | encoding (h : Text.decodeUtf8? content = none) : Breaks format content .undecodable
  /-- There is a whole number with too many digits. -/
  | number {text : String} {f : Fault} (h : Text.decodeUtf8? content = some text)
    (hread : format.read text = .error f) (hlong : TooLong f) : Breaks format content f
  /-- The tools of a project file are no table. -/
  | tools {text : String} {doc : List (Value × Value)} {v : Value} (hformat : format = project)
    (h : Text.decodeUtf8? content = some text) (hread : Toml.read text = .ok (.map doc))
    (htool : Value.lookup doc "tool" = some v) (hv : ∀ tools, v ≠ .map tools) :
    Breaks format content .noSuchAttribute
  /-- The reader of YAML ends with a fault of its own, as of a scalar that stands for nothing. -/
  | foreign {text : String} {reader : YamlReader} {f : Fault} (hformat : format = yaml reader)
    (h : Text.decodeUtf8? content = some text) (hread : reader (unifyLines text) = .error f)
    (hf : ¬ Malformed f) (hsystem : ∀ n why, f ≠ .system n why) : Breaks format content f

/-- A number that is too long is not malformed. -/
theorem not_malformed_of_tooLong (h : TooLong f) : ¬ Malformed f := by
  obtain ⟨_, _, rfl⟩ := h
  rintro ⟨_, ⟨⟩⟩

/-- Reading YAML ends with the faults of its reader. -/
theorem read_yaml_eq_error_iff :
    (yaml reader).read text = .error f ↔ reader (unifyLines text) = .error f := by
  refine bind_eq_error_iff.trans (or_iff_left ?_)
  rintro ⟨v, -, h⟩
  split at h <;> cases h

theorem member_eq_error_iff {v : Value} {name : String} :
    member v name = .error f ↔ f = .noSuchAttribute ∧ ∀ entries, v ≠ .map entries := by
  cases v <;> simp [member, eq_comm]

/-- A project file is refused as TOML, or because its tools are no table. -/
theorem read_project_eq_error_iff :
    project.read text = .error f ↔ Toml.read text = .error f ∨
      f = .noSuchAttribute ∧ ∃ doc v, Toml.read text = .ok (.map doc) ∧
        Value.lookup doc "tool" = some v ∧ ∀ tools, v ≠ .map tools := by
  refine bind_eq_error_iff.trans (or_congr_right ?_)
  constructor
  · rintro ⟨v, hread, h⟩
    obtain ⟨doc, rfl⟩ := Toml.exists_of_read hread
    change member ((Value.lookup doc "tool").getD (.map [])) sectionName = .error f at h
    obtain ⟨rfl, hv⟩ := member_eq_error_iff.1 h
    cases htool : Value.lookup doc "tool" with
    | none => exact absurd (by rw [htool, Option.getD_none]) (hv [])
    | some v =>
      rw [htool, Option.getD_some] at hv
      exact ⟨rfl, doc, v, hread, htool, hv⟩
  · rintro ⟨rfl, doc, v, hread, htool, hv⟩
    refine ⟨.map doc, hread, ?_⟩
    change member ((Value.lookup doc "tool").getD (.map [])) sectionName = _
    rw [htool, Option.getD_some]
    exact member_eq_error_iff.2 ⟨rfl, hv⟩

/-- The faults of a text that is not malformed. -/
theorem breaks_of_read (h : Text.decodeUtf8? content = some text)
    (hread : format.read text = .error f) (hf : ¬ Malformed f)
    (hsystem : ∀ n why, f ≠ .system n why) : format.Breaks content f := by
  cases format with
  | project =>
    obtain htoml | ⟨rfl, doc, v, htoml, htool, hv⟩ := read_project_eq_error_iff.1 hread
    · exact .number h hread ((Toml.bounded_read text f htoml).resolve_left hf)
    · exact .tools rfl h htoml htool hv
  | toml => exact .number h hread ((Toml.bounded_read text f hread).resolve_left hf)
  | yaml reader => exact .foreign rfl h (read_yaml_eq_error_iff.1 hread) hf hsystem
  | json => exact .number h hread ((Json.bounded_read _ f hread).resolve_left hf)

/-- Bytes stand for a value, or they are refused. -/
theorem holds_or_refused (format : Format) (content : ByteArray) :
    (∃ v, format.Holds content v) ∨ (∃ why, format.IsMalformed content why) ∨
      (∃ n why, format.IsRefused content n why) ∨ ∃ f, format.Breaks content f := by
  cases hd : Text.decodeUtf8? content with
  | none => exact .inr (.inr (.inr ⟨_, .encoding hd⟩))
  | some text =>
    cases hread : format.read text with
    | ok v => exact .inl ⟨v, text, hd, hread⟩
    | error f =>
      by_cases hf : Malformed f
      · obtain ⟨why, rfl⟩ := hf
        exact .inr (.inl ⟨why, text, hd, hread⟩)
      · by_cases hsystem : ∃ n why, f = .system n why
        · obtain ⟨n, why, rfl⟩ := hsystem
          exact .inr (.inr (.inl ⟨n, why, text, hd, hread⟩))
        · exact .inr (.inr (.inr ⟨f, breaks_of_read hd hread hf
            fun n why hsys => hsystem ⟨n, why, hsys⟩⟩))

/-- Only a reader of YAML is refused by the operating system. -/
theorem IsRefused.exists_reader {n : Nat} {why : String} (h : format.IsRefused content n why) :
    ∃ reader, format = yaml reader := by
  obtain ⟨text, -, hread⟩ := h
  have hbounded {x : Except Fault Value} (hx : Text.Bounded x) : x ≠ .error (.system n why) := by
    intro he
    obtain ⟨_, ⟨⟩⟩ | ⟨_, _, ⟨⟩⟩ := hx _ he
  cases format with
  | project =>
    obtain htoml | ⟨⟨⟩, -⟩ := read_project_eq_error_iff.1 hread
    exact absurd htoml (hbounded (Toml.bounded_read text))
  | toml => exact absurd hread (hbounded (Toml.bounded_read text))
  | yaml reader => exact ⟨reader, rfl⟩
  | json => exact absurd hread (hbounded (Json.bounded_read _))

/-- What breaks the reading is not malformed. -/
theorem Breaks.not_malformed (h : format.Breaks content f) : ¬ Malformed f := by
  cases h with
  | encoding | tools =>
    rintro ⟨_, ⟨⟩⟩
  | number _ _ hlong => exact not_malformed_of_tooLong hlong
  | foreign _ _ _ hf _ => exact hf

/-- What breaks the reading is no refusal of the operating system. -/
theorem Breaks.ne_system (h : format.Breaks content f) (n : Nat) (why : String) :
    f ≠ .system n why := by
  cases h with
  | encoding | tools => nofun
  | number _ _ hlong =>
    obtain ⟨_, _, rfl⟩ := hlong
    nofun
  | foreign _ _ _ _ hsystem => exact hsystem n why

end Format

/-! ## Reading -/

section

variable {format : Format}

/-- What is read of a file that can be opened is decided by its bytes. -/
theorem readAs_of_opens (h : fs.Opens p content) :
    readAs fs p format =
      match Text.decodeUtf8? content with
      | some text => format.read text
      | none => .error .undecodable := by
  rw [readAs, readText, h.read_eq]
  cases hd : Text.decodeUtf8? content with
  | none => simp [bind, Except.bind, Except.mapError, hd]
  | some text => simp [bind, Except.bind, Except.mapError, hd]

theorem readAs_eq_ok_iff (h : fs.Opens p content) {v : Value} :
    readAs fs p format = .ok v ↔ format.Holds content v := by
  rw [readAs_of_opens h, Format.Holds]
  cases Text.decodeUtf8? content <;> simp

theorem readAs_of_malformed {why : String} (h : fs.Opens p content)
    (hmalformed : format.IsMalformed content why) :
    readAs fs p format = .error (.malformed why) := by
  obtain ⟨text, hd, hread⟩ := hmalformed
  rw [readAs_of_opens h, hd]
  exact hread

theorem readAs_of_refused {n : Nat} {why : String} (h : fs.Opens p content)
    (hrefused : format.IsRefused content n why) : readAs fs p format = .error (.system n why) := by
  obtain ⟨text, hd, hread⟩ := hrefused
  rw [readAs_of_opens h, hd]
  exact hread

theorem readAs_of_breaks (h : fs.Opens p content) (hbreaks : format.Breaks content f) :
    readAs fs p format = .error f := by
  rw [readAs_of_opens h]
  cases hbreaks with
  | encoding hd => rw [hd]
  | number hd hread _ =>
    rw [hd]
    exact hread
  | tools hformat hd hread htool hv =>
    subst hformat
    rw [hd]
    exact Format.read_project_eq_error_iff.2 (.inr ⟨rfl, _, _, hread, htool, hv⟩)
  | foreign hformat hd hread _ _ =>
    subst hformat
    rw [hd]
    exact Format.read_yaml_eq_error_iff.2 hread

/-- Nothing is read from a file that cannot be opened. -/
theorem readAs_of_lock? {n : Nat} {why : String} (h : fs.find p = .ok (.file content))
    (hlock : fs.lock? p = some (n, why)) : readAs fs p format = .error (.system n why) := by
  rw [readAs, readText, Files.read_of_lock? h hlock]
  rfl

end

/-! ## Loading -/

/-- The file at a path holds a mapping. -/
def Configures (reader : YamlReader) (fs : Files) (p : Path) (entries : List (Value × Value)) :
    Prop :=
  ∃ format content, Format.of? reader p = some format ∧ fs.Opens p content ∧
    format.Holds content (.map entries)

/-- There is no mapping in a file, and an error says so. -/
inductive Unusable (reader : YamlReader) (fs : Files) (p : Path) : Error → Prop
  | missing {r : Refusal} (h : fs.find p = .error r) (hr : r ≠ .nameTooLong) :
    Unusable reader fs p (errorAt p ("Configuration file does not exist: " ++ p.text : String))
  | notFile {i : Item} (h : fs.find p = .ok i) (hi : ∀ content, i ≠ .file content) :
    Unusable reader fs p (errorAt p ("Configuration path is not a file: " ++ p.text : String))
  | unsupported {content : ByteArray} (h : fs.find p = .ok (.file content))
    (hformat : Format.of? reader p = none) : Unusable reader fs p (unsupported p)
  | malformed {content : ByteArray} {format : Format} {why : String}
    (h : fs.Opens p content) (hformat : Format.of? reader p = some format)
    (hmalformed : format.IsMalformed content why) : Unusable reader fs p (invalid p why)
  | locked {content : ByteArray} {format : Format} {n : Nat} {why : String}
    (h : fs.find p = .ok (.file content)) (hformat : Format.of? reader p = some format)
    (hlock : fs.lock? p = some (n, why)) : Unusable reader fs p (unreadable p n why)
  | unreadable {content : ByteArray} {format : Format} {n : Nat} {why : String}
    (h : fs.Opens p content) (hformat : Format.of? reader p = some format)
    (hrefused : format.IsRefused content n why) : Unusable reader fs p (unreadable p n why)
  | noTable {content : ByteArray} {v : Value} (h : fs.Opens p content)
    (hformat : Format.of? reader p = some .project) (hholds : Format.project.Holds content v)
    (hv : ∀ entries, v ≠ .map entries) : Unusable reader fs p (noTable p v)
  | noMapping {content : ByteArray} {format : Format} {v : Value}
    (h : fs.Opens p content) (hformat : Format.of? reader p = some format)
    (hproject : format ≠ .project) (hholds : format.Holds content v)
    (hv : ∀ entries, v ≠ .map entries) : Unusable reader fs p (noMapping p v)

/-- Every error about a file carries its path. -/
theorem Unusable.kind_eq {e : Error} (h : Unusable reader fs p e) :
    e.kind = .config (some p.text) := by
  cases h <;> rfl

/-- A file is refused with a fault that nothing turns into an error. -/
inductive Escapes (reader : YamlReader) (fs : Files) (p : Path) : Fault → Prop
  | name (h : fs.find p = .error .nameTooLong) : Escapes reader fs p Refusal.nameTooLong.fault
  | content {content : ByteArray} {format : Format} {f : Fault}
    (h : fs.Opens p content) (hformat : Format.of? reader p = some format)
    (hbreaks : format.Breaks content f) : Escapes reader fs p f

/-- Of a file that is there, all depends on how it is read. -/
theorem load_of_file (h : fs.find p = .ok (.file content)) :
    load reader fs p = (readFile reader fs p).mapError (explain p) >>= fun v =>
      match v with
      | .map entries => .ok entries
      | v => .error (.error (noMapping p v)) := by
  rw [load, Files.isThere, Files.isFile, Files.holds, Files.holds, h]
  rfl

/-- A fault in reading a file is one of the file, in each format. -/
theorem readFile_of_readAs_error {format : Format} (hformat : Format.of? reader p = some format)
    (hread : readAs fs p format = .error f) : readFile reader fs p = .error (.fault f) := by
  rw [readFile, hformat]
  cases format with
  | project =>
    rw [readSection, hread]
    rfl
  | toml | yaml | json =>
    dsimp only
    rw [hread]
    rfl

theorem readSection_of_readAs_ok {v : Value} (hread : readAs fs p .project = .ok v)
    (hv : ∀ entries, v ≠ .map entries) : readSection fs p = .error (.error (noTable p v)) := by
  rw [readSection, hread]
  cases v with
  | map entries => exact absurd rfl (hv entries)
  | _ => rfl

/-- What is read of a file is what it holds, unless a section is no table. -/
theorem readFile_of_readAs_ok {format : Format} {v : Value}
    (hformat : Format.of? reader p = some format)
    (hread : readAs fs p format = .ok v) (h : format ≠ .project ∨ ∃ entries, v = .map entries) :
    readFile reader fs p = .ok v := by
  rw [readFile, hformat]
  cases format with
  | project =>
    obtain ⟨entries, rfl⟩ := h.resolve_left fun h => h rfl
    rw [readSection, hread]
    rfl
  | toml | yaml | json =>
    dsimp only
    rw [hread]
    rfl

/-- A file that is unusable is refused with the error that says why. -/
theorem load_of_unusable {e : Error} (h : Unusable reader fs p e) :
    load reader fs p = .error (.error e) := by
  cases h with
  | @missing r h hr =>
    rw [load, Files.isThere, Files.holds, h]
    cases r with
    | nameTooLong => exact absurd rfl hr
    | _ => rfl
  | @notFile i h hi =>
    rw [load, Files.isThere, Files.isFile, Files.holds, Files.holds, h]
    cases i with
    | file content => exact absurd rfl (hi content)
    | _ => rfl
  | unsupported h hformat =>
    rw [load_of_file h, readFile, hformat]
    rfl
  | malformed h hformat hmalformed =>
    rw [load_of_file h.find_eq, readFile_of_readAs_error hformat (readAs_of_malformed h hmalformed)]
    rfl
  | locked h hformat hlock =>
    rw [load_of_file h, readFile_of_readAs_error hformat (readAs_of_lock? h hlock)]
    rfl
  | unreadable h hformat hrefused =>
    rw [load_of_file h.find_eq, readFile_of_readAs_error hformat (readAs_of_refused h hrefused)]
    rfl
  | noTable h hformat hholds hv =>
    rw [load_of_file h.find_eq, readFile, hformat]
    dsimp only
    rw [readSection_of_readAs_ok ((readAs_eq_ok_iff h).2 hholds) hv]
    rfl
  | @noMapping content format v h hformat hproject hholds hv =>
    rw [load_of_file h.find_eq, readFile_of_readAs_ok hformat ((readAs_eq_ok_iff h).2 hholds)
      (.inl hproject)]
    cases v with
    | map entries => exact absurd rfl (hv entries)
    | _ => rfl

/-- What breaks the reading is explained by no error. -/
theorem explain_of_breaks {format : Format} (h : format.Breaks content f) :
    explain p (.fault f) = .fault f := by
  cases f with
  | malformed why => exact absurd ⟨why, rfl⟩ h.not_malformed
  | system n why => exact absurd rfl (h.ne_system n why)
  | _ => rfl

/-- What escapes ends the loading with a fault. -/
theorem load_of_escapes (h : Escapes reader fs p f) : load reader fs p = .error (.fault f) := by
  cases h with
  | name h =>
    rw [load, Files.isThere, Files.holds, h]
    rfl
  | content h hformat hbreaks =>
    rw [load_of_file h.find_eq, readFile_of_readAs_error hformat (readAs_of_breaks h hbreaks)]
    exact congrArg Except.error (explain_of_breaks hbreaks)

theorem load_of_configures {entries : List (Value × Value)} (h : Configures reader fs p entries) :
    load reader fs p = .ok entries := by
  obtain ⟨format, content, hformat, h, hholds⟩ := h
  rw [load_of_file h.find_eq, readFile_of_readAs_ok hformat ((readAs_eq_ok_iff h).2 hholds)
    (.inr ⟨entries, rfl⟩)]
  rfl

/-- A file is a configuration, or there is an error or fault to say why it is none. -/
theorem load_cases (reader : YamlReader) (fs : Files) (p : Path) :
    (∃ entries, Configures reader fs p entries) ∨ (∃ e, Unusable reader fs p e) ∨
      ∃ f, Escapes reader fs p f := by
  -- The cases come in the order in which a file is looked at: the path, the format, the content.
  cases h : fs.find p with
  | error r =>
    by_cases hr : r = .nameTooLong
    · subst hr
      exact .inr (.inr ⟨_, .name h⟩)
    · exact .inr (.inl ⟨_, .missing h hr⟩)
  | ok i =>
    cases i with
    | folder => exact .inr (.inl ⟨_, .notFile h nofun⟩)
    | device => exact .inr (.inl ⟨_, .notFile h nofun⟩)
    | file content =>
      cases hformat : Format.of? reader p with
      | none => exact .inr (.inl ⟨_, .unsupported h hformat⟩)
      | some format =>
        obtain h | ⟨n, why, hlock⟩ := Files.opens_or_lock? h
        case inr => exact .inr (.inl ⟨_, .locked h hformat hlock⟩)
        obtain ⟨v, hholds⟩ | ⟨why, hmalformed⟩ | ⟨n, why, hrefused⟩ | ⟨f, hbreaks⟩ :=
          format.holds_or_refused content
        · by_cases hv : ∃ entries, v = .map entries
          · obtain ⟨entries, rfl⟩ := hv
            exact .inl ⟨entries, format, content, hformat, h, hholds⟩
          · have hv : ∀ entries, v ≠ .map entries := fun entries he => hv ⟨entries, he⟩
            by_cases hproject : format = .project
            · subst hproject
              exact .inr (.inl ⟨_, .noTable h hformat hholds hv⟩)
            · exact .inr (.inl ⟨_, .noMapping h hformat hproject hholds hv⟩)
        · exact .inr (.inl ⟨_, .malformed h hformat hmalformed⟩)
        · exact .inr (.inl ⟨_, .unreadable h hformat hrefused⟩)
        · exact .inr (.inr ⟨f, .content h hformat hbreaks⟩)

/-- Loading gives a mapping if and only if the file holds it. -/
theorem load_eq_ok_iff {entries : List (Value × Value)} :
    load reader fs p = .ok entries ↔ Configures reader fs p entries := by
  refine ⟨fun h => ?_, load_of_configures⟩
  obtain ⟨_, h'⟩ | ⟨_, h'⟩ | ⟨_, h'⟩ := load_cases reader fs p
  · cases h.symm.trans (load_of_configures h')
    exact h'
  · cases h.symm.trans (load_of_unusable h')
  · cases h.symm.trans (load_of_escapes h')

/-- Loading ends with an error if and only if the file is unusable. -/
theorem load_eq_error_iff {e : Error} :
    load reader fs p = .error (.error e) ↔ Unusable reader fs p e := by
  refine ⟨fun h => ?_, load_of_unusable⟩
  obtain ⟨_, h'⟩ | ⟨_, h'⟩ | ⟨_, h'⟩ := load_cases reader fs p
  · cases h.symm.trans (load_of_configures h')
  · cases h.symm.trans (load_of_unusable h')
    exact h'
  · cases h.symm.trans (load_of_escapes h')

theorem load_eq_fault_iff : load reader fs p = .error (.fault f) ↔ Escapes reader fs p f := by
  refine ⟨fun h => ?_, load_of_escapes⟩
  obtain ⟨_, h'⟩ | ⟨_, h'⟩ | ⟨_, h'⟩ := load_cases reader fs p
  · cases h.symm.trans (load_of_configures h')
  · cases h.symm.trans (load_of_unusable h')
  · cases h.symm.trans (load_of_escapes h')
    exact h'

/-- Loading a file gives the mapping in it, or ends with an error that carries its path. It ends in
    no other way, but for the faults of a path whose name is too long and of a file that is refused
    though it is not malformed: by its bytes, a number, its tools, or the reader of YAML. -/
theorem load_ends (reader : YamlReader) (fs : Files) (p : Path) :
    (∀ entries, load reader fs p = .ok entries ↔ Configures reader fs p entries) ∧
    (∀ e, load reader fs p = .error (.error e) ↔ Unusable reader fs p e) ∧
    (∀ e, Unusable reader fs p e → e.kind = .config (some p.text)) ∧
    ∀ f, load reader fs p = .error (.fault f) ↔ Escapes reader fs p f :=
  ⟨fun _ => load_eq_ok_iff, fun _ => load_eq_error_iff, fun _ => Unusable.kind_eq,
    fun _ => load_eq_fault_iff⟩

/-- A file of bytes that are no text. -/
theorem load_ends_undecodable :
    load Yaml.read { top := .folder [("c.toml", .file ⟨#[0xff]⟩)] } (.ofText "c.toml") =
      .error (.fault .undecodable) :=
  ((load_ends _ _ _).2.2.2 _).2 (@Escapes.content _ _ _ ⟨#[0xff]⟩ .toml _ ⟨rfl, rfl⟩ (by rfl)
    (.encoding (by decide +kernel)))

end Manuscript.Config
