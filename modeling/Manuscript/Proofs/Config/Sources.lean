import Manuscript.Proofs.Config.Loading

/-!
# Where there is a configuration

There is a configuration at a path if a file is there: one of its own, or a project file that can be
opened and has a section that is not empty (`IsSource`). Looking at a path finds that out (`look`),
unless a fault is in the way (`Blocks`): the path is too long, or the project file is refused though
it is not malformed.

* `hasSection_iff`: the section of a project file, by the tables that it is in;
* `look_eq_true_iff`, `look_eq_false_iff`, `look_eq_error_iff`: how looking at a path ends;
* `load_of_isSource`: a project file at which there is a configuration is loaded to its section.
-/

namespace Manuscript.Config

variable {fs : Files} {p : Path} {content : ByteArray} {f : Fault}

/-! ## Project files -/

/-- A project file has a section that is not empty. -/
def HasSection (content : ByteArray) : Prop :=
  ∃ text doc tools entries, Text.decodeUtf8? content = some text ∧
    Toml.read text = .ok (.map doc) ∧ Value.lookup doc "tool" = some (.map tools) ∧
    Value.lookup tools sectionName = some (.map entries) ∧ entries ≠ []

/-- A project file is a text of TOML whose tools are a table if there are any, or breaks the rules
    of TOML. -/
def IsProject (content : ByteArray) : Prop :=
  ∃ text, Text.decodeUtf8? content = some text ∧
    ((∃ why, Toml.read text = .error (.malformed why)) ∨
      ∃ doc, Toml.read text = .ok (.map doc) ∧
        ∀ v, Value.lookup doc "tool" = some v → ∃ tools, v = .map tools)

/-- Only a table has members, and one that is not there counts as an empty table. -/
theorem member_eq_ok_iff {v w : Value} {name : String} :
    member v name = .ok w ↔
      ∃ entries, v = .map entries ∧ w = (Value.lookup entries name).getD (.map []) := by
  cases v <;> simp [member, eq_comm]

/-- What a project file holds is the section among its tools. -/
theorem holds_project_iff {v : Value} :
    Format.project.Holds content v ↔ ∃ text doc tools, Text.decodeUtf8? content = some text ∧
      Toml.read text = .ok (.map doc) ∧ (Value.lookup doc "tool").getD (.map []) = .map tools ∧
      v = (Value.lookup tools sectionName).getD (.map []) := by
  constructor
  · rintro ⟨text, hd, hread⟩
    obtain ⟨_, hdoc, hread⟩ := ok_of_bind hread
    obtain ⟨_, htools, hread⟩ := ok_of_bind hread
    obtain ⟨doc, rfl, rfl⟩ := member_eq_ok_iff.1 htools
    obtain ⟨tools, htool, rfl⟩ := member_eq_ok_iff.1 hread
    exact ⟨text, doc, tools, hd, hdoc, htool, rfl⟩
  · rintro ⟨text, doc, tools, hd, hdoc, htool, rfl⟩
    refine ⟨text, hd, ?_⟩
    rw [Format.read, hdoc]
    change member ((Value.lookup doc "tool").getD (.map [])) sectionName = _
    rw [htool]
    rfl

/-- A project file has a section if what it holds is a mapping that is not empty. -/
theorem hasSection_iff :
    HasSection content ↔ ∃ entries, Format.project.Holds content (.map entries) ∧ entries ≠ [] := by
  simp only [holds_project_iff]
  constructor
  · rintro ⟨text, doc, tools, entries, hd, hdoc, htool, hsection, hne⟩
    refine ⟨entries, ⟨text, doc, tools, hd, hdoc, ?_, ?_⟩, hne⟩
    · rw [htool, Option.getD_some]
    · rw [hsection, Option.getD_some]
  · -- What is missing stands for an empty table, which holds no section and is none that counts.
    rintro ⟨entries, ⟨text, doc, tools, hd, hdoc, htool, hsection⟩, hne⟩
    obtain hlookup | ⟨v, hlookup⟩ := Option.eq_none_or_eq_some (Value.lookup tools sectionName)
    · rw [hlookup, Option.getD_none] at hsection
      cases hsection
      exact absurd rfl hne
    rw [hlookup, Option.getD_some] at hsection
    obtain hnone | ⟨w, hsome⟩ := Option.eq_none_or_eq_some (Value.lookup doc "tool")
    · rw [hnone, Option.getD_none] at htool
      cases htool
      cases hlookup
    · rw [hsome, Option.getD_some] at htool
      exact ⟨text, doc, tools, entries, hd, hdoc, htool ▸ hsome, hsection ▸ hlookup, hne⟩

/-- A project file whose tools are a table breaks nothing. -/
theorem IsProject.not_breaks (h : IsProject content) : ¬ Format.project.Breaks content f := by
  obtain ⟨text, hd, hproject⟩ := h
  intro hbreaks
  cases hbreaks with
  | encoding hnone => cases hd.symm.trans hnone
  | number hd' hread hlong =>
    cases hd.symm.trans hd'
    obtain htoml | ⟨rfl, -⟩ := Format.read_project_eq_error_iff.1 hread
    · obtain ⟨why, hmalformed⟩ | ⟨doc, hdoc, -⟩ := hproject
      · cases htoml.symm.trans hmalformed
        exact Format.not_malformed_of_tooLong hlong ⟨why, rfl⟩
      · cases htoml.symm.trans hdoc
    · obtain ⟨_, _, ⟨⟩⟩ := hlong
  | tools _ hd' hread htool hv =>
    cases hd.symm.trans hd'
    obtain ⟨why, hmalformed⟩ | ⟨doc, hdoc, htools⟩ := hproject
    · cases hread.symm.trans hmalformed
    · cases hread.symm.trans hdoc
      obtain ⟨tools, rfl⟩ := htools _ htool
      exact hv tools rfl
  | foreign hformat => cases hformat

theorem HasSection.isProject (h : HasSection content) : IsProject content := by
  obtain ⟨text, doc, tools, entries, hd, hread, htool, -⟩ := h
  refine ⟨text, hd, .inr ⟨doc, hread, fun v hv => ⟨tools, ?_⟩⟩⟩
  exact Option.some.inj (hv.symm.trans htool)

/-! ## Sources -/

/-- There is a configuration at a path: a file of its own, or a project file that can be opened and
    has a section. -/
def IsSource (fs : Files) (p : Path) : Prop :=
  ∃ content, fs.find p = .ok (.file content) ∧
    (p.name = projectFile → fs.lock? p = none ∧ HasSection content)

/-- Looking at a path ends with a fault. -/
inductive Blocks (fs : Files) (p : Path) : Fault → Prop
  | name (h : fs.find p = .error .nameTooLong) : Blocks fs p Refusal.nameTooLong.fault
  | content {content : ByteArray} {f : Fault} (h : fs.Opens p content)
    (hname : p.name = projectFile) (hbreaks : Format.project.Breaks content f) : Blocks fs p f

/-- Looking at a path ends with neither. -/
def Passes (fs : Files) (p : Path) : Prop :=
  ¬ IsSource fs p ∧ ∀ f, ¬ Blocks fs p f

/-! ## Looking at a path -/

/-- Looks for a configuration at a path. -/
def look (fs : Files) (p : Path) : Except Failure Bool :=
  if p.name = projectFile then hasSection fs p else (fs.isFile p).mapError .fault

/-- Whether a file has a section hangs on how its section is read. -/
theorem hasSection_of_file (h : fs.find p = .ok (.file content)) :
    hasSection fs p =
      match readSection fs p with
      | .ok v => .ok v.isTruthy
      | .error (.fault (.malformed _)) | .error (.fault (.system ..)) | .error (.error _) =>
        .ok false
      | .error f => .error f := by
  rw [hasSection, Files.isFile, Files.holds, h]
  rfl

theorem readSection_of_map {entries : List (Value × Value)}
    (hread : readAs fs p .project = .ok (.map entries)) :
    readSection fs p = .ok (.map entries) := by
  rw [readSection, hread]
  rfl

theorem readSection_of_error (hread : readAs fs p .project = .error f) :
    readSection fs p = .error (.fault f) := by
  rw [readSection, hread]
  rfl

/-- A section counts if it is not empty. -/
theorem hasSection_of_map {entries : List (Value × Value)} (h : fs.Opens p content)
    (hholds : Format.project.Holds content (.map entries)) :
    hasSection fs p = .ok !entries.isEmpty := by
  rw [hasSection_of_file h.find_eq, readSection_of_map ((readAs_eq_ok_iff h).2 hholds)]
  rfl

/-- A project file that cannot be opened has no section. -/
theorem hasSection_of_lock? {n : Nat} {why : String} (h : fs.find p = .ok (.file content))
    (hlock : fs.lock? p = some (n, why)) : hasSection fs p = .ok false := by
  rw [hasSection_of_file h, readSection_of_error (readAs_of_lock? h hlock)]

/-- A project file that is malformed, or whose section is no table, has no section. -/
theorem hasSection_of_ignored (h : fs.find p = .ok (.file content))
    (hignored : (∃ why, Format.project.IsMalformed content why) ∨
      ∃ v, Format.project.Holds content v ∧ ∀ entries, v ≠ .map entries) :
    hasSection fs p = .ok false := by
  -- Nothing that a file holds counts where it cannot be opened.
  obtain hopen | ⟨n, why, hlock⟩ := Files.opens_or_lock? h
  case inr => exact hasSection_of_lock? h hlock
  rw [hasSection_of_file h]
  obtain ⟨why, hmalformed⟩ | ⟨v, hholds, hv⟩ := hignored
  · rw [readSection_of_error (readAs_of_malformed hopen hmalformed)]
  · rw [readSection_of_readAs_ok ((readAs_eq_ok_iff hopen).2 hholds) hv]

/-- A project file that breaks the reading ends the search. -/
theorem hasSection_of_breaks (h : fs.Opens p content)
    (hbreaks : Format.project.Breaks content f) : hasSection fs p = .error (.fault f) := by
  rw [hasSection_of_file h.find_eq, readSection_of_error (readAs_of_breaks h hbreaks)]
  cases f with
  | malformed why => exact absurd ⟨why, rfl⟩ hbreaks.not_malformed
  | system n why => exact absurd rfl (hbreaks.ne_system n why)
  | _ => rfl

/-- A configuration is found where there is one. -/
theorem look_of_isSource (h : IsSource fs p) : look fs p = .ok true := by
  obtain ⟨content, hfind, hsection⟩ := h
  rw [look]
  split
  · rename_i hname
    obtain ⟨hlock, hsection⟩ := hsection hname
    obtain ⟨entries, hholds, hne⟩ := hasSection_iff.1 hsection
    rw [hasSection_of_map ⟨hfind, hlock⟩ hholds]
    simpa using hne
  · rw [Files.isFile_eq_true_iff.2 ⟨content, hfind⟩]
    rfl

/-- What blocks a search ends it with a fault. -/
theorem look_of_blocks (h : Blocks fs p f) : look fs p = .error (.fault f) := by
  rw [look]
  cases h with
  | name hfind =>
    have hfile : fs.isFile p = .error Refusal.nameTooLong.fault :=
      Files.holds_eq_error_iff.2 ⟨rfl, hfind⟩
    split
    · rw [hasSection, hfile]
      rfl
    · rw [hfile]
      rfl
  | content hfind hname hbreaks => rw [if_pos hname, hasSection_of_breaks hfind hbreaks]

/-- Where there is no file, nothing is found. -/
theorem look_of_isFile (h : fs.isFile p = .ok false) : look fs p = .ok false := by
  rw [look]
  split
  · rw [hasSection, h]
    rfl
  · rw [h]
    rfl

/-- At each path there is a configuration, or nothing is found, or a fault is in the way. -/
theorem look_cases (fs : Files) (p : Path) :
    IsSource fs p ∨ look fs p = .ok false ∨ ∃ f, Blocks fs p f := by
  cases hfind : fs.find p with
  | error r =>
    by_cases hr : r = .nameTooLong
    · subst hr
      exact .inr (.inr ⟨_, .name hfind⟩)
    · refine .inr (.inl (look_of_isFile ?_))
      rw [Files.isFile, Files.holds, hfind]
      cases r with
      | nameTooLong => exact absurd rfl hr
      | _ => rfl
  | ok i =>
    cases i with
    | folder | device =>
      refine .inr (.inl (look_of_isFile ?_))
      rw [Files.isFile, Files.holds, hfind]
    | file content =>
      by_cases hname : p.name = projectFile
      · -- A file of another name is a source as it is; a project file is one by its section.
        have hlook : look fs p = hasSection fs p := if_pos hname
        rw [hlook]
        obtain hopen | ⟨_, _, hlock⟩ := Files.opens_or_lock? hfind
        case inr => exact .inr (.inl (hasSection_of_lock? hfind hlock))
        obtain ⟨v, hholds⟩ | hmalformed | ⟨_, _, hrefused⟩ | ⟨f, hbreaks⟩ :=
          Format.project.holds_or_refused content
        · by_cases hv : ∃ entries, v = .map entries
          · obtain ⟨entries, rfl⟩ := hv
            by_cases hne : entries = []
            · subst hne
              exact .inr (.inl (hasSection_of_map hopen hholds))
            · exact .inl ⟨content, hfind, fun _ =>
                ⟨hopen.lock?_eq, hasSection_iff.2 ⟨entries, hholds, hne⟩⟩⟩
          · exact .inr (.inl (hasSection_of_ignored hfind
              (.inr ⟨v, hholds, fun entries he => hv ⟨entries, he⟩⟩)))
        · exact .inr (.inl (hasSection_of_ignored hfind (.inl hmalformed)))
        · obtain ⟨_, ⟨⟩⟩ := hrefused.exists_reader
        · exact .inr (.inr ⟨f, .content hopen hname hbreaks⟩)
      · exact .inl ⟨content, hfind, fun h => absurd h hname⟩

theorem look_eq_true_iff : look fs p = .ok true ↔ IsSource fs p := by
  refine ⟨fun h => ?_, look_of_isSource⟩
  obtain hsource | hfalse | ⟨f, hblocks⟩ := look_cases fs p
  · exact hsource
  · cases h.symm.trans hfalse
  · cases h.symm.trans (look_of_blocks hblocks)

theorem look_eq_error_iff {e : Failure} :
    look fs p = .error e ↔ ∃ f, e = .fault f ∧ Blocks fs p f := by
  constructor
  · intro h
    obtain hsource | hfalse | ⟨f, hblocks⟩ := look_cases fs p
    · cases h.symm.trans (look_of_isSource hsource)
    · cases h.symm.trans hfalse
    · cases h.symm.trans (look_of_blocks hblocks)
      exact ⟨f, rfl, hblocks⟩
  · rintro ⟨f, rfl, hblocks⟩
    exact look_of_blocks hblocks

theorem look_eq_false_iff : look fs p = .ok false ↔ Passes fs p := by
  rw [Passes, ← look_eq_true_iff]
  cases h : look fs p with
  | error e =>
    obtain ⟨f, rfl, hblocks⟩ := look_eq_error_iff.1 h
    exact iff_of_false nofun fun hpass => hpass.2 f hblocks
  | ok found =>
    have hnot (f : Fault) : ¬ Blocks fs p f := fun hblocks =>
      nomatch h.symm.trans (look_eq_error_iff.2 ⟨f, rfl, hblocks⟩)
    cases found <;> simp [hnot]

theorem IsSource.not_blocks (h : IsSource fs p) : ¬ Blocks fs p f := fun hblocks =>
  nomatch (look_of_isSource h).symm.trans (look_of_blocks hblocks)

/-- A project file that cannot be opened, is malformed, or has a section that is no table, is
    passed. -/
theorem passes_of_ignored (hname : p.name = projectFile) (h : fs.find p = .ok (.file content))
    (hignored : (∃ n why, fs.lock? p = some (n, why)) ∨
      (∃ why, Format.project.IsMalformed content why) ∨
      ∃ v, Format.project.Holds content v ∧ ∀ entries, v ≠ .map entries) : Passes fs p := by
  rw [← look_eq_false_iff, look, if_pos hname]
  obtain ⟨n, why, hlock⟩ | hignored := hignored
  · exact hasSection_of_lock? h hlock
  · exact hasSection_of_ignored h hignored

/-! ## Loading what is found -/

theorem of?_of_name (reader : YamlReader) (h : p.name = projectFile) :
    Format.of? reader p = some .project := by
  have hlower : Text.lower projectFile = projectFile := by decide +kernel
  rw [Format.of?, h, if_pos hlower]

/-- A project file that is found is loaded to its section. -/
theorem load_of_isSource (reader : YamlReader) (h : IsSource fs p) (hname : p.name = projectFile) :
    ∃ entries, load reader fs p = .ok entries ∧ entries ≠ [] := by
  obtain ⟨content, hfind, hsection⟩ := h
  obtain ⟨hlock, hsection⟩ := hsection hname
  obtain ⟨entries, hholds, hne⟩ := hasSection_iff.1 hsection
  exact ⟨entries, load_of_configures
    ⟨.project, content, of?_of_name reader hname, ⟨hfind, hlock⟩, hholds⟩, hne⟩

end Manuscript.Config
