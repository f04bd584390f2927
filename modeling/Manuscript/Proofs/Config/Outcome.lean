import Manuscript.Config
import Manuscript.Proofs.Options.Refusals

/-!
# How applying a configuration ends

Applying a configuration gives the options that its tables set (`Accepts`), or ends with an error
about what it says (`Rejects`). It is meant to end in no other way, but there are faults that
nothing turns into an error (`Faults`): keys that are no text cannot be put in order, a ladder that
is no table has no entries, and a level that is infinite is no whole number. A value of the wrong
kind is refused only where its option has a rule.

* `unknownKeys_of_text`, `unknownKeys_of_not_text`: which keys of a mapping are unknown;
* `apply_cases`, `options_cases`: a table, or a configuration, is applied, or there is an error or
  fault to say why not.
-/

namespace Manuscript.Config

variable {config entries : List (Value × Value)} {names : List String} {name : String}

/-! ## Keys -/

/-- All keys of a mapping are text. -/
def HasTextKeys (entries : List (Value × Value)) : Prop :=
  ∀ e ∈ entries, ∃ s, e.1 = .text s

/-- All keys of a mapping are among some names. -/
def HasKeysIn (entries : List (Value × Value)) (names : List String) : Prop :=
  ∀ e ∈ entries, ∃ name ∈ names, e.1 = .text name

/-- The keys of a mapping that are text and none of some names, in ascending order. -/
def strangers (entries : List (Value × Value)) (names : List String) : List String :=
  ascending ((textEntries entries).names.filter fun s => !names.contains s)

/-- The settings of a mapping are its entries, where these have keys that are text. -/
theorem find?_textEntries : (textEntries entries).find? name = Value.lookup entries name := by
  induction entries with
  | nil => rfl
  | cons e rest ih =>
    obtain ⟨key, v⟩ := e
    cases key with
    | text s =>
      by_cases hs : s = name
      · subst hs
        simp [textEntries, Settings.find?, Value.lookup]
      · simpa [textEntries, Settings.find?, Value.lookup, hs] using ih
    | _ => simpa [textEntries, Settings.find?, Value.lookup] using ih

theorem mem_names_textEntries :
    name ∈ (textEntries entries).names ↔ ∃ e ∈ entries, e.1 = .text name := by
  induction entries with
  | nil => simp [textEntries, Settings.names]
  | cons e rest ih =>
    obtain ⟨key, v⟩ := e
    simp only [List.mem_cons, exists_eq_or_imp, ← ih]
    cases key with
    | text s => simp [textEntries, Settings.names, eq_comm]
    | _ => simp [textEntries, Settings.names]

theorem asText_eq_ok_iff {v : Value} {s : String} : v.asText = .ok s ↔ v = .text s := by
  cases v <;> simp [Value.asText]

/-- A key that is no text is of the wrong kind. -/
theorem asText_eq_error_iff {v : Value} {f : Fault} :
    v.asText = .error f ↔ f = .wrongKind ∧ ∀ s, v ≠ .text s := by
  cases v <;> simp [Value.asText, eq_comm]

/-- Keys that are all text are read as such. -/
theorem mapM_asText (h : HasTextKeys entries) :
    entries.mapM (fun e => e.1.asText) = .ok (textEntries entries).names := by
  rw [mapM_eq_ok_iff]
  induction entries with
  | nil => exact .nil
  | cons e rest ih =>
    obtain ⟨⟨s, hs⟩, hrest⟩ := List.forall_mem_cons.1 h
    obtain ⟨key, v⟩ := e
    subst hs
    exact .cons rfl (ih hrest)

/-- The keys that are unknown are those that are none of the names. -/
theorem unknownKeys_of_text (h : HasTextKeys entries) :
    unknownKeys entries names = .ok (strangers entries names) := by
  rw [unknownKeys, mapM_asText h]
  rfl

/-- Keys that are not all text cannot be put in order, and that is a fault. -/
theorem unknownKeys_of_not_text (h : ¬ HasTextKeys entries) :
    unknownKeys entries names = .error .wrongKind := by
  rw [unknownKeys, bind_eq_error_iff]
  refine .inl ?_
  cases hkeys : entries.mapM fun e => e.1.asText with
  | ok keys =>
    refine absurd (fun e he => ?_) h
    obtain ⟨s, hs⟩ := exists_mapM_eq_ok_iff.1 ⟨keys, hkeys⟩ e he
    exact ⟨s, asText_eq_ok_iff.1 hs⟩
  | error f =>
    obtain ⟨e, -, he⟩ := exists_of_mapM_eq_error hkeys
    rw [(asText_eq_error_iff.1 he).1]

theorem HasKeysIn.text (h : HasKeysIn entries names) : HasTextKeys entries := by
  intro e he
  obtain ⟨name, -, hname⟩ := h e he
  exact ⟨name, hname⟩

/-- A mapping has keys from some names if each of its keys is one. -/
theorem hasKeysIn_iff (h : HasTextKeys entries) :
    HasKeysIn entries names ↔ ∀ name ∈ (textEntries entries).names, name ∈ names := by
  constructor
  · intro hkeys name hname
    obtain ⟨e, he, heq⟩ := mem_names_textEntries.1 hname
    obtain ⟨name', hname', heq'⟩ := hkeys e he
    cases heq.symm.trans heq'
    exact hname'
  · intro hnames e he
    obtain ⟨s, hs⟩ := h e he
    exact ⟨s, hnames s (mem_names_textEntries.2 ⟨e, he, hs⟩), hs⟩

/-- No key is strange if and only if all are known. -/
theorem strangers_eq_nil_iff (h : HasTextKeys entries) :
    strangers entries names = [] ↔ HasKeysIn entries names := by
  rw [hasKeysIn_iff h, strangers, ascending, ← List.length_eq_zero_iff, List.length_mergeSort]
  simp

/-! ## Tables -/

variable {set : OptionSet} {o o' : Options set} {e : Error} {f : Fault}

/-- A fault of a value is reported as an error of the configuration. -/
theorem settingFailure_of_isOfValue {e : SettingError} (h : e.fault.IsOfValue) :
    settingFailure set e = .error (invalidValue set e.fault) := by
  rw [settingFailure]
  obtain h | ⟨m, h⟩ := h <;> rw [h]

/-- Any other fault stays one. -/
theorem settingFailure_of_not_isOfValue {e : SettingError} (h : ¬ e.fault.IsOfValue) :
    settingFailure set e = .fault e.fault := by
  rw [settingFailure]
  split
  · next m hm => exact absurd (.inr ⟨m, hm⟩) h
  · next hm => exact absurd (.inl hm) h
  · rfl

/-- Options with the table of their set applied. -/
inductive Sets (config : List (Value × Value)) (o : Options set) : Options set → Prop
  | absent (h : Value.lookup config (tableName set) = none) : Sets config o o
  | table {entries : List (Value × Value)} {o' : Options set}
    (h : Value.lookup config (tableName set) = some (.map entries))
    (hkeys : HasKeysIn entries set.names) (hbecomes : o.Becomes (textEntries entries) o') :
    Sets config o o'

/-- A table cannot be applied, and an error says so. -/
inductive Unfit (config : List (Value × Value)) (o : Options set) : Error → Prop
  | noTable {v : Value} (h : Value.lookup config (tableName set) = some v)
    (hv : ∀ entries, v ≠ .map entries) : Unfit config o (noOptionTable set v)
  | unknown {entries : List (Value × Value)}
    (h : Value.lookup config (tableName set) = some (.map entries)) (htext : HasTextKeys entries)
    (hkeys : ¬ HasKeysIn entries set.names) :
    Unfit config o (unknownOptions set (strangers entries set.names))
  | value {entries : List (Value × Value)} {e : SettingError}
    (h : Value.lookup config (tableName set) = some (.map entries))
    (hkeys : HasKeysIn entries set.names) (hrefuses : o.Refuses (textEntries entries) e)
    (hf : e.fault.IsOfValue) : Unfit config o (invalidValue set e.fault)

/-- A table is refused with a fault that nothing turns into an error. -/
inductive Breaks (config : List (Value × Value)) : {set : OptionSet} → Options set → Fault → Prop
  | key {set : OptionSet} {o : Options set} {entries : List (Value × Value)}
    (h : Value.lookup config (tableName set) = some (.map entries))
    (htext : ¬ HasTextKeys entries) : Breaks config o .wrongKind
  | value {o : Options .docx} {entries : List (Value × Value)} {f : Fault}
    (h : Value.lookup config (tableName .docx) = some (.map entries))
    (hkeys : HasKeysIn entries OptionSet.docx.names)
    (hescapes : o.Escapes (textEntries entries) f) : Breaks config o f

/-- A table whose keys are known is read as settings. -/
theorem settings_of_keys (h : HasKeysIn entries set.names) :
    settings set (.map entries) = .ok (textEntries entries) := by
  rw [settings, unknownKeys_of_text h.text, (strangers_eq_nil_iff h.text).2 h]
  rfl

/-- A table with unknown keys is refused, and the error lists them. -/
theorem settings_of_unknown (htext : HasTextKeys entries) (h : ¬ HasKeysIn entries set.names) :
    settings set (.map entries) =
      .error (.error (unknownOptions set (strangers entries set.names))) := by
  rw [settings, unknownKeys_of_text htext]
  have hne : strangers entries set.names ≠ [] := mt (strangers_eq_nil_iff htext).1 h
  cases hs : strangers entries set.names with
  | nil => exact absurd hs hne
  | cons => rfl

/-- A table that sets options does so. -/
theorem apply_of_sets (h : Sets config o o') : apply config o = .ok o' := by
  cases h with
  | absent h => rw [apply, h]
  | table h hkeys hbecomes =>
    rw [apply, h]
    dsimp only
    rw [settings_of_keys hkeys]
    change (o.update _).mapError _ = _
    rw [Options.update_eq_ok_iff.2 hbecomes]
    rfl

theorem apply_of_refuses {e : SettingError}
    (h : Value.lookup config (tableName set) = some (.map entries))
    (hkeys : HasKeysIn entries set.names) (hrefuses : o.Refuses (textEntries entries) e) :
    apply config o = .error (settingFailure set e) := by
  rw [apply, h]
  dsimp only
  rw [settings_of_keys hkeys]
  change (o.update _).mapError _ = _
  rw [(Options.update_eq_error_iff ((hasKeysIn_iff hkeys.text).1 hkeys)).2 hrefuses]
  rfl

/-- A table that is unfit is refused with the error that says why. -/
theorem apply_of_unfit (h : Unfit config o e) : apply config o = .error (.error e) := by
  cases h with
  | @noTable v h hv =>
    rw [apply, h]
    cases v with
    | map entries => exact absurd rfl (hv entries)
    | _ => rfl
  | unknown h htext hkeys =>
    rw [apply, h]
    dsimp only
    rw [settings_of_unknown htext hkeys]
    rfl
  | value h hkeys hrefuses hf =>
    rw [apply_of_refuses h hkeys hrefuses, settingFailure_of_isOfValue hf]

/-- A table that breaks the setting of options ends it with a fault. -/
theorem apply_of_breaks (h : Breaks config o f) : apply config o = .error (.fault f) := by
  cases h with
  | key h htext =>
    rw [apply, h]
    dsimp only
    rw [settings, unknownKeys_of_not_text htext]
    rfl
  | value h hkeys hescapes =>
    obtain ⟨e, hrefuses, rfl, hf⟩ := hescapes.refuses
    rw [apply_of_refuses h hkeys hrefuses, settingFailure_of_not_isOfValue hf]

/-- A table is applied, or there is an error or fault to say why not. -/
theorem apply_cases (config : List (Value × Value)) (o : Options set) :
    (∃ o', Sets config o o') ∨ (∃ e, Unfit config o e) ∨ ∃ f, Breaks config o f := by
  cases h : Value.lookup config (tableName set) with
  | none => exact .inl ⟨o, .absent h⟩
  | some v =>
    by_cases hv : ∃ entries, v = .map entries
    · obtain ⟨entries, rfl⟩ := hv
      by_cases htext : HasTextKeys entries
      · by_cases hkeys : HasKeysIn entries set.names
        · cases hupdate : o.update (textEntries entries) with
          | ok o' => exact .inl ⟨o', .table h hkeys (Options.update_eq_ok_iff.1 hupdate)⟩
          | error e =>
            have hrefuses := (Options.update_eq_error_iff ((hasKeysIn_iff htext).1 hkeys)).1 hupdate
            by_cases hf : e.fault.IsOfValue
            · exact .inr (.inl ⟨_, .value h hkeys hrefuses hf⟩)
            · cases set with
              | markdown => exact absurd hrefuses Options.not_refuses_markdown
              | docx => exact .inr (.inr ⟨_, .value h hkeys (hrefuses.escapes hf)⟩)
        · exact .inr (.inl ⟨_, .unknown h htext hkeys⟩)
      · exact .inr (.inr ⟨_, .key h htext⟩)
    · exact .inr (.inl ⟨_, .noTable h fun entries he => hv ⟨entries, he⟩⟩)

/-! ## Configurations -/

variable {markdown markdown' : Options .markdown} {docx docx' : Options .docx}

/-- Options with a configuration applied: it has tables of sets of options only, and each can be
    applied. -/
structure Accepts (config : List (Value × Value)) (markdown markdown' : Options .markdown)
    (docx docx' : Options .docx) : Prop where
  tables : HasKeysIn config tableNames
  markdown : Sets config markdown markdown'
  docx : Sets config docx docx'

/-- A configuration cannot be applied, and an error says so: about its tables, or about the first of
    them that cannot be. -/
inductive Rejects (config : List (Value × Value)) (markdown : Options .markdown)
    (docx : Options .docx) : Error → Prop
  | tables (htext : HasTextKeys config) (htables : ¬ HasKeysIn config tableNames) :
    Rejects config markdown docx (unknownTables (strangers config tableNames))
  | markdown {e : Error} (htables : HasKeysIn config tableNames) (h : Unfit config markdown e) :
    Rejects config markdown docx e
  | docx {e : Error} {markdown' : Options .markdown} (htables : HasKeysIn config tableNames)
    (hmarkdown : Sets config markdown markdown') (h : Unfit config docx e) :
    Rejects config markdown docx e

/-- A configuration is refused with a fault that nothing turns into an error. -/
inductive Faults (config : List (Value × Value)) (markdown : Options .markdown)
    (docx : Options .docx) : Fault → Prop
  | tables (htext : ¬ HasTextKeys config) : Faults config markdown docx .wrongKind
  | markdown {f : Fault} (htables : HasKeysIn config tableNames) (h : Breaks config markdown f) :
    Faults config markdown docx f
  | docx {f : Fault} {markdown' : Options .markdown} (htables : HasKeysIn config tableNames)
    (hmarkdown : Sets config markdown markdown') (h : Breaks config docx f) :
    Faults config markdown docx f

/-- If all tables are known, each set of options is set from its own, Markdown first. -/
theorem options_of_tables (h : HasKeysIn config tableNames) :
    options config markdown docx = do return (← apply config markdown, ← apply config docx) := by
  rw [options, unknownKeys_of_text h.text, (strangers_eq_nil_iff h.text).2 h]
  rfl

theorem options_of_accepts (h : Accepts config markdown markdown' docx docx') :
    options config markdown docx = .ok (markdown', docx') := by
  rw [options_of_tables h.tables, apply_of_sets h.markdown, apply_of_sets h.docx]
  rfl

theorem options_of_rejects (h : Rejects config markdown docx e) :
    options config markdown docx = .error (.error e) := by
  cases h with
  | tables htext htables =>
    have hne : strangers config tableNames ≠ [] := mt (strangers_eq_nil_iff htext).1 htables
    rw [options, unknownKeys_of_text htext]
    cases hs : strangers config tableNames with
    | nil => exact absurd hs hne
    | cons => rfl
  | markdown htables h =>
    rw [options_of_tables htables, apply_of_unfit h]
    rfl
  | docx htables hmarkdown h =>
    rw [options_of_tables htables, apply_of_sets hmarkdown, apply_of_unfit h]
    rfl

theorem options_of_faults (h : Faults config markdown docx f) :
    options config markdown docx = .error (.fault f) := by
  cases h with
  | tables htext =>
    rw [options, unknownKeys_of_not_text htext]
    rfl
  | markdown htables h =>
    rw [options_of_tables htables, apply_of_breaks h]
    rfl
  | docx htables hmarkdown h =>
    rw [options_of_tables htables, apply_of_sets hmarkdown, apply_of_breaks h]
    rfl

/-- A configuration is applied, or there is an error or fault to say why not. -/
theorem options_cases (config : List (Value × Value)) (markdown : Options .markdown)
    (docx : Options .docx) :
    (∃ markdown' docx', Accepts config markdown markdown' docx docx') ∨
      (∃ e, Rejects config markdown docx e) ∨ ∃ f, Faults config markdown docx f := by
  by_cases htext : HasTextKeys config
  · by_cases htables : HasKeysIn config tableNames
    · obtain ⟨markdown', hm⟩ | ⟨e, he⟩ | ⟨f, hf⟩ := apply_cases config markdown
      · obtain ⟨docx', hd⟩ | ⟨e, he⟩ | ⟨f, hf⟩ := apply_cases config docx
        · exact .inl ⟨markdown', docx', htables, hm, hd⟩
        · exact .inr (.inl ⟨e, .docx htables hm he⟩)
        · exact .inr (.inr ⟨f, .docx htables hm hf⟩)
      · exact .inr (.inl ⟨e, .markdown htables he⟩)
      · exact .inr (.inr ⟨f, .markdown htables hf⟩)
    · exact .inr (.inl ⟨_, .tables htext htables⟩)
  · exact .inr (.inr ⟨_, .tables htext⟩)

/-- A configuration sets options if and only if it is accepted. -/
theorem options_eq_ok_iff :
    options config markdown docx = .ok (markdown', docx') ↔
      Accepts config markdown markdown' docx docx' := by
  refine ⟨fun h => ?_, options_of_accepts⟩
  obtain ⟨_, _, h'⟩ | ⟨_, h'⟩ | ⟨_, h'⟩ := options_cases config markdown docx
  · cases h.symm.trans (options_of_accepts h')
    exact h'
  · cases h.symm.trans (options_of_rejects h')
  · cases h.symm.trans (options_of_faults h')

/-- Setting options ends with an error if and only if the configuration is rejected. -/
theorem options_eq_error_iff :
    options config markdown docx = .error (.error e) ↔ Rejects config markdown docx e := by
  refine ⟨fun h => ?_, options_of_rejects⟩
  obtain ⟨_, _, h'⟩ | ⟨_, h'⟩ | ⟨_, h'⟩ := options_cases config markdown docx
  · cases h.symm.trans (options_of_accepts h')
  · cases h.symm.trans (options_of_rejects h')
    exact h'
  · cases h.symm.trans (options_of_faults h')

/-- Setting options ends with a fault if and only if the configuration leads to one. -/
theorem options_eq_fault_iff :
    options config markdown docx = .error (.fault f) ↔ Faults config markdown docx f := by
  refine ⟨fun h => ?_, options_of_faults⟩
  obtain ⟨_, _, h'⟩ | ⟨_, h'⟩ | ⟨_, h'⟩ := options_cases config markdown docx
  · cases h.symm.trans (options_of_accepts h')
  · cases h.symm.trans (options_of_rejects h')
  · cases h.symm.trans (options_of_faults h')
    exact h'

theorem Unfit.kind_eq (h : Unfit config o e) : e.kind = .config none := by
  cases h <;> rfl

/-- Every error is about what a configuration says. -/
theorem Rejects.kind_eq (h : Rejects config markdown docx e) : e.kind = .config none := by
  cases h with
  | tables => rfl
  | markdown _ h => exact h.kind_eq
  | docx _ _ h => exact h.kind_eq

/-- The configuration that sets one option. -/
def setting (set : OptionSet) (name : String) (v : Value) : List (Value × Value) :=
  [(.text (tableName set), .map [(.text name, v)])]

theorem sets_setting {v : Value} (h : o.update [(name, v)] = .ok o') :
    Sets (setting set name v) o o' := by
  have hbecomes : o.Becomes (textEntries [(.text name, v)]) o' := Options.update_eq_ok_iff.1 h
  have hname : name ∈ set.names := hbecomes.names name List.mem_cons_self
  refine .table ?_ ?_ hbecomes
  · simp [setting, Value.lookup]
  · simpa [HasKeysIn] using hname

/-- A single option of Markdown can be set by itself. -/
theorem options_setting_markdown {v : Value} (h : markdown.update [(name, v)] = .ok markdown') :
    options (setting .markdown name v) markdown docx = .ok (markdown', docx) :=
  options_of_accepts ⟨by simp [HasKeysIn, setting, tableNames], sets_setting h, .absent rfl⟩

/-- A single option of documents can be set by itself. -/
theorem options_setting_docx {v : Value} (h : docx.update [(name, v)] = .ok docx') :
    options (setting .docx name v) markdown docx = .ok (markdown, docx') :=
  options_of_accepts ⟨by simp [HasKeysIn, setting, tableNames], .absent rfl, sets_setting h⟩

/-- An option without a rule takes a value of any kind. -/
theorem exists_options_setting (hname : name ∈ set.names) (hfree : name ∉ set.rules.map (·.1))
    (v : Value) : ∃ r, options (setting set name v) markdown docx = .ok r := by
  have hnames : ∀ s ∈ Settings.names [(name, v)], s ∈ set.names := by
    simpa [Settings.names] using hname
  have hfree' : ∀ s ∈ Settings.names [(name, v)], s ∉ set.rules.map (·.1) := by
    simpa [Settings.names] using hfree
  cases set with
  | markdown =>
    obtain ⟨markdown', h⟩ := markdown.exists_update hnames hfree'
    exact ⟨_, options_setting_markdown h⟩
  | docx =>
    obtain ⟨docx', h⟩ := docx.exists_update hnames hfree'
    exact ⟨_, options_setting_docx h⟩

/-- Applying a configuration gives the options that it sets, or ends with an error about what it
    says. It ends in no other way, but for the faults of keys that are no text, of a ladder that is
    no table, and of a level that is infinite. Where an option has no rule, a value of the wrong
    kind is no error either. -/
theorem options_ends (config : List (Value × Value)) (markdown : Options .markdown)
    (docx : Options .docx) :
    (∀ markdown' docx', options config markdown docx = .ok (markdown', docx') ↔
      Accepts config markdown markdown' docx docx') ∧
    (∀ e, options config markdown docx = .error (.error e) ↔ Rejects config markdown docx e) ∧
    (∀ e, Rejects config markdown docx e → e.kind = .config none) ∧
    (∀ f, options config markdown docx = .error (.fault f) ↔ Faults config markdown docx f) ∧
    ∀ (set : OptionSet), ∀ name ∈ set.names, name ∉ set.rules.map (·.1) →
      ∀ v, ∃ r, options (setting set name v) markdown docx = .ok r :=
  ⟨fun _ _ => options_eq_ok_iff, fun _ => options_eq_error_iff, fun _ => Rejects.kind_eq,
    fun _ => options_eq_fault_iff, fun _ _ => exists_options_setting⟩

/-- A ladder that is a number, and a font that is one. -/
theorem options_ends_number :
    options (setting .docx "heading_font_sizes" (.int 5)) = .error (.fault .noSuchAttribute) ∧
      ∃ r, options (setting .docx "default_font" (.int 5)) = .ok r := by
  obtain ⟨-, -, -, hfault, hfree⟩ :=
    options_ends (setting .docx "heading_font_sizes" (.int 5)) (.start _) (.start _)
  refine ⟨(hfault _).2 (.docx ?_ (.absent rfl) (.value rfl ?_ (.noTable ?_ ?_))),
    hfree .docx _ (by decide) (by decide) _⟩
  · simp [HasKeysIn, setting, tableNames]
  · simp [HasKeysIn]
    decide
  · decide
  · exact nofun

end Manuscript.Config
