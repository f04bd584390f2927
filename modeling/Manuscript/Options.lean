import Manuscript.Error
import Manuscript.Options.Docx
import Manuscript.Options.Markdown

/-!
# Options

Options of a set are a value for each of its names, which has passed the check of the set
(`Options`). They begin with the defaults and are set by name (`Options.update`). A check refuses
values that break a rule and reads those that may be given in more than one form; what has passed it
passes it again as it is (`OptionSet.check_check`).

Options are used by their fields (`MarkdownOptions.of`, `DocxOptions.of`): any value counts as a
flag, by whether it is given.
-/

namespace Manuscript

/-! ## Sets of options -/

namespace OptionSet

/-- The names of the options of a set, in order. -/
def names : OptionSet → List String
  | markdown => MarkdownOptions.names
  | docx => DocxOptions.names

/-- The values that options begin with. -/
def defaults : OptionSet → Settings
  | markdown => ({} : MarkdownOptions).describe
  | docx => ({} : DocxOptions).describe

/-- The rules of the values of options, in the order in which they are checked. -/
def rules : OptionSet → List (String × Rule)
  | markdown => []
  | docx => DocxOptions.rules

/-- The value that an option keeps of one that it is set to. -/
def keep (set : OptionSet) (name : String) (v : Value) : Except SettingError Value :=
  match set with
  | markdown => .ok v
  | docx => if name = DocxOptions.ladderName then Ladder.read v else .ok v

/-- The values that options keep. -/
def keepAll (set : OptionSet) : Settings → Except SettingError Settings
  | [] => .ok []
  | (name, v) :: rest => do return (name, ← set.keep name v) :: (← set.keepAll rest)

/-- Refuses values of which one breaks a rule. -/
def checkRules (set : OptionSet) (s : Settings) : Except SettingError Unit :=
  forM set.rules fun rule => rule.2 (s.value rule.1)

/-- The values that options keep, if none breaks a rule. -/
def check (set : OptionSet) (s : Settings) : Except SettingError Settings := do
  set.checkRules s
  set.keepAll s

/-! ### Checking again -/

theorem keep_keep {set : OptionSet} {name : String} {v w : Value}
    (h : set.keep name v = .ok w) : set.keep name w = .ok w := by
  cases set with
  | markdown => rfl
  | docx =>
    rw [keep] at h ⊢
    split at h
    · next hname =>
      rw [if_pos hname]
      exact Ladder.read_read h
    · next hname => rw [if_neg hname]

/-- A value that meets a rule meets it as it is kept. -/
theorem rule_keep {set : OptionSet} {rule : String × Rule} (hrule : rule ∈ set.rules)
    {v w : Value} (hv : rule.2 v = .ok ()) (h : set.keep rule.1 v = .ok w) :
    rule.2 w = .ok () := by
  cases set with
  | markdown => cases hrule
  | docx =>
    rw [keep] at h
    split at h
    · next hname =>
      rw [DocxOptions.rule_ladder rule hrule hname] at hv ⊢
      exact Ladder.ladder_read hv h
    · cases h
      exact hv

theorem keepAll_cons_eq_ok_iff {set : OptionSet} {e : String × Value} {rest t : Settings} :
    set.keepAll (e :: rest) = .ok t ↔ ∃ w t', set.keep e.1 e.2 = .ok w ∧
      set.keepAll rest = .ok t' ∧ t = (e.1, w) :: t' := by
  rw [keepAll]
  cases set.keep e.1 e.2 with
  | error => simp [bind, Except.bind]
  | ok w =>
    cases set.keepAll rest with
    | error => simp [bind, Except.bind]
    | ok t' => simp [bind, Except.bind, pure, Except.pure, eq_comm]

theorem names_of_keepAll {set : OptionSet} {s t : Settings} (h : set.keepAll s = .ok t) :
    t.names = s.names := by
  induction s generalizing t with
  | nil =>
    cases h
    rfl
  | cons e rest ih =>
    obtain ⟨w, t', -, hrest, rfl⟩ := keepAll_cons_eq_ok_iff.1 h
    simpa [Settings.names] using ih hrest

theorem keepAll_keepAll {set : OptionSet} {s t : Settings} (h : set.keepAll s = .ok t) :
    set.keepAll t = .ok t := by
  induction s generalizing t with
  | nil =>
    cases h
    rfl
  | cons e rest ih =>
    obtain ⟨w, t', hw, hrest, rfl⟩ := keepAll_cons_eq_ok_iff.1 h
    exact keepAll_cons_eq_ok_iff.2 ⟨w, t', keep_keep hw, ih hrest, rfl⟩

/-- What is kept of a name is what is kept of its value. -/
theorem keep_value {set : OptionSet} {s t : Settings} {name : String}
    (h : set.keepAll s = .ok t) (hname : name ∈ s.names) :
    set.keep name (s.value name) = .ok (t.value name) := by
  induction s generalizing t with
  | nil => cases hname
  | cons e rest ih =>
    obtain ⟨w, t', hw, hrest, rfl⟩ := keepAll_cons_eq_ok_iff.1 h
    obtain ⟨n, v⟩ := e
    by_cases hn : n = name
    · subst hn
      rwa [Settings.value_cons_self, Settings.value_cons_self]
    · rw [Settings.value_cons_of_ne hn, Settings.value_cons_of_ne hn]
      refine ih hrest ?_
      simpa [Settings.names, Ne.symm hn] using hname

theorem check_eq_ok_iff {set : OptionSet} {s t : Settings} :
    set.check s = .ok t ↔
      (∀ rule ∈ set.rules, rule.2 (s.value rule.1) = .ok ()) ∧ set.keepAll s = .ok t := by
  rw [check, ← forM_eq_ok_iff, ← checkRules]
  cases set.checkRules s <;> simp [bind, Except.bind]

/-- The names of rules are those of options. -/
theorem mem_names_of_rule {set : OptionSet} {rule : String × Rule} (h : rule ∈ set.rules) :
    rule.1 ∈ set.names := by
  cases set with
  | markdown => cases h
  | docx =>
    have hall : ∀ name ∈ DocxOptions.rules.map (·.1), name ∈ DocxOptions.names := by decide
    exact hall _ (List.mem_map_of_mem h)

/-- What has passed a check passes it again as it is. -/
theorem check_check {set : OptionSet} {s t : Settings} (hs : s.names = set.names)
    (h : set.check s = .ok t) : set.check t = .ok t := by
  obtain ⟨hrules, hkeep⟩ := check_eq_ok_iff.1 h
  refine check_eq_ok_iff.2 ⟨fun rule hrule => ?_, keepAll_keepAll hkeep⟩
  have hname : rule.1 ∈ s.names := hs ▸ mem_names_of_rule hrule
  exact rule_keep hrule (hrules rule hrule) (keep_value hkeep hname)

end OptionSet

/-! ## Options of a set -/

/-- Options of a set: a value for each of its names, all of which have passed its check. -/
structure Options (set : OptionSet) where
  values : Settings
  names_eq : values.names = set.names
  checked : set.check values = .ok values

namespace Options

variable {set : OptionSet}

/-- The value of an option. -/
def value (o : Options set) (name : String) : Value :=
  o.values.value name

/-- The options of values that pass the check. -/
def ofSettings (s : Settings) (hs : s.names = set.names) : Except SettingError (Options set) :=
  match h : set.check s with
  | .error e => .error e
  | .ok t =>
    .ok ⟨t, (OptionSet.names_of_keepAll (OptionSet.check_eq_ok_iff.1 h).2).trans hs,
      OptionSet.check_check hs h⟩

/-- The options with new settings. -/
def update (o : Options set) (new : Settings) : Except SettingError (Options set) := do
  new.checkNames set.names
  ofSettings (o.values.override new) ((Settings.names_override _ _).trans o.names_eq)

/-- The options that hold where none is set. -/
def start : (set : OptionSet) → Options set
  | .markdown => ⟨OptionSet.markdown.defaults, rfl, rfl⟩
  | .docx => ⟨OptionSet.docx.defaults, rfl, rfl⟩

instance : Inhabited (Options set) := ⟨start set⟩

/-- The size of a heading of a level without a style of its own. -/
def headingSize (o : Options .docx) (level : Int) : Value :=
  let fallback := o.value "heading_fallback_size"
  match o.value DocxOptions.ladderName with
  | .map entries => (Ladder.sizeAt entries level).getD fallback
  | _ => fallback

end Options

/-! ## Using options -/

/-- The options of reading Markdown by their fields. -/
def MarkdownOptions.of (o : Options .markdown) : MarkdownOptions where
  extractMetadata := (o.value "extract_metadata").isTruthy
  parseTables := (o.value "parse_tables").isTruthy
  parseUnderline := (o.value "parse_underline").isTruthy
  parseFrontmatter := (o.value "parse_frontmatter").isTruthy
  stripCodeTrailingNewline := (o.value "strip_code_trailing_newline").isTruthy

/-- A value as a text. -/
def Value.asText : Value → Except Fault String
  | .text s => .ok s
  | _ => .error .wrongKind

/-- A value as a text, if one is given. -/
def Value.asGivenText (v : Value) : Except Fault (Option String) :=
  match v with
  | .text s => .ok (some s)
  | v => if v.isTruthy then .error .wrongKind else .ok none

/-- A value as a number. A truth value is one. -/
def Value.asNumber : Value → Except Fault Number
  | .number n => .ok n
  | .bool b => .ok (.whole (ofBool b))
  | _ => .error .wrongKind

/-- A value as a ladder of sizes. -/
def Value.asLadder : Value → Except Fault SizeLadder
  | .map entries => entries.mapM fun e => do
    match ← e.1.asNumber with
    | .whole level => return (level, ← e.2.asNumber)
    | .float _ => throw .wrongKind
  | _ => .error .wrongKind

namespace DocxOptions

/-- The options of laying out and writing documents by their fields. A text that is none can be used
    nowhere, but for the creator, of whom any value gives the text, and the style of tables, which
    no other value is the name of. -/
def of (o : Options .docx) : Except Fault DocxOptions := do
  let flag (name : String) : Bool := (o.value name).isTruthy
  return {
    failOnResourceErrors := flag "fail_on_resource_errors"
    creator := match o.value "creator" with
      | .text s => some s
      | v => if v.isTruthy then some v.toText else none
    defaultFont := ← (o.value "default_font").asText
    defaultFontSize := ← (o.value "default_font_size").asNumber
    codeFont := ← (o.value "code_font").asText
    codeFontSize := ← (o.value "code_font_size").asNumber
    codeBackground := ← (o.value "code_background").asGivenText
    headingFontSizes := ← (o.value ladderName).asLadder
    headingFallbackSize := ← (o.value "heading_fallback_size").asNumber
    tableStyle := (o.value "table_style").asText.toOption
    tableWidth := ← (o.value "table_width").asNumber
    templatePath := ← (o.value "template_path").asGivenText
    bulletGlyph := (← (o.value "bullet_glyph").asGivenText).getD ""
    numberOrderedLists := flag "number_ordered_lists"
    nativeHyperlinks := flag "native_hyperlinks"
    embedImages := flag "embed_images"
    imageWidthInches := ← (o.value "image_width_inches").asNumber
    softBreakAsSpace := flag "soft_break_as_space"
    linkColor := ← (o.value "link_color").asText }

end DocxOptions

end Manuscript
