import Manuscript.Proofs.Config.Outcome

/-!
# Which options are valid

Sizes are meant to be positive, and colours to be six hexadecimal digits (`DocxOptions.Valid`). Two
things pass the check besides: a size that is not a number, which no comparison with zero gives
away, and a line feed behind the digits of a colour (`DocxOptions.Admitted`). All options are of
this kind, whether they have been set by name or by a configuration, and whatever is of this kind
can be set (`Config.admits_docx`). So valid values are never refused, and options are valid if and
only if neither of the two has been let in (`DocxOptions.admitted_and_exact_iff`).

* `DocxOptions.Meets`: what is asked of sizes and of colours, wherever there is one;
* `DocxOptions.rules_iff_admitted`: the rules of options ask for just that;
* `Options.exists_update_iff`, `Options.Becomes.meets`: which values can be set, and what is kept of
  them.
-/

namespace Manuscript

/-! ## Sizes and colours -/

/-- The value is a positive number. -/
def Value.IsPositive (v : Value) : Prop :=
  ∃ n, v.asNumber = .ok n ∧ n.Positive

/-- A number passes for positive if it is, or if it is no number at all. -/
theorem Number.nonpos_eq_false_iff {n : Number} :
    n.nonpos = false ↔ n.Positive ∨ n = .float .nan := by
  cases n with
  | whole n => simp [nonpos, Positive]
  | float x =>
    by_cases hx : x = .nan
    · subst hx
      simp [nonpos, Binary.nonpos]
    · simp [nonpos, Positive, hx]

theorem Value.isPositive_number_iff {n : Number} : (number n).IsPositive ↔ n.Positive := by
  simp [IsPositive, asNumber]

/-- A value passes for a size if it is positive, or is no number at all. -/
theorem Value.isSize_iff {v : Value} : v.isSize = true ↔ v.IsPositive ∨ v = .float .nan := by
  cases v with
  | number n => simp [isSize, Number.nonpos_eq_false_iff, isPositive_number_iff]
  | bool b => cases b <;> simp [isSize, IsPositive, asNumber, Number.Positive, ofBool]
  | _ => simp [isSize, IsPositive, asNumber]

theorem Value.IsPositive.ne_nan {v : Value} (h : v.IsPositive) : v ≠ .float .nan := by
  rintro rfl
  exact (isPositive_number_iff.1 h).1 rfl

/-- The text is six hexadecimal digits. -/
def IsSixDigits (s : String) : Prop :=
  s.length = 6 ∧ ∀ c ∈ s.toList, c.isHexDigit = true

instance (s : String) : Decidable (IsSixDigits s) :=
  decidable_of_iff (s.length = 6 ∧ s.toList.all Char.isHexDigit = true) <| by
    rw [IsSixDigits, List.all_eq_true]

/-- There is a line feed at the end of the text. -/
def EndsLine (s : String) : Prop :=
  ∃ t, s = t ++ "\n"

theorem IsSixDigits.not_endsLine {s : String} (h : IsSixDigits s) : ¬ EndsLine s := by
  rintro ⟨t, rfl⟩
  have hfeed := h.2 '\n' (by simp)
  exact absurd hfeed (by decide)

/-- Six digits in base sixteen, as the check of colours finds them. -/
theorem isSixDigits_ofList_iff {cs : List Char} :
    IsSixDigits (.ofList cs) ↔ (cs.length == 6 && cs.all fun c =>
      c.isDigit || ('a' ≤ c && c ≤ 'f') || ('A' ≤ c && c ≤ 'F')) = true := by
  rw [IsSixDigits, String.toList_ofList, String.length_ofList, Bool.and_eq_true, beq_iff_eq,
    List.all_eq_true]
  rfl

/-- The check of colours does not see a line feed at the end. -/
theorem isColor_append_iff {t : String} : isColor (t ++ "\n") = true ↔ IsSixDigits t := by
  have hlist : (t ++ "\n").toList = t.toList ++ ['\n'] := String.toList_append
  have hlast : (t.toList ++ ['\n']).getLast? = some '\n' := List.getLast?_concat
  rw [isColor, hlist, hlast, List.length_append, List.length_singleton]
  by_cases ht : t.length = 6
  · have hlength : t.toList.length = 6 := by rwa [String.length_toList]
    rw [if_pos ⟨by rw [hlength], rfl⟩, List.take_left' hlength, ← isSixDigits_ofList_iff,
      String.ofList_toList]
  · -- The line feed counts as one of the digits, which it is not.
    have hlength : t.toList.length ≠ 6 := by rwa [String.length_toList]
    rw [if_neg fun h => hlength (Nat.succ.inj h.1), ← isSixDigits_ofList_iff]
    refine iff_of_false (fun h => ?_) fun h => ht h.1
    exact h.not_endsLine ⟨t, by rw [← hlist, String.ofList_toList]⟩

theorem isColor_of_not_endsLine {s : String} (h : ¬ EndsLine s) :
    isColor s = true ↔ IsSixDigits s := by
  have hlast : s.toList.getLast? ≠ some '\n' := by
    intro hlast
    obtain ⟨cs, hcs⟩ := List.getLast?_eq_some_iff.1 hlast
    exact h ⟨.ofList cs, String.toList_injective (by simpa using hcs)⟩
  rw [isColor, if_neg fun hlong => hlast hlong.2, ← isSixDigits_ofList_iff, String.ofList_toList]

/-- A text passes for a colour if it is six digits, or six digits and a line feed. -/
theorem isColor_iff {s : String} :
    isColor s = true ↔ IsSixDigits s ∨ ∃ t, IsSixDigits t ∧ s = t ++ "\n" := by
  by_cases h : EndsLine s
  · obtain ⟨t, rfl⟩ := h
    rw [isColor_append_iff]
    constructor
    · exact fun ht => .inr ⟨t, ht, rfl⟩
    · rintro (hs | ⟨t', ht', heq⟩)
      · exact absurd ⟨t, rfl⟩ hs.not_endsLine
      · rwa [(String.append_left_inj _).1 heq]
  · rw [isColor_of_not_endsLine h, or_iff_left]
    rintro ⟨t, -, heq⟩
    exact h ⟨t, heq⟩

/-! ## What is asked of values -/

/-- The rule of colours takes the texts that pass for one. -/
theorem Rule.color_eq_ok_iff {name : String} {v : Value} :
    color name v = .ok () ↔ ∃ s, v = .text s ∧ isColor s = true := by
  cases v with
  | text s => cases h : isColor s <;> simp [color, h]
  | _ => simp [color]

theorem Rule.optionalColor_eq_ok_iff {name : String} {v : Value} :
    optionalColor name v = .ok () ↔ v = .null ∨ ∃ s, v = .text s ∧ isColor s = true := by
  cases v with
  | null => simp [optionalColor]
  | _ => simp [optionalColor, color_eq_ok_iff]

namespace DocxOptions

/-- The options that are sizes. -/
def sizeNames : List String :=
  ["default_font_size", "code_font_size", "heading_fallback_size", "table_width",
    "image_width_inches"]

/-- Each size and each colour is one of some kind. The sizes of a ladder are among the sizes, and
    the background of code may be no colour at all. -/
structure Meets (size : Value → Prop) (color : String → Prop) (value : String → Value) : Prop where
  sizes : ∀ name ∈ sizeNames, size (value name)
  ladder : ∃ entries, value ladderName = .map entries ∧ ∀ e ∈ entries, size e.2
  linkColor : ∃ s, value "link_color" = .text s ∧ color s
  codeBackground : value "code_background" = .null ∨
    ∃ s, value "code_background" = .text s ∧ color s

/-- Values as they are meant to be: sizes are positive, and colours are six digits. -/
def Valid (value : String → Value) : Prop :=
  Meets Value.IsPositive IsSixDigits value

/-- Values that pass the check: a size may not be a number, and a line feed may follow the digits of
    a colour. -/
def Admitted (value : String → Value) : Prop :=
  Meets (fun v => v.IsPositive ∨ v = .float .nan)
    (fun s => IsSixDigits s ∨ ∃ t, IsSixDigits t ∧ s = t ++ "\n") value

/-- Values of which every size is a number, and no colour has a line feed at its end. -/
def Exact (value : String → Value) : Prop :=
  Meets (· ≠ .float .nan) (¬ EndsLine ·) value

section Meets

variable {size size' : Value → Prop} {color color' : String → Prop} {value : String → Value}

/-- Demands that are met are met where they are weaker. -/
theorem Meets.imp (hsize : ∀ v, size v → size' v) (hcolor : ∀ s, color s → color' s)
    (h : Meets size color value) : Meets size' color' value where
  sizes name hname := hsize _ (h.sizes name hname)
  ladder := h.ladder.imp fun _ hl => hl.imp_right fun hall e he => hsize _ (hall e he)
  linkColor := h.linkColor.imp fun _ hs => hs.imp_right (hcolor _)
  codeBackground := h.codeBackground.imp_right fun hb => hb.imp fun _ hs => hs.imp_right (hcolor _)

/-- Demands that are met one by one are met together. -/
theorem Meets.and (h : Meets size color value) (h' : Meets size' color' value) :
    Meets (fun v => size v ∧ size' v) (fun s => color s ∧ color' s) value where
  sizes name hname := ⟨h.sizes name hname, h'.sizes name hname⟩
  ladder := by
    obtain ⟨entries, hmap, hall⟩ := h.ladder
    obtain ⟨entries', hmap', hall'⟩ := h'.ladder
    cases hmap.symm.trans hmap'
    exact ⟨entries, hmap, fun e he => ⟨hall e he, hall' e he⟩⟩
  linkColor := by
    obtain ⟨s, hs, hcolor⟩ := h.linkColor
    obtain ⟨s', hs', hcolor'⟩ := h'.linkColor
    cases hs.symm.trans hs'
    exact ⟨s, hs, hcolor, hcolor'⟩
  codeBackground := by
    rcases h.codeBackground with hnull | ⟨s, hs, hcolor⟩
    · exact .inl hnull
    · rcases h'.codeBackground with hnull | ⟨s', hs', hcolor'⟩
      · exact .inl hnull
      · cases hs.symm.trans hs'
        exact .inr ⟨s, hs, hcolor, hcolor'⟩

/-- Valid values are admitted. -/
theorem Valid.admitted (h : Valid value) : Admitted value :=
  h.imp (fun _ => .inl) fun _ => .inl

/-- Of what passes the check, the values that are meant are those that let in neither of the two. -/
theorem admitted_and_exact_iff : Admitted value ∧ Exact value ↔ Valid value := by
  constructor
  · rintro ⟨hadmitted, hexact⟩
    refine (hadmitted.and hexact).imp (fun v hv => hv.1.resolve_right hv.2) fun s hs => ?_
    exact hs.1.resolve_right fun ⟨t, _, ht⟩ => hs.2 ⟨t, ht⟩
  · intro h
    exact ⟨h.admitted, h.imp (fun _ => Value.IsPositive.ne_nan) fun _ => IsSixDigits.not_endsLine⟩

/-- The values that meet all rules. -/
theorem rules_iff_admitted :
    (∀ rule ∈ rules, rule.2 (value rule.1) = .ok ()) ↔ Admitted value := by
  simp only [rules, List.forall_mem_cons, Rule.size_eq_ok_iff, Rule.ladder_eq_ok_iff,
    Rule.color_eq_ok_iff, Rule.optionalColor_eq_ok_iff, Value.isSize_iff, isColor_iff]
  constructor
  · rintro ⟨hfont, hcode, hheading, hladder, hwidth, himage, hlink, hbackground, -⟩
    refine ⟨?_, hladder, hlink, hbackground⟩
    simp only [sizeNames, List.forall_mem_cons]
    exact ⟨hfont, hcode, hheading, hwidth, himage, List.forall_mem_nil _⟩
  · rintro ⟨hsizes, hladder, hlink, hbackground⟩
    simp only [sizeNames, List.forall_mem_cons] at hsizes
    obtain ⟨hfont, hcode, hheading, hwidth, himage, -⟩ := hsizes
    exact ⟨hfont, hcode, hheading, hladder, hwidth, himage, hlink, hbackground,
      List.forall_mem_nil _⟩

end Meets

end DocxOptions

/-! ## Setting options -/

open DocxOptions (Meets Valid Admitted Exact ladderName rules_iff_admitted)

/-- Each key of a ladder stands for a level: it is a whole number, or is read as one. -/
def Ladder.HasLevels (v : Value) : Prop :=
  ∀ entries, v = .map entries → ∀ e ∈ entries, ∃ n, readLevel e.1 = .ok n

/-- A ladder can be read if all its keys can be read as levels. -/
theorem Ladder.exists_read_iff {v : Value} : (∃ w, read v = .ok w) ↔ HasLevels v := by
  constructor
  · rintro ⟨w, hw⟩ entries rfl
    refine (forall_ok_or_failsFirst _ entries).resolve_right ?_
    rintro ⟨e, he⟩
    cases hw.symm.trans (read_eq_error_iff.2 ⟨entries, rfl, he⟩)
  · intro h
    cases hread : read v with
    | ok w => exact ⟨w, rfl⟩
    | error e =>
      obtain ⟨entries, rfl, hfails⟩ := read_eq_error_iff.1 hread
      obtain ⟨entry, hentry, he⟩ := hfails.exists_mem
      obtain ⟨n, hn⟩ := h entries rfl entry hentry
      cases hn.symm.trans he

namespace Options

variable {o o' : Options .docx} {new : Settings}

/-- New settings that options take: there is an option of each name, the values that are then given
    pass the check, and the ladder among them can be read. -/
structure Takes (o : Options .docx) (new : Settings) : Prop where
  names : ∀ name ∈ new.names, name ∈ OptionSet.docx.names
  admitted : Admitted (o.given new)
  levels : Ladder.HasLevels (o.given new ladderName)

/-- Options can be updated if and only if they take what is given. -/
theorem exists_update_iff : (∃ o', o.update new = .ok o') ↔ o.Takes new := by
  constructor
  · rintro ⟨o', h⟩
    obtain ⟨hnames, hrules, hkept⟩ := update_eq_ok_iff.1 h
    have hladder := hkept ladderName (by decide)
    exact ⟨hnames, rules_iff_admitted.1 hrules, Ladder.exists_read_iff.1 ⟨_, hladder⟩⟩
  · rintro ⟨hnames, hadmitted, hlevels⟩
    cases h : o.update new with
    | ok o' => exact ⟨o', rfl⟩
    | error e =>
      -- What is refused breaks a rule, or is a ladder that cannot be read.
      cases (update_eq_error_iff hnames).1 h with
      | rule hfails =>
        obtain ⟨rule, hrule, he⟩ := hfails.exists_mem
        cases (rules_iff_admitted.2 hadmitted rule hrule).symm.trans he
      | ladder _ _ hread =>
        obtain ⟨w, hw⟩ := Ladder.exists_read_iff.2 hlevels
        cases hw.symm.trans hread

/-- All but the ladder is kept as it is given. -/
theorem Becomes.value_eq_given (h : o.Becomes new o') {name : String}
    (hname : name ∈ OptionSet.docx.names) (hne : name ≠ ladderName) :
    o'.value name = o.given new name := by
  have hkept := h.kept name hname
  rw [OptionSet.keep_of_not_ladder fun hladder => hne hladder.2] at hkept
  exact (Except.ok.inj hkept).symm

/-- Whatever is asked of sizes and colours holds of those that are kept if it holds of those that
    are given. -/
theorem Becomes.meets {size : Value → Prop} {color : String → Prop} (h : o.Becomes new o')
    (hgiven : Meets size color (o.given new)) : Meets size color o'.value := by
  have hsize : ∀ name ∈ DocxOptions.sizeNames, name ∈ OptionSet.docx.names ∧ name ≠ ladderName := by
    decide
  refine ⟨fun name hname => ?_, ?_, ?_, ?_⟩
  · obtain ⟨hmem, hne⟩ := hsize name hname
    rw [h.value_eq_given hmem hne]
    exact hgiven.sizes name hname
  · -- A ladder that is read has no sizes but those that it is given.
    obtain ⟨entries, hmap, hall⟩ := hgiven.ladder
    have hread := h.kept ladderName (by decide)
    rw [hmap] at hread
    exact Ladder.forall_size_read hall hread
  · have hname : "link_color" ∈ OptionSet.docx.names := by decide
    rw [h.value_eq_given hname (by decide)]
    exact hgiven.linkColor
  · have hname : "code_background" ∈ OptionSet.docx.names := by decide
    rw [h.value_eq_given hname (by decide)]
    exact hgiven.codeBackground

end Options

namespace Config

variable {config entries : List (Value × Value)} {markdown markdown' : Options .markdown}
  {o o' : Options .docx}

/-- A configuration gives the options that its table gives by name. -/
theorem options_eq_ok_iff_update (htables : HasKeysIn config tableNames)
    (hmarkdown : Sets config markdown markdown')
    (htable : Value.lookup config (tableName .docx) = some (.map entries))
    (htext : HasTextKeys entries) :
    options config markdown o = .ok (markdown', o') ↔ o.update (textEntries entries) = .ok o' := by
  rw [options_eq_ok_iff, Options.update_eq_ok_iff]
  constructor
  · rintro ⟨-, -, hdocx⟩
    cases hdocx with
    | absent hnone => cases hnone.symm.trans htable
    | table hmap _ hbecomes =>
      cases hmap.symm.trans htable
      exact hbecomes
  · intro hbecomes
    exact ⟨htables, hmarkdown, .table htable ((hasKeysIn_iff htext).2 hbecomes.names) hbecomes⟩

/-- All options have sizes and colours that pass the check, so they are valid unless a size is no
    number or a colour ends with a line feed. New settings are taken if and only if their values
    pass it; in particular they are taken if these are valid, and then what is made of them is. A
    configuration sets its options in the same way. -/
theorem admits_docx (o : Options .docx) :
    Admitted o.value ∧ (Valid o.value ↔ Exact o.value) ∧
    (∀ new, (∃ o', o.update new = .ok o') ↔ o.Takes new) ∧
    (∀ new, (∀ name ∈ new.names, name ∈ OptionSet.docx.names) →
      Ladder.HasLevels (o.given new ladderName) → Valid (o.given new) →
      ∃ o', o.update new = .ok o' ∧ Valid o'.value) ∧
    ∀ config markdown markdown' entries, HasKeysIn config tableNames →
      Sets config markdown markdown' →
      Value.lookup config (tableName .docx) = some (.map entries) → HasTextKeys entries →
      ∀ o', options config markdown o = .ok (markdown', o') ↔
        o.update (textEntries entries) = .ok o' := by
  have hadmitted : Admitted o.value := rules_iff_admitted.1 o.rules_value
  refine ⟨hadmitted, ?_, fun new => Options.exists_update_iff, ?_, ?_⟩
  · rw [← DocxOptions.admitted_and_exact_iff, and_iff_right hadmitted]
  · intro new hnames hlevels hvalid
    obtain ⟨o', ho'⟩ := Options.exists_update_iff.2 ⟨hnames, hvalid.admitted, hlevels⟩
    exact ⟨o', ho', (Options.update_eq_ok_iff.1 ho').meets hvalid⟩
  · intro config markdown markdown' entries htables hmarkdown htable htext o'
    exact options_eq_ok_iff_update htables hmarkdown htable htext

/-- A heading size is taken with a level that is read from text, and leaves options valid; one that
    is no number is taken as well, and does not. -/
theorem admits_docx_nan :
    (∃ o', options (setting .docx "heading_font_sizes" (.map [(.text " 2", .int 7)])) =
      .ok (.start _, o') ∧ Valid o'.value) ∧
    ∃ o', (Options.start .docx).update [("heading_font_sizes", .map [(.text " 2", .float .nan)])] =
      .ok o' ∧ ¬ Valid o'.value := by
  obtain ⟨-, -, htakes, hvalid, hconfig⟩ := admits_docx (.start .docx)
  let new (v : Value) : Settings := [("heading_font_sizes", .map [(.text " 2", v)])]
  have hnames (v : Value) : ∀ name ∈ (new v).names, name ∈ OptionSet.docx.names := by
    have hladder : ladderName ∈ OptionSet.docx.names := by decide
    exact List.forall_mem_singleton.2 hladder
  have hlevels (v : Value) : Ladder.HasLevels ((Options.start .docx).given (new v) ladderName) := by
    rintro entries ⟨⟩
    exact List.forall_mem_singleton.2 ⟨2, rfl⟩
  have hpositive (n : Int) (hn : 0 < n) : (Value.int n).IsPositive := ⟨_, rfl, hn⟩
  -- All sizes but that of the heading are those that options begin with.
  have hmeets (v : Value) (size : Value → Prop) (hsize : ∀ w, w.IsPositive → size w)
      (hv : size v) : Meets size IsSixDigits ((Options.start .docx).given (new v)) := by
    have hlink : IsSixDigits "0000FF" := by decide
    have hbackground : IsSixDigits "EEEEEE" := by decide
    refine ⟨?_, ⟨_, rfl, List.forall_mem_singleton.2 hv⟩, ⟨_, rfl, hlink⟩,
      .inr ⟨_, rfl, hbackground⟩⟩
    simp only [DocxOptions.sizeNames, List.forall_mem_cons]
    exact ⟨hsize _ (hpositive 11 (by decide)), hsize _ (hpositive 10 (by decide)),
      hsize _ (hpositive 14 (by decide)), hsize _ (hpositive 9000 (by decide)),
      hsize _ ⟨_, rfl, by decide, by decide⟩, List.forall_mem_nil _⟩
  constructor
  · have hgiven := hmeets (.int 7) _ (fun _ => id) (hpositive 7 (by decide))
    obtain ⟨o', ho', hvalid'⟩ := hvalid (new (.int 7)) (hnames _) (hlevels _) hgiven
    refine ⟨o', (hconfig _ _ _ [(.text "heading_font_sizes", _)] ?_ (.absent rfl) rfl ?_ o').2 ho',
      hvalid'⟩
    · simp [HasKeysIn, setting, tableNames]
    · simp [HasTextKeys]
  · have hadmitted : Admitted ((Options.start .docx).given (new (.float .nan))) :=
      (hmeets _ (fun v => v.IsPositive ∨ v = .float .nan) (fun _ => .inl) (.inr rfl)).imp
        (fun _ => id) fun _ => .inl
    obtain ⟨o', ho'⟩ := (htakes (new _)).2 ⟨hnames _, hadmitted, hlevels _⟩
    have hkept : Value.map [(.int 2, .float .nan)] = o'.value ladderName :=
      Except.ok.inj ((Options.update_eq_ok_iff.1 ho').kept ladderName (by decide))
    refine ⟨o', ho', fun h => ?_⟩
    obtain ⟨entries, hmap, hall⟩ := h.ladder
    cases hkept.trans hmap
    exact (hall _ List.mem_cons_self).ne_nan rfl

end Config

end Manuscript
