import Manuscript.Options
import Manuscript.Proofs.Docx.Outcome
import Mathlib.Data.List.Nodup

/-!
# How options are set

Setting options gives each of them what it keeps of the value that is now given for it: the one that
it is set to, or the one that it had (`Options.given`). It succeeds if there is an option of each
name and no value that is given breaks a rule or cannot be kept (`Options.Becomes`), and is refused
if not (`Options.Refuses`).

* `Options.update_eq_ok_iff`, `Options.update_eq_error_iff`: how setting options ends;
* `Options.update_update`: options that are set twice are those that are set once, to the later of
  the values;
* `Options.exists_update_iff_fits`: what is taken of settings that do not touch the ladder;
* `Options.exists_update`: an option without a rule takes any value.
-/

namespace Manuscript

/-- The first of some computations that fails does so with an error. -/
def FailsFirst (f : α → Except ε β) (as : List α) (e : ε) : Prop :=
  ∃ before a after, as = before ++ a :: after ∧ (∀ b ∈ before, ∃ r, f b = .ok r) ∧ f a = .error e

/-- What fails first is a member. -/
theorem FailsFirst.exists_mem {f : α → Except ε β} {as : List α} {e : ε} (h : FailsFirst f as e) :
    ∃ a ∈ as, f a = .error e := by
  obtain ⟨before, a, after, rfl, -, ha⟩ := h
  exact ⟨a, List.mem_append_cons_self, ha⟩

theorem failsFirst_nil {f : α → Except ε β} {e : ε} : ¬ FailsFirst f [] e := by
  rintro ⟨before, a, after, h, -⟩
  cases before <;> cases h

/-- A computation in front fails itself, or lets the others do so. -/
theorem failsFirst_cons {f : α → Except ε β} {a : α} {as : List α} {e : ε} :
    FailsFirst f (a :: as) e ↔ f a = .error e ∨ (∃ r, f a = .ok r) ∧ FailsFirst f as e := by
  constructor
  · rintro ⟨_ | ⟨b, before⟩, a', after, h, hbefore, ha⟩
    · cases h
      exact .inl ha
    · cases h
      obtain ⟨hb, hbefore⟩ := List.forall_mem_cons.1 hbefore
      exact .inr ⟨hb, before, a', after, rfl, hbefore, ha⟩
  · rintro (ha | ⟨ha, before, a', after, rfl, hbefore, ha'⟩)
    · exact ⟨[], a, as, rfl, by simp, ha⟩
    · exact ⟨a :: before, a', after, rfl, List.forall_mem_cons.2 ⟨ha, hbefore⟩, ha'⟩

/-- Computations all succeed, or one of them is the first that fails. -/
theorem forall_ok_or_failsFirst (f : α → Except ε β) (as : List α) :
    (∀ a ∈ as, ∃ r, f a = .ok r) ∨ ∃ e, FailsFirst f as e := by
  induction as with
  | nil => exact .inl (List.forall_mem_nil _)
  | cons a as ih =>
    cases ha : f a with
    | error e => exact .inr ⟨e, failsFirst_cons.2 (.inl ha)⟩
    | ok r =>
      obtain h | ⟨e, h⟩ := ih
      · exact .inl (List.forall_mem_cons.2 ⟨⟨r, ha⟩, h⟩)
      · exact .inr ⟨e, failsFirst_cons.2 (.inr ⟨⟨r, ha⟩, h⟩)⟩

/-- A loop fails with the first failure. -/
theorem forM_eq_error_iff {f : α → Except ε PUnit} {as : List α} {e : ε} :
    forM as f = .error e ↔ FailsFirst f as e := by
  induction as with
  | nil => exact iff_of_false nofun failsFirst_nil
  | cons a as ih =>
    rw [List.forM_cons, failsFirst_cons, ← ih, bind_eq_error_iff]
    exact or_congr_right exists_and_right

/-- Loops that do the same with each member are the same. -/
theorem forM_congr {f g : α → Except ε PUnit} {as : List α} (h : ∀ a ∈ as, f a = g a) :
    forM as f = forM as g := by
  induction as with
  | nil => rfl
  | cons a as ih =>
    obtain ⟨ha, h⟩ := List.forall_mem_cons.1 h
    rw [List.forM_cons, List.forM_cons, ha, ih h]

/-! ## Settings -/

namespace Settings

variable {s t new : Settings} {name : String}

theorem find?_of_not_mem (h : name ∉ s.names) : s.find? name = none := by
  rw [find?, Option.map_eq_none_iff, List.find?_eq_none]
  intro e he hname
  exact h (eq_of_beq hname ▸ List.mem_map_of_mem he)

/-- Of two lists of settings the first one decides. -/
theorem find?_append (s t : Settings) (name : String) :
    find? (s ++ t) name = (s.find? name).or (t.find? name) := by
  rw [find?, List.find?_append, Option.map_or]
  rfl

theorem find?_singleton (n : String) (v : Value) (name : String) :
    find? [(n, v)] name = if name = n then some v else none := by
  by_cases h : name = n
  · simp [find?, h]
  · simp [find?, h, Ne.symm h]

theorem value_override (h : name ∈ s.names) :
    (s.override new).value name = (new.find? name).getD (s.value name) := by
  induction s with
  | nil => cases h
  | cons e rest ih =>
    obtain ⟨n, v⟩ := e
    change value ((n, (new.find? n).getD v) :: override rest new) name = _
    by_cases hn : n = name
    · subst hn
      rw [value_cons_self, value_cons_self]
    · rw [value_cons_of_ne hn, value_cons_of_ne hn]
      exact ih (by simpa [names, Ne.symm hn] using h)

/-- Settings are their names, in order, with the value of each. -/
theorem ext_of_names (hnames : s.names = t.names) (hnodup : s.names.Nodup)
    (h : ∀ name ∈ s.names, s.value name = t.value name) : s = t := by
  induction s generalizing t with
  | nil => exact (List.map_eq_nil_iff.1 hnames.symm).symm
  | cons e rest ih =>
    obtain _ | ⟨⟨n', v'⟩, rest'⟩ := t
    · cases hnames
    obtain ⟨n, v⟩ := e
    obtain ⟨rfl, hrest⟩ := List.cons.inj hnames
    obtain ⟨hfresh, hnodup⟩ := List.nodup_cons.1 hnodup
    obtain ⟨hvalue, h⟩ := List.forall_mem_cons.1 h
    rw [value_cons_self, value_cons_self] at hvalue
    -- No name of the rest is the one in front, so its value is looked up in the rest.
    have hlater : ∀ name ∈ names rest, value rest name = value rest' name := by
      intro name hmem
      have hne : n ≠ name := by
        rintro rfl
        exact hfresh hmem
      have hvalue := h name hmem
      rwa [value_cons_of_ne hne, value_cons_of_ne hne] at hvalue
    rw [hvalue, ih hrest hnodup hlater]

end Settings

/-! ## What options keep -/

namespace OptionSet

variable {set : OptionSet} {s t : Settings}

/-- No set of options names one twice. -/
theorem nodup_names (set : OptionSet) : set.names.Nodup := by
  cases set <;> decide

/-- Keeping values fails at one of them. -/
theorem exists_of_keepAll_eq_error (hnodup : s.names.Nodup) {e : SettingError}
    (h : set.keepAll s = .error e) : ∃ name ∈ s.names, set.keep name (s.value name) = .error e := by
  induction s with
  | nil => cases h
  | cons entry rest ih =>
    obtain ⟨n, v⟩ := entry
    obtain ⟨hfresh, hnodup⟩ := List.nodup_cons.1 hnodup
    rw [keepAll, bind_eq_error_iff] at h
    obtain h | ⟨w, -, h⟩ := h
    · exact ⟨n, List.mem_cons_self, by rwa [Settings.value_cons_self]⟩
    · obtain hrest | ⟨t', -, ⟨⟩⟩ := bind_eq_error_iff.1 h
      obtain ⟨name, hname, hkeep⟩ := ih hnodup hrest
      have hne : n ≠ name := by
        rintro rfl
        exact hfresh hname
      exact ⟨name, List.mem_cons_of_mem _ hname, by rwa [Settings.value_cons_of_ne hne]⟩

/-- Where names are distinct, what is kept of settings is what is kept of the value of each. -/
theorem keepAll_eq_ok_iff (hnodup : s.names.Nodup) :
    set.keepAll s = .ok t ↔
      t.names = s.names ∧ ∀ name ∈ s.names, set.keep name (s.value name) = .ok (t.value name) := by
  refine ⟨fun h => ⟨names_of_keepAll h, fun _ => keep_value h⟩, ?_⟩
  rintro ⟨hnames, hkeep⟩
  cases hs : set.keepAll s with
  | error e =>
    obtain ⟨name, hname, he⟩ := exists_of_keepAll_eq_error hnodup hs
    cases (hkeep name hname).symm.trans he
  | ok t' =>
    have hnames' : t'.names = s.names := names_of_keepAll hs
    congr 1
    refine Settings.ext_of_names (hnames'.trans hnames.symm) (hnames' ▸ hnodup) fun name hname => ?_
    rw [hnames'] at hname
    exact Except.ok.inj ((keep_value hs hname).symm.trans (hkeep name hname))

theorem ladder_mem_rules :
    (DocxOptions.ladderName, Rule.ladder DocxOptions.ladderName) ∈ docx.rules := by
  simp [rules, DocxOptions.rules]

/-- All but a ladder is kept as it is. -/
theorem keep_of_not_ladder {name : String} (h : ¬ (set = .docx ∧ name = DocxOptions.ladderName))
    (v : Value) : set.keep name v = .ok v := by
  cases set with
  | markdown => rfl
  | docx => rw [keep, if_neg fun hname => h ⟨rfl, hname⟩]

/-- Only a ladder can be refused when it is kept. -/
theorem keep_eq_error_iff {name : String} {v : Value} {e : SettingError} :
    set.keep name v = .error e ↔
      set = .docx ∧ name = DocxOptions.ladderName ∧ Ladder.read v = .error e := by
  cases set with
  | markdown => simp [keep]
  | docx =>
    rw [keep]
    split <;> simp_all

/-- Keeping values fails only at the ladder of headings. -/
theorem keepAll_eq_error_iff (hnodup : s.names.Nodup) {e : SettingError} :
    set.keepAll s = .error e ↔ set = .docx ∧ DocxOptions.ladderName ∈ s.names ∧
      Ladder.read (s.value DocxOptions.ladderName) = .error e := by
  constructor
  · intro h
    obtain ⟨name, hname, hkeep⟩ := exists_of_keepAll_eq_error hnodup h
    obtain ⟨hset, rfl, hread⟩ := keep_eq_error_iff.1 hkeep
    exact ⟨hset, hname, hread⟩
  · rintro ⟨hset, hname, hread⟩
    have hkeep : set.keep DocxOptions.ladderName (s.value DocxOptions.ladderName) = .error e :=
      keep_eq_error_iff.2 ⟨hset, rfl, hread⟩
    cases h : set.keepAll s with
    | ok t => cases (keep_value h hname).symm.trans hkeep
    | error e' =>
      -- The ladder is the only one that can be refused.
      obtain ⟨name, -, hkeep'⟩ := exists_of_keepAll_eq_error hnodup h
      obtain ⟨-, rfl, hread'⟩ := keep_eq_error_iff.1 hkeep'
      cases hread.symm.trans hread'
      rfl

end OptionSet

/-! ## Setting options -/

namespace Options

variable {set : OptionSet} {o o' o'' : Options set} {new : Settings}

/-- Options keep the values that they have. -/
theorem keep_value (o : Options set) {name : String} (h : name ∈ set.names) :
    set.keep name (o.value name) = .ok (o.value name) :=
  OptionSet.keep_value (OptionSet.check_eq_ok_iff.1 o.checked).2 (o.names_eq ▸ h)

/-- The options that there are pass their own rules. -/
theorem rules_value (o : Options set) : ∀ rule ∈ set.rules, rule.2 (o.value rule.1) = .ok () :=
  (OptionSet.check_eq_ok_iff.1 o.checked).1

/-- The value that is given for an option where there are new settings. -/
def given (o : Options set) (new : Settings) (name : String) : Value :=
  (new.find? name).getD (o.value name)

theorem given_of_not_mem {name : String} (h : name ∉ new.names) :
    o.given new name = o.value name := by
  rw [given, Settings.find?_of_not_mem h, Option.getD_none]

/-- Options with new settings: each keeps the value that is given for it, and none breaks a rule. -/
structure Becomes (o : Options set) (new : Settings) (o' : Options set) : Prop where
  names : ∀ name ∈ new.names, name ∈ set.names
  rules : ∀ rule ∈ set.rules, rule.2 (o.given new rule.1) = .ok ()
  kept : ∀ name ∈ set.names, set.keep name (o.given new name) = .ok (o'.value name)

/-- Why options with new settings are refused though there is one of each name: the value that is
    given for one is the first that breaks a rule, or the ladder that is given cannot be read. -/
inductive Refuses (o : Options set) (new : Settings) : SettingError → Prop
  | rule {e : SettingError} (h : FailsFirst (fun rule => rule.2 (o.given new rule.1)) set.rules e) :
    Refuses o new e
  | ladder {e : SettingError} (hset : set = .docx)
    (hrules : ∀ rule ∈ set.rules, rule.2 (o.given new rule.1) = .ok ())
    (h : Ladder.read (o.given new DocxOptions.ladderName) = .error e) : Refuses o new e

theorem value_override (o : Options set) (new : Settings) {name : String} (h : name ∈ set.names) :
    (o.values.override new).value name = o.given new name :=
  Settings.value_override (o.names_eq ▸ h)

theorem names_override (o : Options set) (new : Settings) :
    (o.values.override new).names = set.names :=
  (Settings.names_override _ _).trans o.names_eq

theorem checkRules_override (o : Options set) (new : Settings) :
    set.checkRules (o.values.override new) =
      forM set.rules fun rule => rule.2 (o.given new rule.1) :=
  forM_congr fun rule hrule => by
    rw [o.value_override new (OptionSet.mem_names_of_rule hrule)]

theorem check_override_eq_ok_iff {t : Settings} :
    set.check (o.values.override new) = .ok t ↔
      (∀ rule ∈ set.rules, rule.2 (o.given new rule.1) = .ok ()) ∧ t.names = set.names ∧
        ∀ name ∈ set.names, set.keep name (o.given new name) = .ok (t.value name) := by
  have hnames := o.names_override new
  rw [OptionSet.check_eq_ok_iff, OptionSet.keepAll_eq_ok_iff (hnames ▸ set.nodup_names), hnames]
  refine and_congr (forall₂_congr fun rule hrule => ?_)
    (and_congr_right fun _ => forall₂_congr fun name hname => ?_)
  · rw [o.value_override new (OptionSet.mem_names_of_rule hrule)]
  · rw [o.value_override new hname]

/-- Checking fails with the first rule that is broken, or with a ladder that cannot be read. -/
theorem check_override_eq_error_iff {e : SettingError} :
    set.check (o.values.override new) = .error e ↔
      FailsFirst (fun rule => rule.2 (o.given new rule.1)) set.rules e ∨
        (∀ rule ∈ set.rules, rule.2 (o.given new rule.1) = .ok ()) ∧ set = .docx ∧
          Ladder.read (o.given new DocxOptions.ladderName) = .error e := by
  have hnames := o.names_override new
  rw [OptionSet.check, bind_eq_error_iff, ← forM_eq_error_iff, ← forM_eq_ok_iff,
    ← checkRules_override, OptionSet.keepAll_eq_error_iff (hnames ▸ set.nodup_names), hnames]
  refine or_congr_right (exists_and_right.trans (and_congr ?_ ?_))
  · exact Unique.exists_iff
  · refine and_congr_right fun hset => ?_
    subst hset
    have hname : DocxOptions.ladderName ∈ OptionSet.docx.names := by decide
    rw [o.value_override new hname, and_iff_right hname]

/-- Options are made of settings that pass the check. -/
theorem ofSettings_eq_ok_iff {s : Settings} {hs : s.names = set.names} :
    ofSettings s hs = .ok o' ↔ set.check s = .ok o'.values := by
  obtain ⟨values, hnames, hchecked⟩ := o'
  rw [ofSettings]
  split
  · next h => simp [h]
  · next t h =>
    constructor
    · intro heq
      cases heq
      exact h
    · intro h'
      cases h.symm.trans h'
      rfl

theorem ofSettings_eq_error_iff {s : Settings} {hs : s.names = set.names} {e : SettingError} :
    ofSettings s hs = .error e ↔ set.check s = .error e := by
  rw [ofSettings]
  split
  · next h => simp [h]
  · next h => simp [h]

/-- Settings pass the check of names if all their names are known. -/
theorem checkNames_eq_ok_iff {names : List String} :
    new.checkNames names = .ok () ↔ ∀ name ∈ new.names, name ∈ names := by
  rw [Settings.checkNames, Settings.names, List.forall_mem_map]
  split
  · next e h =>
    have hname : e.1 ∉ names := by simpa using List.find?_some h
    refine iff_of_false (by simp) fun hall => ?_
    exact hname (hall e (List.mem_of_find?_eq_some h))
  · next h => simpa using h

/-- With known names, an update is a check of the values that are given. -/
theorem update_of_names (hnames : ∀ name ∈ new.names, name ∈ set.names) :
    o.update new = ofSettings (o.values.override new) (o.names_override new) := by
  rw [update, checkNames_eq_ok_iff.2 hnames]
  rfl

/-- Setting options succeeds with those that keep what is given. -/
theorem update_eq_ok_iff : o.update new = .ok o' ↔ o.Becomes new o' := by
  constructor
  · intro h
    obtain ⟨_, hnames, h⟩ := ok_of_bind h
    obtain ⟨hrules, -, hkept⟩ := check_override_eq_ok_iff.1 (ofSettings_eq_ok_iff.1 h)
    exact ⟨checkNames_eq_ok_iff.1 hnames, hrules, hkept⟩
  · rintro ⟨hnames, hrules, hkept⟩
    rw [update_of_names hnames]
    exact ofSettings_eq_ok_iff.2 (check_override_eq_ok_iff.2 ⟨hrules, o'.names_eq, hkept⟩)

/-- With known names, an update fails with what the options refuse. -/
theorem update_eq_error_iff (hnames : ∀ name ∈ new.names, name ∈ set.names) {e : SettingError} :
    o.update new = .error e ↔ o.Refuses new e := by
  rw [update_of_names hnames, ofSettings_eq_error_iff, check_override_eq_error_iff]
  constructor
  · rintro (h | ⟨hrules, hset, h⟩)
    · exact .rule h
    · exact .ladder hset hrules h
  · intro h
    cases h with
    | rule h => exact .inl h
    | ladder hset hrules h => exact .inr ⟨hrules, hset, h⟩

/-! ## Laws -/

/-- An option that is not set stays as it is. -/
theorem Becomes.value_eq (h : o.Becomes new o') {name : String} (hname : name ∈ set.names)
    (hnew : new.find? name = none) : o'.value name = o.value name := by
  have hkept := h.kept name hname
  rw [given, hnew, Option.getD_none, o.keep_value hname] at hkept
  exact (Except.ok.inj hkept).symm

/-- Without settings the options stay as they are. -/
theorem becomes_nil (o : Options set) : o.Becomes [] o :=
  ⟨nofun, o.rules_value, fun _ => o.keep_value⟩

/-- New settings that can only be refused for the ladder: there is an option of each name, and each
    value meets the rule of its option. -/
structure Fits (set : OptionSet) (new : Settings) : Prop where
  names : ∀ name ∈ new.names, name ∈ set.names
  rules : ∀ rule ∈ set.rules, ∀ v, new.find? rule.1 = some v → rule.2 v = .ok ()

/-- Settings of other options than the ladder are taken if they fit, whatever the options are. -/
theorem exists_update_iff_fits (o : Options set)
    (hladder : set = .docx → DocxOptions.ladderName ∉ new.names) :
    (∃ o', o.update new = .ok o') ↔ Fits set new := by
  constructor
  · rintro ⟨o', h⟩
    obtain ⟨hnames, hrules, -⟩ := update_eq_ok_iff.1 h
    refine ⟨hnames, fun rule hrule v hv => ?_⟩
    simpa [given, hv] using hrules rule hrule
  · intro hfits
    cases h : o.update new with
    | ok o' => exact ⟨o', rfl⟩
    | error e =>
      cases (update_eq_error_iff hfits.names).1 h with
      | rule h =>
        obtain ⟨rule, hmem, he⟩ := h.exists_mem
        rw [given] at he
        cases hv : new.find? rule.1 with
        | none =>
          -- What is not set anew keeps its value, which no rule refuses.
          rw [hv, Option.getD_none] at he
          cases (o.rules_value rule hmem).symm.trans he
        | some v =>
          rw [hv, Option.getD_some] at he
          cases (hfits.rules rule hmem v hv).symm.trans he
      | ladder hset _ h =>
        subst hset
        -- The ladder that is kept has been kept before.
        rw [given_of_not_mem (hladder rfl)] at h
        have hname : DocxOptions.ladderName ∈ OptionSet.docx.names := by decide
        cases (o.keep_value hname).symm.trans (OptionSet.keep_eq_error_iff.2 ⟨rfl, rfl, h⟩)

/-- Options without a rule take any value. -/
theorem exists_update (o : Options set) (hnames : ∀ name ∈ new.names, name ∈ set.names)
    (hfree : ∀ name ∈ new.names, name ∉ set.rules.map (·.1)) : ∃ o', o.update new = .ok o' := by
  refine (o.exists_update_iff_fits ?_).2 ⟨hnames, fun rule hrule v hv => ?_⟩
  · rintro rfl hladder
    exact hfree _ hladder (List.mem_map_of_mem OptionSet.ladder_mem_rules)
  · have hmem : rule.1 ∈ new.names := by
      by_contra hnot
      cases hv.symm.trans (Settings.find?_of_not_mem hnot)
    exact absurd (List.mem_map_of_mem hrule) (hfree _ hmem)

/-- Options that are set twice are those that are set once, to the later of the values. -/
theorem update_update {first second : Settings} (h : o.update first = .ok o')
    (h' : o'.update second = .ok o'') (hnames : ∀ name ∈ new.names, name ∈ set.names)
    (hnew : ∀ name ∈ set.names, new.find? name = (second.find? name).or (first.find? name)) :
    o.update new = .ok o'' := by
  obtain ⟨-, hrules, hkept⟩ := update_eq_ok_iff.1 h
  have hsecond := update_eq_ok_iff.1 h'
  -- What is given at once for an option is what the later settings give, or else the earlier ones.
  have hgiven : ∀ name ∈ set.names, o.given new name =
      match second.find? name with
      | some v => v
      | none => o.given first name := by
    intro name hname
    rw [given, hnew name hname]
    cases second.find? name <;> rfl
  refine update_eq_ok_iff.2 ⟨hnames, fun rule hrule => ?_, fun name hname => ?_⟩
  · rw [hgiven _ (OptionSet.mem_names_of_rule hrule)]
    cases hv : second.find? rule.1 with
    | none => exact hrules rule hrule
    | some v => simpa [given, hv] using hsecond.rules rule hrule
  · rw [hgiven name hname]
    cases hv : second.find? name with
    | none => rw [hsecond.value_eq hname hv]; exact hkept name hname
    | some v => simpa [given, hv] using hsecond.kept name hname

end Options

end Manuscript
