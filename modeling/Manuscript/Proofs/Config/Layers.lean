import Manuscript.Proofs.CommandLine.Choices
import Manuscript.Proofs.Config.Outcome

/-!
# Layers of configuration

Options are set in layers: the defaults, a configuration, and the arguments of a command line. In
each layer an option is set to the value that is given there, or stays as it is (`Sets.layered`).
Two configurations that are applied one after the other amount to one, in which the tables of the
second are laid over those of the first (`sets_merge`).

* `lookup_overlay`: what is found in a mapping that is laid over another one;
* `chosen_of_choices`: the options of a command line by its layers.
-/

namespace Manuscript.Config

variable {config old new : List (Value × Value)} {name : String}

/-! ## Mappings over mappings -/

/-- The value of a key. -/
def valueOf (entries : List (Value × Value)) (key : Value) : Option Value :=
  (entries.find? fun e => e.1.same key).map (·.2)

/-- The entries of a mapping with those of a new one, whose values are joined to those that are
    there for the same keys. -/
def overlay (join : Value → Value → Value) (old new : List (Value × Value)) :
    List (Value × Value) :=
  old.map (fun e => (e.1, ((valueOf new e.1).map (join e.2)).getD e.2)) ++
    new.filter fun e => (valueOf old e.1).isNone

/-- The tables of two configurations, where the values of the second one win. -/
def joinTables : Value → Value → Value
  | .map old, .map new => .map (overlay (fun _ v => v) old new)
  | _, v => v

/-- Two configurations as one, table by table. -/
def merge (old new : List (Value × Value)) : List (Value × Value) :=
  overlay joinTables old new

/-- A name that is text has the value that it is looked up to. -/
theorem valueOf_text (entries : List (Value × Value)) (name : String) :
    valueOf entries (.text name) = Value.lookup entries name := by
  rw [valueOf, Value.lookup]
  congr 2
  funext e
  cases e.1 <;> simp [Value.same]

theorem lookup_cons_self (v : Value) (rest : List (Value × Value)) :
    Value.lookup ((.text name, v) :: rest) name = some v := by
  simp [Value.lookup]

theorem lookup_cons_of_ne {key : Value} (h : key ≠ .text name) (v : Value)
    (rest : List (Value × Value)) :
    Value.lookup ((key, v) :: rest) name = Value.lookup rest name := by
  cases key with
  | text s =>
    have hs : s ≠ name := fun heq => h (heq ▸ rfl)
    simp [Value.lookup, hs]
  | _ => simp [Value.lookup]

/-- Of two mappings one after the other, the first one decides. -/
theorem lookup_append (xs ys : List (Value × Value)) :
    Value.lookup (xs ++ ys) name = (Value.lookup xs name).or (Value.lookup ys name) := by
  rw [Value.lookup, List.find?_append, Option.map_or]
  rfl

/-- Changing values by their keys changes what is looked up. -/
theorem lookup_map (f : Value → Value → Value) (entries : List (Value × Value)) :
    Value.lookup (entries.map fun e => (e.1, f e.1 e.2)) name =
      (Value.lookup entries name).map (f (.text name)) := by
  induction entries with
  | nil => rfl
  | cons e rest ih =>
    obtain ⟨key, v⟩ := e
    rw [List.map_cons]
    by_cases h : key = .text name
    · subst h
      rw [lookup_cons_self, lookup_cons_self, Option.map_some]
    · rw [lookup_cons_of_ne h, lookup_cons_of_ne h, ih]

/-- Leaving out other entries does not change what is looked up. -/
theorem lookup_filter {p : Value → Bool} (hp : p (.text name) = true)
    (entries : List (Value × Value)) :
    Value.lookup (entries.filter fun e => p e.1) name = Value.lookup entries name := by
  induction entries with
  | nil => rfl
  | cons e rest ih =>
    obtain ⟨key, v⟩ := e
    rw [List.filter_cons]
    by_cases h : key = .text name
    · subst h
      rw [if_pos hp, lookup_cons_self, lookup_cons_self]
    · split
      · rw [lookup_cons_of_ne h, lookup_cons_of_ne h, ih]
      · rw [lookup_cons_of_ne h, ih]

/-- A mapping over another one has the values of both, and joins those of a key in both. -/
theorem lookup_overlay (join : Value → Value → Value) :
    Value.lookup (overlay join old new) name =
      match Value.lookup old name, Value.lookup new name with
      | some v, some w => some (join v w)
      | some v, none => some v
      | none, w => w := by
  rw [overlay, lookup_append, lookup_map fun key v => ((valueOf new key).map (join v)).getD v]
  rw [valueOf_text]
  cases hold : Value.lookup old name with
  | none =>
    have hp : (valueOf old (.text name)).isNone = true := by rw [valueOf_text, hold]; rfl
    exact lookup_filter (p := fun key => (valueOf old key).isNone) hp new
  | some v => cases Value.lookup new name <;> rfl

/-- The keys of an overlay are those of both mappings. -/
theorem HasKeysIn.overlay {names : List String} {join : Value → Value → Value}
    (hold : HasKeysIn old names) (hnew : HasKeysIn new names) :
    HasKeysIn (overlay join old new) names := by
  intro e he
  obtain he | he := List.mem_append.1 he
  · obtain ⟨e', he', rfl⟩ := List.mem_map.1 he
    exact hold e' he'
  · exact hnew e (List.mem_filter.1 he).1

/-! ## One configuration after another -/

variable {set : OptionSet} {o o' o'' : Options set}

/-- Applying a table to options that a table was applied to is applying the one over the other. -/
theorem sets_merge (hold : Sets old o o') (hnew : Sets new o' o'') :
    Sets (merge old new) o o'' := by
  have hlookup : Value.lookup (merge old new) (tableName set) = _ := lookup_overlay joinTables
  cases hold with
  | absent hold =>
    rw [hold] at hlookup
    cases hnew with
    | absent hnew => exact .absent (hlookup.trans hnew)
    | table hnew hkeys hbecomes => exact .table (hlookup.trans hnew) hkeys hbecomes
  | @table entries _ hold hkeys hbecomes =>
    rw [hold] at hlookup
    cases hnew with
    | absent hnew =>
      rw [hnew] at hlookup
      exact .table hlookup hkeys hbecomes
    | @table entries' _ hnew hkeys' hbecomes' =>
      rw [hnew] at hlookup
      -- Both have the table: the names of either are names of options, and the later value is kept.
      have hjoint : HasKeysIn (overlay (fun _ v => v) entries entries') set.names :=
        hkeys.overlay hkeys'
      refine .table hlookup hjoint (Options.update_eq_ok_iff.1 (Options.update_update
        (Options.update_eq_ok_iff.2 hbecomes) (Options.update_eq_ok_iff.2 hbecomes')
        ((hasKeysIn_iff hjoint.text).1 hjoint) fun name _ => ?_))
      rw [find?_textEntries, find?_textEntries, find?_textEntries, lookup_overlay]
      cases Value.lookup entries name <;> cases Value.lookup entries' name <;> rfl

/-! ## What a layer sets -/

/-- What the table of a set of options sets an option to. -/
def setting? (set : OptionSet) (config : List (Value × Value)) (name : String) : Option Value :=
  match Value.lookup config (tableName set) with
  | some (.map entries) => Value.lookup entries name
  | _ => none

/-- What an option keeps of the value that it is set to: a ladder is read, and all else is kept as
    it is. -/
inductive IsKept : OptionSet → String → Value → Value → Prop
  | ladder {given kept : List (Value × Value)} (h : Ladder.ReadsTo given kept) :
    IsKept .docx DocxOptions.ladderName (.map given) (.map kept)
  | other {set : OptionSet} {name : String} (v : Value)
    (h : ¬ (set = .docx ∧ name = DocxOptions.ladderName)) : IsKept set name v v

/-- Each option keeps what a configuration sets it to, and is as it was if it is not set. -/
structure Layered (config : List (Value × Value)) (o o' : Options set) : Prop where
  kept : ∀ name ∈ set.names, ∀ v, setting? set config name = some v →
    IsKept set name v (o'.value name)
  unset : ∀ name ∈ set.names, setting? set config name = none → o'.value name = o.value name

/-- A value that is given is kept by the options that are set. -/
theorem isKept_of_becomes {new : Settings} {v : Value} (h : o.Becomes new o')
    (hname : name ∈ set.names) (hv : new.find? name = some v) :
    IsKept set name v (o'.value name) := by
  have hkept := h.kept name hname
  rw [Options.given, hv, Option.getD_some] at hkept
  by_cases hladder : set = .docx ∧ name = DocxOptions.ladderName
  · obtain ⟨rfl, rfl⟩ := hladder
    have hrule := h.rules _ OptionSet.ladder_mem_rules
    rw [Options.given, hv, Option.getD_some] at hrule
    obtain ⟨given, rfl, -⟩ := Rule.ladder_eq_ok_iff.1 hrule
    obtain ⟨kept, hw, hreads⟩ := Ladder.readsTo_of_read hkept
    exact hw ▸ .ladder hreads
  · rw [OptionSet.keep_of_not_ladder hladder] at hkept
    exact Except.ok.inj hkept ▸ .other v hladder

/-- Options that are set are layered over those before. -/
theorem Sets.layered (h : Sets config o o') : Layered config o o' := by
  cases h with
  | absent h =>
    have hnone : ∀ name, setting? set config name = none := fun name => by rw [setting?, h]
    exact ⟨fun name _ v hv => by simp [hnone] at hv, fun _ _ _ => rfl⟩
  | @table entries _ h hkeys hbecomes =>
    have hsetting : ∀ name, setting? set config name = (textEntries entries).find? name := by
      intro name
      rw [setting?, h, find?_textEntries]
    exact ⟨fun name hname v hv => isKept_of_becomes hbecomes hname (hsetting name ▸ hv),
      fun name hname hnone => hbecomes.value_eq hname (hsetting name ▸ hnone)⟩

/-- What becomes of options depends on nothing in a configuration but the table of their set. -/
theorem sets_unique {config' : List (Value × Value)} (h : Sets config o o')
    (h' : Sets config' o o'')
    (htable : Value.lookup config (tableName set) = Value.lookup config' (tableName set)) :
    o' = o'' := by
  have happly := apply_of_sets h
  rw [apply, htable, ← apply, apply_of_sets h'] at happly
  exact (Except.ok.inj happly).symm

/-! ## The layers together -/

open CommandLine (flag? choices)

/-- A configuration that is accepted layers both sets of options. -/
theorem layered_of_options {markdown markdown' : Options .markdown} {docx docx' : Options .docx}
    (h : options config markdown docx = .ok (markdown', docx')) :
    Layered config markdown markdown' ∧ Layered config docx docx' := by
  obtain ⟨-, hmarkdown, hdocx⟩ := options_eq_ok_iff.1 h
  exact ⟨hmarkdown.layered, hdocx.layered⟩

/-- Setting options by two configurations is setting them by the two merged. -/
theorem options_merge {markdown markdown' markdown'' : Options .markdown}
    {docx docx' docx'' : Options .docx}
    (hold : options old markdown docx = .ok (markdown', docx'))
    (hnew : options new markdown' docx' = .ok (markdown'', docx'')) :
    options (merge old new) markdown docx = .ok (markdown'', docx'') := by
  obtain ⟨htables, hmarkdown, hdocx⟩ := options_eq_ok_iff.1 hold
  obtain ⟨htables', hmarkdown', hdocx'⟩ := options_eq_ok_iff.1 hnew
  exact options_eq_ok_iff.2 ⟨htables.overlay htables', sets_merge hmarkdown hmarkdown',
    sets_merge hdocx hdocx'⟩

/-- The options of documents on a command line: what an argument sets an option to, or else what the
    configuration does, or else the default. -/
structure Chosen (a : CommandLine.Arguments) (config : List (Value × Value))
    (docx : Options .docx) : Prop where
  asked : ∀ name ∈ OptionSet.docx.names, ∀ v, flag? a name = some v → docx.value name = v
  configured : ∀ name ∈ OptionSet.docx.names, flag? a name = none →
    ∀ v, setting? .docx config name = some v → IsKept .docx name v (docx.value name)
  unset : ∀ name ∈ OptionSet.docx.names, flag? a name = none →
    setting? .docx config name = none → docx.value name = (Options.start .docx).value name

/-- The choices of the command line are layered over a configuration that is loaded. -/
theorem chosen_of_choices {w : CommandLine.World} {a : CommandLine.Arguments}
    {markdown : Options .markdown} {docx' : Options .docx}
    (h : choices w a = .ok (markdown, docx')) :
    ∃ config, loadFirst w.readers.yaml w.files a.config w.environment = .ok config ∧
      Chosen a config docx' := by
  obtain ⟨config, docx, hload, hoptions, hbecomes⟩ := CommandLine.choices_eq_ok_iff.1 h
  obtain ⟨-, hlayered⟩ := layered_of_options hoptions
  refine ⟨config, hload, ?_, ?_, ?_⟩
  · intro name hname v hflag
    rw [CommandLine.value_of_flag hbecomes hname, hflag, Option.getD_some]
  · intro name hname hflag v hv
    rw [CommandLine.value_of_flag hbecomes hname, hflag, Option.getD_none]
    exact hlayered.kept name hname v hv
  · intro name hname hflag hv
    rw [CommandLine.value_of_flag hbecomes hname, hflag, Option.getD_none]
    exact hlayered.unset name hname hv

end Manuscript.Config
