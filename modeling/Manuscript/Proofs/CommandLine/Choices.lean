import Manuscript.CommandLine
import Manuscript.Proofs.Options.Update

/-!
# The options of a command line

The arguments of a command line set three of the options of documents, none of which has a rule. So
they never stop a configuration that can be applied (`choices_of_options`), and the options that are
chosen are those of the configuration but for the ones that an argument sets (`value_of_flag`).
-/

namespace Manuscript.CommandLine

/-- What an argument sets an option to. -/
def flag? (a : Arguments) : String → Option Value
  | "template_path" => (a.template.filter (!·.isEmpty)).map .text
  | "native_hyperlinks" => if a.noNativeHyperlinks then some (.bool false) else none
  | "number_ordered_lists" => if a.noNumberLists then some (.bool false) else none
  | _ => none

theorem find?_settings (a : Arguments) (name : String) :
    (settings a).find? name = flag? a name := by
  have hoff : ∀ (flag : Bool) (n : String),
      Settings.find? (if flag then [(n, .bool false)] else []) name =
        if name = n ∧ flag then some (.bool false) else none := by
    intro flag n
    cases flag
    · simp [Settings.find?]
    · simp [Settings.find?_singleton]
  have htemplate : Settings.find? ((a.template.filter (!·.isEmpty)).map
      fun t => ("template_path", Value.text t)).toList name =
        if name = "template_path" then (a.template.filter (!·.isEmpty)).map .text else none := by
    cases a.template.filter (!·.isEmpty)
    · simp [Settings.find?]
    · simp [Settings.find?_singleton]
  rw [settings, Settings.find?_append, Settings.find?_append, htemplate, hoff, hoff]
  by_cases ht : name = "template_path"
  · subst ht
    simp [flag?]
  by_cases hl : name = "native_hyperlinks"
  · subst hl
    simp [flag?]
  by_cases hn : name = "number_ordered_lists"
  · subst hn
    simp [flag?]
  · simp [flag?, ht, hl, hn]

/-- The options that arguments set. -/
theorem mem_names_settings {a : Arguments} {name : String} (h : name ∈ (settings a).names) :
    name ∈ ["template_path", "native_hyperlinks", "number_ordered_lists"] := by
  simp only [settings, Settings.names, List.map_append, List.mem_append] at h
  obtain (h | h) | h := h
  · obtain ⟨e, he, rfl⟩ := List.mem_map.1 h
    obtain ⟨t, -, rfl⟩ := Option.map_eq_some_iff.1 (Option.mem_toList.1 he)
    simp
  · split at h <;> simp_all
  · split at h <;> simp_all

/-- The options that arguments set have no rule. -/
theorem free_of_mem_settings {a : Arguments} {name : String} (h : name ∈ (settings a).names) :
    name ∈ OptionSet.docx.names ∧ name ∉ OptionSet.docx.rules.map (·.1) := by
  have hall : ∀ name ∈ ["template_path", "native_hyperlinks", "number_ordered_lists"],
      name ∈ OptionSet.docx.names ∧ name ∉ OptionSet.docx.rules.map (·.1) := by decide
  exact hall name (mem_names_settings h)

/-- The arguments of a command line never stop a configuration that can be applied. -/
theorem choices_of_options {w : World} {a : Arguments} {config : List (Value × Value)}
    {markdown : Options .markdown} {docx : Options .docx}
    (hload : Config.loadFirst w.readers.yaml w.files a.config w.environment = .ok config)
    (h : Config.options config = .ok (markdown, docx)) :
    ∃ docx', choices w a = .ok (markdown, docx') ∧ docx.Becomes (settings a) docx' := by
  have hchoices : choices w a =
      if (settings a).isEmpty then .ok (markdown, docx)
      else do return (markdown, ← (docx.update (settings a)).mapError (.fault ·.fault)) := by
    rw [choices, hload]
    change (Config.options config >>= _) = _
    rw [h]
    rfl
  rw [hchoices]
  obtain ⟨docx', hupdate⟩ := docx.exists_update
    (fun _ hname => (free_of_mem_settings hname).1) fun _ hname => (free_of_mem_settings hname).2
  split
  · next hempty =>
    rw [List.isEmpty_iff.1 hempty]
    exact ⟨docx, rfl, docx.becomes_nil⟩
  · rw [hupdate]
    exact ⟨docx', rfl, Options.update_eq_ok_iff.1 hupdate⟩

theorem choices_eq_ok_iff {w : World} {a : Arguments} {markdown : Options .markdown}
    {docx' : Options .docx} :
    choices w a = .ok (markdown, docx') ↔ ∃ config docx,
      Config.loadFirst w.readers.yaml w.files a.config w.environment = .ok config ∧
        Config.options config = .ok (markdown, docx) ∧ docx.Becomes (settings a) docx' := by
  constructor
  · intro h
    obtain ⟨config, hload, hrest⟩ := ok_of_bind h
    obtain ⟨⟨m, docx⟩, hoptions, -⟩ := ok_of_bind hrest
    obtain ⟨docx'', hchoices, hbecomes⟩ := choices_of_options (a := a) hload hoptions
    cases hchoices.symm.trans h
    exact ⟨config, docx, hload, hoptions, hbecomes⟩
  · rintro ⟨config, docx, hload, hoptions, hbecomes⟩
    obtain ⟨docx'', hchoices, hbecomes'⟩ := choices_of_options hload hoptions
    cases (Options.update_eq_ok_iff.2 hbecomes').symm.trans (Options.update_eq_ok_iff.2 hbecomes)
    exact hchoices

theorem value_of_flag {a : Arguments} {docx docx' : Options .docx}
    (h : docx.Becomes (settings a) docx') {name : String} (hname : name ∈ OptionSet.docx.names) :
    docx'.value name = (flag? a name).getD (docx.value name) := by
  have hkept := h.kept name hname
  rw [Options.given, find?_settings] at hkept
  cases hflag : flag? a name with
  | none => exact h.value_eq hname ((find?_settings a name).trans hflag)
  | some v =>
    -- No argument sets a ladder.
    have hladder : ¬ (OptionSet.docx = .docx ∧ name = DocxOptions.ladderName) := by
      rintro ⟨-, rfl⟩
      cases hflag
    rw [hflag, OptionSet.keep_of_not_ladder hladder] at hkept
    exact (Except.ok.inj hkept).symm

end Manuscript.CommandLine

