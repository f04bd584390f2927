import Manuscript.Proofs.Docx.Steps

/-!
# How runs are written

A run is written as its properties and elements that spell its text. The properties say its format
(`Run.Says`): each of them is there if the format asks for it, with its value, and there is nothing
else. The text is spelled by pieces of it, with an element of its own for each tab and each line end
(`Run.Spells`). A break is written as the end of a line. Where no picture is looked for, a list of
runs is written as one element for each of them, and the draft stays as it is
(`leads_runs_written`).
-/

namespace Manuscript.Docx

namespace Run

/-! ## Formats -/

/-- The elements of one name among some. -/
def called (word : String) (ns : List Xml.Node) : List Xml.Node :=
  ns.filter (·.isNamed (w word))

/-- Elements say a format: fixed letters by the fonts, bold, italic and underlined letters by a mark
    each, and a size and a colour by their values. Nothing else is among them. -/
structure Says (o : DocxOptions) (f : Layout.Format) (all : List Xml.Node) : Prop where
  fonts : called "rFonts" all =
    if f.monospace then [element "rFonts" [("ascii", o.codeFont), ("hAnsi", o.codeFont)]] else []
  bold : called "b" all = if f.bold then [element "b"] else []
  italic : called "i" all = if f.italic then [element "i"] else []
  underline : called "u" all = if f.underline then [element "u" [("val", "single")]] else []
  unsized : f.fontSize = none → called "sz" all = []
  sized : ∀ points, f.fontSize = some points → ∃ size, Length.sizeText points = .ok size ∧
    called "sz" all = [element "sz" [("val", size)]]
  uncolored : f.color = none ∨ f.color = some "" → called "color" all = []
  colored : ∀ c, f.color = some c → c ≠ "" → ∃ shares, Color.written c = .ok shares ∧
    called "color" all = [element "color" [("val", shares)]]
  only : ∀ n ∈ all, ∃ word ∈ ["rFonts", "b", "i", "color", "sz", "u"], n.isNamed (w word)

/-- What stands in front of the text of a run of a format: the properties that say it, or nothing
    where there are none. -/
def Formats (o : DocxOptions) (f : Layout.Format) (ps : List Xml.Node) : Prop :=
  ∃ all, Says o f all ∧ ps = if all.isEmpty then [] else [element "rPr" [] all]

theorem fonts_eq_ok {o : DocxOptions} {f : Layout.Format} {ns : List Xml.Node}
    (h : fonts o f = .ok ns) : ns = if f.monospace then
      [element "rFonts" [("ascii", o.codeFont), ("hAnsi", o.codeFont)]] else [] := by
  rw [fonts] at h
  split at h
  · obtain ⟨font, hfont, h⟩ := ok_of_bind h
    rw [Xml.checked] at hfont
    split at hfont <;> cases hfont
    cases h
    rw [if_pos ‹_›]
  · cases h
    rw [if_neg ‹_›]

/-- The size of a run is written in half points, if it has one. -/
theorem size_eq_ok {f : Layout.Format} {ns : List Xml.Node} (h : size f = .ok ns) :
    (f.fontSize = none ∧ ns = []) ∨ ∃ points text, f.fontSize = some points ∧
      Length.sizeText points = .ok text ∧ ns = [element "sz" [("val", text)]] := by
  rw [size] at h
  split at h
  · cases h
    exact .inl ⟨‹_›, rfl⟩
  · obtain ⟨text, htext, h⟩ := ok_of_bind h
    cases h
    exact .inr ⟨_, text, ‹_›, htext, rfl⟩

/-- The colour of a run is written by its shares, if it has one. -/
theorem color_eq_ok {f : Layout.Format} {ns : List Xml.Node} (h : color f = .ok ns) :
    ((f.color = none ∨ f.color = some "") ∧ ns = []) ∨ ∃ c shares, f.color = some c ∧ c ≠ "" ∧
      Color.written c = .ok shares ∧ ns = [element "color" [("val", shares)]] := by
  rw [color] at h
  cases hc : f.color with
  | none =>
    rw [hc] at h
    cases h
    exact .inl ⟨.inl rfl, rfl⟩
  | some c =>
    by_cases hempty : c = ""
    · rw [hc, hempty] at h
      cases h
      exact .inl ⟨.inr (congrArg some hempty), rfl⟩
    · rw [hc, Option.filter_some_pos (by simpa using hempty)] at h
      obtain ⟨shares, hshares, h⟩ := ok_of_bind h
      cases h
      exact .inr ⟨c, shares, rfl, hempty, hshares, rfl⟩

/-- Elements of one name are all those of that name, and none of another. -/
theorem called_of {word : String} {ns : List Xml.Node} (h : ∀ n ∈ ns, n.isNamed (w word))
    (word' : String) : called word' ns = if word' = word then ns else [] := by
  split
  · subst word'
    exact List.filter_eq_self.2 h
  · rename_i hne
    refine List.filter_eq_nil_iff.2 fun n hn hn' => hne ?_
    have hn := h n hn
    cases n with
    | text _ => simp [Xml.Node.isNamed] at hn
    | element name _ _ =>
      simp only [Xml.Node.isNamed, Xml.Name.same, w, Bool.and_eq_true, beq_iff_eq] at hn hn'
      rw [← hn'.2, hn.2]

/-- Among elements that are sorted by their names, those of one name stand under it. -/
theorem called_flatMap {parts : List (String × List Xml.Node)}
    (h : ∀ p ∈ parts, ∀ n ∈ p.2, n.isNamed (w p.1)) (word : String) :
    called word (parts.flatMap Prod.snd) = parts.flatMap fun p => if word = p.1 then p.2 else [] := by
  rw [called, List.filter_flatMap]
  exact List.flatMap_congr fun p hp => called_of (h p hp) word

theorem isNamed_of_mem_ite {on : Bool} {word : String} {attributes : List (String × String)} :
    ∀ n ∈ if on then [element word attributes] else [], n.isNamed (w word) := by
  cases on <;> simp [isNamed_element]

/-- The elements that say a format, sorted by their names, by those for its colour and size. -/
def parts (o : DocxOptions) (f : Layout.Format) (colors sizes : List Xml.Node) :
    List (String × List Xml.Node) :=
  [("rFonts", if f.monospace then
      [element "rFonts" [("ascii", o.codeFont), ("hAnsi", o.codeFont)]] else []),
    ("b", if f.bold then [element "b"] else []), ("i", if f.italic then [element "i"] else []),
    ("color", colors), ("sz", sizes),
    ("u", if f.underline then [element "u" [("val", "single")]] else [])]

/-- The properties that a run is written with say its format. -/
theorem says_parts {o : DocxOptions} {f : Layout.Format} {colors sizes : List Xml.Node}
    (hcolors : color f = .ok colors) (hsizes : size f = .ok sizes) :
    Says o f ((parts o f colors sizes).flatMap Prod.snd) := by
  have hcolor := color_eq_ok hcolors
  have hsize := size_eq_ok hsizes
  -- Each part is made of elements with its own name, so those of a name are those of one part.
  have hparts : ∀ p ∈ parts o f colors sizes, ∀ n ∈ p.2, n.isNamed (w p.1) := by
    simp only [parts, List.forall_mem_cons]
    refine ⟨isNamed_of_mem_ite, isNamed_of_mem_ite, isNamed_of_mem_ite, ?_, ?_,
      isNamed_of_mem_ite, List.forall_mem_nil _⟩
    · obtain ⟨-, rfl⟩ | ⟨_, _, -, -, -, rfl⟩ := hcolor <;> simp [isNamed_element]
    · obtain ⟨-, rfl⟩ | ⟨_, _, -, -, rfl⟩ := hsize <;> simp [isNamed_element]
  exact {
    fonts := (called_flatMap hparts _).trans (by simp [parts])
    bold := (called_flatMap hparts _).trans (by simp [parts])
    italic := (called_flatMap hparts _).trans (by simp [parts])
    underline := (called_flatMap hparts _).trans (by simp [parts])
    unsized := by
      intro hf
      obtain ⟨-, rfl⟩ | ⟨_, _, hf', -⟩ := hsize
      · exact (called_flatMap hparts _).trans (by simp [parts])
      · rw [hf] at hf'
        cases hf'
    sized := by
      intro points hf
      obtain ⟨hf', -⟩ | ⟨_, text, hf', htext, rfl⟩ := hsize
      · rw [hf] at hf'
        cases hf'
      · cases hf.symm.trans hf'
        exact ⟨text, htext, (called_flatMap hparts _).trans (by simp [parts])⟩
    uncolored := by
      intro hf
      obtain ⟨-, rfl⟩ | ⟨c, _, hf', hc, -⟩ := hcolor
      · exact (called_flatMap hparts _).trans (by simp [parts])
      · simp_all
    colored := by
      intro c hf hc
      obtain ⟨hf', -⟩ | ⟨_, shares, hf', -, hshares, rfl⟩ := hcolor
      · simp_all
      · cases hf.symm.trans hf'
        exact ⟨shares, hshares, (called_flatMap hparts _).trans (by simp [parts])⟩
    only := by
      intro n hn
      obtain ⟨p, hp, hn⟩ := List.mem_flatMap.1 hn
      have hword : p.1 ∈ (parts o f colors sizes).map Prod.fst := List.mem_map_of_mem hp
      exact ⟨p.1, by simpa [parts] using hword, hparts p hp n hn⟩ }

/-- The properties of a run say its format. -/
theorem formats_of_properties {o : DocxOptions} {f : Layout.Format} {ps : List Xml.Node}
    (h : properties o f = .ok ps) : Formats o f ps := by
  obtain ⟨fonts, hfonts, h⟩ := ok_of_bind h
  obtain ⟨sizes, hsizes, h⟩ := ok_of_bind h
  obtain ⟨colors, hcolors, h⟩ := ok_of_bind h
  cases fonts_eq_ok hfonts
  cases h
  refine ⟨_, says_parts hcolors hsizes, ?_⟩
  simp [parts]

/-! ## Texts -/

/-- Elements spell a text: tabs and line ends are elements of their own, and what is between them is
    held by elements for text. -/
inductive Spells : List Xml.Node → List Char → Prop
  | nil : Spells [] []
  | tab {ns cs} : Spells ns cs → Spells (element "tab" :: ns) ('\t' :: cs)
  | lineEnd {c ns cs} : c = '\n' ∨ c = '\r' → Spells ns cs → Spells (element "br" :: ns) (c :: cs)
  | text {cs ns cs'} (attributes : List (Xml.Name × String)) :
    cs ≠ [] → (∀ c ∈ cs, c ≠ '\t' ∧ c ≠ '\n' ∧ c ≠ '\r') → Spells ns cs' →
    Spells (.element (w "t") attributes [.text (.ofList cs)] :: ns) (cs ++ cs')

/-- A piece of plain characters spells them. -/
theorem Spells.piece {cs cs' : List Char} {ns : List Xml.Node}
    (hcs : ∀ c ∈ cs, c ≠ '\t' ∧ c ≠ '\n' ∧ c ≠ '\r') (h : Spells ns cs') :
    Spells (piece cs ++ ns) (cs ++ cs') := by
  rw [Run.piece]
  split
  · rename_i hnil
    cases List.isEmpty_iff.1 hnil
    exact h
  · exact .text _ (fun hnil => by simp_all) hcs h

/-- What is written of characters spells them, with those that were begun before. -/
theorem spells_contentFrom {begun : List Char}
    (hbegun : ∀ c ∈ begun, c ≠ '\t' ∧ c ≠ '\n' ∧ c ≠ '\r') (cs : List Char) :
    Spells (contentFrom begun cs) (begun.reverse ++ cs) := by
  have hreverse : ∀ c ∈ begun.reverse, c ≠ '\t' ∧ c ≠ '\n' ∧ c ≠ '\r' :=
    fun c hc => hbegun c (List.mem_reverse.1 hc)
  induction cs generalizing begun with
  | nil =>
    rw [contentFrom, ← List.append_nil (Run.piece _)]
    exact Spells.piece hreverse .nil
  | cons c cs ih =>
    rw [contentFrom]
    split
    · rename_i hc
      cases hc
      exact Spells.piece hreverse (.tab (ih (by simp) (by simp)))
    · split
      · exact Spells.piece hreverse (.lineEnd ‹_› (ih (by simp) (by simp)))
      · -- Any other character goes on with the text that has begun.
        have hc : ∀ c' ∈ c :: begun, c' ≠ '\t' ∧ c' ≠ '\n' ∧ c' ≠ '\r' := by
          intro c' hc'
          rcases List.mem_cons.1 hc' with rfl | hc'
          · simp_all
          · exact hbegun c' hc'
        have h := ih hc fun c' hc' => hc c' (List.mem_reverse.1 hc')
        rwa [List.reverse_cons, List.append_assoc] at h

/-- The content of a run spells its text. -/
theorem spells_content (s : String) : Spells (content s) s.toList :=
  spells_contentFrom (by simp) s.toList

/-! ## Runs -/

/-- An element shows a run: it ends the line if the run is a break, and otherwise it says the format
    of the run and spells its text. -/
def Shows (o : DocxOptions) (r : Layout.Run) (n : Xml.Node) : Prop :=
  if r.isBreak then n = lineBreak
  else ∃ ps cs, Formats o r.format ps ∧ Spells cs r.text.toList ∧
    n = element "r" [] (ps ++ cs)

/-- The element for a run that no picture is looked for in place of. -/
def written (o : DocxOptions) (r : Layout.Run) : Except Fault Xml.Node :=
  if r.isBreak then .ok lineBreak else ofText o r

/-- The text of a run is written as a run. -/
theorem ofText_eq_element {o : DocxOptions} {r : Layout.Run} {n : Xml.Node}
    (h : ofText o r = .ok n) : ∃ children, n = element "r" [] children := by
  rw [ofText] at h
  obtain ⟨text, -, h⟩ := ok_of_bind h
  obtain ⟨ps, -, h⟩ := ok_of_bind h
  cases h
  exact ⟨_, rfl⟩

/-- What the text of a run is written as shows the run. -/
theorem shows_of_ofText {o : DocxOptions} {r : Layout.Run} (hr : r.isBreak = false) {n : Xml.Node}
    (h : ofText o r = .ok n) : Shows o r n := by
  rw [ofText, Xml.checked] at h
  split at h
  · obtain ⟨_, htext, h⟩ := ok_of_bind h
    cases htext
    obtain ⟨ps, hps, h⟩ := ok_of_bind h
    cases h
    rw [Shows, if_neg (by simp [hr])]
    exact ⟨ps, _, formats_of_properties hps, spells_content _, rfl⟩
  · obtain ⟨_, htext, -⟩ := ok_of_bind h
    cases htext

/-- What a run is written as shows it, a break as a break. -/
theorem shows_of_written {o : DocxOptions} {r : Layout.Run} {n : Xml.Node}
    (h : written o r = .ok n) : Shows o r n := by
  rw [written] at h
  split at h
  · cases h
    rw [Shows, if_pos ‹_›]
  · exact shows_of_ofText (by simp_all) h

end Run

namespace Setting

variable {s : Setting} {d d' : Draft}

/-- A run without a picture is written as by itself, and leaves the draft as it is. -/
theorem leads_run_written {r : Layout.Run} (hw : s.wanted? r = none) {ns : List Xml.Node} :
    Leads (s.run r) d ns d' ↔ ∃ n, Run.written s.options r = .ok n ∧ ns = [n] ∧ d' = d := by
  rw [Run.written]
  cases hr : r.isBreak with
  | false => exact leads_run_text hr hw
  | true => simp [leads_run_break hr]

/-- Runs that no picture is looked for in place of are written one element each, and the draft stays
    as it is. -/
theorem leads_runs_written {rs : List Layout.Run} (hw : ∀ r ∈ rs, s.wanted? r = none)
    {ns : List Xml.Node} :
    Leads (s.runs rs) d ns d' ↔ rs.mapM (Run.written s.options) = .ok ns ∧ d' = d := by
  rw [mapM_eq_ok_iff]
  induction rs generalizing ns with
  | nil => rw [leads_runs_nil, List.forall₂_nil_left_iff]
  | cons r rs ih =>
    have hrs : ∀ r ∈ rs, s.wanted? r = none := fun q hq => hw q (List.mem_cons_of_mem r hq)
    rw [leads_runs_cons, List.forall₂_cons_left_iff]
    constructor
    · rintro ⟨_, _, ns₂, h₁, h₂, rfl⟩
      obtain ⟨n, hn, rfl, rfl⟩ := (leads_run_written (hw r List.mem_cons_self)).1 h₁
      obtain ⟨hns, rfl⟩ := (ih hrs).1 h₂
      exact ⟨⟨n, ns₂, hn, hns, rfl⟩, rfl⟩
    · rintro ⟨⟨n, ns₂, hn, hns, rfl⟩, rfl⟩
      exact ⟨[n], d', ns₂, (leads_run_written (hw r List.mem_cons_self)).2 ⟨n, hn, rfl, rfl⟩,
        (ih hrs).2 ⟨hns, rfl⟩, rfl⟩

end Setting

end Manuscript.Docx
