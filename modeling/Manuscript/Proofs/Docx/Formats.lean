import Manuscript.Proofs.Docx.Pictures

/-!
# What paragraphs and runs ask for

The properties of a paragraph and of a run are written as one element in front of the text, with an
element for each of them. Read back from there, a paragraph asks for the style that is found by its
name (`hasStyle_of_properties`), and a run that is bold and has a size asks for both
(`isEmphatic_of_ofText`). Each paragraph of a document that is written is written with its own
properties, and with its runs as text or pictures (`shows_of_written`).
-/

namespace Manuscript.Docx

/-- One of the properties of a paragraph or of a run, which an element of a name holds. -/
def property? (holder word : String) (n : Xml.Node) : Option Xml.Node :=
  (n.child? (w holder)).bind (·.child? (w word))

theorem property?_cons (name holder word : String) (ps ns : List Xml.Node) :
    property? holder word (element name [] (element holder [] ps :: ns)) =
      ps.find? (·.isNamed (w word)) := by
  have hfirst : (element name [] (element holder [] ps :: ns)).child? (w holder) =
      some (element holder [] ps) :=
    List.find?_cons_of_pos (by simp [element, Xml.Node.isNamed, Xml.Name.same])
  rw [property?, hfirst]
  rfl

/-! ## Paragraphs -/

namespace Paragraph

/-- The style that a paragraph asks for, by its identifier. -/
def style? (n : Xml.Node) : Option String :=
  (property? "pPr" "pStyle" n).bind (·.attribute? (w "val"))

/-- A paragraph has the style that is found by a name: it asks for it, unless that style holds where
    none is asked for. -/
def HasStyle (styles : Styles) (name : String) (n : Xml.Node) : Prop :=
  ∃ style place standard, styles.find? .paragraph name = .ok (some (style, place)) ∧
    styles.default? .paragraph = .ok standard ∧
    style? n = if standard = some place then none else Style.id? style

/-- What is written for a style that is found. -/
theorem reference?_of_find? {styles : Styles} {kind : StyleKind} {name : String} {style : Xml.Node}
    {place : Nat} (hfound : styles.find? kind name = .ok (some (style, place)))
    {reference : Option (Option String)} (h : styles.reference? kind name = .ok reference) :
    ∃ standard, styles.default? kind = .ok standard ∧
      reference = some (if standard = some place then none else Style.id? style) := by
  rw [Styles.reference?, hfound] at h
  obtain ⟨standard, hstandard, h⟩ := ok_of_bind (x := styles.default? kind) h
  refine ⟨standard, hstandard, ?_⟩
  split at h <;> cases h
  · rw [if_pos ‹_›]
  · rw [if_neg ‹_›]

/-- The style that is written among the properties is the one that is read back. -/
theorem style?_holder (written : Option String) (bordered : Bool)
    (shade spacing left right : Option String) (ns : List Xml.Node) :
    style? (element "p" [] (holder (some written) bordered shade spacing left right ++ ns)) =
      written := by
  rw [style?, holder, if_neg (by simp), List.singleton_append, property?_cons]
  cases written with
  | some id => rfl
  -- Without a reference nothing else among the properties is taken for one.
  | none => cases bordered <;> cases shade <;> cases spacing <;> cases left <;> cases right <;> rfl

theorem hasStyle_of_properties {styles : Styles} {p : Layout.Paragraph} {name : String}
    (hname : p.styleName.filter (!·.isEmpty) = some name) {style : Xml.Node} {place : Nat}
    (hfound : styles.find? .paragraph name = .ok (some (style, place))) {ps : List Xml.Node}
    (h : properties styles p = .ok ps) (ns : List Xml.Node) :
    HasStyle styles name (element "p" [] (ps ++ ns)) := by
  rw [properties, hname] at h
  obtain ⟨reference, hreference, h⟩ := ok_of_bind h
  obtain ⟨standard, hstandard, rfl⟩ := reference?_of_find? hfound hreference
  obtain ⟨spacing, -, h⟩ := ok_of_bind h
  obtain ⟨left, -, h⟩ := ok_of_bind h
  obtain ⟨right, -, h⟩ := ok_of_bind h
  obtain ⟨shade, -, h⟩ := ok_of_bind h
  cases h
  exact ⟨style, place, standard, hfound, hstandard, style?_holder _ _ _ _ _ _ _⟩

theorem holder_cases (style : Option (Option String)) (bordered : Bool)
    (shade spacing left right : Option String) :
    holder style bordered shade spacing left right = [] ∨
      ∃ all, holder style bordered shade spacing left right = [element "pPr" [] all] :=
  (em _).imp (fun h => if_pos h) fun h => ⟨_, if_neg h⟩

theorem properties_cases {styles : Styles} {p : Layout.Paragraph} {ps : List Xml.Node}
    (h : properties styles p = .ok ps) : ps = [] ∨ ∃ all, ps = [element "pPr" [] all] := by
  rw [properties] at h
  split at h
  all_goals
    obtain ⟨style, -, h⟩ := ok_of_bind h
    obtain ⟨spacing, -, h⟩ := ok_of_bind h
    obtain ⟨left, -, h⟩ := ok_of_bind h
    obtain ⟨right, -, h⟩ := ok_of_bind h
    obtain ⟨shade, -, h⟩ := ok_of_bind h
    cases h
    exact holder_cases _ _ _ _ _ _

end Paragraph

/-! ## Runs -/

namespace Run

/-- A run is bold and has a size. -/
def IsEmphatic (size : String) (n : Xml.Node) : Prop :=
  property? "rPr" "b" n = some (element "b") ∧
    property? "rPr" "sz" n = some (element "sz" [("val", size)])

/-- The first element of a name among properties is what is read back. -/
theorem property?_formats {o : DocxOptions} {f : Layout.Format} {ps : List Xml.Node}
    {word : String} {n : Xml.Node} (h : Formats o f ps)
    (hword : ∀ all, Says o f all → called word all = [n]) (ns : List Xml.Node) :
    property? "rPr" word (element "r" [] (ps ++ ns)) = some n := by
  obtain ⟨all, hall, rfl⟩ := h
  have hfind : all.find? (·.isNamed (w word)) = some n := by
    rw [← List.head?_filter]
    exact congrArg List.head? (hword all hall)
  cases all with
  | nil => cases hfind
  | cons m all => rwa [List.isEmpty_cons, if_neg Bool.false_ne_true, List.singleton_append,
      property?_cons]

theorem isEmphatic_of_ofText {o : DocxOptions} {r : Layout.Run} (hbold : r.format.bold = true)
    {points : Number} (hsize : r.format.fontSize = some points) {n : Xml.Node}
    (h : ofText o r = .ok n) : ∃ size, Length.sizeText points = .ok size ∧ IsEmphatic size n := by
  obtain ⟨text, -, h⟩ := ok_of_bind h
  obtain ⟨ps, hps, h⟩ := ok_of_bind h
  cases h
  have hformats := formats_of_properties hps
  have ⟨_, hall, _⟩ := hformats
  obtain ⟨size, hpoints, -⟩ := hall.sized points hsize
  refine ⟨size, hpoints, property?_formats hformats ?_ _, property?_formats hformats ?_ _⟩
  · intro all hall
    rw [hall.bold, if_pos hbold]
  · intro all hall
    obtain ⟨size', hpoints', hsz⟩ := hall.sized points hsize
    cases hpoints.symm.trans hpoints'
    exact hsz

/-- A run without any text: the end of a line, nothing at all, or a drawing. -/
inductive Textless : Xml.Node → Prop
  | lineBreak : Textless lineBreak
  | blank : Textless blank
  | drawing (number : Nat) (id name width height : String) :
    Textless (element "r" [] [Drawing.inline number id name width height])

end Run

/-! ## What is written -/

/-- The runs of a paragraph, those in links among them. -/
def Paragraph.runs (n : Xml.Node) : List Xml.Node :=
  (unlinked n.children).filter (·.isNamed (w "r"))

/-- A paragraph is written with its properties, and its runs are shown as text or pictures. -/
def Setting.Shows (s : Setting) (d : Draft) (p : Layout.Paragraph) (n : Xml.Node) : Prop :=
  ∃ ps ns, Paragraph.properties d.styles p = .ok ps ∧ s.PicturedAll d p.runs ns ∧
    n = element "p" [] (ps ++ ns)

/-- The properties of a paragraph are none of its runs. -/
theorem Paragraph.mem_runs {styles : Styles} {p : Layout.Paragraph} {ps ns : List Xml.Node}
    (h : properties styles p = .ok ps) {n : Xml.Node} (hn : n ∈ runs (element "p" [] (ps ++ ns))) :
    n ∈ unlinked ns := by
  obtain ⟨hn, hrun⟩ := List.mem_filter.1 hn
  rw [element, Xml.Node.children, unlinked_append] at hn
  refine (List.mem_append.1 hn).resolve_left fun hn => ?_
  obtain rfl | ⟨all, rfl⟩ := properties_cases h
  · cases hn
  · cases List.mem_singleton.1 hn
    exact absurd hrun (by simp [isNamed_element])

variable {s : Setting} {document : Layout.Document} {nss : List (List Xml.Node)} {d : Draft}

/-- Each paragraph of a document that is written is shown in its place. -/
theorem shows_of_written (h : (written s document).MayGive (nss, d)) :
    List.Forall₂ (InPlace (s.Shows d)) (document.blocks.flatMap slotsOf)
      (paragraphsInList nss.flatten) := by
  obtain ⟨d₀, hd₀, hlead⟩ := leads_of_mayGive_written h
  obtain ⟨-, hids, -⟩ := hd₀.cases
  refine forall₂_inPlace_of_leads (S := fun d => s.Shows d) ?_ ?_ hids ?_ hlead
  · rintro d d' p n hd ⟨ps, ns, hps, hns, rfl⟩
    exact ⟨ps, ns, hd.styles ▸ hps, hns.of_grows hd, rfl⟩
  · rintro d p n ⟨ps, ns, -, -, rfl⟩
    exact isNamed_element ..
  · intro p _ d n d' hids hn
    have hd := (s.steady_paragraph p).grows hn.mayLead
    obtain ⟨ps, ns, hps, hns, rfl⟩ := Setting.leads_paragraph.1 hn
    exact ⟨ps, ns, hd.styles ▸ hps, Setting.picturedAll_of_leads_text hids hns, rfl⟩

/-- A paragraph that holds nothing but some runs is shown. -/
def Setting.ShowsRuns (s : Setting) (d : Draft) (rs : List Layout.Run) (n : Xml.Node) : Prop :=
  ∃ ps ns, n = element "p" [] (ps ++ ns) ∧ s.PicturedAll d rs ns

/-- Runs of text that are bold and of a size are written so. -/
theorem textless_or_isEmphatic {rs : List Layout.Run} {points : Number}
    (h : ∀ r ∈ rs, r.format.bold = true ∧ r.format.fontSize = some points) {ns : List Xml.Node}
    (hns : s.PicturedAll d rs ns) : ∀ m ∈ unlinked ns, Run.Textless m ∨
      ∃ size, Length.sizeText points = .ok size ∧ Run.IsEmphatic size m := by
  obtain ⟨pieces, heq, hpieces⟩ := hns
  rw [heq]
  clear heq
  induction hpieces with
  | nil => exact List.forall_mem_nil _
  | @cons r piece rs pieces hpiece _ ih =>
    obtain ⟨⟨hbold, hsize⟩, hrs⟩ := List.forall_mem_cons.1 h
    rw [List.flatten_cons]
    refine List.forall_mem_append.2 ⟨?_, ih hrs⟩
    -- A line break, a text that may come after a blank run, or a drawing.
    obtain ⟨-, rfl⟩ | ⟨n, hn, hpiece⟩ |
      ⟨_, _, _, _, _, number, id, name, cx, cy, -, -, -, rfl, -⟩ := hpiece
    · exact List.forall_mem_singleton.2 (.inl .lineBreak)
    · have hemphatic := Run.isEmphatic_of_ofText hbold hsize hn
      rcases hpiece with rfl | rfl
      · exact List.forall_mem_singleton.2 (.inr hemphatic)
      · exact List.forall_mem_cons.2 ⟨.inl .blank, List.forall_mem_singleton.2 (.inr hemphatic)⟩
    · exact List.forall_mem_singleton.2 (.inl (.drawing number id name cx cy))

end Manuscript.Docx
