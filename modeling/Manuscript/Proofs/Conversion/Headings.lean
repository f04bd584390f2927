import Manuscript.Conversion
import Manuscript.Proofs.Docx.Formats
import Manuscript.Proofs.Docx.Styles
import Manuscript.Proofs.Render.Headings

/-!
# Headings in converted documents

A document is laid out with the names of the styles that the template is said to have, and written
with the styles that are found in the template. Both agree (`exists_find?_of_hasStyle`), so a
heading is never left without emphasis: it has a style, or else each of its runs is bold and has a
size (`HeadingShownAs`). The style is named after its level (`HeadingShown`), unless that is the
truth value true. All of this holds of each heading that is laid out as one, in the order in which
they stand in the tree (`Conversion.shows_headings`).
-/

namespace Manuscript

namespace Docx

open Render (HasLevel headingStyle headingLevel)

variable {s : Setting} {d : Draft}

/-! ## How headings are shown -/

/-- How a heading is shown, where the document starts from a template: with the style of a name if
    the template has it, and otherwise with all of its text in bold and of the size of a level. -/
def HeadingShownAs (s : Setting) (template : Styles) (d : Draft) (name : String) (level : Int)
    (ns : List Node) (n : Xml.Node) : Prop :=
  let points := s.options.headingSize level
  let emphasis := Layout.Format.plain.merge [.bold true, .fontSize (some points)]
  ((∃ e ∈ template.all, Style.IsKnownAs .paragraph name e.1) ∧
    Paragraph.HasStyle d.styles name n ∧
    s.ShowsRuns d (Render.runs s.options .plain ns) n) ∨
  ((∀ e ∈ template.all, ¬ Style.IsKnownAs .paragraph name e.1) ∧
    s.ShowsRuns d (Render.runs s.options emphasis ns) n ∧
    ∀ m ∈ Paragraph.runs n, Run.Textless m ∨
      ∃ size, Length.sizeText points = .ok size ∧ Run.IsEmphatic size m)

/-- A heading is shown with the style that is named after its level, or in bold. One whose level is
    the truth value true, and so the number one, is not: its style is looked for by a name that no
    level has. -/
structure HeadingShown (s : Setting) (template : Styles) (d : Draft) (level : Value)
    (ns : List Node) (n : Xml.Node) : Prop where
  byLevel : level ≠ .bool true → ∃ number, HasLevel level number ∧
    HeadingShownAs s template d ("Heading" ++ toString number) number ns n
  byTruth : level = .bool true → HeadingShownAs s template d "HeadingTrue" 1 ns n

theorem hasStyle_iff {o : DocxOptions} {names : List (Option String)} {name : String} :
    Render.Setup.hasStyle ⟨o, some (names.filterMap id)⟩ name = true ↔ some name ∈ names := by
  simp [Render.Setup.hasStyle]

section

variable {template : Styles} {names : List (Option String)}

/-- A style that documents are laid out with is found where they are written. -/
theorem exists_find?_of_hasStyle (hnames : template.paragraphNames = .ok names) {font size : String}
    (hfont : template.withBaseFont font size = .ok d.styles) {o : DocxOptions} {name : String}
    (h : Render.Setup.hasStyle ⟨o, some (names.filterMap id)⟩ name = true) :
    ∃ e, d.styles.find? .paragraph name = .ok (some e) := by
  rcases Styles.find?_of_paragraphNames hnames name with ⟨-, e, he⟩ | ⟨hnot, -⟩
  · obtain ⟨found, hfound, hrel⟩ := Styles.find?_withBaseFont hfont he
    cases hrel with
    | some _ => exact ⟨_, hfound⟩
  · exact absurd (hasStyle_iff.1 h) hnot

theorem headingShownAs_of_shows (hnames : template.paragraphNames = .ok names) {font size : String}
    (hfont : template.withBaseFont font size = .ok d.styles) {level : Value} {ns : List Node}
    {n : Xml.Node}
    (h : s.Shows d (Render.heading ⟨s.options, some (names.filterMap id)⟩ level ns) n) :
    HeadingShownAs s template d (headingStyle level) (headingLevel level) ns n := by
  obtain ⟨ps, ms, hps, hms, rfl⟩ := h
  obtain ⟨-, hmem⟩ := Styles.mem_paragraphNames hnames
  let setup : Render.Setup := ⟨s.options, some (names.filterMap id)⟩
  cases hstyle : setup.hasStyle (headingStyle level) with
  | true =>
    have hheading := Render.heading_of_hasStyle hstyle ns
    obtain ⟨⟨style, place⟩, hfound⟩ := exists_find?_of_hasStyle hnames hfont hstyle
    refine .inl ⟨(hmem _).1 (hasStyle_iff.1 hstyle), ?_, ps, ms, rfl, ?_⟩
    · refine Paragraph.hasStyle_of_properties ?_ hfound hps ms
      rw [hheading]
      exact Option.filter_some_pos (by simp [Render.isEmpty_headingStyle])
    · rwa [hheading] at hms
  | false =>
    -- A name that the layout does not know is not the name of any style of the template.
    have hheading := Render.heading_of_not_hasStyle hstyle ns
    refine .inr ⟨fun e he hknown => ?_, ⟨ps, ms, rfl, ?_⟩, fun m hm => ?_⟩
    · have hmem : some (headingStyle level) ∈ names := (hmem _).2 ⟨e, he, hknown⟩
      rw [hasStyle_iff.2 hmem] at hstyle
      cases hstyle
    · rwa [hheading] at hms
    · refine textless_or_isEmphatic (fun r hr => ?_) hms m (Paragraph.mem_runs hps hm)
      rw [hheading] at hr
      exact Render.format_of_mem_runs_merge hr

/-- A heading that is laid out as one is shown with the style of its level, or in bold. -/
theorem headingShown_of_shows (hnames : template.paragraphNames = .ok names) {font size : String}
    (hfont : template.withBaseFont font size = .ok d.styles) {level : Value} {ns : List Node}
    {n : Xml.Node}
    (h : s.Shows d (Render.heading ⟨s.options, some (names.filterMap id)⟩ level ns) n) :
    HeadingShown s template d level ns n := by
  have hshown := headingShownAs_of_shows hnames hfont h
  refine ⟨fun hne => ⟨_, Render.hasLevel_headingLevel level, ?_⟩, fun htrue => ?_⟩
  · rwa [Render.headingStyle_of_ne hne] at hshown
  · subst htrue
    exact hshown

end

/-- A relation of two lists leaves each part of the first one related to a part of the second. -/
theorem sublistForall₂_of_forall₂ {R : α → β → Prop} {as as' : List α} (hsub : as'.Sublist as)
    {bs : List β} (h : List.Forall₂ R as bs) : List.SublistForall₂ R as' bs := by
  induction hsub generalizing bs with
  | slnil => exact .nil
  | cons a _ ih =>
    obtain ⟨b, bs, -, hbs, rfl⟩ := List.forall₂_cons_left_iff.1 h
    exact .cons_right (ih hbs)
  | cons_cons a _ ih =>
    obtain ⟨b, bs, hab, hbs, rfl⟩ := List.forall₂_cons_left_iff.1 h
    exact .cons hab (ih hbs)

end Docx

namespace Conversion

open Docx (HeadingShown)

variable {c : Conversion} {fs : Files} {document : Layout.Document}

/-- A document that is laid out is that of a tree, with the names of the styles of a template. -/
theorem exists_render_of_layout (h : (c.layout fs).result.1 = .ok document) :
    ∃ tree template names, (c.tree fs).result.1 = .ok tree ∧
      Docx.templateStyles fs c.docx = .ok template ∧ template.paragraphNames = .ok names ∧
      document = Render.render ⟨c.docx, some (names.filterMap id)⟩ [tree] := by
  obtain ⟨tree, htree, h⟩ := Job.result_of_bind h
  obtain ⟨names, hnames, h⟩ := Job.MayGive.of_bind h
  have hnames := Job.mayGive_of.1 hnames
  rw [Docx.availableStyles] at hnames
  obtain ⟨template, htemplate, hnames⟩ := ok_of_bind hnames
  refine ⟨tree, template, names, htree, htemplate, ?_, Job.mayGive_pure.1 h⟩
  cases hread : template.paragraphNames with
  | error f =>
    rw [hread] at hnames
    cases hnames
  | ok names' =>
    rw [hread] at hnames
    cases hnames
    rfl

/-- What is laid out and written of a tree shows each of its headings with the style of its level,
    or in bold and in a size where the template lacks that style, but for those whose level is the
    truth value true; and each style that a paragraph is laid out with is found where it is
    written. -/
theorem shows_headings (c : Conversion) (fs : Files) :
    (∀ document nss d, (c.layout fs).result.1 = .ok document →
      (Docx.written (c.setting fs) document).result.1 = .ok (nss, d) →
      ∃ tree template, (c.tree fs).result.1 = .ok tree ∧
        Docx.templateStyles fs c.docx = .ok template ∧
        List.SublistForall₂ (fun h => HeadingShown (c.setting fs) template d h.1 h.2)
          (Render.headingsList [tree]) (Docx.paragraphsInList nss.flatten)) ∧
    ∀ document d, (c.layout fs).result.1 = .ok document →
      (c.setting fs).Prepares document.metadata d →
      ∀ b ∈ document.blocks, ∀ p ∈ Render.paragraphsOf b, ∀ name, p.styleName = some name →
        ∃ e, d.styles.find? .paragraph name = .ok (some e) := by
  constructor
  · intro document nss d hlayout hwritten
    obtain ⟨tree, template, names, htree, htemplate, hnames, rfl⟩ := exists_render_of_layout hlayout
    refine ⟨tree, template, htree, htemplate, ?_⟩
    have hmay := Job.mayGive_of_result_eq hwritten
    obtain ⟨d₀, hd₀, hlead⟩ := Docx.leads_of_mayGive_written hmay
    have hgrows := (Docx.steady_mapM (c.setting fs).steady_block _).grows hlead.mayLead
    obtain ⟨font, size, hfont⟩ := hd₀.styles htemplate
    rw [← hgrows.styles] at hfont
    let setup : Render.Setup := ⟨c.docx, some (names.filterMap id)⟩
    -- Headings are among the blocks in their order, and so are their places among the paragraphs.
    have hslots := (Render.sublist_blocks_headings setup [tree]).flatMap Docx.slotsOf
    have hshown := Docx.sublistForall₂_of_forall₂ hslots (Docx.shows_of_written hmay)
    have hmap : (Render.headingsList [tree]).flatMap (fun h => Docx.slotsOf (Render.headingBlock
        setup h)) = (Render.headingsList [tree]).map fun h => some (Render.heading setup h.1 h.2) :=
      List.map_eq_flatMap.symm
    rw [List.flatMap_map, hmap, List.sublistForall₂_map_left_iff, List.sublistForall₂_iff] at hshown
    obtain ⟨ns, hns, hsub⟩ := hshown
    refine List.sublistForall₂_iff.2 ⟨ns, hns.imp fun h n hn => ?_, hsub⟩
    exact Docx.headingShown_of_shows hnames hfont hn
  · intro document d hlayout hd b hb p hp name hname
    obtain ⟨tree, template, names, -, htemplate, hnames, rfl⟩ := exists_render_of_layout hlayout
    obtain ⟨font, size, hfont⟩ := hd.styles htemplate
    have hemitted := Render.emitted_of_mem_render hb
    exact Docx.exists_find?_of_hasStyle hnames hfont (Render.hasStyle_of_emitted hemitted hp hname)

end Conversion

end Manuscript
