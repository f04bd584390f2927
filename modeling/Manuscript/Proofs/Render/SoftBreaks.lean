import Manuscript.Proofs.Render.Gathering
import Manuscript.Proofs.Render.Grid
import Manuscript.Proofs.Render.Pairing
import Manuscript.Proofs.Render.Texts

/-!
# Soft breaks as spaces

A soft break is laid out as a break of its own, or as a space if the options say so. That is meant
to change the runs of soft breaks and nothing else, and so it does (`paired_softBreaks`), but for
one thing: a space is taken for text. A link whose label shows no text shows its address, and it
does not if the label has a soft break that is laid out as a space (`isBlankLink`). Each of those
links loses one run, its address, and nothing else is lost (`softened_inlines`).

* `any_hasText_inlines_softBreaks`: inlines show text with spaces if they do without or have a soft
  break;
* `Softened.forall₂`: where no address is lost the runs correspond one to one;
* `softened_group`, `matches_table`, `matches_quote`: quotes and tables look at no more of their
  runs than whether there are any.
-/

namespace Manuscript

/-- The options with soft breaks laid out as spaces, or as breaks. -/
def DocxOptions.softBreaks (asSpace : Bool) (o : DocxOptions) : DocxOptions :=
  { o with softBreakAsSpace := asSpace }

namespace Layout

/-- A run of the layout with spaces against the one of the layout with breaks: a space of the same
    format for a soft break, whatever link it is given, and the same run otherwise. -/
inductive Run.Spaced : Run → Run → Prop
  | same (r : Run) (h : r.kind ≠ .softBreak) : Spaced r r
  | space (t : Run) (link : Option String) (h : t.kind = .softBreak) :
    Spaced { t with text := " ", kind := .text, hyperlink := link } t

/-- Runs of the layout with spaces against those of the layout with breaks, where the addresses of
    some links are lost, in a number that is counted. -/
inductive Softened : Nat → List Run → List Run → Prop
  | nil : Softened 0 [] []
  | run {r t : Run} (h : r.Spaced t) : Softened 0 [r] [t]
  | append {rs ts rs' ts' : List Run} (h : Softened j rs ts) (h' : Softened k rs' ts') :
    Softened (j + k) (rs ++ rs') (ts ++ ts')
  | address {rs ts : List Run} (h : Softened k rs ts) (hrs : rs ≠ []) (url : String) (f : Format) :
    Softened (k + 1) rs (ts ++ [{ text := url, format := f, hyperlink := some url }])

/-- Two paragraphs are the same but for their runs, and these are related. -/
def Paragraph.Matches (related : List Run → List Run → Prop) (p p' : Paragraph) : Prop :=
  related p.runs p'.runs ∧ p = { p' with runs := p.runs }

/-- Two tables are the same but for the paragraphs in their cells, and these match. -/
structure Table.Matches (related : List Run → List Run → Prop) (t t' : Table) : Prop where
  rows : List.Forall₂ (fun r r' => List.Forall₂ (Paragraph.Matches related) r.cells r'.cells)
    t.rows t'.rows
  others : t = { t' with rows := t.rows }

/-- Two blocks are both paragraphs or both tables, and match. -/
inductive Block.Matches (related : List Run → List Run → Prop) : Block → Block → Prop
  | paragraph {p p' : Paragraph} (h : p.Matches related p') :
    Matches related (.paragraph p) (.paragraph p')
  | table {t t' : Table} (h : t.Matches related t') : Matches related (.table t) (.table t')

/-- Paragraphs that match match by a weaker account of their runs. -/
theorem Paragraph.Matches.mono {R R' : List Run → List Run → Prop}
    (h : ∀ rs ts, R rs ts → R' rs ts) {p p' : Paragraph} (hp : p.Matches R p') : p.Matches R' p' :=
  ⟨h _ _ hp.1, hp.2⟩

/-- Blocks that match match by a weaker account of their runs. -/
theorem Block.Matches.mono {R R' : List Run → List Run → Prop} (h : ∀ rs ts, R rs ts → R' rs ts)
    {b b' : Block} (hb : b.Matches R b') : b.Matches R' b' := by
  cases hb with
  | paragraph hp => exact .paragraph (hp.mono h)
  | table ht =>
    exact .table ⟨ht.rows.imp fun _ _ hcells => hcells.imp fun _ _ hp => hp.mono h, ht.others⟩

namespace Softened

variable {rs ts : List Run}

theorem same (h : ∀ r ∈ rs, r.kind ≠ .softBreak) : Softened 0 rs rs := by
  induction rs with
  | nil => exact .nil
  | cons r rs ih =>
    rw [List.forall_mem_cons] at h
    exact (run (.same r h.1)).append (ih h.2)

theorem eq_nil_iff (h : Softened k rs ts) : rs = [] ↔ ts = [] := by
  induction h with
  | nil => rfl
  | run => simp
  | append _ _ ih ih' => rw [List.append_eq_nil_iff, List.append_eq_nil_iff, ih, ih']
  | address _ hrs => simp [hrs]

/-- Each address that is lost is one run less. -/
theorem length_eq (h : Softened k rs ts) : ts.length = rs.length + k := by
  induction h with
  | nil => rfl
  | run => rfl
  | append _ _ ih ih' =>
    rw [List.length_append, List.length_append, ih, ih']
    omega
  | address _ _ _ _ ih =>
    rw [List.length_append, ih]
    rfl

/-- Where no address is lost the runs correspond one to one. -/
theorem forall₂ (h : Softened 0 rs ts) : List.Forall₂ Run.Spaced rs ts := by
  generalize hk : 0 = k at h
  induction h with
  | nil => exact .nil
  | run h => exact .cons h .nil
  | append _ _ ih ih' => exact List.rel_append (ih (by omega)) (ih' (by omega))
  | address => omega

end Softened

/-- Runs of the layout with spaces against those of the layout with breaks. Addresses are lost under
    a condition only. -/
def SoftenedIf (condition : Prop) (rs ts : List Run) : Prop :=
  ∃ k, (k ≠ 0 → condition) ∧ Softened k rs ts

namespace SoftenedIf

variable {condition : Prop} {rs ts rs' ts' : List Run}

theorem same (h : ∀ r ∈ rs, r.kind ≠ .softBreak) : SoftenedIf condition rs rs :=
  ⟨0, nofun, .same h⟩

theorem append (h : SoftenedIf condition rs ts) (h' : SoftenedIf condition rs' ts') :
    SoftenedIf condition (rs ++ rs') (ts ++ ts') := by
  obtain ⟨j, hj, hsoft⟩ := h
  obtain ⟨k, hk, hsoft'⟩ := h'
  refine ⟨j + k, fun hne => ?_, hsoft.append hsoft'⟩
  by_cases hzero : j = 0
  · exact hk (by omega)
  · exact hj hzero

theorem isEmpty_eq (h : SoftenedIf condition rs ts) : rs.isEmpty = ts.isEmpty := by
  obtain ⟨k, -, hsoft⟩ := h
  rw [Bool.eq_iff_iff, List.isEmpty_iff, List.isEmpty_iff, hsoft.eq_nil_iff]

theorem intercalate {sep : List Run} (hsep : ∀ r ∈ sep, r.kind ≠ .softBreak)
    {gs gs' : List (List Run)} (h : List.Forall₂ (SoftenedIf condition) gs gs') :
    SoftenedIf condition (sep.intercalate gs) (sep.intercalate gs') := by
  induction h with
  | nil => exact ⟨0, nofun, .nil⟩
  | cons hg hgs ih =>
    cases hgs with
    | nil => simpa using hg
    | cons hg' hgs =>
      rw [List.intercalate_cons_cons, List.intercalate_cons_cons]
      exact (hg.append (same hsep)).append ih

end SoftenedIf

end Layout

namespace Render

open Layout Node

/-! ## Blank links -/

/-- Whether there is a soft break somewhere among nodes. -/
def broken (ns : List Node) : Bool :=
  (listing ns).any fun n => n.kind == .softBreak

/-- There is a soft break among nodes if there is one in the first or in the others. -/
theorem broken_cons (n : Node) (ns : List Node) :
    broken (n :: ns) = (n.kind == .softBreak || broken n.children || broken ns) := by
  rw [broken, listing_cons, List.any_cons, List.any_append, Bool.or_assoc]
  rfl

/-- Whether a node is a link somewhere whose label has a soft break and shows no text. -/
def isBlankLink (o : DocxOptions) : Node → Bool
  | .link url ns _ _ =>
    !url.isEmpty && broken ns && !(runs (o.softBreaks false) .plain ns).any Run.hasText
  | _ => false

/-- The number of links whose label has a soft break and shows no text. -/
def blankLinks (o : DocxOptions) (ns : List Node) : Nat :=
  (listing ns).countP (isBlankLink o)

/-- The blank links among nodes are those of the first and those of the others. -/
theorem blankLinks_cons (o : DocxOptions) (n : Node) (ns : List Node) :
    blankLinks o (n :: ns) =
      (isBlankLink o n).toNat + blankLinks o n.children + blankLinks o ns := by
  rw [blankLinks, listing_cons, List.countP_cons, List.countP_append, blankLinks, blankLinks]
  cases isBlankLink o n with
  | false => simp
  | true =>
    simp only [if_true, Bool.toNat_true]
    omega

/-! ## Inlines -/

/-- A link shows text if its label does or it leads somewhere. -/
theorem any_hasText_labelled (url : String) (f : Format) (rs : List Run) :
    (labelled url f rs).any Run.hasText = (rs.any Run.hasText || !url.isEmpty) := by
  rw [labelled_eq]
  cases hrs : rs.any Run.hasText <;> cases hurl : url.isEmpty <;> simp [hrs, hurl, Run.hasText]

variable (o : DocxOptions)

/-- The format beneath a link has nothing to do with soft breaks. -/
theorem inline_link_softBreaks (asSpace : Bool) (f : Format) (link : Option String) (url : String)
    (ns : List Node) (title : Option String) (m : Metadata) :
    inline (o.softBreaks asSpace) f link (.link url ns title m) =
      labelled url (linkFormat o f)
        (inlines (o.softBreaks asSpace) (linkFormat o f) (some url) ns) := by
  rw [inline]
  rfl

mutual

theorem any_hasText_inline_softBreaks (f : Format) (link : Option String) (n : Node) :
    (inline (o.softBreaks true) f link n).any Run.hasText =
      ((inline (o.softBreaks false) f link n).any Run.hasText ||
        (n.kind == .softBreak || broken n.children)) := by
  cases n with
  | softBreak => rfl
  | link url ns =>
    rw [inline_link_softBreaks, inline_link_softBreaks, any_hasText_labelled, any_hasText_labelled,
      any_hasText_inlines_softBreaks _ _ ns]
    exact Bool.or_right_comm _ _ _
  | table header rows =>
    cases header with
    | none => exact any_hasText_inlines_softBreaks f link rows
    | some header =>
      rw [inline, inline, List.any_append, List.any_append,
        any_hasText_inline_softBreaks f link header, any_hasText_inlines_softBreaks f link rows]
      have hchildren : broken (header :: rows) =
          (header.kind == .softBreak || broken header.children || broken rows) :=
        broken_cons header rows
      refine Eq.trans ?_ (congrArg (_ || ·) hchildren.symm)
      simp [Bool.or_assoc, Bool.or_left_comm]
  | document ns | heading _ ns | paragraph ns | bulletList ns | orderedList _ ns | listItem ns
  | tableRow ns | tableCell ns | blockQuote ns | emphasis ns | strong ns | underline ns =>
    rw [inline, inline]
    exact any_hasText_inlines_softBreaks _ link ns
  | text | code | image | hardBreak | htmlInline | htmlBlock | fencedCode | indentedCode
  | thematicBreak =>
    simp [inline, children, Node.kind, broken]

/-- Inlines show text with spaces if they do with breaks or have a soft break. -/
theorem any_hasText_inlines_softBreaks (f : Format) (link : Option String) (ns : List Node) :
    (inlines (o.softBreaks true) f link ns).any Run.hasText =
      ((inlines (o.softBreaks false) f link ns).any Run.hasText || broken ns) := by
  cases ns with
  | nil => rfl
  | cons n ns =>
    rw [inlines, inlines, List.any_append, List.any_append, broken_cons,
      any_hasText_inline_softBreaks f link n, any_hasText_inlines_softBreaks f link ns]
    simp [Bool.or_assoc, Bool.or_left_comm]

end

/-- A label with spaces against one with breaks: an address is lost if only the former shows text. -/
theorem softened_labelled {rs ts : List Run} {k : Nat} (h : Softened k rs ts) (url : String)
    (f : Format) {blank : Bool}
    (hblank : blank = (!url.isEmpty && rs.any Run.hasText && !ts.any Run.hasText))
    (htext : ts.any Run.hasText = true → rs.any Run.hasText = true) :
    Softened (blank.toNat + k) (labelled url f rs) (labelled url f ts) := by
  rw [labelled_eq, labelled_eq]
  cases hurl : url.isEmpty with
  | true => simpa [hblank, hurl] using h
  | false =>
    cases hts : ts.any Run.hasText with
    | true => simpa [hblank, hurl, hts, htext hts] using h
    | false =>
      cases hrs : rs.any Run.hasText with
      | true =>
        have hne : rs ≠ [] := by
          rintro rfl
          cases hrs
        simpa [hblank, hurl, hts, hrs, Nat.add_comm] using h.address hne url f
      | false =>
        have hsame : Softened 0 [{ text := url, format := f, hyperlink := some url }]
            [{ text := url, format := f, hyperlink := some url }] := .same (by simp)
        simpa [hblank, hurl, hts, hrs] using h.append hsame

mutual

/-- The runs of a node are softened, with one more for each blank link in it. -/
theorem softened_inline (f : Format) (link : Option String) (n : Node) :
    Softened ((isBlankLink o n).toNat + blankLinks o n.children)
      (inline (o.softBreaks true) f link n) (inline (o.softBreaks false) f link n) := by
  cases n with
  | softBreak => exact .run (.space { text := "", format := f, kind := .softBreak } link rfl)
  | link url ns title m =>
    rw [inline_link_softBreaks, inline_link_softBreaks]
    have htext := any_hasText_inlines_softBreaks o (linkFormat o f) (some url) ns
    have hplain := any_hasText_inlines (o.softBreaks false) (linkFormat o f) (some url) ns
    refine softened_labelled (softened_inlines _ _ ns) url _ ?_ fun h => ?_
    · rw [isBlankLink, htext, hplain]
      cases (runs (o.softBreaks false) .plain ns).any Run.hasText <;> simp
    · rw [htext, h, Bool.true_or]
  | table header rows =>
    cases header with
    | none => simpa [isBlankLink, children, inline] using softened_inlines f link rows
    | some header =>
      have h := (softened_inline f link header).append (softened_inlines f link rows)
      rw [← blankLinks_cons] at h
      simpa [isBlankLink, children, inline] using h
  | document ns | heading _ ns | paragraph ns | bulletList ns | orderedList _ ns | listItem ns
  | tableRow ns | tableCell ns | blockQuote ns | emphasis ns | strong ns | underline ns =>
    simpa [isBlankLink, children, inline] using softened_inlines _ link ns
  | text s | code s =>
    rw [inline, inline, textRuns]
    split
    · exact .nil
    · exact .run (.same _ nofun)
  | image => exact .run (.same _ nofun)
  | hardBreak => exact .run (.same _ nofun)
  | htmlInline | htmlBlock | fencedCode | indentedCode | thematicBreak =>
    rw [inline, inline]
    exact .nil

/-- With spaces for soft breaks inlines lose the address of each blank link, and nothing else. -/
theorem softened_inlines (f : Format) (link : Option String) (ns : List Node) :
    Softened (blankLinks o ns) (inlines (o.softBreaks true) f link ns)
      (inlines (o.softBreaks false) f link ns) := by
  cases ns with
  | nil => exact .nil
  | cons n ns =>
    rw [inlines, inlines, blankLinks_cons]
    exact (softened_inline f link n).append (softened_inlines f link ns)

end

/-- With spaces for soft breaks there is one run less for each blank link. -/
theorem length_runs_softBreaks (f : Format) (ns : List Node) :
    (runs (o.softBreaks false) f ns).length =
      (runs (o.softBreaks true) f ns).length + blankLinks o ns :=
  (softened_inlines o f none ns).length_eq

/-- A label that is nothing but a soft break: its link shows its address unless that is a space. -/
example : ([true, false].map fun asSpace =>
    (runs (DocxOptions.softBreaks asSpace {}) .plain [.link "u" [.softBreak] none]).map (·.text)) =
      [[" "], ["", "u"]] := by
  decide

variable {o} {condition : Prop}

/-- Runs of inlines lose addresses under the condition that there is a blank link among them. -/
theorem softenedIf_runs {ns : List Node}
    (h : ∀ n ∈ listing ns, isBlankLink o n = true → condition) (f : Format) :
    SoftenedIf condition (runs (o.softBreaks true) f ns) (runs (o.softBreaks false) f ns) := by
  refine ⟨blankLinks o ns, fun hne => ?_, softened_inlines o f none ns⟩
  obtain ⟨n, hn, hblank⟩ := List.countP_pos_iff.1 (Nat.pos_of_ne_zero hne)
  exact h n hn hblank

theorem softenedIf_textRuns (text : String) (f : Format) :
    SoftenedIf condition (textRuns text f none) (textRuns text f none) := by
  refine .same fun r hr => ?_
  by_cases htext : text = "" <;> simp_all [textRuns]

/-! ## Tables -/

/-- Tables match cell by cell. -/
theorem matches_table {header : Option Node} {rows : List Node}
    (h : ∀ n ∈ listing (header.toList ++ rows), isBlankLink o n = true → condition) :
    (table (o.softBreaks true) header rows).Matches (SoftenedIf condition)
      (table (o.softBreaks false) header rows) := by
  rw [table_eq, table_eq]
  refine ⟨?_, rfl⟩
  rw [List.forall₂_map_left_iff, List.forall₂_map_right_iff, List.forall₂_same]
  intro row hrow
  rw [sourceRow, sourceRow, List.forall₂_map_left_iff, List.forall₂_map_right_iff,
    List.forall₂_same]
  intro cell hcell
  have hrow := forall_mem_listing_children h (mem_of_mem_sourceRows hrow)
  exact ⟨softenedIf_runs (forall_mem_listing_children hrow hcell) row.2, rfl⟩

/-! ## Quotes -/

/-- What a leaf of a quote gives is softened. -/
theorem softenedIf_group {n : Node}
    (h : ∀ m ∈ listing n.children, isBlankLink o m = true → condition) :
    SoftenedIf condition (group (o.softBreaks true) n) (group (o.softBreaks false) n) := by
  cases n with
  | paragraph ns | heading _ ns => exact softenedIf_runs h quoteFormat
  | fencedCode code | indentedCode code => exact softenedIf_textRuns code _
  | _ => exact .same (by simp [group])

mutual

/-- What holds beneath a node holds beneath each leaf that is quoted of it. -/
theorem forall_mem_quoted {P : Node → Prop} (n : Node) (h : ∀ m ∈ listing n.children, P m) :
    ∀ k ∈ quoted n, ∀ m ∈ listing k.children, P m := by
  cases n with
  | blockQuote ns | bulletList ns | orderedList _ ns | listItem ns =>
    exact forall_mem_quotedList ns h
  | _ => exact List.forall_mem_singleton.2 h

/-- What holds of all nodes of quoted trees holds of all that are beneath the nodes that count. -/
theorem forall_mem_quotedList {P : Node → Prop} (ns : List Node) (h : ∀ m ∈ listing ns, P m) :
    ∀ k ∈ quotedList ns, ∀ m ∈ listing k.children, P m := by
  cases ns with
  | nil => nofun
  | cons n ns =>
    obtain ⟨-, hchildren, hrest⟩ := forall_mem_listing_cons.1 h
    rw [quotedList, List.forall_mem_append]
    exact ⟨forall_mem_quoted n hchildren, forall_mem_quotedList ns hrest⟩

end

/-- The groups of a quote are softened one by one. -/
theorem forall₂_groups {ns : List Node}
    (h : ∀ n ∈ listing ns, isBlankLink o n = true → condition) :
    List.Forall₂ (SoftenedIf condition) (groups (o.softBreaks true) ns)
      (groups (o.softBreaks false) ns) := by
  refine List.rel_filter (fun rs ts hsoft => ?_) ?_
  · exact iff_of_eq (congrArg (fun b => (!b) = true) hsoft.isEmpty_eq)
  · rw [List.forall₂_map_left_iff, List.forall₂_map_right_iff, List.forall₂_same]
    exact fun n hn => softenedIf_group (forall_mem_quotedList ns h n hn)

/-- The tables of a quote match one by one. -/
theorem forall₂_tables {ns : List Node}
    (h : ∀ n ∈ listing ns, isBlankLink o n = true → condition) :
    List.Forall₂ (Table.Matches (SoftenedIf condition))
      ((sourceTables ns).map fun t => table (o.softBreaks true) t.1 t.2)
      ((sourceTables ns).map fun t => table (o.softBreaks false) t.1 t.2) := by
  rw [List.forall₂_map_left_iff, List.forall₂_map_right_iff, List.forall₂_same]
  intro t ht
  obtain ⟨n, hn, hsource⟩ := List.mem_filterMap.1 ht
  cases n with
  | table header rows =>
    cases hsource
    exact matches_table (forall_mem_quotedList ns h _ hn)
  | _ => cases hsource

/-- A quote has its paragraph in both layouts or in none, and the tables follow it in both. -/
theorem matches_quote {ns : List Node}
    (h : ∀ n ∈ listing ns, isBlankLink o n = true → condition) :
    List.Forall₂ (Block.Matches (SoftenedIf condition)) (quote (o.softBreaks true) ns)
      (quote (o.softBreaks false) ns) := by
  have htext : SoftenedIf condition ([quoteBreak].intercalate (groups (o.softBreaks true) ns))
      ([quoteBreak].intercalate (groups (o.softBreaks false) ns)) :=
    SoftenedIf.intercalate (List.forall_mem_singleton.2 (by decide)) (forall₂_groups h)
  rw [quote, quote, Quotation.blocks, Quotation.blocks, Quotation.runs, Quotation.runs,
    quotations_eq, quotations_eq, htext.isEmpty_eq, List.isEmpty_map, List.isEmpty_map]
  refine List.rel_append ?_ ?_
  · split
    · exact .nil
    · exact .cons (.paragraph ⟨htext, rfl⟩) .nil
  · rw [List.forall₂_map_left_iff, List.forall₂_map_right_iff]
    exact (forall₂_tables h).imp fun _ _ => .table

/-! ## Documents -/

/-- The setup with soft breaks laid out as spaces, or as breaks. -/
def Setup.softBreaks (asSpace : Bool) (s : Setup) : Setup :=
  { s with options := s.options.softBreaks asSpace }

variable {s : Setup}

/-- Headings match, as their style does not hang on soft breaks. -/
theorem matches_heading {ns : List Node}
    (h : ∀ n ∈ listing ns, isBlankLink s.options n = true → condition) (level : Value) :
    (heading (s.softBreaks true) level ns).Matches (SoftenedIf condition)
      (heading (s.softBreaks false) level ns) := by
  have hstyle (asSpace : Bool) : (s.softBreaks asSpace).hasStyle (headingStyle level) =
      s.hasStyle (headingStyle level) := rfl
  rw [heading, heading, hstyle, hstyle]
  split
  · exact ⟨softenedIf_runs h .plain, rfl⟩
  · exact ⟨softenedIf_runs h _, rfl⟩

/-- The two setups pair, as leaves are softened and all else is the same. -/
theorem pairs_softBreaks (s : Setup) (condition : Prop) :
    Pairs (fun n => isBlankLink s.options n = true → condition)
      (Block.Matches (SoftenedIf condition)) (s.softBreaks true) (s.softBreaks false) where
  opening m depth text h :=
    .paragraph ⟨(softenedIf_textRuns _ .plain).append (softenedIf_runs h .plain), rfl⟩
  single depth n hn h := by
    cases n with
    | document | bulletList | orderedList | listItem =>
      exact (hn (by simp [Groups, Node.kind])).elim
    | heading level ns =>
      rw [block, block]
      exact .ofParagraph (.paragraph (matches_heading h level))
    | paragraph ns =>
      rw [block, block]
      exact .ofParagraph (.paragraph ⟨softenedIf_runs h .plain, rfl⟩)
    | table header rows =>
      rw [block, block]
      exact ⟨rfl, .cons (.table (matches_table h)) .nil⟩
    | fencedCode code | indentedCode code =>
      rw [block, block]
      exact .ofParagraph (.paragraph ⟨softenedIf_textRuns code _, rfl⟩)
    | blockQuote ns =>
      rw [block, block]
      exact ⟨rfl, matches_quote h⟩
    | thematicBreak =>
      rw [block, block]
      exact .ofParagraph (.paragraph ⟨⟨0, nofun, .nil⟩, rfl⟩)
    | tableRow | tableCell | htmlBlock | text | emphasis | strong | underline | code | link | image
    | softBreak | hardBreak | htmlInline =>
      rw [block, block]
      exact .empty _

/-- Soft breaks as spaces change the runs of soft breaks and nothing else, but for blank links.
    Laid out with the one and with the other, any tree gives the same properties and the same blocks
    in the same order, and these differ in their runs alone: a space of the same format stands for
    each soft break, and the addresses of some links may be lost. If there is no blank link in the
    tree, no address is lost, and the runs correspond one to one. Each blank link among inlines
    costs a run. -/
theorem paired_softBreaks (s : Setup) (ns : List Node) :
    Paired (Block.Matches fun rs ts => ∃ k, Softened k rs ts) (render (s.softBreaks true) ns)
        (render (s.softBreaks false) ns) ∧
      ((∀ n ∈ listing ns, isBlankLink s.options n = false) →
        Paired (Block.Matches (List.Forall₂ Run.Spaced)) (render (s.softBreaks true) ns)
          (render (s.softBreaks false) ns)) ∧
      ∀ f : Format, (runs (s.options.softBreaks false) f ns).length =
        (runs (s.options.softBreaks true) f ns).length + blankLinks s.options ns := by
  refine ⟨?_, fun h => ?_, fun f => length_runs_softBreaks s.options f ns⟩
  · have hpaired := paired_blocks (pairs_softBreaks s True) 0 ns fun _ _ _ => trivial
    exact hpaired.mono fun _ _ => .mono fun rs ts ⟨k, _, hsoft⟩ => ⟨k, hsoft⟩
  · have hpaired := paired_blocks (pairs_softBreaks s False) 0 ns fun n hn hblank =>
      Bool.false_ne_true ((h n hn).symm.trans hblank)
    refine hpaired.mono fun _ _ => .mono fun rs ts ⟨k, hk, hsoft⟩ => ?_
    obtain rfl : k = 0 := by
      by_contra hne
      exact hk hne
    exact hsoft.forall₂

/-- Soft breaks in a paragraph, in a quoted link and in a table, and a link without text that has
    none: its address is shown in both layouts. -/
theorem paired_softBreaks_unblank :
    let ns : List Node := [.paragraph [.text "a", .softBreak, .link "u" [.hardBreak] none],
      .blockQuote [.paragraph [.link "v" [.text "b", .softBreak] none]],
      .table none [.tableRow [.tableCell [.softBreak]]]]
    let on := render (Setup.softBreaks true {}) ns
    let off := render (Setup.softBreaks false {}) ns
    (∀ n ∈ listing ns, isBlankLink {} n = false) ∧
      on.runs.map (fun r => (r.text, r.kind)) =
        [("a", .text), (" ", .text), ("", .hardBreak), ("u", .text), ("b", .text), (" ", .text),
          (" ", .text)] ∧
      Paired (Block.Matches (List.Forall₂ Run.Spaced)) on off := by
  intro ns on off
  have h : ∀ n ∈ listing ns, isBlankLink {} n = false := by decide
  exact ⟨h, by decide, (paired_softBreaks {} ns).2.1 h⟩

end Render

end Manuscript
