import Manuscript.Proofs.Render.Texts
import Mathlib.Data.List.Forall2

/-!
# The leaves that runs come from

Each run of laid out inlines comes from one leaf of the tree (`leavesList`), a text, a code span, a
picture or a break, or the address of a link whose label shows no text. A leaf is listed with the
nodes above it, and these alone decide the format of its run (`Leaf.Gives`): what stands beside the
leaf has no say in it.

* `inlines_eq_map_leaves`: the runs are those of the leaves, one for each and in order;
* `flag_foldr_within`: a flag is on beneath some nodes if it was on above them or one of them turns
  it on.
-/

namespace Manuscript.Render

open Layout

/-! ## Leaves -/

/-- What a leaf shows. -/
inductive Content
  | text (s : String)
  | code (s : String)
  | picture (url alt : String)
  | softBreak
  | hardBreak
  /-- The address of a link whose label shows no text. -/
  | address (url : String)
  deriving DecidableEq, Repr

namespace Content

/-- The text that is shown. -/
@[simp] def shown (o : DocxOptions) : Content → String
  | text s | code s | address s => s
  | picture url alt => if alt = "" then "[Image: " ++ url ++ "]" else alt
  | softBreak => if o.softBreakAsSpace then " " else ""
  | hardBreak => ""

/-- Whether text is shown or the line is broken. -/
@[simp] def kind (o : DocxOptions) : Content → Run.Kind
  | text _ | code _ | picture .. | address _ => .text
  | softBreak => if o.softBreakAsSpace then .text else .softBreak
  | hardBreak => .hardBreak

/-- Where a picture lies, if that is known. -/
@[simp] def source? : Content → Option String
  | picture url _ => if url = "" then none else some url
  | text _ | code _ | softBreak | hardBreak | address _ => none

/-- Whether the content is a code span. -/
@[simp] def isCode : Content → Bool
  | code _ => true
  | text _ | picture .. | softBreak | hardBreak | address _ => false

end Content

/-- A leaf of a tree. -/
structure Leaf where
  content : Content
  /-- The nodes above the leaf, the innermost first. -/
  above : List Node

/-- Whether a leaf shows any text. -/
def Leaf.hasText (o : DocxOptions) (l : Leaf) : Bool :=
  !(l.content.shown o).isEmpty

mutual

/-- The leaves of a node that lies beneath the nodes `above`, in document order. Texts and code
    spans without a character are none. -/
def leaves (o : DocxOptions) (above : List Node) (n : Node) : List Leaf :=
  match n with
  | .text s _ => if s = "" then [] else [⟨.text s, above⟩]
  | .code s _ => if s = "" then [] else [⟨.code s, above⟩]
  | .image url alt _ _ => [⟨.picture url alt, above⟩]
  | .softBreak _ => [⟨.softBreak, above⟩]
  | .hardBreak _ => [⟨.hardBreak, above⟩]
  | .link url ns _ _ =>
    let label := leavesList o (n :: above) ns
    if label.any (Leaf.hasText o) || url.isEmpty then label
    else label ++ [⟨.address url, n :: above⟩]
  | .htmlInline .. | .htmlBlock .. | .fencedCode .. | .indentedCode .. | .thematicBreak .. => []
  | .table none rows _ => leavesList o (n :: above) rows
  | .table (some header) rows _ => leaves o (n :: above) header ++ leavesList o (n :: above) rows
  | .document ns _ | .heading _ ns _ | .paragraph ns _ | .bulletList ns _ | .orderedList _ ns _
  | .listItem ns _ | .tableRow ns _ | .tableCell ns _ | .blockQuote ns _ | .emphasis ns _
  | .strong ns _ | .underline ns _ => leavesList o (n :: above) ns

/-- The leaves of a list of nodes, in document order. -/
def leavesList (o : DocxOptions) (above : List Node) : List Node → List Leaf
  | [] => []
  | n :: ns => leaves o above n ++ leavesList o above ns

end

/-! ## What is inherited -/

/-- The format beneath a node that has the format `f` itself. -/
def within (o : DocxOptions) (n : Node) (f : Format) : Format :=
  match n.kind with
  | .strong => f.apply (.bold true)
  | .emphasis => f.apply (.italic true)
  | .underline => f.apply (.underline true)
  | .link => linkFormat o f
  | _ => f

/-- Where a node leads, if it is a link. -/
def address? : Node → Option String
  | .link url _ _ _ => some url
  | _ => none

/-- Where the innermost link among nodes leads. -/
def linkAbove (above : List Node) : Option String :=
  above.findSome? address?

/-- The run of a leaf in a tree of the format `f`. -/
def Leaf.run (o : DocxOptions) (f : Format) (l : Leaf) : Run where
  text := l.content.shown o
  format :=
    (l.above.foldr (within o) f).apply (.monospace l.content.isCode)
  kind := l.content.kind o
  hyperlink := if l.content.kind o = .text then linkAbove l.above else none
  imageSource := l.content.source?

/-- A flag that the nodes of some kinds turn on is on beneath nodes if it was on above them or one
    of them is of those kinds. -/
theorem flag_foldr_within {o : DocxOptions} (flag : Format → Bool) (turnsOn : Node.Kind → Bool)
    (h : ∀ n f, flag (within o n f) = (flag f || turnsOn n.kind)) (f : Format)
    (above : List Node) :
    flag (above.foldr (within o) f) = true ↔
      flag f = true ∨ ∃ n ∈ above, turnsOn n.kind = true := by
  induction above with
  | nil => simp
  | cons n above ih =>
    rw [List.foldr_cons, h, Bool.or_eq_true, ih, List.exists_mem_cons_iff, or_assoc]
    exact or_congr_right or_comm

/-- Of all nodes, only strong ones turn bold on. -/
theorem bold_within (o : DocxOptions) (n : Node) (f : Format) :
    (within o n f).bold = (f.bold || n.kind == .strong) := by
  unfold within
  split <;> simp_all [Format.apply, linkFormat, Format.merge]

/-- Only emphasis turns italics on. -/
theorem italic_within (o : DocxOptions) (n : Node) (f : Format) :
    (within o n f).italic = (f.italic || n.kind == .emphasis) := by
  unfold within
  split <;> simp_all [Format.apply, linkFormat, Format.merge]

/-- Underlining is turned on by what is underlined, and by links. -/
theorem underline_within (o : DocxOptions) (n : Node) (f : Format) :
    (within o n f).underline = (f.underline || (n.kind == .underline || n.kind == .link)) := by
  unfold within
  split <;> simp_all [Format.apply, linkFormat, Format.merge]

theorem monospace_within (o : DocxOptions) (n : Node) (f : Format) :
    (within o n f).monospace = (f.monospace || false) := by
  unfold within
  split <;> simp [Format.apply, linkFormat, Format.merge]

/-- Only links change the colour. -/
theorem color_within (o : DocxOptions) (n : Node) (f : Format) :
    (within o n f).color = if n.kind = .link then some o.linkColor else f.color := by
  unfold within
  split <;> simp_all [Format.apply, linkFormat, Format.merge]

/-- No node changes the size. -/
theorem fontSize_within (o : DocxOptions) (n : Node) (f : Format) :
    (within o n f).fontSize = f.fontSize := by
  unfold within
  split <;> simp [Format.apply, linkFormat, Format.merge]

/-- Beneath a link all is in the colour of links. -/
theorem color_foldr_within (o : DocxOptions) (f : Format) (above : List Node) :
    (above.foldr (within o) f).color =
      if ∃ n ∈ above, n.kind = .link then some o.linkColor else f.color := by
  induction above with
  | nil => simp
  | cons n above ih =>
    rw [List.foldr_cons, color_within, ih]
    simp only [List.exists_mem_cons_iff]
    split <;> simp_all

theorem fontSize_foldr_within (o : DocxOptions) (f : Format) (above : List Node) :
    (above.foldr (within o) f).fontSize = f.fontSize := by
  induction above with
  | nil => rfl
  | cons n above ih => rw [List.foldr_cons, fontSize_within, ih]

/-! ## Runs of leaves -/

/-- The runs of leaves have text if and only if the leaves do. -/
theorem any_hasText_map_run (o : DocxOptions) (f : Format) (ls : List Leaf) :
    (ls.map (Leaf.run o f)).any Run.hasText = ls.any (Leaf.hasText o) := by
  rw [List.any_map]
  rfl

mutual

/-- The runs of a node are those of its leaves. -/
theorem inline_eq_map_leaves (o : DocxOptions) (f : Format) (above : List Node) (n : Node) :
    inline o (above.foldr (within o) f) (linkAbove above) n =
      (leaves o above n).map (Leaf.run o f) := by
  cases n with
  | text s m | code s m =>
    by_cases h : s = "" <;> simp [inline, leaves, textRuns, h, Leaf.run, Format.apply]
  | image url alt title m => simp [inline, leaves, imageText, Leaf.run, Format.apply]
  | link url ns title m =>
    -- The label and the address have the link itself above them.
    have ih := inlines_eq_map_leaves o f (.link url ns title m :: above) ns
    have hurl : linkAbove (.link url ns title m :: above) = some url := rfl
    have hf : (Node.link url ns title m :: above).foldr (within o) f =
      linkFormat o (above.foldr (within o) f) := rfl
    rw [hf, hurl] at ih
    rw [inline, leaves, labelled_eq, ih, any_hasText_map_run]
    split
    · rfl
    · rw [List.map_append, List.map_singleton, Leaf.run, hf, hurl]
      simp [Format.apply]
  | softBreak m =>
    cases h : o.softBreakAsSpace <;> simp [inline, leaves, h, Leaf.run, Format.apply]
  | hardBreak m => simp [inline, leaves, Leaf.run, Format.apply]
  | htmlInline | htmlBlock | fencedCode | indentedCode | thematicBreak => simp [inline, leaves]
  | table header rows m =>
    cases header with
    | none =>
      rw [inline, leaves, ← inlines_eq_map_leaves]
      rfl
    | some header =>
      rw [inline, leaves, List.map_append, ← inlines_eq_map_leaves, ← inline_eq_map_leaves]
      rfl
  | document ns | heading _ ns | paragraph ns | bulletList ns | orderedList _ ns | listItem ns
  | tableRow ns | tableCell ns | blockQuote ns | emphasis ns | strong ns | underline ns =>
    rw [inline, leaves, ← inlines_eq_map_leaves]
    rfl

/-- The runs of a list of nodes are those of its leaves, one for each and in order. -/
theorem inlines_eq_map_leaves (o : DocxOptions) (f : Format) (above ns : List Node) :
    inlines o (above.foldr (within o) f) (linkAbove above) ns =
      (leavesList o above ns).map (Leaf.run o f) := by
  cases ns with
  | nil => rfl
  | cons n ns =>
    rw [inlines, leavesList, List.map_append, inline_eq_map_leaves, inlines_eq_map_leaves]

end

/-- The run of a leaf in a tree of the format `f`, field by field. -/
structure Leaf.Gives (o : DocxOptions) (f : Format) (l : Leaf) (r : Run) : Prop where
  text : r.text = l.content.shown o
  kind : r.kind = l.content.kind o
  bold : r.format.bold ↔ f.bold ∨ ∃ n ∈ l.above, n.kind = .strong
  italic : r.format.italic ↔ f.italic ∨ ∃ n ∈ l.above, n.kind = .emphasis
  underline : r.format.underline ↔
    f.underline ∨ ∃ n ∈ l.above, n.kind = .underline ∨ n.kind = .link
  monospace : r.format.monospace ↔ f.monospace ∨ l.content.isCode
  color : r.format.color = if ∃ n ∈ l.above, n.kind = .link then some o.linkColor else f.color
  fontSize : r.format.fontSize = f.fontSize
  hyperlink : r.hyperlink = if r.isBreak then none else linkAbove l.above
  imageSource : r.imageSource = l.content.source?

/-- The run of a leaf is what the leaf gives. -/
theorem Leaf.gives_run (o : DocxOptions) (f : Format) (l : Leaf) : l.Gives o f (l.run o f) where
  text := rfl
  kind := rfl
  bold := (flag_foldr_within (·.bold) (· == .strong) (bold_within o) f l.above).trans (by simp)
  italic :=
    (flag_foldr_within (·.italic) (· == .emphasis) (italic_within o) f l.above).trans (by simp)
  underline :=
    (flag_foldr_within (·.underline) (fun k => k == .underline || k == .link)
      (underline_within o) f l.above).trans (by simp)
  monospace := by
    have h := flag_foldr_within (·.monospace) (fun _ => false) (monospace_within o) f l.above
    simp_all [Leaf.run, Format.apply]
  color := color_foldr_within o f l.above
  fontSize := fontSize_foldr_within o f l.above
  hyperlink := by
    rw [Leaf.run, Run.isBreak]
    cases l.content.kind o <;> rfl
  imageSource := rfl

/-- The runs of inlines correspond to the leaves of the tree one by one, in document order. The
    format and the link of each run are those of the leaf and of the nodes above it. -/
theorem forall₂_gives_runs (o : DocxOptions) (f : Format) (ns : List Node) :
    List.Forall₂ (Leaf.Gives o f) (leavesList o [] ns) (runs o f ns) := by
  have h : runs o f ns = (leavesList o [] ns).map (Leaf.run o f) := inlines_eq_map_leaves o f [] ns
  rw [h, List.forall₂_map_right_iff, List.forall₂_same]
  exact fun l _ => l.gives_run o f

end Manuscript.Render
