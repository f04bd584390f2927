import Manuscript.Node.Text
import Manuscript.Proofs.Node.Listing
import Manuscript.Proofs.Render.Texts

/-!
# Runs and plain text

The runs of inlines say what the plain text of the tree says, once the tree itself says what is
shown in place of a missing text (`resolve`): where a picture without a description lies, the
address of a link whose label shows no text, and the blank that a soft break may be shown as.
Resolving a tree changes nothing in its runs (`inlines_resolveList`).
-/

namespace Manuscript.Render

open Layout Node

mutual

/-- The tree in which all that is shown stands as text. Whether the address is added to the label of
    a link is decided on the label that is already resolved. -/
def resolve (o : DocxOptions) : Node → Node
  | .image url alt title m =>
    .image url (if alt = "" then "[Image: " ++ url ++ "]" else alt) title m
  | .softBreak m => if o.softBreakAsSpace then .text " " m else .softBreak m
  | .link url ns title m =>
    let label := resolveList o ns
    if (runs o .plain label).any Run.hasText || url.isEmpty then .link url label title m
    else .link url (label ++ [.text url]) title m
  | .table none rows m => .table none (resolveList o rows) m
  | .table (some header) rows m => .table (some (resolve o header)) (resolveList o rows) m
  | .document ns m => .document (resolveList o ns) m
  | .heading level ns m => .heading level (resolveList o ns) m
  | .paragraph ns m => .paragraph (resolveList o ns) m
  | .bulletList ns m => .bulletList (resolveList o ns) m
  | .orderedList start ns m => .orderedList start (resolveList o ns) m
  | .listItem ns m => .listItem (resolveList o ns) m
  | .tableRow ns m => .tableRow (resolveList o ns) m
  | .tableCell ns m => .tableCell (resolveList o ns) m
  | .blockQuote ns m => .blockQuote (resolveList o ns) m
  | .emphasis ns m => .emphasis (resolveList o ns) m
  | .strong ns m => .strong (resolveList o ns) m
  | .underline ns m => .underline (resolveList o ns) m
  | .text s m => .text s m
  | .code s m => .code s m
  | .fencedCode s language m => .fencedCode s language m
  | .indentedCode s m => .indentedCode s m
  | .thematicBreak m => .thematicBreak m
  | .htmlBlock s m => .htmlBlock s m
  | .htmlInline s m => .htmlInline s m
  | .hardBreak m => .hardBreak m

/-- A list of trees in which all that is shown stands as text. -/
def resolveList (o : DocxOptions) : List Node → List Node
  | [] => []
  | n :: ns => resolve o n :: resolveList o ns

end

mutual

/-- A node gives the same runs when its labels are resolved. -/
theorem inline_resolve (o : DocxOptions) (f : Format) (k : Option String) (n : Node) :
    inline o f k (resolve o n) = inline o f k n := by
  cases n with
  | image url alt =>
    by_cases h : alt = "" <;> simp [resolve, inline, imageText, h]
  | softBreak => cases h : o.softBreakAsSpace <;> simp [resolve, inline, textRuns, h]
  | link url ns title m =>
    have ih := inlines_resolveList o (linkFormat o f) (some url) ns
    have hruns : runs o .plain (resolveList o ns) = runs o .plain ns :=
      inlines_resolveList o .plain none ns
    rw [resolve]
    split
    · rw [inline, inline, ih]
    · -- The address stands in the resolved label already, so it is not shown a second time.
      rename_i h
      simp only [hruns, Bool.or_eq_true, not_or, Bool.not_eq_true] at h
      rw [inline, inline, inlines_append, ih, labelled_eq, labelled_eq, any_hasText_inlines]
      simp [inlines, inline, textRuns, Run.hasText, h]
  | table header rows =>
    cases header with
    | none => rw [resolve, inline, inline, inlines_resolveList o f k rows]
    | some header =>
      rw [resolve, inline, inline, inline_resolve o f k header, inlines_resolveList o f k rows]
  | text | code | fencedCode | indentedCode | thematicBreak | htmlBlock | htmlInline | hardBreak =>
    rw [resolve]
  | document ns | heading _ ns | paragraph ns | bulletList ns | orderedList _ ns | listItem ns
  | tableRow ns | tableCell ns | blockQuote ns | emphasis ns | strong ns | underline ns =>
    rw [resolve, inline, inline, inlines_resolveList o _ k ns]

/-- Nodes give the same runs when their labels are resolved. -/
theorem inlines_resolveList (o : DocxOptions) (f : Format) (k : Option String) (ns : List Node) :
    inlines o f k (resolveList o ns) = inlines o f k ns := by
  cases ns with
  | nil => rfl
  | cons n ns =>
    rw [resolveList, inlines, inlines, inline_resolve o f k n, inlines_resolveList o f k ns]

end

mutual

/-- What the runs of a node show is its plain text, when its labels are resolved. -/
theorem shownAll_inline (o : DocxOptions) (f : Format) (k : Option String) (n : Node) :
    Run.shownAll (inline o f k n) = plainText (resolve o n) := by
  cases n with
  | text s | code s =>
    by_cases h : s = "" <;>
      simp [inline, textRuns, resolve, plainText, Run.shownAll, Run.shown, Run.isBreak, h]
  | image url alt =>
    simp [inline, imageText, resolve, plainText, Run.shownAll, Run.shown, Run.isBreak]
  | softBreak =>
    cases h : o.softBreakAsSpace <;>
      simp [inline, resolve, plainText, Run.shownAll, Run.shown, Run.isBreak, h]
  | hardBreak => simp [inline, resolve, plainText, Run.shownAll, Run.shown, Run.isBreak]
  | fencedCode | indentedCode | thematicBreak | htmlBlock | htmlInline =>
    simp [inline, resolve, plainText, Run.shownAll]
  | link url ns title m =>
    have ih := shownAll_inlines o (linkFormat o f) (some url) ns
    -- Whether a link shows text does not depend on the links within it being resolved.
    have hruns : runs o .plain (resolveList o ns) = runs o .plain ns :=
      inlines_resolveList o .plain none ns
    rw [inline, resolve, labelled_eq, any_hasText_inlines, hruns]
    split
    · rw [ih, plainText]
    · rw [Run.shownAll_append, ih, plainText, plainTextList_append]
      simp [plainTextList, plainText, Run.shownAll, Run.shown, Run.isBreak]
  | table header rows =>
    cases header with
    | none => rw [inline, resolve, plainText, shownAll_inlines o f k rows]
    | some header =>
      rw [inline, resolve, plainText, Run.shownAll_append, shownAll_inline o f k header,
        shownAll_inlines o f k rows]
  | document ns | heading _ ns | paragraph ns | bulletList ns | orderedList _ ns | listItem ns
  | tableRow ns | tableCell ns | blockQuote ns | emphasis ns | strong ns | underline ns =>
    rw [inline, resolve, plainText, shownAll_inlines o _ k ns]

theorem shownAll_inlines (o : DocxOptions) (f : Format) (k : Option String) (ns : List Node) :
    Run.shownAll (inlines o f k ns) = plainTextList (resolveList o ns) := by
  cases ns with
  | nil => rfl
  | cons n ns =>
    rw [inlines, resolveList, plainTextList, Run.shownAll_append, shownAll_inline o f k n,
      shownAll_inlines o f k ns]

end

/-- A node shows nothing that it does not say: it is no picture without a description, and no link
    that shows its address for want of a label. -/
def Explicit (o : DocxOptions) : Node → Prop
  | .image _ alt _ _ => alt ≠ ""
  | .link url label _ _ => url = "" ∨ ∃ r ∈ runs o .plain label, r.text ≠ ""
  | _ => True

mutual

/-- An explicit tree is resolved already. -/
theorem resolve_eq_self {o : DocxOptions} (hs : o.softBreakAsSpace = false) (n : Node)
    (hn : Explicit o n) (h : ∀ m ∈ listing n.children, Explicit o m) : resolve o n = n := by
  cases n with
  | image => simp [resolve, show _ ≠ "" from hn]
  | softBreak => simp [resolve, hs]
  | link url ns title m =>
    have hlabel : (runs o .plain ns).any Run.hasText || url.isEmpty := by
      rcases hn with hurl | ⟨r, hr, ht⟩
      · simp [hurl]
      · rw [List.any_eq_true.2 ⟨r, hr, by simpa [Run.hasText] using ht⟩, Bool.true_or]
    rw [resolve, resolveList_eq_self hs ns h, if_pos hlabel]
  | table header rows =>
    cases header with
    | none => rw [resolve, resolveList_eq_self hs rows h]
    | some header =>
      obtain ⟨hh, hc, hr⟩ := forall_mem_listing_cons.1 h
      rw [resolve, resolve_eq_self hs header hh hc, resolveList_eq_self hs rows hr]
  | text | code | fencedCode | indentedCode | thematicBreak | htmlBlock | htmlInline | hardBreak =>
    rw [resolve]
  | document ns | heading _ ns | paragraph ns | bulletList ns | orderedList _ ns | listItem ns
  | tableRow ns | tableCell ns | blockQuote ns | emphasis ns | strong ns | underline ns =>
    rw [resolve, resolveList_eq_self hs ns h]

/-- Nothing is to be resolved where all labels are explicit. -/
theorem resolveList_eq_self {o : DocxOptions} (hs : o.softBreakAsSpace = false) (ns : List Node)
    (h : ∀ m ∈ listing ns, Explicit o m) : resolveList o ns = ns := by
  cases ns with
  | nil => rfl
  | cons n ns =>
    obtain ⟨hn, hc, hr⟩ := forall_mem_listing_cons.1 h
    rw [resolveList, resolve_eq_self hs n hn hc, resolveList_eq_self hs ns hr]

end

/-- The text of the runs of any trees, a line end for each break, is the plain text of the resolved
    trees. It is that of the trees themselves if all their nodes are explicit and soft breaks are
    breaks. -/
theorem shownAll_runs (o : DocxOptions) (f : Format) (ns : List Node) :
    Run.shownAll (runs o f ns) = plainTextList (resolveList o ns) ∧
      (o.softBreakAsSpace = false → (∀ n ∈ listing ns, Explicit o n) →
        Run.shownAll (runs o f ns) = plainTextList ns) := by
  have h : Run.shownAll (runs o f ns) = plainTextList (resolveList o ns) :=
    shownAll_inlines o f none ns
  refine ⟨h, fun hs hn => ?_⟩
  rw [h, resolveList_eq_self hs ns hn]

theorem shownAll_runs_described_picture :
    ({} : DocxOptions).softBreakAsSpace = false ∧
      (∀ n ∈ listing [.strong [.image "u" "a" none], .softBreak, .link "v" [.code "c"] none],
        Explicit {} n) ∧
      Run.shownAll (runs {} .plain
        [.strong [.image "u" "a" none], .softBreak, .link "v" [.code "c"] none]) =
        plainTextList [.strong [.image "u" "a" none], .softBreak, .link "v" [.code "c"] none] := by
  have hs : ({} : DocxOptions).softBreakAsSpace = false := rfl
  have hn : ∀ n ∈ listing [.strong [.image "u" "a" none], .softBreak, .link "v" [.code "c"] none],
      Explicit {} n := by
    simp [listing_cons, children, Explicit, runs, inlines, inline, textRuns]
  exact ⟨hs, hn, (shownAll_runs {} .plain _).2 hs hn⟩

end Manuscript.Render
