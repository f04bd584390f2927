import Manuscript.Node.Text
import Manuscript.Proofs.Node.Listing
import Manuscript.Proofs.Node.TokenText

/-!
# The text of trees, node by node

Each node has a literal text of its own, which may be none (`ownText`). The text of trees is that of
their nodes one after another, in document order, less the text of code blocks: a code block has
nothing beneath it, and what it says itself is passed over (`takenText`). So the text is all there
if and only if the code blocks are empty, however deep they lie (`plainTextList_listing`).
-/

namespace Manuscript.Node

/-- The literal text of a node itself: what it says if it is text or code, the description of a
    picture, and a line end for a break of the line. Raw HTML has none. -/
def ownText : Node → String
  | .text s _ | .code s _ | .fencedCode s _ _ | .indentedCode s _ | .image _ s _ _ => s
  | .softBreak _ | .hardBreak _ => "\n"
  | .htmlInline .. | .htmlBlock .. | .thematicBreak .. | .document .. | .heading .. | .paragraph ..
  | .bulletList .. | .orderedList .. | .listItem .. | .table .. | .tableRow .. | .tableCell ..
  | .blockQuote .. | .emphasis .. | .strong .. | .underline .. | .link .. => ""

/-- A node that is a code block, fenced or indented. -/
def IsCodeBlock (n : Node) : Prop :=
  n.kind = .fencedCode ∨ n.kind = .indentedCode

instance (n : Node) : Decidable n.IsCodeBlock :=
  inferInstanceAs (Decidable (_ ∨ _))

/-- What is taken over of the text of a node itself. -/
def takenText (n : Node) : String :=
  if n.IsCodeBlock then "" else n.ownText

/-- The text beneath a node is what is taken over of the node, and the text of its children. -/
theorem plainText_eq (n : Node) : n.plainText = n.takenText ++ plainTextList n.children := by
  cases n with
  | table header rows =>
    cases header <;>
      simp [plainText, plainTextList, takenText, IsCodeBlock, kind, ownText, children]
  | _ => simp [plainText, plainTextList, takenText, IsCodeBlock, kind, ownText, children]

theorem plainTextList_cons (n : Node) (ns : List Node) :
    plainTextList (n :: ns) = n.takenText ++ plainTextList n.children ++ plainTextList ns := by
  rw [plainTextList, plainText_eq]

theorem join_listing_cons (f : Node → String) (n : Node) (ns : List Node) :
    String.join ((listing (n :: ns)).map f) =
      f n ++ String.join ((listing n.children).map f) ++ String.join ((listing ns).map f) := by
  rw [listing_cons, List.map_cons, List.map_append, String.join_cons, String.join_append,
    String.append_assoc]

mutual

theorem plainTextList_children (n : Node) :
    plainTextList n.children = String.join ((listing n.children).map takenText) := by
  cases n with
  | table header rows =>
    cases header with
    | none => exact plainTextList_eq_join rows
    | some header =>
      -- The header is the first child, and its children come before the rows.
      change plainTextList (header :: rows) = _
      rw [plainTextList_cons, plainTextList_children header, plainTextList_eq_join rows]
      exact (join_listing_cons takenText header rows).symm
  | document ns | heading _ ns | paragraph ns | bulletList ns | orderedList _ ns | listItem ns
  | tableRow ns | tableCell ns | blockQuote ns | emphasis ns | strong ns | underline ns
  | link _ ns => exact plainTextList_eq_join ns
  | fencedCode | indentedCode | thematicBreak | htmlBlock | text | code | image | softBreak
  | hardBreak | htmlInline => rfl

/-- The text of trees is what is taken over of their nodes, in document order. -/
theorem plainTextList_eq_join (ns : List Node) :
    plainTextList ns = String.join ((listing ns).map takenText) := by
  cases ns with
  | nil => rfl
  | cons n ns =>
    rw [plainTextList_cons, join_listing_cons, plainTextList_children n, plainTextList_eq_join ns]

end

theorem keeps_takenText (n : Node) :
    Keeps n.takenText n.ownText (n.IsCodeBlock → n.ownText = "") := by
  rw [takenText]
  split
  case isTrue h =>
    refine ⟨List.nil_sublist _, ?_⟩
    rw [eq_comm, forall_prop_of_true h]
  case isFalse h =>
    exact (keeps_rfl n.ownText).of_iff (iff_of_true trivial fun hn => absurd hn h)

/-- Where each text is kept in part, so are the texts one after another. -/
theorem keeps_join {part all : Node → String} {whole : Node → Prop}
    (h : ∀ n, Keeps (part n) (all n) (whole n)) (ns : List Node) :
    Keeps (String.join (ns.map part)) (String.join (ns.map all)) (∀ n ∈ ns, whole n) := by
  induction ns with
  | nil => exact (keeps_rfl "").of_iff (iff_of_true trivial nofun)
  | cons n ns ih =>
    rw [List.map_cons, List.map_cons, String.join_cons, String.join_cons]
    exact ((h n).append ih).of_iff List.forall_mem_cons.symm

/-- The text of trees is made up of the texts of their nodes, in document order. Nothing is added to
    them and none changes its place; those of code blocks are left out, and nothing else is. So the
    text is complete if and only if no code block says anything. -/
theorem plainTextList_listing (ns : List Node) :
    plainTextList ns = String.join ((listing ns).map takenText) ∧
    (plainTextList ns).toList.Sublist (String.join ((listing ns).map ownText)).toList ∧
    (plainTextList ns = String.join ((listing ns).map ownText) ↔
      ∀ n ∈ listing ns, n.IsCodeBlock → n.ownText = "") := by
  have htaken := plainTextList_eq_join ns
  have hkeeps := keeps_join keeps_takenText (listing ns)
  rw [← htaken] at hkeeps
  exact ⟨htaken, hkeeps.sublist, hkeeps.eq_iff⟩

/-- The code of an item is passed over, and the code in its paragraph is not. -/
example :
    let ns : List Node := [.bulletList [.listItem [.paragraph [.code "a"], .fencedCode "b" none]]]
    plainTextList ns = "a" ∧ String.join ((listing ns).map ownText) = "ab" := by
  decide

end Manuscript.Node
