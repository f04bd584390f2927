import Manuscript.Node.OfToken
import Manuscript.Node.WellSorted
import Manuscript.Proofs.Node.TokenText

/-!
# The sorting of trees of tokens

Whatever tokens a tree is made of, it is well-sorted (`wellSorted_document_ofTokens`): the kind of a
token alone decides what becomes of it, and each list of tokens is read for one position of the
tree, so that a token that does not belong there leaves no node (`Stands`).
-/

namespace Manuscript.Node

open Markdown

/-- A well-sorted tree that belongs at a position. -/
structure Stands (p : Position) (n : Node) : Prop where
  position : n.kind.position? = some p
  wellSorted : n.WellSorted

/-- A tree is well-sorted if well-sorted trees of the position beneath its root are beneath it. -/
theorem wellSorted_iff_stands {p : Position} {n : Node} (hp : n.kind.beneath? = some p) :
    n.WellSorted ↔ ∀ m ∈ n.children, m.Stands p := by
  rw [wellSorted_iff]
  refine forall₂_congr fun m _ => ?_
  rw [Fits, hp]
  constructor
  · rintro ⟨⟨-, hposition⟩, hm⟩
    exact ⟨hposition, hm⟩
  · rintro ⟨hposition, hm⟩
    exact ⟨⟨by rw [hposition]; rfl, hposition⟩, hm⟩

/-- A tree belongs at the position of its root if those beneath it belong beneath it. -/
theorem stands_of_children {p q : Position} {n : Node} (hq : n.kind.position? = some q)
    (hp : n.kind.beneath? = some p) (h : ∀ m ∈ n.children, m.Stands p) : n.Stands q :=
  ⟨hq, (wellSorted_iff_stands hp).2 h⟩

/-- A leaf belongs at the position of its kind. -/
theorem stands_of_children_eq_nil {q : Position} {n : Node} (hq : n.kind.position? = some q)
    (h : n.children = []) : n.Stands q :=
  ⟨hq, .of_children_eq_nil h⟩

/-! ## Inlines -/

mutual

/-- The node of an inline token stands where inline nodes do. -/
theorem stands_of_mem_ofInlineToken (t : Token) : ∀ n ∈ ofInlineToken? t, n.Stands .inline := by
  obtain ⟨kind, raw, attributes, children⟩ := t
  cases kind with
  | text | codeSpan | image | softBreak | lineBreak | inlineHtml =>
    rintro n ⟨⟩
    exact stands_of_children_eq_nil rfl rfl
  | strong | emphasis | insert | link =>
    rintro n ⟨⟩
    exact stands_of_children rfl rfl (stands_of_mem_ofInlineTokens children)
  -- A token of a block among inlines leaves nothing, whatever is beneath it.
  | heading | paragraph | blockText | blockCode | blockQuote | list | listItem | table | tableHead
  | tableBody | tableRow | tableCell | thematicBreak | blockHtml | blankLine | other => nofun

theorem stands_of_mem_ofInlineTokens (ts : List Token) :
    ∀ n ∈ ofInlineTokens ts, n.Stands .inline := by
  cases ts with
  | nil => exact List.forall_mem_nil _
  | cons t ts =>
    rw [ofInlineTokens_cons]
    exact List.forall_mem_append.2
      ⟨fun n hn => stands_of_mem_ofInlineToken t n (Option.mem_toList.1 hn),
        stands_of_mem_ofInlineTokens ts⟩

end

/-! ## Tables -/

/-- The nodes of the cells of a row stand where cells do. -/
theorem stands_of_mem_ofCellTokens (ts : List Token) : ∀ n ∈ ofCellTokens ts, n.Stands .cell := by
  intro n hn
  obtain ⟨t, -, ht⟩ := List.mem_filterMap.1 hn
  split at ht
  · cases ht
    exact stands_of_children rfl rfl (stands_of_mem_ofInlineTokens t.children)
  · cases ht

/-- A table of tokens stands where blocks do. -/
theorem stands_ofTableTokens (ts : List Token) : (ofTableTokens ts).Stands .block := by
  have hrow (t : Token) : (Node.tableRow (ofCellTokens t.children)).Stands .row :=
    stands_of_children rfl rfl (stands_of_mem_ofCellTokens t.children)
  refine stands_of_children rfl rfl (List.forall_mem_append.2 ⟨?_, ?_⟩)
  · intro n hn
    obtain ⟨t, -, rfl⟩ := Option.map_eq_some_iff.1 (Option.mem_toList.1 hn)
    exact hrow t
  · intro n hn
    obtain ⟨body, -, hn⟩ := List.mem_flatMap.1 hn
    obtain ⟨t, -, rfl⟩ := List.mem_map.1 hn
    exact hrow t

/-! ## Blocks -/

variable (o : MarkdownOptions)

theorem stands_ofCodeToken (raw : String) (a : Token.Attributes) :
    (ofCodeToken o raw a).Stands .block := by
  rw [ofCodeToken]
  split <;> exact stands_of_children_eq_nil rfl rfl

theorem ofTokens_cons (t : Token) (ts : List Token) :
    ofTokens o (t :: ts) = (ofToken? o t).toList ++ ofTokens o ts := by
  rw [ofTokens]
  cases ofToken? o t <;> rfl

mutual

/-- The node of a block of tokens stands where blocks do. -/
theorem stands_of_mem_ofToken (t : Token) : ∀ n ∈ ofToken? o t, n.Stands .block := by
  obtain ⟨kind, raw, attributes, children⟩ := t
  cases kind with
  | heading | paragraph | blockText =>
    rintro n ⟨⟩
    exact stands_of_children rfl rfl (stands_of_mem_ofInlineTokens children)
  | blockCode =>
    rintro n ⟨⟩
    exact stands_ofCodeToken o raw attributes
  | blockQuote =>
    rintro n ⟨⟩
    exact stands_of_children rfl rfl (stands_of_mem_ofTokens children)
  | list =>
    -- Ordered or not, a list has its tokens read for items.
    intro n hn
    rw [ofToken?] at hn
    split at hn <;> cases hn <;>
      exact stands_of_children rfl rfl (stands_of_mem_ofItemTokens children)
  | table =>
    rintro n ⟨⟩
    exact stands_ofTableTokens children
  | thematicBreak | blockHtml =>
    rintro n ⟨⟩
    exact stands_of_children_eq_nil rfl rfl
  -- Items and the parts of a table are read where their list or table is, and only there.
  | listItem | tableHead | tableBody | tableRow | tableCell | blankLine | text | strong | emphasis
  | insert | codeSpan | link | image | softBreak | lineBreak | inlineHtml | other => nofun

/-- The nodes of blocks of tokens stand where blocks do. -/
theorem stands_of_mem_ofTokens (ts : List Token) : ∀ n ∈ ofTokens o ts, n.Stands .block := by
  cases ts with
  | nil => exact List.forall_mem_nil _
  | cons t ts =>
    rw [ofTokens_cons]
    exact List.forall_mem_append.2
      ⟨fun n hn => stands_of_mem_ofToken t n (Option.mem_toList.1 hn), stands_of_mem_ofTokens ts⟩

/-- The nodes of the items of a list stand where items do. -/
theorem stands_of_mem_ofItemTokens (ts : List Token) :
    ∀ n ∈ ofItemTokens o ts, n.Stands .item := by
  cases ts with
  | nil => exact List.forall_mem_nil _
  | cons t ts =>
    obtain ⟨kind, raw, attributes, children⟩ := t
    rw [ofItemTokens]
    split
    · exact List.forall_mem_cons.2
        ⟨stands_of_children rfl rfl (stands_of_mem_ofTokens children),
          stands_of_mem_ofItemTokens ts⟩
    · exact stands_of_mem_ofItemTokens ts

end

/-- The document of any tokens is well-sorted. -/
theorem wellSorted_document_ofTokens (ts : List Token) (m : Metadata) :
    (Node.document (ofTokens o ts) m).WellSorted :=
  (wellSorted_iff_stands rfl).2 (stands_of_mem_ofTokens o ts)

end Manuscript.Node
