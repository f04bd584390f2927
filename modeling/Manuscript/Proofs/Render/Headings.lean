import Manuscript.Proofs.Render.Emitted
import Manuscript.Proofs.Render.Grid
import Manuscript.Proofs.Render.Leaves

/-!
# Headings

Headings are reached through documents and the items of lists (`headings`), and each of them is laid
out as one paragraph, in their order (`sublist_blocks_headings`). Where its style is missing it is
laid out in bold and in a size (`heading_of_not_hasStyle`), and all of its runs are bold and have
that size, however deep they lie (`format_of_mem_runs_merge`). Paragraphs have no other styles: a
style that one of them has is there (`hasStyle_of_emitted`).
-/

namespace Manuscript.Render

open Layout

mutual

/-- The levels and the contents of the headings that are laid out as such, in document order. -/
def headings : Node → List (Value × List Node)
  | .heading level ns _ => [(level, ns)]
  | .document ns _ | .listItem ns _ => headingsList ns
  | .bulletList ns _ | .orderedList _ ns _ => headingsItems ns
  | _ => []

/-- The headings in a list of nodes. -/
def headingsList : List Node → List (Value × List Node)
  | [] => []
  | n :: ns => headings n ++ headingsList ns

/-- The headings in the items of a list. -/
def headingsItems : List Node → List (Value × List Node)
  | [] => []
  | n :: ns => headingsItem n ++ headingsItems ns

/-- The headings in an item. What stands there in its place may be a document or a quote. -/
def headingsItem : Node → List (Value × List Node)
  | .listItem ns _ | .document ns _ | .blockQuote ns _ => headingsList ns
  | _ => []

end

/-- The block of a heading. -/
def headingBlock (s : Setup) (h : Value × List Node) : Block :=
  .paragraph (heading s h.1 h.2)

variable (s : Setup)

mutual

/-- The headings of a node are among its blocks. -/
theorem sublist_block (depth : Nat) (n : Node) :
    ((headings n).map (headingBlock s)).Sublist (block s depth n).blocks := by
  cases n with
  | heading level ns => exact .refl _
  | document ns m => exact sublist_blocks depth ns
  | listItem ns => exact sublist_itemBlocks depth .unmarked ns
  | bulletList ns => exact sublist_items depth .bullet ns
  | orderedList start ns => exact sublist_items depth (.ordinal start) ns
  | _ => exact List.nil_sublist _

/-- The headings among nodes give blocks among theirs, in order. -/
theorem sublist_blocks (depth : Nat) (ns : List Node) :
    ((headingsList ns).map (headingBlock s)).Sublist (blocks s depth ns).blocks := by
  cases ns with
  | nil => exact .slnil
  | cons n ns =>
    rw [headingsList, List.map_append]
    exact (sublist_block depth n).append (sublist_blocks depth ns)

/-- The headings in the items of a list give blocks among theirs, in order. -/
theorem sublist_items (depth : Nat) (m : Marking) (ns : List Node) :
    ((headingsItems ns).map (headingBlock s)).Sublist (items s depth m ns).blocks := by
  cases ns with
  | nil => exact .slnil
  | cons n ns =>
    rw [headingsItems, List.map_append]
    exact (sublist_item depth m n).append (sublist_items depth m.next ns)

theorem sublist_item (depth : Nat) (m : Marking) (n : Node) :
    ((headingsItem n).map (headingBlock s)).Sublist (item s depth m n).blocks := by
  cases n with
  | listItem ns | document ns | blockQuote ns => exact sublist_itemBlocks depth m ns
  | _ => exact List.nil_sublist _

/-- The headings that an item holds give blocks among its own, in order. -/
theorem sublist_itemBlocks (depth : Nat) (m : Marking) (ns : List Node) :
    ((headingsList ns).map (headingBlock s)).Sublist (itemBlocks s depth m ns).blocks := by
  cases ns with
  | nil => exact List.nil_sublist _
  | cons n ns =>
    by_cases hn : n.kind = .paragraph
    · cases n with
      | paragraph text =>
        exact (sublist_blocks (depth + 1) ns).trans (List.sublist_append_right _ _)
      | _ => cases hn
    · rw [itemBlocks_cons_of_ne hn, headingsList, List.map_append]
      refine List.Sublist.trans ?_ (List.sublist_append_right _ _)
      exact (sublist_block (depth + 1) n).append (sublist_blocks (depth + 1) ns)

end

/-- Each heading is laid out as a paragraph, in their order. -/
theorem sublist_blocks_headings (ns : List Node) :
    ((headingsList ns).map (headingBlock s)).Sublist (render s ns).blocks :=
  sublist_blocks s 0 ns

/-! ## The style of a heading -/

/-- The level that a heading is to have: its own if that is a whole number from one to six, and one
    if it is anything else. -/
inductive HasLevel : Value → Int → Prop
  | own {n : Int} : 1 ≤ n → n ≤ 6 → HasLevel (.int n) n
  | other {level : Value} : (∀ n : Int, 1 ≤ n → n ≤ 6 → level ≠ .int n) → HasLevel level 1

/-- The level that a heading is laid out with is its own if that is from 1 to 6, and 1 otherwise. -/
theorem hasLevel_headingLevel (level : Value) : HasLevel level (headingLevel level) := by
  unfold headingLevel
  split
  · split
    · rename_i hn
      exact .own hn.1 hn.2
    · rename_i hn
      refine .other fun m hlow hhigh heq => ?_
      cases heq
      exact hn ⟨hlow, hhigh⟩
  · rename_i hne
    exact .other fun n _ _ => hne n

/-- But for the truth value, headings have the style that is named after their level. -/
theorem headingStyle_of_ne {level : Value} (h : level ≠ .bool true) :
    headingStyle level = "Heading" ++ toString (headingLevel level) := by
  unfold headingStyle
  split
  · exact absurd rfl h
  · rfl

theorem isEmpty_headingStyle (level : Value) : (headingStyle level).isEmpty = false := by
  unfold headingStyle
  split
  · decide
  · simp

/-- With its style, a heading leaves its runs as they are. -/
theorem heading_of_hasStyle {s : Setup} {level : Value}
    (h : s.hasStyle (headingStyle level) = true) (ns : List Node) :
    heading s level ns =
      { runs := runs s.options .plain ns, styleName := some (headingStyle level),
        spacingAfter := some 200 } := by
  rw [heading, if_pos h]

/-- Without its style, a heading is bold and of the size for its level. -/
theorem heading_of_not_hasStyle {s : Setup} {level : Value}
    (h : s.hasStyle (headingStyle level) = false) (ns : List Node) :
    heading s level ns =
      { runs := runs s.options (.merge .plain [.bold true,
          .fontSize (some (s.options.headingSize (headingLevel level)))]) ns,
        spacingAfter := some 200 } := by
  rw [heading, if_neg (by simp [h])]

/-! ## Headings without a style -/

/-- Runs keep the weight and the size that is set around them. -/
theorem format_of_mem_runs {o : DocxOptions} {f : Format} {ns : List Node} {r : Run}
    (h : r ∈ runs o f ns) :
    (f.bold = true → r.format.bold = true) ∧ r.format.fontSize = f.fontSize := by
  have hruns : runs o f ns = (leavesList o [] ns).map (Leaf.run o f) :=
    inlines_eq_map_leaves o f [] ns
  rw [hruns] at h
  obtain ⟨l, -, rfl⟩ := List.mem_map.1 h
  have hl := l.gives_run o f
  exact ⟨fun hf => hl.bold.2 (.inl hf), hl.fontSize⟩

/-- Runs in bold and of a size are so however deep they lie. -/
theorem format_of_mem_runs_merge {o : DocxOptions} {points : Number} {ns : List Node} {r : Run}
    (h : r ∈ runs o (.merge .plain [.bold true, .fontSize (some points)]) ns) :
    r.format.bold = true ∧ r.format.fontSize = some points := by
  obtain ⟨hbold, hsize⟩ := format_of_mem_runs h
  exact ⟨hbold rfl, hsize⟩

/-! ## Styles -/

/-- The paragraphs of a block. -/
def paragraphsOf : Block → List Paragraph
  | .paragraph p => [p]
  | .table t => t.rows.flatMap (·.cells)

variable {s}

/-- A paragraph that is laid out has no style that is missing. -/
theorem hasStyle_of_emitted {b : Block} (h : Emitted s b) {p : Paragraph} (hp : p ∈ paragraphsOf b)
    {name : String} (hname : p.styleName = some name) : s.hasStyle name = true := by
  cases h with
  | heading level ns =>
    cases List.mem_singleton.1 hp
    rw [heading] at hname
    split at hname
    · cases hname
      assumption
    · cases hname
  | paragraph | item | code | thematicBreak | quote =>
    cases List.mem_singleton.1 hp
    cases hname
  | table header rows =>
    rw [table_eq] at hp
    obtain ⟨row, hrow, hp⟩ := List.mem_flatMap.1 hp
    obtain ⟨source, -, rfl⟩ := List.mem_map.1 hrow
    obtain ⟨cell, -, rfl⟩ := List.mem_map.1 hp
    cases hname

end Manuscript.Render
