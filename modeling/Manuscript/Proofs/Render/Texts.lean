import Manuscript.Render.Inline

/-!
# The texts of runs

What the runs of inlines say does not hang on the format and the link that they are laid out under
(`map_text_inlines`). So whether a label shows any text, which decides whether the address of its
link is shown, can be told from the label alone (`any_hasText_inlines`).
-/

namespace Manuscript

namespace Layout.Run

/-- Whether a run shows any text. -/
def hasText (r : Run) : Bool :=
  !r.text.isEmpty

theorem shownAll_append (rs ts : List Run) : shownAll (rs ++ ts) = shownAll rs ++ shownAll ts := by
  rw [shownAll, List.map_append, String.join_append]
  rfl

/-- Whether runs have text hangs on their texts only. -/
theorem any_hasText_eq (rs : List Run) :
    rs.any hasText = (rs.map (·.text)).any (fun s => !s.isEmpty) := by
  rw [List.any_map]
  rfl

/-- The texts of runs one after another. Breaks have none. -/
def written (rs : List Run) : String :=
  String.join (rs.map (·.text))

@[simp] theorem written_nil : written [] = "" := rfl

@[simp] theorem written_cons (r : Run) (rs : List Run) : written (r :: rs) = r.text ++ written rs :=
  String.join_cons

/-- Runs are written one after the other. -/
@[simp] theorem written_append (rs ts : List Run) :
    written (rs ++ ts) = written rs ++ written ts := by
  rw [written, List.map_append, String.join_append]
  rfl

/-- Runs have a text together if one of them has. -/
theorem any_hasText_eq_false_iff (rs : List Run) : rs.any hasText = false ↔ written rs = "" := by
  induction rs with
  | nil => simp
  | cons r rs ih =>
    rw [List.any_cons, Bool.or_eq_false_iff, ih, written_cons, String.append_eq_empty_iff]
    simp [hasText]

end Layout.Run

namespace Render

open Layout

/-- The runs of a link, by whether its label shows any text. -/
theorem labelled_eq (url : String) (f : Format) (rs : List Run) :
    labelled url f rs =
      if rs.any Run.hasText || url.isEmpty then rs
      else rs ++ [{ text := url, format := f, hyperlink := some url }] :=
  rfl

/-- The texts of a link hang on those of its label only. -/
theorem map_text_labelled {url : String} {f g : Format} {rs ts : List Run}
    (h : rs.map (·.text) = ts.map (·.text)) :
    (labelled url f rs).map (·.text) = (labelled url g ts).map (·.text) := by
  rw [labelled_eq, labelled_eq, Run.any_hasText_eq, Run.any_hasText_eq, h]
  split
  · exact h
  · rw [List.map_append, List.map_append, h]
    rfl

mutual

/-- The texts of a node do not hang on its format or on the link around it. -/
theorem map_text_inline (o : DocxOptions) (f g : Format) (k l : Option String) (n : Node) :
    (inline o f k n).map (·.text) = (inline o g l n).map (·.text) := by
  cases n with
  | text s | code s => by_cases h : s = "" <;> simp [inline, textRuns, h]
  | image => simp [inline]
  | softBreak => cases h : o.softBreakAsSpace <;> simp [inline, h]
  | hardBreak => simp [inline]
  | htmlInline | htmlBlock | fencedCode | indentedCode | thematicBreak => simp [inline]
  | link url ns =>
    -- The labels have the same texts, so they show the address both or neither.
    rw [inline, inline]
    exact map_text_labelled (map_text_inlines o _ _ _ _ ns)
  | table header rows =>
    cases header with
    | none => exact map_text_inlines o _ _ _ _ rows
    | some header =>
      rw [inline, inline, List.map_append, List.map_append, map_text_inline o f g k l header,
        map_text_inlines o f g k l rows]
  | document ns | heading _ ns | paragraph ns | bulletList ns | orderedList _ ns | listItem ns
  | tableRow ns | tableCell ns | blockQuote ns | emphasis ns | strong ns | underline ns =>
    rw [inline, inline]
    exact map_text_inlines o _ _ _ _ ns

/-- What the runs of inlines say does not hang on format and link. -/
theorem map_text_inlines (o : DocxOptions) (f g : Format) (k l : Option String)
    (ns : List Node) : (inlines o f k ns).map (·.text) = (inlines o g l ns).map (·.text) := by
  cases ns with
  | nil => rfl
  | cons n ns =>
    rw [inlines, inlines, List.map_append, List.map_append, map_text_inline o f g k l n,
      map_text_inlines o f g k l ns]

end

/-- Whether inlines show any text does not hang on format and link. -/
theorem any_hasText_inlines (o : DocxOptions) (f : Format) (k : Option String) (ns : List Node) :
    (inlines o f k ns).any Run.hasText = (runs o .plain ns).any Run.hasText := by
  rw [Run.any_hasText_eq, Run.any_hasText_eq, runs, map_text_inlines o f .plain k none]

end Render

end Manuscript
