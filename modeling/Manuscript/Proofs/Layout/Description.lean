import Manuscript.Layout.Description
import Manuscript.Proofs.Node.Properties
import Mathlib.Data.List.Forall2
import Mathlib.Tactic.MkIffOfInductiveProp

/-!
# What a description says

The description of a laid out document says all of it. It can be read back (`Document.ofValue?`),
and what is read is the document, in every field of its paragraphs, runs, formats, tables, rows and
cells (`Document.ofValue?_describe`). So two documents with one description are one document.

Descriptions are also compared as values are, by which numbers are equal whatever their kinds and
the order of properties does not matter. They are equal in this sense if and only if the documents
are, part by part (`Document.Equal`, `describes_faithfully`).

* `same_fields_iff`: descriptions with the same fields are equal field by field;
* `Style.same_describe`, `Style.describe_injective`: the same of styles, whatever their values.
-/

namespace Manuscript

/-! ## Reading fields -/

namespace Value

/-- The value of a field of a mapping. -/
def field? (name : String) : Value → Option Value
  | map entries => lookup entries name
  | _ => none

/-- What is read of a field of a mapping. -/
def read? (v : Value) (name : String) (read : Value → Option α) : Option α :=
  (v.field? name).bind read

/-- The truth value that a value is. -/
def toBool? : Value → Option Bool
  | bool b => some b
  | _ => none

/-- The text that a value is. -/
def toText? : Value → Option String
  | text s => some s
  | _ => none

/-- The number that a value is. -/
def toNumber? : Value → Option Number
  | number n => some n
  | _ => none

/-- The whole number that a value is. -/
def toInt? : Value → Option Int
  | number (.whole n) => some n
  | _ => none

/-- What is read of a value, or nothing if there is none. -/
def toOptional? (read : Value → Option α) : Value → Option (Option α)
  | null => some none
  | v => (read v).map some

/-- What is read of each member of a sequence. -/
def toList? (read : Value → Option α) : Value → Option (List α)
  | list vs => vs.mapM read
  | _ => none

end Value

/-- Reads properties back. -/
def Metadata.ofValue? : Value → Option Metadata
  | .map entries => entries.mapM fun e => e.1.toText?.map fun name => (name, e.2)
  | _ => none

namespace Layout

open Value (toBool? toText? toNumber? toInt? toOptional? toList?)

/-- Reads a format back. -/
def Format.ofValue? (v : Value) : Option Format := do
  return {
    bold := ← v.read? "bold" toBool?
    italic := ← v.read? "italic" toBool?
    underline := ← v.read? "underline" toBool?
    monospace := ← v.read? "monospace" toBool?
    color := ← v.read? "color" (toOptional? toText?)
    fontSize := ← v.read? "font_size" (toOptional? toNumber?) }

/-- Reads what a run is from the word for it. -/
def Run.Kind.ofValue? (v : Value) : Option Run.Kind := do
  let name ← v.toText?
  [.text, .softBreak, .hardBreak].find? fun k => k.name == name

/-- Reads a run back. -/
def Run.ofValue? (v : Value) : Option Run := do
  return {
    text := ← v.read? "text" toText?
    format := ← v.read? "style" Format.ofValue?
    kind := ← v.read? "kind" Run.Kind.ofValue?
    hyperlink := ← v.read? "hyperlink" (toOptional? toText?)
    imageSource := ← v.read? "image_src" (toOptional? toText?) }

/-- Reads a kind of list from the word for it. -/
def ListKind.ofValue? (v : Value) : Option ListKind := do
  let name ← v.toText?
  [.bullet, .ordered].find? fun k => k.name == name

/-- Reads a paragraph back. -/
def Paragraph.ofValue? (v : Value) : Option Paragraph := do
  return {
    runs := ← v.read? "runs" (toList? Run.ofValue?)
    styleName := ← v.read? "style_name" (toOptional? toText?)
    spacingAfter := ← v.read? "spacing_after" (toOptional? toInt?)
    leftIndent := ← v.read? "left_indent" (toOptional? toInt?)
    rightIndent := ← v.read? "right_indent" (toOptional? toInt?)
    bottomBorder := ← v.read? "bottom_border" toBool?
    shading := ← v.read? "shading" (toOptional? toText?)
    listKind := ← v.read? "list_kind" (toOptional? ListKind.ofValue?)
    listOrdinal := ← v.read? "list_ordinal" (toOptional? toInt?)
    listLevel := ← v.read? "list_level" toInt? }

/-- Reads a row back. -/
def Row.ofValue? (v : Value) : Option Row :=
  (toList? Paragraph.ofValue? v).map Row.mk

/-- Reads a table back. -/
def Table.ofValue? (v : Value) : Option Table := do
  return {
    rows := ← v.read? "rows" (toList? Row.ofValue?)
    width := ← v.read? "width" toNumber?
    headerRows := ← v.read? "header_rows" toInt? }

/-- Reads a block back, by the word for what it is. -/
def Block.ofValue? (v : Value) : Option Block := do
  let type ← v.read? "type" toText?
  if type = "paragraph" then return .paragraph (← Paragraph.ofValue? v)
  else if type = "table" then return .table (← Table.ofValue? v)
  else none

/-- Reads a document back. -/
def Document.ofValue? (v : Value) : Option Document := do
  return {
    blocks := ← v.read? "blocks" (toList? Block.ofValue?)
    metadata := ← v.read? "metadata" Metadata.ofValue? }

/-! ### Reading descriptions back -/

/-- What is read back member by member is read back as a list. -/
theorem mapM_map_eq_some {f : α → β} {read : β → Option α} {as : List α}
    (h : ∀ a ∈ as, read (f a) = some a) : (as.map f).mapM read = some as := by
  induction as with
  | nil => rfl
  | cons a as ih =>
    obtain ⟨ha, h⟩ := List.forall_mem_cons.1 h
    rw [List.map_cons, List.mapM_cons, ha, ih h]
    rfl

/-- What can be read back is not described as anything else is. -/
theorem injective_of_read {f : α → β} {read : β → Option α} (h : ∀ a, read (f a) = some a) :
    Function.Injective f := by
  intro a b hab
  have ha := h a
  rw [hab, h b] at ha
  exact (Option.some.inj ha).symm

/-- A field is read from what its name stands for. -/
theorem read?_fields (m : Metadata) (name : String) (read : Value → Option α) :
    (fields m).read? name read = (m.find? name).bind read := by
  have hlookup : (fields m).field? name = m.find? name := by
    rw [fields, Value.field?, Value.lookup, List.find?_map, Option.map_map]
    rfl
  rw [Value.read?, hlookup]

/-- The fields of a record are read back. -/
theorem ofValue?_fields (m : Metadata) : Metadata.ofValue? (fields m) = some m :=
  mapM_map_eq_some fun _ _ => rfl

/-- What may be absent is read back if the rest is, and nothing is not read as one of the rest. -/
theorem toOptional?_optional {f : α → Value} {read : Value → Option α}
    (hread : ∀ a, read (f a) = some a) (hnull : read .null = none) (a : Option α) :
    toOptional? read (optional f a) = some a := by
  cases a with
  | none => rfl
  | some a =>
    have ha := hread a
    rw [optional]
    cases hv : f a with
    | null =>
      rw [hv, hnull] at ha
      cases ha
    | _ =>
      rw [hv] at ha
      rw [toOptional?, ha, Option.map_some]
      exact Value.noConfusion

theorem toOptional?_text (s : Option String) : toOptional? toText? (optional .text s) = some s :=
  toOptional?_optional (f := .text) (fun _ => rfl) rfl s

theorem toOptional?_number (n : Option Number) :
    toOptional? toNumber? (optional .number n) = some n :=
  toOptional?_optional (f := .number) (fun _ => rfl) rfl n

theorem toOptional?_int (n : Option Int) : toOptional? toInt? (optional Value.int n) = some n :=
  toOptional?_optional (f := Value.int) (fun _ => rfl) rfl n

theorem ofValue?_kind (k : Run.Kind) : Run.Kind.ofValue? (.text k.name) = some k := by
  cases k <;> rfl

theorem ofValue?_listKind (k : ListKind) : ListKind.ofValue? (.text k.name) = some k := by
  cases k <;> rfl

/-- A format is read back from its description. -/
theorem Format.ofValue?_describe (f : Format) : Format.ofValue? f.describe = some f := by
  simp [Format.ofValue?, Format.describe, read?_fields, Metadata.find?, toBool?, toOptional?_text,
    toOptional?_number]

/-- A run is read back from its description. -/
theorem Run.ofValue?_describe (r : Run) : Run.ofValue? r.describe = some r := by
  simp [Run.ofValue?, Run.describe, read?_fields, Metadata.find?, toText?, toOptional?_text,
    Format.ofValue?_describe, ofValue?_kind]

/-- A list is read back from the descriptions of its members. -/
theorem toList?_map {f : α → Value} {read : Value → Option α} (h : ∀ a, read (f a) = some a)
    (as : List α) : toList? read (.list (as.map f)) = some as :=
  mapM_map_eq_some fun a _ => h a

/-- A paragraph is read back from its description. -/
theorem Paragraph.ofValue?_describe (p : Paragraph) : Paragraph.ofValue? p.describe = some p := by
  have hkind := toOptional?_optional (f := fun k : ListKind => .text k.name) ofValue?_listKind rfl
  simp [Paragraph.ofValue?, Paragraph.describe, read?_fields, Metadata.find?, toBool?, toInt?,
    toList?_map Run.ofValue?_describe, toOptional?_text, toOptional?_int, hkind]

/-- A table is read back from its description. -/
theorem Table.ofValue?_describe (t : Table) : Table.ofValue? t.describe = some t := by
  have hrow (r : Row) : Row.ofValue? (.list (r.cells.map Paragraph.describe)) = some r := by
    rw [Row.ofValue?, toList?_map Paragraph.ofValue?_describe]
    rfl
  simp [Table.ofValue?, Table.describe, read?_fields, Metadata.find?, toNumber?, toInt?,
    toList?_map hrow]

/-- A block is read back from its description, whichever of the two it is. -/
theorem Block.ofValue?_describe (b : Block) : Block.ofValue? b.describe = some b := by
  cases b with
  | paragraph p =>
    have htype : p.describe.read? "type" toText? = some "paragraph" := by
      simp [Paragraph.describe, read?_fields, Metadata.find?, toText?]
    simp [Block.ofValue?, Block.describe, htype, Paragraph.ofValue?_describe]
  | table t =>
    have htype : t.describe.read? "type" toText? = some "table" := by
      simp [Table.describe, read?_fields, Metadata.find?, toText?]
    simp [Block.ofValue?, Block.describe, htype, Table.ofValue?_describe]

/-- A document is read back from its description. -/
theorem Document.ofValue?_describe (d : Document) : Document.ofValue? d.describe = some d := by
  simp [Document.ofValue?, Document.describe, read?_fields, Metadata.find?,
    toList?_map Block.ofValue?_describe, ofValue?_fields]

/-! ## Equal parts -/

/-- Formats are equal in every field. Sizes are compared by value. -/
@[mk_iff]
structure Format.Equal (f g : Format) : Prop where
  bold : f.bold = g.bold
  italic : f.italic = g.italic
  underline : f.underline = g.underline
  monospace : f.monospace = g.monospace
  color : f.color = g.color
  fontSize : Option.Rel (Value.sameNumber · ·) f.fontSize g.fontSize

/-- Runs are equal in every field. -/
@[mk_iff]
structure Run.Equal (r s : Run) : Prop where
  text : r.text = s.text
  format : r.format.Equal s.format
  kind : r.kind = s.kind
  hyperlink : r.hyperlink = s.hyperlink
  imageSource : r.imageSource = s.imageSource

/-- Paragraphs are equal in every field, and run by run. -/
@[mk_iff]
structure Paragraph.Equal (p q : Paragraph) : Prop where
  runs : List.Forall₂ Run.Equal p.runs q.runs
  styleName : p.styleName = q.styleName
  spacingAfter : p.spacingAfter = q.spacingAfter
  leftIndent : p.leftIndent = q.leftIndent
  rightIndent : p.rightIndent = q.rightIndent
  bottomBorder : p.bottomBorder = q.bottomBorder
  shading : p.shading = q.shading
  listKind : p.listKind = q.listKind
  listOrdinal : p.listOrdinal = q.listOrdinal
  listLevel : p.listLevel = q.listLevel

/-- Rows are equal cell by cell. -/
def Row.Equal (r s : Row) : Prop :=
  List.Forall₂ Paragraph.Equal r.cells s.cells

/-- Tables are equal in every field, and row by row. Widths are compared by value. -/
@[mk_iff]
structure Table.Equal (t u : Table) : Prop where
  width : Value.sameNumber t.width u.width = true
  headerRows : t.headerRows = u.headerRows
  rows : List.Forall₂ Row.Equal t.rows u.rows

/-- Blocks are equal if both are paragraphs or both are tables, and these are equal. -/
inductive Block.Equal : Block → Block → Prop
  | paragraph {p q : Paragraph} (h : p.Equal q) : Equal (.paragraph p) (.paragraph q)
  | table {t u : Table} (h : t.Equal u) : Equal (.table t) (.table u)

/-- Documents have equal properties and are equal block by block. -/
@[mk_iff]
structure Document.Equal (d e : Document) : Prop where
  metadata : d.metadata.same e.metadata = true
  blocks : List.Forall₂ Block.Equal d.blocks e.blocks

/-! ### Comparing descriptions -/

theorem find?_entries (m : Metadata) (name : String) :
    ((m.map fun (n, v) => (Value.text n, v)).find? fun e => (Value.text name).same e.1).map (·.2) =
      m.find? name := by
  rw [List.find?_map, Option.map_map]
  refine congrArg (Option.map _) (congrArg (List.find? · m) (funext fun e => ?_))
  exact BEq.comm

/-- Descriptions are equal as the properties are that they are made of. -/
theorem same_fields (m n : Metadata) : (fields m).same (fields n) = m.same n := by
  have hentries (l : Metadata) : Value.sameEntries (l.map fun (n, v) => (.text n, v))
      (n.map fun (n, v) => (.text n, v)) = l.all fun e => (n.find? e.1).any e.2.same := by
    induction l with
    | nil => rfl
    | cons e l ih =>
      rw [List.map_cons, Value.sameEntries, ih, List.all_cons, ← find?_entries n e.1,
        Option.any_map]
  rw [fields, fields, Value.same, hentries, List.length_map, List.length_map, Metadata.same]

/-- Properties of the same names are equal if their values are, name by name. -/
theorem same_iff_of_names {m n : Metadata} (hnames : m.map (·.1) = n.map (·.1)) (hm : m.Distinct) :
    m.same n = true ↔ List.Forall₂ (fun e e' => e.2.same e'.2 = true) m n := by
  have hlength : m.length = n.length := by simpa using congrArg List.length hnames
  rw [Metadata.same, hlength, BEq.rfl, Bool.true_and, List.all_eq_true]
  clear hlength
  induction m generalizing n with
  | nil =>
    obtain rfl := List.map_eq_nil_iff.1 hnames.symm
    simp
  | cons e m ih =>
    rcases n with _ | ⟨e', n⟩
    · cases hnames
    rw [List.map_cons, List.map_cons, List.cons.injEq] at hnames
    obtain ⟨hfresh, hm⟩ : e.1 ∉ m.map (·.1) ∧ Metadata.Distinct m := List.nodup_cons.1 hm
    -- No name of the rest is the one in front, so it is looked up in the rest.
    have hlater : ∀ x ∈ m, Metadata.find? (e' :: n) x.1 = Metadata.find? n x.1 := by
      intro x hx
      have hne : e'.1 ≠ x.1 := by
        intro h
        rw [hnames.1, h] at hfresh
        exact hfresh (List.mem_map_of_mem hx)
      simp [Metadata.find?, hne]
    have hrest : (∀ x ∈ m, (Metadata.find? (e' :: n) x.1).any x.2.same = true) ↔
        List.Forall₂ (fun e e' => e.2.same e'.2 = true) m n :=
      (forall₂_congr fun x hx => by rw [hlater x hx]).trans (ih hnames.2 hm)
    rw [List.forall_mem_cons, hrest, List.forall₂_cons]
    simp [Metadata.find?, hnames.1]

/-- Descriptions with the same fields are equal field by field. -/
theorem same_fields_iff {m n : Metadata} (hnames : m.map (·.1) = n.map (·.1)) (hm : m.Distinct) :
    (fields m).same (fields n) = true ↔ List.Forall₂ (fun e e' => e.2.same e'.2 = true) m n := by
  rw [same_fields, same_iff_of_names hnames hm]

/-- Only null is the same as null. -/
theorem same_null_iff {v : Value} : v.same .null = true ↔ v = .null := by
  cases v <;> simp [Value.same]

theorem null_same_iff {v : Value} : Value.null.same v = true ↔ v = .null := by
  cases v <;> simp [Value.same]

/-- What may be absent is equal in descriptions if it is absent from both, or what is there is. -/
theorem same_optional_iff {f : α → Value} {R : α → α → Prop}
    (hsame : ∀ a b, (f a).same (f b) = true ↔ R a b) (hnull : ∀ a, f a ≠ .null) {a b : Option α} :
    (optional f a).same (optional f b) = true ↔ Option.Rel R a b := by
  rcases a with _ | a <;> rcases b with _ | b
  · exact iff_of_true rfl .none
  · exact iff_of_false (fun h => hnull b (null_same_iff.1 h)) nofun
  · exact iff_of_false (fun h => hnull a (same_null_iff.1 h)) nofun
  · refine (hsame a b).trans ⟨.some, fun h => ?_⟩
    cases h with
    | some h => exact h

/-- The same where what is there is equal only to itself. -/
theorem same_optional_iff_eq {f : α → Value} (hsame : ∀ a b, (f a).same (f b) = true ↔ a = b)
    (hnull : ∀ a, f a ≠ .null) {a b : Option α} :
    (optional f a).same (optional f b) = true ↔ a = b := by
  rw [same_optional_iff hsame hnull]
  constructor
  · rintro (⟨rfl⟩ | _)
    · rfl
    · rfl
  · rintro rfl
    cases a
    · exact .none
    · exact .some rfl

theorem same_text_iff (s t : String) : (Value.text s).same (.text t) = true ↔ s = t :=
  beq_iff_eq

theorem same_bool_iff (a b : Bool) : (Value.bool a).same (.bool b) = true ↔ a = b :=
  beq_iff_eq

theorem same_int_iff (m n : Int) : (Value.int m).same (.int n) = true ↔ m = n :=
  beq_iff_eq

/-- Texts that may be missing are the same if both are missing or equal. -/
theorem same_optional_text_iff {s t : Option String} :
    (optional .text s).same (optional .text t) = true ↔ s = t :=
  same_optional_iff_eq same_text_iff (fun _ => Value.noConfusion)

theorem same_optional_int_iff {m n : Option Int} :
    (optional Value.int m).same (optional Value.int n) = true ↔ m = n :=
  same_optional_iff_eq same_int_iff (fun _ => Value.noConfusion)

/-- Sequences of descriptions are equal place by place. -/
theorem same_list_map_iff {f : α → Value} {R : α → α → Prop}
    (hsame : ∀ a b, (f a).same (f b) = true ↔ R a b) {as bs : List α} :
    (Value.list (as.map f)).same (.list (bs.map f)) = true ↔ List.Forall₂ R as bs := by
  rw [Value.same]
  induction as generalizing bs with
  | nil => cases bs <;> simp [Value.sameList]
  | cons a as ih =>
    cases bs with
    | nil => simp [Value.sameList]
    | cons b bs =>
      rw [List.map_cons, List.map_cons, Value.sameList, Bool.and_eq_true, hsame, ih,
        List.forall₂_cons]

/-! ### Styles -/

/-- Descriptions of styles are equal as the styles are, whatever values they have. -/
theorem Style.same_describe (s t : Style) : s.describe.same t.describe = s.same t := by
  rw [Bool.eq_iff_iff, Style.describe, Style.describe, same_fields_iff, List.forall₂_map_left_iff,
    List.forall₂_map_right_iff, List.forall₂_same, Style.same, List.all_eq_true]
  · rfl
  · have hnames : (Field.all.map Field.name).Nodup := by decide
    exact hnames

/-- Styles of the same description are the same. -/
theorem Style.describe_injective : Function.Injective Style.describe := by
  intro s t h
  have hvalue : ∀ f ∈ Field.all, s.value f = t.value f := by
    simpa [Style.describe, fields] using h
  refine Style.ext (funext fun f => hvalue f ?_)
  cases f <;> decide

/-! ### Documents -/

/-- Numbers that may be missing are the same if both are missing or of one value. -/
theorem same_optional_number_iff {m n : Option Number} :
    (optional .number m).same (optional .number n) = true ↔
      Option.Rel (Value.sameNumber · ·) m n :=
  same_optional_iff (f := .number) (fun _ _ => Iff.rfl) (fun _ => Value.noConfusion)

/-- Formats have the same description if and only if they are equal, field by field. -/
theorem Format.same_describe_iff (f g : Format) :
    f.describe.same g.describe = true ↔ f.Equal g := by
  rw [describe, describe, same_fields_iff, Format.equal_iff]
  · simp [same_bool_iff, same_optional_text_iff, same_optional_number_iff]
  · rfl
  · simp [Metadata.Distinct]

/-- Runs have the same description if and only if they are equal, field by field. -/
theorem Run.same_describe_iff (r s : Run) : r.describe.same s.describe = true ↔ r.Equal s := by
  have hkind : (Value.text r.kind.name).same (.text s.kind.name) = true ↔ r.kind = s.kind := by
    rw [same_text_iff, ← Value.text.injEq, (injective_of_read ofValue?_kind).eq_iff]
  rw [describe, describe, same_fields_iff, Run.equal_iff]
  · simp [same_text_iff, same_optional_text_iff, Format.same_describe_iff, hkind]
  · rfl
  · simp [Metadata.Distinct]

/-- Paragraphs have the same description if and only if they are equal, run by run. -/
theorem Paragraph.same_describe_iff (p q : Paragraph) :
    p.describe.same q.describe = true ↔ p.Equal q := by
  have hkind : (optional (fun k : ListKind => .text k.name) p.listKind).same
      (optional (fun k => .text k.name) q.listKind) = true ↔ p.listKind = q.listKind := by
    refine same_optional_iff_eq (fun k l => ?_) fun _ => Value.noConfusion
    rw [same_text_iff, ← Value.text.injEq, (injective_of_read ofValue?_listKind).eq_iff]
  rw [describe, describe, same_fields_iff, Paragraph.equal_iff]
  · simp [same_text_iff, same_bool_iff, same_int_iff, same_optional_text_iff, same_optional_int_iff,
      same_list_map_iff Run.same_describe_iff, hkind]
  · rfl
  · simp [Metadata.Distinct]

/-- Tables have the same description if and only if they are equal, cell by cell. -/
theorem Table.same_describe_iff (t u : Table) : t.describe.same u.describe = true ↔ t.Equal u := by
  have hrow (r s : Row) : (Value.list (r.cells.map Paragraph.describe)).same
      (.list (s.cells.map Paragraph.describe)) = true ↔ r.Equal s :=
    same_list_map_iff Paragraph.same_describe_iff
  have hwidth : (Value.number t.width).same (.number u.width) =
    Value.sameNumber t.width u.width := rfl
  rw [describe, describe, same_fields_iff, Table.equal_iff]
  · simp [same_text_iff, same_int_iff, same_list_map_iff hrow, hwidth]
  · rfl
  · simp [Metadata.Distinct]

/-- The descriptions of a paragraph and a table differ in the word for what it is. -/
theorem not_same_describe (p : Paragraph) (t : Table) :
    p.describe.same t.describe = false ∧ t.describe.same p.describe = false := by
  rw [Paragraph.describe, Table.describe, same_fields, same_fields]
  simp [Metadata.same]

/-- Blocks have the same description if and only if they are equal, and of one kind. -/
theorem Block.same_describe_iff (b c : Block) : b.describe.same c.describe = true ↔ b.Equal c := by
  rcases b with p | t <;> rcases c with q | u
  · refine (p.same_describe_iff q).trans ⟨.paragraph, fun h => ?_⟩
    cases h with
    | paragraph h => exact h
  · exact iff_of_false (ne_true_of_eq_false (not_same_describe p u).1) nofun
  · exact iff_of_false (ne_true_of_eq_false (not_same_describe q t).2) nofun
  · refine (t.same_describe_iff u).trans ⟨.table, fun h => ?_⟩
    cases h with
    | table h => exact h

theorem Document.same_describe_iff (d e : Document) :
    d.describe.same e.describe = true ↔ d.Equal e := by
  rw [describe, describe, same_fields_iff, Document.equal_iff]
  · simp [same_fields, same_list_map_iff Block.same_describe_iff]
  · rfl
  · simp [Metadata.Distinct]

/-- The description of a document is faithful. Two documents have equal descriptions if and only if
    they have equal properties and are equal in every field of each block, row, cell, run and
    format; a document is read back from its description, and so two documents with one description
    are one. -/
theorem describes_faithfully (d e : Document) :
    (d.describe.same e.describe = true ↔ d.Equal e) ∧
      Document.ofValue? d.describe = some d ∧ (d.describe = e.describe ↔ d = e) :=
  ⟨d.same_describe_iff e, d.ofValue?_describe,
    (injective_of_read Document.ofValue?_describe).eq_iff⟩

/-- Widths are compared by value, and properties in any order. -/
example :
    let d : Document := ⟨[.table { width := 9000 }], [("title", .text "a"), ("author", .null)]⟩
    let e : Document := ⟨[.table { width := .float (.ofInt 9000) }],
      [("author", .null), ("title", .text "a")]⟩
    d.describe.same e.describe = true := by
  rfl

end Layout

end Manuscript
