import Manuscript.Options.Ladder

/-!
# Options of laying out and writing documents

Fonts, sizes, colours and the treatment of lists, links and pictures. Sizes have to be positive and
colours to have six hexadecimal digits (`DocxOptions.rules`).
-/

namespace Manuscript

/-- Sizes by heading level. -/
abbrev SizeLadder := List (Int × Number)

/-- Sets the size of a level: in its place if the level is there, at the end if not. -/
def SizeLadder.put (l : SizeLadder) (level : Int) (size : Number) : SizeLadder :=
  match l with
  | [] => [(level, size)]
  | (k, s) :: rest => if k = level then (k, size) :: rest else (k, s) :: put rest level size

/-- The size of a level. -/
def SizeLadder.find? (l : SizeLadder) (level : Int) : Option Number :=
  (List.find? (fun e => e.1 == level) l).map (·.2)

/-- The options of laying out and writing documents. -/
structure DocxOptions where
  /-- Whether a picture that cannot be embedded stops the writing. -/
  failOnResourceErrors : Bool := false
  creator : Option String := some "md2docx"
  defaultFont : String := "Calibri"
  defaultFontSize : Number := 11
  codeFont : String := "Courier New"
  codeFontSize : Number := 10
  codeBackground : Option String := some "EEEEEE"
  /-- Sizes of headings whose style the document lacks. -/
  headingFontSizes : SizeLadder := [(1, 24), (2, 20), (3, 16)]
  /-- The size of such a heading when its level is not in the ladder. -/
  headingFallbackSize : Number := 14
  tableStyle : Option String := none
  tableWidth : Number := 9000
  templatePath : Option String := none
  bulletGlyph : String := "• "
  /-- Whether the number of an item is written before it. -/
  numberOrderedLists : Bool := true
  nativeHyperlinks : Bool := true
  embedImages : Bool := true
  imageWidthInches : Number := .float (.ofInt 4)
  softBreakAsSpace : Bool := false
  linkColor : String := "0000FF"
  deriving DecidableEq, Repr, Inhabited

namespace DocxOptions

/-- The names of the options, in order. -/
def names : List String :=
  ["fail_on_resource_errors", "creator", "default_font", "default_font_size", "code_font",
    "code_font_size", "code_background", "heading_font_sizes", "heading_fallback_size",
    "table_style", "table_width", "template_path", "bullet_glyph", "number_ordered_lists",
    "native_hyperlinks", "embed_images", "image_width_inches", "soft_break_as_space",
    "link_color"]

/-- The size of a heading of a level without a style of its own. -/
def headingSize (o : DocxOptions) (level : Int) : Number :=
  (o.headingFontSizes.find? level).getD o.headingFallbackSize

/-- The options by name, in order. -/
def describe (o : DocxOptions) : Settings :=
  let optional : Option String → Value
    | none => .null
    | some s => .text s
  let ladder := o.headingFontSizes.map fun (level, size) => (.int level, .number size)
  names.zip [.bool o.failOnResourceErrors, optional o.creator, .text o.defaultFont,
    .number o.defaultFontSize, .text o.codeFont, .number o.codeFontSize,
    optional o.codeBackground, .map ladder, .number o.headingFallbackSize,
    optional o.tableStyle, .number o.tableWidth, optional o.templatePath, .text o.bulletGlyph,
    .bool o.numberOrderedLists, .bool o.nativeHyperlinks, .bool o.embedImages,
    .number o.imageWidthInches, .bool o.softBreakAsSpace, .text o.linkColor]

/-- The name of the option that holds a ladder of sizes. -/
def ladderName : String := "heading_font_sizes"

/-- The rules of the values of the options, in the order in which they are checked. -/
def rules : List (String × Rule) :=
  let size (name : String) : String × Rule := (name, .size name)
  [size "default_font_size", size "code_font_size", size "heading_fallback_size",
    (ladderName, .ladder ladderName), size "table_width", size "image_width_inches",
    ("link_color", .color "link_color"), ("code_background", .optionalColor "code_background")]

/-- The option that holds a ladder has the rule of ladders. -/
theorem rule_ladder : ∀ rule ∈ rules, rule.1 = ladderName → rule.2 = .ladder ladderName := by
  simp [rules, ladderName]

end DocxOptions

end Manuscript
