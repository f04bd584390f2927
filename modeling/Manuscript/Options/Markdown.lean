import Manuscript.Options.Setting

/-!
# Options of reading Markdown

Which extensions of Markdown are recognised, and what becomes of front matter and of code blocks.
-/

namespace Manuscript

/-- The options of reading Markdown. -/
structure MarkdownOptions where
  /-- Whether the front matter becomes the properties of the document. -/
  extractMetadata : Bool := true
  parseTables : Bool := true
  parseUnderline : Bool := true
  /-- Whether a leading front matter block is split off. -/
  parseFrontmatter : Bool := true
  /-- Whether the last line end of a code block is dropped. -/
  stripCodeTrailingNewline : Bool := true
  deriving DecidableEq, Repr, Inhabited

namespace MarkdownOptions

/-- The names of the options, in order. -/
def names : List String :=
  ["extract_metadata", "parse_tables", "parse_underline", "parse_frontmatter",
    "strip_code_trailing_newline"]

/-- The options by name, in order. -/
def describe (o : MarkdownOptions) : Settings :=
  names.zip [.bool o.extractMetadata, .bool o.parseTables, .bool o.parseUnderline,
    .bool o.parseFrontmatter, .bool o.stripCodeTrailingNewline]

end MarkdownOptions

end Manuscript
