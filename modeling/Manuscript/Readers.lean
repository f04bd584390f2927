import Manuscript.Markdown
import Manuscript.Yaml

/-!
# Readers

Texts of two languages are handed to readers: YAML, of which comes a value, and Markdown, of which
comes a forest of tokens. What is built on readers works with any two of them, however they fail: a
text that breaks the rules of YAML is malformed, and all other faults are the reader's own.
-/

namespace Manuscript

/-- A reader of YAML. -/
abbrev YamlReader := String → Except Fault Value

/-- A reader of Markdown. -/
abbrev MarkdownReader := MarkdownOptions → String → Except Fault (List Markdown.Token)

/-- The readers that texts are handed to. -/
structure Readers where
  yaml : YamlReader := Yaml.read
  markdown : MarkdownReader := fun o text => .ok (Markdown.tokens o text)
  deriving Inhabited

end Manuscript
