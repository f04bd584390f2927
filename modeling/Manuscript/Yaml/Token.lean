/-!
# Tokens of a YAML text

The indicators of a text, its scalars, and the marks of its block structure, which its indentation
stands for.
-/

namespace Manuscript.Yaml

/-- A piece of a YAML text. -/
inductive Token
  /-- The version that a document asks for. -/
  | version (major : Nat)
  /-- A short form for the beginning of tags. -/
  | shorthand (handle start : String)
  /-- A directive that means nothing here. -/
  | reserved
  | documentStart
  | documentEnd
  | blockSequenceStart
  | blockMappingStart
  | blockEnd
  | flowSequenceStart
  | flowSequenceEnd
  | flowMappingStart
  | flowMappingEnd
  | blockEntry
  | flowEntry
  | key
  | value
  | alias (name : String)
  | anchor (name : String)
  /-- A tag: a short form, if one is used, and the rest. -/
  | tag (handle : Option String) (suffix : String)
  /-- A scalar, plain if it stands without quotes or block indicator. -/
  | scalar (text : String) (plain : Bool)
  deriving DecidableEq, Repr, Inhabited

end Manuscript.Yaml
