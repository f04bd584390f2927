import Manuscript.Docx.Vocabulary
import Manuscript.Options.Docx

/-!
# Properties of a document

What is said about a document itself: its title, who made it and changed it last, its subject and
keywords. A document takes them from its metadata; those that are not given stay as they are.
-/

namespace Manuscript.Docx.Properties

open Xml (Name)

/-- The most characters of a property. -/
def maxLength : Nat := 255

/-- Sets a property. -/
def set (n : Xml.Node) (name : Name) (value : String) : Except Fault Xml.Node := do
  if maxLength < value.length then
    throw (.badValue ("property too long: " ++ value))
  let value ← Xml.checked value
  return n.updateChild name [] fun e => e.withLeadingText value

/-- The text of keywords: of a list the texts of its members. -/
def keywordsText : Value → String
  | .list xs => ", ".intercalate (xs.map Value.toText)
  | v => v.toText

/-- The properties that metadata give, each with the name that it is stored under. -/
def given (m : Metadata) : List (Name × String) :=
  let find (key : String) (name : Name) (text : Value → String) : Option (Name × String) :=
    ((m.find? key).filter Value.isTruthy).map fun v => (name, text v)
  let found := [
    find "title" (dc "title") Value.toText,
    find "author" (dc "creator") Value.toText,
    find "subject" (dc "subject") Value.toText,
    find "keywords" (cp "keywords") keywordsText]
  found.filterMap id

/-- The properties with those of metadata and of the options set. -/
def update (n : Xml.Node) (m : Metadata) (o : DocxOptions) : Except Fault Xml.Node :=
  let changed := ((o.creator.filter (!·.isEmpty)).map fun c => (cp "lastModifiedBy", c)).toList
  (given m ++ changed).foldlM (fun n (name, value) => set n name value) n

/-- Properties with the given texts. -/
def ofTexts (texts : List (Name × String)) : Xml.Node :=
  .element (cp "coreProperties") [] (texts.map fun (name, s) => .element name [] [.text s])

/-- The properties of a document that starts from nothing. -/
def standard : Xml.Node :=
  ofTexts [(dc "title", ""), (dc "subject", ""), (dc "creator", "python-docx"), (cp "keywords", ""),
    (cp "lastModifiedBy", "")]

/-- The properties of a document that brings none. -/
def least : Xml.Node :=
  ofTexts [(dc "title", "Word Document"), (cp "lastModifiedBy", "python-docx")]

end Manuscript.Docx.Properties
