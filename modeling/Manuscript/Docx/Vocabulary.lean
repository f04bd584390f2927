import Manuscript.Xml

/-!
# The vocabulary of word processing

The names of the elements and attributes of a document, the kinds of relationships between the parts
of its package, and the kinds of content that the parts have.
-/

namespace Manuscript.Docx

open Xml (Name)

/-- The space of a vocabulary of office documents. -/
def office (place : String) : String :=
  Xml.spaceAt ("schemas.openxmlformats.org/" ++ place)

/-! ## Names -/

/-- A name of the text of a document. -/
def w (word : String) : Name := ⟨"w", office "wordprocessingml/2006/main", word⟩

/-- A name of a relationship. -/
def r (word : String) : Name := ⟨"r", office "officeDocument/2006/relationships", word⟩

/-- A name of a drawing in a text. -/
def wp (word : String) : Name := ⟨"wp", office "drawingml/2006/wordprocessingDrawing", word⟩

/-- A name of a drawing. -/
def a (word : String) : Name := ⟨"a", office "drawingml/2006/main", word⟩

/-- A name of a picture. -/
def pic (word : String) : Name := ⟨"pic", office "drawingml/2006/picture", word⟩

/-- A name of the properties of a document. -/
def cp (word : String) : Name := ⟨"cp", office "package/2006/metadata/core-properties", word⟩

/-- A name that describes a document. -/
def dc (word : String) : Name := ⟨"dc", Xml.spaceAt "purl.org/dc/elements/1.1/", word⟩

/-- A name of the list of relationships of a part. -/
def rel (word : String) : Name := ⟨"", office "package/2006/relationships", word⟩

/-- A name of the list of the kinds of content. -/
def ct (word : String) : Name := ⟨"", office "package/2006/content-types", word⟩

/-- A name that belongs to no space. -/
def plain (word : String) : Name := { word }

/-- An element of the text of a document. -/
def element (word : String) (attributes : List (String × String) := [])
    (children : List Xml.Node := []) : Xml.Node :=
  .element (w word) (attributes.map fun (n, v) => (w n, v)) children

theorem isNamed_element (word : String) (attributes : List (String × String))
    (children : List Xml.Node) (word' : String) :
    (element word attributes children).isNamed (w word') = (word == word') := by
  simp [element, Xml.Node.isNamed, Xml.Name.same, w]

/-! ## Kinds of relationships -/

/-- A kind of relationship of office documents. -/
def relation (word : String) : String :=
  office ("officeDocument/2006/relationships/" ++ word)

/-- Leads to the part that is the document itself. -/
def mainRelation : String := relation "officeDocument"

/-- Leads to the styles. -/
def stylesRelation : String := relation "styles"

/-- Leads to a picture. -/
def imageRelation : String := relation "image"

/-- Leads to an address. -/
def hyperlinkRelation : String := relation "hyperlink"

/-- Leads to the properties. -/
def propertiesRelation : String :=
  office "package/2006/relationships/metadata/core-properties"

/-! ## Kinds of content -/

/-- The kind of content of a part of a text document. -/
def documentType (word : String) : String :=
  "application/vnd.openxmlformats-officedocument.wordprocessingml." ++ word ++ "+xml"

/-- The kind of content of the document itself. -/
def mainType : String := documentType "document.main"

/-- The kind of content of the styles. -/
def stylesType : String := documentType "styles"

/-- The kind of content of the properties. -/
def propertiesType : String := "application/vnd.openxmlformats-package.core-properties+xml"

/-- The kind of content of a list of relationships. -/
def relationshipsType : String := "application/vnd.openxmlformats-package.relationships+xml"

/-- The kinds of content that are trees of elements and are read as such. -/
def treeTypes : List String :=
  [mainType, stylesType, propertiesType] ++
    ["comments", "footer", "header", "numbering", "settings"].map documentType

end Manuscript.Docx
