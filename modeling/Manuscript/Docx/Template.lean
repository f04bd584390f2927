import Manuscript.Docx.Properties
import Manuscript.Docx.Styles
import Manuscript.Error
import Manuscript.Files

/-!
# Templates

A document starts from a template: a document that brings its styles, its properties and perhaps
some text. Where none is named it starts from nothing but the standard styles
(`Container.standard`).
-/

namespace Manuscript.Docx

/-- The size of the page and the margins of a document that starts from nothing. -/
def standardSection : Xml.Node :=
  element "sectPr" [] [element "pgSz" [("w", "12240"), ("h", "15840")],
    element "pgMar" [("top", "1440"), ("right", "1800"), ("bottom", "1440"), ("left", "1800"),
      ("header", "720"), ("footer", "720"), ("gutter", "0")]]

namespace Container

/-- The name of the part that is the document, in one that starts from nothing. -/
def mainName : String := "/word/document.xml"

/-- The name of the properties, in a document that starts from nothing or brings none. -/
def propertiesName : String := "/docProps/core.xml"

/-- The name of the styles in the folder of the document, where it brings none. -/
def stylesName : String := "/word/styles.xml"

/-- The container of a document that starts from nothing. -/
def standard : Container where
  relationships := [
    ⟨"rId1", mainRelation, .part mainName⟩,
    ⟨"rId2", propertiesRelation, .part propertiesName⟩]
  parts := [
    { name := mainName
      mediaType := mainType
      content := (element "document" [] [element "body" [] [standardSection]]).bytes
      relationships := [⟨"rId1", stylesRelation, .part stylesName⟩] },
    { name := stylesName, mediaType := stylesType, content := Styles.standard.tree.bytes },
    { name := propertiesName, mediaType := propertiesType, content := Properties.standard.bytes }]

/-- The part that is the document. -/
def main (c : Container) : Except Fault Part := do
  match ← c.related c.relationships mainRelation with
  | none => throw (.noSuchKey mainRelation)
  | some p =>
    if p.mediaType = mainType then return p
    else throw (.badValue ("not a text document, content type is '" ++ p.mediaType ++ "'"))

end Container

/-- Whether a text can be the path of a file: one that ends in a slash leads to a folder. -/
def namesFile (s : String) : Bool :=
  !(s.endsWith "/" || s.endsWith "/.")

/-- The container in the file of a template, and its part that is the document. -/
def readTemplate (fs : Files) (path : String) : Except Fault (Container × Part) := do
  if !namesFile path then throw Refusal.notFolder.fault
  let bytes ← (fs.read (.ofText path)).mapError Refusal.fault
  let c ← Container.read bytes
  return (c, ← c.main)

/-- The container that a document starts from, and its part that is the document. -/
def openTemplate (fs : Files) (o : DocxOptions) : Except Failure (Container × Part) := do
  match o.templatePath.filter (!·.isEmpty) with
  | none => (Container.standard.main.map fun p => (Container.standard, p)).mapError .fault
  | some path =>
    if !(← (fs.isFile (.ofText path)).mapError .fault) then
      let message := "Template not found: " ++ path
      throw (.error { kind := .fileNotFound path, message : Error })
    match readTemplate fs path with
    | .ok c => return c
    | .error f => throw (.error {
        kind := .rendering (some "template")
        message := {
          text := "Could not open template " ++ path ++ ": "
          detail := some f.shown.toText }
        cause := some f : Error })

/-- The styles of a container, and the name of their part if it brings any. -/
def stylesOf (c : Container) (main : Part) : Except Fault (Styles × Option String) := do
  match ← c.related main.relationships stylesRelation with
  | none => return (Styles.least, none)
  | some p =>
    if p.mediaType = stylesType then return (⟨← Xml.read p.content⟩, some p.name)
    else throw .noSuchAttribute

/-- The styles of the document that is started from. -/
def templateStyles (fs : Files) (o : DocxOptions) : Except Failure Styles := do
  let (c, main) ← openTemplate fs o
  let (styles, _) ← (stylesOf c main).mapError .fault
  return styles

/-- The identifiers and names of the styles of paragraphs in the document that is started from. A
    style may lack either. -/
def availableStyles (fs : Files) (o : DocxOptions) : Except Failure (List (Option String)) := do
  (← templateStyles fs o).paragraphNames.mapError .fault

end Manuscript.Docx
