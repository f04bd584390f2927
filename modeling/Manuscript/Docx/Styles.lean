import Manuscript.Docx.Container
import Manuscript.Docx.Vocabulary

/-!
# Styles

A document has styles of four kinds. A style has an identifier and a name, and is found by either
(`Styles.find?`). Some names are stored in small letters and shown with a capital. For each kind one
style holds where none is asked for: the last of those that are marked so.
-/

namespace Manuscript.Docx

/-- The kinds of styles. -/
inductive StyleKind
  | paragraph | character | table | numbering
  deriving DecidableEq, Repr, Inhabited

namespace StyleKind

/-- The word for a kind. -/
def word : StyleKind → String
  | paragraph => "paragraph"
  | character => "character"
  | table => "table"
  | numbering => "numbering"

/-- The kind of a word. -/
def ofWord? (s : String) : Option StyleKind :=
  [paragraph, character, table, numbering].find? (·.word == s)

end StyleKind

/-- The names that are stored in small letters, as they are shown. -/
def loweredNames : List String :=
  ["Caption", "Footer", "Header"] ++ (List.range 9).map fun n => "Heading " ++ toString (n + 1)

/-- A name as it is stored. -/
def storedName (shown : String) : String :=
  if loweredNames.contains shown then shown.toLower else shown

/-- A name as it is shown. -/
def shownName (stored : String) : String :=
  (loweredNames.find? fun s => s.toLower == stored).getD stored

namespace Style

/-- The kind that an element says, if it says one. -/
def kind? (n : Xml.Node) : Except Fault (Option StyleKind) :=
  match n.attribute? (w "type") with
  | none => .ok none
  | some s =>
    match StyleKind.ofWord? s with
    | some k => .ok (some k)
    | none => .error (.badValue ("no kind of style: " ++ s))

/-- The kind of a style. -/
def kind (n : Xml.Node) : Except Fault StyleKind := do
  match ← kind? n with
  | some k => return k
  | none => .error (.noSuchKey "kind of style")

/-- The identifier of a style. -/
def id? (n : Xml.Node) : Option String :=
  n.attribute? (w "styleId")

/-- The name of a style, as it is shown. -/
def name? (n : Xml.Node) : Except Fault (Option String) :=
  match n.child? (w "name") with
  | none => .ok none
  | some e =>
    match e.attribute? (w "val") with
    | some s => .ok (some (shownName s))
    | none => .error (.badMarkup "required attribute w:val not present")

/-- Whether a style is marked as the one that holds where none is asked for. -/
def isDefault (n : Xml.Node) : Except Fault Bool :=
  match n.attribute? (w "default") with
  | none => .ok false
  | some s =>
    if ["1", "true", "on"].contains s then .ok true
    else if ["0", "false", "off"].contains s then .ok false
    else .error (.badMarkup ("neither on nor off: " ++ s))

end Style

/-- The tree of the styles of a document. -/
structure Styles where
  tree : Xml.Node
  deriving Inhabited

namespace Styles

/-- The styles, each with its place among them. -/
def all (s : Styles) : List (Xml.Node × Nat) :=
  (s.tree.childrenNamed (w "style")).zipIdx

/-- The first of some styles that is of a kind and has a name, as its identifier or as the name that
    is shown. -/
def findIn (kind : StyleKind) (name : String) :
    List (Xml.Node × Nat) → Except Fault (Option (Xml.Node × Nat))
  | [] => .ok none
  | s :: rest => do
    if (← Style.kind s.1) = kind then
      if Style.id? s.1 = some name then return some s
      if (← Style.name? s.1) = some name then return some s
    findIn kind name rest

/-- The style of a kind that has a name. -/
def find? (s : Styles) (kind : StyleKind) (name : String) :
    Except Fault (Option (Xml.Node × Nat)) :=
  findIn kind name s.all

/-- The place of the style of a kind that holds where none is asked for. -/
def default? (s : Styles) (kind : StyleKind) : Except Fault (Option Nat) := do
  let marked ← s.all.filterM fun e => do
    if (← Style.kind? e.1) = some kind then Style.isDefault e.1 else return false
  return marked.getLast?.map (·.2)

/-- What is written for a style that is asked for by name: its identifier, and nothing if it holds
    anyway. There is nothing to be written for a name that no style has. -/
def reference? (s : Styles) (kind : StyleKind) (name : String) :
    Except Fault (Option (Option String)) := do
  match ← s.find? kind name with
  | none => return none
  | some (n, place) =>
    if (← s.default? kind) = some place then return some none else return some (Style.id? n)

/-- The identifiers and names of the styles of paragraphs. -/
def paragraphNames (s : Styles) : Except Fault (List (Option String)) := do
  let names ← s.all.mapM fun e => do
    if (← Style.kind e.1) = .paragraph then return [Style.id? e.1, ← Style.name? e.1] else return []
  return names.flatten.eraseDups

/-! ## The style of all text -/

/-- The name of the style that the text of a document starts from. -/
def baseName : String := "Normal"

/-- Whether a style is stored under a name. -/
def isStoredAs (n : Xml.Node) (name : String) : Bool :=
  (n.childrenNamed (w "name")).any fun e => e.attribute? (w "val") == some name

/-- The place of the style that the text of a document starts from, by its name or else by its
    identifier. -/
def basePlace (s : Styles) : Except Fault Nat := do
  let found := (s.all.find? fun e => isStoredAs e.1 baseName).orElse fun _ =>
    s.all.find? fun e => Style.id? e.1 == some baseName
  match found with
  | none => .error (.noSuchKey baseName)
  | some (n, place) =>
    match ← Style.kind n with
    | .numbering => .error .noSuchAttribute
    | _ => return place

/-- The names of the elements of the properties of a run that follow the fonts. -/
def afterFonts : List Xml.Name :=
  ["b", "bCs", "i", "iCs", "caps", "smallCaps", "strike", "dstrike", "outline", "shadow", "emboss",
    "imprint", "noProof", "snapToGrid", "vanish", "webHidden", "color", "spacing", "w", "kern",
    "position", "sz"].map w

/-- The names of the elements of the properties of a run that follow the size. -/
def afterSize : List Xml.Name :=
  ["szCs", "highlight", "u", "effect", "bdr", "shd", "fitText", "vertAlign", "rtl", "cs", "em",
    "lang", "eastAsianLayout", "specVanish", "oMath"].map w

/-- The names of the elements of a style that follow the properties of its runs. -/
def afterRun : List Xml.Name :=
  ["tblPr", "trPr", "tcPr", "tblStylePr"].map w

/-- Properties of a run with a font and a size set. -/
def withFont (properties : Xml.Node) (font size : String) : Xml.Node :=
  let fonts (n : Xml.Node) := (n.withAttribute (w "ascii") font).withAttribute (w "hAnsi") font
  let properties := properties.updateChild (w "rFonts") (afterFonts ++ afterSize) fonts
  properties.updateChild (w "sz") afterSize fun n => n.withAttribute (w "val") size

/-- Changes the style at a place. -/
def updateAt (f : Xml.Node → Xml.Node) : List Xml.Node → Nat → List Xml.Node
  | [], _ => []
  | n :: ns, place =>
    if n.isNamed (w "style") then
      match place with
      | 0 => f n :: ns
      | place + 1 => n :: updateAt f ns place
    else n :: updateAt f ns place

/-- The styles with the font and the size that the text of a document starts from set. -/
def withBaseFont (s : Styles) (font size : String) : Except Fault Styles := do
  let place ← s.basePlace
  let set (n : Xml.Node) := n.updateChild (w "rPr") afterRun fun p => withFont p font size
  return ⟨s.tree.withChildren (updateAt set s.tree.children place)⟩

/-! ## Standard styles -/

/-- A style that others may be based on. -/
def entry (kind : StyleKind) (id name : String) (isDefault : Bool)
    (properties : List Xml.Node := []) : Xml.Node :=
  let marked := if isDefault then [("default", "1")] else []
  let base := if kind = .paragraph ∧ !isDefault then [element "basedOn" [("val", baseName)]] else []
  element "style" ([("type", kind.word)] ++ marked ++ [("styleId", id)])
    ([element "name" [("val", storedName name)]] ++ base ++ properties)

/-- The styles that hold where none is asked for, one of each kind. -/
def defaults : List Xml.Node :=
  [entry .paragraph baseName baseName true,
    entry .character "DefaultParagraphFont" "Default Paragraph Font" true,
    entry .table "TableNormal" "Normal Table" true,
    entry .numbering "NoList" "No List" true]

/-- The styles of a document that brings none. -/
def least : Styles :=
  ⟨element "styles" [] defaults⟩

/-- The identifier of a style of a name. -/
def idOf (name : String) : String :=
  .ofList (name.toList.filter (· != ' '))

/-- The size of headings in halves of a point, by their level. -/
def headingSize (level : Nat) : Nat :=
  if level = 1 then 28 else if level = 2 then 26 else 22

/-- The style of headings of a level. -/
def heading (level : Nat) : Xml.Node :=
  let name := "Heading " ++ toString level
  entry .paragraph (idOf name) name false
    [element "pPr" [] [element "keepNext", element "outlineLvl" [("val", toString (level - 1))]],
      element "rPr" [] [element "b", element "sz" [("val", toString (headingSize level))]]]

/-- The style of the letters of headings of a level. -/
def headingLetters (level : Nat) : Xml.Node :=
  let number := toString level
  entry .character ("Heading" ++ number ++ "Char") ("Heading " ++ number ++ " Char") false

/-- The names of further styles of paragraphs. -/
def paragraphStyles : List String :=
  ["Header", "Footer", "No Spacing", "Title", "Subtitle", "List Paragraph", "Body Text",
    "Body Text 2", "Body Text 3", "List", "List 2", "List 3", "List Bullet", "List Bullet 2",
    "List Bullet 3", "List Number", "List Number 2", "List Number 3", "List Continue",
    "List Continue 2", "List Continue 3", "Quote", "Caption", "Intense Quote", "TOC Heading"]

/-- The families of styles of tables. -/
def tableFamilies : List String :=
  ["Light Shading", "Light List", "Light Grid", "Medium Shading 1", "Medium Shading 2",
    "Medium List 1", "Medium List 2", "Medium Grid 1", "Medium Grid 2", "Medium Grid 3",
    "Dark List", "Colorful Shading", "Colorful List", "Colorful Grid"]

/-- The styles of a family of tables: a plain one and six with accents. -/
def tableFamily (name : String) : List Xml.Node :=
  entry .table (idOf name) name false :: (List.range 6).map fun n =>
    let number := toString (n + 1)
    entry .table (idOf name ++ "-Accent" ++ number) (name ++ " Accent " ++ number) false

/-- The style of tables with a line around each cell. -/
def gridTable : Xml.Node :=
  let line (side : String) :=
    element side [("val", "single"), ("sz", "4"), ("space", "0"), ("color", "auto")]
  entry .table "TableGrid" "Table Grid" false
    [element "tblPr" [] [element "tblBorders" []
      (["top", "left", "bottom", "right", "insideH", "insideV"].map line)]]

/-- The styles of a document that starts from nothing. -/
def standard : Styles :=
  let levels := (List.range 9).map (· + 1)
  ⟨element "styles" [] (defaults ++ levels.map heading ++ levels.map headingLetters ++
    paragraphStyles.map (fun name => entry .paragraph (idOf name) name false) ++
    [entry .paragraph "MacroText" "macro" false, gridTable] ++ tableFamilies.flatMap tableFamily)⟩

end Styles

end Manuscript.Docx
