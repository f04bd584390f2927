import Manuscript.Error.Fault

/-!
# Trees of elements

A tree of named elements with attributes and text. A name belongs to a space, which keeps the names
of one vocabulary apart from those of another, and is written with a short form of its space in
front of it. The short form means nothing: names are the same if their space and their word are
(`Xml.Name.same`).
-/

namespace Manuscript.Xml

/-- A name of an element or attribute. -/
structure Name where
  /-- The short form of the space that is written in front of the word. -/
  lead : String := ""
  space : String := ""
  word : String
  deriving DecidableEq, Repr, Inhabited

/-- An element, or a piece of text between elements. -/
inductive Node
  | element (name : Name) (attributes : List (Name × String)) (children : List Node)
  | text (s : String)
  deriving Repr, Inhabited

/-- The space that is known by a place on the web. -/
def spaceAt (place : String) : String := "http://" ++ place

/-- The space of the attributes that give a space its short form. -/
def declarations : String := spaceAt "www.w3.org/2000/xmlns/"

/-- The space of the attributes that any element may have, whose short form is `xml`. -/
def common : String := spaceAt "www.w3.org/XML/1998/namespace"

/-- Whether a character may stand in a tree. -/
def isAllowed (c : Char) : Bool :=
  let n := c.toNat
  if n < 0x20 then c == '\t' || c == '\n' || c == '\r' else n != 0xFFFE && n != 0xFFFF

/-- The fault of a text that cannot be put into a tree. -/
def unwritable : Fault :=
  .badValue ("All strings must be XML compatible: " ++
    "Unicode or ASCII, no NULL bytes or control characters")

/-- A text that is to be put into a tree. -/
def checked (s : String) : Except Fault String :=
  if s.toList.all isAllowed then .ok s else .error unwritable

namespace Name

/-- The attribute that gives a space its short form. -/
def declaring (lead : String) : Name :=
  if lead.isEmpty then { space := declarations, word := "xmlns" }
  else { lead := "xmlns", space := declarations, word := lead }

/-- Whether two names are the same. -/
def same (a b : Name) : Bool :=
  a.space == b.space && a.word == b.word

end Name

namespace Node

/-- Whether a node is an element of a name. -/
def isNamed (n : Node) (name : Name) : Bool :=
  match n with
  | element m _ _ => m.same name
  | text _ => false

/-- The children of a node. -/
def children : Node → List Node
  | element _ _ cs => cs
  | text _ => []

/-- The attributes of a node. -/
def attributes : Node → List (Name × String)
  | element _ as _ => as
  | text _ => []

/-- The value of an attribute. -/
def attribute? (n : Node) (name : Name) : Option String :=
  (n.attributes.find? fun a => a.1.same name).map (·.2)

/-- The first child of a name. -/
def child? (n : Node) (name : Name) : Option Node :=
  n.children.find? (·.isNamed name)

/-- The children of a name. -/
def childrenNamed (n : Node) (name : Name) : List Node :=
  n.children.filter (·.isNamed name)

/-- The text before the first element among the children of a node. -/
def leadingText (n : Node) : String :=
  String.join ((n.children.takeWhile fun | text _ => true | element .. => false).map fun
    | text s => s
    | element .. => "")

/-- The node with other children. -/
def withChildren (n : Node) (children : List Node) : Node :=
  match n with
  | element name as _ => element name as children
  | text s => text s

/-- The node with an attribute set: in its place if it is there, at the end if not. -/
def withAttribute (n : Node) (name : Name) (value : String) : Node :=
  match n with
  | element m as cs =>
    if as.any fun a => a.1.same name then
      element m (as.map fun a => if a.1.same name then (a.1, value) else a) cs
    else element m (as ++ [(name, value)]) cs
  | text s => text s

/-- Changes the first member that `p` holds of. -/
def updateFirst (p : Node → Bool) (f : Node → Node) : List Node → List Node
  | [] => []
  | n :: ns => if p n then f n :: ns else n :: updateFirst p f ns

/-- Puts nodes in front of the first member of the first of some names that there is, at the end if
    there is none. -/
def insertBefore (followers : List Name) (new ns : List Node) : List Node :=
  match followers.find? fun name => ns.any (·.isNamed name) with
  | none => ns ++ new
  | some name =>
    ns.takeWhile (fun n => !n.isNamed name) ++ new ++ ns.dropWhile fun n => !n.isNamed name

/-- Changes the first child of a name. If there is none, a new one is changed, which is put in front
    of the children of the names that have to follow it. -/
def updateChild (n : Node) (name : Name) (followers : List Name) (f : Node → Node) : Node :=
  if (n.child? name).isSome then n.withChildren (updateFirst (·.isNamed name) f n.children)
  else n.withChildren (insertBefore followers [f (element name [] [])] n.children)

/-- The node with a text in place of the text before its first element. -/
def withLeadingText (n : Node) (s : String) : Node :=
  n.withChildren (text s :: n.children.dropWhile fun | text _ => true | element .. => false)

mutual

/-- The nodes of a tree, each before those in it. -/
def nodes : Node → List Node
  | element name as cs => element name as cs :: nodesList cs
  | text s => [text s]

/-- The nodes of some trees. -/
def nodesList : List Node → List Node
  | [] => []
  | n :: ns => n.nodes ++ nodesList ns

end

end Node

end Manuscript.Xml
