import Manuscript.Text.Utf8
import Manuscript.Xml.Piece

/-!
# Nesting of pieces

Pieces are nested into a tree by a stack of the elements that are open (`Node.ofPieces?`). The names
of an element are resolved when it starts, by the short forms that it and those around it declare.

Blanks between elements mean nothing and are dropped. They are text if they are all that an element
holds, if there is text beside them, or if the element says that they are to be kept.
-/

namespace Manuscript.Xml

/-- An element that is open: its name as it is written and as it is resolved, and what it holds so
    far, the last child first. -/
structure OpenElement where
  written : String
  name : Name
  attributes : List (Name × String)
  /-- The spaces of the short forms that are declared here or around it. -/
  scope : List (String × String)
  keepsBlanks : Bool
  reversed : List Node := []
  deriving Inhabited

namespace OpenElement

/-- The element, when it is finished. -/
def node (e : OpenElement) : Node :=
  .element e.name e.attributes e.reversed.reverse

/-- The element with a child added. Text that follows text continues it. -/
def add (e : OpenElement) (n : Node) : OpenElement :=
  match n, e.reversed with
  | .text s, .text t :: rest => { e with reversed := .text (t ++ s) :: rest }
  | n, rest => { e with reversed := n :: rest }

/-- Whether blanks that come next may be dropped, if what comes after them is not the end of the
    element. -/
def dropsBlanks (e : OpenElement) (ending : Bool) : Bool :=
  let isText : Option Node → Bool
    | some (.text _) => true
    | _ => false
  !e.keepsBlanks && !(e.reversed.isEmpty && ending) && !isText e.reversed.head? &&
    !isText e.reversed.getLast?

end OpenElement

/-- The short form and the word of a name as it is written. -/
def splitWritten (s : String) : Option (String × String) :=
  match s.toList.splitOn ':' with
  | [word] => some ("", .ofList word)
  | [lead, word] =>
    if lead.isEmpty ∨ word.isEmpty then none else some (.ofList lead, .ofList word)
  | _ => none

/-- The short form that an attribute declares. -/
def declared? (name : String) : Option String :=
  if name = "xmlns" then some ""
  else match splitWritten name with
    | some ("xmlns", word) => some word
    | _ => none

/-- The name that is written in a scope. Without a short form an attribute belongs to no space. -/
def resolveName? (scope : List (String × String)) (isAttribute : Bool) (s : String) :
    Option Name := do
  let (lead, word) ← splitWritten s
  if (declared? s).isSome ∧ isAttribute then
    return if lead.isEmpty then .declaring "" else .declaring word
  else if lead = "xml" then return ⟨lead, common, word⟩
  else if lead.isEmpty then
    return ⟨"", if isAttribute then "" else (scope.lookup "").getD "", word⟩
  else return ⟨lead, ← scope.lookup lead, word⟩

/-- The element that starts within others. -/
def OpenElement.start? (around : List OpenElement) (written : String)
    (attributes : List (String × String)) : Option OpenElement := do
  let outer := around.head?
  let here := attributes.filterMap fun (name, space) =>
    (declared? name).map fun lead => (lead, space)
  if here.any fun d => !d.1.isEmpty && d.2.isEmpty then none
  let scope := here ++ (outer.map (·.scope)).getD []
  let resolved ← attributes.mapM fun (name, value) => do
    return (← resolveName? scope true name, value)
  let names := resolved.map fun a => (a.1.space, a.1.word)
  if names.eraseDups.length ≠ names.length then none
  let keeps := match attributes.lookup "xml:space" with
    | some "preserve" => true
    | some "default" => false
    | _ => (outer.map (·.keepsBlanks)).getD false
  return { written, name := ← resolveName? scope false written, attributes := resolved, scope,
           keepsBlanks := keeps }

/-- Nests pieces within the elements that are open, the innermost one first; `root` is the tree that
    is complete already. -/
def Node.nest? (root : Option Node) (opened : List OpenElement) : List Piece → Option Node
  | [] => if opened.isEmpty then root else none
  | .text s blank :: ps =>
    match opened with
    | [] => if blank then nest? root [] ps else none
    | e :: outer =>
      let ending := match ps with
        | .finish _ :: _ => true
        | _ => false
      if blank ∧ e.dropsBlanks ending then nest? root (e :: outer) ps
      else nest? root (e.add (.text s) :: outer) ps
  | .start written attributes closed :: ps => do
    if opened.isEmpty ∧ root.isSome then none
    let e ← OpenElement.start? opened written attributes
    if !closed then nest? root (e :: opened) ps
    else match opened with
      | [] => nest? (some e.node) [] ps
      | o :: outer => nest? root (o.add e.node :: outer) ps
  | .finish written :: ps =>
    match opened with
    | [] => none
    | e :: rest =>
      if e.written ≠ written then none
      else match rest with
        | [] => nest? (some e.node) [] ps
        | o :: outer => nest? root (o.add e.node :: outer) ps

/-- The tree of pieces. -/
def Node.ofPieces? (ps : List Piece) : Option Node :=
  nest? none [] ps

/-- The tree that some bytes stand for. -/
def read (bs : ByteArray) : Except Fault Node :=
  let tree := do
    let s ← Text.decodeUtf8? (Text.dropMark bs)
    Node.ofPieces? (← Piece.read? (Text.unifyEndings s.toList))
  match tree with
  | some n => .ok n
  | none => .error (.malformed "markup that is not well-formed")

end Manuscript.Xml
