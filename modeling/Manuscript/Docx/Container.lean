import Manuscript.Archive
import Manuscript.Docx.Vocabulary
import Manuscript.Xml.Print
import Manuscript.Xml.Tree

/-!
# Containers

A container holds the parts of a document by their names, which are paths from its root, and the
relationships that lead from one part to another or to an address outside. It is kept in an archive,
together with lists of the relationships of each part and of the kinds of content. Only the parts
that can be reached belong to it.
-/

namespace Manuscript.Docx

/-- Where a relationship leads. -/
inductive Target
  | part (name : String)
  | external (address : String)
  deriving DecidableEq, Repr, Inhabited

/-- A relationship. -/
structure Relationship where
  id : String
  kind : String
  target : Target
  deriving DecidableEq, Repr, Inhabited

/-- A part with the relationships that lead from it. -/
structure Part where
  name : String
  mediaType : String
  content : ByteArray
  relationships : List Relationship := []
  deriving Inhabited

/-- Parts with the relationships that lead to them from outside. -/
structure Container where
  relationships : List Relationship := []
  parts : List Part := []
  deriving Inhabited

/-! ## Names of parts -/

namespace PartName

/-- The path of the folder that a part is in, as the names that lead there. -/
def folder (name : String) : List String :=
  ((name.splitOn "/").filter (!·.isEmpty)).dropLast

/-- The last name of a part. -/
def file (name : String) : String :=
  ((name.splitOn "/").getLast?).getD ""

/-- The name of the part that a reference from a folder leads to. -/
def ofReference (folder : List String) (reference : String) : String :=
  let start := if reference.startsWith "/" then [] else folder
  let steps := (start ++ reference.splitOn "/").filter fun s => !s.isEmpty && s != "."
  let step (names : List String) (s : String) :=
    if s = ".." then names.dropLast else names ++ [s]
  let names := steps.foldl step []
  "/" ++ "/".intercalate names

/-- The path from a folder to a part. -/
def reference (folder : List String) (name : String) : String :=
  let names := (name.splitOn "/").filter (!·.isEmpty)
  let shared := ((folder.zip names).takeWhile fun p => p.1 == p.2).length
  "/".intercalate (List.replicate (folder.length - shared) ".." ++ names.drop shared)

/-- The name of the list of the relationships of a part. -/
def relationships (name : String) : String :=
  "/" ++ "/".intercalate (folder name ++ ["_rels", file name ++ ".rels"])

/-- The name of a part in an archive. -/
def inArchive (name : String) : String :=
  (name.drop 1).toString

/-- The suffix of a name, without the dot. Dots that a name starts with do not count. -/
def suffix (name : String) : String :=
  let cs := (file name).toList.dropWhile (· == '.')
  let tail := cs.reverse.takeWhile (· != '.')
  if tail.length = cs.length then "" else .ofList tail.reverse

end PartName

/-! ## Reading -/

/-- The kinds of content, by the names of parts and by suffixes, all in small letters. -/
structure ContentTypes where
  byName : List (String × String)
  bySuffix : List (String × String)
  deriving Repr, Inhabited

namespace ContentTypes

/-- The value of an attribute that has to be there. -/
def required (n : Xml.Node) (word : String) : Except Fault String :=
  match n.attribute? (plain word) with
  | some v => .ok v
  | none => .error (.badMarkup ("required attribute " ++ word ++ " not present"))

/-- The kinds of content that a tree lists. -/
def ofTree (n : Xml.Node) : Except Fault ContentTypes := do
  let entry (key : String) (e : Xml.Node) : Except Fault (String × String) := do
    return ((← required e key).toLower, ← required e "ContentType")
  return ⟨← (n.childrenNamed (ct "Override")).mapM (entry "PartName"),
    ← (n.childrenNamed (ct "Default")).mapM (entry "Extension")⟩

/-- The kind of content of a part; of several the last one counts. -/
def find (t : ContentTypes) (name : String) : Except Fault String :=
  match (t.byName.reverse.lookup name.toLower).orElse fun _ =>
      t.bySuffix.reverse.lookup (PartName.suffix name).toLower with
  | some s => .ok s
  | none => .error (.noSuchKey name)

end ContentTypes

/-- The relationship that an element stands for, in the list of a part in a folder. -/
def Relationship.ofElement (folder : List String) (n : Xml.Node) : Except Fault Relationship := do
  let get (word : String) := n.attribute? (plain word)
  let target ← match get "Target" with
    | some t => .ok t
    | none => .error .wrongKind
  return {
    id := (get "Id").getD ""
    kind := (get "Type").getD ""
    target := if get "TargetMode" = some "External" then .external target
      else .part (PartName.ofReference folder target) }

/-- Relationships with one more, which takes the place of the one that has its identifier. -/
def Relationship.put (rs : List Relationship) (r : Relationship) : List Relationship :=
  if rs.any (·.id == r.id) then rs.map fun q => if q.id = r.id then r else q else rs ++ [r]

namespace Container

/-- The relationships of a part in an archive, or of the archive itself; without a list there are
    none. -/
def relationshipsOf (archive : Archive) (name : String) : Except Fault (List Relationship) :=
  match archive.read (PartName.inArchive (PartName.relationships name)) with
  | .error (.noSuchKey _) => .ok []
  | .error f => .error f
  | .ok bs => do
    let tree ← Xml.read bs
    let listed ← (tree.childrenNamed (rel "Relationship")).mapM
      (Relationship.ofElement (PartName.folder name))
    return listed.foldl Relationship.put []

/-- Adds the parts that relationships lead to, each followed by those that it leads to itself; parts
    that are there already are passed over. The parts on the way to one are different ones, so the
    depth is bounded by their number. -/
def reach (archive : Archive) (types : ContentTypes) :
    Nat → List Part → List Relationship → Except Fault (List Part)
  | 0, found, _ => .ok found
  | depth + 1, found, relationships =>
    relationships.foldlM (fun found r =>
      match r.target with
      | .external _ => .ok found
      | .part name =>
        if found.any (·.name == name) then .ok found
        else do
          let relationships ← relationshipsOf archive name
          let content ← archive.read (PartName.inArchive name)
          let mediaType ← types.find name
          if treeTypes.contains mediaType then let _ ← Xml.read content
          reach archive types depth (found ++ [{ name, mediaType, content, relationships }])
            relationships) found

/-- The container that some bytes are. -/
def read (bs : ByteArray) : Except Fault Container := do
  match Archive.open? bs with
  | none => .error (.malformed "not an archive")
  | some archive =>
    let types ← ContentTypes.ofTree (← Xml.read (← archive.read "[Content_Types].xml"))
    let relationships ← relationshipsOf archive "/"
    return ⟨relationships, ← reach archive types (archive.entries.length + 1) [] relationships⟩

/-! ## Parts and relationships -/

/-- The part of a name. -/
def part? (c : Container) (name : String) : Option Part :=
  c.parts.find? (·.name == name)

/-- The part that the only relationship of a kind leads to; there may be no other, and if there is
    none the result is none. -/
def related (c : Container) (relationships : List Relationship) (kind : String) :
    Except Fault (Option Part) :=
  match relationships.filter (·.kind == kind) with
  | [] => .ok none
  | [⟨_, _, .part name⟩] =>
    match c.part? name with
    | some p => .ok (some p)
    | none => .error (.noSuchKey name)
  | [⟨_, _, .external _⟩] =>
    .error (.badValue "a part is asked for, but the relationship leads outside")
  | _ => .error (.badValue ("several relationships of one kind: " ++ kind))

/-- The least number from a start on whose identifier is not taken. -/
def freeNumber (taken : Nat → Bool) (start : Nat) : Nat → Nat
  | 0 => start
  | fuel + 1 => if taken start then freeNumber taken (start + 1) fuel else start

/-- Relationships with one of a kind to a target among them, and its identifier. It is added only if
    it is not there already. -/
def relate (rs : List Relationship) (kind : String) (target : Target) :
    List Relationship × String :=
  match rs.find? fun r => r.kind == kind && r.target == target with
  | some r => (rs, r.id)
  | none =>
    let id (n : Nat) := "rId" ++ toString n
    let n := freeNumber (fun n => rs.any (·.id == id n)) 1 rs.length
    (rs ++ [⟨id n, kind, target⟩], id n)

/-! ## Writing -/

/-- The list of relationships of a part in a folder. An address has to be one that can be
    written. -/
def relationshipsTree (folder : List String) (rs : List Relationship) : Except Fault Xml.Node := do
  let entry (r : Relationship) : Except Fault Xml.Node := do
    let (target, mode) ← match r.target with
      | .part name => pure (PartName.reference folder name, [])
      | .external address => pure (← Xml.checked address, [(plain "TargetMode", "External")])
    return .element (rel "Relationship")
      ([(plain "Id", r.id), (plain "Type", r.kind), (plain "Target", target)] ++ mode) []
  return .element (rel "Relationships") [] (← rs.mapM entry)

/-- The list of the kinds of content. -/
def typesTree (c : Container) : Xml.Node :=
  let entry (word kind what content : String) : Xml.Node :=
    .element (ct word) [(plain kind, what), (plain "ContentType", content)] []
  .element (ct "Types") []
    (entry "Default" "Extension" "rels" relationshipsType ::
      c.parts.map fun p => entry "Override" "PartName" p.name p.mediaType)

/-- The files of a part: itself, and the list of its relationships if it has any. -/
def filesOf (p : Part) : Except Fault (List (String × ByteArray)) := do
  let own := [(PartName.inArchive p.name, p.content)]
  if p.relationships.isEmpty then return own
  let tree ← relationshipsTree (PartName.folder p.name) p.relationships
  return own ++ [(PartName.inArchive (PartName.relationships p.name), tree.bytes)]

/-- The bytes of a container. -/
def bytes (c : Container) : Except Fault ByteArray := do
  let tree ← relationshipsTree [] c.relationships
  let files ← c.parts.mapM filesOf
  return Archive.ofFiles
    ([("[Content_Types].xml", c.typesTree.bytes), ("_rels/.rels", tree.bytes)] ++ files.flatten)

end Container

end Manuscript.Docx
