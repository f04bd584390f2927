import Manuscript.Yaml.Outline

/-!
# Trees of YAML

A document is a tree of scalars, sequences and mappings, each with a tag that says what it stands
for. A tag may be left out: a plain scalar then has none, and stands for what its text looks like.
An alias stands for the tree that its anchor names, which has to be complete by then.
-/

namespace Manuscript.Yaml

/-- A tree of scalars, sequences and mappings. A tag is an address; a plain scalar may have none. -/
inductive Tree
  | scalar (tag : Option String) (text : String)
  | sequence (tag : String) (items : List Tree)
  | mapping (tag : String) (entries : List (Tree × Tree))
  deriving Repr, Inhabited

/-- The tag of a standard kind of value. -/
def standardTag (name : String) : String :=
  "tag:yaml.org,2002:" ++ name

/-- Where a tree is read from: the tokens that follow, the beginnings that short forms of tags stand
    for, and the trees with a name so far. A name without a tree is that of one that is not
    complete. -/
structure Reader where
  tokens : List Token
  shorthands : List (String × String) := []
  anchors : List (String × Option Tree) := []
  deriving Inhabited

namespace Reader

/-- A step of reading. -/
abbrev Read := StateT Reader (Except Fault)

/-- The token that follows. -/
def peek : Read (Option Token) :=
  return (← get).tokens.head?

/-- Takes a token. -/
def drop : Read Unit :=
  modify fun r => { r with tokens := r.tokens.tail }

/-- Takes a token if it is the given one. -/
def take? (t : Token) : Read Bool := do
  if (← peek) = some t then
    drop
    return true
  else return false

/-- Takes a token that has to be the given one. -/
def expect (t : Token) : Read Unit := do
  if !(← take? t) then refuse "found an unexpected token"

/-- Whether one of some tokens follows. -/
def standsAt (ts : List Token) : Read Bool :=
  return (← peek).any ts.contains

/-- A scalar that is not there. -/
def absent : Tree :=
  .scalar none ""

/-- The address that a tag stands for. -/
def address (handle : Option String) (suffix : String) : Read String := do
  match handle with
  | none => return suffix
  | some h =>
    match (← get).shorthands.find? (·.1 == h) with
    | some (_, start) => return start ++ suffix
    | none => refuse "found undefined tag handle"

/-- Takes an anchor, if there is one. -/
def takeAnchor : Read (Option String) := do
  match ← peek with
  | some (.anchor name) => drop; return some name
  | _ => return none

/-- Takes a tag, if there is one. -/
def takeTag : Read (Option String) := do
  match ← peek with
  | some (.tag handle suffix) => drop; return some (← address handle suffix)
  | _ => return none

/-- Gives a name to a tree. -/
def setAnchor (name : Option String) (t : Option Tree) : Read Unit :=
  match name with
  | none => pure ()
  | some n => modify fun r => { r with anchors := (n, t) :: r.anchors.filter (·.1 != n) }

/-- The tree of a name. -/
def named (name : String) : Read Tree := do
  match (← get).anchors.find? (·.1 == name) with
  | some (_, some t) => return t
  | some (_, none) => refuse "found an alias within the value that it stands for"
  | none => refuse "found undefined alias"

/-- The tag of a sequence or mapping. -/
def collectionTag (tag : Option String) (name : String) : String :=
  match tag with
  | none => standardTag name
  | some t => if t = "!" then standardTag name else t

/-- The tag of a scalar: only a plain one may have none. -/
def scalarTag (tag : Option String) (plain : Bool) : Option String :=
  match tag with
  | none => if plain then none else some (standardTag "str")
  | some t => if t = "!" then none else some t

mutual

/-- Reads a tree. Blocks are only read where they may stand, and so are sequences of a block that
    are not indented. -/
def tree (block indentless : Bool) : Nat → Read Tree
  | 0 => refuse "found too many levels"
  | fuel + 1 => do
    match ← peek with
    | some (.alias name) => drop; named name
    | _ =>
      let first ← takeAnchor
      let tag ← takeTag
      let anchor ← if first.isSome then pure first else if tag.isSome then takeAnchor else pure none
      match anchor with
      | some a => if (← get).anchors.any (·.1 == a) then refuse "found duplicate anchor"
      | none => pure ()
      let collection (read : Read Tree) : Read Tree := do
        setAnchor anchor none
        let t ← read
        setAnchor anchor (some t)
        return t
      let sequence (items : Read (List Tree)) : Read Tree :=
        collection do return .sequence (collectionTag tag "seq") (← items)
      let mapping (entries : Read (List (Tree × Tree))) : Read Tree :=
        collection do return .mapping (collectionTag tag "map") (← entries)
      match ← peek with
      | some (.scalar text plain) =>
        drop
        let t := Tree.scalar (scalarTag tag plain) text
        setAnchor anchor (some t)
        return t
      | some .flowSequenceStart => drop; sequence (flowItems true fuel)
      | some .flowMappingStart => drop; mapping (flowEntries true fuel)
      | token =>
        if indentless ∧ token = some .blockEntry then sequence (indentlessItems fuel)
        else if block ∧ token = some .blockSequenceStart then
          drop
          sequence (blockItems fuel)
        else if block ∧ token = some .blockMappingStart then
          drop
          mapping (blockEntries fuel)
        else if anchor.isSome ∨ tag.isSome then
          let t := Tree.scalar (scalarTag tag true) ""
          setAnchor anchor (some t)
          return t
        else refuse "expected the node content"

/-- Reads a tree, or none if one of the tokens `stops` follows. -/
def treeUnless (stops : List Token) (block indentless : Bool) : Nat → Read Tree
  | 0 => refuse "found too many levels"
  | fuel + 1 => do
    if ← standsAt stops then return absent else tree block indentless fuel

/-- Reads the items of a sequence between brackets, and the closing bracket. -/
def flowItems (first : Bool) : Nat → Read (List Tree)
  | 0 => refuse "found too many levels"
  | fuel + 1 => do
    if ← take? .flowSequenceEnd then return []
    if !first then expect .flowEntry
    if ← take? .key then
      -- a single pair stands for a mapping
      let k ← treeUnless [.value, .flowEntry, .flowSequenceEnd] false false fuel
      let v ← if ← take? .value then
          treeUnless [.flowEntry, .flowSequenceEnd] false false fuel
        else pure absent
      return .mapping (standardTag "map") [(k, v)] :: (← flowItems false fuel)
    else if ← take? .flowSequenceEnd then return []
    else
      let t ← tree false false fuel
      return t :: (← flowItems false fuel)

/-- Reads the entries of a mapping between brackets, and the closing bracket. -/
def flowEntries (first : Bool) : Nat → Read (List (Tree × Tree))
  | 0 => refuse "found too many levels"
  | fuel + 1 => do
    if ← take? .flowMappingEnd then return []
    if !first then expect .flowEntry
    if ← take? .key then
      let k ← treeUnless [.value, .flowEntry, .flowMappingEnd] false false fuel
      let v ← if ← take? .value then
          treeUnless [.flowEntry, .flowMappingEnd] false false fuel
        else pure absent
      return (k, v) :: (← flowEntries false fuel)
    else if ← take? .flowMappingEnd then return []
    else
      let k ← tree false false fuel
      return (k, absent) :: (← flowEntries false fuel)

/-- Reads the items of a sequence of a block, and its end. -/
def blockItems : Nat → Read (List Tree)
  | 0 => refuse "found too many levels"
  | fuel + 1 => do
    if ← take? .blockEntry then
      let t ← treeUnless [.blockEntry, .blockEnd] true false fuel
      return t :: (← blockItems fuel)
    else
      expect .blockEnd
      return []

/-- Reads the items of a sequence that is not indented. -/
def indentlessItems : Nat → Read (List Tree)
  | 0 => refuse "found too many levels"
  | fuel + 1 => do
    if ← take? .blockEntry then
      let t ← treeUnless [.blockEntry, .key, .value, .blockEnd] true false fuel
      return t :: (← indentlessItems fuel)
    else return []

/-- Reads the entries of a mapping of a block, and its end. -/
def blockEntries : Nat → Read (List (Tree × Tree))
  | 0 => refuse "found too many levels"
  | fuel + 1 => do
    if ← take? .key then
      let stops : List Token := [.key, .value, .blockEnd]
      let k ← treeUnless stops true true fuel
      let v ← if ← take? .value then treeUnless stops true true fuel else pure absent
      return (k, v) :: (← blockEntries fuel)
    else
      expect .blockEnd
      return []

end

/-- Takes the directives at the head of a document. A version may be asked for once, and it has to
    be one of the first; a short form may be defined once. -/
def directives (version : Bool) (handles : List String) : List Token → Read (List Token)
  | .version major :: rest => do
    if version then refuse "found duplicate YAML directive"
    if major ≠ 1 then refuse "found incompatible YAML document"
    directives true handles rest
  | .shorthand handle start :: rest => do
    if handles.contains handle then refuse "duplicate tag handle"
    modify fun r => { r with shorthands := (handle, start) :: r.shorthands }
    directives version (handle :: handles) rest
  | .reserved :: rest => directives version handles rest
  | rest => return rest

/-- Whether a token is a directive. -/
def isDirective : Token → Bool
  | .version _ | .shorthand .. | .reserved => true
  | _ => false

/-- Reads a document, if there is one, and nothing may follow it. -/
def document : Read (Option Tree) := do
  let ts := (← get).tokens
  let fuel := 4 * ts.length + 4
  let explicit := ts.head?.any fun t => isDirective t || t == .documentStart
  if ts.isEmpty then return none
  if explicit then
    let rest ← directives false [] ts
    modify fun r => { r with tokens := rest }
    expect .documentStart
  let t ← if explicit then
      let ended := (← peek).all fun t => isDirective t || t == .documentStart || t == .documentEnd
      if ended then pure absent else tree true false fuel
    else tree true false fuel
  let rest := (← get).tokens.dropWhile (· == .documentEnd)
  if !rest.isEmpty then refuse "expected a single document in the stream"
  return some t

end Reader

/-- The tree of the only document in a text, or none if the text is empty. -/
def Tree.ofTokens? (ts : List Token) : Except Fault (Option Tree) := do
  let shorthands := [("!", "!"), ("!!", standardTag "")]
  return (← Reader.document.run { tokens := ts, shorthands }).1

end Manuscript.Yaml
