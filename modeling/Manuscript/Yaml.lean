import Manuscript.Yaml.Meaning

/-!
# YAML

A text of YAML 1.1 is read as a value: cut into tokens, gathered into a tree, and its scalars read
as what they stand for. A mapping may take over the entries of others (`Tree.flat`); its own entries
override those. Texts that break the rules are refused with a `Fault.malformed`; a scalar that has
the form of a date or number but stands for none is another fault. What a collection holds is built
after all that stands beside it, which decides the fault of a text with several (`Tree.build`). A
collection that holds itself has no value here, and is refused.
-/

namespace Manuscript.Yaml

/-- The kind of a scalar: that of its tag, or what its text looks like. -/
def kind? (tag : Option String) (text : String) : Option Kind :=
  match tag with
  | none => some (impliedKind text)
  | some t => Kind.ofTag? t

namespace Tree

/-- Whether a tree is a scalar of a kind. -/
def isOfKind (k : Kind) : Tree → Bool
  | scalar tag text => kind? tag text == some k
  | _ => false

/-- The key of an entry. One that looks like the value of a mapping is plain text. -/
def asKey (t : Tree) : Tree :=
  match t with
  | scalar _ text => if t.isOfKind .value then scalar (some (standardTag "str")) text else t
  | _ => t

/-- The entries of a mapping, with those in front that it takes over. Of several mappings in one
    sequence, the first one overrides the others. -/
def flat : Nat → List (Tree × Tree) → Except Fault (List (Tree × Tree))
  | 0, _ => refuse "found too many levels"
  | fuel + 1, entries => do
    let (merges, own) := entries.partition (·.1.isOfKind .merge)
    let taken ← merges.mapM fun
      | (_, mapping _ entries) => flat fuel entries
      | (_, sequence _ items) => do
        let taken ← items.mapM fun
          | mapping _ entries => flat fuel entries
          | _ => refuse "expected a mapping for merging"
        return taken.reverse.flatten
      | _ => refuse "expected a mapping or list of mappings for merging"
    return taken.flatten ++ own.map fun (key, value) => (key.asKey, value)

end Tree

/-- What goes wrong when a value is built, layer by layer: what a collection holds is built only
    after all that stands beside the collection. -/
abbrev Layers := List (List Fault)

namespace Layers

/-- The layers of two values, of which the second one is built after the first. -/
def beside : Layers → Layers → Layers
  | [], ms => ms
  | ls, [] => ls
  | l :: ls, m :: ms => (l ++ m) :: beside ls ms

/-- The layers of a collection that holds some values. -/
def within (parts : List Layers) : Layers :=
  [] :: parts.foldl beside []

/-- A fault at once. -/
def now (f : Fault) : Layers := [[f]]

/-- A fault of a collection, before anything that it holds is built. -/
def later (why : String) : Layers := [[], [.malformed why]]

end Layers

namespace Tree

/-- The value that a tree stands for, and what goes wrong in building it. -/
def build : Nat → Tree → Value × Layers
  | 0, _ => (.null, .now (.malformed "found too many levels"))
  | fuel + 1, t =>
    let pairOf (isFit : Value → Bool) (k v : Tree) : (Value × Value) × Layers :=
      let key := build fuel k
      let unfit := if isFit key.1 then [] else Layers.now (.malformed "found unhashable key")
      let value := build fuel v
      ((key.1, value.1), (key.2.beside unfit).beside value.2)
    match t with
    | scalar tag text =>
      match kind? tag text with
      | none => (.null, .now (.malformed "could not determine a constructor for the tag"))
      | some k =>
        match readScalar k text with
        | .ok v => (v, [])
        | .error f => (.null, .now f)
    | sequence tag items =>
      if tag = standardTag "seq" then
        let parts := items.map (build fuel)
        (.list (parts.map (·.1)), .within (parts.map (·.2)))
      else if tag = standardTag "omap" ∨ tag = standardTag "pairs" then
        let parts := items.map fun
          | mapping _ [(k, v)] => pairOf (fun _ => true) k v
          | _ => ((.null, .null), .now (.malformed "expected a mapping of length 1"))
        (.list (parts.map fun ((k, v), _) => .list [k, v]), .within (parts.map (·.2)))
      else if tag = standardTag "map" ∨ tag = standardTag "set" then
        (.null, .later "expected a mapping node")
      else (.null, .now (.malformed "could not determine a constructor for the tag"))
    | mapping tag entries =>
      if tag = standardTag "map" ∨ tag = standardTag "set" then
        match flat fuel entries with
        | .error f => (.null, [[], [f]])
        | .ok entries =>
          let parts := entries.map fun (k, v) => pairOf Value.isKey k v
          let fields := parts.foldl (fun fields part => Value.put fields part.1.1 part.1.2) []
          let v := if tag = standardTag "map" then Value.map fields else .set (fields.map (·.1))
          (v, .within (parts.map (·.2)))
      else if tag = standardTag "seq" ∨ tag = standardTag "omap" ∨ tag = standardTag "pairs" then
        (.null, .later "expected a sequence")
      else (.null, .now (.malformed "could not determine a constructor for the tag"))

/-- The value that a tree of at most so many levels stands for. Of all that goes wrong the first is
    the fault. -/
def value (levels : Nat) (t : Tree) : Except Fault Value :=
  match build levels t with
  | (v, layers) =>
    match layers.flatten with
    | [] => .ok v
    | f :: _ => .error f

end Tree

/-- The value of a text: of its only document, or none if it is empty. -/
def read (text : String) : Except Fault Value := do
  let ts ← tokens text
  match ← Tree.ofTokens? ts with
  | none => return .null
  | some t => t.value (ts.length + 1)

end Manuscript.Yaml
