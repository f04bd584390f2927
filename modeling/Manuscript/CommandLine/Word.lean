import Manuscript.CommandLine.Switch
import Manuscript.Text.Digit
import Manuscript.Text.Lines

/-!
# Words of a command line

A word is a value, or it asks for a switch. A long spelling may be cut short as long as only one
switch is meant, and a value may be attached to a word: after an equals sign, or right after the
letter of a short spelling. Two dashes by themselves make values of all words after them; numbers
below zero, words with a space in them and a single dash are values anyway.
-/

namespace Manuscript.CommandLine

/-- What is attached to a spelling within its word. -/
inductive Attached
  | nothing
  /-- It follows an equals sign. -/
  | value (s : String)
  /-- It follows the letter of a short spelling. -/
  | joined (s : String)
  deriving DecidableEq, Repr, Inhabited

/-- A word of a command line. -/
inductive Word
  | value (s : String)
  /-- Two dashes, the first time. -/
  | divider
  | switch (s : Switch) (spelling : String) (attached : Attached)
  /-- A word that asks for a switch that there is none of. -/
  | unknown (s : String)
  deriving DecidableEq, Repr, Inhabited

namespace Word

/-- The spelling in a word, and what follows an equals sign in it. -/
def split (s : String) : String × Attached :=
  let cs := s.toList
  let lead := cs.takeWhile (· != '=')
  if lead.length = cs.length then (s, .nothing)
  else (.ofList lead, .value (.ofList (cs.drop (lead.length + 1))))

/-- The readings of a word that is no spelling by itself, each with the spelling that is meant. -/
def readings (s : String) : List Word :=
  if s.startsWith "--" then
    let (lead, attached) := split s
    (Switch.spelled.filter fun t => t.1.startsWith lead).map fun t => switch t.2 t.1 attached
  else
    let short := String.ofList (s.toList.take 2)
    Switch.spelled.filterMap fun t =>
      if t.1 = short then some (switch t.2 t.1 (.joined (.ofList (s.toList.drop 2))))
      else if t.1.startsWith s then some (switch t.2 t.1 .nothing)
      else none

/-- The spelling that a reading takes to be meant. -/
def spelling : Word → String
  | switch _ s _ => s
  | value s | unknown s => s
  | divider => "--"

/-- Whether a word is a number below zero: digits after a dash, with at most one point that digits
    follow. -/
def isNegative (s : String) : Bool :=
  let isDigit (c : Char) : Bool := (Text.digitValue? c).isSome
  match s.toList with
  | '-' :: cs =>
    let cs := if cs.getLast? = some '\n' then cs.dropLast else cs
    match cs.dropWhile isDigit with
    | [] => !cs.isEmpty
    | '.' :: fraction => !fraction.isEmpty && fraction.all isDigit
    | _ => false
  | _ => false

/-- The word that a text is; the message says why it is none. -/
def ofText (s : String) : Except String Word :=
  match s.toList with
  | [] | ['-'] => .ok (value s)
  | '-' :: _ =>
    match Switch.ofSpelling? s with
    | some found => .ok (switch found s .nothing)
    | none =>
      let (lead, attached) := split s
      match (if attached = .nothing then none else Switch.ofSpelling? lead), readings s with
      | some found, _ => .ok (switch found lead attached)
      | none, [reading] => .ok reading
      | none, [] =>
        if isNegative s ∨ s.toList.contains ' ' then .ok (value s) else .ok (unknown s)
      | none, several => .error ("ambiguous option: " ++ s ++ " could match " ++
          ", ".intercalate (several.map spelling))
  | _ => .ok (value s)

/-- The words of some texts. -/
def ofTexts : List String → Except String (List Word)
  | [] => .ok []
  | s :: rest => do
    if s = "--" then return divider :: rest.map value
    let first ← ofText s
    return first :: (← ofTexts rest)

end Word

end Manuscript.CommandLine
