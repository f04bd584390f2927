import Manuscript.CommandLine.Word
import Manuscript.Text.Quoted

/-!
# Arguments of a command line

The arguments are one document and what the switches ask for (`Arguments.read`). Switches are obeyed
from left to right, so that asking for help wins over a mistake further on; only a word that could
mean several switches is refused before all else. What cannot be used is refused at the end, all at
once.
-/

namespace Manuscript.CommandLine

/-- The arguments of a conversion. -/
structure Arguments where
  input : String
  output : Option String := none
  config : Option String := none
  template : Option String := none
  noNativeHyperlinks : Bool := false
  noNumberLists : Bool := false
  logLevel : String := "WARNING"
  verbose : Bool := false
  trace : Bool := false
  logFile : Option String := none
  deriving DecidableEq, Repr, Inhabited

/-- Why there is nothing to convert. -/
inductive Ending
  | help
  | version
  | misuse (why : String)
  deriving DecidableEq, Repr, Inhabited

namespace Arguments

/-- What is wrong with the use of a switch. -/
def misused (s : Switch) (why : String) : Ending :=
  .misuse ("argument " ++ s.name ++ ": " ++ why)

/-- The arguments read so far: the document if it was given, what was asked for, and the words that
    could not be used. -/
structure Progress where
  input : Option String := none
  arguments : Arguments := { input := "" }
  unused : List String := []
  deriving Repr, Inhabited

namespace Progress

/-- Obeys a switch. -/
def obey (p : Progress) (s : Switch) (value : String) : Except Ending Progress :=
  let a := p.arguments
  let set (a : Arguments) : Except Ending Progress := .ok { p with arguments := a }
  match s with
  | .help => .error .help
  | .version => .error .version
  | .output => set { a with output := some value }
  | .config => set { a with config := some value }
  | .template => set { a with template := some value }
  | .noNativeHyperlinks => set { a with noNativeHyperlinks := true }
  | .noNumberLists => set { a with noNumberLists := true }
  | .verbose => set { a with verbose := true }
  | .trace => set { a with trace := true }
  | .logFile => set { a with logFile := some value }
  | .logLevel =>
    if Switch.levels.contains value then set { a with logLevel := value }
    else .error (misused s ("invalid choice: " ++ Text.quoted value ++ " (choose from " ++
      ", ".intercalate (Switch.levels.map Text.quoted) ++ ")"))

/-- Obeys switches, each with its value, one after another. -/
def obeyAll (p : Progress) (ss : List (Switch × String)) : Except Ending Progress :=
  ss.foldlM (fun p (s, value) => p.obey s value) p

/-- Takes a word as the document, unless there is one already. -/
def take (p : Progress) (s : String) : Progress :=
  match p.input with
  | none => { p with input := some s }
  | some _ => { p with unused := p.unused ++ [s] }

/-- Keeps a word as one that could not be used. -/
def leave (p : Progress) (s : String) : Progress :=
  { p with unused := p.unused ++ [s] }

end Progress

/-- What a word asks for: switches with their values, perhaps one more whose value is the next word,
    and letters that are no switches. -/
structure Request where
  complete : List (Switch × String) := []
  waiting : Option Switch := none
  unused : List String := []
  deriving DecidableEq, Repr, Inhabited

/-- The request for one more switch before others. -/
def Request.before (r : Request) (s : Switch) : Request :=
  { r with complete := (s, "") :: r.complete }

/-- What is asked for by letters joined to that of a switch. -/
def joinedRequest (s : Switch) : List Char → Except Ending Request
  | [] => .ok (if s.takesValue then { waiting := some s } else { complete := [(s, "")] })
  | c :: cs =>
    if s.takesValue then .ok { complete := [(s, .ofList (if c = '=' then cs else c :: cs))] }
    else if c = '=' then
      .error (misused s ("ignored explicit argument " ++ Text.quoted (.ofList cs)))
    else if c = '-' then
      .error (misused s ("ignored explicit argument " ++ Text.quoted (.ofList (c :: cs))))
    else match Switch.ofSpelling? (.ofList ['-', c]) with
      | some next => return (← joinedRequest next cs).before s
      | none => .ok { complete := [(s, "")], unused := [.ofList ('-' :: c :: cs)] }

/-- What is asked for by a switch and what is attached to it. -/
def request (s : Switch) (attached : Attached) : Except Ending Request :=
  match attached with
  | .nothing => .ok (if s.takesValue then { waiting := some s } else { complete := [(s, "")] })
  | .value v =>
    if s.takesValue then .ok { complete := [(s, v)] }
    else .error (misused s ("ignored explicit argument " ++ Text.quoted v))
  | .joined v => joinedRequest s v.toList

/-- Reads words, from left to right. -/
def readWords (p : Progress) : List Word → Except Ending Progress
  | [] => .ok p
  | .unknown s :: ws => readWords (p.leave s) ws
  | .switch s _ attached :: ws => do
    let r ← request s attached
    match r.waiting, ws with
    | none, ws =>
      let p ← p.obeyAll r.complete
      readWords { p with unused := p.unused ++ r.unused } ws
    | some last, .value v :: ws => do readWords (← p.obeyAll (r.complete ++ [(last, v)])) ws
    | some last, _ => throw (misused last "expected one argument")
  | .value s :: .divider :: ws =>
    -- the divider goes with the document that it follows
    readWords (if p.input.isNone then p.take s else (p.leave s).leave "--") ws
  | .value s :: ws => readWords (p.take s) ws
  | .divider :: .value s :: ws =>
    readWords (if p.input.isNone then p.take s else (p.leave "--").leave s) ws
  | .divider :: ws => readWords (p.leave "--") ws

/-- The arguments that a command line gives. -/
def read (texts : List String) : Except Ending Arguments := do
  let words ← (Word.ofTexts texts).mapError .misuse
  let p ← readWords {} words
  match p.input with
  | none => throw (.misuse "the following arguments are required: input")
  | some input =>
    if !p.unused.isEmpty then
      throw (.misuse ("unrecognized arguments: " ++ " ".intercalate p.unused))
    return { p.arguments with input }

end Arguments

end Manuscript.CommandLine
