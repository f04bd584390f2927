import Manuscript.Files
import Manuscript.Log

/-!
# Journals

A journal shows the records from a level on, in a style, and may add them to a file as well. The
file is created when the journal starts; if that cannot be done, the journal goes on without it and
says so.
-/

namespace Manuscript.Log

/-- Which records are shown, how, and the file that they are added to. -/
structure Journal where
  level : Int
  style : Style := .plain
  file : Option Path := none
  deriving DecidableEq, Repr, Inhabited

/-- The level of a name; a name without a level stands for that of what is done. -/
def levelOr (name : String) : Nat :=
  (level? name).getD info

/-- The origin of the records of the journal itself. -/
def rootOrigin : String := "root"

namespace Journal

/-- The lines of the records that are shown. -/
def lines (j : Journal) (time : String) (rs : List Record) : List Message :=
  (rs.filter fun r => decide (j.level ≤ r.level)).map fun r => r.written j.style time

/-- The bytes of lines. -/
def bytes (lines : List Message) : ByteArray :=
  (String.join (lines.map fun l => l.toText ++ "\n")).toUTF8

/-- The files after lines are added to the one at a path. -/
def addTo (fs : Files) (p : Path) (lines : List Message) : Except Refusal Files := do
  let before := match fs.find p with
    | .ok (.file content) => content
    | _ => .empty
  fs.write p (before ++ bytes lines)

/-- The files after lines are added to that of the journal. -/
def add (j : Journal) (fs : Files) (lines : List Message) : Except Refusal Files :=
  match j.file with
  | none => .ok fs
  | some p => addTo fs p lines

/-- A journal that has started: the files with its own, the lines that it shows, and those of them
    that it has added to its file. -/
structure Started where
  journal : Journal
  files : Files
  shown : List Message := []
  added : List Message := []
  deriving Inhabited

/-- Starts a journal that adds records to the file of a name, if there is one. -/
def start (j : Journal) (fs : Files) (time : String) (file : Option String) :
    Except Fault Started :=
  match file.filter (!·.isEmpty) with
  | none => .ok { journal := j, files := fs }
  | some name =>
    let p := Files.absolute (fs.spelled (.ofText name))
    let first := j.lines time [⟨info, rootOrigin, "Logging to file: " ++ name⟩]
    match addTo fs p first with
    | .ok fs =>
      .ok { journal := { j with file := some p }, files := fs, shown := first, added := first }
    | .error .badName => .error Refusal.badName.fault
    | .error r => .ok {
        journal := j
        files := fs
        shown := [{ text := "WARNING: could not open log file " ++ name ++ ": "
                    detail := some r.fault.message.toText }] }

end Journal

end Manuscript.Log
