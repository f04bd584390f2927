import Manuscript.CommandLine.Reach
import Std.Time

/-!
# The program

The outer layer: it learns what the run may look at, lets the run take place, and makes the changes
that come of it. All else is `CommandLine.run`.
-/

namespace Manuscript.Program

/-- Learns what is at a path, and what is on the way to it. Where there is a link, the place that it
    leads to in the end is learnt as well. -/
def learn (fs : Files) (p : Path) : IO Files := do
  let here ← IO.currentDir
  let steps := fs.start p ++ p.names
  let mut fs := fs
  for n in [0:steps.length + 1] do
    let names := fs.resolve (Files.absolute (steps.take n))
    let place := here / (Files.absolute names).text
    if ← place.pathExists then
      let real := (Path.ofText (← IO.FS.realPath place).toString).names
      let entry ← match (← place.metadata).type with
        | .dir => pure (.folder [])
        | .file => pure (.file (← IO.FS.readBinFile place))
        | _ => pure .device
      fs := fs.learn real entry
      if real ≠ names then fs := fs.learn names (.link real)
  return fs

/-- Learns what a run may look at. -/
def learnAll (w : CommandLine.World) (texts : List String) : IO CommandLine.World := do
  let mut w := w
  for _ in [0:CommandLine.rounds] do
    let mut fs := w.files
    for p in CommandLine.lookedAt w texts do
      fs ← learn fs p
    w := { w with files := fs }
  return w

/-- Makes the changes between two states of the files. -/
def change (old new : Files) : IO Unit := do
  let here ← IO.currentDir
  for (names, content) in Files.changes old new do
    let place := here / (Files.absolute names).text
    match content with
    | some bytes => IO.FS.writeBinFile place bytes
    | none => IO.FS.createDir place

/-- What a run can see before anything is learnt of the files. -/
def world (texts : List String) : IO CommandLine.World := do
  let working := (Path.ofText (← IO.currentDir).toString).names
  let home := (Path.ofText ((← IO.getEnv "HOME").getD "/")).names
  let input ← if CommandLine.readsInput texts then (← IO.getStdin).readBinToEnd else pure .empty
  let now ← Std.Time.PlainDateTime.now
  let start : Files := { working, home }
  return {
    files := ← learn (← learn start (Files.absolute working)) (Files.absolute home)
    environment := ← IO.getEnv "MD2DOCX_CONFIG"
    input
    time := now.format "uuuu-MM-dd HH:mm:ss" }

end Manuscript.Program

open Manuscript

/-- Runs the program with the texts of a command line. -/
def main (texts : List String) : IO UInt32 := do
  let w ← Program.learnAll (← Program.world texts) texts
  match CommandLine.run w texts with
  | .error (.error e) =>
    IO.eprintln ("Error: " ++ e.message.toText)
    return e.exitCode.toUInt32
  | .error (.fault f) =>
    IO.eprintln (f.name ++ ": " ++ f.message.toText)
    return 1
  | .ok o =>
    Program.change w.files o.files
    IO.print o.output
    for line in o.shown do IO.eprintln line.toText
    return o.code.toUInt32
