import Manuscript.Message

/-!
# Log records

A task leaves records behind. A record has a level, which is greater the more serious it is, and the
name of the part that it comes from. Levels have names; a name may be given in any case.
-/

namespace Manuscript.Log

/-- The levels that have a name, with their names; of several names of one level the first is
    shown. -/
def levels : List (String × Nat) :=
  [("CRITICAL", 50), ("FATAL", 50), ("ERROR", 40), ("WARNING", 30), ("WARN", 30), ("INFO", 20),
    ("DEBUG", 10), ("NOTSET", 0)]

/-- The level at which a task says what it has done. -/
def info : Nat := 20

/-- The level at which a task says what it could not do. -/
def warning : Nat := 30

/-- The level at which nothing is left out that a task says. -/
def debug : Nat := 10

/-- The capital of a letter. Two letters outside of the ASCII ones have a capital among them. -/
def capital (c : Char) : Char :=
  if c = 'ı' then 'I' else if c = 'ſ' then 'S' else c.toUpper

/-- A name in capitals. -/
def capitals (name : String) : String :=
  .ofList (name.toList.map capital)

/-- The level of a name. -/
def level? (name : String) : Option Nat :=
  (levels.find? fun l => l.1 == capitals name).map (·.2)

/-- The name of a level. -/
def levelName (level : Nat) : String :=
  ((levels.find? fun l => l.2 == level).map (·.1)).getD ("Level " ++ toString level)

/-- The level that is asked for on a command line: tracing shows everything, and so does a verbose
    run unless a level other than that of warnings is asked for by name. -/
def chosenLevel (name : String := "WARNING") (verbose trace : Bool := false) : Nat :=
  if trace || (verbose && capitals name == "WARNING") then debug else (level? name).getD warning

/-- A record. -/
structure Record where
  level : Nat
  /-- The part that the record comes from. -/
  origin : String
  message : Message
  deriving DecidableEq, Repr, Inhabited

/-- How a record is written: with its level only, or with the time and its origin as well. -/
inductive Style
  | plain
  | traced
  deriving DecidableEq, Repr, Inhabited

/-- The pattern of a style. -/
def Style.pattern : Style → String
  | plain => "%(levelname)s: %(message)s"
  | traced => "[%(asctime)s] [%(levelname)s] [%(name)s] %(message)s"

/-- A record as it is written at a time. -/
def Record.written (r : Record) (style : Style) (time : String) : Message :=
  match style with
  | .plain => r.message.after (levelName r.level ++ ": ")
  | .traced => r.message.after
    ("[" ++ time ++ "] [" ++ levelName r.level ++ "] [" ++ r.origin ++ "] ")

end Manuscript.Log
