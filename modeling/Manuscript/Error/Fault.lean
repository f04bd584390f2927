import Manuscript.Message

/-!
# Faults

What can go wrong beneath the library: a value out of its range, a file that cannot be opened, bytes
that are no text. A fault is the cause of an error, or ends a task by itself where nothing turns it
into an error.
-/

namespace Manuscript

/-- Something that went wrong beneath the library. -/
inductive Fault
  /-- A value is outside of its range. -/
  | badValue (message : Message)
  /-- A value is of a kind that cannot be worked with. -/
  | wrongKind
  /-- A value lacks what is asked of it. -/
  | noSuchAttribute
  /-- Bytes are no text. -/
  | undecodable
  /-- The operating system refused, for a reason that has a number. -/
  | system (number : Nat) (reason : String)
  /-- A name is not there. -/
  | noSuchKey (key : String)
  /-- A place is not there. -/
  | noSuchPlace
  /-- A number is too large. -/
  | overflow
  /-- A package is not there. -/
  | noSuchPackage (name : String)
  /-- A file breaks the rules of its format. -/
  | malformed (detail : String)
  /-- An element of a tree lacks what it must have, or has something else in its place. -/
  | badMarkup (detail : String)
  deriving DecidableEq, Repr, Inhabited

namespace Fault

/-- The name that messages give to a fault. -/
def name : Fault → String
  | badValue _ => "ValueError"
  | wrongKind => "TypeError"
  | noSuchAttribute => "AttributeError"
  | undecodable => "UnicodeDecodeError"
  | system .. => "OSError"
  | noSuchKey _ => "KeyError"
  | noSuchPlace => "IndexError"
  | overflow => "OverflowError"
  | noSuchPackage _ => "ImportError"
  | malformed _ => "FormatError"
  | badMarkup _ => "InvalidXmlError"

/-- What a fault says. -/
def message : Fault → Message
  | badValue m => m
  | wrongKind => { text := "", detail := some "value of the wrong kind" }
  | noSuchAttribute => { text := "", detail := some "value without the attribute" }
  | undecodable => { text := "", detail := some "not valid UTF-8" }
  | system n d => { text := "[Errno ", detail := some (toString n ++ "] " ++ d) }
  | noSuchKey k => { text := "", detail := some ("no " ++ k) }
  | noSuchPlace => { text := "", detail := some "place out of range" }
  | overflow => { text := "", detail := some "number too large" }
  | noSuchPackage n => { text := "No module named '" ++ n ++ "'" }
  | malformed d => { text := "", detail := some d }
  | badMarkup d => { text := "", detail := some d }

/-- A fault as it is shown within a message: its name, and what it says in brackets. -/
def shown (f : Fault) : Message where
  text := f.name ++ "("
  detail := some (f.message.toText ++ ")")

end Fault

end Manuscript
