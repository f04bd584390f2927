import Manuscript.Error
import Manuscript.Log

/-!
# Jobs

A job leaves log records behind and ends with a result or a failure; the records stay when it fails.
-/

namespace Manuscript

/-- A computation that leaves records behind and may fail. -/
abbrev Job := ExceptT Failure (StateM (List Log.Record))

namespace Job

/-- Leaves a record behind. -/
def record (level : Nat) (origin : String) (m : Message) : Job Unit :=
  modify (· ++ [⟨level, origin, m⟩])

/-- Says what could not be done. -/
def warn (origin : String) (m : Message) : Job Unit :=
  record Log.warning origin m

/-- Ends with an error. -/
def refuse (e : Error) : Job α :=
  throw (.error e)

/-- The result of a computation without records. -/
def of (x : Except Failure α) : Job α :=
  match x with
  | .ok a => pure a
  | .error e => throw e

/-- The result of a computation that may end with a fault. -/
def ofFault (x : Except Fault α) : Job α :=
  of (x.mapError .fault)

/-- The result of a job and the records that it leaves behind. -/
def result (j : Job α) : Except Failure α × List Log.Record :=
  j.run.run []

end Job

end Manuscript
