import Manuscript.Error.Fault

/-!
# Errors

The errors that the library reports. They form a family tree (`Error.Family.parent?`), and each
family has the code that a program ends with when one of its errors ends it
(`Error.Family.exitCode`).

A task that does not succeed ends with an error or with a fault that nothing turned into one
(`Failure`).
-/

namespace Manuscript

/-- The two sets of options. -/
inductive OptionSet
  | markdown
  | docx
  deriving DecidableEq, Repr, Inhabited

/-- The name that messages give to a set of options. -/
def OptionSet.name : OptionSet → String
  | markdown => "MarkdownParserOptions"
  | docx => "DocxRendererOptions"

/-- A package that is asked for: what it is installed as, and the versions that will do. -/
abbrev PackageRequest := String × String

/-- A package of a version that will not do: what it is installed as, the versions that will do, and
    the one that is there. -/
abbrev PackageMismatch := String × String × String

/-- What an error is about. -/
inductive Error.Kind
  | general
  | validation (parameter : Option String)
  | invalidOptions (component : String) (expected received : OptionSet)
  | config (path : Option String)
  | file (path : Option String)
  | fileNotFound (path : String)
  | fileAccess (path : String)
  | parsing (stage : Option String)
  | rendering (stage : Option String)
  | outputWrite (path : String)
  | dependency (component : String) (missing : List PackageRequest)
      (mismatches : List PackageMismatch)
  deriving DecidableEq, Repr, Inhabited

/-- An error: what it is about, what it says, and the fault that caused it, if there is one. -/
structure Error where
  kind : Error.Kind
  message : Message
  cause : Option Fault := none
  deriving DecidableEq, Repr, Inhabited

namespace Error

/-- The families of errors. -/
inductive Family
  | general | validation | invalidOptions | config | file | fileNotFound | fileAccess | parsing
  | rendering | outputWrite | dependency
  deriving DecidableEq, Repr, Inhabited

namespace Family

/-- The family that a family is part of. -/
def parent? : Family → Option Family
  | general => none
  | invalidOptions => some validation
  | fileNotFound | fileAccess => some file
  | outputWrite => some rendering
  | validation | config | file | parsing | rendering | dependency => some general

/-- A family and those that it is part of, the narrowest first. -/
def lineage (f : Family) : List Family :=
  let up (f : Family) : List Family := f.parent?.toList
  f :: up f ++ (up f).flatMap up

/-- The code that a program ends with after an error of a family. -/
def exitCode : Family → Nat
  | dependency => 2
  | validation | invalidOptions | config => 3
  | file | fileNotFound | fileAccess => 4
  | parsing => 6
  | rendering | outputWrite => 7
  | general => 1

end Family

/-- The family of what an error is about. -/
def Kind.family : Kind → Family
  | general => .general
  | validation _ => .validation
  | invalidOptions .. => .invalidOptions
  | config _ => .config
  | file _ => .file
  | fileNotFound _ => .fileNotFound
  | fileAccess _ => .fileAccess
  | parsing _ => .parsing
  | rendering _ => .rendering
  | outputWrite _ => .outputWrite
  | dependency .. => .dependency

/-- The code that a program ends with after an error. -/
def exitCode (e : Error) : Nat :=
  e.kind.family.exitCode

/-- What an error says when nothing else is said. -/
def Kind.defaultMessage : Kind → String
  | general | validation _ | config _ | file _ | parsing _ | rendering _ => ""
  | invalidOptions component expected received =>
    component ++ " expected options of type '" ++ expected.name ++ "' but received '" ++
      received.name ++ "'."
  | fileNotFound path => "File not found: " ++ path
  | fileAccess path => "Cannot access file: " ++ path
  | outputWrite path => "Failed to write output file: " ++ path
  | dependency component missing mismatches =>
    let request : PackageRequest → String
      | (name, versions) => "'" ++ name ++ versions ++ "'"
    let mismatch : PackageMismatch → String
      | (name, versions, installed) =>
        "'" ++ name ++ "' (requires " ++ versions ++ ", but " ++ installed ++ " is installed)"
    let argument : PackageRequest → String
      | (name, versions) => if versions.isEmpty then name else "\"" ++ name ++ versions ++ "\""
    let lacking := if missing.isEmpty then [] else
      [component ++ " requires the following packages: " ++ ", ".intercalate (missing.map request)]
    let unfit := if mismatches.isEmpty then [] else
      [component ++ " has version mismatches: " ++ ", ".intercalate (mismatches.map mismatch)]
    let wanted := missing ++ mismatches.map fun (name, versions, _) => (name, versions)
    "\n".intercalate (lacking ++ unfit) ++
      if wanted.isEmpty then ""
      else "\nInstall with: pip install --upgrade " ++ " ".intercalate (wanted.map argument)

/-- An error that says what its kind says. -/
def ofKind (kind : Kind) (cause : Option Fault := none) : Error where
  kind := kind
  message := { text := kind.defaultMessage }
  cause := cause

end Error

/-- How a task fails. -/
inductive Failure
  /-- With an error of the library. -/
  | error (e : Error)
  /-- With a fault that nothing turned into an error. -/
  | fault (f : Fault)
  deriving DecidableEq, Repr, Inhabited

instance : Coe Error Failure := ⟨.error⟩

instance : Coe Fault Failure := ⟨.fault⟩

end Manuscript
