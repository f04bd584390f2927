import Manuscript.Error
import Manuscript.Version.Scheme

/-!
# Packages

A component may ask for packages: modules that can be loaded, of versions in a range. A package
without a known version is taken to be of a version that will do, and so is one whose version or
range cannot be read. How versions are compared is for a scheme to say, and what can be loaded, for
the installation. Where these fail, so does the look at the packages.
-/

namespace Manuscript.Package

/-- What comes of loading a module. -/
inductive Load
  | loaded
  /-- There is no such module, or one that it needs, for this reason. -/
  | missing (cause : Fault)
  /-- Loading breaks off with a fault of another kind. -/
  | broken (f : Fault)
  deriving DecidableEq, Repr

/-- What is installed: what comes of loading the module of a name, and the version of a package,
    which is not known of all packages. -/
structure Installed where
  moduleOf : String → Load
  versionOf : String → Except Fault (Option String)

namespace Installed

/-- What is installed if some modules can be loaded, and the versions of some packages are known by
    their names. -/
def listed (modules : List String) (versions : List (String × String)) : Installed where
  moduleOf n := if modules.contains n then .loaded else .missing (.noSuchPackage n)
  versionOf package := .ok ((versions.find? (·.1 == package)).map (·.2))

/-- Loads the module of a name. A name that begins with a point is relative to another one, which is
    not given here. -/
def load (i : Installed) (moduleName : String) : Load :=
  match moduleName.toList with
  | [] => .broken (.badValue "Empty module name")
  | '.' :: _ => .broken .wrongKind
  | _ => i.moduleOf moduleName

/-- The installed version of a package. -/
def version? (i : Installed) (package : String) : Except Fault (Option String) :=
  if package = "" then .error (.badValue "A distribution name is required.")
  else i.versionOf package

end Installed

/-- A package that is asked for: the name that it is installed under, that of its module, and the
    range of versions. An empty range stands for all versions. -/
structure Requirement where
  package : String
  moduleName : String
  range : String
  deriving DecidableEq, Repr

/-- Whether the installed version of a package is in a range, and that version. -/
def check (S : Scheme) (i : Installed) (package range : String) :
    Except Fault (Bool × Option String) := do
  match ← i.version? package with
  | none => return (false, none)
  | some s => return ((← S.isWithin? s range).getD true, some s)

/-- What is wrong with the packages of a list: those whose module cannot be loaded, and those of a
    version that will not do. -/
structure Lack where
  missing : List PackageRequest := []
  mismatches : List PackageMismatch := []
  /-- Why the first module could not be loaded. -/
  firstCause : Option Fault := none
  deriving DecidableEq, Repr

namespace Lack

/-- Looks at one more package, and notes what is wrong with it. -/
def note (S : Scheme) (i : Installed) (l : Lack) (r : Requirement) : Except Fault Lack := do
  match i.load r.moduleName with
  | .broken f => throw f
  | .missing cause =>
    return { l with
      missing := l.missing ++ [(r.package, r.range)], firstCause := l.firstCause.or (some cause) }
  | .loaded =>
    if r.range.isEmpty then return l
    match ← check S i r.package r.range with
    | (false, some v) => return { l with mismatches := l.mismatches ++ [(r.package, r.range, v)] }
    | _ => return l

/-- The error of a component that does not work because of what is wrong with its packages. -/
def error (l : Lack) (component : String) : Error :=
  .ofKind (.dependency component l.missing l.mismatches) l.firstCause

end Lack

/-- What is wrong with the packages of a list, in its order. -/
def lack (S : Scheme) (i : Installed) (rs : List Requirement) : Except Fault Lack :=
  rs.foldlM (Lack.note S i) {}

/-- A function of a component that asks for packages. The packages are looked at in each call, and
    the function is left alone if something is wrong with them. -/
def requiring [MonadExcept Failure m] (S : Scheme) (i : Installed) (component : String)
    (rs : List Requirement) (f : α → m β) (a : α) : m β :=
  match lack S i rs with
  | .error fault => throw (.fault fault)
  | .ok l =>
    if l.missing.isEmpty && l.mismatches.isEmpty then f a else throw (.error (l.error component))

end Manuscript.Package
