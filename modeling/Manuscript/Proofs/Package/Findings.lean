import Manuscript.Package
import Mathlib.Data.List.Forall2

/-!
# What is found about packages

Of each package that a component asks for, one of these things is found: it is missing, it is of a
version that will not do, it is suitable, or the look at it breaks off (`Finding`). The rules that
say which (`Finds`) do not speak of the order in which the packages of a list are looked at. They
leave no package out and never say two things of one (`exists_finds`, `Finds.unique`), whatever the
scheme of versions and whatever is installed.

Looking at one more package notes what is found about it and nothing else (`Finds.note_eq`), so what
is noted about a list is what is found about its packages, in its order, unless the look at one of
them breaks off (`foldlM_note`). A function that asks for packages is called if all of them are
suitable, and only then (`lack_classifies`).
-/

namespace Manuscript.Package

/-- What there is to be found about a package. -/
inductive Finding
  /-- Its module is not there, for this reason. -/
  | missing (cause : Fault)
  /-- This version of it is installed, and it will not do. -/
  | mismatched (version : String)
  | suitable
  /-- The look at it breaks off with a fault. -/
  | broken (fault : Fault)
  deriving DecidableEq

namespace Finding

/-- What a finding adds to the missing packages. -/
@[simp]
def request? (r : Requirement) : Finding → Option PackageRequest
  | missing _ => some (r.package, r.range)
  | mismatched _ | suitable | broken _ => none

/-- What a finding adds to the packages of versions that will not do. -/
@[simp]
def mismatch? (r : Requirement) : Finding → Option PackageMismatch
  | mismatched version => some (r.package, r.range, version)
  | missing _ | suitable | broken _ => none

/-- Why the module of a package that is found missing is not there. -/
@[simp]
def cause? : Finding → Option Fault
  | missing cause => some cause
  | mismatched _ | suitable | broken _ => none

/-- The fault that the look at a package breaks off with. -/
@[simp]
def fault? : Finding → Option Fault
  | broken fault => some fault
  | missing _ | mismatched _ | suitable => none

end Finding

variable {S : Scheme} {i : Installed} {r : Requirement} {f g : Finding} {rs : List Requirement}
  {fs gs : List Finding}

/-- A package whose module can be loaded is of a version that is to be compared with a range. -/
structure IsCompared (i : Installed) (r : Requirement) (version : String) : Prop where
  load : i.load r.moduleName = .loaded
  range : r.range ≠ ""
  known : i.version? r.package = .ok (some version)

/-- The look at a package breaks off: as its module is loaded, as its version is looked up, as that
    version or the range is read, or as they are compared. -/
inductive Breaks (S : Scheme) (i : Installed) (r : Requirement) : Fault → Prop
  | load {fault : Fault} : i.load r.moduleName = .broken fault → Breaks S i r fault
  | lookup {fault : Fault} : i.load r.moduleName = .loaded → r.range ≠ "" →
      i.version? r.package = .error fault → Breaks S i r fault
  | version {s : String} {fault : Fault} : IsCompared i r s → S.version s = .error fault →
      Breaks S i r fault
  | range {s : String} {v : S.Version} {fault : Fault} : IsCompared i r s →
      S.version s = .ok (some v) → S.range r.range = .error fault → Breaks S i r fault
  | comparison {s : String} {v : S.Version} {range : S.Range} {fault : Fault} : IsCompared i r s →
      S.version s = .ok (some v) → S.range r.range = .ok (some range) →
      S.contains range v = .error fault → Breaks S i r fault

/-- What is found about a package. One whose module can be loaded will do unless its range is not
    empty, its version is known, both can be read, and the version is outside of the range. -/
inductive Finds (S : Scheme) (i : Installed) (r : Requirement) : Finding → Prop
  | missing {cause : Fault} : i.load r.moduleName = .missing cause → Finds S i r (.missing cause)
  | mismatched {s : String} {v : S.Version} {range : S.Range} : IsCompared i r s →
      S.version s = .ok (some v) → S.range r.range = .ok (some range) →
      S.contains range v = .ok false → Finds S i r (.mismatched s)
  | anyVersion : i.load r.moduleName = .loaded → r.range = "" → Finds S i r .suitable
  | unknownVersion : i.load r.moduleName = .loaded → r.range ≠ "" →
      i.version? r.package = .ok none → Finds S i r .suitable
  | noVersion {s : String} : IsCompared i r s → S.version s = .ok none → Finds S i r .suitable
  | noRange {s : String} {v : S.Version} : IsCompared i r s → S.version s = .ok (some v) →
      S.range r.range = .ok none → Finds S i r .suitable
  | inRange {s : String} {v : S.Version} {range : S.Range} : IsCompared i r s →
      S.version s = .ok (some v) → S.range r.range = .ok (some range) →
      S.contains range v = .ok true → Finds S i r .suitable
  | broken {fault : Fault} : Breaks S i r fault → Finds S i r (.broken fault)

/-- Something is found about a package whose version is to be compared. -/
theorem IsCompared.exists_finds {s : String} (h : IsCompared i r s) : ∃ f, Finds S i r f := by
  match hv : S.version s with
  | .error _ => exact ⟨_, .broken (.version h hv)⟩
  | .ok none => exact ⟨_, .noVersion h hv⟩
  | .ok (some v) =>
    match hr : S.range r.range with
    | .error _ => exact ⟨_, .broken (.range h hv hr)⟩
    | .ok none => exact ⟨_, .noRange h hv hr⟩
    | .ok (some range) =>
      match hin : S.contains range v with
      | .error _ => exact ⟨_, .broken (.comparison h hv hr hin)⟩
      | .ok true => exact ⟨_, .inRange h hv hr hin⟩
      | .ok false => exact ⟨_, .mismatched h hv hr hin⟩

/-- Something is found about each package. -/
theorem exists_finds (S : Scheme) (i : Installed) (r : Requirement) : ∃ f, Finds S i r f := by
  match hload : i.load r.moduleName with
  | .broken _ => exact ⟨_, .broken (.load hload)⟩
  | .missing _ => exact ⟨_, .missing hload⟩
  | .loaded =>
    by_cases hrange : r.range = ""
    · exact ⟨_, .anyVersion hload hrange⟩
    match hknown : i.version? r.package with
    | .error _ => exact ⟨_, .broken (.lookup hload hrange hknown)⟩
    | .ok none => exact ⟨_, .unknownVersion hload hrange hknown⟩
    | .ok (some _) => exact IsCompared.exists_finds ⟨hload, hrange, hknown⟩

/-! ## One package -/

section Comparison

variable {s : String} {v : S.Version} {range : S.Range} {fault : Fault}

theorem isWithin?_of_readable (hv : S.version s = .ok (some v))
    (hr : S.range r.range = .ok (some range)) :
    S.isWithin? s r.range = (S.contains range v).map some := by
  rw [Scheme.isWithin?, hv, hr]
  rfl

theorem isWithin?_of_noVersion (hv : S.version s = .ok none) :
    S.isWithin? s r.range = .ok none := by
  rw [Scheme.isWithin?, hv]
  rfl

theorem isWithin?_of_noRange (hv : S.version s = .ok (some v)) (hr : S.range r.range = .ok none) :
    S.isWithin? s r.range = .ok none := by
  rw [Scheme.isWithin?, hv, hr]
  rfl

/-- Looking at a package whose version is to be compared depends on the comparison only. -/
theorem IsCompared.note_eq (h : IsCompared i r s) (l : Lack) :
    l.note S i r = (S.isWithin? s r.range).map fun within =>
      if within = some false then
        { l with mismatches := l.mismatches ++ [(r.package, r.range, s)] }
      else l := by
  have hrange : r.range.isEmpty = false := by simpa using h.range
  have hcheck : check S i r.package r.range =
      (S.isWithin? s r.range).map fun within => (within.getD true, some s) := by
    rw [check, h.known]
    rfl
  rw [Lack.note, h.load, hcheck]
  simp only [hrange]
  cases S.isWithin? s r.range with
  | error fault => rfl
  | ok within =>
    cases within with
    | none => rfl
    | some yes => cases yes <;> rfl

/-- If the look at a package breaks off, nothing is noted. -/
theorem Breaks.note_eq (h : Breaks S i r fault) (l : Lack) : l.note S i r = .error fault := by
  cases h with
  | load hload =>
    rw [Lack.note, hload]
    rfl
  | lookup hload hrange hknown =>
    simp [Lack.note, hload, hrange, check, hknown, bind, Except.bind]
  | version h hv =>
    rw [h.note_eq, Scheme.isWithin?, hv]
    rfl
  | range h hv hr =>
    rw [h.note_eq, Scheme.isWithin?, hv, hr]
    rfl
  | comparison h hv hr hin =>
    rw [h.note_eq, isWithin?_of_readable hv hr, hin]
    rfl

end Comparison

/-- Looking at a package notes what is found about it, behind what is noted already. -/
theorem Finds.note_eq (h : Finds S i r f) (l : Lack) :
    l.note S i r =
      match f.fault? with
      | some fault => .error fault
      | none => .ok
        { missing := l.missing ++ (f.request? r).toList
          mismatches := l.mismatches ++ (f.mismatch? r).toList
          firstCause := l.firstCause.or f.cause? } := by
  cases h with
  | missing hload => simp [Lack.note, hload, pure, Except.pure]
  | mismatched h hv hr hin =>
    simp [h.note_eq, isWithin?_of_readable hv hr, hin, Except.map]
  | anyVersion hload hrange => simp [Lack.note, hload, hrange, pure, Except.pure]
  | unknownVersion hload hrange hknown =>
    simp [Lack.note, hload, hrange, check, hknown, bind, Except.bind, pure, Except.pure]
  | noVersion h hv => simp [h.note_eq, isWithin?_of_noVersion hv, Except.map]
  | noRange h hv hr => simp [h.note_eq, isWithin?_of_noRange hv hr, Except.map]
  | inRange h hv hr hin => simp [h.note_eq, isWithin?_of_readable hv hr, hin, Except.map]
  | broken h => exact h.note_eq l

/-- Only one thing is found about a package: it is what the look at the package notes. -/
theorem Finds.unique (hf : Finds S i r f) (hg : Finds S i r g) : f = g := by
  have h := (hf.note_eq {}).symm.trans (hg.note_eq {})
  cases f <;> cases g <;> simp_all

/-! ## The packages of a list -/

theorem exists_forall₂_finds (S : Scheme) (i : Installed) (rs : List Requirement) :
    ∃ fs, List.Forall₂ (Finds S i) rs fs := by
  choose found hfound using exists_finds S i
  exact ⟨rs.map found, List.forall₂_map_right_iff.2 (List.forall₂_same.2 fun r _ => hfound r)⟩

theorem forall₂_finds_unique (hf : List.Forall₂ (Finds S i) rs fs)
    (hg : List.Forall₂ (Finds S i) rs gs) : fs = gs :=
  Relator.RightUnique.forall₂ (fun _ _ _ h h' => h.unique h') hf hg

/-- Looking at the packages of a list one after another notes what is found about each of them, and
    breaks off where the look at one of them does first. -/
theorem foldlM_note (h : List.Forall₂ (Finds S i) rs fs) (l : Lack) :
    rs.foldlM (Lack.note S i) l =
      match fs.findSome? Finding.fault? with
      | some fault => .error fault
      | none => .ok
        { missing := l.missing ++ (rs.zip fs).filterMap fun p => p.2.request? p.1
          mismatches := l.mismatches ++ (rs.zip fs).filterMap fun p => p.2.mismatch? p.1
          firstCause := l.firstCause.or (fs.findSome? Finding.cause?) } := by
  induction h generalizing l with
  | nil => simp [pure, Except.pure]
  | @cons r f rs fs hf _ ih =>
    rw [List.foldlM_cons, hf.note_eq]
    cases f with
    | broken fault => rfl
    | missing | mismatched | suitable => simp [bind, Except.bind, ih, List.findSome?_cons]

/-- Nothing is found wrong with the packages of a list if all of them are suitable, and only
    then. -/
theorem forall_suitable_iff (h : List.Forall₂ (Finds S i) rs fs) :
    fs.findSome? Finding.fault? = none ∧ ((rs.zip fs).filterMap fun p => p.2.request? p.1) = [] ∧
      ((rs.zip fs).filterMap fun p => p.2.mismatch? p.1) = [] ↔ ∀ f ∈ fs, f = .suitable := by
  induction h with
  | nil => simp
  | @cons r f rs fs _ _ ih => cases f <;> simp_all

/-! ## Calls -/

section Calls

variable {α β : Type} {m : Type → Type} [MonadExcept Failure m] {component : String} {l : Lack}

theorem requiring_of_nil (hl : lack S i rs = .ok l) (h : l.missing = [] ∧ l.mismatches = [])
    (f : α → m β) (a : α) : requiring S i component rs f a = f a := by
  simp [requiring, hl, h]

theorem requiring_of_ne_nil (hl : lack S i rs = .ok l)
    (h : ¬ (l.missing = [] ∧ l.mismatches = [])) (f : α → m β) (a : α) :
    requiring S i component rs f a = throw (.error (l.error component)) := by
  simp [requiring, hl, h]

/-- A function that leaves a record of each call: the argument that it was called with. -/
def recorded (f : α → Except Failure β) (a : α) : ExceptT Failure (StateM (List α)) β := do
  modify (· ++ [a])
  liftExcept (f a)

theorem run_recorded (f : α → Except Failure β) (a : α) (calls : List α) :
    (recorded f a).run.run calls = (f a, calls ++ [a]) := by
  rw [recorded]
  cases f a <;> rfl

end Calls

/-- What is noted about a list of packages is what is found about each of them, one thing about each
    and in the order of the list, with the reason for the first one that is missing. A function that
    asks for these packages is called if nothing is noted, once and with its own argument, and its
    end is that of the call. Otherwise it is not called, and the error tells all that is noted.

    If the look at a package breaks off, so does the look at the list, with the fault of the first
    such package, and a function that asks for the packages ends with that fault, without a call. -/
theorem lack_classifies (S : Scheme) (i : Installed) (rs : List Requirement) :
    ∃ fs, List.Forall₂ (Finds S i) rs fs ∧ (∀ gs, List.Forall₂ (Finds S i) rs gs → gs = fs) ∧
      (∀ fault, fs.findSome? Finding.fault? = some fault →
        lack S i rs = .error fault ∧
          ∀ {α β : Type} (component : String) (f : α → Except Failure β) (a : α) (calls : List α),
            (requiring S i component rs (recorded f) a).run.run calls =
              (.error (.fault fault), calls)) ∧
      (fs.findSome? Finding.fault? = none →
        ∃ l, lack S i rs = .ok l ∧
          l.missing = (rs.zip fs).filterMap (fun p => p.2.request? p.1) ∧
          l.mismatches = (rs.zip fs).filterMap (fun p => p.2.mismatch? p.1) ∧
          l.firstCause = fs.findSome? Finding.cause? ∧
          (l.missing = [] ∧ l.mismatches = [] ↔ ∀ f ∈ fs, f = .suitable) ∧
          ∀ {α β : Type} (component : String) (f : α → Except Failure β) (a : α) (calls : List α),
            (requiring S i component rs (recorded f) a).run.run calls =
              if l.missing = [] ∧ l.mismatches = [] then (f a, calls ++ [a])
              else (.error (.error (.ofKind (.dependency component l.missing l.mismatches)
                l.firstCause)), calls)) := by
  obtain ⟨fs, hfs⟩ := exists_forall₂_finds S i rs
  -- Checking goes through the findings from the first to the last, starting with no lack.
  have hlack := foldlM_note hfs {}
  refine ⟨fs, hfs, fun gs hgs => forall₂_finds_unique hgs hfs, fun fault hfault => ?_,
    fun hnone => ?_⟩
  · rw [hfault] at hlack
    refine ⟨hlack, fun component f a calls => ?_⟩
    rw [requiring, show lack S i rs = .error fault from hlack]
    rfl
  · simp only [hnone, List.nil_append, Option.none_or] at hlack
    refine ⟨_, hlack, rfl, rfl, rfl, ?_, fun component f a calls => ?_⟩
    · rw [← forall_suitable_iff hfs, and_iff_right hnone]
    · split
      case isTrue h => rw [requiring_of_nil hlack h, run_recorded]
      case isFalse h =>
        rw [requiring_of_ne_nil hlack h]
        rfl

/-- A package that is asked for twice is noted twice. -/
example :
    let i : Installed := .listed ["a"] [("a", "0.9")]
    lack .standard i [⟨"b", "b", ""⟩, ⟨"a", "a", ">=1"⟩, ⟨"b", "b", ">=2"⟩] =
      .ok { missing := [("b", ""), ("b", ">=2")]
            mismatches := [("a", ">=1", "0.9")]
            firstCause := some (.noSuchPackage "b") } := by
  cbv

/-- Whatever is installed, a name without letters is that of no module, and the look breaks off. -/
example (S : Scheme) (i : Installed) :
    lack S i [⟨"p", "", ""⟩] = .error (.badValue "Empty module name") :=
  rfl

end Manuscript.Package
