import Manuscript.Proofs.Config.Sources
import Mathlib.Data.List.Infix

/-!
# Which configuration is found

A configuration is looked for at some paths one after the other: those of a folder and of each
folder around it, the nearest first (`candidates`), and then those at home. A search passes on from
path to path, and stops where there is a configuration or a fault is in the way (`Stops`).

* `findFrom_eq_search`, `discover_eq_search`: what is searched, and in which order;
* `search_eq_iff`: a search ends with the result of the path that it stops at;
* `findFrom_ends`: how the search for a configuration ends;
* `loadFirst_loads_nearest`: which configuration is loaded.
-/

namespace Manuscript.Config

variable {reader : YamlReader} {fs : Files} {p : Path} {ps : List Path} {f : Fault}

/-! ## Paths -/

/-- The folders from a place up to the root, the nearest first. -/
def around (place : List String) : List (List String) :=
  place.inits.reverse

/-- The paths of a folder at which a configuration may be. -/
def pathsIn (folder : List String) : List Path :=
  (fileNames ++ [projectFile]).map (Files.absolute folder).child

/-- The paths at which a configuration may be, as seen from a place: those of the nearest folder
    come first. -/
def candidates (place : List String) : List Path :=
  (around place).flatMap pathsIn

/-- The paths at home at which a configuration may be. -/
def homeFiles (fs : Files) : List Path :=
  fileNames.map (Files.absolute fs.home).child

/-- The place that a search starts at. -/
def startOf (fs : Files) : Option Path → Except Fault (List String)
  | none => .ok fs.working
  | some p => fs.goal p

/-- The candidates of a folder come before those of the folder around it. -/
theorem candidates_concat (place : List String) (name : String) :
    candidates (place ++ [name]) = pathsIn (place ++ [name]) ++ candidates place := by
  simp [candidates, around, List.inits_append]

theorem name_child (p : Path) (name : String) : (p.child name).name = name := by
  simp [Path.child, Path.name]

/-- A search can start anywhere but at a path with a character that no path may hold. -/
theorem startOf_eq_error_iff {start : Option Path} :
    startOf fs start = .error f ↔
      ∃ p, start = some p ∧ '\x00' ∈ p.text.toList ∧ f = Refusal.badName.fault := by
  cases start with
  | none => simp [startOf]
  | some p =>
    rw [startOf, Files.goal]
    split
    · rename_i h
      simp [List.contains_iff_mem.1 h, eq_comm]
    · rename_i h
      simp [mt List.contains_iff_mem.2 h]

/-! ## Searching -/

/-- The first of some paths at which there is a configuration. -/
def search (fs : Files) : List Path → Except Failure (Option Path)
  | [] => .ok none
  | p :: ps => do
    if ← look fs p then return some p else search fs ps

/-- A search goes on with more paths where it finds nothing in the first. -/
theorem search_append (ps qs : List Path) :
    search fs (ps ++ qs) = search fs ps >>= fun
      | some p => .ok (some p)
      | none => search fs qs := by
  induction ps with
  | nil => rfl
  | cons p ps ih =>
    rw [List.cons_append, search, search, ih]
    obtain e | found := look fs p
    · rfl
    · cases found <;> rfl

/-- Where there are no project files among some paths, the first file is what a search finds. -/
theorem firstFile_eq_search {ps : List Path} (h : ∀ p ∈ ps, p.name ≠ projectFile) :
    firstFile fs ps = search fs ps := by
  induction ps with
  | nil => rfl
  | cons p ps ih =>
    obtain ⟨hp, hps⟩ := List.forall_mem_cons.1 h
    rw [firstFile, search, look, if_neg hp, ih hps]

theorem firstFile_fileNames (q : Path) :
    firstFile fs (fileNames.map q.child) = search fs (fileNames.map q.child) := by
  refine firstFile_eq_search fun p hp => ?_
  obtain ⟨name, hname, rfl⟩ := List.mem_map.1 hp
  rw [name_child]
  rintro rfl
  exact absurd hname (by decide)

/-- In a folder, the paths in it are searched. -/
theorem findIn_eq_search (folder : List String) :
    findIn fs (Files.absolute folder) = search fs (pathsIn folder) := by
  rw [findIn, pathsIn, List.map_append, search_append, firstFile_fileNames]
  congr 1
  funext found
  cases found with
  | some p => rfl
  | none =>
    rw [List.map_singleton, search, look, if_pos (name_child _ _)]
    dsimp only
    obtain e | found := hasSection fs ((Files.absolute folder).child projectFile)
    · rfl
    · cases found <;> rfl

/-- From a folder upwards, all candidates are searched. -/
theorem findUp_eq_search (names : List String) :
    findUp fs names = search fs (candidates names.reverse) := by
  induction names with
  | nil =>
    rw [findUp, findIn_eq_search, List.reverse_nil, candidates, around]
    simp
  | cons name outer ih =>
    rw [findUp, findIn_eq_search, ih, List.reverse_cons, candidates_concat, search_append]
    rfl

theorem findFrom_eq_search (start : Option Path) :
    findFrom fs start = (startOf fs start).mapError .fault >>= fun place =>
      search fs (candidates place) := by
  cases start with
  | none =>
    rw [findFrom]
    change findUp fs fs.working.reverse = _
    rw [findUp_eq_search, List.reverse_reverse]
    rfl
  | some p =>
    rw [findFrom]
    simp only [findUp_eq_search, List.reverse_reverse]
    rfl

/-- The search ends at home. -/
theorem discover_eq_search : discover fs = search fs (candidates fs.working ++ homeFiles fs) := by
  rw [discover, findFrom_eq_search, search_append, homeFiles, ← firstFile_fileNames]
  rfl

/-- A search comes to a path: it has passed all those before. -/
def Reached (fs : Files) (ps : List Path) (p : Path) : Prop :=
  ∃ before after, ps = before ++ p :: after ∧ ∀ q ∈ before, Passes fs q

/-- A search reaches the first path, and beyond it what it reaches after passing that. -/
theorem reached_cons {q : Path} :
    Reached fs (p :: ps) q ↔ q = p ∨ Passes fs p ∧ Reached fs ps q := by
  constructor
  · rintro ⟨before, after, heq, hbefore⟩
    cases before with
    | nil =>
      cases heq
      exact .inl rfl
    | cons b before =>
      cases heq
      obtain ⟨hp, hbefore⟩ := List.forall_mem_cons.1 hbefore
      exact .inr ⟨hp, before, after, rfl, hbefore⟩
  · rintro (rfl | ⟨hp, before, after, rfl, hbefore⟩)
    · exact ⟨[], ps, rfl, nofun⟩
    · exact ⟨p :: before, after, rfl, List.forall_mem_cons.2 ⟨hp, hbefore⟩⟩

theorem not_reached_nil : ¬ Reached fs [] p := by
  rintro ⟨before, after, h, -⟩
  cases before <;> cases h

/-- A search stops at a path with a result. -/
inductive Stops (fs : Files) (p : Path) : Except Failure (Option Path) → Prop
  | source (h : IsSource fs p) : Stops fs p (.ok (some p))
  | blocks {f : Fault} (h : Blocks fs p f) : Stops fs p (.error (.fault f))

theorem Stops.ne_none {r : Except Failure (Option Path)} (h : Stops fs p r) : r ≠ .ok none := by
  cases h <;> nofun

theorem Stops.not_passes {r : Except Failure (Option Path)} (h : Stops fs p r) : ¬ Passes fs p := by
  intro hpass
  cases h with
  | source h => exact hpass.1 h
  | blocks h => exact hpass.2 _ h

/-- A search stops at a path or passes it. -/
theorem stops_or_passes (fs : Files) (p : Path) : (∃ r, Stops fs p r) ∨ Passes fs p := by
  obtain hsource | hfalse | ⟨f, hblocks⟩ := look_cases fs p
  · exact .inl ⟨_, .source hsource⟩
  · exact .inr (look_eq_false_iff.1 hfalse)
  · exact .inl ⟨_, .blocks hblocks⟩

/-- Where a search stops, that is what it ends with. -/
theorem search_cons_of_stops {r : Except Failure (Option Path)} (h : Stops fs p r) :
    search fs (p :: ps) = r := by
  rw [search]
  cases h with
  | source h =>
    rw [look_of_isSource h]
    rfl
  | blocks h =>
    rw [look_of_blocks h]
    rfl

/-- A search stops at a path in one way only. -/
theorem Stops.unique {r r' : Except Failure (Option Path)} (h : Stops fs p r)
    (h' : Stops fs p r') : r = r' := by
  have hr : search fs [p] = r := search_cons_of_stops h
  exact hr.symm.trans (search_cons_of_stops h')

/-- Where a search passes, it goes on. -/
theorem search_cons_of_passes (h : Passes fs p) : search fs (p :: ps) = search fs ps := by
  rw [search, look_eq_false_iff.2 h]
  rfl

/-- A search ends with the result of the path that it comes to and stops at. -/
theorem search_eq_iff {r : Except Failure (Option Path)} (hr : r ≠ .ok none) :
    search fs ps = r ↔ ∃ p, Reached fs ps p ∧ Stops fs p r := by
  -- The first path stops the search, or is passed and the rest is searched.
  induction ps with
  | nil => exact iff_of_false hr.symm fun ⟨_, hreached, _⟩ => not_reached_nil hreached
  | cons q ps ih =>
    simp only [reached_cons]
    obtain ⟨r', hstops⟩ | hpass := stops_or_passes fs q
    · rw [search_cons_of_stops hstops]
      constructor
      · rintro rfl
        exact ⟨q, .inl rfl, hstops⟩
      · rintro ⟨p, rfl | ⟨hpass, -⟩, hp⟩
        · exact hstops.unique hp
        · exact absurd hpass hstops.not_passes
    · rw [search_cons_of_passes hpass, ih]
      constructor
      · rintro ⟨p, hreached, hp⟩
        exact ⟨p, .inr ⟨hpass, hreached⟩, hp⟩
      · rintro ⟨p, rfl | ⟨-, hreached⟩, hp⟩
        · exact absurd hpass hp.not_passes
        · exact ⟨p, hreached, hp⟩

/-- A search finds a path if and only if it reaches it and there is a configuration. -/
theorem search_eq_some_iff : search fs ps = .ok (some p) ↔ Reached fs ps p ∧ IsSource fs p := by
  refine (search_eq_iff (by simp)).trans ?_
  constructor
  · rintro ⟨q, hreached, hstops⟩
    cases hstops with
    | source h => exact ⟨hreached, h⟩
  · exact fun h => ⟨p, h.1, .source h.2⟩

/-- A search ends with a fault if and only if it reaches a path that blocks it. -/
theorem search_eq_error_iff {e : Failure} :
    search fs ps = .error e ↔ ∃ f p, e = .fault f ∧ Reached fs ps p ∧ Blocks fs p f := by
  refine (search_eq_iff (by simp)).trans ?_
  constructor
  · rintro ⟨p, hreached, hstops⟩
    cases hstops with
    | blocks h => exact ⟨_, p, rfl, hreached, h⟩
  · rintro ⟨f, p, rfl, hreached, h⟩
    exact ⟨p, hreached, .blocks h⟩

/-- A search finds nothing if it passes all paths. -/
theorem search_eq_none_iff : search fs ps = .ok none ↔ ∀ p ∈ ps, Passes fs p := by
  induction ps with
  | nil => exact iff_of_true rfl nofun
  | cons q ps ih =>
    rw [List.forall_mem_cons]
    obtain ⟨r, hstops⟩ | hpass := stops_or_passes fs q
    · rw [search_cons_of_stops hstops]
      exact iff_of_false hstops.ne_none fun h => hstops.not_passes h.1
    · rw [search_cons_of_passes hpass, ih, and_iff_right hpass]

/-! ## How the search for a configuration ends -/

theorem findFrom_of_startOf {start : Option Path} {place : List String}
    (h : startOf fs start = .ok place) : findFrom fs start = search fs (candidates place) := by
  rw [findFrom_eq_search, h]
  rfl

/-- A search from a folder ends with a fault because of the folder, or of a path that it reaches. -/
theorem findFrom_eq_error_iff {start : Option Path} {e : Failure} :
    findFrom fs start = .error e ↔
      (∃ f, e = .fault f ∧ startOf fs start = .error f) ∨
      ∃ f place p, e = .fault f ∧ startOf fs start = .ok place ∧
        Reached fs (candidates place) p ∧ Blocks fs p f := by
  cases h : startOf fs start with
  | error f =>
    have hfind : findFrom fs start = .error (.fault f) := by
      rw [findFrom_eq_search, h]
      rfl
    simp [hfind, eq_comm]
  | ok place =>
    rw [findFrom_of_startOf h, search_eq_error_iff]
    simp

/-- The search for a configuration gives a path or none, and passes over project files that cannot
    be opened, are malformed or have no section. It ends in no other way, but for the faults of a
    folder that no path can lead to, and of the first path that blocks it: one that is too long, or a
    project file that is refused though it is not malformed. -/
theorem findFrom_ends (fs : Files) (start : Option Path) :
    (∀ e, findFrom fs start ≠ .error (.error e)) ∧
    (∀ f, findFrom fs start = .error (.fault f) ↔
      (∃ p, start = some p ∧ '\x00' ∈ p.text.toList ∧ f = Refusal.badName.fault) ∨
      ∃ place p, startOf fs start = .ok place ∧ Reached fs (candidates place) p ∧ Blocks fs p f) ∧
    (∀ place, startOf fs start = .ok place →
      (∀ p, findFrom fs start = .ok (some p) ↔ Reached fs (candidates place) p ∧ IsSource fs p) ∧
      (findFrom fs start = .ok none ↔ ∀ p ∈ candidates place, Passes fs p)) ∧
    ∀ p content, p.name = projectFile → fs.find p = .ok (.file content) →
      ((∃ n why, fs.lock? p = some (n, why)) ∨ (∃ why, Format.project.IsMalformed content why) ∨
        ∃ v, Format.project.Holds content v ∧ ∀ entries, v ≠ .map entries) → Passes fs p := by
  refine ⟨fun e h => ?_, fun f => ?_, fun place h => ?_, fun p content => passes_of_ignored⟩
  · obtain ⟨f, ⟨⟩, -⟩ | ⟨f, place, p, ⟨⟩, -⟩ := findFrom_eq_error_iff.1 h
  · rw [findFrom_eq_error_iff, ← @startOf_eq_error_iff fs]
    simp
  · rw [findFrom_of_startOf h]
    exact ⟨fun p => search_eq_some_iff, search_eq_none_iff⟩

/-- A project file of bytes that are no text, in the folder that is worked in. -/
theorem findFrom_ends_undecodable :
    findFrom { top := .folder [("pyproject.toml", .file ⟨#[0xff]⟩)] } =
      .error (.fault .undecodable) := by
  have hpass : ∀ q ∈ fileNames.map (Files.absolute []).child,
      look { top := .folder [("pyproject.toml", .file ⟨#[0xff]⟩)] } q = .ok false := by
    decide +kernel
  exact ((findFrom_ends _ none).2.1 _).2 (.inr ⟨[], (Files.absolute []).child projectFile, rfl,
    ⟨fileNames.map (Files.absolute []).child, [], by decide +kernel,
      fun q hq => look_eq_false_iff.1 (hpass q hq)⟩,
    .content ⟨rfl, rfl⟩ (by decide +kernel) (.encoding (by decide +kernel))⟩)

/-! ## The nearest source -/

/-- A search for the first source meets a path: there is no source before it. -/
def Met (fs : Files) (ps : List Path) (p : Path) : Prop :=
  ∃ before after, ps = before ++ p :: after ∧ ∀ q ∈ before, ¬ IsSource fs q

/-- The first source of some paths. -/
def IsFirst (fs : Files) (ps : List Path) (p : Path) : Prop :=
  Met fs ps p ∧ IsSource fs p

/-- What a search reaches it meets. -/
theorem Reached.met (h : Reached fs ps p) : Met fs ps p := by
  obtain ⟨before, after, rfl, hbefore⟩ := h
  exact ⟨before, after, rfl, fun q hq => (hbefore q hq).1⟩

/-- What stands before a path that is met is met as well. -/
theorem met_of_mem {before after : List Path} {q : Path} (heq : ps = before ++ p :: after)
    (hbefore : ∀ q ∈ before, ¬ IsSource fs q) (hq : q ∈ before) : Met fs ps q := by
  obtain ⟨first, second, rfl⟩ := List.append_of_mem hq
  refine ⟨first, second ++ p :: after, by rw [heq]; simp, fun r hr => ?_⟩
  exact hbefore r (List.mem_append_left _ hr)

/-- Where nothing that is met blocks a search, it finds the first source. -/
theorem search_eq_some_iff_isFirst (h : ∀ q, Met fs ps q → ∀ f, ¬ Blocks fs q f) :
    search fs ps = .ok (some p) ↔ IsFirst fs ps p := by
  rw [search_eq_some_iff, IsFirst]
  refine and_congr_left fun _ => ⟨Reached.met, ?_⟩
  rintro ⟨before, after, heq, hbefore⟩
  exact ⟨before, after, heq, fun q hq => ⟨hbefore q hq, h q (met_of_mem heq hbefore hq)⟩⟩

/-- Where nothing that is met blocks a search, it finds nothing if and only if there is nothing. -/
theorem search_eq_none_iff_forall (h : ∀ q, Met fs ps q → ∀ f, ¬ Blocks fs q f) :
    search fs ps = .ok none ↔ ∀ p ∈ ps, ¬ IsSource fs p := by
  rw [search_eq_none_iff]
  refine ⟨fun hpass p hp => (hpass p hp).1, fun hnone p hp => ⟨hnone p hp, ?_⟩⟩
  obtain ⟨before, after, rfl⟩ := List.append_of_mem hp
  exact h p ⟨before, after, rfl, fun q hq => hnone q (List.mem_append_left _ hq)⟩

/-- Nothing that a search meets is in its way. -/
structure IsClear (fs : Files) (ps : List Path) : Prop where
  find_ne : ∀ p, Met fs ps p → fs.find p ≠ .error .nameTooLong
  isProject : ∀ p content, Met fs ps p → p.name = projectFile → fs.Opens p content →
    IsProject content

theorem IsClear.not_blocks (h : IsClear fs ps) (hmet : Met fs ps p) : ¬ Blocks fs p f := by
  rintro (hname | ⟨hfind, hname, hbreaks⟩)
  · exact h.find_ne p hmet hname
  · exact (h.isProject p _ hmet hname hfind).not_breaks hbreaks

/-- A search that is clear ends with a path or none. -/
theorem IsClear.exists_search (h : IsClear fs ps) : ∃ found, search fs ps = .ok found := by
  cases hsearch : search fs ps with
  | error e =>
    obtain ⟨f, p, -, hreached, hblocks⟩ := search_eq_error_iff.1 hsearch
    exact absurd hblocks (h.not_blocks hreached.met)
  | ok found => exact ⟨found, rfl⟩

theorem filter_of_ne {s : String} (hs : s ≠ "") : (some s).filter (!·.isEmpty) = some s := by
  simp [Option.filter, hs]

theorem filter_of_getD {s : Option String} (hs : s.getD "" = "") :
    s.filter (!·.isEmpty) = none := by
  cases s with
  | none => rfl
  | some s =>
    obtain rfl : s = "" := hs
    rfl

/-- The path asked for comes first. -/
theorem loadFirst_explicit {s : String} (hs : s ≠ "") (environment : Option String) :
    loadFirst reader fs (some s) environment = load reader fs (.ofText s) := by
  rw [loadFirst]
  dsimp only
  rw [filter_of_ne hs]
  rfl

/-- The path of the environment is next. -/
theorem loadFirst_environment {explicit : Option String} {s : String}
    (hexplicit : explicit.getD "" = "") (hs : s ≠ "") :
    loadFirst reader fs explicit (some s) = load reader fs (.ofText s) := by
  rw [loadFirst]
  dsimp only
  rw [filter_of_getD hexplicit, filter_of_ne hs]
  rfl

/-- Without either, it is what a search finds. -/
theorem loadFirst_found {explicit environment : Option String} (hexplicit : explicit.getD "" = "")
    (henvironment : environment.getD "" = "") :
    loadFirst reader fs explicit environment =
      search fs (candidates fs.working ++ homeFiles fs) >>= fun
        | some p => load reader fs p
        | none => .ok [] := by
  rw [loadFirst]
  dsimp only
  rw [filter_of_getD hexplicit, filter_of_getD henvironment, discover_eq_search]
  rfl

/-- The configuration comes from the first source that is given or found: the path asked for, that of
    the environment, or the first one of those around the folder that is worked in and at home. A
    project file that is found has a mapping that is not empty. The search may only not be blocked:
    no path that it meets is too long, and the project files that it meets are such files, or break
    the rules of their format. -/
theorem loadFirst_loads_nearest (reader : YamlReader) (fs : Files) :
    (∀ start place, startOf fs start = .ok place → IsClear fs (candidates place) →
      ∃ found, findFrom fs start = .ok found ∧
        (∀ p, found = some p ↔ IsFirst fs (candidates place) p) ∧
        (found = none ↔ ∀ p ∈ candidates place, ¬ IsSource fs p)) ∧
    (∀ start p, findFrom fs start = .ok (some p) → p.name = projectFile →
      ∃ entries, load reader fs p = .ok entries ∧ entries ≠ []) ∧
    (∀ s environment, s ≠ "" →
      loadFirst reader fs (some s) environment = load reader fs (.ofText s)) ∧
    (∀ explicit s, explicit.getD "" = "" → s ≠ "" →
      loadFirst reader fs explicit (some s) = load reader fs (.ofText s)) ∧
    ∀ explicit environment, explicit.getD "" = "" → environment.getD "" = "" →
      IsClear fs (candidates fs.working ++ homeFiles fs) →
      (∀ p, IsFirst fs (candidates fs.working ++ homeFiles fs) p →
        loadFirst reader fs explicit environment = load reader fs p) ∧
      ((∀ p ∈ candidates fs.working ++ homeFiles fs, ¬ IsSource fs p) →
        loadFirst reader fs explicit environment = .ok []) := by
  refine ⟨fun start place hstart hclear => ?_, fun start p hfind hname => ?_,
    fun s environment hs => loadFirst_explicit hs environment,
    fun explicit s => loadFirst_environment, fun explicit environment hexplicit henvironment hclear =>
    ⟨fun p hp => ?_, fun hnone => ?_⟩⟩
  · -- A search that nothing blocks ends with a path or none, and the first source decides which.
    obtain ⟨found, hfound⟩ := hclear.exists_search
    refine ⟨found, (findFrom_of_startOf hstart).trans hfound, fun p => ?_, ?_⟩
    · rw [← search_eq_some_iff_isFirst fun _ hmet _ => hclear.not_blocks hmet, hfound,
        Except.ok.injEq]
    · rw [← search_eq_none_iff_forall fun _ hmet _ => hclear.not_blocks hmet, hfound,
        Except.ok.injEq]
  · cases hstart : startOf fs start with
    | error f =>
      cases hfind.symm.trans (findFrom_eq_error_iff.2 (.inl ⟨f, rfl, hstart⟩))
    | ok place =>
      rw [findFrom_of_startOf hstart] at hfind
      exact load_of_isSource reader (search_eq_some_iff.1 hfind).2 hname
  · rw [loadFirst_found hexplicit henvironment,
      (search_eq_some_iff_isFirst fun _ hmet _ => hclear.not_blocks hmet).2 hp]
    rfl
  · rw [loadFirst_found hexplicit henvironment,
      (search_eq_none_iff_forall fun _ hmet _ => hclear.not_blocks hmet).2 hnone]
    rfl

theorem isClear_of_look (hname : ∀ p ∈ ps, fs.isFile p ≠ .error Refusal.nameTooLong.fault)
    (hproject : ∀ p ∈ ps, p.name = projectFile →
      fs.isFile p = .ok false ∨ look fs p = .ok true) : IsClear fs ps where
  find_ne := by
    rintro p ⟨before, after, rfl, -⟩ hfind
    exact hname p (List.mem_append_right _ List.mem_cons_self)
      (Files.holds_eq_error_iff.2 ⟨rfl, hfind⟩)
  isProject := by
    rintro p content ⟨before, after, rfl, -⟩ hp hopen
    obtain hfile | hlook := hproject p (List.mem_append_right _ List.mem_cons_self) hp
    · cases hfile.symm.trans (Files.isFile_eq_true_iff.2 ⟨content, hopen.find_eq⟩)
    · obtain ⟨content', hfind', hsection⟩ := look_eq_true_iff.1 hlook
      cases hopen.find_eq.symm.trans hfind'
      exact (hsection hp).2.isProject

/-- A project in a folder that has a configuration file of its own. -/
def nestedFiles : Files where
  top := .folder [(".md2docx.toml", .file ⟨#[]⟩), ("work", .folder [
    ("pyproject.toml", .file "[tool.md2docx.docx]\nfont = 1\n".toUTF8)])]
  working := ["work"]

/-- The project is nearer than the other file. -/
theorem loadFirst_loads_nearest_nested :
    loadFirst Yaml.read nestedFiles none (some "") =
        load Yaml.read nestedFiles ((Files.absolute ["work"]).child projectFile) ∧
      ∃ entries,
        load Yaml.read nestedFiles ((Files.absolute ["work"]).child projectFile) = .ok entries ∧
        entries ≠ [] := by
  let ps := candidates nestedFiles.working ++ homeFiles nestedFiles
  have hclear : IsClear nestedFiles ps := isClear_of_look (by decide +kernel) (by decide +kernel)
  have hsplit : ps = fileNames.map (Files.absolute ["work"]).child ++
      (Files.absolute ["work"]).child projectFile :: ps.drop 5 := by decide +kernel
  have hpass : ∀ q ∈ fileNames.map (Files.absolute ["work"]).child,
      look nestedFiles q = .ok false := by decide +kernel
  have hfirst : IsFirst nestedFiles ps ((Files.absolute ["work"]).child projectFile) :=
    ⟨⟨_, _, hsplit, fun q hq => (look_eq_false_iff.1 (hpass q hq)).1⟩,
      look_eq_true_iff.1 (by decide +kernel)⟩
  obtain ⟨-, hload, -, -, hfound⟩ := loadFirst_loads_nearest Yaml.read nestedFiles
  exact ⟨(hfound none (some "") rfl rfl hclear).1 _ hfirst,
    hload none _ (by decide +kernel) (name_child _ _)⟩

end Manuscript.Config
