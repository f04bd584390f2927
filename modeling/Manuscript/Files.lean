import Manuscript.Error.Fault
import Manuscript.Files.Path

/-!
# Files

The files that a task can see: a tree of folders with a folder that is worked in and one that is
home. Beside folders and files it holds devices, symbolic links and further names of files. A path is
followed name by name, and through links; where that cannot be done, there is a reason (`Refusal`).
Writing a file changes what is found at its path and nothing else. It may break off (`Break`), and
reading a file may not be allowed (`Files.locks`).
-/

namespace Manuscript

/-- What stands under a name. -/
inductive Entry
  | file (content : ByteArray)
  | folder (entries : List (String × Entry))
  /-- A device that keeps nothing of what is written to it. -/
  | device
  /-- A symbolic link, with the place that it leads to in the end. -/
  | link (place : List String)
  /-- A further name of the file at a place: a hard link, or the name of the file in other letters
      where small letters and capitals are one. -/
  | twin (place : List String)
  deriving Inhabited

/-- What a path may lead to. -/
inductive Item
  | file (content : ByteArray)
  | folder
  | device
  deriving Inhabited

namespace Entry

/-- What stands under a name in a folder. -/
def child? (e : Entry) (name : String) : Option Entry :=
  match e with
  | folder entries => (entries.find? fun c => c.1 == name).map (·.2)
  | _ => none

/-- What stands under a sequence of names. -/
def get? (e : Entry) : List String → Option Entry
  | [] => some e
  | name :: rest => (e.child? name).bind fun c => c.get? rest

/-- Changes what stands under a name in a list of entries; a new name comes last. -/
def putEntry (entries : List (String × Entry)) (name : String) (f : Option Entry → Entry) :
    List (String × Entry) :=
  match entries with
  | [] => [(name, f none)]
  | (n, e) :: rest => if n = name then (n, f (some e)) :: rest else (n, e) :: putEntry rest name f

/-- Puts an entry under a sequence of names. Folders on the way are created; anything else on the way
    gives place to one. -/
def put (e : Entry) (new : Entry) : List String → Entry
  | [] => new
  | name :: rest =>
    let entries := match e with
      | folder entries => entries
      | _ => []
    folder (putEntry entries name fun old => (old.getD (folder [])).put new rest)

mutual

/-- The folders and files in an entry, each with the names that lead there; a folder comes before
    what is in it, and a file has its content. -/
def listing (here : List String) : Entry → List (List String × Option ByteArray)
  | file content => [(here, some content)]
  | folder entries => (here, none) :: listingAll here entries
  | _ => []

/-- The folders and files in some entries of a folder. -/
def listingAll (here : List String) : List (String × Entry) → List (List String × Option ByteArray)
  | [] => []
  | (name, e) :: rest => e.listing (here ++ [name]) ++ listingAll here rest

end

end Entry

/-- Why a path cannot be followed or used. -/
inductive Refusal
  | absent
  | notFolder
  | isFolder
  | nameTooLong
  /-- The path holds a character that no path may hold. -/
  | badName
  /-- Something else is there already. -/
  | taken
  /-- The operating system refuses for a reason of its own. -/
  | failed (number : Nat) (why : String)
  deriving DecidableEq, Repr, Inhabited

namespace Refusal

/-- The fault that a refusal is. -/
def fault : Refusal → Fault
  | absent => .system 2 "No such file or directory"
  | notFolder => .system 20 "Not a directory"
  | isFolder => .system 21 "Is a directory"
  | nameTooLong => .system 36 "File name too long"
  | taken => .system 17 "File exists"
  | badName => .badValue "embedded null byte"
  | failed number why => .system number why

end Refusal

/-- How writing at a place ends where it does not end well: the reason that the operating system
    gives, and what is left of the file then. Where nothing is said of that, the file cannot be
    opened and stays as it is. -/
structure Break where
  number : Nat
  why : String
  left : Option ByteArray := none
  deriving Inhabited

/-- Why writing breaks off. -/
def Break.refusal (b : Break) : Refusal :=
  .failed b.number b.why

/-- The files that a task can see. -/
structure Files where
  top : Entry := .folder []
  /-- The names of the folder that is worked in. -/
  working : List String := []
  /-- The names of the home folder. -/
  home : List String := []
  /-- The places where writing does not end well. A folder is not created there either. -/
  breaks : List String → Option Break := fun _ => none
  /-- The places of files that cannot be opened for reading, with what the operating system says. -/
  locks : List String → Option (Nat × String) := fun _ => none
  deriving Inhabited

namespace Files

/-- The most bytes that a name may have. -/
def maxName : Nat := 255

/-- The most bytes that a path may have. -/
def maxPath : Nat := 4095

/-- What there is at a place. A further name of a file stands for the file. -/
def item? (fs : Files) (place : List String) : Option Item :=
  match fs.top.get? place with
  | some (.file content) => some (.file content)
  | some (.folder _) => some .folder
  | some .device => some .device
  | some (.twin other) =>
    match fs.top.get? other with
    | some (.file content) => some (.file content)
    | _ => none
  | _ => none

/-- The place that a name leads to from a folder: that of the name, or that of the link there. -/
def step (fs : Files) (place : List String) (name : String) : List String :=
  match fs.top.get? (place ++ [name]) with
  | some (.link other) => other
  | _ => place ++ [name]

/-- Follows names from a folder. The result are the names of the place that they lead to. -/
def follow (fs : Files) (place : List String) : List String → Except Refusal (List String)
  | [] => .ok place
  | name :: rest =>
    match fs.top.get? place with
    | none => .error .absent
    | some (.folder _) =>
      if name = ".." then follow fs place.dropLast rest
      else if maxName < name.utf8ByteSize then .error .nameTooLong
      else if (fs.item? (fs.step place name)).isSome then follow fs (fs.step place name) rest
      else .error .absent
    | some _ => .error .notFolder

/-- Checks the form of a path. -/
def checkForm (p : Path) : Except Refusal Unit :=
  if p.text.toList.contains '\x00' then .error .badName
  else if maxPath < p.text.utf8ByteSize then .error .nameTooLong
  else .ok ()

/-- Where a path starts. -/
def start (fs : Files) (p : Path) : List String :=
  if p.isAbsolute then [] else fs.working

/-- The names of the place that a path leads to. -/
def locate (fs : Files) (p : Path) : Except Refusal (List String) := do
  checkForm p
  fs.follow (fs.start p) p.names

/-- What a path leads to. -/
def find (fs : Files) (p : Path) : Except Refusal Item := do
  match fs.item? (← fs.locate p) with
  | some e => .ok e
  | none => .error .absent

/-- Whether a path leads to something of a kind. Where it leads nowhere the answer is no; a name
    that is too long is a fault. -/
def holds (fs : Files) (p : Path) (kind : Item → Bool) : Except Fault Bool :=
  match fs.find p with
  | .ok e => .ok (kind e)
  | .error .nameTooLong => .error Refusal.nameTooLong.fault
  | .error _ => .ok false

/-- Whether there is something at a path. -/
def isThere (fs : Files) (p : Path) : Except Fault Bool :=
  fs.holds p fun _ => true

/-- Whether there is a file at a path. -/
def isFile (fs : Files) (p : Path) : Except Fault Bool :=
  fs.holds p fun | .file _ => true | _ => false

/-- Whether there is a folder at a path. -/
def isFolder (fs : Files) (p : Path) : Except Fault Bool :=
  fs.holds p fun | .folder => true | _ => false

/-- The place that a file at a place is kept at: of a further name, that of the file. -/
def own (fs : Files) (place : List String) : List String :=
  match fs.top.get? place with
  | some (.twin other) => other
  | _ => place

/-- Why the file at a path cannot be opened for reading, if it cannot. -/
def lock? (fs : Files) (p : Path) : Option (Nat × String) :=
  match fs.locate p with
  | .ok place => fs.locks (fs.own place)
  | .error _ => none

/-- The content of the file at a path. -/
def read (fs : Files) (p : Path) : Except Refusal ByteArray := do
  match ← fs.find p with
  | .file content =>
    match fs.lock? p with
    | some (number, why) => .error (.failed number why)
    | none => .ok content
  | .folder => .error .isFolder
  | .device => .ok .empty

/-- The place of a new file under a name that leads nowhere. A link leads to it there. -/
def vacant (fs : Files) (place : List String) : Except Refusal (List String) :=
  match fs.top.get? place with
  | none => .ok place
  | some (.link other) =>
    match fs.top.get? other.dropLast, fs.top.get? other with
    | some (.folder _), none => .ok other
    | _, _ => .error .absent
  | some _ => .error .absent

/-- The names of the place where a file at a path would be written. -/
def spot (fs : Files) (p : Path) : Except Refusal (List String) := do
  match fs.locate p with
  | .ok place =>
    match fs.item? place with
    | some .folder => .error .isFolder
    | some _ => .ok (fs.own place)
    | none => .error .absent
  | .error .absent =>
    let folder ← fs.locate p.parent
    match fs.top.get? folder with
    | some (.folder _) =>
      if p.name = ".." ∨ p.name.isEmpty then .error .absent else fs.vacant (folder ++ [p.name])
    | _ => .error .notFolder
  | .error r => .error r

/-- Opens the file at a path for writing. The result are the names of its place. -/
def target (fs : Files) (p : Path) : Except Refusal (List String) := do
  let place ← fs.spot p
  match fs.breaks place with
  | some b => if b.left.isNone then .error b.refusal else .ok place
  | none => .ok place

/-- The files after a content is written at a place. A device keeps nothing of it. -/
def keep (fs : Files) (place : List String) (content : ByteArray) : Files :=
  match fs.top.get? place with
  | some .device => fs
  | _ => { fs with top := fs.top.put (.file content) place }

/-- The files after the content of the file at a path is written. -/
def write (fs : Files) (p : Path) (content : ByteArray) : Except Refusal Files := do
  let place ← fs.target p
  match fs.breaks place with
  | some b => .error b.refusal
  | none => .ok (fs.keep place content)

/-- The files after writing at a path was refused: where it broke off, something is left. -/
def afterRefusal (fs : Files) (p : Path) : Files :=
  match fs.target p with
  | .error _ => fs
  | .ok place =>
    match (fs.breaks place).bind (·.left) with
    | some left => fs.keep place left
    | none => fs

/-- Creates the folder at a path. Its parent has to be there. -/
def createFolder (fs : Files) (p : Path) : Except Refusal Files := do
  match fs.locate p with
  | .ok _ => .error .taken
  | .error .absent =>
    let folder ← fs.locate p.parent
    match fs.top.get? folder with
    | some (.folder _) =>
      let place := folder ++ [p.name]
      if p.name = ".." then .error .absent
      else if (fs.top.get? place).isSome then .error .taken
      else
        match fs.breaks place with
        | some b => .error b.refusal
        | none => .ok { fs with top := fs.top.put (.folder []) place }
    | _ => .error .notFolder
  | .error r => .error r

/-- Creates the folder at a path, unless it is there. -/
def ensureFolder (fs : Files) (p : Path) : Except Refusal Files :=
  match fs.createFolder p with
  | .error .taken =>
    match fs.isFolder p with
    | .ok true => .ok fs
    | _ => .error .taken
  | result => result

/-- The files after a step that may be refused, and whether it was. A refused step changes nothing. -/
def attempt (fs : Files) (step : Except Refusal Files) : Files × Except Refusal Unit :=
  match step with
  | .ok fs => (fs, .ok ())
  | .error r => (fs, .error r)

/-- Creates the folder at a path and up to a number of those on the way to it, unless they are
    there. Those that have been created stay if the rest is refused. -/
def ensureFoldersFrom (fs : Files) (p : Path) : Nat → Files × Except Refusal Unit
  | 0 => fs.attempt (fs.ensureFolder p)
  | n + 1 =>
    match fs.ensureFolder p with
    | .error .absent =>
      if p.parent = p then (fs, .error .absent)
      else
        match fs.ensureFoldersFrom p.parent n with
        | (fs, .ok ()) => fs.attempt (fs.ensureFolder p)
        | refused => refused
    | step => fs.attempt step

/-- Creates the folder at a path and those on the way to it, unless they are there. -/
def ensureFolders (fs : Files) (p : Path) : Files × Except Refusal Unit :=
  fs.ensureFoldersFrom p p.names.length

/-- The names of the place that a path leads to in the end, whether there is something or not: links
    are followed, and `..` goes back by one name. -/
def resolve (fs : Files) (p : Path) : List String :=
  p.names.foldl (fun place name => if name = ".." then place.dropLast else fs.step place name)
    (fs.start p)

/-- The names that a path spells out: `..` takes back the name before it, and nothing is followed. -/
def spelled (fs : Files) (p : Path) : List String :=
  p.names.foldl (fun place name => if name = ".." then place.dropLast else place ++ [name])
    (fs.start p)

/-- The names that a path leads to in the end, unless it holds a character that no path may hold. -/
def goal (fs : Files) (p : Path) : Except Fault (List String) :=
  if p.text.toList.contains '\x00' then .error Refusal.badName.fault else .ok (fs.resolve p)

/-- The files with an entry at a place, unless something is known to be there already. -/
def learn (fs : Files) (names : List String) (e : Entry) : Files :=
  if (fs.top.get? names).isSome then fs else { fs with top := fs.top.put e names }

/-- The folders and files that are new or have another content after a task, each with the names
    that lead there; a folder comes before what is in it. -/
def changes (old new : Files) : List (List String × Option ByteArray) :=
  (new.top.listing []).filter fun (names, content) =>
    match old.top.get? names, content with
    | some (.file before), some bytes => before.data != bytes.data
    | found, _ => found.isNone

/-- The path from the root by some names. -/
def absolute (names : List String) : Path :=
  { root := "/", names }

end Files

end Manuscript
