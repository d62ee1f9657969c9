import FleetAgent.Identity.Directory
import FleetAgent.Text.Cut
/-!
# The disk around the directory

The directory of the state lies somewhere on a disk, and others write to the disk as well. A *place*
is given by the names on the way to it from the top. A path leads to a place: it is followed name by
name, each in the directory where the last one led; an empty name and `.` stay there, and `..` goes
back. So a path that goes through a directory which does not exist leads nowhere, even if it comes
back.

The agent sees its directory through `Disk.directory`; what it made of it is kept by `Disk.keep`.
-/

namespace FleetAgent

/-- The names on the way to a place from the top, the first name first. -/
abbrev Place := List String

/-- Files and folders by place. The top is a folder too, and is not listed in `entries`. -/
structure Disk where
  entries : Std.ExtTreeMap Place DirectoryEntry

namespace Disk

/-- What is at `place`, if anything is. -/
def get? (d : Disk) (place : Place) : Option DirectoryEntry :=
  if place.isEmpty then some .folder else d.entries[place]?

/-- Lets an entry be at a place. -/
def put (d : Disk) (place : Place) (entry : DirectoryEntry) : Disk :=
  ⟨d.entries.insert place entry⟩

/-- Lets nothing be at a place. -/
def erase (d : Disk) (place : Place) : Disk :=
  ⟨d.entries.erase place⟩

/-- What was put at a place below the top is there, and nothing else has changed. -/
theorem get?_put {place : Place} (d : Disk) (other : Place) (entry : DirectoryEntry)
    (h : place ≠ []) :
    (d.put place entry).get? other = if place = other then some entry else d.get? other := by
  cases other with
  | nil => simp [get?, h]
  | cons name names => simp [get?, put, Std.ExtTreeMap.getElem?_insert]

/-- What was erased at a place below the top is not there any more, and nothing else has changed. -/
theorem get?_erase {place : Place} (d : Disk) (other : Place) (h : place ≠ []) :
    (d.erase place).get? other = if place = other then none else d.get? other := by
  cases other with
  | nil => simp [get?, h]
  | cons name names => simp [get?, erase, Std.ExtTreeMap.getElem?_erase]

/-- A disk with one empty folder. -/
def withFolder (name : String) : Disk := (⟨∅⟩ : Disk).put [name] .folder

/-! ### Paths -/

/-- The names of a path, between its slashes; some of them may be empty. -/
def names (path : String) : List String :=
  (Text.splitOn '/' path.toList).map String.ofList

/-- No name has more bytes than this. -/
def longestName : Nat := 255

/-- Where `name` leads from `place`, which must be a folder. There need not be anything yet. -/
def follow (d : Disk) (place : Place) (name : String) : Except IoFault Place :=
  match d.get? place with
  | none => .error .notFound
  | some (.file _ _) => .error .notADirectory
  | some .folder =>
    if longestName < name.utf8ByteSize then .error .nameTooLong
    else if name = "" ∨ name = "." then .ok place
    else if name = ".." then .ok place.dropLast
    else .ok (place ++ [name])

/-- No path holds this character. -/
def terminator : Char := Char.ofNat 0

/-- The place that `path` leads to, of which only the last name may be missing on the disk. -/
def find (d : Disk) (path : String) : Except IoFault Place :=
  if path.toList.contains terminator then .error .invalidPath
  else (names path).foldlM d.follow []

/-- Follows `name` as `follow` does, and creates a folder where there is nothing. -/
def followCreating (at' : Disk × Place) (name : String) : Except IoFault (Disk × Place) := do
  let (d, place) := at'
  let place ← d.follow place name
  match d.get? place with
  | none => return (d.put place .folder, place)
  | some .folder => return (d, place)
  | some (.file _ _) => throw .alreadyExists

/-- Makes sure that there is a folder at `path` and at every place on the way; gives the place as
well. -/
def create (d : Disk) (path : String) : Except IoFault (Disk × Place) :=
  if path.toList.contains terminator then .error .invalidPath
  else (names path).foldlM followCreating (d, [])

/-! ### The directory of the state -/

/-- The entries of the folder at `place`, by their names in it. -/
def children (d : Disk) (place : Place) : List (String × DirectoryEntry) :=
  d.entries.toList.filterMap fun (p, entry) =>
    if p.dropLast = place then p.getLast?.map (·, entry) else none

/-- The directory at `path`, as the agent sees it: what keeps it from being one is told apart. -/
def directory (d : Disk) (path : String) : Directory :=
  match d.find path with
  | .error .notFound => .absent
  | .error .notADirectory => .blocked
  | .error fault => .unnamed fault
  | .ok place =>
    match d.get? place with
    | none => .absent
    | some (.file _ _) => .blocked
    | some .folder => .present (.ofList (d.children place))

/-- Puts the files of `directory` in the place of those that are at `path`. Folders stay as they
are. -/
def keep (d : Disk) (path : String) (directory : Directory) : Disk :=
  match directory, d.create path with
  | .present entries, .ok (d, place) =>
    let d := (d.children place).foldl (fun d (name, entry) =>
      match entry with
      | .file _ _ => d.erase (place ++ [name])
      | .folder => d) d
    entries.toList.foldl (fun d (name, entry) => d.put (place ++ [name]) entry) d
  | _, _ => d

/-! ### What others do to it -/

/-- Writes a file with the given contents and mode, in the place of one that is there. -/
def write (d : Disk) (path : String) (contents : List UInt8) (mode : Mode) :
    Except IoFault Disk := do
  let place ← d.find path
  match d.get? place with
  | some .folder => throw .isADirectory
  | _ => return d.put place (.file contents mode)

/-- Takes a file away. -/
def removeFile (d : Disk) (path : String) : Except IoFault Disk := do
  let place ← d.find path
  match d.get? place with
  | none => throw .notFound
  | some .folder => throw .isADirectory
  | some (.file _ _) => return d.erase place

/-- Makes a folder, and those on the way that are missing. A path that ends by going back names
none, but what is on the way is there afterwards. -/
def makeFolder (d : Disk) (path : String) : Disk × Except IoFault Unit :=
  match d.create path with
  | .error fault => (d, .error fault)
  | .ok (d, _) =>
    (d, if (names path).getLast? = some ".." then .error .alreadyExists else .ok ())

/-- Takes a folder away with all that is in it. One that is named by way of itself or of what is in
it is emptied and stays. -/
def removeFolder (d : Disk) (path : String) : Disk :=
  match d.find path with
  | .error _ => d
  | .ok place =>
    match d.get? place with
    | some .folder =>
      let stays := ((names path).getLast?.any fun name => name = "." ∨ name = "..") || place.isEmpty
      ⟨d.entries.filter fun p _ => !place.isPrefixOf p || (stays && p == place)⟩
    | _ => d

/-- Puts an empty file in the place of a folder. -/
def replaceFolder (d : Disk) (path : String) (mode : Mode) : Disk × Except IoFault Unit :=
  let d := d.removeFolder path
  match d.write path [] mode with
  | .ok d => (d, .ok ())
  | .error fault => (d, .error fault)

end Disk

end FleetAgent
