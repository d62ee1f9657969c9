import Std.Data.ExtTreeMap
/-!
# The directory of the state

A directory is seen as far as the agent uses one: it may be absent, something else may be in its
place or on the way to it, or it holds files and folders by name. A file has contents and a mode,
the permissions in the usual nine bits. The mode is given to a file when it is created, and stays
when the file is emptied and written again.

The operations are those of the file system that the agent calls: `Directory.create`, `openEmpty`,
`append`, `rename` and the reading of a file. Each gives an `IoFault` where the file system would.
-/

namespace FleetAgent

/-- The permissions of a file: read, write and execute, for the owner, the group and all others. -/
abbrev Mode := BitVec 9

/-- Why the file system refuses something, as far as the agent can meet it. -/
inductive IoFault where
  | notFound
  | notADirectory
  | isADirectory
  | alreadyExists
  /-- The path holds a character that no path holds. -/
  | invalidPath
  /-- A name on the path is too long. -/
  | nameTooLong
deriving Repr, DecidableEq

/-- The name of a fault. -/
def IoFault.label : IoFault → String
  | .notFound => "NotFound"
  | .notADirectory => "NotADirectory"
  | .isADirectory => "IsADirectory"
  | .alreadyExists => "AlreadyExists"
  | .invalidPath => "InvalidInput"
  | .nameTooLong => "InvalidFilename"

/-- What a name in a directory stands for, of which folders are not looked into. -/
inductive DirectoryEntry where
  /-- A file, with its contents and its mode. -/
  | file (contents : List UInt8) (mode : Mode)
  /-- A directory, of which only the existence matters. -/
  | folder
deriving Repr, DecidableEq

/-- A directory, as it is found behind the path of the state. -/
inductive Directory where
  /-- There is none. -/
  | absent
  /-- A file is in its place or on the way to it. -/
  | blocked
  /-- Its path cannot be one. -/
  | unnamed (fault : IoFault)
  /-- It holds entries by name. -/
  | present (entries : Std.ExtTreeMap String DirectoryEntry)

namespace Directory

/-- A directory without entries. -/
def empty : Directory := .present ∅

/-- What the name `name` stands for in `d`; nothing if there is no directory. -/
def get? (d : Directory) (name : String) : Option DirectoryEntry :=
  match d with
  | .present entries => entries[name]?
  | _ => none

/-- The names, in order. -/
def names (d : Directory) : List String :=
  match d with
  | .present entries => entries.keys
  | _ => []

/-- The contents of the file `name`, or why they cannot be read. -/
def read (d : Directory) (name : String) : Except IoFault (List UInt8) :=
  match d with
  | .blocked => .error .notADirectory
  | .unnamed fault => .error fault
  | _ =>
    match d.get? name with
    | none => .error .notFound
    | some .folder => .error .isADirectory
    | some (.file contents _) => .ok contents

/-- Makes sure that the directory exists, with the entries that it has. -/
def create (d : Directory) : Except IoFault Directory :=
  match d with
  | .absent => .ok .empty
  | .blocked => .error .alreadyExists
  | .unnamed fault => .error fault
  | .present _ => .ok d

/-- Lets `name` stand for `entry`, in a directory that exists. What it stood for is gone. -/
def put (d : Directory) (name : String) (entry : DirectoryEntry) : Directory :=
  match d with
  | .present entries => .present (entries.insert name entry)
  | _ => d

/-- Lets a name stand for nothing. -/
def erase (d : Directory) (name : String) : Directory :=
  match d with
  | .present entries => .present (entries.erase name)
  | _ => d

/-- Opens the file `name` for writing: one that exists is emptied and keeps its mode, otherwise one
with the mode `mode` is created. -/
def openEmpty (d : Directory) (name : String) (mode : Mode) : Except IoFault Directory :=
  match d with
  | .absent => .error .notFound
  | .blocked => .error .notADirectory
  | .unnamed fault => .error fault
  | .present _ =>
    match d.get? name with
    | some .folder => .error .isADirectory
    -- This `mode` is the one that the file has; the argument is only for a new file.
    | some (.file _ mode) => .ok (d.put name (.file [] mode))
    | none => .ok (d.put name (.file [] mode))

/-- Writes `bytes` at the end of the file `name`, whose mode stays. -/
def append (d : Directory) (name : String) (bytes : List UInt8) : Directory :=
  match d.get? name with
  | some (.file contents mode) => d.put name (.file (contents ++ bytes) mode)
  | _ => d

/-- Gives the file `source` the name `target`; a file of that name is replaced, contents and
mode. -/
def rename (d : Directory) (source target : String) : Except IoFault Directory :=
  match d.get? source, d.get? target with
  | none, _ => .error .notFound
  | some (.file _ _), some .folder => .error .isADirectory
  | some entry, _ => .ok ((d.erase source).put target entry)

/-! ### What the operations do to the entries -/

@[simp] theorem get?_empty (name : String) : empty.get? name = none := by
  simp [empty, get?]

theorem get?_put {d : Directory} {entries : Std.ExtTreeMap String DirectoryEntry}
    (h : d = .present entries) (name other : String) (entry : DirectoryEntry) :
    (d.put name entry).get? other = if name = other then some entry else d.get? other := by
  subst h
  simp [put, get?, Std.ExtTreeMap.getElem?_insert]

/-- What was erased is not there any more, and nothing else has changed. -/
theorem get?_erase (d : Directory) (name other : String) :
    (d.erase name).get? other = if name = other then none else d.get? other := by
  cases d <;> simp [erase, get?, Std.ExtTreeMap.getElem?_erase]

end Directory

end FleetAgent
