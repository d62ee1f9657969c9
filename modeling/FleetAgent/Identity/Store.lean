import FleetAgent.Identity.Directory
import FleetAgent.Wire.Device
/-!
# Where the identity is kept

The identity of the device is kept in a file of the state directory. It is written once: first in
full to another file (`temporaryName`), which then takes the name (`fileName`). So the file is never
seen half written, and an identity that is there is never replaced.

A save is a list of steps (`saveSteps`), each of which may fail; a save that fails leaves the
directory as the last step left it.
-/

namespace FleetAgent

/-- Why an identity is not loaded or saved, each with the path of the file. -/
inductive IdentityError where
  /-- The file system refuses it. -/
  | io (path : String) (fault : IoFault)
  /-- The file does not hold an identity. -/
  | corrupt (path : String) (e : Wire.DecodeError)
  /-- There is another identity. -/
  | alreadyExists (path : String)
deriving DecidableEq

/-- The message for a reader, if it has a fixed wording. -/
def IdentityError.message? : IdentityError → Option String
  | .alreadyExists path => some ("a different identity is already stored at " ++ Text.quote path)
  | _ => none

/-- The path of `name` in `directory`. A name that starts with a slash stands for itself. -/
def joinPath (directory name : String) : String :=
  if name.startsWith "/" then name
  else if directory = "" ∨ directory.endsWith "/" then directory ++ name
  else directory ++ "/" ++ name

/-- A store for the identity, of which only the path is known; what is in it is the `Directory`. -/
structure IdentityStore where
  /-- The path of the state directory. -/
  stateDir : String

namespace IdentityStore

/-- The name of the file. -/
def fileName : String := "identity.json"

/-- The name of the file while it is written. -/
def temporaryName : String := "identity.json.tmp"

/-- The path of the file. -/
def path (s : IdentityStore) : String := joinPath s.stateDir fileName

/-- Loads the identity from `d`, if there is one. That there is no file is no error, and that the
file holds something else is. -/
def load (s : IdentityStore) (d : Directory) : Except IdentityError (Option Identity) :=
  match d.read fileName with
  | .error .notFound => .ok none
  | .error fault => .error (.io s.path fault)
  | .ok contents =>
    match Wire.decode Wire.identity contents with
    | .ok i => .ok (some i)
    | .error e => .error (.corrupt s.path e)

/-- The contents of the file for the identity `i`, in full. -/
def contents (i : Identity) : List UInt8 :=
  Text.Utf8.encode i.toJson.indented

/-- The permissions of a file that is created for its owner alone, less those that are masked. -/
def ownerMode (umask : Mode) : Mode := 0o600#9 &&& ~~~umask

/-! ### Saving -/

/-- A step of a save. What happens to the directory between two steps is up to the others. -/
inductive SaveStep where
  /-- Makes sure that the directory exists. -/
  | createDirectory
  /-- Opens the temporary file, which is then empty. -/
  | openTemporary
  /-- Writes to the temporary file. -/
  | write (bytes : List UInt8)
  /-- Makes sure that what was written is kept. -/
  | sync
  /-- Gives the temporary file its name. -/
  | rename
deriving Repr, DecidableEq

/-- What a step does to the directory `d`, if the file system lets it. -/
def SaveStep.apply (umask : Mode) (d : Directory) : SaveStep → Except IoFault Directory
  | .createDirectory => d.create
  | .openTemporary => d.openEmpty temporaryName (ownerMode umask)
  | .write bytes => .ok (d.append temporaryName bytes)
  | .sync => .ok d
  | .rename => d.rename temporaryName fileName

/-- The steps that save an identity where there is none. -/
def saveSteps (i : Identity) : List SaveStep :=
  [.createDirectory, .openTemporary, .write (contents i), .sync, .rename]

/-- Takes steps one after the other, up to the first that fails; gives the directory as it is
then. -/
def takeSteps (umask : Mode) (d : Directory) : List SaveStep → Directory × Except IoFault Unit
  | [] => (d, .ok ())
  | step :: rest =>
    match step.apply umask d with
    | .ok d => takeSteps umask d rest
    | .error fault => (d, .error fault)

/-- Saves the identity `i`. To save the one that is there already changes nothing, and another one
is refused. -/
def save (s : IdentityStore) (umask : Mode) (d : Directory) (i : Identity) :
    Directory × Except IdentityError Unit :=
  match s.load d with
  | .error e => (d, .error e)
  | .ok (some j) => (d, if j = i then .ok () else .error (.alreadyExists s.path))
  -- Only here is anything written, and the file itself is touched by the last step alone.
  | .ok none =>
    let (d, result) := takeSteps umask d (saveSteps i)
    (d, result.mapError (.io s.path))

end IdentityStore

end FleetAgent
