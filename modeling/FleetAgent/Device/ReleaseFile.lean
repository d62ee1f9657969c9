import FleetAgent.Device
import FleetAgent.Text.Cut
import FleetAgent.Text.Utf8
/-!
# The file that describes an operating system

A line `KEY=value` sets a field (`OsRelease.assignment?`). A value may stand in quotes of either
kind (`OsRelease.unquote`); blanks around the line, the key and the value do not matter. Empty
lines, lines that start with `#`, lines without `=` and lines with other keys say nothing. Of
several lines for one key the last one counts.

The description is read line by line with `OsRelease.readLine`, and is the value of each of the six
keys (`OsRelease.get?`).
-/

namespace FleetAgent.OsRelease

/-- The fields of a description, one for each word that is known in the file. -/
inductive Key where
  | prettyName
  | name
  | versionId
  | version
  | id
  | idLike
deriving Repr, DecidableEq

/-- The word for a field in the file. -/
def Key.label : Key → List Char
  | .prettyName => "PRETTY_NAME".toList
  | .name => "NAME".toList
  | .versionId => "VERSION_ID".toList
  | .version => "VERSION".toList
  | .id => "ID".toList
  | .idLike => "ID_LIKE".toList

/-- All fields. -/
def Key.all : List Key := [.prettyName, .name, .versionId, .version, .id, .idLike]

/-- The field for a word. -/
def Key.ofLabel? (word : List Char) : Option Key :=
  Key.all.find? (·.label == word)

/-- The value of a field of `r`, if it is set. -/
def get? (r : OsRelease) : Key → Option String
  | .prettyName => r.prettyName
  | .name => r.name
  | .versionId => r.versionId
  | .version => r.version
  | .id => r.id
  | .idLike => r.idLike

/-- The description `r` with the value `value` for a field; the other fields stay. -/
def set (r : OsRelease) (key : Key) (value : String) : OsRelease :=
  match key with
  | .prettyName => { r with prettyName := some value }
  | .name => { r with name := some value }
  | .versionId => { r with versionId := some value }
  | .version => { r with version := some value }
  | .id => { r with id := some value }
  | .idLike => { r with idLike := some value }

/-- A field that was set has its value, and the others have theirs. -/
@[simp] theorem get?_set (r : OsRelease) (key other : Key) (value : String) :
    (r.set key value).get? other = if key = other then some value else r.get? other := by
  cases key <;> cases other <;> rfl

/-- The value of every field decides the description. -/
theorem ext_get? {r s : OsRelease} (h : ∀ key, r.get? key = s.get? key) : r = s := by
  cases r; cases s
  simp only [OsRelease.mk.injEq]
  exact ⟨h .prettyName, h .name, h .versionId, h .version, h .id, h .idLike⟩

@[simp] theorem Key.ofLabel?_label (key : Key) : Key.ofLabel? key.label = some key := by
  cases key <;> decide

theorem Key.label_of_ofLabel? {word : List Char} {key : Key} (h : Key.ofLabel? word = some key) :
    key.label = word := by
  simpa using List.find?_some h

/-- What stands between two quotes `quote`, if the value starts and ends with them. One quote alone
is not both. -/
def between? (quote : Char) (value : List Char) : Option (List Char) :=
  match value with
  | c :: d :: r =>
    if c = quote ∧ (d :: r).getLast? = some quote then some (d :: r).dropLast else none
  | _ => none

/-- The value without the quotes around it, if there are any. -/
def unquote (value : List Char) : List Char :=
  (between? '"' value).getD ((between? '\'' value).getD value)

/-- What a line sets: a key and its value, without quotes and blanks around them. -/
def assignment? (line : List Char) : Option (Key × String) :=
  let line := Text.trimChars Text.isBlank line
  if line.head? = some '#' then none
  else do
    let (word, value) ← Text.splitOnce '=' line
    let key ← Key.ofLabel? (Text.trimChars Text.isBlank word)
    return (key, String.ofList (unquote (Text.trimChars Text.isBlank value)))

/-- The lines of a text. The carriage return that may end one is a blank. -/
def lines (text : List Char) : List (List Char) :=
  text.splitOn '\n'

/-- The description `r` with what a line sets, if it sets anything. -/
def readLine (r : OsRelease) (line : List Char) : OsRelease :=
  match assignment? line with
  | none => r
  | some (key, value) => r.set key value

/-- The description that a text gives. -/
def ofText (text : String) : OsRelease :=
  (lines text.toList).foldl readLine {}

/-- The description that the bytes of a file give: none of it if the bytes are not text. -/
def ofBytes (bytes : List UInt8) : OsRelease :=
  match Text.Utf8.decode? bytes with
  | some text => ofText text
  | none => {}

end FleetAgent.OsRelease
