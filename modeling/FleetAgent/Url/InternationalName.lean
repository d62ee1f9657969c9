import FleetAgent.Text.Composed
import FleetAgent.Text.Cut
import FleetAgent.Text.Direction
import FleetAgent.Text.Joining
import FleetAgent.Url.NameMapping
import FleetAgent.Url.Punycode
/-!
# International names

A name of a host has labels between dots. Before it is used, it is brought into its usual spelling
(`usualSpelling?`): every character is replaced by what it stands for, and the whole is composed. A
label that then starts with `xn--` stands for one with characters outside ASCII (`decodedLabel?`). A
label with characters outside ASCII is sound if it is composed, holds only characters of names, does
not start with a mark, and has the signs that part and join letters only where they show
(`isSoundLabel`).

Once a label of the name is written from the right, all labels must keep to one direction
(`keepsDirection`), so that nothing in the name changes its place when it is displayed.

A name all of whose labels are sound is used in the letters of ASCII (`asciiName?`).
-/

namespace FleetAgent.Url

open FleetAgent.Text

/-- What a label with characters outside ASCII starts with. -/
def encodedMark : List Char := ['x', 'n', '-', '-']

/-- No label that is decoded is longer than this. -/
def longestEncoded : Nat := 2000

/-- No label that is encoded is longer than this. -/
def longestDecoded : Nat := 1000

/-- Whether a text holds characters of ASCII only. -/
def isAscii (cs : List Char) : Bool :=
  cs.all (·.toNat < 0x80)

/-! ### Spelling -/

/-- The usual spelling of a name, in small letters and composed. A name in ASCII is composed. -/
def usualSpelling? (name : List Char) : Option (List Char) :=
  if isAscii name then some (name.map Char.toLower)
  else (name.mapM replacement?).map (composed ·.flatten)

/-! ### Joined letters -/

/-- Whether the text, which is given backwards, ends with a sign that takes a vowel away. -/
def endsWithVirama (before : List Char) : Bool :=
  before.head?.any (combiningClass · == viramaClass)

/-- Whether the letters around a place would be joined. The text before it is given backwards. -/
def isJoined (before after : List Char) : Bool :=
  (before.find? (!isTransparent ·)).any joinsNext &&
    (after.find? (!isTransparent ·)).any joinsPrevious

/-- Whether the signs that part and join letters stand only where they show. `before` is the text
that has been looked at, backwards. -/
def joinersFit (before : List Char) : List Char → Bool
  | [] => true
  | c :: after =>
    (if c = joiner then endsWithVirama before
      else if c = nonJoiner then endsWithVirama before || isJoined before after
      else true) && joinersFit (c :: before) after

/-! ### Directions -/

/-- Whether a character is written from the right, or is a digit of a script that is. -/
def isFromRight (c : Char) : Bool :=
  direction c == .right || direction c == .arabicNumber

/-- Whether a label keeps to one direction: it starts with a letter, holds no letter of the other
direction, and ends with a letter or a digit of its own, marks apart. An empty label does. -/
def keepsDirection : List Char → Bool
  | [] => true
  | first :: rest =>
    let backwards := (rest.map direction).reverse.dropWhile (· == .mark)
    match direction first with
    | .left =>
      backwards.all (fun d => d != .right && d != .arabicNumber) &&
        backwards.head?.all fun d => d == .left || d == .europeanNumber
    | .right =>
      backwards.all (· != .left) &&
        !(backwards.contains .arabicNumber && backwards.contains .europeanNumber) &&
        backwards.head?.all fun d => d == .right || d == .arabicNumber || d == .europeanNumber
    | _ => false

/-! ### Labels and names -/

/-- Whether a decoded label is sound: it holds characters of names only, is not marked as encoded,
does not start with a mark, has its joiners in place, and is composed. -/
def isSoundLabel (label : List Char) : Bool :=
  label.all (fun c => c.toNat < 0x80 || isNameCharacter c) &&
    (stripLeading encodedMark label).isNone && !label.head?.any isMark && joinersFit [] label &&
    isComposed label

/-- The label that a label stands for, if it is sound. A label of ASCII that is not marked stands
for itself, and one that is marked must be in ASCII. -/
def decodedLabel? (label : List Char) : Option (List Char) :=
  match stripLeading encodedMark label with
  | none => if isAscii label || isSoundLabel label then some label else none
  | some encoded =>
    if label.getLast? = some '-' ∨ longestEncoded < encoded.length ∨ ¬isAscii encoded then none
    else (Punycode.decode? encoded).filter isSoundLabel

/-- Whether a name in its usual spelling is sound. -/
def isSoundName (name : List Char) : Bool :=
  match (splitOn '.' name).mapM decodedLabel? with
  | none => false
  | some labels => !labels.any (·.any isFromRight) || labels.all keepsDirection

/-- A label in the letters of ASCII, if it is not too long for them. -/
def encodedLabel? (label : List Char) : Option (List Char) :=
  if isAscii label then some label
  else if longestDecoded < label.length then none
  else some (encodedMark ++ Punycode.encode label)

/-- The name in the letters of ASCII that stands for `name`, if its usual spelling is sound and
holds no character that is forbidden in names. -/
def asciiName? (name : List Char) : Option (List Char) := do
  let name ← usualSpelling? name
  if name.any isForbidden || !isSoundName name then none
  else
    let labels ← (splitOn '.' name).mapM encodedLabel?
    some (['.'].intercalate labels)

end FleetAgent.Url
