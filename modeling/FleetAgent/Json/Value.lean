import FleetAgent.Json.Number
import FleetAgent.Text.Blank
/-!
# JSON values and their texts

A value holds the members of an object in the order in which they are written. Values that have
been read hold them sorted by key with each key once (`Json.collect`); values that a record is
written as hold them in the order of its fields.

There are two texts of a value: the compact one without any blank, and the indented one with two
spaces a level.
-/

namespace FleetAgent

/-- A JSON value. Objects are told apart by the order of their members, and may repeat a key. -/
inductive Json where
  | null
  | boolean (b : Bool)
  | number (n : Json.Number)
  | text (s : String)
  | array (items : List Json)
  | object (members : List (String × Json))

namespace Json

/-! ### Objects -/

/-- Sets the value of `key` among sorted members, which stay sorted. -/
def setMember (key : String) (value : Json) : List (String × Json) → List (String × Json)
  | [] => [(key, value)]
  | (k, v) :: r =>
    if key = k then (key, value) :: r
    else if key < k then (key, value) :: (k, v) :: r
    else (k, v) :: setMember key value r

/-- The members sorted by key; of several with one key the last counts. -/
def collect (members : List (String × Json)) : List (String × Json) :=
  members.foldl (fun acc (k, v) => setMember k v acc) []

/-- The value of `key` among members; of several the first. -/
def lookup (key : String) : List (String × Json) → Option Json
  | [] => none
  | (k, v) :: r => if k = key then some v else lookup key r

/-- The value of `key`, if the value is an object that holds it. -/
def get? (key : String) : Json → Option Json
  | .object members => lookup key members
  | _ => none

/-- The text, if the value is one. -/
def text? : Json → Option String
  | .text s => some s
  | _ => none

/-- A member that is left out when it is absent. -/
def memberIfSome (name : String) : Option String → List (String × Json)
  | none => []
  | some s => [(name, .text s)]

/-! ### Texts -/

/-- The character `c` as it stands in a JSON string: itself, unless it is a quote, a backslash or a
control of ASCII. -/
def escape (c : Char) : List Char :=
  if c = '"' then ['\\', '"']
  else if c = '\\' then ['\\', '\\']
  else if c = '\n' then ['\\', 'n']
  else if c = '\r' then ['\\', 'r']
  else if c = '\t' then ['\\', 't']
  else if c.toNat = 0x8 then ['\\', 'b']
  else if c.toNat = 0xC then ['\\', 'f']
  else if c.toNat < 0x20 then
    ['\\', 'u', '0', '0', Nat.digitChar (c.toNat / 16), Nat.digitChar (c.toNat % 16)]
  else [c]

/-- A text as a JSON string. -/
def quote (s : String) : List Char :=
  '"' :: s.toList.flatMap escape ++ ['"']

mutual

/-- The compact text of a value. -/
def render : Json → List Char
  | .null => ['n', 'u', 'l', 'l']
  | .boolean true => ['t', 'r', 'u', 'e']
  | .boolean false => ['f', 'a', 'l', 's', 'e']
  | .number n => n.render
  | .text s => quote s
  | .array items => '[' :: renderItems items ++ [']']
  | .object members => '\x7b' :: renderMembers members ++ ['\x7d']

/-- The items of an array with commas between them. -/
def renderItems : List Json → List Char
  | [] => []
  | [v] => render v
  | v :: w :: r => render v ++ ',' :: renderItems (w :: r)

/-- The members of an object with commas between them. -/
def renderMembers : List (String × Json) → List Char
  | [] => []
  | [(k, v)] => quote k ++ ':' :: render v
  | (k, v) :: m :: r => quote k ++ ':' :: render v ++ ',' :: renderMembers (m :: r)

end

/-- The compact text of a value. -/
def compact (v : Json) : String :=
  String.ofList v.render

/-- A line break and the blanks of a level. -/
def newline (level : Nat) : List Char :=
  '\n' :: List.replicate (2 * level) ' '

mutual

/-- The indented text of a value at a level. -/
def renderIndented (level : Nat) : Json → List Char
  | .array [] => ['[', ']']
  | .array (v :: r) => '[' :: indentItems (level + 1) (v :: r) ++ newline level ++ [']']
  | .object [] => ['\x7b', '\x7d']
  | .object (m :: r) => '\x7b' :: indentMembers (level + 1) (m :: r) ++ newline level ++ ['\x7d']
  | v => render v

/-- The items of an array, each on a line of its own. -/
def indentItems (level : Nat) : List Json → List Char
  | [] => []
  | [v] => newline level ++ renderIndented level v
  | v :: w :: r => newline level ++ renderIndented level v ++ ',' :: indentItems level (w :: r)

/-- The members of an object, each on a line of its own. -/
def indentMembers (level : Nat) : List (String × Json) → List Char
  | [] => []
  | [(k, v)] => newline level ++ quote k ++ ':' :: ' ' :: renderIndented level v
  | (k, v) :: m :: r =>
    newline level ++ quote k ++ ':' :: ' ' :: renderIndented level v ++
      ',' :: indentMembers level (m :: r)

end

/-- The indented text of a value. -/
def indented (v : Json) : String :=
  String.ofList (v.renderIndented 0)

end Json

end FleetAgent
