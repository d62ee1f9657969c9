import FleetAgent.Text.Blank
import FleetAgent.Text.Utf8
/-!
# Percent encoding

Each part of a URL has characters that stand in it only as their bytes, each written as `%` and two
hexadecimal digits. Characters outside ASCII are encoded everywhere.
-/

namespace FleetAgent.Url

open FleetAgent.Text (Utf8.encode hexValue?)

/-- The upper-case hexadecimal digit of a number below 16. -/
def hexDigit (n : Nat) : Char :=
  (Nat.digitChar n).toUpper

/-- A byte as it stands for itself in a URL. -/
def percent (b : UInt8) : List Char :=
  ['%', hexDigit (b.toNat / 16), hexDigit (b.toNat % 16)]

/-- The text `cs` with the characters of the class `cls` encoded; the others stand as they are, also
`%`. -/
def encode (cls : Char → Bool) (cs : List Char) : List Char :=
  cs.flatMap fun c => if cls c then (Utf8.encode (String.singleton c)).flatMap percent else [c]

/-- The bytes of a text in which `%` and two hexadecimal digits stand for a byte. A `%` without them
stands for itself. -/
def decode : List Char → List UInt8
  | [] => []
  | '%' :: a :: b :: r =>
    match hexValue? a, hexValue? b with
    | some x, some y => UInt8.ofNat (x * 16 + y) :: decode r
    | _, _ => Utf8.encode "%" ++ decode (a :: b :: r)
  | c :: r => Utf8.encode (String.singleton c) ++ decode r

/-! ### The classes that are encoded -/

/-- Controls and characters outside ASCII: encoded everywhere. -/
def inControls (c : Char) : Bool :=
  c.toNat < 0x20 || 0x7E < c.toNat

/-- Encoded in a fragment. -/
def inFragment (c : Char) : Bool :=
  inControls c || c == ' ' || c == '"' || c == '<' || c == '>' || c.toNat == 0x60

/-- Encoded in a segment of a path. -/
def inPath (c : Char) : Bool :=
  inFragment c || c == '#' || c == '?' || c == '\x7b' || c == '\x7d'

/-- Encoded in a user name or a password. -/
def inUserInfo (c : Char) : Bool :=
  inPath c || c == '/' || c == ':' || c == ';' || c == '=' || c == '@' || c == '[' || c == '\\' ||
    c == ']' || c == '^' || c == '|'

/-- Encoded in a query. -/
def inQuery (c : Char) : Bool :=
  inControls c || c == ' ' || c == '"' || c == '#' || c == '<' || c == '>'

/-- Encoded in the query of a URL of a special scheme. -/
def inSpecialQuery (c : Char) : Bool :=
  inQuery c || c == '\''

end FleetAgent.Url
