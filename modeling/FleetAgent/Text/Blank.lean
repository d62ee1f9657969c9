/-!
# Blank and control characters

Two Unicode classes decide what may stand in an identifier and what is trimmed from the lines of a
configuration file: `White_Space` (25 characters) and the control characters `Cc` (65 characters).
Both are small enough to be given by their ranges.
-/

namespace FleetAgent.Text

/-- The characters with the Unicode property `White_Space`. -/
def isBlank (c : Char) : Bool :=
  (0x9 ≤ c.toNat && c.toNat ≤ 0xD) || c.toNat == 0x20 || c.toNat == 0x85 || c.toNat == 0xA0 ||
    c.toNat == 0x1680 || (0x2000 ≤ c.toNat && c.toNat ≤ 0x200A) || c.toNat == 0x2028 ||
    c.toNat == 0x2029 || c.toNat == 0x202F || c.toNat == 0x205F || c.toNat == 0x3000

/-- The characters of general category `Cc`. -/
def isControl (c : Char) : Bool :=
  c.toNat ≤ 0x1F || (0x7F ≤ c.toNat && c.toNat ≤ 0x9F)

/-- The blanks of ASCII alone, without the vertical tab: space, tab, line feed, form feed and
carriage return. -/
def isAsciiBlank (c : Char) : Bool :=
  c == ' ' || c == '\t' || c == '\n' || c.toNat == 0xC || c == '\r'

/-- A decimal digit of ASCII. -/
def isDigit (c : Char) : Bool :=
  '0' ≤ c && c ≤ '9'

/-- The value of the hexadecimal digit `c`, of either case. -/
def hexValue? (c : Char) : Option Nat :=
  if isDigit c then some (c.toNat - '0'.toNat)
  else if 'a' ≤ c && c ≤ 'f' then some (c.toNat - 'a'.toNat + 10)
  else if 'A' ≤ c && c ≤ 'F' then some (c.toNat - 'A'.toNat + 10)
  else none

/-- The lower-case digits of a number in a base of at most sixteen, without leading zeros. -/
def digits (base : Nat) (n : Nat) : List Char :=
  Nat.toDigits base n

/-! ### Trimming -/

/-- The characters that are left of `cs` after dropping those of the class `blank` at both ends.
Those in between stay. -/
def trimChars (blank : Char → Bool) (cs : List Char) : List Char :=
  ((cs.dropWhile blank).reverse.dropWhile blank).reverse

/-- The text without the blanks at both of its ends. -/
def trim (s : String) : String :=
  String.ofList (trimChars isBlank s.toList)

/-- The text `s` without the character `c` at its end, however often it stands there. -/
def dropTrailing (c : Char) (s : String) : String :=
  String.ofList (s.toList.reverse.dropWhile (· == c)).reverse

/-- The text `s` without the character `c` at its start, however often it stands there. -/
def dropLeading (c : Char) (s : String) : String :=
  String.ofList (s.toList.dropWhile (· == c))

/-- The text with the capital letters of ASCII made small. -/
def toAsciiLower (s : String) : String :=
  String.ofList (s.toList.map Char.toLower)

end FleetAgent.Text
