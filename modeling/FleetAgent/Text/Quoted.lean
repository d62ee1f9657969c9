import FleetAgent.Text.Blank
import FleetAgent.Text.Printable
/-!
# Quoted text

How a character or a text is shown to a reader in a message or a log field: between quotes, with
the five named escapes (`\0 \t \r \n \\`), an escape for the quote that surrounds it, and
`\u{…}` with the number in lower-case hexadecimal for every character that is not printable.
-/

namespace FleetAgent.Text

/-- The character `c` as it stands between two `mark`s. -/
def escape (mark : Char) (c : Char) : List Char :=
  if c = Char.ofNat 0 then ['\\', '0']
  else if c = '\t' then ['\\', 't']
  else if c = '\r' then ['\\', 'r']
  else if c = '\n' then ['\\', 'n']
  else if c = '\\' then ['\\', '\\']
  else if c = mark then ['\\', mark]
  else if isPrintable c then [c]
  else ['\\', 'u', '\x7b'] ++ digits 16 c.toNat ++ ['\x7d']

/-- The text `s` between double quotes, as it is shown to a reader. -/
def quote (s : String) : String :=
  String.ofList (['"'] ++ s.toList.flatMap (escape '"') ++ ['"'])

/-- A character between single quotes. -/
def quoteChar (c : Char) : String :=
  String.ofList (['\''] ++ escape '\'' c ++ ['\''])

/-- A list of texts, quoted, between brackets. -/
def quoteList (xs : List String) : String :=
  "[" ++ String.intercalate ", " (xs.map quote) ++ "]"

end FleetAgent.Text
