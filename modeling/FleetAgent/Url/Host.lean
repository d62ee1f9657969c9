import FleetAgent.Url.InternationalName
import FleetAgent.Url.Percent
/-!
# Hosts

A host is a name or an address. An IPv4 address has one to four parts, each decimal, octal behind
`0` or hexadecimal behind `0x`, and the last part fills all the bytes that are left; a name whose
last part is a number is always read as such an address. An IPv6 address stands in brackets and has
eight pieces, of which one run may be left out; its last two may be written as an IPv4 address of
four decimal parts.

A name may be spelt in the letters of all scripts. It is used in the letters of ASCII, in which
`asciiName?` writes it, and only there does it show whether it is an IPv4 address.
-/

namespace FleetAgent.Url

open FleetAgent.Text

/-- What a URL points to, in the form in which it is compared. -/
inductive Host where
  /-- A name, in the small letters of ASCII. -/
  | domain (name : String)
  /-- An address of 32 bits. -/
  | ipv4 (address : Nat)
  /-- An address of eight pieces of 16 bits. -/
  | ipv6 (pieces : List Nat)
  /-- A name in a scheme without rules for names. -/
  | plain (name : String)
deriving Repr, DecidableEq

/-- Why a text is not a URL, as far as these are told apart. -/
inductive ParseError where
  | noBase
  | emptyHost
  | invalidPort
  | invalidIPv4
  | invalidIPv6
  | invalidInternationalName
  | invalidDomainCharacter
deriving Repr, DecidableEq

/-- The message for a reader. -/
def ParseError.message : ParseError → String
  | .noBase => "relative URL without a base"
  | .emptyHost => "empty host"
  | .invalidPort => "invalid port number"
  | .invalidIPv4 => "invalid IPv4 address"
  | .invalidIPv6 => "invalid IPv6 address"
  | .invalidInternationalName => "invalid international domain name"
  | .invalidDomainCharacter => "invalid domain character"

/-- The number that the digits `cs` stand for in `base`, if all of them are digits of it. An empty
text stands for zero. -/
def number? (base : Nat) (cs : List Char) : Option Nat :=
  cs.foldl (fun n c => do
    let d ← hexValue? c
    let n ← n
    if d < base then some (n * base + d) else none) (some 0)

/-! ### IPv4 -/

/-- The value of a part of an IPv4 address, however great. -/
def ipv4Part? : List Char → Option Nat
  | [] => none
  | ['0'] => some 0
  | '0' :: 'x' :: r => number? 16 r
  | '0' :: 'X' :: r => number? 16 r
  | '0' :: r => number? 8 r
  | r => number? 10 r

/-- The parts of a name between its dots, without the empty one behind a dot at the end. -/
def labels (name : List Char) : List (List Char) :=
  let parts := splitOn '.' name
  if parts.getLast? = some [] then parts.dropLast else parts

/-- Whether a name must be read as an IPv4 address: its last part is a number, so no name may be
one. -/
def endsInNumber (name : List Char) : Bool :=
  match (labels name).getLast? with
  | none => false
  | some last => (!last.isEmpty && last.all isDigit) || (ipv4Part? last).isSome

/-- The IPv4 address that a name stands for. The last part fills the bytes that the others leave,
and must fit into them. -/
def ipv4? (name : List Char) : Option Nat := do
  let parts ← (labels name).mapM ipv4Part?
  let last ← parts.getLast?
  let front := parts.dropLast
  if 3 < front.length then none
  else if front.any (255 < ·) then none
  else if Nat.pow 256 (4 - front.length) ≤ last then none
  else some (front.foldl (fun n p => n * 256 + p) 0 * Nat.pow 256 (4 - front.length) + last)

/-- The four bytes of an IPv4 address between dots. -/
def ipv4Text (address : Nat) : String :=
  String.intercalate "." ([16777216, 65536, 256, 1].map fun unit =>
    toString (address / unit % 256))

/-! ### IPv6 -/

/-- A piece of an IPv6 address: one to four hexadecimal digits. -/
def ipv6Piece? (cs : List Char) : Option Nat :=
  if cs.isEmpty || 4 < cs.length then none else number? 16 cs

/-- A decimal byte without a needless zero. -/
def decimalByte? (cs : List Char) : Option Nat :=
  if cs.isEmpty || (1 < cs.length && cs.head? = some '0') then none
  else (number? 10 cs).filter (· ≤ 255)

/-- The pieces at the end of an IPv6 address, where an IPv4 address may stand. -/
def ipv6Tail? (cs : List Char) : Option (List Nat) :=
  if cs.contains '.' then do
    match ← (splitOn '.' cs).mapM decimalByte? with
    | [a, b, c, d] => some [a * 256 + b, c * 256 + d]
    | _ => none
  else (ipv6Piece? cs).map ([·])

/-- The pieces of a part of an IPv6 address; at its end an IPv4 address may stand if `tail` says so.
An empty text has none. -/
def ipv6Pieces? (tail : Bool) (cs : List Char) : Option (List Nat) :=
  if cs.isEmpty then some []
  else do
    let parts := splitOn ':' cs
    let front ← parts.dropLast.mapM ipv6Piece?
    let last ← parts.getLast?
    let last ← if tail then ipv6Tail? last else (ipv6Piece? last).map ([·])
    some (front ++ last)

/-- The IPv6 address of the text `cs` between brackets: eight pieces, or fewer with `::` in the
place of the missing ones. -/
def ipv6? (cs : List Char) : Option (List Nat) := do
  match splitAtText [':', ':'] cs with
  | none =>
    let pieces ← ipv6Pieces? true cs
    if pieces.length = 8 then some pieces else none
  | some (l, r) =>
    let left ← ipv6Pieces? false l
    let right ← ipv6Pieces? true r
    let missing := 8 - (left.length + right.length)
    if missing = 0 then none else some (left ++ List.replicate missing 0 ++ right)

/-! ### Names -/

/-- The host of a scheme with rules for names: an address in brackets, or a name, which is decoded
and written in ASCII first. -/
def parseHost (cs : List Char) : Except ParseError Host :=
  match cs with
  | '[' :: r =>
    if r.getLast? = some ']' then
      match ipv6? r.dropLast with
      | some pieces => .ok (.ipv6 pieces)
      | none => .error .invalidIPv6
    else .error .invalidIPv6
  | _ =>
    match Utf8.decode? (decode cs) with
    | none => .error .invalidInternationalName
    | some s =>
      match asciiName? s.toList with
      | none => .error .invalidInternationalName
      | some name =>
        if name.isEmpty then .error .emptyHost
        -- A name whose last label is a number must be an address.
        else if endsInNumber name then
          match ipv4? name with
          | some a => .ok (.ipv4 a)
          | none => .error .invalidIPv4
        else .ok (.domain (String.ofList name))

/-- The characters that no host holds even in a scheme without rules for names. -/
def isForbiddenPlain (c : Char) : Bool :=
  [Char.ofNat 0, '\t', '\n', '\r', ' ', '#', '/', ':', '<', '>', '?', '@', '[', '\\', ']', '^',
    '|'].contains c

/-- The host of a scheme without rules for names. -/
def parsePlainHost (cs : List Char) : Except ParseError Host :=
  match cs with
  | '[' :: r =>
    if r.getLast? = some ']' then
      match ipv6? r.dropLast with
      | some pieces => .ok (.ipv6 pieces)
      | none => .error .invalidIPv6
    else .error .invalidIPv6
  | _ =>
    if cs.any isForbiddenPlain then .error .invalidDomainCharacter
    else .ok (.plain (String.ofList (encode inControls cs)))

end FleetAgent.Url
