/-!
# UTF-8, strict and lossy

A byte string is read as a list of *symbols*: characters, and strays. A stray is a maximal prefix
of bytes that could begin a character and is not continued as one (or a single byte that can begin
none). Both readings of bytes as text come from this one list: the strict one wants no stray, the
lossy one puts the replacement character for each.

The reader is a machine over single bytes. Its state says which bytes may come next; a byte that
may not ends the pending character as a stray and is looked at again as a first byte.

`first` reads a first byte, `Pending` is the state behind it, and `symbolsFrom` reads on from a
state. `decode?` is the strict reading, `decodeLossy` the lossy one, and `encode` gives the bytes of
a text.
-/

namespace FleetAgent.Text

/-- One unit of a byte string read as UTF-8. Every byte string is a list of them. -/
inductive Symbol where
  /-- A character, well formed. -/
  | char (c : Char)
  /-- A run of `size` bytes that begins no character, or a character that is broken off. -/
  | stray (size : Nat)
deriving Repr, DecidableEq, Inhabited

/-- The number of bytes that a symbol stands for. -/
def Symbol.byteLength : Symbol → Nat
  | .char c => c.utf8Size
  | .stray n => n

/-- The character that a symbol is in the lossy reading. -/
def Symbol.toChar : Symbol → Char
  | .char c => c
  | .stray _ => '\uFFFD'

/-- The character that a symbol is in the strict reading. -/
def Symbol.char? : Symbol → Option Char
  | .char c => some c
  | .stray _ => none

namespace Utf8

/-- A character whose first bytes have been read, and what may come next. -/
structure Pending where
  /-- How many bytes are still owed. -/
  owed : Nat
  /-- The least value of the next byte. -/
  lo : Nat
  /-- The greatest value of the next byte. -/
  hi : Nat
  /-- The bits collected so far. -/
  bits : Nat
  /-- How many bytes have been read. -/
  size : Nat

/-- What a first byte does: it is a character, begins one, or can begin none. The second byte of
`E0` and `F0` is bounded below, so that nothing is written longer than need be; that of `ED` above,
so that no surrogate is written; that of `F4` above, so that no number exceeds `10FFFF`. -/
def first (b : UInt8) : Symbol ⊕ Pending :=
  let n := b.toNat
  if n < 0x80 then .inl (.char (Char.ofNat n))
  else if n < 0xC2 then .inl (.stray 1)
  else if n < 0xE0 then .inr ⟨1, 0x80, 0xBF, n - 0xC0, 1⟩
  else if n < 0xF0 then
    .inr ⟨2, if n = 0xE0 then 0xA0 else 0x80, if n = 0xED then 0x9F else 0xBF, n - 0xE0, 1⟩
  else if n < 0xF5 then
    .inr ⟨3, if n = 0xF0 then 0x90 else 0x80, if n = 0xF4 then 0x8F else 0xBF, n - 0xF0, 1⟩
  else .inl (.stray 1)

/-- Reads bytes from the given state, which is a character that has been begun or none. -/
def symbolsFrom : Option Pending → List UInt8 → List Symbol
  | none, [] => []
  | some p, [] => [.stray p.size]
  | none, b :: bs =>
    match first b with
    | .inl s => s :: symbolsFrom none bs
    | .inr p => symbolsFrom (some p) bs
  | some p, b :: bs =>
    if p.lo ≤ b.toNat ∧ b.toNat ≤ p.hi then
      let bits := p.bits * 64 + (b.toNat - 0x80)
      if p.owed ≤ 1 then .char (Char.ofNat bits) :: symbolsFrom none bs
      else symbolsFrom (some ⟨p.owed - 1, 0x80, 0xBF, bits, p.size + 1⟩) bs
    else
      -- The character breaks off before `b`, which is looked at again as a first byte.
      .stray p.size ::
        match first b with
        | .inl s => s :: symbolsFrom none bs
        | .inr q => symbolsFrom (some q) bs

/-- The symbols of a byte string. -/
def symbols (bytes : List UInt8) : List Symbol :=
  symbolsFrom none bytes

/-- The bytes as text, if all of them are well formed. -/
def decode? (bytes : List UInt8) : Option String :=
  ((symbols bytes).mapM Symbol.char?).map String.ofList

/-- The bytes as text, each stray shown as the replacement character. Every byte string is one. -/
def decodeLossy (bytes : List UInt8) : String :=
  String.ofList ((symbols bytes).map Symbol.toChar)

/-- The bytes of a text. -/
def encode (s : String) : List UInt8 :=
  s.toUTF8.data.toList

end Utf8

end FleetAgent.Text
