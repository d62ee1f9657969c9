import FleetAgent.Text.Blank
/-!
# Bytes in hexadecimal

A byte is written as two digits, the higher half first. Digits of either case are read and
lower-case ones are written, so that what was written is read as the same bytes (`decode?_encode`).
-/

namespace FleetAgent.Text.Hex

/-- The lower-case digit of a number below sixteen. -/
def digit (n : Nat) : Char :=
  if n < 10 then Char.ofNat ('0'.toNat + n) else Char.ofNat ('a'.toNat + (n - 10))

/-- The two digits of a byte. -/
def byteDigits (b : UInt8) : List Char :=
  [digit (b.toNat / 16), digit (b.toNat % 16)]

/-- Bytes as text. -/
def encode (bytes : List UInt8) : String :=
  String.ofList (bytes.flatMap byteDigits)

/-- The bytes that digits stand for, if they do: two for each byte. -/
def decodeDigits? : List Char → Option (List UInt8)
  | [] => some []
  | [_] => none
  | a :: b :: rest => do
    let high ← hexValue? a
    let low ← hexValue? b
    return UInt8.ofNat (16 * high + low) :: (← decodeDigits? rest)

/-- The bytes that a text stands for, if it does. -/
def decode? (s : String) : Option (List UInt8) :=
  decodeDigits? s.toList

/-! ### Round trip -/

theorem hexValue?_digit {n : Nat} (h : n < 16) : hexValue? (digit n) = some n := by
  have : ∀ m : Fin 16, hexValue? (digit m) = some m.val := by decide
  exact this ⟨n, h⟩

theorem decodeDigits?_flatMap (bytes : List UInt8) :
    decodeDigits? (bytes.flatMap byteDigits) = some bytes := by
  induction bytes with
  | nil => rfl
  | cons b rest ih =>
    have hb := b.toNat_lt
    have hs : 16 * (b.toNat / 16) + b.toNat % 16 = b.toNat := by omega
    simp [byteDigits, decodeDigits?, hexValue?_digit (show b.toNat / 16 < 16 by omega),
      hexValue?_digit (show b.toNat % 16 < 16 by omega), ih, hs, -UInt8.ofNat_add, -UInt8.ofNat_mul]

/-- **What was written is read as the same bytes.** -/
theorem decode?_encode (bytes : List UInt8) : decode? (encode bytes) = some bytes := by
  simp [decode?, encode, decodeDigits?_flatMap]

end FleetAgent.Text.Hex
