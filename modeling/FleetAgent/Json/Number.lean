import FleetAgent.Decimal.Layout
/-!
# Numbers of JSON

An integer that fits in 64 bits, with or without a sign, is kept exactly. Any other number is a
double: one with a fraction or an exponent, one out of that range, and minus zero.

The digits of a number that is not kept exactly are gathered into a significand of at most 64 bits.
A digit before the point that no longer fits raises the exponent instead; the first digit after the
point that does not fit ends the gathering. The significand is then scaled by one multiplication or
division by a power of ten, so the double read is near the number and not always the nearest. A
number beyond the greatest double is refused.
-/

namespace FleetAgent.Json

/-- Whether the integer `value` fits in 64 bits, with or without a sign. -/
abbrev FitsWord (value : Int) : Prop :=
  -0x8000000000000000 ≤ value ∧ value < 0x10000000000000000

/-- A number as it is kept after reading. Which of the two it is depends on how it was written. -/
inductive Number where
  /-- An integer of 64 bits, signed or unsigned. -/
  | integer (value : Int) (inRange : FitsWord value)
  /-- A finite double. -/
  | double (value : Float)
deriving DecidableEq

namespace Number

/-- How doubles are written: without an exponent from `0.00001` up to sixteen digits before the
point. -/
def layout : Decimal.Layout := ⟨fun place => -5 ≤ place && place < 16⟩

/-- The number as it is written. -/
def render : Number → List Char
  | .integer value _ =>
    if value < 0 then '-' :: Nat.toDigits 10 value.natAbs else Nat.toDigits 10 value.natAbs
  | .double value => (layout.renderFloat value).toList

/-! ### From digits to numbers -/

/-- A number as it stands in the text, cut into its parts. -/
structure Token where
  /-- Whether it starts with a minus sign. -/
  negative : Bool
  /-- The digits before the point. -/
  whole : List Nat
  /-- The digits after the point, if there is one. -/
  fraction : List Nat
  /-- The exponent, if there is one: whether it is negative, and its digits. -/
  exponent : Option (Bool × List Nat)
  /-- Whether there is a point. -/
  hasPoint : Bool

/-- The number that the row of decimal digits `ds` stands for. -/
def ofDigits (ds : List Nat) : Nat :=
  ds.foldl (fun n d => n * 10 + d) 0

/-- The significand and the exponent that are gathered from the digits before the point. -/
def gatherWhole (ds : List Nat) : Nat × Int :=
  let fits := (List.range (ds.length + 1)).reverse.find? fun n =>
    ofDigits (ds.take n) < 0x10000000000000000
  let kept := fits.getD 0
  (ofDigits (ds.take kept), (ds.length : Int) - kept)

/-- Adds the digits after the point to a significand and its exponent, as long as they fit in 64
bits. -/
def gatherFraction : Nat × Int → List Nat → Nat × Int
  | acc, [] => acc
  | (sig, exp), d :: ds =>
    if sig * 10 + d < 0x10000000000000000 then gatherFraction (sig * 10 + d, exp - 1) ds
    else (sig, exp)

/-- Scales a double by the power of ten `exponent`, in steps that a double can hold. There is none
if the result is too great. -/
def scale (x : Float) (exponent : Int) : Option Float :=
  if exponent.natAbs ≤ 308 then
    let power := Float.ofScientific 1 false exponent.natAbs
    if 0 ≤ exponent then
      let y := x * power
      if y.isInf then none else some y
    else some (x / power)
  else if x == 0 then some x
  else if 0 ≤ exponent then none
  else scale (x / Float.ofScientific 1 false 308) (exponent + 308)
termination_by exponent.natAbs

/-- The double that the significand `sig` and the exponent `exp` stand for, if it is not too
great. -/
def ofParts (negative : Bool) (sig : Nat) (exp : Int) : Option Number :=
  (scale sig.toUInt64.toFloat exp).map fun x => .double (if negative then -x else x)

/-- The number of a text, or none if it is too great. Minus zero is a double, since no integer
stands for it. -/
def ofToken (t : Token) : Option Number :=
  match t.exponent, t.hasPoint with
  | none, false =>
    let n := ofDigits t.whole
    if t.negative then
      if h : n ≠ 0 ∧ n ≤ 0x8000000000000000 then some (.integer (-n) (by omega))
      else ofParts true (gatherWhole t.whole).1 (gatherWhole t.whole).2
    else if h : n < 0x10000000000000000 then some (.integer n (by omega))
    else ofParts false (gatherWhole t.whole).1 (gatherWhole t.whole).2
  | exponent, _ =>
    let (sig, exp) := gatherFraction (gatherWhole t.whole) t.fraction
    let shift : Int := match exponent with
      | none => 0
      | some (true, ds) => -(ofDigits ds : Int)
      | some (false, ds) => ofDigits ds
    ofParts t.negative sig (exp + shift)

end Number

end FleetAgent.Json
