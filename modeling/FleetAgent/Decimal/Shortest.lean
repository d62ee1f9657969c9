/-!
# The shortest decimal of a floating-point number

A double stands for every real that rounds to it: an interval around its value, with the ends
included when its significand is even. Its *shortest decimal* is the decimal with the fewest digits
in that interval, and of those the one nearest to the value. Everything is decided in exact
arithmetic on naturals; the search walks the grids of 1, 2, … 17 digits and looks at the two
neighbours of the value on each. A double is always in reach of its neighbour on the grid of 17
digits.

`Interval.ofBits` is the interval of a double, `nearestAt?` looks at one grid, and `shortest` goes
through the grids.
-/

namespace FleetAgent

/-- The number `coefficient · 10 ^ exponent`. -/
structure Decimal where
  /-- The digits, as one natural. -/
  coefficient : Nat
  /-- The place of the last digit. -/
  exponent : Int
deriving Repr, DecidableEq

namespace Decimal

/-- The same number as `coefficient · 10 ^ exponent` without zeros at the end of the coefficient. -/
def dropZeros (coefficient : Nat) (exponent : Int) : Decimal :=
  if h : coefficient ≠ 0 ∧ coefficient % 10 = 0 then
    dropZeros (coefficient / 10) (exponent + 1)
  else ⟨coefficient, exponent⟩
termination_by coefficient
decreasing_by omega

/-! ### Doubles as intervals -/

/-- The value of a positive finite double and the interval of reals that round to it, as fractions
over one denominator. -/
structure Interval where
  /-- The numerator of the lower end. -/
  lo : Nat
  /-- The numerator of the value. -/
  mid : Nat
  /-- The numerator of the upper end. -/
  hi : Nat
  /-- The common denominator. -/
  den : Nat
  /-- Whether the ends belong to the interval. -/
  closed : Bool

/-- The interval of the double with these bits, its sign apart. Numbers are taken in units of a
quarter of the last bit, so that the ends are whole. Below a power of two the neighbour is half as
far away. -/
def Interval.ofBits (bits : Nat) : Interval :=
  let fraction := bits % 0x10000000000000
  let biased := bits / 0x10000000000000 % 2048
  let m := if biased = 0 then fraction else fraction + 0x10000000000000
  let q : Int := ((if biased = 0 then 1 else biased : Nat) : Int) - 1077
  let below := if fraction = 0 ∧ 1 < biased then 1 else 2
  let scale := Nat.pow 2 q.toNat
  ⟨(4 * m - below) * scale, 4 * m * scale, (4 * m + 2) * scale, Nat.pow 2 (-q).toNat,
    m % 2 = 0⟩

/-- The exponent of the leading decimal digit of the positive fraction `num / den`. -/
def leadingPlace (num den : Nat) : Int :=
  if den ≤ num then ((Nat.toDigits 10 (num / den)).length : Int) - 1
  else -(((List.range 400).find? fun t => den ≤ num * Nat.pow 10 t).getD 400 : Nat)

namespace Interval

/-- Whether the decimal `c · 10 ^ place` lies in the interval. -/
def contains (i : Interval) (c : Nat) (place : Int) : Bool :=
  let up := Nat.pow 10 place.toNat
  let down := Nat.pow 10 (-place).toNat
  let x := c * up * i.den
  if i.closed then i.lo * down ≤ x && x ≤ i.hi * down
  else i.lo * down < x && x < i.hi * down

/-- The decimal nearest to the value among its two neighbours at a place, of those that lie in the
interval. Of two at the same distance it is the even one. -/
def nearestAt? (i : Interval) (place : Int) : Option Decimal :=
  let up := Nat.pow 10 place.toNat
  let down := Nat.pow 10 (-place).toNat
  let c := i.mid * down / (up * i.den)
  let twice := 2 * i.mid * down
  let middle := (2 * c + 1) * up * i.den
  let lowerFirst := twice < middle || (twice == middle && c % 2 == 0)
  let order := if lowerFirst then [c, c + 1] else [c + 1, c]
  (order.find? (i.contains · place)).map fun d => dropZeros d place

end Interval

/-- The shortest decimal of the double with the bits `bits`, its sign apart. -/
def shortest (bits : Nat) : Decimal :=
  let i := Interval.ofBits bits
  if i.mid = 0 then ⟨0, 0⟩
  else
    let top := leadingPlace i.mid i.den
    ((List.range 17).findSome? fun n => i.nearestAt? (top - (n : Nat))).getD ⟨0, 0⟩

end Decimal

end FleetAgent
