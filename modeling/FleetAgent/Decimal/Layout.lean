import FleetAgent.Decimal.Shortest
/-!
# Writing a decimal

A layout says for which places of the leading digit a number is written without an exponent. What
is common to all layouts: the point is always followed by a digit, and an exponent has a sign.
-/

namespace FleetAgent

/-- How decimals are written: by the size of a number, with or without an exponent. -/
structure Decimal.Layout where
  /-- Whether a number whose leading digit has this place is written without an exponent. -/
  positional : Int → Bool

namespace Decimal.Layout

/-- The digits of a decimal with a point among them, in front of them or behind them, and zeros
where digits are missing. -/
def point (digits : List Char) (exponent : Int) : List Char :=
  let before : Int := digits.length + exponent
  if 0 ≤ exponent then digits ++ List.replicate exponent.toNat '0' ++ ['.', '0']
  else if 0 < before then digits.take before.toNat ++ ['.'] ++ digits.drop before.toNat
  else ['0', '.'] ++ List.replicate (-before).toNat '0' ++ digits

/-- The leading digit, the others after a point, and the place of the leading one. -/
def scientific (digits : List Char) (exponent : Int) : List Char :=
  let place : Int := digits.length + exponent - 1
  let fraction := if digits.length ≤ 1 then [] else '.' :: digits.drop 1
  let sign := if 0 ≤ place then '+' else '-'
  digits.take 1 ++ fraction ++ ['e', sign] ++ Nat.toDigits 10 place.natAbs

/-- Writes a decimal. -/
def render (l : Layout) (d : Decimal) : List Char :=
  let digits := Nat.toDigits 10 d.coefficient
  if d.coefficient = 0 then ['0', '.', '0']
  else if l.positional (digits.length + d.exponent - 1) then point digits d.exponent
  else scientific digits d.exponent

/-- Writes the finite double `x`: its sign, also that of zero, and its shortest decimal. -/
def renderFloat (l : Layout) (x : Float) : String :=
  let bits := x.toBits.toNat
  let sign := if 0x8000000000000000 ≤ bits then ['-'] else []
  String.ofList (sign ++ l.render (shortest (bits % 0x8000000000000000)))

end Decimal.Layout

end FleetAgent
