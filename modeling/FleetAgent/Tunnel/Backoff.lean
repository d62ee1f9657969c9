/-!
# Waiting between attempts

The wait before an attempt doubles with every attempt since the last success, up to a greatest
wait; a random part of it may be added. Waits are whole milliseconds. Everything is exact: the
random part is a fraction, cut off to whole milliseconds at the end.

Durations of more than `2 ^ 53` milliseconds are first rounded to a significand of 53 bits, and
waits end at the greatest number of 64 bits.

`Backoff.plain` is the wait without the random part, `Backoff.spread` the greatest random part of a
wait of one, and `Backoff.delay` both together, for a `draw` between zero and one.
-/

namespace FleetAgent

/-- How long to wait between attempts. Any values are allowed: `max` may be less than `base`, and
the jitter may be any number or none. -/
structure Backoff where
  /-- The wait before the first attempt, in milliseconds. -/
  base : Nat
  /-- The greatest wait, in milliseconds. -/
  max : Nat
  /-- The random part, as a fraction of the wait; none if it is not a number. -/
  jitter : Option Rat
deriving DecidableEq

namespace Backoff

/-- Rounds `n` to a significand of 53 bits; of two neighbours at the same distance the even one. Up
to `2 ^ 53` nothing changes. -/
def roundDuration (n : Nat) : Nat :=
  let unit := Nat.pow 2 (n.log2 - 52)
  let q := n / unit
  let r := n % unit
  (if 2 * r < unit ∨ (2 * r = unit ∧ q % 2 = 0) then q else q + 1) * unit

/-- The wait before the attempt `attempt`, counted from zero, without the random part. The wait no
longer doubles after 32 attempts. -/
def plain (p : Backoff) (attempt : Nat) : Nat :=
  min (roundDuration p.base * Nat.pow 2 (min attempt 32)) (roundDuration p.max)

/-- The random part as a fraction from `0` to `1`, whatever the jitter is. -/
def spread (p : Backoff) : Rat :=
  match p.jitter with
  | none => 0
  | some j => if j < 0 then 0 else if 1 < j then 1 else j

/-- The greatest number of 64 bits. -/
def longest : Nat := 0xFFFFFFFFFFFFFFFF

/-- The wait before the attempt `attempt`, in whole milliseconds. `draw` is the random number from
`0` up to `1`. -/
def delay (p : Backoff) (attempt : Nat) (draw : Rat) : Nat :=
  let d : Rat := p.plain attempt
  min (d + draw * (d * p.spread)).floor.toNat longest

/-- One second at first, one minute at most, and up to a quarter more. -/
def standard : Backoff := ⟨1000, 60000, some (1 / 4)⟩

end Backoff

end FleetAgent
