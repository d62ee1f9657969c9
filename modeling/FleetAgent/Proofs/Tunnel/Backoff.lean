import FleetAgent.Tunnel.Loop
import Mathlib.Data.Rat.Floor
import Mathlib.Tactic.Linarith
/-!
# How long waits are

With durations of at most `2 ^ 53` milliseconds nothing is rounded (`roundDuration_of_le`), so a
wait is `Backoff.wait`, the doubled and capped base, and its random part. `Backoff.Bounds` says what
there is to know about the waits of a policy `p`, and `Backoff.bounds` that it holds of them.

A wait does not tell attempts apart behind the 32nd one, so a counter that ends somewhere behind it
counts well enough (`Backoff.delay_min`).
-/

namespace FleetAgent.Backoff

variable {p : Backoff} {n m : Nat} {draw : Rat}

/-- The base, doubled with every attempt up to the 32nd one, and capped: the wait of the attempt `n`
without its random part. -/
def wait (p : Backoff) (n : Nat) : Nat :=
  min (p.base * 2 ^ min n 32) p.max

/-- What there is to know about the waits of a policy. `draw` is any random number from 0 up to 1,
and a jitter above 1 counts as 1. -/
structure Bounds (p : Backoff) : Prop where
  /-- Without a jitter waits are exact. -/
  exact : ∀ n draw, (∀ j, p.jitter = some j → j ≤ 0) → p.delay n draw = p.wait n
  /-- A random part is added to a wait. -/
  wait_le : ∀ n draw, 0 ≤ draw → draw < 1 → p.wait n ≤ p.delay n draw
  /-- It is at most the part that the jitter says. -/
  le_wait_mul : ∀ n draw j, 0 ≤ draw → draw < 1 → p.jitter = some j → 0 < j →
    (p.delay n draw : Rat) ≤ p.wait n * (1 + min j 1)
  /-- Waits do not decrease. -/
  wait_mono : ∀ n m, n ≤ m → p.wait n ≤ p.wait m
  /-- Waits are capped. -/
  wait_le_max : ∀ n, p.wait n ≤ p.max

/-! ### Rounding -/

/-- A duration that fits the significand is not rounded. -/
theorem roundDuration_of_le (h : n ≤ 2 ^ 53) : roundDuration n = n := by
  rcases Nat.lt_or_eq_of_le h with hlt | rfl
  · have hlog : n.log2 - 52 = 0 := by
      rcases Nat.eq_zero_or_pos n with rfl | hpos
      · decide
      · have := (Nat.log2_lt hpos.ne').mpr hlt
        omega
    simp [roundDuration, hlog, Nat.mod_one]
  · decide

/-- What is computed without a random part is `wait`, as nothing is rounded. -/
theorem plain_eq_wait (hbase : p.base ≤ 2 ^ 53) (hmax : p.max ≤ 2 ^ 53) (n : Nat) :
    p.plain n = p.wait n := by
  rw [plain, roundDuration_of_le hbase, roundDuration_of_le hmax]
  rfl

/-! ### The random part -/

theorem spread_nonneg (p : Backoff) : 0 ≤ p.spread := by
  rw [spread]
  split
  next => exact le_rfl
  next j hj =>
    split_ifs with hneg hone
    · exact le_rfl
    · exact zero_le_one
    · exact not_lt.mp hneg

/-- Without a jitter, or with one that is not positive, there is no random part: `spread` is
zero. -/
theorem spread_of_forall_le (h : ∀ j, p.jitter = some j → j ≤ 0) : p.spread = 0 := by
  rw [spread]
  split
  next => rfl
  next j hj =>
    have hle := h j hj
    split_ifs with hneg hone
    · rfl
    · linarith
    · linarith

/-- A positive jitter `j` is the spread, up to 1. -/
theorem spread_of_pos {j : Rat} (hj : p.jitter = some j) (hpos : 0 < j) : p.spread = min j 1 := by
  rw [spread, hj]
  dsimp only
  rw [if_neg hpos.not_gt]
  split_ifs with hone
  · exact (min_eq_right hone.le).symm
  · exact (min_eq_left (not_lt.mp hone)).symm

/-! ### Waits -/

theorem wait_le_max (p : Backoff) (n : Nat) : p.wait n ≤ p.max :=
  min_le_right _ _

theorem wait_mono (p : Backoff) (h : n ≤ m) : p.wait n ≤ p.wait m := by
  have hpow : 2 ^ min n 32 ≤ 2 ^ min m 32 :=
    Nat.pow_le_pow_right two_pos (min_le_min_right 32 h)
  exact min_le_min_right p.max (Nat.mul_le_mul_left p.base hpow)

/-- What is computed before it is cut off to whole milliseconds lies between the wait `d` and the
wait with all of its random part. -/
theorem add_spread_bounds {d : Nat} (h0 : 0 ≤ draw) (h1 : draw < 1) :
    (d : Rat) ≤ d + draw * (d * p.spread) ∧ d + draw * (d * p.spread) ≤ d * (1 + p.spread) := by
  have hpart : 0 ≤ (d : Rat) * p.spread := mul_nonneg d.cast_nonneg p.spread_nonneg
  have hlow : 0 ≤ draw * (d * p.spread) := mul_nonneg h0 hpart
  have hhigh : draw * (d * p.spread) ≤ 1 * (d * p.spread) :=
    mul_le_mul_of_nonneg_right h1.le hpart
  constructor <;> linarith

/-- Whole milliseconds are not cut off. -/
theorem le_toNat_floor {d : Nat} {x : Rat} (h : (d : Rat) ≤ x) : d ≤ x.floor.toNat := by
  have hfloor : (d : Int) ≤ x.floor := Rat.le_floor_iff.mpr (by exact_mod_cast h)
  omega

theorem toNat_floor_le {x : Rat} (h : 0 ≤ x) : (x.floor.toNat : Rat) ≤ x := by
  have hfloor : (0 : Int) ≤ x.floor := Rat.le_floor_iff.mpr (by exact_mod_cast h)
  calc (x.floor.toNat : Rat) = (x.floor : Rat) := by exact_mod_cast Int.toNat_of_nonneg hfloor
    _ ≤ x := Rat.floor_le x

variable (hbase : p.base ≤ 2 ^ 53) (hmax : p.max ≤ 2 ^ 53)
include hbase hmax

theorem wait_le_delay (h0 : 0 ≤ draw) (h1 : draw < 1) : p.wait n ≤ p.delay n draw := by
  have hlongest : p.wait n ≤ longest := (p.wait_le_max n).trans (hmax.trans (by decide))
  rw [delay, plain_eq_wait hbase hmax]
  exact le_min (le_toNat_floor (add_spread_bounds h0 h1).1) hlongest

theorem delay_le (h0 : 0 ≤ draw) (h1 : draw < 1) :
    (p.delay n draw : Rat) ≤ p.wait n * (1 + p.spread) := by
  rw [delay, plain_eq_wait hbase hmax]
  obtain ⟨hlow, hhigh⟩ := add_spread_bounds (p := p) (d := p.wait n) h0 h1
  refine le_trans ?_ ((toNat_floor_le ((Nat.cast_nonneg _).trans hlow)).trans hhigh)
  exact Nat.cast_le.mpr (min_le_left _ _)

theorem delay_eq_wait (h : ∀ j, p.jitter = some j → j ≤ 0) : p.delay n draw = p.wait n := by
  have hlongest : p.wait n ≤ longest := (p.wait_le_max n).trans (hmax.trans (by decide))
  rw [delay, plain_eq_wait hbase hmax, spread_of_forall_le h]
  simp only [mul_zero, add_zero]
  have hfloor : (p.wait n : Rat).floor = p.wait n := Rat.floor_intCast (p.wait n)
  rw [hfloor, Int.toNat_natCast]
  exact min_eq_left hlongest

/-- **Waits double up to a cap**, and a random part is added to them: each field of `Bounds` is one
of the lemmas above. -/
theorem bounds : p.Bounds where
  exact _ _ h := delay_eq_wait hbase hmax h
  wait_le _ _ h0 h1 := wait_le_delay hbase hmax h0 h1
  le_wait_mul n draw j h0 h1 hj hpos := by
    rw [← spread_of_pos hj hpos]
    exact delay_le hbase hmax h0 h1
  wait_mono _ _ h := p.wait_mono h
  wait_le_max := p.wait_le_max

omit hbase hmax in
/-- Attempts from the 32nd one on are not told apart. -/
theorem delay_min {greatest : Nat} (h : 32 ≤ greatest) (p : Backoff) (n : Nat) (draw : Rat) :
    p.delay (min n greatest) draw = p.delay n draw := by
  have hplain : p.plain (min n greatest) = p.plain n := by
    rw [plain, plain, min_assoc, min_eq_right h]
  rw [delay, delay, hplain]

end FleetAgent.Backoff
