import Abacus.Rounding
import Mathlib.Algebra.Order.Field.Basic
import Mathlib.Algebra.Order.Field.Power
import Mathlib.Algebra.Order.Ring.Abs
import Mathlib.Algebra.Ring.Parity
import Mathlib.Data.Rat.Cast.Order
import Mathlib.Tactic.Linarith
import Mathlib.Tactic.Positivity
import Mathlib.Tactic.Ring

/-! # Numbers in units of a power

  A decimal is an integer in units of a power of ten, and a double one in units of a power of two. Here
  is what their roundings have in common: powers of any base whose exponents are integers, what is known
  of a number that is half a unit from another, and where a number half-way between two is rounded to.
-/

namespace Abacus

/-! ### Powers of a base -/

section Powers

variable {b : ℚ} {e f : ℤ} {n : ℕ}

/-- The unit `k` places up is `b ^ k` units. -/
theorem zpow_add_natCast (hb : 0 < b) (e : ℤ) (k : ℕ) : b ^ (e + k) = b ^ k * b ^ e := by
  rw [zpow_add₀ hb.ne', zpow_natCast, mul_comm]

/-- A power as a quotient of powers with natural exponents. -/
theorem zpow_mul_pow_neg (hb : 0 < b) (e : ℤ) : b ^ e * b ^ (-e).toNat = b ^ e.toNat := by
  rw [← zpow_natCast, ← zpow_natCast, ← zpow_add₀ hb.ne']
  congr 1
  omega

/-- A larger unit is larger by the base at least. -/
theorem mul_zpow_le_zpow (hb : 1 < b) (h : e < f) : b * b ^ e ≤ b ^ f := by
  rw [mul_comm, ← zpow_add_one₀ (one_pos.trans hb).ne']
  exact zpow_le_zpow_right₀ hb.le (by omega)

/-- Of two equal numbers, one with `n` digits before the point or fewer and one with `n` or more, the
    first has the larger unit. -/
theorem zpow_le_of_mul_eq {x y : ℚ} (hb : 1 < b) (hn : 1 ≤ n) (hx : x < b ^ n) (hy : b ^ (n - 1) ≤ y)
    (heq : x * b ^ e = y * b ^ f) : f ≤ e := by
  by_contra hlt
  have hb' : 0 < b := one_pos.trans hb
  have hpos : 0 < b ^ e := zpow_pos hb' e
  have hpow : b ^ n = b ^ (n - 1) * b := by
    rw [← pow_succ, Nat.sub_add_cancel hn]
  have hmono := mul_zpow_le_zpow hb (not_le.mp hlt)
  have hlarge : x * b ^ e < y * b ^ f :=
    calc x * b ^ e < b ^ n * b ^ e := mul_lt_mul_of_pos_right hx hpos
      _ = b ^ (n - 1) * (b * b ^ e) := by rw [hpow, mul_assoc]
      _ ≤ y * b ^ f := mul_le_mul hy hmono (by positivity) (le_trans (by positivity) hy)
  exact absurd heq hlarge.ne

end Powers

/-! ### Half a unit -/

/-- What `u` times the distance says about `u` times the number. -/
theorem near_bounds {u : ℕ} {q h w : ℚ} (hnear : 2 * (u * |q - h|) ≤ w) :
    2 * (u * h) - w ≤ 2 * (u * q) ∧ 2 * (u * q) ≤ 2 * (u * h) + w := by
  have hu' : (0 : ℚ) ≤ u := Nat.cast_nonneg u
  have habove := mul_le_mul_of_nonneg_left (le_abs_self (q - h)) hu'
  have hbelow := mul_le_mul_of_nonneg_left (neg_le_abs (q - h)) hu'
  constructor
  · linarith
  · linarith

/-- `roundHalfEven` rounds a remainder of half the divisor to the even quotient. -/
theorem roundHalfEven_of_tie {N u : ℕ} (h : 2 * (N % u) = u) :
    roundHalfEven N u = if Even (N / u) then N / u else N / u + 1 := by
  have hpar : 2 * (N % u) < u ∨ 2 * (N % u) = u ∧ N / u % 2 = 0 ↔ Even (N / u) := by
    rw [Nat.even_iff]
    omega
  exact if_congr hpar rfl rfl

end Abacus
