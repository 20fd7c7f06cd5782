import Abacus.Decimal.Arithmetic
import Abacus.Proofs.Rounding

/-! # The rational number that a decimal denotes

  `toRat` forgets how a decimal is held and keeps the number. Sums, differences and products are
  exact: `toRat` takes them to those of rational numbers, through every short cut for zeros and ones
  (`toRat_add`, `toRat_sub`, `toRat_mul`).
-/

namespace Abacus.Decimal

/-- The number `coeff / 10 ^ scale`. -/
def toRat (x : Decimal) : ℚ :=
  x.coeff * (10 : ℚ) ^ (-x.scale)

theorem toRat_eq_zero_of_coeff {x : Decimal} (h : x.coeff = 0) : x.toRat = 0 := by
  simp [toRat, h]

/-! ### The same number at another scale -/

/-- A coefficient at a scale that is not below that of the number denotes the number there. -/
theorem coeffAt_mul_zpow {x : Decimal} {s : ℤ} (h : x.scale ≤ s) :
    (x.coeffAt s : ℚ) * (10 : ℚ) ^ (-s) = x.toRat := by
  obtain ⟨n, hn⟩ := Int.le.dest h
  have hplaces : (s - x.scale).toNat = n := by omega
  have hs : -x.scale = -s + n := by omega
  rw [toRat, coeffAt, hplaces, hs, zpow_add_natCast (by norm_num)]
  push_cast [Nat.pow_eq]
  ring

theorem toRat_extend (x : Decimal) (places : ℕ) : (x.extend places).toRat = x.toRat := by
  have hcoeff : (x.extend places).coeff = x.coeffAt (x.scale + places) := by
    have hplaces : (x.scale + places - x.scale).toNat = places := by omega
    rw [coeffAt, hplaces]
    rfl
  have hle : x.scale ≤ x.scale + places := by omega
  rw [← coeffAt_mul_zpow hle, ← hcoeff]
  rfl

theorem toRat_normalized (x : Decimal) : x.normalized.toRat = x.toRat := by
  fun_induction normalized x with
  | case1 x hzero =>
    rw [toRat_eq_zero_of_coeff hzero, toRat_eq_zero_of_coeff (x := zero) rfl]
  | case2 x _ hten ih =>
    -- A zero at the end of the coefficient is a place less after the point.
    have hcoeff : x.coeff = 10 * (x.coeff / 10) := by omega
    have hscale : -(x.scale - 1) = -x.scale + 1 := by omega
    rw [ih]
    conv_rhs => rw [toRat, hcoeff]
    rw [toRat, hscale, zpow_add_one₀ (by norm_num)]
    push_cast
    ring
  | case3 => rfl

/-! ### Operations -/

theorem toRat_addZero (x : Decimal) (s : ℤ) : (x.addZero s).toRat = x.toRat :=
  toRat_extend x _

theorem toRat_add (x y : Decimal) : (x + y).toRat = x.toRat + y.toRat := by
  show (x.add y).toRat = _
  unfold add
  split
  next hy => rw [toRat_addZero, toRat_eq_zero_of_coeff hy, add_zero]
  next =>
    split
    next hx => rw [toRat_addZero, toRat_eq_zero_of_coeff hx, zero_add]
    next =>
      dsimp only
      rw [← coeffAt_mul_zpow (le_max_left x.scale y.scale),
        ← coeffAt_mul_zpow (le_max_right x.scale y.scale), toRat]
      push_cast
      ring

theorem toRat_sub (x y : Decimal) : (x - y).toRat = x.toRat - y.toRat := by
  show (x.sub y).toRat = _
  unfold sub
  dsimp only
  rw [← coeffAt_mul_zpow (le_max_left x.scale y.scale),
    ← coeffAt_mul_zpow (le_max_right x.scale y.scale), toRat]
  push_cast
  ring

/-- What is recognised as one is the number one. -/
theorem toRat_of_isOne {x : Decimal} (h : x.isOne = true) : x.toRat = 1 := by
  simp only [isOne, Bool.and_eq_true, decide_eq_true_eq] at h
  obtain ⟨⟨hscale, -⟩, hcoeff⟩ := h
  obtain ⟨n, hn⟩ := Int.eq_ofNat_of_zero_le hscale
  rw [toRat, hcoeff, hn, zpow_neg]
  push_cast [Nat.pow_eq]
  simp

theorem toRat_mul (x y : Decimal) : (x * y).toRat = x.toRat * y.toRat := by
  show (x.mul y).toRat = _
  unfold mul
  split
  next hx => rw [toRat_normalized, toRat_of_isOne hx, one_mul]
  next =>
    split
    next hy => rw [toRat_normalized, toRat_of_isOne hy, mul_one]
    next =>
      have hscale : -(x.scale + y.scale) = -x.scale + -y.scale := by omega
      simp only [toRat, hscale]
      rw [zpow_add₀ (by norm_num)]
      push_cast
      ring

end Abacus.Decimal
