import Abacus.Proofs.Rounding
import Mathlib.Tactic.LinearCombination

/-! # Rounding to a number of significant digits

  `IsRounding n q r` says that `r` is the rational number `q` rounded to `n` significant digits: no
  number of `n` digits is nearer to `q`, and of two that are equally near, `r` is the one whose last
  digit is even.

  The numbers of `n` digits between two neighbouring powers of ten are the multiples of one power of
  ten `10 ^ e`, from `10 ^ (n - 1) * 10 ^ e` on (`HasDigits.le_or_ge`). So the rounding of a number
  between two neighbours is found by comparing it with their middle, and `roundHalfEven` finds it
  (`isRounding_roundHalfEven_iff`). That theorem allows for a number that was rounded before: the
  second rounding is right unless the first one moved the number onto a middle from the side of the
  neighbour that is not even (`Misleads`).
-/

namespace Abacus

variable {n m a b u : ℕ} {e f : ℤ} {q r x h : ℚ}

/-! ### Numbers with few digits -/

/-- The number can be written with `n` significant digits. -/
def HasDigits (n : ℕ) (x : ℚ) : Prop :=
  ∃ m e : ℤ, |m| < 10 ^ n ∧ x = m * (10 : ℚ) ^ e

/-- The last of the `n` significant digits of the number is even. -/
def EndsEven (n : ℕ) (x : ℚ) : Prop :=
  ∃ m e : ℤ, 10 ^ (n - 1) ≤ |m| ∧ |m| < 10 ^ n ∧ Even m ∧ x = m * (10 : ℚ) ^ e

/-- `r` is `q` rounded to `n` significant digits, ties to even. -/
structure IsRounding (n : ℕ) (q r : ℚ) : Prop where
  /-- The rounded number has `n` digits. -/
  digits : HasDigits n r
  /-- No number with `n` digits is nearer. -/
  nearest : ∀ x, HasDigits n x → |q - r| ≤ |q - x|
  /-- If another one is as near, the rounded number ends in an even digit. -/
  even_of_tie : ∀ x, HasDigits n x → x ≠ r → |q - x| = |q - r| → EndsEven n r

theorem hasDigits_of_le (hn : 1 ≤ n) (ha : a ≤ 10 ^ n) (e : ℤ) :
    HasDigits n (a * (10 : ℚ) ^ e) := by
  by_cases hlt : a < 10 ^ n
  · refine ⟨a, e, ?_, by push_cast; rfl⟩
    rw [Nat.abs_cast]
    exact_mod_cast hlt
  · -- The power of ten itself is one digit with `n` zeros.
    have heq : a = 10 ^ n := by omega
    refine ⟨1, e + n, ?_, ?_⟩
    · rw [abs_one]
      exact one_lt_pow₀ (by norm_num) (by omega)
    · rw [zpow_add_natCast (by norm_num), heq]
      push_cast
      ring

theorem endsEven_of_even (hn : 2 ≤ n) (hlow : 10 ^ (n - 1) ≤ a) (ha : a ≤ 10 ^ n)
    (heven : Even a) (e : ℤ) : EndsEven n (a * (10 : ℚ) ^ e) := by
  by_cases hlt : a < 10 ^ n
  · refine ⟨a, e, ?_, ?_, by exact_mod_cast heven, by push_cast; rfl⟩
    · rw [Nat.abs_cast]
      exact_mod_cast hlow
    · rw [Nat.abs_cast]
      exact_mod_cast hlt
  · have heq : a = 10 ^ n := by omega
    obtain ⟨k, rfl⟩ : ∃ k, n = k + 2 := ⟨n - 2, by omega⟩
    refine ⟨10 ^ (k + 1), e + 1, ?_, ?_, ?_, ?_⟩
    · rw [abs_of_pos (by positivity)]
      simp
    · rw [abs_of_pos (by positivity)]
      exact pow_lt_pow_right₀ (by norm_num) (by omega)
    · exact (Int.even_pow.mpr ⟨by decide, by omega⟩)
    · rw [zpow_add_one₀ (by norm_num), heq]
      push_cast
      ring

/-! ### Neighbours -/

/-- There is no number with `n` digits between two neighbouring multiples of a power of ten that have
    `n` digits or more. -/
theorem HasDigits.le_or_ge (hx : HasDigits n x) (ha : 10 ^ (n - 1) ≤ a) (e : ℤ) :
    x ≤ a * (10 : ℚ) ^ e ∨ (a + 1) * (10 : ℚ) ^ e ≤ x := by
  obtain ⟨m, f, hm, rfl⟩ := hx
  have hpos : (0 : ℚ) < 10 ^ e := by positivity
  by_cases hef : e ≤ f
  · -- The number is a multiple of the same power of ten.
    obtain ⟨k, rfl⟩ := Int.le.dest hef
    rw [zpow_add_natCast (by norm_num), ← mul_assoc]
    by_cases hle : m * 10 ^ k ≤ (a : ℤ)
    · left
      have hle' : (m : ℚ) * 10 ^ k ≤ a := by exact_mod_cast hle
      exact mul_le_mul_of_nonneg_right hle' hpos.le
    · right
      have hge : (a : ℚ) + 1 ≤ m * 10 ^ k := by exact_mod_cast Int.lt_iff_add_one_le.mp (not_le.mp hle)
      exact mul_le_mul_of_nonneg_right hge hpos.le
  · -- Its digits count for less, and there are too few of them.
    left
    have hm' : (m : ℚ) ≤ 10 ^ n := by
      have hle := (le_abs_self m).trans hm.le
      exact_mod_cast hle
    have ha' : (10 : ℚ) ^ n ≤ 10 * a := by
      have hpow : 10 ^ n ≤ 10 * a := by
        cases n with
        | zero => simp only [pow_zero] at ha ⊢; omega
        | succ n => simp only [Nat.add_sub_cancel] at ha; rw [pow_succ]; omega
      exact_mod_cast hpow
    have hmono : (10 : ℚ) * 10 ^ f ≤ 10 ^ e := mul_zpow_le_zpow (by norm_num) (not_le.mp hef)
    calc (m : ℚ) * 10 ^ f ≤ (10 * a) * 10 ^ f :=
          mul_le_mul_of_nonneg_right (hm'.trans ha') (by positivity)
      _ = a * (10 * 10 ^ f) := by ring
      _ ≤ a * 10 ^ e := mul_le_mul_of_nonneg_left hmono (Nat.cast_nonneg a)

/-- Other numbers with `n` digits are a tenth of a unit away at least. -/
theorem HasDigits.unit_le (hx : HasDigits n x) (ha : 10 ^ (n - 1) ≤ a)
    (hne : x ≠ a * (10 : ℚ) ^ e) : (10 : ℚ) ^ e ≤ 10 * |a * (10 : ℚ) ^ e - x| := by
  have hpos : (0 : ℚ) < 10 ^ e := by positivity
  have hone : 1 ≤ a := le_trans Nat.one_le_two_pow (le_trans (Nat.pow_le_pow_left (by omega) _) ha)
  -- Below a power of ten the neighbours stand ten times as close.
  have hfine := hx.le_or_ge (a := 10 * a - 1) (by omega) (e - 1)
  have hcast : ((10 * a - 1 : ℕ) : ℚ) = 10 * a - 1 := by
    rw [Nat.cast_sub (by omega)]
    push_cast
    rfl
  have hunit : (10 : ℚ) ^ e = 10 * 10 ^ (e - 1) := by
    rw [zpow_sub_one₀ (by norm_num)]
    ring
  rw [hcast] at hfine
  rcases hx.le_or_ge ha e with hle | hge
  · have hlt : x < a * (10 : ℚ) ^ e := lt_of_le_of_ne hle hne
    rw [abs_of_pos (by linarith)]
    rcases hfine with hle' | hge'
    · rw [hunit]
      linarith
    · rw [hunit] at hlt
      linarith
  · rw [abs_of_neg (by linarith)]
    linarith

/-! ### The nearest one -/

theorem IsRounding.of_lt (hr : HasDigits n r)
    (hnear : ∀ x, HasDigits n x → x ≠ r → |q - r| < |q - x|) : IsRounding n q r where
  digits := hr
  nearest := by
    intro x hx
    by_cases hne : x = r
    · rw [hne]
    · exact (hnear x hx hne).le
  even_of_tie := by
    intro x hx hne heq
    exact absurd heq (hnear x hx hne).ne'

/-- A number next to one with `n` digits is rounded to it. -/
theorem isRounding_of_near (hn : 1 ≤ n) (hlow : 10 ^ (n - 1) ≤ a) (ha : a ≤ 10 ^ n)
    (hnear : 20 * |q - a * (10 : ℚ) ^ e| < 10 ^ e) : IsRounding n q (a * (10 : ℚ) ^ e) := by
  apply IsRounding.of_lt (hasDigits_of_le hn ha e)
  intro x hx hne
  -- The next number with `n` digits is twice as far away.
  have hunit := hx.unit_le hlow hne
  have htriangle := abs_sub_le (a * (10 : ℚ) ^ e) q x
  rw [abs_sub_comm _ q] at htriangle
  linarith

/-- A number in the lower half of the way between two neighbours is rounded down. -/
theorem isRounding_down (hn : 1 ≤ n) (hlow : 10 ^ (n - 1) ≤ a) (ha : a ≤ 10 ^ n)
    (hle : a * (10 : ℚ) ^ e ≤ q) (hlt : 2 * q < (2 * a + 1) * (10 : ℚ) ^ e) :
    IsRounding n q (a * (10 : ℚ) ^ e) := by
  apply IsRounding.of_lt (hasDigits_of_le hn ha e)
  intro x hx hne
  rw [abs_of_nonneg (by linarith)]
  rcases hx.le_or_ge hlow e with hbelow | habove
  · have hxlt := lt_of_le_of_ne hbelow hne
    rw [abs_of_pos (by linarith)]
    linarith
  · have hfar := neg_le_abs (q - x)
    linarith

/-- A number in the upper half of the way between two neighbours is rounded up. -/
theorem isRounding_up (hn : 1 ≤ n) (hlow : 10 ^ (n - 1) ≤ a) (ha : a < 10 ^ n)
    (hle : q ≤ (a + 1) * (10 : ℚ) ^ e) (hlt : (2 * a + 1) * (10 : ℚ) ^ e < 2 * q) :
    IsRounding n q ((a + 1 : ℕ) * (10 : ℚ) ^ e) := by
  apply IsRounding.of_lt (hasDigits_of_le hn ha e)
  intro x hx hne
  push_cast at hne ⊢
  rw [abs_of_nonpos (by linarith)]
  rcases hx.le_or_ge hlow e with hbelow | habove
  · have hfar := le_abs_self (q - x)
    linarith
  · have hxgt := lt_of_le_of_ne habove (Ne.symm hne)
    rw [abs_of_neg (by linarith)]
    linarith

/-- A number beyond the middle is not rounded down. -/
theorem IsRounding.le_middle (hr : IsRounding n q (a * (10 : ℚ) ^ e)) (hn : 1 ≤ n)
    (ha : a < 10 ^ n) : 2 * q ≤ (2 * a + 1) * (10 : ℚ) ^ e := by
  by_contra hlt
  have hpos : (0 : ℚ) < 10 ^ e := by positivity
  have hnearest := hr.nearest _ (hasDigits_of_le hn (Nat.succ_le_of_lt ha) e)
  have hfar := le_abs_self (q - a * (10 : ℚ) ^ e)
  push_cast at hnearest
  rcases abs_cases (q - (a + 1) * (10 : ℚ) ^ e) with ⟨habs, -⟩ | ⟨habs, -⟩
  · linarith
  · linarith

/-- A number short of the middle is not rounded up. -/
theorem IsRounding.middle_le (hr : IsRounding n q ((a + 1 : ℕ) * (10 : ℚ) ^ e)) (hn : 1 ≤ n)
    (ha : a < 10 ^ n) : (2 * a + 1) * (10 : ℚ) ^ e ≤ 2 * q := by
  by_contra hlt
  have hpos : (0 : ℚ) < 10 ^ e := by positivity
  have hnearest := hr.nearest _ (hasDigits_of_le hn ha.le e)
  have hfar := neg_le_abs (q - (a + 1 : ℕ) * (10 : ℚ) ^ e)
  push_cast at hnearest hfar
  rcases abs_cases (q - a * (10 : ℚ) ^ e) with ⟨habs, -⟩ | ⟨habs, -⟩
  · linarith
  · linarith

/-- Every number with `n` digits is half a unit away from the middle of two neighbours at least. -/
theorem unit_le_abs_middle_sub (hx : HasDigits n x) (hlow : 10 ^ (n - 1) ≤ a)
    (hmid : 2 * q = (2 * a + 1) * (10 : ℚ) ^ e) : (10 : ℚ) ^ e ≤ 2 * |q - x| := by
  rcases hx.le_or_ge hlow e with hbelow | habove
  · have hfar := le_abs_self (q - x)
    linarith
  · have hfar := neg_le_abs (q - x)
    linarith

/-- A number that ends in an even digit and is as near to a middle as can be is its rounding. -/
theorem isRounding_of_half_unit (hr : HasDigits n r) (heven : EndsEven n r)
    (hlow : 10 ^ (n - 1) ≤ a) (hmid : 2 * q = (2 * a + 1) * (10 : ℚ) ^ e)
    (hdist : 2 * |q - r| = 10 ^ e) : IsRounding n q r where
  digits := hr
  nearest := by
    intro x hx
    have hge := unit_le_abs_middle_sub hx hlow hmid
    linarith
  even_of_tie := by
    intro x _ _ _
    exact heven

/-- A middle is rounded to the even one of the two neighbours. -/
theorem isRounding_middle (hn : 2 ≤ n) (hlow : 10 ^ (n - 1) ≤ a) (ha : a < 10 ^ n)
    (hmid : 2 * q = (2 * a + 1) * (10 : ℚ) ^ e) :
    IsRounding n q ((if Even a then a else a + 1 : ℕ) * (10 : ℚ) ^ e) := by
  have hpos : (0 : ℚ) < 10 ^ e := by positivity
  have hone : 1 ≤ n := by omega
  by_cases heven : Even a
  · rw [if_pos heven]
    apply isRounding_of_half_unit (hasDigits_of_le hone ha.le e)
      (endsEven_of_even hn hlow ha.le heven e) hlow hmid
    rw [abs_of_nonneg (by linarith)]
    linarith
  · rw [if_neg heven]
    apply isRounding_of_half_unit (hasDigits_of_le hone ha e)
      (endsEven_of_even hn (by omega) ha (Nat.even_add_one.mpr heven) e) hlow hmid
    push_cast
    rw [abs_of_nonpos (by linarith)]
    linarith

/-! ### Signs -/

theorem HasDigits.neg (hx : HasDigits n x) : HasDigits n (-x) := by
  obtain ⟨m, e, hm, rfl⟩ := hx
  refine ⟨-m, e, ?_, ?_⟩
  · rw [abs_neg]
    exact hm
  · push_cast
    ring

theorem EndsEven.neg (hx : EndsEven n x) : EndsEven n (-x) := by
  obtain ⟨m, e, hlow, hm, heven, rfl⟩ := hx
  refine ⟨-m, e, ?_, ?_, heven.neg, ?_⟩
  · rw [abs_neg]
    exact hlow
  · rw [abs_neg]
    exact hm
  · push_cast
    ring

theorem IsRounding.neg (hr : IsRounding n q r) : IsRounding n (-q) (-r) := by
  have hdist : ∀ y, |-q - y| = |q - -y| := by
    intro y
    rw [← abs_neg]
    congr 1
    ring
  refine ⟨hr.digits.neg, ?_, ?_⟩
  · intro x hx
    rw [hdist, hdist, neg_neg]
    exact hr.nearest _ hx.neg
  · intro x hx hne heq
    rw [hdist, hdist, neg_neg] at heq
    exact (hr.even_of_tie _ hx.neg (fun h => hne (by rw [← h, neg_neg])) heq).neg

theorem isRounding_neg_iff : IsRounding n (-q) (-r) ↔ IsRounding n q r := by
  constructor
  · intro hr
    have hneg := hr.neg
    rwa [neg_neg, neg_neg] at hneg
  · exact IsRounding.neg

/-! ### Rounding once more -/

/-- `h` is a middle of two numbers with `n` digits, and `q` lies off it on the side of the one that is
    not even: to round `h` in place of `q` to `n` digits goes wrong. -/
def Misleads (n : ℕ) (h q : ℚ) : Prop :=
  ∃ (m : ℕ) (e : ℤ), 10 ^ (n - 1) ≤ m ∧ m < 10 ^ n ∧ 2 * |h| = (2 * m + 1) * (10 : ℚ) ^ e ∧
    if Even m then |h| < |q| else |q| < |h|

theorem not_misleads_self (n : ℕ) (q : ℚ) : ¬ Misleads n q q := by
  intro hmis
  obtain ⟨m, e, -, -, -, hside⟩ := hmis
  by_cases heven : Even m
  · rw [if_pos heven] at hside
    exact lt_irrefl _ hside
  · rw [if_neg heven] at hside
    exact lt_irrefl _ hside

/-- The size of a quotient of natural numbers, from that of its integer part. -/
theorem div_bounds {N : ℕ} (hu : 0 < u) (hlow : 10 ^ (n - 1) ≤ N / u) (hhigh : N / u < 10 ^ n) :
    (10 : ℚ) ^ (n - 1) ≤ N / u ∧ (N / u : ℚ) < 10 ^ n := by
  have hu' : (0 : ℚ) < u := by exact_mod_cast hu
  constructor
  · rw [le_div_iff₀ hu']
    exact_mod_cast (Nat.le_div_iff_mul_le hu).mp hlow
  · rw [div_lt_iff₀ hu']
    exact_mod_cast (Nat.div_lt_iff_lt_mul hu).mp hhigh

/-- A quotient that is a middle of two neighbours leaves half the divisor as remainder. -/
theorem middle_unique {N : ℕ} (hn : 1 ≤ n) (hu : 0 < u) (heven : Even u)
    (hlow : 10 ^ (n - 1) ≤ N / u) (hhigh : N / u < 10 ^ n) (hm : 10 ^ (n - 1) ≤ m)
    (hm' : m < 10 ^ n) (hh : u * h = N * (10 : ℚ) ^ e)
    (hmid : 2 * h = (2 * m + 1) * (10 : ℚ) ^ f) : f = e ∧ N / u = m ∧ 2 * (N % u) = u := by
  have hu' : (0 : ℚ) < u := by exact_mod_cast hu
  have heq : (N / u : ℚ) * (10 : ℚ) ^ e = (m + 1 / 2) * (10 : ℚ) ^ f := by
    rw [div_mul_eq_mul_div, div_eq_iff hu'.ne', ← hh]
    linear_combination (u / 2 : ℚ) * hmid
  obtain ⟨hge, hlt⟩ := div_bounds hu hlow hhigh
  have hge' : (10 : ℚ) ^ (n - 1) ≤ m + 1 / 2 := by
    have hcast : (10 : ℚ) ^ (n - 1) ≤ m := by exact_mod_cast hm
    linarith
  have hlt' : (m + 1 / 2 : ℚ) < 10 ^ n := by
    have hcast : (m : ℚ) + 1 ≤ 10 ^ n := by exact_mod_cast hm'
    linarith
  obtain rfl : f = e :=
    le_antisymm (zpow_le_of_mul_eq (by norm_num) hn hlt hge' heq)
      (zpow_le_of_mul_eq (by norm_num) hn hlt' hge heq.symm)
  have hhalf : (2 * N : ℚ) = (2 * m + 1) * u := by
    have hquot := mul_right_cancel₀ (zpow_pos (by norm_num) f).ne' heq
    rw [div_eq_iff hu'.ne'] at hquot
    linarith
  have hnat : 2 * N = (2 * m + 1) * u := by exact_mod_cast hhalf
  -- Half the divisor is what the middle adds to a whole number.
  obtain ⟨v, rfl⟩ := heven
  have hN : N = (v + v) * m + v := by linarith
  have hv : v < v + v := by omega
  refine ⟨rfl, ?_, ?_⟩
  · rw [hN, Nat.mul_add_div hu, Nat.div_eq_of_lt hv, Nat.add_zero]
  · rw [hN, Nat.mul_add_mod, Nat.mod_eq_of_lt hv]
    omega

/-- A number that stands below the middle keeps what it stands for below it. -/
theorem isRounding_of_below_middle (hn : 1 ≤ n) (hu : 0 < u) (heven : Even u)
    (hlow : 10 ^ (n - 1) ≤ a) (ha : a < 10 ^ n) (hb : 2 * b < u)
    (hh : u * h = (u * a + b) * (10 : ℚ) ^ e) (hnear : 2 * (u * |q - h|) ≤ 10 ^ e)
    (hfine : 20 * |q - h| < 10 ^ e) : IsRounding n q (a * (10 : ℚ) ^ e) := by
  have hpos : (0 : ℚ) < 10 ^ e := by positivity
  have hu' : (0 : ℚ) < u := by exact_mod_cast hu
  obtain ⟨hge, hle⟩ := near_bounds hnear
  by_cases hzero : b = 0
  · -- What the number stands for may lie on the other side of the rounded one.
    have heq : h = a * (10 : ℚ) ^ e := by
      apply mul_left_cancel₀ hu'.ne'
      rw [hh, hzero]
      push_cast
      ring
    rw [heq] at hfine
    exact isRounding_of_near hn hlow ha.le hfine
  · have hb' : (1 : ℚ) ≤ b := by exact_mod_cast Nat.one_le_iff_ne_zero.mpr hzero
    -- As `u` is even, twice the remainder falls short of it by two, and half a unit does no harm.
    have hroom : (2 * b + 2 : ℚ) ≤ u := by
      have hnat : 2 * b + 2 ≤ u := by
        obtain ⟨v, rfl⟩ := heven
        omega
      exact_mod_cast hnat
    have hone := mul_le_mul_of_nonneg_right hb' hpos.le
    have hroom' := mul_le_mul_of_nonneg_right hroom hpos.le
    apply isRounding_down hn hlow ha.le
    · apply le_of_mul_le_mul_left _ hu'
      linarith
    · apply lt_of_mul_lt_mul_left _ hu'.le
      linarith

/-- A number that stands above the middle keeps what it stands for above it. -/
theorem isRounding_of_above_middle (hn : 1 ≤ n) (hu : 0 < u) (heven : Even u)
    (hlow : 10 ^ (n - 1) ≤ a) (ha : a < 10 ^ n) (hb : b < u) (hb' : u < 2 * b)
    (hh : u * h = (u * a + b) * (10 : ℚ) ^ e) (hnear : 2 * (u * |q - h|) ≤ 10 ^ e) :
    IsRounding n q ((a + 1 : ℕ) * (10 : ℚ) ^ e) := by
  have hpos : (0 : ℚ) < 10 ^ e := by positivity
  have hu' : (0 : ℚ) < u := by exact_mod_cast hu
  obtain ⟨hge, hle⟩ := near_bounds hnear
  have hbelow : (b + 1 : ℚ) ≤ u := by exact_mod_cast hb
  have habove : (u + 2 : ℚ) ≤ 2 * b := by
    have hnat : u + 2 ≤ 2 * b := by
      obtain ⟨v, rfl⟩ := heven
      omega
    exact_mod_cast hnat
  have hbelow' := mul_le_mul_of_nonneg_right hbelow hpos.le
  have habove' := mul_le_mul_of_nonneg_right habove hpos.le
  apply isRounding_up hn hlow ha
  · apply le_of_mul_le_mul_left _ hu'
    linarith
  · apply lt_of_mul_lt_mul_left _ hu'.le
    linarith

/-- A middle is rounded as what it stands for, unless it misleads. -/
theorem isRounding_of_middle (hn : 2 ≤ n) (hlow : 10 ^ (n - 1) ≤ a) (ha : a < 10 ^ n)
    (hmid : 2 * h = (2 * a + 1) * (10 : ℚ) ^ e) (hq : 0 ≤ q)
    (hfine : 20 * |q - h| < 10 ^ e) (hmis : ¬ Misleads n h q) :
    IsRounding n q ((if Even a then a else a + 1 : ℕ) * (10 : ℚ) ^ e) := by
  have hpos : (0 : ℚ) < 10 ^ e := by positivity
  have hone : 1 ≤ n := by omega
  have hbelow := neg_le_abs (q - h)
  have habove := le_abs_self (q - h)
  have hh : 0 ≤ h := by
    have hprod : 0 ≤ (a : ℚ) * 10 ^ e := mul_nonneg (Nat.cast_nonneg a) hpos.le
    linarith
  have hside : ¬ if Even a then h < q else q < h := by
    intro hside
    refine hmis ⟨a, e, hlow, ha, ?_, ?_⟩
    · rw [abs_of_nonneg hh, hmid]
    · rwa [abs_of_nonneg hh, abs_of_nonneg hq]
  by_cases heq : q = h
  · rw [heq]
    exact isRounding_middle hn hlow ha hmid
  · -- What it stands for lies on the side of the even neighbour.
    by_cases hpar : Even a
    · rw [if_pos hpar] at hside ⊢
      have hlt := lt_of_le_of_ne (not_lt.mp hside) heq
      apply isRounding_down hone hlow ha.le
      · linarith
      · linarith
    · rw [if_neg hpar] at hside ⊢
      have hlt := lt_of_le_of_ne (not_lt.mp hside) (Ne.symm heq)
      apply isRounding_up hone hlow ha
      · linarith
      · linarith

/-- A number that misleads is a middle, and the number that it stands for is not rounded with it. -/
theorem IsRounding.not_misleads {N : ℕ} (hn : 1 ≤ n) (hu : 0 < u) (heven : Even u)
    (hlow : 10 ^ (n - 1) ≤ N / u) (hhigh : N / u < 10 ^ n) (hh : u * h = N * (10 : ℚ) ^ e)
    (hh0 : 0 ≤ h) (hq0 : 0 ≤ q)
    (hround : IsRounding n q (roundHalfEven N u * (10 : ℚ) ^ e)) : ¬ Misleads n h q := by
  intro hmis
  obtain ⟨m, f, hm, hm', hmid, hside⟩ := hmis
  rw [abs_of_nonneg hh0] at hmid hside
  rw [abs_of_nonneg hq0] at hside
  obtain ⟨rfl, rfl, hhalf⟩ := middle_unique hn hu heven hlow hhigh hm hm' hh hmid
  -- `q` lies beyond the middle, and the middle goes to the neighbour that `q` is further away from.
  rw [roundHalfEven_of_tie hhalf] at hround
  by_cases hpar : Even (N / u)
  · rw [if_pos hpar] at hround hside
    have hle := hround.le_middle hn hhigh
    linarith
  · rw [if_neg hpar] at hround hside
    have hge := hround.middle_le hn hhigh
    linarith

/-- **Rounding once more.** A number that stands for `q`, off by half a unit of its own last digit at
    most, is rounded to fewer digits just as `q` is, unless it misleads. -/
theorem isRounding_roundHalfEven_iff {N : ℕ} (hn : 2 ≤ n) (hu : 0 < u) (heven : Even u)
    (hlow : 10 ^ (n - 1) ≤ N / u) (hhigh : N / u < 10 ^ n) (hh : u * h = N * (10 : ℚ) ^ e)
    (hnear : 2 * (u * |q - h|) ≤ 10 ^ e) (hfine : 20 * |q - h| < 10 ^ e) :
    IsRounding n q (roundHalfEven N u * (10 : ℚ) ^ e) ↔ ¬ Misleads n h q := by
  have hpos : (0 : ℚ) < 10 ^ e := by positivity
  have hu' : (0 : ℚ) < u := by exact_mod_cast hu
  have hone : 1 ≤ n := by omega
  have hh0 : (10 : ℚ) ^ e ≤ h := by
    have hfirst := (one_le_pow₀ (by norm_num)).trans (div_bounds hu hlow hhigh).1
    rw [le_div_iff₀ hu', one_mul] at hfirst
    apply le_of_mul_le_mul_left _ hu'
    rw [hh]
    exact mul_le_mul_of_nonneg_right hfirst hpos.le
  have hq0 : 0 ≤ q := by
    have hbelow := neg_le_abs (q - h)
    linarith
  have hsplit : u * h = (u * (N / u : ℕ) + (N % u : ℕ)) * (10 : ℚ) ^ e := by
    have hN : (u * (N / u : ℕ) + (N % u : ℕ) : ℚ) = N := by exact_mod_cast Nat.div_add_mod N u
    rw [hN, hh]
  constructor
  · exact IsRounding.not_misleads hone hu heven hlow hhigh hh (hpos.le.trans hh0) hq0
  · intro hmis
    rcases lt_trichotomy (2 * (N % u)) u with hless | hhalf | hmore
    · have hround : roundHalfEven N u = N / u := if_pos (.inl hless)
      rw [hround]
      exact isRounding_of_below_middle hone hu heven hlow hhigh hless hsplit hnear hfine
    · rw [roundHalfEven_of_tie hhalf]
      have hmid : 2 * h = (2 * (N / u : ℕ) + 1) * (10 : ℚ) ^ e := by
        have hhalf' : (2 * (N % u : ℕ) : ℚ) = u := by exact_mod_cast hhalf
        apply mul_left_cancel₀ hu'.ne'
        linear_combination 2 * hsplit + (10 : ℚ) ^ e * hhalf'
      exact isRounding_of_middle hn hlow hhigh hmid hq0 hfine hmis
    · have hround : roundHalfEven N u = N / u + 1 := if_neg (by omega)
      rw [hround]
      exact isRounding_of_above_middle hone hu heven hlow hhigh (Nat.mod_lt N hu) hmore hsplit hnear

end Abacus
