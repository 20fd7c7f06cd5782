/-! # Rounding a quotient of natural numbers

  `roundHalfEven n d` is the integer nearest to `n / d`. Decimals are rounded with it to a number of
  digits, and binary floating point to a number of bits.

  - `two_mul_roundHalfEven_le` and `le_two_mul_roundHalfEven`: it is off by half a unit at most;
  - `roundHalfEven_eq_of_near`: no other integer is within half a unit.
-/

namespace Abacus

/-- The integer nearest to `n / d`; of two equally near ones, the even one. -/
def roundHalfEven (n d : Nat) : Nat :=
  if 2 * (n % d) < d ∨ (2 * (n % d) = d ∧ n / d % 2 = 0) then n / d else n / d + 1

variable {n d : Nat}

/-- The rounded quotient exceeds the exact one by half a unit at most. -/
theorem two_mul_roundHalfEven_le (hd : 0 < d) : 2 * (d * roundHalfEven n d) ≤ 2 * n + d := by
  have h := Nat.div_add_mod n d
  have hr := Nat.mod_lt n hd
  unfold roundHalfEven
  split
  · omega
  · rw [Nat.mul_add]
    omega

/-- The rounded quotient falls short of the exact one by half a unit at most. -/
theorem le_two_mul_roundHalfEven (hd : 0 < d) : 2 * n ≤ 2 * (d * roundHalfEven n d) + d := by
  have h := Nat.div_add_mod n d
  have hr := Nat.mod_lt n hd
  unfold roundHalfEven
  split
  · omega
  · rw [Nat.mul_add]
    omega

/-- An integer within half a unit of the quotient is the rounded quotient. -/
theorem roundHalfEven_eq_of_near {m : Nat} (hd : 0 < d) (hlow : 2 * (d * m) < 2 * n + d)
    (hhigh : 2 * n < 2 * (d * m) + d) : roundHalfEven n d = m := by
  have hle := two_mul_roundHalfEven_le (n := n) hd
  have hge := le_two_mul_roundHalfEven (n := n) hd
  have hbelow : d * roundHalfEven n d < d * (m + 1) := by
    rw [Nat.mul_add]
    omega
  have habove : d * m < d * (roundHalfEven n d + 1) := by
    rw [Nat.mul_add]
    omega
  have hlt := Nat.lt_of_mul_lt_mul_left hbelow
  have hgt := Nat.lt_of_mul_lt_mul_left habove
  omega

end Abacus
