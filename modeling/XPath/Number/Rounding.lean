/-!
# Rounding quotients of natural numbers

All inexact results of decimal and binary arithmetic are quotients rounded to the nearest whole
number of some unit. The two rules differ only in where an exact half goes.
-/

namespace XPath.Number

/-- `num / den` to the nearest whole number, a half to the even neighbour. -/
def divHalfEven (num den : Nat) : Nat :=
  let q := num / den
  let r := num % den
  if 2 * r > den || (2 * r == den && q % 2 == 1) then q + 1 else q

/-- `num / den` to the nearest whole number, a half upwards. -/
def divHalfUp (num den : Nat) : Nat :=
  let q := num / den
  if 2 * (num % den) ≥ den then q + 1 else q

theorem divHalfEven_one (n : Nat) : divHalfEven n 1 = n := by
  simp [divHalfEven, Nat.mod_one]

/-- The rounded quotient is within half a unit of the exact one. -/
theorem divHalfEven_near (num : Nat) {den : Nat} (h : 0 < den) :
    2 * num ≤ 2 * (den * divHalfEven num den) + den ∧
      2 * (den * divHalfEven num den) ≤ 2 * num + den := by
  have hd := Nat.div_add_mod num den
  have hr := Nat.mod_lt num h
  simp only [divHalfEven]
  split
  · rename_i hc
    simp only [Bool.or_eq_true, decide_eq_true_eq, Bool.and_eq_true, beq_iff_eq] at hc
    rw [Nat.mul_add, Nat.mul_one]
    omega
  · rename_i hc
    simp only [Bool.or_eq_true, decide_eq_true_eq, Bool.and_eq_true, beq_iff_eq, not_or] at hc
    omega

end XPath.Number
