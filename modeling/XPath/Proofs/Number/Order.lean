import Mathlib.Algebra.Order.Field.Rat
import Mathlib.Order.Compare
import Mathlib.Tactic.FieldSimp
import Mathlib.Tactic.Positivity
import XPath.Number.Decimal

/-!
# The order of decimals

Two decimals are compared at the larger of their scales.  That is the order of the rational numbers
that they stand for, so it does not matter with which scales these are written.
-/

namespace XPath.Number

theorem compareOfLessAndEq_eq_cmp {α : Type} [LinearOrder α] [DecidableEq α] (x y : α)
    [Decidable (x < y)] : compareOfLessAndEq x y = cmp x y := by
  rw [cmp_eq_compare, LinearOrder.compare_eq_compareOfLessAndEq]
  congr

theorem compareOfLessAndEq_swap {α : Type} [LinearOrder α] [DecidableEq α] (x y : α)
    [Decidable (x < y)] [Decidable (y < x)] :
    compareOfLessAndEq y x = (compareOfLessAndEq x y).swap := by
  rw [compareOfLessAndEq_eq_cmp, compareOfLessAndEq_eq_cmp, cmp_swap]

theorem compare_int_eq_cmp (x y : Int) : Ord.compare x y = cmp x y :=
  (cmp_eq_compare x y).symm

namespace Decimal

/-- The number that a decimal stands for. -/
def value (d : Decimal) : ℚ := d.signed / 10 ^ d.scale

theorem signedAt_eq (d : Decimal) {s : Nat} (h : d.scale ≤ s) :
    (d.signedAt s : ℚ) = d.value * 10 ^ s := by
  have hs : (10 : ℚ) ^ s = 10 ^ (s - d.scale) * 10 ^ d.scale := by
    rw [← pow_add, Nat.sub_add_cancel h]
  rw [signedAt, value, hs]
  push_cast
  field_simp

theorem signedAt_add_eq (a b : Decimal) :
    ((a.signedAt (max a.scale b.scale) + b.signedAt (max a.scale b.scale) : ℤ) : ℚ) =
      (a.value + b.value) * 10 ^ max a.scale b.scale := by
  rw [Int.cast_add, a.signedAt_eq (le_max_left _ _), b.signedAt_eq (le_max_right _ _), add_mul]

theorem compare_eq_cmp (a b : Decimal) : a.compare b = cmp a.value b.value := by
  have hpos : (0 : ℚ) < 10 ^ max a.scale b.scale := by positivity
  -- both numbers are multiplied by one and the same power of ten
  rw [compare, compare_int_eq_cmp, ← (Int.cast_strictMono (R := ℚ)).cmp_map_eq,
    a.signedAt_eq (le_max_left _ _), b.signedAt_eq (le_max_right _ _)]
  exact cmp_mul_pos_right hpos _ _

theorem signed_of_ofParts? {negative : Bool} {coefficient scale : Nat} {d : Decimal}
    (h : ofParts? negative coefficient scale = some d) :
    d.signed = (if negative then -(coefficient : Int) else coefficient) ∧ d.scale = scale := by
  unfold ofParts? at h
  split at h
  · cases h
    exact ⟨rfl, rfl⟩
  · cases h

/-- The decimal of an integer stands for the integer. -/
theorem value_of_ofInt? {i : Int} {d : Decimal} (h : ofInt? i = some d) : d.value = i := by
  have hparts := signed_of_ofParts? h
  have hsigned : d.signed = i := by
    rw [hparts.1]
    simp only [decide_eq_true_eq]
    omega
  rw [value, hsigned, hparts.2, pow_zero, div_one]

end Decimal

end XPath.Number
