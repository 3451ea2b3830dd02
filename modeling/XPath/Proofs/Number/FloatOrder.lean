import Mathlib.Algebra.Order.Group.Unbundled.Int
import Mathlib.Data.Prod.Lex
import XPath.Proofs.Number.Order
import XPath.Value.Numeric

/-!
# The order of floating-point numbers

Two numbers of one binary format are compared by sign, then by exponent, then by significand.  So
each number has a place in a lexicographic order, the two zeros have the same, and numbers compare
as their places do.  Only a NaN has no place.
-/

namespace XPath.Number

open Float.Model (UnpackedFloat)

/-! ## 1. Unpacked numbers -/

theorem cmp_toLex {α β : Type} [LinearOrder α] [LinearOrder β] (a b : α) (x y : β) :
    cmp (toLex (a, x)) (toLex (b, y)) = (cmp a b).then (cmp x y) := by
  rw [cmp_eq_compare, cmp_eq_compare, cmp_eq_compare]
  rfl

/-- The place of an unpacked number: its class from negative to positive infinity, its exponent and
its significand, the last two turned around below zero.  What a NaN is given does not matter. -/
def floatPlace : UnpackedFloat → Int ×ₗ Int ×ₗ Int
  | .infinity .negative => toLex (-2, toLex (0, 0))
  | .finite .negative m e _ => toLex (-1, toLex (-e, -m))
  | .zero _ | .notANumber => toLex (0, toLex (0, 0))
  | .finite .positive m e _ => toLex (1, toLex (e, m))
  | .infinity .positive => toLex (2, toLex (0, 0))

theorem compare_nat_eq_cmp (m n : Nat) : Ord.compare m n = cmp (m : Int) (n : Int) := by
  rw [(Int.natCast_strictMono).cmp_map_eq, cmp_eq_compare]

/-- Numbers of one sign compare by exponent and significand. -/
theorem compare_finite_eq_cmp (c e e' : Int) (m m' : Nat) :
    (Ord.compare e e').then (Ord.compare m m') =
      cmp (toLex (c, toLex (e, (m : Int)))) (toLex (c, toLex (e', (m' : Int)))) := by
  rw [cmp_toLex, cmp_toLex, cmp_self_eq_eq, compare_int_eq_cmp, compare_nat_eq_cmp]
  rfl

/-- Below zero the order is turned around. -/
theorem swap_compare_finite_eq_cmp (c e e' : Int) (m m' : Nat) :
    ((Ord.compare e e').then (Ord.compare m m')).swap =
      cmp (toLex (c, toLex (-e, -(m : Int)))) (toLex (c, toLex (-e', -(m' : Int)))) := by
  have hneg : StrictAnti fun i : Int => -i := fun _ _ h => neg_lt_neg h
  rw [cmp_toLex, cmp_toLex, cmp_self_eq_eq, hneg.cmp_map_eq, hneg.cmp_map_eq, Ordering.swap_then,
    compare_int_eq_cmp, compare_nat_eq_cmp, cmp_swap, cmp_swap]
  rfl

theorem compare_unpacked {x y : UnpackedFloat} (hx : x.isNaN = false) (hy : y.isNaN = false) :
    x.compare y = some (cmp (floatPlace x) (floatPlace y)) := by
  -- the classes decide, unless both numbers are finite and of one sign
  cases x with
  | notANumber => cases hx
  | infinity s =>
    cases y with
    | notANumber => cases hy
    | infinity s' => cases s <;> cases s' <;> rfl
    | zero s' => cases s <;> rfl
    | finite s' => cases s <;> cases s' <;> rfl
  | zero s =>
    cases y with
    | notANumber => cases hy
    | infinity s' => cases s' <;> rfl
    | zero s' => rfl
    | finite s' => cases s' <;> rfl
  | finite s m e =>
    cases y with
    | notANumber => cases hy
    | infinity s' => cases s <;> cases s' <;> rfl
    | zero s' => cases s <;> rfl
    | finite s' m' e' =>
      cases s with
      | negative =>
        cases s' with
        | negative => exact congrArg some (swap_compare_finite_eq_cmp (-1) e e' m m')
        | positive => rfl
      | positive =>
        cases s' with
        | negative => rfl
        | positive => exact congrArg some (compare_finite_eq_cmp 1 e e' m m')

theorem compare_unpacked_of_isNaN {x y : UnpackedFloat} (h : x.isNaN = true ∨ y.isNaN = true) :
    x.compare y = none := by
  cases x with
  | notANumber => rfl
  | _ =>
    cases y with
    | notANumber => rfl
    | _ => rcases h with h | h <;> cases h

/-! ## 2. Numbers of the two formats -/

/-- Numbers whose comparisons are those of unpacked numbers have the order of these. -/
theorem compareFloating_eq {α : Type} [LT α] [DecidableLT α] [BEq α] (unpack : α → UnpackedFloat)
    (hlt : ∀ x y, x < y ↔ ((unpack x).compare (unpack y) == some .lt) = true)
    (heq : ∀ x y, (x == y) = ((unpack x).compare (unpack y) == some .eq)) {x y : α}
    (hx : (unpack x).isNaN = false) (hy : (unpack y).isNaN = false) :
    Numeric.compareFloating x y = some (cmp (floatPlace (unpack x)) (floatPlace (unpack y))) := by
  have hxy := compare_unpacked hx hy
  have hyx := compare_unpacked hy hx
  rw [← cmp_swap (floatPlace (unpack x))] at hyx
  generalize cmp (floatPlace (unpack x)) (floatPlace (unpack y)) = o at hxy hyx ⊢
  simp only [Numeric.compareFloating, hlt, heq, hxy, hyx]
  cases o <;> rfl

/-- A NaN is neither below, nor above, nor equal to anything. -/
theorem compareFloating_eq_none {α : Type} [LT α] [DecidableLT α] [BEq α]
    (unpack : α → UnpackedFloat)
    (hlt : ∀ x y, x < y ↔ ((unpack x).compare (unpack y) == some .lt) = true)
    (heq : ∀ x y, (x == y) = ((unpack x).compare (unpack y) == some .eq)) {x y : α}
    (h : (unpack x).isNaN = true ∨ (unpack y).isNaN = true) :
    Numeric.compareFloating x y = none := by
  simp only [Numeric.compareFloating, hlt, heq, compare_unpacked_of_isNaN h,
    compare_unpacked_of_isNaN h.symm]
  rfl

/-- The other way around the order is the opposite one. -/
theorem compareFloating_swap {α : Type} [LT α] [DecidableLT α] [BEq α] (unpack : α → UnpackedFloat)
    (hlt : ∀ x y, x < y ↔ ((unpack x).compare (unpack y) == some .lt) = true)
    (heq : ∀ x y, (x == y) = ((unpack x).compare (unpack y) == some .eq)) (x y : α) :
    Numeric.compareFloating y x = (Numeric.compareFloating x y).map Ordering.swap := by
  by_cases hnan : (unpack x).isNaN = true ∨ (unpack y).isNaN = true
  · rw [compareFloating_eq_none unpack hlt heq hnan,
      compareFloating_eq_none unpack hlt heq hnan.symm]
    rfl
  · rw [not_or, Bool.not_eq_true, Bool.not_eq_true] at hnan
    rw [compareFloating_eq unpack hlt heq hnan.1 hnan.2,
      compareFloating_eq unpack hlt heq hnan.2 hnan.1, ← cmp_swap]
    rfl

theorem compareFloating_double {x y : Float} (hx : x.isNaN = false) (hy : y.isNaN = false) :
    Numeric.compareFloating x y =
      some (cmp (floatPlace x.toModel.unpack) (floatPlace y.toModel.unpack)) :=
  compareFloating_eq (fun x : Float => x.toModel.unpack) (fun _ _ => decide_eq_true_iff)
    (fun _ _ => rfl) hx hy

theorem compareFloating_single {x y : Float32} (hx : x.isNaN = false) (hy : y.isNaN = false) :
    Numeric.compareFloating x y =
      some (cmp (floatPlace x.toModel.unpack) (floatPlace y.toModel.unpack)) :=
  compareFloating_eq (fun x : Float32 => x.toModel.unpack) (fun _ _ => decide_eq_true_iff)
    (fun _ _ => rfl) hx hy

theorem compareFloating_double_swap (x y : Float) :
    Numeric.compareFloating y x = (Numeric.compareFloating x y).map Ordering.swap :=
  compareFloating_swap (fun x : Float => x.toModel.unpack) (fun _ _ => decide_eq_true_iff)
    (fun _ _ => rfl) x y

theorem compareFloating_single_swap (x y : Float32) :
    Numeric.compareFloating y x = (Numeric.compareFloating x y).map Ordering.swap :=
  compareFloating_swap (fun x : Float32 => x.toModel.unpack) (fun _ _ => decide_eq_true_iff)
    (fun _ _ => rfl) x y

theorem compareFloating_double_of_isNaN {x y : Float} (h : x.isNaN = true ∨ y.isNaN = true) :
    Numeric.compareFloating x y = none :=
  compareFloating_eq_none (fun x : Float => x.toModel.unpack) (fun _ _ => decide_eq_true_iff)
    (fun _ _ => rfl) h

theorem compareFloating_single_of_isNaN {x y : Float32} (h : x.isNaN = true ∨ y.isNaN = true) :
    Numeric.compareFloating x y = none :=
  compareFloating_eq_none (fun x : Float32 => x.toModel.unpack) (fun _ _ => decide_eq_true_iff)
    (fun _ _ => rfl) h

end XPath.Number
