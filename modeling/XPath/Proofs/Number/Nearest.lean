import Mathlib.Data.Nat.Find
import Mathlib.Data.Rat.Floor
import Mathlib.Tactic.LinearCombination
import XPath.Proofs.Number.Exact
import XPath.Proofs.Number.Order

/-!
# The decimal nearest to a number

Every rational number of moderate size has a nearest decimal: the one with as many digits behind the
point as there is room for.  Division gives the decimal that is nearest to the exact quotient.
Taking its whole part therefore takes two roundings, and the first one may reach the next whole
number.
-/

namespace XPath.Number

deriving instance DecidableEq for Decimal

/-! ## 1. The nearest multiple of a unit -/

/-- Whether `m` units are nearest to `x` among the whole multiples of the unit.  Of two multiples
that are equally near, it is the even one. -/
structure IsNearest (unit x : ℚ) (m : ℤ) : Prop where
  near : |x - m * unit| ≤ unit / 2
  even : |x - m * unit| = unit / 2 → Even m

namespace IsNearest

variable {unit x : ℚ} {m n : ℤ}

theorem self (hunit : 0 < unit) (m : ℤ) : IsNearest unit (m * unit) m := by
  constructor
  · rw [sub_self, abs_zero]
    exact (half_pos hunit).le
  · rw [sub_self, abs_zero]
    intro htie
    exact absurd htie (half_pos hunit).ne

theorem neg (h : IsNearest unit x m) : IsNearest unit (-x) (-m) := by
  have habs : |-x - (-m : ℤ) * unit| = |x - m * unit| := by
    rw [← abs_neg]
    congr 1
    push_cast
    ring
  refine ⟨habs ▸ h.near, fun htie => ?_⟩
  rw [habs] at htie
  exact (h.even htie).neg

theorem scale {c : ℚ} (hc : 0 < c) (h : IsNearest unit x m) : IsNearest (unit * c) (x * c) m := by
  have habs : |x * c - m * (unit * c)| = |x - m * unit| * c := by
    rw [← abs_of_pos hc, ← abs_mul, abs_of_pos hc]
    congr 1
    ring
  have hhalf : unit * c / 2 = unit / 2 * c := by ring
  constructor
  · rw [habs, hhalf]
    exact mul_le_mul_of_nonneg_right h.near hc.le
  · rw [habs, hhalf]
    intro htie
    exact h.even (mul_right_cancel₀ hc.ne' htie)

theorem scale_iff {c : ℚ} (hc : 0 < c) :
    IsNearest (unit * c) (x * c) m ↔ IsNearest unit x m := by
  refine ⟨fun h => ?_, scale hc⟩
  have hback := h.scale (inv_pos.mpr hc)
  rwa [mul_inv_cancel_right₀ hc.ne', mul_inv_cancel_right₀ hc.ne'] at hback

/-- A multiple that is not above `x` is not above the nearest one. -/
theorem le_of_le (hunit : 0 < unit) (h : IsNearest unit x m) (hn : n * unit ≤ x) : n ≤ m := by
  by_contra hlt
  have hstep : (m : ℚ) + 1 ≤ n := by exact_mod_cast Int.lt_of_not_ge hlt
  have hmul := mul_le_mul_of_nonneg_right hstep hunit.le
  have hnear := (abs_le.mp h.near).2
  linarith

theorem ge_of_ge (hunit : 0 < unit) (h : IsNearest unit x m) (hn : x ≤ n * unit) : m ≤ n := by
  have hneg := le_of_le (n := -n) hunit h.neg (by push_cast; linarith)
  omega

/-- There is only one nearest multiple: two neighbours are not both even. -/
theorem unique (hunit : 0 < unit) (hm : IsNearest unit x m) (hn : IsNearest unit x n) : m = n := by
  wlog hlt : m < n generalizing m n
  · rcases Int.lt_trichotomy m n with h | h | h
    · exact absurd h hlt
    · exact h
    · exact (this hn hm h).symm
  have hstep : (m : ℚ) + 1 ≤ n := by exact_mod_cast hlt
  have hmul := mul_le_mul_of_nonneg_right hstep hunit.le
  have hbelow := (abs_le.mp hm.near).2
  have habove := (abs_le.mp hn.near).1
  -- both are half a unit away, with `x` in the middle
  have hm' : |x - m * unit| = unit / 2 := by
    rw [abs_of_nonneg] <;> linarith
  have hn' : |x - n * unit| = unit / 2 := by
    rw [abs_of_nonpos] <;> linarith
  have hnext : (n : ℚ) = m + 1 := by
    apply mul_right_cancel₀ hunit.ne'
    linarith
  have hnext' : n = m + 1 := by exact_mod_cast hnext
  have := hm.even hm'
  have := hn.even hn'
  grind

end IsNearest

/-- A half goes to the even neighbour. -/
theorem divHalfEven_even (n d : Nat)
    (h : 2 * n = 2 * (d * divHalfEven n d) + d ∨ 2 * (d * divHalfEven n d) = 2 * n + d)
    (hd : 0 < d) :
    divHalfEven n d % 2 = 0 := by
  have hdiv := Nat.div_add_mod n d
  have hlt := Nat.mod_lt n hd
  revert h
  simp only [divHalfEven]
  split
  · rename_i hc
    simp only [Bool.or_eq_true, decide_eq_true_eq, Bool.and_eq_true, beq_iff_eq] at hc
    rw [Nat.mul_add, Nat.mul_one]
    omega
  · rename_i hc
    simp only [Bool.or_eq_true, decide_eq_true_eq, Bool.and_eq_true, beq_iff_eq, not_or] at hc
    omega

theorem isNearest_divHalfEven (n : Nat) {d : Nat} (hd : 0 < d) :
    IsNearest 1 (n / d : ℚ) (divHalfEven n d : ℕ) := by
  have hd' : (0 : ℚ) < d := by exact_mod_cast hd
  rcases divHalfEven_near n hd with ⟨hle, hge⟩
  have heven := divHalfEven_even n d
  generalize divHalfEven n d = q at *
  have hdist : (n / d : ℚ) - ((q : ℤ) : ℚ) * 1 = ((n : ℚ) - d * q) / d := by
    push_cast
    field_simp
  have hle' : 2 * (n : ℚ) ≤ 2 * (d * q) + d := by exact_mod_cast hle
  have hge' : 2 * ((d : ℚ) * q) ≤ 2 * n + d := by exact_mod_cast hge
  constructor
  · rw [hdist, abs_div, abs_of_pos hd', div_le_iff₀ hd', abs_le]
    constructor <;> linarith
  · rw [hdist, abs_div, abs_of_pos hd', div_eq_iff hd'.ne']
    intro htie
    have hcases : 2 * n = 2 * (d * q) + d ∨ 2 * (d * q) = 2 * n + d := by
      rcases abs_eq (by linarith) |>.mp htie with h | h
      · left
        have : 2 * (n : ℚ) = 2 * (d * q) + d := by linarith
        exact_mod_cast this
      · right
        have : 2 * ((d : ℚ) * q) = 2 * n + d := by linarith
        exact_mod_cast this
    have := heven hcases hd
    exact_mod_cast Nat.even_iff.mpr this

/-! ## 2. The nearest decimal -/

/-- The coefficient of the number nearest to `x` with `k` digits behind the point. -/
def coefficientAt (x : ℚ) (k : Nat) : ℤ := x.num.sign * divHalfEven (x.num.natAbs * 10 ^ k) x.den

/-- The digits behind the point for which a decimal near `x` has room. -/
def room (x : ℚ) : Nat := Nat.findGreatest (fun k => (coefficientAt x k).natAbs < 2 ^ 96) 28

/-- The decimal nearest to `x`, as a number. -/
def nearestDecimal (x : ℚ) : ℚ := coefficientAt x (room x) / 10 ^ room x

theorem coefficientAt_neg (x : ℚ) (k : Nat) : coefficientAt (-x) k = -coefficientAt x k := by
  simp only [coefficientAt, Rat.num_neg_eq_neg_num, Rat.den_neg_eq_den, Int.natAbs_neg,
    Int.sign_neg, Int.neg_mul]

theorem room_neg (x : ℚ) : room (-x) = room x := by
  simp only [room, coefficientAt_neg, Int.natAbs_neg]

theorem nearestDecimal_neg (x : ℚ) : nearestDecimal (-x) = -nearestDecimal x := by
  rw [nearestDecimal, room_neg, coefficientAt_neg, nearestDecimal]
  push_cast
  ring

theorem divHalfEven_mul_right (n d : Nat) {c : Nat} (hc : 0 < c) :
    divHalfEven (n * c) (d * c) = divHalfEven n d := by
  have hgt : 2 * (n % d * c) > d * c ↔ 2 * (n % d) > d := by
    rw [← Nat.mul_assoc]
    exact Nat.mul_lt_mul_right hc
  have heq : 2 * (n % d * c) = d * c ↔ 2 * (n % d) = d := by
    rw [← Nat.mul_assoc]
    exact Nat.mul_left_inj hc.ne'
  simp only [divHalfEven, Nat.mul_div_mul_right _ _ hc, Nat.mul_mod_mul_right, hgt, beq_iff_eq,
    Bool.or_eq_true, decide_eq_true_eq, Bool.and_eq_true, heq]

/-- The coefficient may be found from any fraction, not only from the reduced one. -/
theorem coefficientAt_div (n : Nat) {d : Nat} (hd : 0 < d) (k : Nat) :
    coefficientAt (n / d : ℚ) k = (divHalfEven (n * 10 ^ k) d : ℕ) := by
  have hx : (0 : ℚ) ≤ n / d := by positivity
  have hcross : n * (n / d : ℚ).den = (n / d : ℚ).num.natAbs * d := by
    have hd' : (d : ℚ) ≠ 0 := by exact_mod_cast hd.ne'
    have hden : ((n / d : ℚ).den : ℚ) ≠ 0 := by exact_mod_cast (n / d : ℚ).den_ne_zero
    have hnum : ((n / d : ℚ).num.natAbs : ℚ) = (n / d : ℚ).num := by
      have := Int.natAbs_of_nonneg (Rat.num_nonneg.mpr hx)
      exact_mod_cast this
    have hq := Rat.num_div_den (n / d : ℚ)
    rw [← hnum, div_eq_div_iff hden hd'] at hq
    exact_mod_cast hq.symm
  have hsame : divHalfEven (n * 10 ^ k) d =
      divHalfEven ((n / d : ℚ).num.natAbs * 10 ^ k) (n / d : ℚ).den := by
    rw [← divHalfEven_mul_right (n * 10 ^ k) d (n / d : ℚ).den_pos,
      ← divHalfEven_mul_right _ (n / d : ℚ).den hd, Nat.mul_right_comm, hcross,
      Nat.mul_right_comm, Nat.mul_comm d]
  rw [coefficientAt, hsame]
  -- a fraction that is zero has no sign, and then the coefficient is zero in any case
  rcases hx.eq_or_lt with h0 | hpos
  · simp [← h0, divHalfEven]
  · rw [Int.sign_eq_one_of_pos (Rat.num_pos.mpr hpos), Int.one_mul]

/-- Every number is a fraction of natural numbers with a sign. -/
theorem exists_fraction (x : ℚ) : ∃ n d : Nat, 0 < d ∧ (x = n / d ∨ x = -(n / d)) := by
  refine ⟨x.num.natAbs, x.den, x.den_pos, ?_⟩
  have hx := Rat.num_div_den x
  rcases Int.natAbs_eq x.num with h | h
  · left
    rw [← Int.cast_natCast, ← h, hx]
  · right
    rw [← Int.cast_natCast, ← neg_div, ← Int.cast_neg, ← h, hx]

theorem isNearest_coefficientAt (x : ℚ) (k : Nat) :
    IsNearest (1 / 10 ^ k) x (coefficientAt x k) := by
  have hfraction : ∀ n d : Nat, 0 < d →
      IsNearest (1 / 10 ^ k) (n / d) (coefficientAt (n / d) k) := by
    intro n d hd
    have h := (isNearest_divHalfEven (n * 10 ^ k) hd).scale (c := 1 / 10 ^ k) (by positivity)
    have hx : ((n * 10 ^ k : ℕ) : ℚ) / d * (1 / 10 ^ k) = n / d := by
      push_cast
      field_simp
    rwa [one_mul, hx, ← coefficientAt_div n hd k] at h
  rcases exists_fraction x with ⟨n, d, hd, rfl | rfl⟩
  · exact hfraction n d hd
  · rw [coefficientAt_neg]
    exact (hfraction n d hd).neg

/-- A number that has only so many digits is its own coefficient. -/
theorem coefficientAt_of_scale (m : ℤ) {t k : Nat} (h : t ≤ k) :
    coefficientAt (m / 10 ^ t) k = m * 10 ^ (k - t) := by
  have hunit : (0 : ℚ) < 1 / 10 ^ k := by positivity
  have hpow : (10 : ℚ) ^ k = 10 ^ t * 10 ^ (k - t) := by
    rw [← pow_add, Nat.add_sub_cancel' h]
  have hexact : (m / 10 ^ t : ℚ) = (m * 10 ^ (k - t) : ℤ) * (1 / 10 ^ k) := by
    rw [hpow]
    push_cast
    field_simp
  apply (isNearest_coefficientAt (m / 10 ^ t) k).unique hunit
  rw [hexact]
  exact IsNearest.self hunit _

theorem le_room {x : ℚ} {k : Nat} (hk : k ≤ 28) (h : (coefficientAt x k).natAbs < 2 ^ 96) :
    k ≤ room x := Nat.le_findGreatest hk h

theorem room_le (x : ℚ) : room x ≤ 28 := Nat.findGreatest_le 28

/-- A number that is a decimal is its own nearest one. -/
theorem nearestDecimal_of_scale {m : ℤ} {t : Nat} (hm : m.natAbs < 2 ^ 96) (ht : t ≤ 28) :
    nearestDecimal (m / 10 ^ t) = m / 10 ^ t := by
  have hroom : t ≤ room (m / 10 ^ t : ℚ) := by
    apply le_room ht
    rwa [coefficientAt_of_scale m le_rfl, Nat.sub_self, Int.pow_zero, Int.mul_one]
  have hpow : (10 : ℚ) ^ room (m / 10 ^ t : ℚ) = 10 ^ t * 10 ^ (room (m / 10 ^ t : ℚ) - t) := by
    rw [← pow_add, Nat.add_sub_cancel' hroom]
  rw [nearestDecimal, coefficientAt_of_scale m hroom, hpow]
  push_cast
  field_simp

theorem nearestDecimal_zero : nearestDecimal 0 = 0 := by
  have h := nearestDecimal_of_scale (m := 0) (t := 0) (by decide) (by decide)
  rwa [Int.cast_zero, zero_div] at h

/-- A number that is small enough has room for all 28 digits. -/
theorem nearestDecimal_of_small {x : ℚ} (h : |x| * 10 ^ 28 ≤ 2 ^ 96 - 1) :
    nearestDecimal x = coefficientAt x 28 / 10 ^ 28 := by
  have hunit : (0 : ℚ) < 1 / 10 ^ 28 := by positivity
  have hnearest := isNearest_coefficientAt x 28
  have habs : |x| ≤ (2 ^ 96 - 1) * (1 / 10 ^ 28) := by
    rwa [mul_one_div, le_div_iff₀ (by positivity)]
  have hlow := hnearest.le_of_le (n := -(2 ^ 96 - 1)) hunit (by
    push_cast
    linarith [(abs_le.mp habs).1])
  have hhigh := hnearest.ge_of_ge (n := 2 ^ 96 - 1) hunit (by
    push_cast
    linarith [(abs_le.mp habs).2])
  have hroom : room x = 28 := le_antisymm (room_le x) (le_room le_rfl (by omega))
  rw [nearestDecimal, hroom]

/-! ## 3. Sums, products and quotients of decimals -/

namespace Decimal

/-- The sign that a flag stands for, as a factor. -/
def factor (negative : Bool) : ℚ := if negative then -1 else 1

theorem value_eq (d : Decimal) : d.value = factor d.negative * (d.coefficient / 10 ^ d.scale) := by
  rw [value, signed, factor]
  split <;> simp [neg_div]

theorem value_zero : zero.value = 0 := by
  simp [value_eq, zero]

theorem value_of_isZero {d : Decimal} (h : d.isZero = true) : d.value = 0 := by
  have hc : d.coefficient = 0 := by simpa [isZero] using h
  simp [value_eq, hc]

theorem value_of_ofParts? {negative : Bool} {c s : Nat} {d : Decimal}
    (h : ofParts? negative c s = some d) : d.value = factor negative * (c / 10 ^ s) := by
  rcases signed_of_ofParts? h with ⟨hsigned, hscale⟩
  rw [value, hsigned, hscale, factor]
  split <;> simp [neg_div]

theorem lt_of_ofParts? {negative : Bool} {c s : Nat} {d : Decimal}
    (h : ofParts? negative c s = some d) : c < 2 ^ 96 := by
  unfold ofParts? at h
  split at h
  · rename_i hparts
    exact hparts.1
  · cases h

theorem value_normalize (d : Decimal) : d.normalize.value = d.value := by
  unfold normalize
  split
  · rename_i h
    rw [value_zero, value_of_isZero h]
  · rcases stripZeros_spec d.coefficient d.scale with ⟨hstrip, -⟩
    have hle := stripZeros_snd_le d.coefficient d.scale
    rw [value_eq, value_eq]
    dsimp only
    generalize (stripZeros d.coefficient d.scale).1 = c at *
    generalize (stripZeros d.coefficient d.scale).2 = s at *
    have hpow : (10 : ℚ) ^ d.scale = 10 ^ s * 10 ^ (d.scale - s) := by
      rw [← pow_add, Nat.add_sub_cancel' hle]
    rw [← hstrip, hpow]
    push_cast
    field_simp

theorem value_neg (d : Decimal) : d.neg.value = -d.value := by
  rw [value_eq, value_eq]
  cases hd : d.negative <;> simp [neg, factor, hd]

theorem value_abs (d : Decimal) : d.abs.value = |d.value| := by
  have hpow : (0 : ℚ) < 10 ^ d.scale := by positivity
  rw [value_eq, value_eq, abs_mul, abs_div, Nat.abs_cast, abs_of_pos hpow]
  cases hd : d.negative <;> simp [abs, factor]

theorem value_unsignZero (d : Decimal) : d.unsignZero.value = d.value := by
  by_cases h : d.coefficient = 0
  · simp [value_eq, unsignZero, h]
  · rw [value_eq, value_eq, unsignZero, bne_iff_ne.mpr h, Bool.and_true]

theorem abs_factor_mul (negative : Bool) (x : ℚ) : |factor negative * x| = |x| := by
  cases negative <;> simp [factor]

theorem nearestDecimal_factor (negative : Bool) (x : ℚ) :
    nearestDecimal (factor negative * x) = factor negative * nearestDecimal x := by
  cases negative with
  | false => simp only [factor, Bool.false_eq_true, if_false, one_mul]
  | true => simp only [factor, if_true, neg_one_mul, nearestDecimal_neg]

theorem nearest?_eq (negative : Bool) (num den : Nat) {s : Nat} (hs : s ≤ 28) :
    nearest? negative num den s = ofParts? negative
      (divHalfEven
        (num * 10 ^ Nat.findGreatest (fun k => divHalfEven (num * 10 ^ k) den < 2 ^ 96) s) den)
      (Nat.findGreatest (fun k => divHalfEven (num * 10 ^ k) den < 2 ^ 96) s) := by
  induction s with
  | zero => simp [nearest?]
  | succ s ih =>
    rw [nearest?, Nat.findGreatest_succ]
    by_cases hfits : divHalfEven (num * 10 ^ (s + 1)) den < 2 ^ 96
    · rw [if_pos hfits, ofParts?_eq hfits hs]
    · rw [if_neg hfits, ofParts?, dif_neg (fun h => hfits h.1)]
      exact ih (by omega)

theorem room_div (num : Nat) {den : Nat} (hden : 0 < den) : room (num / den : ℚ) =
    Nat.findGreatest (fun k => divHalfEven (num * 10 ^ k) den < 2 ^ 96) 28 := by
  simp only [room, coefficientAt_div num hden, Int.natAbs_natCast]

theorem value_of_nearest? {negative : Bool} {num den : Nat} (hden : 0 < den) {d : Decimal}
    (h : nearest? negative num den 28 = some d) :
    d.value = factor negative * nearestDecimal (num / den) := by
  rw [nearest?_eq _ _ _ le_rfl, ← room_div num hden] at h
  rw [value_of_ofParts? h, nearestDecimal, coefficientAt_div num hden]
  push_cast
  rfl

/-- The sign and the magnitude of the exact quotient. -/
theorem value_div_value (a b : Decimal) : a.value / b.value = factor (a.negative != b.negative) *
    ((a.coefficient * 10 ^ b.scale : ℕ) / (b.coefficient * 10 ^ a.scale : ℕ)) := by
  have hsign : factor a.negative / factor b.negative = factor (a.negative != b.negative) := by
    cases a.negative <;> cases b.negative <;> simp [factor]
  rw [value_eq, value_eq, ← hsign, mul_div_mul_comm]
  congr 1
  push_cast
  rw [div_div_div_eq, mul_comm ((10 : ℚ) ^ a.scale)]

/-- A quotient that is exact is its own nearest decimal. -/
theorem nearestDecimal_exact {n d c s t : Nat} (hd : 0 < d) (hn : n = d * c) (ht : t ≤ 28)
    (hfits : c * 10 ^ (s - t) < 2 ^ 96) :
    nearestDecimal ((n * 10 ^ s : ℕ) / (d * 10 ^ t : ℕ)) =
      (c * 10 ^ (s - t) : ℕ) / 10 ^ (t - s) := by
  have hd' : (d : ℚ) ≠ 0 := by exact_mod_cast hd.ne'
  have hpow : (10 : ℚ) ^ s * 10 ^ (t - s) = 10 ^ (s - t) * 10 ^ t := by
    rw [← pow_add, ← pow_add]
    congr 1
    omega
  have hquotient : ((n * 10 ^ s : ℕ) : ℚ) / (d * 10 ^ t : ℕ) =
      ((c * 10 ^ (s - t) : ℕ) : ℤ) / 10 ^ (t - s) := by
    rw [hn]
    push_cast
    field_simp
    linear_combination (c : ℚ) * hpow
  rw [hquotient, nearestDecimal_of_scale (by rwa [Int.natAbs_natCast]) (by omega),
    Int.cast_natCast]

/-- Division gives the decimal that is nearest to the exact quotient. -/
theorem value_div? {a b q : Decimal} (h : a.div? b = some q) :
    q.value = nearestDecimal (a.value / b.value) := by
  unfold div? at h
  split at h
  · cases h
  · rename_i hb
    have hb0 : 0 < b.coefficient := Nat.pos_of_ne_zero (by simpa [isZero] using hb)
    split at h
    · rename_i ha
      obtain rfl := Option.some.inj h
      rw [value_of_isZero ha, zero_div, value_zero, nearestDecimal_zero]
    · dsimp only at h
      rw [value_div_value, nearestDecimal_factor]
      split at h
      · -- the coefficient of an exact quotient fits, so that it is its own nearest decimal
        rename_i hdvd
        rcases Nat.dvd_of_mod_eq_zero (beq_iff_eq.mp hdvd) with ⟨c, hc⟩
        rw [hc, Nat.mul_div_cancel_left _ hb0] at h
        rw [value_of_ofParts? h, nearestDecimal_exact hb0 hc a.scale_le (lt_of_ofParts? h)]
      · obtain ⟨d, hd, rfl⟩ := Option.map_eq_some_iff.mp h
        rw [value_normalize, value_of_nearest? (Nat.mul_pos hb0 (Nat.pow_pos (by decide))) hd]

/-- Division by a whole number has room for its result. -/
theorem exists_div?_whole (a : Decimal) {u : Nat} (hu : u < 2 ^ 96) (hu0 : u ≠ 0) :
    ∃ q, a.div? ⟨false, u, 0, hu, by decide⟩ = some q := by
  have hc := a.coefficient_lt
  unfold div?
  rw [if_neg (by simpa [isZero] using hu0)]
  split
  · exact ⟨zero, rfl⟩
  · dsimp only
    split
    · have hfits : a.coefficient / u * 10 ^ (0 - a.scale) < 2 ^ 96 := by
        rw [Nat.zero_sub, Nat.pow_zero, Nat.mul_one]
        exact (Nat.div_le_self _ _).trans_lt hc
      exact ⟨_, ofParts?_eq hfits (by have := a.scale_le; omega)⟩
    · rename_i hdvd
      have hd0 : 0 < u * 10 ^ a.scale := Nat.mul_pos (by omega) (Nat.pow_pos (by decide))
      -- a divisor that leaves a remainder is at least two
      have hsmall : divHalfEven (a.coefficient * 10 ^ 0) (u * 10 ^ a.scale) < 2 ^ 96 := by
        have hu2 : 2 ≤ u * 10 ^ a.scale := by
          have hu1 : u ≠ 1 := by
            rintro rfl
            simp [Nat.mod_one] at hdvd
          have := Nat.le_mul_of_pos_right u (Nat.pow_pos (by decide : 0 < 10) (n := a.scale))
          omega
        have hhalf : a.coefficient / (u * 10 ^ a.scale) ≤ a.coefficient / 2 :=
          Nat.div_le_div_left hu2 (by decide)
        rw [Nat.pow_zero, Nat.mul_one]
        rcases divHalfEven_cases a.coefficient (u * 10 ^ a.scale) with h | h <;> omega
      rcases nearest?_spec (a.negative != false) hsmall le_rfl with ⟨k, hk, hfits, hnearest, -⟩
      rw [hnearest, ofParts?_eq hfits hk]
      exact ⟨_, rfl⟩

/-- A fraction that is a decimal with few enough digits is its own nearest one. -/
theorem exists_nearest? (negative : Bool) {num den c t s : Nat} (hden : 0 < den)
    (hexact : num * 10 ^ t = c * den) (ht : t ≤ s) (hs : s ≤ 28) (hc : c < 2 ^ 96) :
    ∃ d, nearest? negative num den s = some d ∧ d.value = factor negative * (c / 10 ^ t) := by
  have hfits : divHalfEven (num * 10 ^ t) den < 2 ^ 96 := by rwa [hexact, divHalfEven_mul c hden]
  have hle : t ≤ Nat.findGreatest (fun k => divHalfEven (num * 10 ^ k) den < 2 ^ 96) s :=
    Nat.le_findGreatest ht hfits
  have hlt := Nat.findGreatest_spec (P := fun k => divHalfEven (num * 10 ^ k) den < 2 ^ 96) ht hfits
  have hbound := Nat.findGreatest_le (P := fun k => divHalfEven (num * 10 ^ k) den < 2 ^ 96) s
  rw [nearest?_eq _ _ _ hs]
  generalize Nat.findGreatest (fun k => divHalfEven (num * 10 ^ k) den < 2 ^ 96) s = k at *
  obtain ⟨j, rfl⟩ := Nat.exists_eq_add_of_le hle
  have hcoefficient : divHalfEven (num * 10 ^ (t + j)) den = c * 10 ^ j := by
    rw [Nat.pow_add, ← Nat.mul_assoc, hexact, Nat.mul_right_comm, divHalfEven_mul _ hden]
  rw [hcoefficient] at hlt ⊢
  refine ⟨_, ofParts?_eq hlt (hbound.trans hs), ?_⟩
  rw [value_eq]
  push_cast
  rw [pow_add, mul_div_mul_right _ _ (by positivity)]

/-- A sum is exact if there is room for all its digits. -/
theorem exists_add? {a b : Decimal}
    (hfits : |a.value + b.value| * 10 ^ max a.scale b.scale < 2 ^ 96) :
    ∃ c, a.add? b = some c ∧ c.value = a.value + b.value := by
  unfold add?
  split
  · rename_i ha
    exact ⟨b, rfl, by rw [value_of_isZero ha, zero_add]⟩
  · split
    · rename_i hb
      exact ⟨a, rfl, by rw [value_of_isZero hb, add_zero]⟩
    · dsimp only
      have hsum := signedAt_add_eq a b
      have hs : max a.scale b.scale ≤ 28 := max_le a.scale_le b.scale_le
      generalize a.signedAt (max a.scale b.scale) + b.signedAt (max a.scale b.scale) = i at *
      generalize max a.scale b.scale = s at *
      have hpow : (0 : ℚ) < 10 ^ s := by positivity
      have hlt : i.natAbs < 2 ^ 96 := by
        have habs : ((i.natAbs : ℕ) : ℚ) = |a.value + b.value| * 10 ^ s := by
          rw [Nat.cast_natAbs, Int.cast_abs, hsum, abs_mul, abs_of_pos hpow]
        exact_mod_cast habs.trans_lt hfits
      rcases exists_nearest? (decide (i < 0)) (Nat.pow_pos (by decide)) rfl le_rfl hs hlt with
        ⟨c, hc, hvalue⟩
      refine ⟨c, hc, ?_⟩
      have hsign : factor (decide (i < 0)) * i.natAbs = i := by
        rw [Nat.cast_natAbs, Int.cast_abs, factor]
        by_cases hneg : i < 0
        · rw [decide_eq_true hneg, if_pos rfl, abs_of_neg (by exact_mod_cast hneg), neg_one_mul,
            neg_neg]
        · rw [decide_eq_false hneg, if_neg Bool.false_ne_true, one_mul,
            abs_of_nonneg (by exact_mod_cast Int.not_lt.mp hneg)]
      rw [hvalue, ← mul_div_assoc, hsign, hsum, mul_div_cancel_right₀ _ hpow.ne']

theorem exists_sub? {a b : Decimal}
    (hfits : |a.value - b.value| * 10 ^ max a.scale b.scale < 2 ^ 96) :
    ∃ c, a.sub? b = some c ∧ c.value = a.value - b.value := by
  unfold sub?
  split
  · rename_i hb
    refine ⟨_, rfl, ?_⟩
    rw [value_of_isZero hb, sub_zero]
    split
    · rename_i ha
      rw [value_of_isZero hb, value_of_isZero ha]
    · rfl
  · rcases exists_add? (a := a) (b := b.neg) (by rwa [value_neg, ← sub_eq_add_neg]) with
      ⟨c, hc, hvalue⟩
    refine ⟨c, hc, ?_⟩
    rw [hvalue, value_neg, sub_eq_add_neg]

/-- A product is exact if it is a decimal. -/
theorem exists_mul? {a b : Decimal} {c t : Nat}
    (hexact : a.coefficient * b.coefficient * 10 ^ t = c * 10 ^ (a.scale + b.scale))
    (ht : t ≤ min 28 (a.scale + b.scale)) (hc : c < 2 ^ 96) :
    ∃ p, a.mul? b = some p ∧ p.value = a.value * b.value := by
  unfold mul?
  split
  · rename_i hzero
    rw [Bool.or_eq_true] at hzero
    refine ⟨zero, rfl, ?_⟩
    rcases hzero with h | h <;> simp only [value_zero, value_of_isZero h, zero_mul, mul_zero]
  · dsimp only
    rcases exists_nearest? (a.negative != b.negative) (Nat.pow_pos (by decide)) hexact ht
      (min_le_left _ _) hc with ⟨d, hd, hvalue⟩
    have hsign : factor (a.negative != b.negative) = factor a.negative * factor b.negative := by
      cases a.negative <;> cases b.negative <;> simp [factor]
    have hproduct : (c : ℚ) / 10 ^ t =
        a.coefficient / 10 ^ a.scale * (b.coefficient / 10 ^ b.scale) := by
      rw [div_mul_div_comm, ← pow_add, div_eq_div_iff (by positivity) (by positivity)]
      exact_mod_cast hexact.symm
    refine ⟨_, by rw [hd, Option.map_some], ?_⟩
    rw [value_unsignZero, hvalue, hsign, hproduct, value_eq, value_eq]
    ring

/-- A product of whole numbers that is too large has no decimal. -/
theorem mul?_eq_none {a b : Decimal} (ha : a.scale = 0) (hb : b.scale = 0)
    (h : 2 ^ 96 ≤ a.coefficient * b.coefficient) : a.mul? b = none := by
  have hparts : ¬ (a.coefficient * b.coefficient < 2 ^ 96 ∧ 0 ≤ 28) := fun hfits => by omega
  have hzero : (a.isZero || b.isZero) = false := by
    rw [Bool.or_eq_false_iff, isZero, isZero, beq_eq_false_iff_ne, beq_eq_false_iff_ne]
    constructor <;> intro h0 <;> rw [h0] at h <;> omega
  rw [mul?, hzero, if_neg Bool.false_ne_true, ha, hb]
  dsimp only
  rw [Nat.add_zero, Nat.min_zero, nearest?, Nat.pow_zero, divHalfEven_one, ofParts?,
    dif_neg hparts, Option.map_none]

end Decimal

/-! ## 4. Whole parts -/

/-- A number without its fraction. -/
def wholePart (x : ℚ) : ℤ := x.num.tdiv x.den

theorem wholePart_neg (x : ℚ) : wholePart (-x) = -wholePart x := by
  rw [wholePart, Rat.num_neg_eq_neg_num, Rat.den_neg_eq_den, Int.neg_tdiv, wholePart]

theorem wholePart_of_nonneg {x : ℚ} (hx : 0 ≤ x) : wholePart x = ⌊x⌋ := by
  rw [wholePart, Int.tdiv_eq_ediv_of_nonneg (Rat.num_nonneg.mpr hx), ← Rat.floor_def']

theorem wholePart_spec (x : ℚ) : |x - wholePart x| < 1 ∧ 0 ≤ (x - wholePart x) * x := by
  wlog hx : 0 ≤ x generalizing x
  · have h := this (-x) (by linarith)
    rw [wholePart_neg] at h
    have habs : -x - (-wholePart x : ℤ) = -(x - wholePart x) := by
      push_cast
      ring
    rwa [habs, abs_neg, neg_mul_neg] at h
  · rw [wholePart_of_nonneg hx]
    have hle := Int.floor_le x
    have hlt := Int.lt_floor_add_one x
    refine ⟨abs_lt.mpr ⟨by linarith, by linarith⟩, mul_nonneg (by linarith) hx⟩

/-- Only the whole part leaves a fraction, without the other sign. -/
theorem eq_wholePart {x : ℚ} {n : ℤ} (hlt : |x - n| < 1) (hsign : 0 ≤ (x - n) * x) :
    n = wholePart x := by
  wlog hx : 0 ≤ x generalizing x n
  · have h := this (x := -x) (n := -n) (by
      rw [← abs_neg]
      push_cast
      rwa [neg_sub_neg, ← neg_sub, neg_neg]) (by
      push_cast
      linarith) (by linarith)
    rw [wholePart_neg] at h
    omega
  · rw [wholePart_of_nonneg hx]
    rcases abs_lt.mp hlt with ⟨hlow, hhigh⟩
    rcases hx.eq_or_lt with rfl | hpos
    · -- around zero there is a number with a fraction of either sign, but only one whole number
      have h1 : n < 1 := by exact_mod_cast (show (n : ℚ) < 1 by linarith)
      have h2 : -1 < n := by exact_mod_cast (show (-1 : ℚ) < n by linarith)
      rw [Int.floor_zero]
      omega
    · have hfraction := nonneg_of_mul_nonneg_left hsign hpos
      exact (Int.floor_eq_iff.mpr ⟨by linarith, by linarith⟩).symm

/-- Whether the decimal nearest to a number is the next whole number. -/
def RoundsUp (x : ℚ) : Prop := nearestDecimal |x| = ⌊|x|⌋ + 1

instance (x : ℚ) : Decidable (RoundsUp x) := inferInstanceAs (Decidable (_ = _))

theorem not_roundsUp_zero : ¬ RoundsUp 0 := by
  rw [RoundsUp, abs_zero, nearestDecimal_zero, Int.floor_zero]
  norm_num

theorem roundsUp_neg {x : ℚ} : RoundsUp (-x) ↔ RoundsUp x := by
  rw [RoundsUp, abs_neg, RoundsUp]

theorem nearestDecimal_near (x : ℚ) : |x - nearestDecimal x| ≤ 1 / 10 ^ room x / 2 := by
  have h := (isNearest_coefficientAt x (room x)).near
  rwa [mul_one_div] at h

/-- Rounding does not pass a whole number. -/
theorem nearestDecimal_bounds (x : ℚ) : ⌊x⌋ ≤ nearestDecimal x ∧ nearestDecimal x ≤ ⌊x⌋ + 1 := by
  have hpow : (0 : ℚ) < 10 ^ room x := by positivity
  have hunits : ∀ n : ℤ, ((n * 10 ^ room x : ℤ) : ℚ) * (1 / 10 ^ room x) = n := by
    intro n
    push_cast
    field_simp
  have hnearest := isNearest_coefficientAt x (room x)
  constructor
  · have hle := hnearest.le_of_le (n := ⌊x⌋ * 10 ^ room x) (by positivity) (by
      rw [hunits]
      exact Int.floor_le x)
    rw [nearestDecimal, le_div_iff₀ hpow]
    exact_mod_cast hle
  · have hge := hnearest.ge_of_ge (n := (⌊x⌋ + 1) * 10 ^ room x) (by positivity) (by
      rw [hunits]
      push_cast
      exact (Int.lt_floor_add_one x).le)
    rw [nearestDecimal, div_le_iff₀ hpow]
    exact_mod_cast hge

/-- Rounding leaves the whole part as it is, or takes it to the next whole number. -/
theorem wholePart_nearestDecimal (x : ℚ) :
    wholePart (nearestDecimal x) = wholePart x + if RoundsUp x then x.num.sign else 0 := by
  wlog hx : 0 ≤ x generalizing x
  · have h := this (-x) (by linarith)
    rw [nearestDecimal_neg, wholePart_neg, wholePart_neg, Rat.num_neg_eq_neg_num, Int.sign_neg] at h
    rw [if_congr roundsUp_neg rfl rfl] at h
    by_cases hx' : RoundsUp x
    · rw [if_pos hx'] at h ⊢
      omega
    · rw [if_neg hx'] at h ⊢
      omega
  · rcases nearestDecimal_bounds x with ⟨hlow, hhigh⟩
    have hfloor : (0 : ℚ) ≤ ⌊x⌋ := by exact_mod_cast Int.floor_nonneg.mpr hx
    rw [wholePart_of_nonneg (hfloor.trans hlow), wholePart_of_nonneg hx]
    by_cases hup : RoundsUp x
    · rw [if_pos hup]
      have hpos : 0 < x := by
        rcases hx.eq_or_lt with rfl | hpos
        · exact absurd hup not_roundsUp_zero
        · exact hpos
      rw [RoundsUp, abs_of_nonneg hx] at hup
      rw [hup, Int.sign_eq_one_of_pos (Rat.num_pos.mpr hpos)]
      exact_mod_cast Int.floor_intCast (R := ℚ) (⌊x⌋ + 1)
    · rw [if_neg hup, Int.add_zero]
      rw [RoundsUp, abs_of_nonneg hx] at hup
      exact Int.floor_eq_iff.mpr ⟨hlow, lt_of_le_of_ne hhigh hup⟩

/-- A quotient of numbers with at most fourteen digits is not rounded to the next whole number: it
is too far away. -/
theorem not_roundsUp_of_few_digits {n d : Nat} (hn : n < 10 ^ 14) (hd : d < 10 ^ 14) :
    ¬ RoundsUp (n / d) := by
  intro hup
  rcases Nat.eq_zero_or_pos d with rfl | hd0
  · rw [Nat.cast_zero, div_zero] at hup
    exact not_roundsUp_zero hup
  · rw [RoundsUp, abs_of_nonneg (by positivity)] at hup
    have hd' : (0 : ℚ) < d := by exact_mod_cast hd0
    have hroom : 14 ≤ room (n / d : ℚ) := by
      apply le_room (by decide)
      have hquotient : n * 10 ^ 14 / d ≤ n * 10 ^ 14 := Nat.div_le_self _ _
      rw [coefficientAt_div n hd0, Int.natAbs_natCast]
      rcases Decimal.divHalfEven_cases (n * 10 ^ 14) d with h | h <;> omega
    have hnear := nearestDecimal_near (n / d)
    rw [hup, abs_sub_comm] at hnear
    -- the next whole number is at least one part in `d` away
    have hgap : (1 : ℚ) / d ≤ ⌊(n / d : ℚ)⌋ + 1 - n / d := by
      rw [Rat.floor_natCast_div_natCast, le_sub_iff_add_le, ← add_div, div_le_iff₀ hd']
      have := Nat.lt_mul_div_succ n hd0
      have hle : 1 + n ≤ (n / d + 1) * d := by
        rw [Nat.mul_comm]
        omega
      exact_mod_cast hle
    have hunit : (1 : ℚ) / 10 ^ room (n / d : ℚ) ≤ 1 / 10 ^ 14 :=
      one_div_le_one_div_of_le (by positivity) (pow_le_pow_right₀ (by norm_num) hroom)
    have hsmall : (1 : ℚ) / 10 ^ 14 < 1 / d :=
      one_div_lt_one_div_of_lt hd' (by exact_mod_cast hd)
    have hpos : (0 : ℚ) < 1 / 10 ^ 14 := by positivity
    have := (abs_le.mp hnear).2
    linarith

namespace Decimal

theorem truncate_eq_wholePart (d : Decimal) : d.truncate = wholePart d.value := by
  have hfloor : wholePart (d.coefficient / 10 ^ d.scale) = (d.coefficient / 10 ^ d.scale : ℕ) := by
    rw [wholePart_of_nonneg (by positivity)]
    exact_mod_cast Rat.floor_natCast_div_natCast d.coefficient (10 ^ d.scale)
  rw [value_eq, truncate, factor]
  split
  · rw [neg_one_mul, wholePart_neg, hfloor]
  · rw [one_mul, hfloor]

/-- The whole part of a quotient is that of the exact one, unless rounding reaches the next whole
number. -/
theorem truncate_quotient {a b q : Decimal} (h : a.div? b = some q) :
    q.truncate = wholePart (a.value / b.value) +
      if RoundsUp (a.value / b.value) then (a.value / b.value).num.sign else 0 := by
  rw [truncate_eq_wholePart, value_div? h, wholePart_nearestDecimal]

end Decimal

end XPath.Number
