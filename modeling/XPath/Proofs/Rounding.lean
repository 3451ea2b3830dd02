import XPath.Library.Numbers
import XPath.Proofs.Number.Nearest
import XPath.Proofs.Text.Digits

/-!
# Rounding to powers of ten

Decimals are rounded to tens, hundreds and so on by a division, a rounding to a whole number and a
multiplication.  The quotient is already the nearest decimal, so that the number is rounded twice.
That gives another result than rounding once if the quotient is not quite in the middle between two
whole numbers, but its nearest decimal is.  Integers are rounded once, by whole numbers alone.
-/

namespace XPath

open XPath.Number

/-! ## 1. Rounding twice -/

/-- Whether `x` is so near the middle between two whole numbers that 28 digits behind the point do
not tell it from the middle, and on the side of the odd one. -/
def IsFalseTie (x : ℚ) : Prop :=
  |Int.fract |x| - 1 / 2| ≤ 1 / 10 ^ 28 / 2 ∧
    if Even ⌊|x|⌋ then 1 / 2 < Int.fract |x| else Int.fract |x| < 1 / 2

theorem isFalseTie_neg {x : ℚ} : IsFalseTie (-x) ↔ IsFalseTie x := by
  rw [IsFalseTie, abs_neg, IsFalseTie]

namespace Number.IsNearest

variable {x : ℚ} {c m n : ℤ}

theorem neg_iff {unit : ℚ} : IsNearest unit (-x) (-m) ↔ IsNearest unit x m := by
  refine ⟨fun h => ?_, IsNearest.neg⟩
  have hneg := h.neg
  rwa [neg_neg, neg_neg] at hneg

/-- The whole number below is the nearest one up to the middle, which belongs to the even one. -/
theorem below_iff (h : n ≤ x) : IsNearest 1 x n ↔ x < n + 1 / 2 ∨ x = n + 1 / 2 ∧ Even n := by
  have hdist : |x - n * 1| = x - n := by
    rw [mul_one, abs_of_nonneg (by linarith)]
  constructor
  · rintro ⟨hnear, heven⟩
    rw [hdist] at hnear heven
    rcases hnear.lt_or_eq with hlt | htie
    · exact .inl (by linarith)
    · exact .inr ⟨by linarith, heven htie⟩
  · intro hcases
    refine ⟨?_, ?_⟩ <;> rw [hdist]
    · rcases hcases with hlt | ⟨htie, -⟩ <;> linarith
    · intro htie
      rcases hcases with hlt | ⟨-, heven⟩
      · linarith
      · exact heven

theorem above_iff (h : x ≤ n + 1) :
    IsNearest 1 x (n + 1) ↔ n + 1 / 2 < x ∨ x = n + 1 / 2 ∧ ¬ Even n := by
  -- with the other sign it is the whole number below
  have hneg : IsNearest 1 (-x) (-(n + 1)) ↔
      -x < (-(n + 1) : ℤ) + 1 / 2 ∨ -x = (-(n + 1) : ℤ) + 1 / 2 ∧ Even (-(n + 1)) := by
    apply below_iff
    push_cast
    linarith
  rw [← neg_iff, hneg, even_neg, Int.even_add_one]
  push_cast
  apply or_congr
  · constructor <;> intro h <;> linarith
  · apply and_congr_left'
    constructor <;> intro h <;> linarith

/-- The number with 28 digits that is nearest to `x` is the middle between two whole numbers if `x`
is within half a unit of it.  The middle is the even one of its neighbours. -/
theorem eq_middle_iff (hc : IsNearest (1 / 10 ^ 28) x c) :
    (c : ℚ) / 10 ^ 28 = n + 1 / 2 ↔ |x - (n + 1 / 2)| ≤ 1 / 10 ^ 28 / 2 := by
  have hmiddle : (((2 * n + 1) * 5 * 10 ^ 27 : ℤ) : ℚ) * (1 / 10 ^ 28) = n + 1 / 2 := by
    push_cast
    ring
  constructor
  · intro h
    rw [← h, ← mul_one_div]
    exact hc.near
  · intro h
    have hnearest : IsNearest (1 / 10 ^ 28) x ((2 * n + 1) * 5 * 10 ^ 27) := by
      constructor
      · rwa [hmiddle]
      · intro _
        exact (Int.even_pow.mpr ⟨by decide, by decide⟩).mul_left _
    rw [hc.unique (by positivity) hnearest, ← mul_one_div, hmiddle]

/-- Rounding first to 28 digits behind the point and then to a whole number gives the nearest whole
number, except for a false tie. -/
theorem twice_iff (hc : IsNearest (1 / 10 ^ 28) x c) (hm : IsNearest 1 (c / 10 ^ 28) m) :
    IsNearest 1 x m ↔ ¬ IsFalseTie x := by
  wlog hx : 0 ≤ x generalizing x c m
  · have hcast : ((-c : ℤ) : ℚ) / 10 ^ 28 = -(c / 10 ^ 28) := by
      push_cast
      ring
    rw [← neg_iff, ← isFalseTie_neg]
    exact this hc.neg (hcast ▸ hm.neg) (by linarith)
  · obtain ⟨n, hn⟩ : ∃ n, ⌊x⌋ = n := ⟨_, rfl⟩
    have hle : (n : ℚ) ≤ x := hn ▸ Int.floor_le x
    have hlt : x < n + 1 := hn ▸ Int.lt_floor_add_one x
    have hunit : (0 : ℚ) < 1 / 10 ^ 28 := by positivity
    have hmiddle := hc.eq_middle_iff (n := n)
    rw [IsFalseTie, abs_of_nonneg hx, Int.fract, hn, sub_sub, ← hmiddle]
    -- the whole numbers around `x` and their middle have 28 digits, so that rounding passes none
    -- of them
    have hkeep : ∀ i : ℤ, (i / 2 : ℚ) = (i * 5 * 10 ^ 27 : ℤ) * (1 / 10 ^ 28) := by
      intro i
      push_cast
      ring
    have hlow : ∀ i : ℤ, i / 2 ≤ x → (i / 2 : ℚ) ≤ c / 10 ^ 28 := by
      intro i hi
      rw [hkeep] at hi ⊢
      rw [← mul_one_div (c : ℚ)]
      exact mul_le_mul_of_nonneg_right (by exact_mod_cast hc.le_of_le hunit hi) hunit.le
    have hhigh : ∀ i : ℤ, x ≤ i / 2 → (c / 10 ^ 28 : ℚ) ≤ i / 2 := by
      intro i hi
      rw [hkeep] at hi ⊢
      rw [← mul_one_div (c : ℚ)]
      exact mul_le_mul_of_nonneg_right (by exact_mod_cast hc.ge_of_ge hunit hi) hunit.le
    have hn0 := hlow (2 * n) (by push_cast; linarith)
    have hn1 := hhigh (2 * n + 2) (by push_cast; linarith)
    have hdown := hlow (2 * n + 1)
    have hup := hhigh (2 * n + 1)
    push_cast at hn0 hn1 hdown hup
    clear hmiddle hkeep hlow hhigh
    generalize (c : ℚ) / 10 ^ 28 = y at *
    rcases lt_trichotomy y (n + 1 / 2) with hy | hy | hy
    · -- both numbers are below the middle
      have hx' : x < n + 1 / 2 := by
        by_contra hge
        linarith [hdown (by linarith)]
      obtain rfl := hm.unique one_pos ((below_iff (by linarith)).mpr (.inl hy))
      exact iff_of_true ((below_iff hle).mpr (.inl hx')) (fun h => hy.ne h.1)
    · -- the middle goes to the even number, and it is the nearest one if `x` is on its side
      by_cases heven : Even n
      · obtain rfl := hm.unique one_pos ((below_iff (by linarith)).mpr (.inr ⟨hy, heven⟩))
        rw [below_iff hle, if_pos heven]
        simp only [hy, heven, true_and, and_true, not_lt]
        rw [← le_iff_lt_or_eq, sub_le_iff_le_add']
      · obtain rfl := hm.unique one_pos ((above_iff (by linarith)).mpr (.inr ⟨hy, heven⟩))
        rw [above_iff hlt.le, if_neg heven]
        simp only [hy, heven, true_and, not_false_eq_true, and_true, not_lt]
        rw [eq_comm, ← le_iff_lt_or_eq, le_sub_iff_add_le']
    · -- both numbers are above the middle
      have hx' : n + 1 / 2 < x := by
        by_contra hge
        linarith [hup (by linarith)]
      obtain rfl := hm.unique one_pos ((above_iff (by linarith)).mpr (.inl hy))
      exact iff_of_true ((above_iff hlt.le).mpr (.inl hx')) (fun h => hy.ne' h.1)

/-- Even then it is hardly further away than a half. -/
theorem twice_near (hc : IsNearest (1 / 10 ^ 28) x c) (hm : IsNearest 1 (c / 10 ^ 28) m) :
    |x - m| ≤ 1 / 2 + 1 / 10 ^ 28 / 2 := by
  have hfirst := hc.near
  have hsecond := hm.near
  rw [mul_one_div] at hfirst
  rw [mul_one] at hsecond
  have htriangle := abs_sub_le x (c / 10 ^ 28) m
  linarith

end Number.IsNearest

/-! ## 2. The calculation -/

namespace Number.Decimal

theorem natAbs_signed (d : Decimal) : d.signed.natAbs = d.coefficient := by
  rw [signed]
  split <;> simp

/-- A decimal is rounded to the nearest whole number. -/
theorem roundHalfEven_zero (d : Decimal) : ∃ m : ℤ, IsNearest 1 d.value m ∧
    (d.roundHalfEven 0).signed = m ∧ (d.roundHalfEven 0).scale = 0 := by
  unfold roundHalfEven roundWith
  split
  · rename_i hscale
    have h0 : d.scale = 0 := Nat.le_zero.mp hscale
    refine ⟨d.signed, ?_, rfl, h0⟩
    rw [value, h0, pow_zero, div_one]
    simpa only [mul_one] using IsNearest.self one_pos d.signed
  · rename_i hscale
    rw [Nat.sub_zero]
    have hc := d.coefficient_lt
    have hten : 2 ≤ 10 ^ d.scale := by
      calc 2 ≤ 10 ^ 1 := by decide
        _ ≤ 10 ^ d.scale := Nat.pow_le_pow_right (by decide) (by omega)
    have hfits : divHalfEven d.coefficient (10 ^ d.scale) < 2 ^ 96 := by
      have hhalf : d.coefficient / 10 ^ d.scale ≤ d.coefficient / 2 :=
        Nat.div_le_div_left hten (by decide)
      rcases divHalfEven_cases d.coefficient (10 ^ d.scale) with h | h <;> omega
    have hnearest := isNearest_divHalfEven d.coefficient (d := 10 ^ d.scale) (by omega)
    push_cast at hnearest
    rw [ofParts?_eq hfits (by decide), Option.getD_some]
    refine ⟨_, ?_, rfl, rfl⟩
    rw [value_eq, factor, signed]
    dsimp only
    split
    · rw [neg_one_mul]
      exact hnearest.neg
    · rw [one_mul]
      exact hnearest

/-- The quotient by a power of ten, rounded to 28 digits behind the point. -/
theorem exists_div?_power (d : Decimal) {k : Nat} (hfits : 10 ^ k < 2 ^ 96) :
    ∃ q, ∃ c : ℤ, d.div? ⟨false, 10 ^ k, 0, hfits, by decide⟩ = some q ∧
      q.value = c / 10 ^ 28 ∧ IsNearest (1 / 10 ^ 28) (d.value / 10 ^ k) c := by
  rcases exists_div?_whole d hfits (Nat.pow_pos (by decide)).ne' with ⟨q, hq⟩
  have hvalue := value_div? hq
  have hunit : (⟨false, 10 ^ k, 0, hfits, by decide⟩ : Decimal).value = 10 ^ k := by
    simp [value_eq, factor]
  have hx : d.value / 10 ^ k = d.signed / 10 ^ (d.scale + k) := by
    rw [value, div_div, ← pow_add]
  have hlt : (d.coefficient : ℚ) ≤ 2 ^ 96 - 1 := by
    have := d.coefficient_lt
    rw [le_sub_iff_add_le]
    exact_mod_cast this
  rw [hunit] at hvalue
  refine ⟨q, coefficientAt (d.value / 10 ^ k) 28, hq, ?_, isNearest_coefficientAt _ 28⟩
  rw [hvalue]
  -- a quotient with no more than 28 digits is exact, and any other one is small
  rcases Nat.lt_or_ge 28 (d.scale + k) with hlong | hshort
  · apply nearestDecimal_of_small
    have habs : |(d.signed : ℚ)| = d.coefficient := by
      rw [← natAbs_signed, Nat.cast_natAbs, Int.cast_abs]
    have hpow : (10 : ℚ) ^ 28 ≤ 10 ^ (d.scale + k) := pow_le_pow_right₀ (by norm_num) hlong.le
    rw [hx, abs_div, habs, abs_of_pos (by positivity : (0 : ℚ) < 10 ^ (d.scale + k))]
    calc (d.coefficient : ℚ) / 10 ^ (d.scale + k) * 10 ^ 28
        ≤ d.coefficient / 10 ^ (d.scale + k) * 10 ^ (d.scale + k) :=
          mul_le_mul_of_nonneg_left hpow (by positivity)
      _ = d.coefficient := div_mul_cancel₀ _ (by positivity)
      _ ≤ 2 ^ 96 - 1 := hlt
  · have hpow : (10 : ℚ) ^ 28 = 10 ^ (d.scale + k) * 10 ^ (28 - (d.scale + k)) := by
      rw [← pow_add, Nat.add_sub_cancel' hshort]
    rw [hx, nearestDecimal_of_scale (by rw [natAbs_signed]; exact d.coefficient_lt) hshort,
      coefficientAt_of_scale _ hshort, hpow]
    push_cast
    field_simp

theorem ofInt?_power {k : Nat} (hfits : 10 ^ k < 2 ^ 96) :
    ofInt? (10 ^ k) = some ⟨false, 10 ^ k, 0, hfits, by decide⟩ := by
  have hnat : (10 ^ k : ℤ) = ((10 ^ k : ℕ) : ℤ) := by push_cast; rfl
  have hneg : decide (((10 ^ k : ℕ) : ℤ) < 0) = false := by
    rw [decide_eq_false_iff_not, Int.not_lt]
    exact Int.natCast_nonneg _
  rw [hnat, ofInt?, hneg, Int.natAbs_natCast, ofParts?_eq hfits (by decide)]

end Number.Decimal

/-! ## 3. The function -/

namespace Numeric

/-- The three steps for a negative number of places: the quotient with 28 digits behind the point,
the whole number that is nearest to it, and the product if there is room for it. -/
theorem roundDecimalHalfEven?_power (d : Decimal) {p : ℤ} (hp : -28 ≤ p) (hp' : p < 0) :
    ∃ c m : ℤ, IsNearest (1 / 10 ^ 28) (d.value / 10 ^ p.natAbs) c ∧
      IsNearest 1 (c / 10 ^ 28) m ∧
      (m.natAbs * 10 ^ p.natAbs < 2 ^ 96 →
        ∃ r, roundDecimalHalfEven? d p = some r ∧ r.value = m * 10 ^ p.natAbs) ∧
      (2 ^ 96 ≤ m.natAbs * 10 ^ p.natAbs → roundDecimalHalfEven? d p = none) := by
  have hfits : 10 ^ p.natAbs < 2 ^ 96 :=
    (Nat.pow_le_pow_right (by decide) (by omega : p.natAbs ≤ 28)).trans_lt (by decide)
  rcases d.exists_div?_power hfits with ⟨q, c, hq, hvalue, hnearest⟩
  rcases q.roundHalfEven_zero with ⟨m, hround, hsigned, hscale⟩
  have hcalc : roundDecimalHalfEven? d p =
      ((q.roundHalfEven 0).mul? ⟨false, 10 ^ p.natAbs, 0, hfits, by decide⟩).map
        Decimal.normalize := by
    rw [roundDecimalHalfEven?, if_neg (by omega), if_neg (by omega), Decimal.ofInt?_power hfits]
    show (d.div? _).bind _ = _
    rw [hq, Option.bind_some, Option.map_eq_bind]
    rfl
  have hcoefficient : (q.roundHalfEven 0).coefficient = m.natAbs := by
    rw [← hsigned, Decimal.natAbs_signed]
  refine ⟨c, m, hnearest, hvalue ▸ hround, fun hlt => ?_, fun hge => ?_⟩
  · obtain ⟨e, he, hproduct⟩ := Decimal.exists_mul? (a := q.roundHalfEven 0)
      (b := ⟨false, 10 ^ p.natAbs, 0, hfits, by decide⟩) (c := m.natAbs * 10 ^ p.natAbs) (t := 0)
      (by rw [hcoefficient, hscale]; rfl) (Nat.zero_le _) hlt
    refine ⟨e.normalize, by rw [hcalc, he, Option.map_some], ?_⟩
    rw [Decimal.value_normalize, hproduct, Decimal.value, hsigned, hscale, Decimal.value_eq]
    simp [Decimal.factor]
  · rw [hcalc, Decimal.mul?_eq_none hscale rfl (by rwa [hcoefficient]), Option.map_none]

/-- What rounding to a power of ten gives: a multiple of the power, if there is room for it, and
otherwise the number itself.  The multiple is the nearest one unless the quotient is a false tie,
and even then it is hardly further away than a half. -/
theorem roundHalfEven_isNearest_iff (d : Decimal) {p : ℤ} (hp : -28 ≤ p) (hp' : p < 0) :
    ∃ (m : ℤ) (r : Decimal), (decimal d).roundHalfEven p = decimal r ∧
      (m.natAbs * 10 ^ p.natAbs < 2 ^ 96 →
        roundDecimalHalfEven? d p = some r ∧ r.value = m * 10 ^ p.natAbs) ∧
      (2 ^ 96 ≤ m.natAbs * 10 ^ p.natAbs → roundDecimalHalfEven? d p = none ∧ r = d) ∧
      (IsNearest (10 ^ p.natAbs) d.value m ↔ ¬ IsFalseTie (d.value / 10 ^ p.natAbs)) ∧
      |d.value - m * 10 ^ p.natAbs| ≤ (1 / 2 + 1 / 10 ^ 28 / 2) * 10 ^ p.natAbs := by
  rcases roundDecimalHalfEven?_power d hp hp' with ⟨c, m, hnearest, hround, hsome, hnone⟩
  have hpow : (0 : ℚ) < 10 ^ p.natAbs := by positivity
  have hx : d.value / 10 ^ p.natAbs * 10 ^ p.natAbs = d.value := div_mul_cancel₀ _ hpow.ne'
  have htwice : IsNearest (10 ^ p.natAbs) d.value m ↔ ¬ IsFalseTie (d.value / 10 ^ p.natAbs) := by
    have hscale : IsNearest (1 * 10 ^ p.natAbs) (d.value / 10 ^ p.natAbs * 10 ^ p.natAbs) m ↔
        IsNearest 1 (d.value / 10 ^ p.natAbs) m := IsNearest.scale_iff hpow
    rw [← hnearest.twice_iff hround, ← hscale, one_mul, hx]
  have hdistance : |d.value - m * 10 ^ p.natAbs| ≤
      (1 / 2 + 1 / 10 ^ 28 / 2) * 10 ^ p.natAbs := by
    have hfactor : d.value - m * 10 ^ p.natAbs =
        (d.value / 10 ^ p.natAbs - m) * 10 ^ p.natAbs := by rw [sub_mul, hx]
    rw [hfactor, abs_mul, abs_of_pos hpow]
    exact mul_le_mul_of_nonneg_right (hnearest.twice_near hround) hpow.le
  rcases Nat.lt_or_ge (m.natAbs * 10 ^ p.natAbs) (2 ^ 96) with hlt | hge
  · rcases hsome hlt with ⟨r, hr, hvalue⟩
    refine ⟨m, r, ?_, fun _ => ⟨hr, hvalue⟩, fun hge => ?_, htwice, hdistance⟩
    · rw [roundHalfEven, hr, Option.getD_some]
    · omega
  · refine ⟨m, d, ?_, fun hlt => ?_, fun _ => ⟨hnone hge, rfl⟩, htwice, hdistance⟩
    · rw [roundHalfEven, hnone hge, Option.getD_none]
    · omega

/-- The number 25 is rounded to 20, the even one of two multiples of ten that are equally near. -/
theorem roundHalfEven_isNearest_iff_sample :
    (decimal ⟨false, 25, 0, by decide, by decide⟩).roundHalfEven (-1) =
        decimal ⟨false, 20, 0, by decide, by decide⟩ ∧
      IsNearest (10 ^ 1) (⟨false, 25, 0, by decide, by decide⟩ : Decimal).value 2 := by
  have hvalue : (⟨false, 25, 0, by decide, by decide⟩ : Decimal).value = 25 := by
    norm_num [Decimal.value_eq, Decimal.factor]
  have hresult : roundDecimalHalfEven? ⟨false, 25, 0, by decide, by decide⟩ (-1) =
      some ⟨false, 20, 0, by decide, by decide⟩ := rfl
  rcases roundHalfEven_isNearest_iff ⟨false, 25, 0, by decide, by decide⟩ (p := -1)
    (by decide) (by decide) with ⟨m, r, -, hsome, hnone, hiff, -⟩
  have hlt : m.natAbs * 10 ^ (-1 : ℤ).natAbs < 2 ^ 96 := by
    by_contra hge
    have := (hnone (Nat.not_lt.mp hge)).1
    rw [hresult] at this
    cases this
  rcases hsome hlt with ⟨hr, hm⟩
  rw [hresult, Option.some_inj] at hr
  have hm2 : (m : ℚ) = 2 := by
    rw [← hr] at hm
    norm_num [Decimal.value_eq, Decimal.factor] at hm
    linarith
  obtain rfl : m = 2 := by exact_mod_cast hm2
  have hexact : ¬ IsFalseTie (25 / 10) := by
    have habs : |(25 / 10 : ℚ)| = 25 / 10 := abs_of_pos (by norm_num)
    have hfloor : ⌊(25 / 10 : ℚ)⌋ = 2 := by norm_num [Int.floor_eq_iff]
    rw [IsFalseTie, habs, Int.fract, hfloor, if_pos even_two]
    norm_num
  exact ⟨rfl, hiff.mpr (by rw [hvalue]; exact hexact)⟩

/-- The decimal with 28 digits behind the point that is next above 5. -/
def aboveFive : Decimal := ⟨false, 50000000000000000000000000001, 28, by decide, by decide⟩

/-- The number next above 5 is rounded to zero, though 10 is nearer. -/
theorem roundHalfEven_false_tie_above_five :
    (decimal aboveFive).roundHalfEven (-1) = decimal .zero ∧
      roundDecimalHalfEven? aboveFive (-1) = some .zero ∧
      |aboveFive.value - 10| < |aboveFive.value - 0| ∧ 10 / 2 < |aboveFive.value - 0| := by
  have hvalue : aboveFive.value = 50000000000000000000000000001 / 10 ^ 28 := by
    simp [Decimal.value_eq, Decimal.factor, aboveFive]
  have hresult : roundDecimalHalfEven? aboveFive (-1) = some .zero := by decide +kernel
  refine ⟨by rw [roundHalfEven, hresult, Option.getD_some], hresult, ?_, ?_⟩
  · rw [hvalue, abs_of_neg (by norm_num), abs_of_pos (by norm_num)]
    norm_num
  · rw [hvalue, abs_of_pos (by norm_num)]
    norm_num

end Numeric

/-! ## 4. Integers -/

namespace Numeric

theorem lt_pow_length (n : Nat) : n < 10 ^ (toString n).length := by
  rw [← String.length_toList, Text.toList_toString]
  exact (Nat.length_toDigits_le_iff (by decide) Nat.length_toDigits_pos).mp (Nat.le_refl _)

/-- A power of ten with more digits than an integer is more than twice as large. -/
theorem isNearest_zero {i : ℤ} {k : Nat} (h : (toString i.natAbs).length < k) :
    IsNearest (10 ^ k) i 0 := by
  have hlt : 2 * i.natAbs < 10 ^ k := by
    have hpow : 10 ^ (toString i.natAbs).length * 10 ≤ 10 ^ k := by
      rw [← pow_succ]
      exact Nat.pow_le_pow_right (by decide) h
    have := lt_pow_length i.natAbs
    omega
  have hcast : |(i : ℚ)| < 10 ^ k / 2 := by
    have hrat : 2 * (i.natAbs : ℚ) < 10 ^ k := by exact_mod_cast hlt
    rw [← Int.cast_abs, ← Nat.cast_natAbs]
    linarith
  constructor
  · rw [Int.cast_zero, zero_mul, sub_zero]
    exact hcast.le
  · intro _
    exact Even.zero

theorem isNearest_roundIntegerHalfEven (i : ℤ) (k : Nat) :
    ∃ m : ℤ, roundIntegerHalfEven i k = m * 10 ^ k ∧ IsNearest (10 ^ k) i m := by
  unfold roundIntegerHalfEven
  split
  · rename_i hlong
    exact ⟨0, (zero_mul _).symm, isNearest_zero hlong⟩
  · have hpow : (0 : ℚ) < 10 ^ k := by positivity
    -- the magnitude is rounded, and the sign of the integer is put back
    have hmagnitude : IsNearest (10 ^ k) (i.natAbs : ℚ) (divHalfEven i.natAbs (10 ^ k) : ℕ) := by
      have hdiv := (isNearest_divHalfEven i.natAbs (d := 10 ^ k) (by positivity)).scale hpow
      push_cast at hdiv
      rwa [one_mul, div_mul_cancel₀ _ hpow.ne'] at hdiv
    dsimp only
    split
    · rename_i hneg
      refine ⟨-(divHalfEven i.natAbs (10 ^ k) : ℕ), ?_, ?_⟩
      · push_cast
        rw [neg_mul]
      · have hi : (i : ℚ) = -(i.natAbs : ℚ) := by
          have : i = -(i.natAbs : ℤ) := by omega
          exact_mod_cast this
        rw [hi]
        exact hmagnitude.neg
    · rename_i hpos
      refine ⟨(divHalfEven i.natAbs (10 ^ k) : ℕ), ?_, ?_⟩
      · push_cast
        rfl
      · have hi : (i : ℚ) = (i.natAbs : ℚ) := by
          rw [Nat.cast_natAbs, abs_of_nonneg (by omega)]
        rw [hi]
        exact hmagnitude

/-- Powers with more digits than the integer are not told apart. -/
theorem roundIntegerHalfEven_congr {i : ℤ} {j k : Nat}
    (h : j = k ∨ (toString i.natAbs).length < j ∧ (toString i.natAbs).length < k) :
    roundIntegerHalfEven i j = roundIntegerHalfEven i k := by
  rcases h with rfl | ⟨hj, hk⟩
  · rfl
  · unfold roundIntegerHalfEven
    rw [if_pos hj, if_pos hk]

/-- An integer is rounded correctly for every negative number of places: to the nearest multiple of
the power of ten, and of two equally near multiples to the even one.  If the power has more digits
than the integer, that is zero, also where these are too many digits to be counted. -/
theorem roundHalfEven_integer_isNearest (call : Call) (i p : ℤ) (hp : p < 0)
    (hi : (toString i.natAbs).length < 2 ^ 32 - 1) :
    ∃ m : ℤ, (integer i).roundHalfEven p = integer (m * 10 ^ p.natAbs) ∧
      Library.roundedHalfToEven call [[.integer i], [.integer p]] =
        .ok [.integer (m * 10 ^ p.natAbs)] ∧
      IsNearest (10 ^ p.natAbs) i m ∧
      ((toString i.natAbs).length < p.natAbs → m = 0) := by
  rcases isNearest_roundIntegerHalfEven i p.natAbs with ⟨m, hm, hnearest⟩
  -- the places are cut to 64 bits, and their number to 32; what is left of a cut number is still
  -- more than the digits of the integer
  have hround : ∀ q : ℤ, q < 0 → q = p ∨ (2 ^ 32 ≤ q.natAbs ∧ 2 ^ 32 ≤ p.natAbs) →
      (integer i).roundHalfEven q = integer (m * 10 ^ p.natAbs) := by
    intro q hq hcut
    have hdigits : roundIntegerHalfEven i (min q.natAbs maxDigits) =
        roundIntegerHalfEven i p.natAbs := by
      apply roundIntegerHalfEven_congr
      unfold maxDigits
      omega
    rw [roundHalfEven, if_pos hq, hdigits, hm]
  refine ⟨m, hround p hp (.inl rfl), ?_, hnearest, fun hlong => ?_⟩
  · show Except.ok [Item.atomic (.numeric
      ((integer i).roundHalfEven (max (-(2 ^ 63)) (min p (2 ^ 63 - 1)))))] = _
    rw [hround _ (by omega) (by omega)]
    rfl
  · exact hnearest.unique (by positivity) (isNearest_zero hlong)

/-- The number -1350 lies in the middle between two hundreds and is rounded to the even one; with
more places than 64 bits can count, it is rounded to zero. -/
theorem roundHalfEven_integer_isNearest_sample :
    let call : Call := ⟨.function "round-half-to-even", .initial .empty,
      .initial ⟨⟨.epoch, .midnight⟩, some .utc⟩ .utc, none, .codepoint⟩
    Library.roundedHalfToEven call [[.integer (-1350)], [.integer (-2)]] =
        .ok [.integer (-1400)] ∧
      Library.roundedHalfToEven call [[.integer (-1350)], [.integer (-(2 ^ 64))]] =
        .ok [.integer 0] := by
  intro call
  have hlength : (toString (-1350 : ℤ).natAbs).length < 2 ^ 32 - 1 := by decide
  constructor
  · rcases roundHalfEven_integer_isNearest call (-1350) (-2) (by decide) hlength with
      ⟨m, hvalue, hrun, -⟩
    have hround : (integer (-1350)).roundHalfEven (-2) = integer (-1400) := rfl
    have hm : m * 10 ^ (-2 : ℤ).natAbs = -1400 := integer.inj (hvalue.symm.trans hround)
    rw [hm] at hrun
    exact hrun
  · rcases roundHalfEven_integer_isNearest call (-1350) (-(2 ^ 64)) (by decide) hlength with
      ⟨m, -, hrun, -, hzero⟩
    have hlong : (toString (-1350 : ℤ).natAbs).length < (-(2 ^ 64) : ℤ).natAbs := by decide
    rw [hzero hlong, zero_mul] at hrun
    exact hrun

end Numeric

end XPath
