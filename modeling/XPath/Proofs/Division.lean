import Mathlib.Data.Sign.Basic
import XPath.Proofs.Equality
import XPath.Proofs.Number.Nearest
import XPath.Value.Arithmetic

/-!
# Truncated division

The operators `idiv` and `mod` give the quotient and the remainder of one division, toward zero.  On
integers both are exact, and so is `mod` on decimals.  The `idiv` of decimals takes the whole part
of a quotient that is already rounded, so that it is one too far from zero if the exact quotient is
so near the next whole number that a decimal cannot tell them apart.
-/

namespace XPath

open XPath.Number

/-! ## 1. Quotient and remainder -/

/-- Whether `n` and `z` are a quotient and a remainder of `x` and `y`: they give `x` together, and
the remainder is smaller than `y` and zero or of the sign of `x`. -/
structure IsTruncatedDivision (x y : ℚ) (n : ℤ) (z : ℚ) : Prop where
  sum : x = n * y + z
  lt : |z| < |y|
  sign : z = 0 ∨ SignType.sign z = SignType.sign x

variable {x y z : ℚ} {n : ℤ}

theorem sign_eq_of_mul_nonneg (h : 0 ≤ z * x) (hx : x = 0 → z = 0) :
    z = 0 ∨ SignType.sign z = SignType.sign x := by
  rcases eq_or_ne z 0 with hz | hz
  · exact .inl hz
  · have hx0 : x ≠ 0 := mt hx hz
    have hpos : 0 < z * x := lt_of_le_of_ne h (mul_ne_zero hz hx0).symm
    right
    rcases mul_pos_iff.mp hpos with ⟨hz, hx⟩ | ⟨hz, hx⟩
    · rw [sign_pos hz, sign_pos hx]
    · rw [sign_neg hz, sign_neg hx]

/-- The quotient is the whole part of the exact quotient. -/
theorem isTruncatedDivision_wholePart (hy : y ≠ 0) (h : x = wholePart (x / y) * y + z) :
    IsTruncatedDivision x y (wholePart (x / y)) z := by
  rcases wholePart_spec (x / y) with ⟨hlt, hsign⟩
  have hx : x = x / y * y := (div_mul_cancel₀ x hy).symm
  generalize x / y = t at *
  have hz : z = (t - wholePart t) * y := by
    rw [sub_mul]
    linarith
  refine ⟨h, ?_, sign_eq_of_mul_nonneg ?_ ?_⟩
  · rw [hz, abs_mul]
    exact mul_lt_of_lt_one_left (abs_pos.mpr hy) hlt
  · have hprod : z * x = (t - wholePart t) * t * (y * y) := by
      rw [hz, hx]
      ring
    rw [hprod]
    exact mul_nonneg hsign (mul_self_nonneg y)
  · intro hx0
    have ht : t = 0 := (mul_eq_zero_iff_right hy).mp (hx ▸ hx0)
    rw [hz, ht]
    simp [wholePart]

/-- Only the whole part of the exact quotient has such a remainder. -/
theorem IsTruncatedDivision.quotient_eq (hy : y ≠ 0) (h : IsTruncatedDivision x y n z) :
    n = wholePart (x / y) := by
  rcases h with ⟨hsum, hlt, hsign⟩
  have hfraction : x / y - n = z / y := by
    rw [hsum]
    field_simp
    ring
  apply eq_wholePart
  · rw [hfraction, abs_div]
    exact (div_lt_one (abs_pos.mpr hy)).mpr hlt
  · have hprod : z / y * (x / y) = z * x / (y * y) := div_mul_div_comm z y x y
    have hzx : 0 ≤ z * x := by
      rcases hsign with rfl | hsign
      · rw [zero_mul]
      · rw [← sign_nonneg_iff, sign_mul, hsign]
        cases SignType.sign x <;> decide
    rw [hfraction, hprod]
    exact div_nonneg hzx (mul_self_nonneg y)

/-! ## 2. Exact division -/

/-- Integers are divided exactly. -/
theorem wholePart_div (i : ℤ) {j : ℤ} (hj : j ≠ 0) : wholePart (i / j) = i.tdiv j := by
  have hj' : (j : ℚ) ≠ 0 := by exact_mod_cast hj
  have hsum : (i : ℚ) = i.tdiv j * j + i.tmod j := by
    exact_mod_cast (Int.tdiv_mul_add_tmod i j).symm
  have hdivision : IsTruncatedDivision i j (i.tdiv j) (i.tmod j) := by
    refine ⟨hsum, ?_, ?_⟩
    · have hlt : (i.tmod j).natAbs < j.natAbs := by
        rw [Int.natAbs_tmod]
        exact Nat.mod_lt _ (Int.natAbs_pos.mpr hj)
      have habs : |i.tmod j| < |j| := by
        rw [Int.abs_eq_natAbs, Int.abs_eq_natAbs]
        exact_mod_cast hlt
      exact_mod_cast habs
    · have hsign := Int.sign_tmod i j
      split at hsign
      · left
        exact_mod_cast Int.sign_eq_zero_iff_zero.mp hsign
      · right
        rcases Int.lt_trichotomy i 0 with hi | rfl | hi
        · rw [Int.sign_eq_neg_one_of_neg hi, Int.sign_eq_neg_one_iff_neg] at hsign
          rw [sign_neg (by exact_mod_cast hsign), sign_neg (by exact_mod_cast hi)]
        · rw [Int.zero_tmod]
        · rw [Int.sign_eq_one_of_pos hi, Int.sign_eq_one_iff_pos] at hsign
          rw [sign_pos (by exact_mod_cast hsign), sign_pos (by exact_mod_cast hi)]
  exact (hdivision.quotient_eq hj').symm

namespace Number.Decimal

theorem natAbs_signedAt (d : Decimal) (s : Nat) :
    (d.signedAt s).natAbs = d.coefficient * 10 ^ (s - d.scale) := by
  have hsigned : d.signed.natAbs = d.coefficient := by
    rw [signed]
    split <;> simp
  rw [signedAt, Int.natAbs_mul, hsigned, Int.natAbs_pow]
  rfl

/-- The remainder at a common scale has the sign of the dividend. -/
theorem factor_mul_mod (d : Decimal) (s : Nat) (j : ℤ) :
    factor d.negative * (((d.signedAt s).natAbs % j.natAbs : ℕ) : ℚ) = (d.signedAt s).tmod j := by
  have hsigned : d.signedAt s = if d.negative then -((d.signedAt s).natAbs : ℤ)
      else (d.signedAt s).natAbs := by
    rw [natAbs_signedAt, signedAt, signed]
    split <;> simp
  have hmod : ((((d.signedAt s).natAbs : ℤ).tmod j : ℤ) : ℚ) =
      ((d.signedAt s).natAbs % j.natAbs : ℕ) := by
    have hnat : ((d.signedAt s).natAbs : ℤ).tmod j = ((d.signedAt s).natAbs % j.natAbs : ℕ) := by
      rw [Int.ofNat_tmod]
      rcases Int.natAbs_eq j with hj | hj <;> rw [hj] <;> simp [Int.tmod_neg]
    rw [hnat, Int.cast_natCast]
  rw [← hmod, factor]
  conv_rhs => rw [hsigned]
  split
  · rw [Int.neg_tmod]
    push_cast
    ring
  · rw [one_mul]

theorem compare_abs (a b : Decimal) : a.abs.compare b.abs =
    Ord.compare ((a.signedAt (max a.scale b.scale)).natAbs : ℤ)
      (b.signedAt (max a.scale b.scale)).natAbs := by
  have habs : ∀ (d : Decimal) (s : Nat), d.abs.signedAt s = (d.signedAt s).natAbs := by
    intro d s
    rw [natAbs_signedAt, signedAt, signed]
    simp [abs]
  rw [compare, habs, habs]
  rfl

/-- The remainder of decimals is exact. -/
theorem value_rem? {a b r : Decimal} (h : a.rem? b = some r) :
    a.value = wholePart (a.value / b.value) * b.value + r.value := by
  have hs := a.signedAt_eq (le_max_left a.scale b.scale)
  have hs' := b.signedAt_eq (le_max_right a.scale b.scale)
  have hpow : (10 : ℚ) ^ max a.scale b.scale ≠ 0 := by positivity
  have hb : b.signedAt (max a.scale b.scale) ≠ 0 := by
    intro h0
    have hzero : b.isZero = true := by
      have hnat := b.natAbs_signedAt (max a.scale b.scale)
      rw [h0, Int.natAbs_zero, eq_comm, Nat.mul_eq_zero] at hnat
      simpa [isZero] using hnat
    rw [rem?, if_pos hzero] at h
    cases h
  -- it is enough to look at the signed coefficients at the common scale
  suffices hr : r.value * 10 ^ max a.scale b.scale =
      ((a.signedAt (max a.scale b.scale)).tmod (b.signedAt (max a.scale b.scale)) : ℤ) by
    have hquotient : a.value / b.value = (a.signedAt (max a.scale b.scale) : ℚ) /
        b.signedAt (max a.scale b.scale) := by
      rw [hs, hs', mul_div_mul_right _ _ hpow]
    have hsum : (a.signedAt (max a.scale b.scale) : ℚ) =
        (a.signedAt (max a.scale b.scale)).tdiv (b.signedAt (max a.scale b.scale)) *
          b.signedAt (max a.scale b.scale) +
        (a.signedAt (max a.scale b.scale)).tmod (b.signedAt (max a.scale b.scale)) := by
      exact_mod_cast (Int.tdiv_mul_add_tmod _ _).symm
    rw [hquotient, wholePart_div _ hb]
    apply mul_right_cancel₀ hpow
    rw [← hs, hsum, hs', add_mul, hr]
    ring
  generalize hA : a.signedAt (max a.scale b.scale) = i at *
  generalize hB : b.signedAt (max a.scale b.scale) = j at *
  have hcompare := compare_abs a b
  rw [hA, hB] at hcompare
  unfold rem? at h
  obtain ⟨-, h⟩ := Option.ite_none_left_eq_some.mp h
  rw [hcompare] at h
  split at h
  · rename_i hlt
    have hlt' : i.natAbs < j.natAbs := by exact_mod_cast compare_lt_iff_lt.mp hlt
    have hr : r.value = a.value := by
      obtain rfl := Option.some.inj h
      split
      · rename_i h0
        rw [value_zero, value_of_isZero h0]
      · rfl
    have hquotient : i.tdiv j = 0 := by
      rw [← Int.natAbs_eq_zero, Int.natAbs_tdiv]
      exact Nat.div_eq_of_lt hlt'
    rw [hr, ← hs, Int.tmod_def, hquotient, Int.mul_zero, Int.sub_zero]
  · rename_i heq
    have heq' : i.natAbs = j.natAbs := by exact_mod_cast compare_eq_iff_eq.mp heq
    have hmod : i.tmod j = 0 := by
      rw [← Int.natAbs_eq_zero, Int.natAbs_tmod, heq', Nat.mod_self]
    obtain rfl := Option.some.inj h
    rw [hmod, value_zero, zero_mul, Int.cast_zero]
  · obtain ⟨d, hd, rfl⟩ := Option.map_eq_some_iff.mp h
    rw [hA, hB] at hd
    rw [value_unsignZero, value_of_ofParts? hd, mul_assoc, div_mul_cancel₀ _ hpow, ← hA,
      ← factor_mul_mod, hA]

end Number.Decimal

/-! ## 3. The operators -/

namespace Numeric

variable {a b q r : Numeric}

/-- Whether two numbers are divided as integers. -/
def AreIntegers (a b : Numeric) : Prop := a.type = .integer ∧ b.type = .integer

instance (a b : Numeric) : Decidable (AreIntegers a b) := inferInstanceAs (Decidable (_ ∧ _))

/-- Exact numbers meet as integers, or as decimals with their values. -/
theorem unify_exact (ha : a.exact? = some x) (hb : b.exact? = some y) {p : Numeric × Numeric}
    (h : unify a b = .ok p) :
    (AreIntegers a b ∧ ∃ i j : ℤ, p = (integer i, integer j) ∧ x = i ∧ y = j) ∨
      ¬ AreIntegers a b ∧ ∃ d e, p = (decimal d, decimal e) ∧ x = d.value ∧ y = e.value := by
  have hdecimal : ∀ e : Decimal, Numeric.type (.decimal e) ≠ .integer := by
    intro e h
    cases h
  cases a with
  | integer i =>
    obtain rfl := Option.some.inj ha
    cases b with
    | integer j =>
      obtain rfl := Option.some.inj hb
      obtain rfl := Except.ok.inj h
      exact .inl ⟨⟨rfl, rfl⟩, i, j, rfl, rfl, rfl⟩
    | decimal e =>
      obtain rfl := Option.some.inj hb
      change (do return (← (integer i).promote 1, decimal e)) = Except.ok p at h
      rw [OrderedKind.promote_integer] at h
      cases hi : Decimal.ofInt? i with
      | none => rw [hi] at h; cases h
      | some d =>
        rw [hi] at h
        obtain rfl := Except.ok.inj h
        refine .inr ⟨fun hints => hdecimal e hints.2, d, e, rfl, ?_, rfl⟩
        exact (Decimal.value_of_ofInt? hi).symm
    | _ => cases hb
  | decimal d =>
    obtain rfl := Option.some.inj ha
    cases b with
    | integer j =>
      obtain rfl := Option.some.inj hb
      change (do return (decimal d, ← (integer j).promote 1)) = Except.ok p at h
      rw [OrderedKind.promote_integer] at h
      cases hj : Decimal.ofInt? j with
      | none => rw [hj] at h; cases h
      | some e =>
        rw [hj] at h
        obtain rfl := Except.ok.inj h
        refine .inr ⟨fun hints => hdecimal d hints.1, d, e, rfl, rfl, ?_⟩
        exact (Decimal.value_of_ofInt? hj).symm
    | decimal e =>
      obtain rfl := Option.some.inj hb
      obtain rfl := Except.ok.inj h
      exact .inr ⟨fun hints => hdecimal d hints.1, d, e, rfl, rfl, rfl⟩
    | _ => cases hb
  | _ => cases ha

theorem arithmetic_idiv_eq_ok (h : a.arithmetic .idiv b = .ok q) :
    ∃ p, unify a b = .ok p ∧ ∃ n, truncatedQuotient p.1 p.2 = .ok n ∧ q = integer n := by
  rcases bind_eq_ok.mp h with ⟨p, hp, h⟩
  refine ⟨p, hp, ?_⟩
  change (truncatedQuotient p.1 p.2).map integer = .ok q at h
  cases hn : truncatedQuotient p.1 p.2 with
  | error e => rw [hn] at h; cases h
  | ok n =>
    rw [hn] at h
    exact ⟨n, rfl, (Except.ok.inj h).symm⟩

/-- What `idiv` gives: the whole part of the exact quotient, or one more if decimals are divided and
the nearest decimal is the next whole number. -/
theorem quotient_of_idiv (ha : a.exact? = some x) (hb : b.exact? = some y)
    (hq : a.arithmetic .idiv b = .ok q) :
    q = integer (wholePart (x / y) +
      if AreIntegers a b ∨ ¬ RoundsUp (x / y) then 0 else (x / y).num.sign) := by
  rcases arithmetic_idiv_eq_ok hq with ⟨p, hp, n, hn, rfl⟩
  rcases unify_exact ha hb hp with ⟨hints, i, j, rfl, rfl, rfl⟩ | ⟨hints, d, e, rfl, rfl, rfl⟩
  · unfold truncatedQuotient at hn
    split at hn
    · cases hn
    · rename_i hj
      have hj0 : j ≠ 0 := by simpa [isZero] using hj
      obtain rfl := Except.ok.inj hn
      rw [if_pos (.inl hints), Int.add_zero, wholePart_div i hj0]
  · unfold truncatedQuotient at hn
    split at hn
    · cases hn
    · dsimp only at hn
      cases hdiv : d.div? e with
      | none => rw [hdiv] at hn; cases hn
      | some c =>
        rw [hdiv] at hn
        obtain rfl := Except.ok.inj hn
        show integer c.truncate = _
        rw [Decimal.truncate_quotient hdiv]
        by_cases hup : RoundsUp (d.value / e.value)
        · rw [if_pos hup, if_neg (by simp [hints, hup])]
        · rw [if_neg hup, if_pos (.inr hup)]

/-- What `mod` gives: the exact remainder. -/
theorem remainder_of_mod (ha : a.exact? = some x) (hb : b.exact? = some y)
    (hr : a.arithmetic .mod b = .ok r) :
    ∃ z, r.exact? = some z ∧ x = wholePart (x / y) * y + z := by
  rcases bind_eq_ok.mp hr with ⟨p, hp, h⟩
  rcases unify_exact ha hb hp with ⟨-, i, j, rfl, rfl, rfl⟩ | ⟨-, d, e, rfl, rfl, rfl⟩
  · change (onIntegers .mod i j).map integer = .ok r at h
    unfold onIntegers at h
    dsimp only at h
    by_cases hj : j = 0
    · rw [if_pos (by simpa using hj)] at h
      cases h
    · rw [if_neg (by simpa using hj)] at h
      obtain rfl := Except.ok.inj h
      refine ⟨_, rfl, ?_⟩
      rw [wholePart_div i hj]
      exact_mod_cast (Int.tdiv_mul_add_tmod i j).symm
  · change (onDecimals .mod d e).map decimal = .ok r at h
    unfold onDecimals at h
    dsimp only at h
    by_cases he : e.isZero = true
    · rw [if_pos he] at h
      cases h
    · rw [if_neg he] at h
      cases hrem : d.rem? e with
      | none => rw [hrem] at h; cases h
      | some c =>
        rw [hrem] at h
        obtain rfl := Except.ok.inj h
        refine ⟨_, rfl, ?_⟩
        rw [Decimal.value_normalize]
        exact Decimal.value_rem? hrem

/-- On exact numbers `mod` always gives the remainder of the truncated division.  The quotient that
`idiv` gives fits together with it, unless decimals are divided and the decimal nearest to the exact
quotient is the next whole number; then it is one too far from zero. -/
theorem idiv_mod_fit_iff (ha : a.exact? = some x) (hb : b.exact? = some y) (hy : y ≠ 0)
    (hq : a.arithmetic .idiv b = .ok q) (hr : a.arithmetic .mod b = .ok r) :
    ∃ (n : ℤ) (z : ℚ), q = integer n ∧ r.exact? = some z ∧
      IsTruncatedDivision x y (wholePart (x / y)) z ∧
      (IsTruncatedDivision x y n z ↔ AreIntegers a b ∨ ¬ RoundsUp (x / y)) ∧
      (¬ IsTruncatedDivision x y n z → n = wholePart (x / y) + (x / y).num.sign) := by
  rcases remainder_of_mod ha hb hr with ⟨z, hz, hsum⟩
  have hdivision := isTruncatedDivision_wholePart hy hsum
  refine ⟨_, z, quotient_of_idiv ha hb hq, hz, hdivision, ?_⟩
  by_cases hexact : AreIntegers a b ∨ ¬ RoundsUp (x / y)
  · rw [if_pos hexact, Int.add_zero]
    exact ⟨iff_of_true hdivision hexact, fun h => absurd hdivision h⟩
  · rw [if_neg hexact]
    refine ⟨iff_of_false (fun h => ?_) hexact, fun _ => rfl⟩
    -- a quotient that is rounded up is not zero, and so it has a sign
    have hquotient := h.quotient_eq hy
    have hzero : (x / y).num = 0 := by
      rw [← Int.sign_eq_zero_iff_zero]
      omega
    rw [Rat.num_eq_zero] at hzero
    rw [hzero] at hexact
    exact hexact (.inr not_roundsUp_zero)

/-- The quotient of -7.5 by 2 is -3, and the remainder is -1.5. -/
theorem idiv_mod_fit_iff_sample :
    (decimal ⟨true, 75, 1, by decide, by decide⟩).arithmetic .idiv (integer 2) =
        .ok (integer (-3)) ∧
      (decimal ⟨true, 75, 1, by decide, by decide⟩).arithmetic .mod (integer 2) =
        .ok (decimal ⟨true, 15, 1, by decide, by decide⟩) ∧
      IsTruncatedDivision (-7.5) 2 (-3) (-1.5) := by
  have hq : (decimal ⟨true, 75, 1, by decide, by decide⟩).arithmetic .idiv (integer 2) =
      .ok (integer (-3)) := rfl
  have hr : (decimal ⟨true, 75, 1, by decide, by decide⟩).arithmetic .mod (integer 2) =
      .ok (decimal ⟨true, 15, 1, by decide, by decide⟩) := rfl
  have ha : Numeric.exact? (decimal ⟨true, 75, 1, by decide, by decide⟩) = some (-7.5) := by
    norm_num [ Numeric.exact?, Decimal.value_eq, Decimal.factor]
  have hz : Numeric.exact? (decimal ⟨true, 15, 1, by decide, by decide⟩) = some (-1.5) := by
    norm_num [ Numeric.exact?, Decimal.value_eq, Decimal.factor]
  have hdown : ¬ RoundsUp (-7.5 / 2) := by
    have hquotient : (-7.5 / 2 : ℚ) = -((75 : ℕ) / (20 : ℕ)) := by norm_num
    rw [hquotient, roundsUp_neg]
    exact not_roundsUp_of_few_digits (by decide) (by decide)
  rcases idiv_mod_fit_iff ha (b := integer 2) (y := 2) rfl (by norm_num) hq hr with
    ⟨n, z, hn, hz', -, hfit, -⟩
  obtain rfl := Numeric.integer.inj hn
  obtain rfl := Option.some.inj (hz.symm.trans hz')
  exact ⟨hq, hr, hfit.mpr (.inr hdown)⟩

theorem arithmetic_idiv_decimals {d e c : Decimal} (hunify : unify a b = .ok (decimal d, decimal e))
    (he : e.isZero = false) (hc : d.div? e = some c) :
    a.arithmetic .idiv b = .ok (integer c.truncate) := by
  show (unify a b).bind _ = _
  rw [hunify]
  show (truncatedQuotient (decimal d) (decimal e)).map integer = _
  simp [truncatedQuotient, isZero, he, hc, orOverflow, Except.map]

theorem arithmetic_mod_decimals {d e r : Decimal} (hunify : unify a b = .ok (decimal d, decimal e))
    (he : e.isZero = false) (hr : d.rem? e = some r) :
    a.arithmetic .mod b = .ok (decimal r.normalize) := by
  show (unify a b).bind _ = _
  rw [hunify]
  show (onDecimals .mod d e).map decimal = _
  simp [onDecimals, he, hr, orOverflow, Except.map]

/-- Divided by 60, the decimal with 27 digits behind the point that is next below 60 has the
quotient 1, and still itself as the remainder. -/
theorem idiv_mod_misfit_below_sixty :
    let below : Decimal := ⟨false, 59999999999999999999999999999, 27, by decide, by decide⟩
    (decimal below).arithmetic .idiv (integer 60) = .ok (integer 1) ∧
      (decimal below).arithmetic .mod (integer 60) = .ok (decimal below) ∧
      below.value ≠ (1 : ℤ) * 60 + below.value ∧
      ¬ IsTruncatedDivision below.value 60 1 below.value := by
  intro below
  have hunify : unify (decimal below) (integer 60) =
      .ok (decimal below, decimal ⟨false, 60, 0, by decide, by decide⟩) := rfl
  have hdiv : below.div? ⟨false, 60, 0, by decide, by decide⟩ =
      some ⟨false, 1, 0, by decide, by decide⟩ := by decide +kernel
  have hrem : below.rem? ⟨false, 60, 0, by decide, by decide⟩ = some below := by decide +kernel
  have hnormal : below.normalize = below := by decide +kernel
  have hsum : below.value ≠ (1 : ℤ) * 60 + below.value := by
    rw [Int.cast_one]
    intro h
    linarith
  refine ⟨arithmetic_idiv_decimals hunify rfl hdiv, ?_, hsum, fun h => hsum h.sum⟩
  rw [arithmetic_mod_decimals hunify rfl hrem, hnormal]

end Numeric

end XPath
