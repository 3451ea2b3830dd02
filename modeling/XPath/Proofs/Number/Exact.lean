import XPath.Proofs.Number.Text

/-!
# Exact and nearly exact results

Addition and subtraction are exact where the exact result fits.  The whole part of a quotient is
that of the exact quotient or one more: rounding may reach the next whole number from below, but
only from very near.
-/

namespace XPath.Number.Decimal

/-! ## 1. The nearest decimal -/

theorem divHalfEven_mul (n : Nat) {d : Nat} (h : 0 < d) : divHalfEven (n * d) d = n := by
  simp [divHalfEven, Nat.mul_div_cancel n h, h.ne]

theorem divHalfEven_cases (n d : Nat) :
    divHalfEven n d = n / d ∨ divHalfEven n d = n / d + 1 := by
  unfold divHalfEven
  dsimp only
  split
  · exact .inr rfl
  · exact .inl rfl

theorem ofParts?_eq {negative : Bool} {c s : Nat} (hc : c < 2 ^ 96) (hs : s ≤ 28) :
    ofParts? negative c s = some ⟨negative, c, s, hc, hs⟩ := dif_pos ⟨hc, hs⟩

/-- The scale of the nearest decimal is the largest one at which the rounded coefficient fits. -/
theorem nearest?_spec (negative : Bool) {num den : Nat} (h : divHalfEven num den < 2 ^ 96) {s : Nat}
    (hs : s ≤ 28) : ∃ k, k ≤ s ∧ divHalfEven (num * 10 ^ k) den < 2 ^ 96 ∧
      nearest? negative num den s = ofParts? negative (divHalfEven (num * 10 ^ k) den) k ∧
      (k = s ∨ 2 ^ 96 ≤ divHalfEven (num * 10 ^ (k + 1)) den) := by
  induction s with
  | zero => exact ⟨0, le_rfl, by simpa using h, by simp [nearest?], .inl rfl⟩
  | succ s ih =>
    by_cases hfits : divHalfEven (num * 10 ^ (s + 1)) den < 2 ^ 96
    · refine ⟨s + 1, le_rfl, hfits, ?_, .inl rfl⟩
      rw [nearest?, ofParts?_eq hfits hs]
    · obtain ⟨k, hk, hlt, hnearest, hnext⟩ := ih (by omega)
      refine ⟨k, by omega, hlt, ?_, .inr ?_⟩
      · rw [nearest?, ofParts?, dif_neg (fun h => hfits h.1)]
        exact hnearest
      · obtain rfl | hnext := hnext
        · omega
        · exact hnext

/-- A number that fits at the scale is its own nearest decimal. -/
theorem nearest?_exact (negative : Bool) {n s : Nat} (hn : n < 2 ^ 96) (hs : s ≤ 28) :
    nearest? negative n (10 ^ s) s = ofParts? negative n s := by
  have hpow : 0 < 10 ^ s := Nat.pow_pos (by decide)
  cases s with
  | zero => simp [nearest?, divHalfEven_one]
  | succ s => rw [nearest?, divHalfEven_mul n hpow, ofParts?_eq hn hs]

theorem ofNat_eq {n : Nat} (hn : n < 2 ^ 96) : ofNat n = ⟨false, n, 0, hn, by decide⟩ := by
  simp only [ofNat, Nat.mod_eq_of_lt hn]

/-! ## 2. Quotients -/

theorem truncate_normalize (d : Decimal) : d.normalize.truncate = d.truncate := by
  unfold normalize
  split
  · rename_i h
    have h0 : d.coefficient = 0 := by simpa [isZero] using h
    simp [truncate, h0, zero]
  · obtain ⟨hvalue, -⟩ := stripZeros_spec d.coefficient d.scale
    have hle := stripZeros_snd_le d.coefficient d.scale
    simp only [truncate]
    generalize (stripZeros d.coefficient d.scale).1 = c at *
    generalize (stripZeros d.coefficient d.scale).2 = s at *
    have hpow : 10 ^ d.scale = 10 ^ s * 10 ^ (d.scale - s) := by
      rw [← Nat.pow_add, Nat.add_sub_cancel' hle]
    rw [← hvalue, hpow, Nat.mul_div_mul_right _ _ (Nat.pow_pos (by decide))]

/-- Rounding at a scale reaches the next whole number only from within half a unit. -/
theorem divHalfEven_whole (c k : Nat) {d : Nat} (hd : 0 < d) :
    divHalfEven (c * 10 ^ k) d / 10 ^ k = c / d ∨
      divHalfEven (c * 10 ^ k) d / 10 ^ k = c / d + 1 ∧
        2 * (d * (c / d + 1) * 10 ^ k) ≤ 2 * (c * 10 ^ k) + d := by
  have hpow : 0 < 10 ^ k := Nat.pow_pos (by decide)
  have hwhole : c * 10 ^ k / d / 10 ^ k = c / d := by
    rw [Nat.div_div_eq_div_mul, Nat.mul_div_mul_right _ _ hpow]
  obtain hr | hr := divHalfEven_cases (c * 10 ^ k) d
  · rw [hr]
    exact .inl hwhole
  · obtain ⟨-, hnear⟩ := divHalfEven_near (c * 10 ^ k) hd
    rw [hr] at hnear ⊢
    rw [Nat.succ_div, hwhole]
    split
    · refine .inr ⟨rfl, ?_⟩
      rename_i hdvd
      -- the rounded coefficient is the whole number with `k` zeros behind it
      have hnext : c * 10 ^ k / d + 1 = (c / d + 1) * 10 ^ k := by
        obtain ⟨m, hm⟩ := hdvd
        have hm' : m = c / d + 1 := by
          have h := Nat.succ_div (a := c * 10 ^ k / d) (b := 10 ^ k)
          rw [if_pos ⟨m, hm⟩, hwhole, hm, Nat.mul_div_cancel_left _ hpow] at h
          exact h
        rw [hm, hm', Nat.mul_comm]
      rw [hnext] at hnear
      rw [Nat.mul_assoc d]
      exact hnear
    · exact .inl rfl

/-- Only a divisor with few digits leaves no room for one more digit of the quotient. -/
theorem le_of_divHalfEven_ge {c d p : Nat} (hc : c < 2 ^ 96) (hd : 0 < d)
    (h : 2 ^ 96 ≤ divHalfEven (c * p) d) : d ≤ p := by
  obtain ⟨-, hnear⟩ := divHalfEven_near (c * p) hd
  have hquotient : d * 2 ^ 96 ≤ d * divHalfEven (c * p) d := Nat.mul_le_mul_left d h
  have hdividend : c * p ≤ (2 ^ 96 - 1) * p := Nat.mul_le_mul_right p (by omega)
  omega

/-- How near the next whole number is if a quotient is rounded to it.  This takes a divisor or a
dividend with many digits. -/
theorem near_of_rounded {c d k t u : Nat} (hc : c < 2 ^ 96) (ht : t ≤ 28) (hu : u ≤ 86400)
    (hd : d = u * 10 ^ t) (hd0 : 0 < d) (hfits : divHalfEven (c * 10 ^ k) d < 2 ^ 96)
    (hnext : k = 28 ∨ 2 ^ 96 ≤ divHalfEven (c * 10 ^ (k + 1)) d)
    (hnear : 2 * (d * (c / d + 1) * 10 ^ k) ≤ 2 * (c * 10 ^ k) + d) :
    (c / d + 1) * d ≤ c + 43200 ∧ ((c / d + 1) * d ≤ c + 5 ∨ c * 10 ^ 28 < 2 ^ 96 * d) ∧
      (23 < t ∨ 2 ^ 93 ≤ c) := by
  have hpow : 0 < 10 ^ k := Nat.pow_pos (by decide)
  obtain ⟨j, hj⟩ : ∃ j, d * (c / d + 1) = c + j :=
    Nat.exists_eq_add_of_le (Nat.lt_mul_div_succ c hd0).le
  have hj0 : 0 < j := by
    have := Nat.lt_mul_div_succ c hd0
    omega
  have hjd : 2 * (j * 10 ^ k) ≤ d := by
    rw [hj, Nat.add_mul] at hnear
    omega
  have hjk : 10 ^ k ≤ j * 10 ^ k := Nat.le_mul_of_pos_left _ hj0
  rw [Nat.mul_comm _ d, hj]
  -- the quotient has all 28 digits, or there was no room for one more
  obtain rfl | hnext := hnext
  · have hd28 : d ≤ 86400 * 10 ^ 28 := by
      rw [hd]
      exact Nat.mul_le_mul hu (Nat.pow_le_pow_right (by decide) ht)
    have hquotient : c * 10 ^ 28 / d < 2 ^ 96 := by
      obtain h | h := divHalfEven_cases (c * 10 ^ 28) d <;> omega
    refine ⟨by omega, .inr ((Nat.div_lt_iff_lt_mul hd0).mp hquotient), .inl ?_⟩
    by_contra h23
    have hd23 : d ≤ 86400 * 10 ^ 23 := by
      rw [hd]
      exact Nat.mul_le_mul hu (Nat.pow_le_pow_right (by decide) (Nat.not_lt.mp h23))
    omega
  · have hdk := le_of_divHalfEven_ge hc hd0 hnext
    have hj5 : j * 10 ^ k ≤ 5 * 10 ^ k := by
      rw [Nat.pow_succ] at hdk
      omega
    have := Nat.le_of_mul_le_mul_right hj5 hpow
    refine ⟨by omega, .inl (by omega), .inr ?_⟩
    obtain ⟨-, hnear'⟩ := divHalfEven_near (c * 10 ^ (k + 1)) hd0
    have hlarge : d * 2 ^ 96 ≤ d * divHalfEven (c * 10 ^ (k + 1)) d := Nat.mul_le_mul_left d hnext
    have hdividend : c * 10 ^ (k + 1) = c * 10 * 10 ^ k := by rw [Nat.pow_succ', Nat.mul_assoc]
    rw [hdividend] at hnear' hlarge
    have hc10 : 2 ^ 93 * 10 * 10 ^ k ≤ c * 10 * 10 ^ k := by omega
    exact Nat.le_of_mul_le_mul_right (Nat.le_of_mul_le_mul_right hc10 hpow) (by decide)

/-- The whole part of a quotient by a number of seconds is that of the exact one, or one more.  The
latter is rare: the next whole number is no more than half a unit away. -/
theorem truncate_div? {a : Decimal} (ha : a.negative = false) {u : Nat} (hu : 0 < u)
    (hu' : u ≤ 86400) {d : Nat} (hd : d = u * 10 ^ a.scale) :
    ∃ q : Nat, ((a.div? (ofNat u)).getD zero).truncate = q ∧
      (q = a.coefficient / d ∨ q = a.coefficient / d + 1 ∧ a.coefficient ≠ 0 ∧
        q * d ≤ a.coefficient + 43200 ∧
        (q * d ≤ a.coefficient + 5 ∨ a.coefficient * 10 ^ 28 < 2 ^ 96 * d) ∧
        (23 < a.scale ∨ 2 ^ 93 ≤ a.coefficient)) := by
  obtain ⟨negative, c, t, hc, ht⟩ := a
  obtain rfl : negative = false := ha
  dsimp only at hd ⊢
  have hd0 : 0 < d := hd ▸ Nat.mul_pos hu (Nat.pow_pos (by decide))
  rw [ofNat_eq (by omega : u < 2 ^ 96)]
  by_cases h0 : c = 0
  · refine ⟨0, ?_, .inl (by simp [h0])⟩
    simp [div?, isZero, h0, hu.ne']
    rfl
  · by_cases hdvd : c % u = 0
    · refine ⟨c / d, ?_, .inl rfl⟩
      have hfits : c / u < 2 ^ 96 := (Nat.div_le_self c u).trans_lt hc
      simp [div?, isZero, h0, hu.ne', hdvd, ofParts?_eq hfits ht, truncate, hd,
        Nat.div_div_eq_div_mul]
    · have hd2 : 2 ≤ d := by
        have hu2 : u ≠ 1 := by
          rintro rfl
          exact hdvd (Nat.mod_one c)
        have := Nat.le_mul_of_pos_right u (Nat.pow_pos (by decide : 0 < 10) (n := t))
        omega
      have hwhole : divHalfEven c d < 2 ^ 96 := by
        have : c / d ≤ c / 2 := Nat.div_le_div_left hd2 (by decide)
        obtain h | h := divHalfEven_cases c d <;> omega
      obtain ⟨k, hk, hfits, hnearest, hnext⟩ := nearest?_spec false hwhole (le_refl 28)
      refine ⟨divHalfEven (c * 10 ^ k) d / 10 ^ k, ?_, ?_⟩
      · simp [div?, isZero, h0, hu.ne', hdvd, ← hd, hnearest, ofParts?_eq hfits hk,
          truncate_normalize]
        simp [truncate]
      · obtain hq | ⟨hq, hnear⟩ := divHalfEven_whole c k hd0
        · exact .inl hq
        · rw [hq]
          exact .inr ⟨rfl, h0, near_of_rounded hc ht hu' hd hd0 hfits hnext hnear⟩

theorem negative_of_nearest? {negative : Bool} {num den s : Nat} {d : Decimal}
    (h : nearest? negative num den s = some d) : d.negative = negative := by
  induction s with
  | zero => exact negative_of_ofParts? h
  | succ s ih =>
    rw [nearest?] at h
    split at h
    · rename_i hparts
      obtain rfl := Option.some.inj h
      exact negative_of_ofParts? hparts
    · exact ih h

theorem truncate_nonpos {d : Decimal} (h : d.negative = true) : d.truncate ≤ 0 := by
  rw [truncate, h, if_pos rfl]
  exact Int.neg_nonpos_of_nonneg (Int.natCast_nonneg _)

/-- The quotient of a negative number by a positive one is not positive. -/
theorem truncate_div?_nonpos {a b : Decimal} (ha : a.negative = true) (hb : b.negative = false) :
    ((a.div? b).getD zero).truncate ≤ 0 := by
  have hzero : zero.truncate ≤ 0 := by decide
  cases hq : a.div? b with
  | none => exact hzero
  | some q =>
    rw [Option.getD_some]
    unfold div? at hq
    rw [ha, hb] at hq
    split at hq
    · cases hq
    · split at hq
      · obtain rfl := Option.some.inj hq
        exact hzero
      · dsimp only at hq
        split at hq
        · exact truncate_nonpos (negative_of_ofParts? hq)
        · obtain ⟨d, hd, rfl⟩ := Option.map_eq_some_iff.mp hq
          rw [truncate_normalize]
          exact truncate_nonpos (negative_of_nearest? hd)

/-! ## 3. Sums and differences -/

/-- Whether a decimal is `n / 10 ^ s` with at most `s` digits behind the point, and no sign. -/
structure IsLength (d : Decimal) (n s : Nat) : Prop where
  positive : d.negative = false
  scale_le : d.scale ≤ s
  value : d.coefficient * 10 ^ (s - d.scale) = n

theorem isLength_self {d : Decimal} (h : d.negative = false) : d.IsLength d.coefficient d.scale :=
  ⟨h, le_rfl, by rw [Nat.sub_self, Nat.pow_zero, Nat.mul_one]⟩

theorem isLength_zero (s : Nat) : zero.IsLength 0 s := ⟨rfl, Nat.zero_le s, Nat.zero_mul _⟩

theorem IsLength.normalize {d : Decimal} {n s : Nat} (h : d.IsLength n s) :
    d.normalize.IsLength n s := by
  obtain ⟨hpositive, hscale, hvalue⟩ := h
  unfold Decimal.normalize
  split
  · rename_i hzero
    have hc : d.coefficient = 0 := by simpa [isZero] using hzero
    rw [← hvalue, hc, Nat.zero_mul]
    exact isLength_zero s
  · obtain ⟨hstrip, -⟩ := stripZeros_spec d.coefficient d.scale
    have hle := stripZeros_snd_le d.coefficient d.scale
    constructor
    · exact hpositive
    · exact hle.trans hscale
    · change (stripZeros d.coefficient d.scale).1 *
        10 ^ (s - (stripZeros d.coefficient d.scale).2) = n
      generalize (stripZeros d.coefficient d.scale).1 = c at hstrip ⊢
      generalize (stripZeros d.coefficient d.scale).2 = k at hstrip hle ⊢
      rw [← hvalue, ← hstrip, Nat.mul_assoc, ← Nat.pow_add]
      congr 2
      omega

/-- The decimal in normal form is the only one with the smallest scale. -/
theorem IsLength.eq_of_isNormal {t ℓ : Decimal} (h : t.IsLength ℓ.coefficient ℓ.scale)
    (hℓ : ℓ.IsNormal) (hpositive : ℓ.negative = false) : t = ℓ := by
  obtain ⟨ht, hscale, hvalue⟩ := h
  have hnormal := hℓ.scale
  obtain ⟨_, c, s, hc, hs⟩ := ℓ
  obtain ⟨_, b, k, hb, hk⟩ := t
  obtain rfl : _ = false := hpositive
  obtain rfl : _ = false := ht
  dsimp only at hscale hvalue hnormal
  obtain ⟨j, rfl⟩ : ∃ j, s = k + j := Nat.exists_eq_add_of_le hscale
  rw [Nat.add_sub_cancel_left] at hvalue
  -- a smaller scale would leave a zero at the end of the coefficient
  cases j with
  | zero =>
    obtain rfl : b = c := by rwa [Nat.pow_zero, Nat.mul_one] at hvalue
    rfl
  | succ j =>
    rw [Nat.pow_succ, ← Nat.mul_assoc] at hvalue
    omega

theorem mul?_whole {q u : Nat} (h : q * u < 2 ^ 96) (hq : q < 2 ^ 96) (hu : u < 2 ^ 96) :
    ((ofInt? q).getD zero).mul? (ofNat u) = some ⟨false, q * u, 0, h, by decide⟩ := by
  have hcount : (ofInt? q).getD zero = ⟨false, q, 0, hq, by decide⟩ := by
    have hneg : decide ((q : Int) < 0) = false := by
      rw [decide_eq_false_iff_not]
      omega
    rw [ofInt?, hneg, Int.natAbs_natCast, ofParts?_eq hq (by decide), Option.getD_some]
  rw [ofNat_eq hu, hcount, mul?]
  by_cases h0 : q = 0 ∨ u = 0
  · have hzero : q * u = 0 := Nat.mul_eq_zero.mpr h0
    simp [isZero, h0, hzero, zero]
  · simp [isZero, h0, nearest?, divHalfEven_one, ofParts?, h, unsignZero]

theorem positive_of_add? {a b t : Decimal} (ha : a.negative = false) (hb : b.negative = false)
    (h : a.add? b = some t) : t.negative = false := by
  unfold add? at h
  split at h
  · rwa [← Option.some.inj h]
  · split at h
    · rwa [← Option.some.inj h]
    · have hsigned : ∀ d : Decimal, d.negative = false → ∀ s, 0 ≤ d.signedAt s := by
        intro d hd s
        rw [signedAt, signed, if_neg (by simp [hd])]
        positivity
      rw [negative_of_nearest? h, decide_eq_false_iff_not, Int.not_lt]
      exact Int.add_nonneg (hsigned a ha _) (hsigned b hb _)

/-- A length is the sum of a whole number and the rest. -/
theorem add?_whole {n m : Nat} (hn : n < 2 ^ 96) {ℓ r : Decimal} (hℓ : ℓ.IsNormal)
    (hpositive : ℓ.negative = false) (hr : r.IsLength m ℓ.scale)
    (hsum : n * 10 ^ ℓ.scale + m = ℓ.coefficient) : (ofNat n).add? r = some ℓ := by
  obtain ⟨negative, c, t, hc, ht⟩ := r
  obtain ⟨rfl, hscale, hvalue⟩ := hr
  dsimp only at hscale hvalue
  rw [ofNat_eq hn, add?]
  -- a summand that is zero leaves the other one as it is, with its own scale
  by_cases hn0 : n = 0
  · rw [if_pos (by simp [isZero, hn0]), Option.some_inj]
    apply IsLength.eq_of_isNormal _ hℓ hpositive
    rw [← hsum, hn0, Nat.zero_mul, Nat.zero_add]
    exact ⟨rfl, hscale, hvalue⟩
  · rw [if_neg (by simp [isZero, hn0])]
    by_cases hc0 : c = 0
    · rw [if_pos (by simp [isZero, hc0]), Option.some_inj]
      apply IsLength.eq_of_isNormal _ hℓ hpositive
      rw [← hsum, ← hvalue, hc0, Nat.zero_mul, Nat.add_zero]
      exact ⟨rfl, Nat.zero_le _, rfl⟩
    · have hlength : (n * 10 ^ t + c) * 10 ^ (ℓ.scale - t) = ℓ.coefficient := by
        rw [← hsum, ← hvalue, Nat.add_mul, Nat.mul_assoc, ← Nat.pow_add, Nat.add_sub_cancel' hscale]
      have hfits : n * 10 ^ t + c < 2 ^ 96 := by
        have hle := Nat.le_mul_of_pos_right (n * 10 ^ t + c)
          (Nat.pow_pos (by decide : 0 < 10) (n := ℓ.scale - t))
        rw [hlength] at hle
        exact hle.trans_lt ℓ.coefficient_lt
      have hsigned : (⟨false, n, 0, hn, by decide⟩ : Decimal).signedAt t +
          (⟨false, c, t, hc, ht⟩ : Decimal).signedAt t = (n * 10 ^ t + c : Nat) := by
        simp [signedAt, signed]
      have hnonneg : decide (((n * 10 ^ t + c : Nat) : Int) < 0) = false := by
        rw [decide_eq_false_iff_not]
        omega
      rw [if_neg (by simp [isZero, hc0])]
      simp only [Nat.max_eq_right (Nat.zero_le t), hsigned, hnonneg, Int.natAbs_natCast]
      rw [nearest?_exact _ hfits ht, ofParts?_eq hfits ht, Option.some_inj]
      apply IsLength.eq_of_isNormal _ hℓ hpositive
      exact ⟨rfl, hscale, hlength⟩

variable {a : Decimal} {n : Nat} (hn : n < 2 ^ 96)

/-- The difference with a whole number, as the signed number of its units. -/
theorem sub?_eq {c t m : Nat} (hc : c < 2 ^ 96) (ht : t ≤ 28) (hc0 : c ≠ 0) (hn0 : n ≠ 0)
    (hm : m = ((c : Int) - n * 10 ^ t).natAbs) (hm96 : m < 2 ^ 96) :
    sub? ⟨false, c, t, hc, ht⟩ ⟨false, n, 0, hn, by decide⟩ =
      some ⟨decide ((c : Int) - n * 10 ^ t < 0), m, t, hm96, ht⟩ := by
  have hsum : (⟨false, c, t, hc, ht⟩ : Decimal).signedAt t +
      (⟨true, n, 0, hn, by decide⟩ : Decimal).signedAt t = (c : Int) - n * 10 ^ t := by
    simp [signedAt, signed, Int.sub_eq_add_neg]
  simp only [sub?, add?, isZero, beq_iff_eq, hc0, hn0, if_false, Nat.max_eq_left (Nat.zero_le t),
    neg, Bool.not_false, hsum, ← hm]
  rw [nearest?_exact _ hm96 ht, ofParts?_eq hm96 ht]

/-- A whole number that is no larger is subtracted exactly. -/
theorem sub?_whole (ha : a.negative = false) (hle : n * 10 ^ a.scale ≤ a.coefficient) :
    ∃ r, a.sub? ⟨false, n, 0, hn, by decide⟩ = some r ∧
      r.IsLength (a.coefficient - n * 10 ^ a.scale) a.scale := by
  obtain ⟨negative, c, t, hc, ht⟩ := a
  obtain rfl : negative = false := ha
  dsimp only at hle ⊢
  by_cases hn0 : n = 0
  · subst hn0
    by_cases hc0 : c = 0
    · subst hc0
      exact ⟨⟨false, 0, 0, hn, by decide⟩, by simp [sub?, isZero], rfl, Nat.zero_le t, by simp⟩
    · refine ⟨⟨false, c, t, hc, ht⟩, by simp [sub?, isZero, hc0], ?_⟩
      simpa using isLength_self (d := ⟨false, c, t, hc, ht⟩) rfl
  · have hc0 : c ≠ 0 := by
      have := Nat.mul_pos (Nat.pos_of_ne_zero hn0) (Nat.pow_pos (by decide : 0 < 10) (n := t))
      omega
    have hcast : ((n * 10 ^ t : Nat) : Int) = n * 10 ^ t := by push_cast; rfl
    refine ⟨_, sub?_eq hn hc ht hc0 hn0 (m := c - n * 10 ^ t) (by omega) (by omega), ?_⟩
    refine ⟨?_, le_rfl, ?_⟩
    · simp only [decide_eq_false_iff_not]
      omega
    · simp

/-- A whole number that is a little larger leaves a negative rest. -/
theorem sub?_whole_negative (ha : a.negative = false) (ha0 : a.coefficient ≠ 0)
    (hlt : a.coefficient < n * 10 ^ a.scale)
    (hnear : n * 10 ^ a.scale < a.coefficient + 2 ^ 96) :
    ∃ r, a.sub? ⟨false, n, 0, hn, by decide⟩ = some r ∧ r.negative = true ∧ r.coefficient ≠ 0 := by
  obtain ⟨negative, c, t, hc, ht⟩ := a
  obtain rfl : negative = false := ha
  dsimp only at hlt hnear ha0 ⊢
  have hn0 : n ≠ 0 := by
    rintro rfl
    omega
  have hcast : ((n * 10 ^ t : Nat) : Int) = n * 10 ^ t := by push_cast; rfl
  refine ⟨_, sub?_eq hn hc ht ha0 hn0 (m := n * 10 ^ t - c) (by omega) (by omega), ?_, ?_⟩
  · simp only [decide_eq_true_eq]
    omega
  · dsimp only
    omega

end XPath.Number.Decimal
