import XPath.Proofs.Number.Exact
import XPath.Time.Duration

/-!
# The components of a length of time

The text of a duration counts the days, hours and minutes in its length by dividing decimals.  Such
a quotient is rounded, and so a count may come out one too large.  What is left is then negative,
which puts a sign into the text behind the designator `P`.
-/

namespace XPath

open XPath.Number XPath.Number.Decimal XPath.Text

namespace DayTimeDuration

/-! ## 1. One count -/

theorem splitAtUnit_eq {a : Decimal} {u q : Nat}
    (hq : ((a.div? (ofNat u)).getD zero).truncate = q) {h : q * u < 2 ^ 96}
    (hmul : ((ofInt? q).getD zero).mul? (ofNat u) = some ⟨false, q * u, 0, h, by decide⟩)
    {r : Decimal} (hsub : a.sub? ⟨false, q * u, 0, h, by decide⟩ = some r) :
    splitAtUnit a u = ((q : Int), r) := by
  simp only [splitAtUnit, hq, hmul, Option.getD_some, hsub]

/-- Even a count that is one too large has a length in seconds that fits. -/
theorem count_fits {q u c t d : Nat} (hc : c < 2 ^ 96) (hu : u ≤ 86400) (h60 : 60 ∣ u)
    (hd : d = u * 10 ^ t) (hnear : q * d ≤ c + 43200)
    (hnear' : q * d ≤ c + 5 ∨ c * 10 ^ 28 < 2 ^ 96 * d) : q * u < 2 ^ 96 := by
  cases t with
  | zero =>
    -- the next multiple of 60 behind `2 ^ 96` is farther away than 5
    obtain ⟨w, rfl⟩ := h60
    have hx : q * (60 * w) = 60 * (q * w) := Nat.mul_left_comm q 60 w
    rw [Nat.pow_zero, Nat.mul_one] at hd
    rw [hd, hx] at hnear hnear'
    omega
  | succ t =>
    have hten : q * u * 10 ≤ q * d := by
      rw [hd, ← Nat.mul_assoc, Nat.pow_succ']
      exact Nat.mul_le_mul_left _ (Nat.le_mul_of_pos_right 10 (Nat.pow_pos (by decide)))
    omega

/-- Whether a decimal is below zero. -/
def IsNegative (d : Decimal) : Prop := d.negative = true ∧ d.coefficient ≠ 0

/-- Whether `n / 10 ^ s` has so many digits that a quotient of it may be rounded up. -/
def HasManyDigits (n s : Nat) : Prop := 23 < s ∨ 2 ^ 93 ≤ n

/-- A count is right, and then the rest is right, or it is one too large, and then the rest is
negative. -/
theorem splitAtUnit_spec {a : Decimal} (ha : a.negative = false) {u : Nat} (hu : 0 < u)
    (hu' : u ≤ 86400) (h60 : 60 ∣ u) {d : Nat} (hd : d = u * 10 ^ a.scale) :
    ((splitAtUnit a u).1 = (a.coefficient / d : Nat) ∧
        (splitAtUnit a u).2.IsLength (a.coefficient % d) a.scale) ∨
      (splitAtUnit a u).1 = (a.coefficient / d + 1 : Nat) ∧ IsNegative (splitAtUnit a u).2 ∧
        HasManyDigits a.coefficient a.scale := by
  have hd0 : 0 < d := hd ▸ Nat.mul_pos hu (Nat.pow_pos (by decide))
  have hc := a.coefficient_lt
  obtain ⟨q, htrunc, hq⟩ := truncate_div? ha hu hu' hd
  have hunits : q * u * 10 ^ a.scale = q * d := by rw [hd, Nat.mul_assoc]
  have hqu : q ≤ q * u := Nat.le_mul_of_pos_right q hu
  obtain hq | ⟨hq, hc0, hnear, hnear', hmany⟩ := hq
  · left
    have hqd : q * d ≤ a.coefficient := by
      rw [hq]
      exact Nat.div_mul_le_self _ _
    have hle : q * u ≤ q * d := hunits ▸ Nat.le_mul_of_pos_right _ (Nat.pow_pos (by decide))
    have hfits : q * u < 2 ^ 96 := by omega
    obtain ⟨r, hr, hlength⟩ := sub?_whole hfits ha (by rwa [hunits])
    rw [splitAtUnit_eq htrunc (mul?_whole hfits (by omega) (by omega)) hr, ← hq]
    refine ⟨rfl, ?_⟩
    rw [hunits, hq, Nat.mul_comm, ← Nat.mod_eq_sub_mul_div] at hlength
    exact hlength
  · right
    have hfits := count_fits hc hu' h60 hd hnear hnear'
    have hlt : a.coefficient < q * d := by
      rw [hq, Nat.mul_comm]
      exact Nat.lt_mul_div_succ _ hd0
    obtain ⟨r, hr, hnegative⟩ := sub?_whole_negative hfits ha hc0 (by rwa [hunits])
      (by rw [hunits]; omega)
    rw [splitAtUnit_eq htrunc (mul?_whole hfits (by omega) (by omega)) hr, ← hq]
    exact ⟨rfl, hnegative, hmany⟩

/-- The count and the rest of a length that is given at a scale. -/
theorem splitAtUnit_length {a : Decimal} {n s : Nat} (ha : a.IsLength n s) {u : Nat} (hu : 0 < u)
    (hu' : u ≤ 86400) (h60 : 60 ∣ u) :
    ((splitAtUnit a u).1 = (n / (u * 10 ^ s) : Nat) ∧
        (splitAtUnit a u).2.IsLength (n % (u * 10 ^ s)) s) ∨
      (splitAtUnit a u).1 = (n / (u * 10 ^ s) + 1 : Nat) ∧ IsNegative (splitAtUnit a u).2 ∧
        HasManyDigits n s := by
  obtain ⟨hpositive, hscale, hvalue⟩ := ha
  have hpow : 10 ^ s = 10 ^ a.scale * 10 ^ (s - a.scale) := by
    rw [← Nat.pow_add, Nat.add_sub_cancel' hscale]
  have hunit : u * 10 ^ s = u * 10 ^ a.scale * 10 ^ (s - a.scale) := by rw [hpow, Nat.mul_assoc]
  have hdiv : n / (u * 10 ^ s) = a.coefficient / (u * 10 ^ a.scale) := by
    rw [← hvalue, hunit, Nat.mul_div_mul_right _ _ (Nat.pow_pos (by decide))]
  have hmod : n % (u * 10 ^ s) = a.coefficient % (u * 10 ^ a.scale) * 10 ^ (s - a.scale) := by
    rw [← hvalue, hunit, Nat.mul_mod_mul_right]
  rw [hdiv, hmod]
  obtain ⟨hq, hr⟩ | h := splitAtUnit_spec hpositive hu hu' h60 rfl
  · refine .inl ⟨hq, hr.positive, hr.scale_le.trans hscale, ?_⟩
    rw [← hr.value, Nat.mul_assoc, ← Nat.pow_add]
    congr 2
    have := hr.scale_le
    omega
  · obtain ⟨hq, hsign, hmany⟩ := h
    refine .inr ⟨hq, hsign, hmany.imp hscale.trans_lt' fun hlarge => ?_⟩
    rw [← hvalue]
    exact hlarge.trans (Nat.le_mul_of_pos_right _ (Nat.pow_pos (by decide)))

/-- A negative rest has a negative count, or it is left as it is. -/
theorem splitAtUnit_negative {a : Decimal} (ha : IsNegative a) (u : Nat) :
    (splitAtUnit a u).1 < 0 ∨ splitAtUnit a u = (0, a) := by
  obtain ⟨hnegative, h0⟩ := ha
  obtain hlt | heq := Int.lt_or_eq_of_le (truncate_div?_nonpos hnegative (b := ofNat u) rfl)
  · exact .inl hlt
  · have hmul : ((ofInt? 0).getD zero).mul? (ofNat u) = some zero := rfl
    have hsub : a.sub? zero = some a := by
      rw [sub?, if_pos (show zero.isZero = true from rfl), if_neg (by simpa [isZero] using h0)]
    right
    simp only [splitAtUnit, heq, hmul, Option.getD_some, hsub]

/-! ## 2. All counts -/

/-- The days in a length, and the rest. -/
def splitDays (length : Decimal) : Int × Decimal := splitAtUnit length 86400

/-- The hours beyond the days, and the rest. -/
def splitHours (length : Decimal) : Int × Decimal := splitAtUnit (splitDays length).2 3600

/-- The minutes beyond the hours, and the rest. -/
def splitMinutes (length : Decimal) : Int × Decimal := splitAtUnit (splitHours length).2 60

/-- Whether the text of a length counts the days, hours and minutes that are in it. -/
def CountsExact (length : Decimal) : Prop :=
  (splitDays length).1 = length.truncate / 86400 ∧
    (splitHours length).1 = length.truncate / 3600 % 24 ∧
    (splitMinutes length).1 = length.truncate / 60 % 60

instance (length : Decimal) : Decidable (CountsExact length) :=
  inferInstanceAs (Decidable (_ ∧ _ ∧ _))

/-- Whether a sign appears in the counts or in the seconds of a length. -/
def HasSign (length : Decimal) : Prop :=
  (splitHours length).1 < 0 ∨ (splitMinutes length).1 < 0 ∨ IsNegative (splitMinutes length).2

theorem hasSign_of_minutes {ℓ : Decimal} (h : IsNegative (splitHours ℓ).2) : HasSign ℓ := by
  obtain hlt | heq := splitAtUnit_negative h 60
  · exact .inr (.inl hlt)
  · refine .inr (.inr ?_)
    rw [splitMinutes, heq]
    exact h

theorem hasSign_of_hours {ℓ : Decimal} (h : IsNegative (splitDays ℓ).2) : HasSign ℓ := by
  obtain hlt | heq := splitAtUnit_negative h 3600
  · exact .inl hlt
  · apply hasSign_of_minutes
    rw [splitHours, heq]
    exact h

/-- What a smaller unit finds in the rest of a larger one. -/
theorem rest_of_unit (n d : Nat) {u v k : Nat} (hv : v = k * u) :
    n % (v * d) / (u * d) = n / (u * d) % k ∧ n % (v * d) % (u * d) = n % (u * d) := by
  have hunit : v * d = u * d * k := by rw [hv, Nat.mul_assoc, Nat.mul_comm]
  rw [hunit]
  exact ⟨Nat.mod_mul_right_div_self n _ k, Nat.mod_mod_of_dvd n (Nat.dvd_mul_right _ k)⟩

/-- The counts are all right, and the seconds are what is left, or a sign gives the length away.
The latter takes many digits. -/
theorem counts_cases {ℓ : Decimal} (h : ℓ.negative = false) :
    (CountsExact ℓ ∧ (splitMinutes ℓ).2.IsLength (ℓ.coefficient % (60 * 10 ^ ℓ.scale)) ℓ.scale) ∨
      ¬ CountsExact ℓ ∧ HasSign ℓ ∧ HasManyDigits ℓ.coefficient ℓ.scale := by
  have hwhole : ∀ u : Nat, ℓ.truncate / u = (ℓ.coefficient / (u * 10 ^ ℓ.scale) : Nat) := by
    intro u
    rw [truncate, h, if_neg Bool.false_ne_true, Nat.mul_comm, ← Nat.div_div_eq_div_mul]
    rfl
  have hday := hwhole 86400
  have hhour := hwhole 3600
  have hminute := hwhole 60
  obtain ⟨hrest, hrest'⟩ := rest_of_unit ℓ.coefficient (10 ^ ℓ.scale)
    (show 86400 = 24 * 3600 from rfl)
  obtain ⟨hlast, hlast'⟩ := rest_of_unit ℓ.coefficient (10 ^ ℓ.scale)
    (show 3600 = 60 * 60 from rfl)
  obtain ⟨hdays, hlength⟩ | ⟨hdays, hsign, hmany⟩ := splitAtUnit_length (isLength_self h)
    (u := 86400) (by decide) (by decide) (by decide)
  · obtain ⟨hhours, hlength⟩ | ⟨hhours, hsign, hmany⟩ := splitAtUnit_length hlength (u := 3600)
      (by decide) (by decide) (by decide)
    · rw [hrest'] at hlength
      obtain ⟨hminutes, hlength⟩ | ⟨hminutes, hsign, hmany⟩ := splitAtUnit_length hlength (u := 60)
        (by decide) (by decide) (by decide)
      · rw [hlast'] at hlength
        refine .inl ⟨⟨?_, ?_, ?_⟩, hlength⟩
        · rw [splitDays, hdays]
          omega
        · rw [splitHours, splitDays, hhours]
          omega
        · rw [splitMinutes, splitHours, splitDays, hminutes]
          omega
      · refine .inr ⟨?_, .inr (.inr hsign), hmany.imp_right (·.trans (Nat.mod_le _ _))⟩
        rintro ⟨-, -, hexact⟩
        rw [splitMinutes, splitHours, splitDays, hminutes] at hexact
        omega
    · refine .inr ⟨?_, hasSign_of_minutes hsign, hmany.imp_right (·.trans (Nat.mod_le _ _))⟩
      rintro ⟨-, hexact, -⟩
      rw [splitHours, splitDays, hhours] at hexact
      omega
  · refine .inr ⟨?_, hasSign_of_hours hsign, hmany⟩
    rintro ⟨hexact, -⟩
    rw [splitDays, hdays] at hexact
    omega

/-- A length with at most 23 digits behind the point, up to three digits short of the largest
number, is counted exactly. -/
theorem countsExact_of_not_hasManyDigits {ℓ : Decimal} (h : ℓ.negative = false)
    (hfew : ¬ HasManyDigits ℓ.coefficient ℓ.scale) : CountsExact ℓ := by
  obtain ⟨hexact, -⟩ | ⟨-, -, hmany⟩ := counts_cases h
  · exact hexact
  · exact absurd hmany hfew

end DayTimeDuration

end XPath
