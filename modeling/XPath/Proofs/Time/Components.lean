import Mathlib.Algebra.Order.Floor.Semifield
import Mathlib.Data.Sign.Basic
import XPath.Library.Durations
import XPath.Proofs.Number.Nearest
import XPath.Proofs.Time.DurationRoundTrip

/-!
# The components of a duration

The days, hours, minutes and seconds of a duration are found by independent divisions of its length.
Together they give the length again, unless one of the quotients is rounded to the next whole number
or is too large for its counter.
-/

namespace XPath

open XPath.Number

/-! ## 1. Mixed units -/

/-- Whether `y` is zero or has the sign of `x`. -/
def HasSignOf (x y : ℚ) : Prop := y = 0 ∨ SignType.sign y = SignType.sign x

theorem hasSignOf_neg {x y : ℚ} : HasSignOf (-x) (-y) ↔ HasSignOf x y := by
  rw [HasSignOf, HasSignOf, neg_eq_zero, Left.sign_neg, Left.sign_neg, neg_inj]

theorem HasSignOf.nonneg {x y : ℚ} (hx : 0 ≤ x) (h : HasSignOf x y) : 0 ≤ y := by
  rcases h with rfl | h
  · exact le_rfl
  · rwa [← sign_nonneg_iff, h, sign_nonneg_iff]

theorem hasSignOf_of_nonneg {x y : ℚ} (hy : 0 ≤ y) (hx : 0 < y → 0 < x) : HasSignOf x y := by
  rcases hy.eq_or_lt with h | h
  · exact .inl h.symm
  · right
    rw [sign_pos h, sign_pos (hx h)]

/-- Whether the components make up `x` seconds, each in its range and none with the other sign. -/
structure Recomposes (x : ℚ) (days hours minutes : ℤ) (seconds : ℚ) : Prop where
  sum : days * 86400 + hours * 3600 + minutes * 60 + seconds = x
  hours_le : |hours| ≤ 23
  minutes_le : |minutes| ≤ 59
  seconds_lt : |seconds| < 60
  days_sign : HasSignOf x days
  hours_sign : HasSignOf x hours
  minutes_sign : HasSignOf x minutes
  seconds_sign : HasSignOf x seconds

namespace Recomposes

variable {x s : ℚ} {d h m : ℤ}

theorem neg (hr : Recomposes x d h m s) : Recomposes (-x) (-d) (-h) (-m) (-s) := by
  rcases hr with ⟨hsum, hhours, hminutes, hseconds, hd, hh, hm, hs⟩
  refine ⟨?_, by rwa [abs_neg], by rwa [abs_neg], by rwa [abs_neg], ?_, ?_, ?_, ?_⟩
  · rw [← hsum]
    push_cast
    ring
  · rwa [Int.cast_neg, hasSignOf_neg]
  · rwa [Int.cast_neg, hasSignOf_neg]
  · rwa [Int.cast_neg, hasSignOf_neg]
  · rwa [hasSignOf_neg]

theorem neg_iff : Recomposes (-x) (-d) (-h) (-m) (-s) ↔ Recomposes x d h m s := by
  refine ⟨fun hr => ?_, neg⟩
  have hneg := hr.neg
  rwa [neg_neg, neg_neg, neg_neg, neg_neg, neg_neg] at hneg

end Recomposes

/-- What a larger unit counts, from what a smaller one does. -/
theorem floor_div_mul (x : ℚ) (u k : ℕ) : ⌊x / (u * k : ℕ)⌋₊ = ⌊x / u⌋₊ / k := by
  rw [Nat.cast_mul, ← div_div, Nat.floor_div_natCast]

/-- There is only one way to write a length with days, hours, minutes and seconds. -/
theorem recomposes_iff {x s : ℚ} (hx : 0 ≤ x) {d h m : ℕ} : Recomposes x d h m s ↔
    d = ⌊x / 86400⌋₊ ∧ h = ⌊x / 3600⌋₊ % 24 ∧ m = ⌊x / 60⌋₊ % 60 ∧ s = x - 60 * ⌊x / 60⌋₊ := by
  have hhour : ⌊x / 3600⌋₊ = ⌊x / 60⌋₊ / 60 := by exact_mod_cast floor_div_mul x 60 60
  have hday : ⌊x / 86400⌋₊ = ⌊x / 60⌋₊ / 1440 := by exact_mod_cast floor_div_mul x 60 1440
  rw [hhour, hday]
  constructor
  · rintro ⟨hsum, hhours, hminutes, hseconds, -, -, -, hsign⟩
    have hs := hsign.nonneg hx
    rw [abs_of_nonneg hs] at hseconds
    -- the minutes of all components together are the whole part of the quotient
    have htotal : ⌊x / 60⌋₊ = d * 1440 + h * 60 + m := by
      have hquotient : x / 60 = (d * 1440 + h * 60 + m : ℕ) + s / 60 := by
        rw [← hsum]
        push_cast
        ring
      rw [hquotient, add_comm, Nat.floor_add_natCast (by positivity),
        Nat.floor_eq_zero.mpr ((div_lt_one (by norm_num)).mpr hseconds), Nat.zero_add]
    rw [Nat.abs_cast] at hhours hminutes
    rw [htotal]
    refine ⟨by omega, by omega, by omega, ?_⟩
    rw [← hsum]
    push_cast
    ring
  · rintro ⟨rfl, rfl, rfl, rfl⟩
    have hle := Nat.floor_le (div_nonneg hx (by norm_num : (0 : ℚ) ≤ 60))
    have hlt := Nat.lt_floor_add_one (x / 60)
    rw [le_div_iff₀ (by norm_num)] at hle
    rw [div_lt_iff₀ (by norm_num)] at hlt
    generalize ⌊x / 60⌋₊ = n at *
    have hsplit : n / 1440 * 86400 + n / 60 % 24 * 3600 + n % 60 * 60 = n * 60 := by omega
    have hpos : ∀ c : ℕ, c ≤ n → HasSignOf x ((c : ℤ) : ℚ) := by
      intro c hc
      refine hasSignOf_of_nonneg (by positivity) fun hc0 => ?_
      have hcn : (c : ℚ) ≤ n := by exact_mod_cast hc
      have hc1 : (0 : ℚ) < c := by exact_mod_cast hc0
      linarith
    refine ⟨?_, ?_, ?_, ?_, hpos _ (Nat.div_le_self _ _), hpos _ (by omega), hpos _ (by omega), ?_⟩
    · have hsplit' : ((n / 1440 * 86400 + n / 60 % 24 * 3600 + n % 60 * 60 : ℕ) : ℚ) = n * 60 := by
        exact_mod_cast hsplit
      rw [Nat.cast_add, Nat.cast_add, Nat.cast_mul, Nat.cast_mul, Nat.cast_mul] at hsplit'
      simp only [Int.cast_natCast]
      linarith
    · rw [Nat.abs_cast]
      omega
    · rw [Nat.abs_cast]
      omega
    · rw [abs_of_nonneg (by linarith)]
      linarith
    · have hn0 : (0 : ℚ) ≤ n := Nat.cast_nonneg n
      exact hasSignOf_of_nonneg (by linarith) fun hs => by linarith

/-! ## 2. The counters -/

/-- The whole multiples of `u` in the length of `x`, after rounding. -/
def roundedCount (x : ℚ) (u : ℕ) : ℕ := ⌊|x| / u⌋₊ + if RoundsUp (x / u) then 1 else 0

/-- Whether the counter for `u` is right, where `w` of it make up the next larger unit, or no larger
one if `w` is zero.  A count that is too large for the counter leaves it at zero. -/
def IsCounted (x : ℚ) (u w : ℕ) : Prop :=
  if roundedCount x u < 2 ^ 63 then ¬ RoundsUp (x / u) else w ∣ ⌊|x| / u⌋₊

theorem roundsUp_abs_div {x y : ℚ} : RoundsUp (|x| / y) ↔ RoundsUp (x / y) := by
  rw [RoundsUp, abs_div, abs_abs, ← abs_div, RoundsUp]

theorem roundedCount_abs (x : ℚ) (u : ℕ) : roundedCount |x| u = roundedCount x u := by
  rw [roundedCount, abs_abs, if_congr roundsUp_abs_div rfl rfl, roundedCount]

theorem isCounted_iff {x : ℚ} {u w : ℕ} (hw : w ≠ 1) :
    (if roundedCount x u < 2 ^ 63 then roundedCount x u else 0) % w = ⌊|x| / u⌋₊ % w ↔
      IsCounted x u w := by
  unfold IsCounted
  split
  · rw [roundedCount]
    by_cases hup : RoundsUp (x / u)
    · rw [if_pos hup]
      refine iff_of_false (fun h => ?_) (not_not.mpr hup)
      -- two neighbours have the same remainder only for the divisor one
      have hmod := Nat.sub_mod_eq_zero_of_mod_eq h
      rw [Nat.add_sub_cancel_left] at hmod
      exact hw (Nat.dvd_one.mp (Nat.dvd_of_mod_eq_zero hmod))
    · rw [if_neg hup, Nat.add_zero]
      exact iff_of_true rfl hup
  · rw [Nat.zero_mod, eq_comm, Nat.dvd_iff_mod_eq_zero]

/-- A quotient of numbers with few digits is counted right. -/
theorem isCounted_of_few_digits {x : ℚ} {u n k : ℕ} (hx : |x| / u = n / k) (hn : n < 10 ^ 14)
    (hk : k < 10 ^ 14) : ¬ RoundsUp (x / u) ∧ ∀ w, IsCounted x u w := by
  have hup : ¬ RoundsUp (x / u) := by
    rw [← roundsUp_abs_div, hx]
    exact not_roundsUp_of_few_digits hn hk
  have hcount : roundedCount x u < 2 ^ 63 := by
    have hle : n / k ≤ n := Nat.div_le_self n k
    rw [roundedCount, if_neg hup, hx, Nat.floor_div_eq_div]
    omega
  refine ⟨hup, fun w => ?_⟩
  rw [IsCounted, if_pos hcount]
  exact hup

theorem pos_of_roundedCount {x : ℚ} {u : ℕ} (h : roundedCount x u ≠ 0) : x ≠ 0 := by
  rintro rfl
  apply h
  rw [roundedCount, abs_zero, zero_div, Nat.floor_zero, if_neg not_roundsUp_zero]

namespace DayTimeDuration

variable (d : DayTimeDuration)

/-- What is counted before the counter is looked at. -/
theorem truncate_div?_unit {a : Decimal} {u : ℕ} (hu : u < 2 ^ 96) (hu0 : u ≠ 0)
    (ha : 0 ≤ a.value) :
    ∃ q, a.div? (.ofNat u) = some q ∧ q.truncate = roundedCount a.value u := by
  rcases a.exists_div?_whole hu hu0 with ⟨q, hq⟩
  have hvalue : (⟨false, u, 0, hu, by decide⟩ : Decimal).value = u := by
    simp [Decimal.value_eq, Decimal.factor]
  have htrunc := Decimal.truncate_quotient hq
  rw [hvalue] at htrunc
  rw [Decimal.ofNat_eq hu]
  refine ⟨q, hq, ?_⟩
  have hx : 0 ≤ a.value / u := by positivity
  rw [htrunc, roundedCount, wholePart_of_nonneg hx, abs_of_nonneg ha, Nat.cast_add,
    Int.natCast_floor_eq_floor hx]
  congr 1
  by_cases hup : RoundsUp (a.value / u)
  · rw [if_pos hup, if_pos hup, Nat.cast_one, Int.sign_eq_one_of_pos]
    rw [Rat.num_pos]
    refine lt_of_le_of_ne hx fun h0 => ?_
    rw [← h0] at hup
    exact not_roundsUp_zero hup
  · rw [if_neg hup, if_neg hup, Nat.cast_zero]

theorem count_eq {u : ℕ} (hu : u < 2 ^ 96) (hu0 : u ≠ 0) : d.count u =
    if roundedCount d.seconds.value u < 2 ^ 63 then roundedCount d.seconds.value u else 0 := by
  rcases truncate_div?_unit (a := d.seconds.abs) hu hu0
    (by rw [Decimal.value_abs]; exact abs_nonneg _) with ⟨q, hq, htrunc⟩
  rw [count, hq]
  dsimp only
  rw [htrunc, Decimal.value_abs, roundedCount_abs, Int.natAbs_natCast]
  apply if_congr _ rfl rfl
  rw [fits_iff]
  omega

theorem value_of_isLength {r : Decimal} {n k : ℕ} (h : r.IsLength n k) : r.value = n / 10 ^ k := by
  have hpow : (10 : ℚ) ^ k = 10 ^ r.scale * 10 ^ (k - r.scale) := by
    rw [← pow_add, Nat.add_sub_cancel' h.scale_le]
  rw [Decimal.value_eq, h.positive, ← h.value, hpow]
  push_cast
  rw [mul_div_mul_right _ _ (by positivity)]
  simp [Decimal.factor]

theorem value_of_isNegative {r : Decimal} (h : IsNegative r) : r.value < 0 := by
  have hc : (0 : ℚ) < r.coefficient := by exact_mod_cast Nat.pos_of_ne_zero h.2
  rw [Decimal.value_eq, h.1, Decimal.factor, if_pos rfl, neg_one_mul, neg_lt_zero]
  positivity

/-- The seconds are what the minutes leave, or they are below zero if the minutes are rounded up. -/
theorem secondsPart_cases :
    ¬ RoundsUp (d.seconds.value / 60) ∧
        d.secondsPart.value = |d.seconds.value| - 60 * ⌊|d.seconds.value| / 60⌋₊ ∨
      RoundsUp (d.seconds.value / 60) ∧ d.secondsPart.value < 0 := by
  rcases truncate_div?_unit (a := d.seconds.abs) (u := 60) (by decide) (by decide)
    (by rw [Decimal.value_abs]; exact abs_nonneg _) with ⟨q, hq, htrunc⟩
  rw [Decimal.value_abs, roundedCount_abs, roundedCount] at htrunc
  have hfst : (splitAtUnit d.seconds.abs 60).1 = q.truncate := by
    rw [splitAtUnit, hq, Option.getD_some]
  have hx : |d.seconds.value| = (d.seconds.coefficient : ℚ) / (10 ^ d.seconds.scale : ℕ) := by
    rw [← Decimal.value_abs, Decimal.value_eq]
    simp [Decimal.factor, Decimal.abs]
  have hfloor : ⌊|d.seconds.value| / 60⌋₊ =
      d.seconds.coefficient / (60 * 10 ^ d.seconds.scale) := by
    rw [hx, div_div, ← Nat.floor_div_eq_div (K := ℚ)]
    push_cast
    rw [mul_comm]
  have hfloor' : ⌊|d.seconds.value| / (60 : ℕ)⌋₊ =
      d.seconds.coefficient / (60 * 10 ^ d.seconds.scale) := by exact_mod_cast hfloor
  rw [htrunc, hfloor', Nat.cast_ofNat] at hfst
  rcases splitAtUnit_spec (a := d.seconds.abs) rfl (u := 60) (by decide) (by decide) (by decide) rfl
    with ⟨hcount, hrest⟩ | ⟨hcount, hrest, -⟩
  · left
    rw [hcount] at hfst
    have hup : ¬ RoundsUp (d.seconds.value / 60) := by
      intro hup
      rw [if_pos hup] at hfst
      exact (Nat.lt_succ_self _).ne (Int.natCast_inj.mp hfst)
    refine ⟨hup, ?_⟩
    -- the remainder at the scale of the length is what is left of its units
    have hsplit := Nat.div_add_mod d.seconds.coefficient (60 * 10 ^ d.seconds.scale)
    have hsplit' : (d.seconds.coefficient : ℚ) = 60 * 10 ^ d.seconds.scale *
        (d.seconds.coefficient / (60 * 10 ^ d.seconds.scale) : ℕ) +
        (d.seconds.coefficient % (60 * 10 ^ d.seconds.scale) : ℕ) := by exact_mod_cast hsplit.symm
    rw [secondsPart, value_of_isLength hrest, hfloor, hx]
    show ((d.seconds.coefficient % (60 * 10 ^ d.seconds.scale) : ℕ) : ℚ) / 10 ^ d.seconds.scale = _
    rw [eq_sub_iff_add_eq, eq_div_iff (by positivity), hsplit']
    push_cast
    field_simp
    ring
  · right
    rw [hcount] at hfst
    refine ⟨?_, value_of_isNegative hrest⟩
    by_contra hup
    rw [if_neg hup] at hfst
    exact (Nat.lt_succ_self _).ne' (Int.natCast_inj.mp hfst)

theorem negative_iff : d.negative = true ↔ d.seconds.value < 0 := by
  have hpow : (0 : ℚ) < 10 ^ d.seconds.scale := by positivity
  rw [negative, Bool.and_eq_true, Bool.not_eq_true', Decimal.value_eq, Decimal.isZero,
    beq_eq_false_iff_ne]
  cases d.seconds.negative with
  | false =>
    refine iff_of_false (fun h => Bool.false_ne_true h.1) (not_lt.mpr ?_)
    simp only [Decimal.factor, Bool.false_eq_true, if_false, one_mul]
    positivity
  | true =>
    simp only [Decimal.factor, if_true, neg_one_mul, neg_lt_zero, true_and, div_pos_iff_of_pos_right
      hpow, Nat.cast_pos, Nat.pos_iff_ne_zero]

/-- The components make up the length if all counters are right. -/
theorem recomposes_abs_iff :
    Recomposes |d.seconds.value| d.days d.hours d.minutes d.secondsPart.value ↔
      ¬ RoundsUp (d.seconds.value / 60) ∧ IsCounted d.seconds.value 86400 0 ∧
        IsCounted d.seconds.value 3600 24 ∧ IsCounted d.seconds.value 60 60 := by
  have hdays := isCounted_iff (x := d.seconds.value) (u := 86400) (w := 0) (by decide)
  have hhours := isCounted_iff (x := d.seconds.value) (u := 3600) (w := 24) (by decide)
  have hminutes := isCounted_iff (x := d.seconds.value) (u := 60) (w := 60) (by decide)
  rw [Nat.mod_zero, Nat.mod_zero, Nat.cast_ofNat] at hdays
  rw [Nat.cast_ofNat] at hhours hminutes
  rw [recomposes_iff (abs_nonneg _), days, hours, minutes, d.count_eq (by decide) (by decide),
    d.count_eq (by decide) (by decide), d.count_eq (by decide) (by decide), hdays, hhours, hminutes]
  have hseconds : d.secondsPart.value = |d.seconds.value| - 60 * ⌊|d.seconds.value| / 60⌋₊ ↔
      ¬ RoundsUp (d.seconds.value / 60) := by
    rcases d.secondsPart_cases with ⟨hup, hvalue⟩ | ⟨hup, hneg⟩
    · exact iff_of_true hvalue hup
    · refine iff_of_false (fun hvalue => ?_) (not_not.mpr hup)
      have hle := Nat.floor_le
        (div_nonneg (abs_nonneg d.seconds.value) (by norm_num : (0 : ℚ) ≤ 60))
      rw [le_div_iff₀ (by norm_num)] at hle
      linarith
  rw [hseconds]
  tauto

theorem seconds_ne_zero_of_count {u : ℕ} (hu : u < 2 ^ 96) (hu0 : u ≠ 0) (h : d.count u ≠ 0) :
    d.seconds.value ≠ 0 := by
  rw [d.count_eq hu hu0] at h
  apply pos_of_roundedCount (u := u)
  intro h0
  rw [h0, ite_self] at h
  exact h rfl

end DayTimeDuration

namespace YearMonthDuration

variable {d : YearMonthDuration}

/-- Only the least number of months is one that 64 bits do not hold without its sign. -/
theorem natAbs_lt_iff : d.months.natAbs < 2 ^ 63 ↔ d.months ≠ -2 ^ 63 := by
  have hbounds := fits_iff.mp d.months_fits
  omega

theorem year_eq (h : d.months.natAbs < 2 ^ 63) : d.year = (d.months.natAbs / 12 : ℕ) := by
  rw [year, magnitude_eq h]
  rfl

theorem month_eq (h : d.months.natAbs < 2 ^ 63) : d.month = (d.months.natAbs % 12 : ℕ) := by
  rw [month, magnitude_eq h]
  rfl

theorem abs_month_le (d : YearMonthDuration) : |d.month| ≤ 11 := by
  have hlt := Int.tmod_lt_of_pos d.magnitude (b := 12) (by decide)
  have hgt := Int.lt_tmod_of_pos d.magnitude (b := 12) (by decide)
  rw [month, abs_le]
  omega

end YearMonthDuration

/-! ## 3. The functions -/

namespace Library

variable {args : List Sequence} {m : YearMonthDuration} {t : DayTimeDuration}

theorem monthsComponent_eq (h : durationParts? args = some (m, t)) (call : Call)
    (f : YearMonthDuration → ℤ) : monthsComponent f call args =
      .ok [.integer (if m.negative then -f m else f m)] := by
  show Except.ok ((durationParts? args).map _).toList = _
  rw [h]
  rfl

theorem secondsComponent_eq (h : durationParts? args = some (m, t)) (call : Call)
    (f : DayTimeDuration → ℕ) : secondsComponent f call args =
      .ok [.integer (if t.negative then -(f t : ℤ) else f t)] := by
  show Except.ok ((durationParts? args).map _).toList = _
  rw [h]
  rfl

theorem secondsFromDuration_eq (h : durationParts? args = some (m, t)) (call : Call) :
    secondsFromDuration call args =
      .ok [.atomic (.decimal (if t.negative then t.secondsPart.neg else t.secondsPart))] := by
  show Except.ok ((durationParts? args).map _).toList = _
  rw [h]
  rfl

theorem secondsComponent_of_count (h : durationParts? args = some (m, t)) {call : Call}
    {f : DayTimeDuration → ℕ} {negative : Bool} {n : ℕ} (hnegative : t.negative = negative)
    (hn : f t = n) :
    secondsComponent f call args = .ok [.integer (if negative then -(n : ℤ) else n)] := by
  rw [secondsComponent_eq h, hnegative, hn]

theorem secondsFromDuration_of_secondsPart (h : durationParts? args = some (m, t)) {call : Call}
    {negative : Bool} {d : Decimal} (hnegative : t.negative = negative) (hd : t.secondsPart = d) :
    secondsFromDuration call args = .ok [.atomic (.decimal (if negative then d.neg else d))] := by
  rw [secondsFromDuration_eq h, hnegative, hd]

/-- A component has the sign that its flag says. -/
theorem hasSignOf_component {x : ℚ} {negative : Bool} (hsign : negative = true ↔ x < 0) {c : ℕ}
    (hc : c ≠ 0 → x ≠ 0) : HasSignOf x (if negative then -(c : ℤ) else c : ℤ) := by
  rcases Nat.eq_zero_or_pos c with rfl | hpos
  · left
    simp
  · right
    have hc' : (0 : ℚ) < c := by exact_mod_cast hpos
    cases negative with
    | true =>
      rw [if_pos rfl, Int.cast_neg, Int.cast_natCast, sign_neg (neg_lt_zero.mpr hc'),
        sign_neg (hsign.mp rfl)]
    | false =>
      have hx : 0 ≤ x := not_lt.mp (mt hsign.mpr Bool.false_ne_true)
      rw [if_neg Bool.false_ne_true, Int.cast_natCast, sign_pos hc',
        sign_pos (lt_of_le_of_ne hx (hc hpos.ne').symm)]

theorem abs_component (negative : Bool) (c : ℕ) :
    |(if negative then -(c : ℤ) else c : ℤ)| = c := by
  cases negative <;> simp

/-- The years and months of a duration are what its total of months is made of.  Of the least total,
which has no counterpart above zero, they make up the opposite. -/
theorem months_recompose_iff (h : durationParts? args = some (m, t)) (call : Call) :
    ∃ years months : ℤ, yearsFromDuration call args = .ok [.integer years] ∧
      monthsFromDuration call args = .ok [.integer months] ∧ |months| ≤ 11 ∧
      (years * 12 + months = m.months ∧ HasSignOf m.months years ∧ HasSignOf m.months months ↔
        m.months ≠ -2 ^ 63) := by
  refine ⟨_, _, monthsComponent_eq h call _, monthsComponent_eq h call _, ?_, ?_⟩
  · have hle := m.abs_month_le
    split
    · rwa [abs_neg]
    · exact hle
  rw [← YearMonthDuration.natAbs_lt_iff]
  constructor
  · rintro ⟨hsum, -⟩
    rw [YearMonthDuration.natAbs_lt_iff]
    intro hleast
    obtain rfl : m = .ofMonths (-2 ^ 63) := by
      rw [← m.ofMonths_months, hleast]
    exact absurd hsum (by decide)
  · intro hlt
    have hsign : m.negative = true ↔ (m.months : ℚ) < 0 := by
      rw [YearMonthDuration.negative, decide_eq_true_eq]
      exact_mod_cast Iff.rfl
    have hcast : (m.months : ℚ) ≠ 0 ↔ m.months ≠ 0 := by exact_mod_cast Iff.rfl
    rw [YearMonthDuration.year_eq hlt, YearMonthDuration.month_eq hlt]
    refine ⟨?_, ?_, ?_⟩
    · rw [YearMonthDuration.negative]
      by_cases hneg : m.months < 0
      · rw [decide_eq_true hneg, if_pos rfl, if_pos rfl]
        omega
      · rw [decide_eq_false hneg, if_neg Bool.false_ne_true, if_neg Bool.false_ne_true]
        omega
    · apply hasSignOf_component hsign
      rw [hcast]
      omega
    · apply hasSignOf_component hsign
      rw [hcast]
      omega

/-- No text stands for the least total of months. -/
theorem months_ne_of_parse {lexical : String} {d : Duration} (h : Duration.parse lexical = .ok d) :
    d.months ≠ -2 ^ 63 :=
  YearMonthDuration.natAbs_lt_iff.mp (Duration.isNormal_of_parse h).months_lt

/-- The components of every duration have their range.  Those of the months make up the months, with
their sign, unless these are the least number of months, which no text stands for.  The others have
the sign of the seconds, and make them up if and only if all counters are right; and the seconds
have the other sign if the minutes are rounded up. -/
theorem components_recompose_iff (h : durationParts? args = some (m, t)) (call : Call) :
    (∃ years months : ℤ, yearsFromDuration call args = .ok [.integer years] ∧
      monthsFromDuration call args = .ok [.integer months] ∧ |months| ≤ 11 ∧
      (years * 12 + months = m.months ∧ HasSignOf m.months years ∧ HasSignOf m.months months ↔
        m.months ≠ -2 ^ 63)) ∧
    (∀ lexical d, Duration.parse lexical = .ok d → d.months ≠ -2 ^ 63) ∧
    ∃ (days hours minutes : ℤ) (seconds : Decimal),
      daysFromDuration call args = .ok [.integer days] ∧
      hoursFromDuration call args = .ok [.integer hours] ∧
      minutesFromDuration call args = .ok [.integer minutes] ∧
      secondsFromDuration call args = .ok [.atomic (.decimal seconds)] ∧
      |hours| ≤ 23 ∧ |minutes| ≤ 59 ∧ HasSignOf t.seconds.value days ∧
      HasSignOf t.seconds.value hours ∧ HasSignOf t.seconds.value minutes ∧
      (RoundsUp (t.seconds.value / 60) → seconds.value * t.seconds.value < 0) ∧
      (Recomposes t.seconds.value days hours minutes seconds.value ↔
        ¬ RoundsUp (t.seconds.value / 60) ∧ IsCounted t.seconds.value 86400 0 ∧
        IsCounted t.seconds.value 3600 24 ∧ IsCounted t.seconds.value 60 60) := by
  have hsign := t.negative_iff
  refine ⟨months_recompose_iff h call, fun _ _ => months_ne_of_parse, _, _, _, _,
    secondsComponent_eq h call _, secondsComponent_eq h call _, secondsComponent_eq h call _,
    secondsFromDuration_eq h call, ?_, ?_, ?_, ?_, ?_, ?_, ?_⟩
  · rw [abs_component, DayTimeDuration.hours]
    omega
  · rw [abs_component, DayTimeDuration.minutes]
    omega
  · exact hasSignOf_component hsign (t.seconds_ne_zero_of_count (by decide) (by decide))
  · apply hasSignOf_component hsign
    intro hc
    apply t.seconds_ne_zero_of_count (u := 3600) (by decide) (by decide)
    rintro h0
    rw [DayTimeDuration.hours, h0] at hc
    exact hc rfl
  · apply hasSignOf_component hsign
    intro hc
    apply t.seconds_ne_zero_of_count (u := 60) (by decide) (by decide)
    rintro h0
    rw [DayTimeDuration.minutes, h0] at hc
    exact hc rfl
  · intro hup
    rcases t.secondsPart_cases with ⟨hup', -⟩ | ⟨-, hneg⟩
    · exact absurd hup hup'
    · cases hnegative : t.negative with
      | true =>
        rw [if_pos rfl, Decimal.value_neg, neg_mul, neg_lt_zero]
        exact mul_pos_of_neg_of_neg hneg (hsign.mp hnegative)
      | false =>
        rw [if_neg Bool.false_ne_true]
        have hx : 0 ≤ t.seconds.value := by
          rw [← not_lt, ← hsign, hnegative]
          exact Bool.false_ne_true
        apply mul_neg_of_neg_of_pos hneg (lt_of_le_of_ne hx fun h0 => ?_)
        rw [← h0, zero_div] at hup
        exact not_roundsUp_zero hup
  · rw [← t.recomposes_abs_iff]
    cases hnegative : t.negative with
    | true =>
      have hx := hsign.mp hnegative
      rw [if_pos rfl, if_pos rfl, if_pos rfl, if_pos rfl, Decimal.value_neg, abs_of_neg hx,
        ← Recomposes.neg_iff, neg_neg, neg_neg, neg_neg, neg_neg]
    | false =>
      have hx : 0 ≤ t.seconds.value := by
        rw [← not_lt, ← hsign, hnegative]
        exact Bool.false_ne_true
      rw [if_neg Bool.false_ne_true, if_neg Bool.false_ne_true, if_neg Bool.false_ne_true,
        if_neg Bool.false_ne_true, abs_of_nonneg hx]

/-- A call of a function for the components of a duration. -/
def componentCall : Call :=
  ⟨.function "days-from-duration", .initial .empty,
    .initial ⟨⟨.epoch, .midnight⟩, some .utc⟩ .utc, none, .codepoint⟩

/-- The components of a duration are -1 day, -2 hours, -3 minutes and -4.5 seconds. -/
theorem components_recompose_iff_sample :
    let args : List Sequence := [[.atomic (.duration ⟨.ofMonths (-14), sampleLength.neg⟩)]]
    Duration.parse "-P1Y2M1DT2H3M4.5S" = .ok ⟨.ofMonths (-14), sampleLength.neg⟩ ∧
      durationParts? args = some (.ofMonths (-14), ⟨sampleLength.neg⟩) ∧
      daysFromDuration componentCall args = .ok [.integer (-1)] ∧
      hoursFromDuration componentCall args = .ok [.integer (-2)] ∧
      minutesFromDuration componentCall args = .ok [.integer (-3)] ∧
      secondsFromDuration componentCall args =
        .ok [.atomic (.decimal ⟨true, 45, 1, by decide, by decide⟩)] ∧
      Recomposes (-93784.5) (-1) (-2) (-3) (-4.5) := by
  intro args
  have hparts : durationParts? args = some (.ofMonths (-14), ⟨sampleLength.neg⟩) := rfl
  have hvalue : sampleLength.neg.value = -93784.5 := by
    rw [Decimal.value_neg]
    norm_num [Decimal.value_eq, Decimal.factor, sampleLength]
  have hseconds : (⟨true, 45, 1, by decide, by decide⟩ : Decimal).value = -4.5 := by
    norm_num [Decimal.value_eq, Decimal.factor]
  rcases (components_recompose_iff hparts componentCall).2.2 with
    ⟨days, hours, minutes, seconds, hd, hh, hm, hs, -, -, -, -, -, -, hiff⟩
  have hnegative : (⟨sampleLength.neg⟩ : DayTimeDuration).negative = true := by decide +kernel
  have hrest : (⟨sampleLength.neg⟩ : DayTimeDuration).secondsPart =
      ⟨false, 45, 1, by decide, by decide⟩ := by decide +kernel
  have hd' : daysFromDuration componentCall args = .ok [.integer (-1)] :=
    secondsComponent_of_count hparts hnegative (by decide +kernel : _ = 1)
  have hh' : hoursFromDuration componentCall args = .ok [.integer (-2)] :=
    secondsComponent_of_count hparts hnegative (by decide +kernel : _ = 2)
  have hm' : minutesFromDuration componentCall args = .ok [.integer (-3)] :=
    secondsComponent_of_count hparts hnegative (by decide +kernel : _ = 3)
  have hs' : secondsFromDuration componentCall args =
      .ok [.atomic (.decimal ⟨true, 45, 1, by decide, by decide⟩)] :=
    secondsFromDuration_of_secondsPart hparts hnegative hrest
  refine ⟨rfl, hparts, hd', hh', hm', hs', ?_⟩
  rw [hd] at hd'
  rw [hh] at hh'
  rw [hm] at hm'
  rw [hs] at hs'
  obtain rfl : days = -1 := by cases hd'; rfl
  obtain rfl : hours = -2 := by cases hh'; rfl
  obtain rfl : minutes = -3 := by cases hm'; rfl
  obtain rfl : seconds = ⟨true, 45, 1, by decide, by decide⟩ := by cases hs'; rfl
  dsimp only at hiff
  rw [hvalue, hseconds] at hiff
  have hday := isCounted_of_few_digits (x := -93784.5) (u := 86400) (n := 937845) (k := 864000)
    (by norm_num) (by decide) (by decide)
  have hhour := isCounted_of_few_digits (x := -93784.5) (u := 3600) (n := 937845) (k := 36000)
    (by norm_num) (by decide) (by decide)
  have hminute := isCounted_of_few_digits (x := -93784.5) (u := 60) (n := 937845) (k := 600)
    (by norm_num) (by decide) (by decide)
  exact hiff.mpr ⟨by exact_mod_cast hminute.1, hday.2 0, hhour.2 24, hminute.2 60⟩

/-- The minutes of a length just below a minute are rounded up, which leaves the seconds with the
other sign.  The days, hours and minutes of the longest length are too many for their counters. -/
theorem components_misfit_of_many_digits :
    let below : List Sequence := [[.atomic (.dayTimeDuration belowMinute)]]
    let long : List Sequence := [[.atomic (.dayTimeDuration longest)]]
    (DayTimeDuration.parse "PT59.999999999999999999999999999S" = .ok belowMinute ∧
      minutesFromDuration componentCall below = .ok [.integer 1] ∧
      secondsFromDuration componentCall below =
        .ok [.atomic (.decimal ⟨true, 1, 27, by decide, by decide⟩)] ∧
      ¬ HasSignOf belowMinute.seconds.value
        (⟨true, 1, 27, by decide, by decide⟩ : Decimal).value) ∧
    DayTimeDuration.parse "PT79228162514264337593543950335S" = .ok longest ∧
      daysFromDuration componentCall long = .ok [.integer 0] ∧
      hoursFromDuration componentCall long = .ok [.integer 0] ∧
      minutesFromDuration componentCall long = .ok [.integer 0] ∧
      secondsFromDuration componentCall long =
        .ok [.atomic (.decimal ⟨false, 15, 0, by decide, by decide⟩)] ∧
      ¬ Recomposes longest.seconds.value 0 0 0 15 := by
  intro below long
  have hbelow : durationParts? below = some (.ofMonths 0, belowMinute) := rfl
  have hlong : durationParts? long = some (.ofMonths 0, longest) := rfl
  have hpositive : belowMinute.negative = false := by decide +kernel
  have hpositive' : longest.negative = false := by decide +kernel
  have hrounded : belowMinute.secondsPart = ⟨true, 1, 27, by decide, by decide⟩ := by decide +kernel
  have hrest : longest.secondsPart = ⟨false, 15, 0, by decide, by decide⟩ := by decide +kernel
  refine ⟨⟨rfl, secondsComponent_of_count hbelow hpositive (by decide +kernel : _ = 1),
      secondsFromDuration_of_secondsPart hbelow hpositive hrounded, ?_⟩,
    rfl, secondsComponent_of_count hlong hpositive' (by decide +kernel : _ = 0),
    secondsComponent_of_count hlong hpositive' (by decide +kernel : _ = 0),
    secondsComponent_of_count hlong hpositive' (by decide +kernel : _ = 0),
    secondsFromDuration_of_secondsPart hlong hpositive' hrest, ?_⟩
  · intro h
    have hpos : 0 ≤ belowMinute.seconds.value := by
      norm_num [Decimal.value_eq, Decimal.factor, belowMinute]
    have hneg := h.nonneg hpos
    norm_num [Decimal.value_eq, Decimal.factor] at hneg
  · intro h
    have hsum := h.sum
    norm_num [Decimal.value_eq, Decimal.factor, longest, Decimal.ofNat] at hsum

end Library

end XPath
