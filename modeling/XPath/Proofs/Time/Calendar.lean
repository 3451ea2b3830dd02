import Mathlib.Tactic.IntervalCases
import XPath.Time.Calendar

/-!
# Days and dates

The number of a date and the date of a number are inverse to each other.  Both count years from
March, in eras of four hundred years, so that the leap day is the last day of a year: the proof goes
through the number of a year in its era and the number of a day in that year.
-/

namespace XPath.Calendar

/-! ## 1. Years that begin in March -/

/-- The days of an era before its year `y`. -/
def yearStart (y : Int) : Int := 365 * y + y / 4 - y / 100

/-- The year of an era to which its day `e` belongs. -/
def yearOfDay (e : Int) : Int := (e - e / 1460 + e / 36524 - e / 146096) / 365

theorem yearOfDay_spec {e : Int} (h0 : 0 ≤ e) (h1 : e < 146097) :
    (0 ≤ yearOfDay e ∧ yearOfDay e < 400) ∧
      (yearStart (yearOfDay e) ≤ e ∧ e ≤ yearStart (yearOfDay e) + 365) ∧
      (e = yearStart (yearOfDay e) + 365 → isLeapYear (yearOfDay e + 1)) := by
  simp only [yearStart, isLeapYear, Bool.and_eq_true, Bool.or_eq_true, beq_iff_eq, bne_iff_ne]
  obtain ⟨y, hy⟩ : ∃ y, y = yearOfDay e := ⟨_, rfl⟩
  rw [← hy]
  unfold yearOfDay at hy
  obtain ⟨b, hb⟩ : ∃ b, b = e / 36524 := ⟨_, rfl⟩
  rw [← hb] at hy
  obtain ⟨k, hk⟩ : ∃ k, k = y - 4 * (e / 1460) := ⟨_, rfl⟩
  -- there are few centuries, and few places of a year among four; in each case all is linear
  have hb0 : 0 ≤ b := by omega
  have hb4 : b ≤ 4 := by omega
  have hk0 : -1 ≤ k := by omega
  have hk3 : k ≤ 3 := by omega
  interval_cases b <;> interval_cases k <;> omega

theorem yearStart_lt {x y : Int} (hx : 0 ≤ x) (h : x < y) (hy : y < 400) :
    yearStart x + 365 ≤ yearStart y ∧
      (isLeapYear (x + 1) → yearStart x + 365 < yearStart y) := by
  simp only [yearStart, isLeapYear, Bool.and_eq_true, Bool.or_eq_true, beq_iff_eq, bne_iff_ne]
  constructor
  · omega
  · intro hleap
    omega

theorem yearOfDay_eq {y k e : Int} (hy : 0 ≤ y ∧ y < 400) (hk : 0 ≤ k ∧ k ≤ 365)
    (hleap : k = 365 → isLeapYear (y + 1)) (he : e = yearStart y + k) :
    (0 ≤ e ∧ e < 146097) ∧ yearOfDay e = y := by
  have hbounds : 0 ≤ e ∧ e < 146097 := by
    unfold yearStart at he
    omega
  obtain ⟨hx, hk', hleap'⟩ := yearOfDay_spec hbounds.1 hbounds.2
  refine ⟨hbounds, ?_⟩
  -- day `e` is in both years; were they different, it would be the leap day of the earlier one and
  -- yet before the later one
  obtain hlt | heq | hgt := Int.lt_trichotomy (yearOfDay e) y
  · have := yearStart_lt hx.1 hlt hy.2
    by_cases h : e = yearStart (yearOfDay e) + 365
    · have := this.2 (hleap' h)
      omega
    · omega
  · exact heq
  · have := yearStart_lt hy.1 hgt hx.2
    by_cases h : k = 365
    · have := this.2 (hleap h)
      omega
    · omega

theorem isLeapYear_add (y era : Int) : isLeapYear (y + era * 400) = isLeapYear y := by
  have h4 : (y + era * 400) % 4 = y % 4 := by omega
  have h100 : (y + era * 400) % 100 = y % 100 := by omega
  have h400 : (y + era * 400) % 400 = y % 400 := by omega
  rw [isLeapYear, h4, h100, h400, isLeapYear]

/-! ## 2. From days to dates -/

/-- No month is longer than in a leap year, such as 1972. -/
theorem daysInMonth_bounds (y : Int) (m : Nat) : 1 ≤ daysInMonth y m ∧
    daysInMonth y m ≤ daysInMonth 1972 m ∧ daysInMonth 1972 m ≤ 31 := by
  unfold daysInMonth
  split
  · split <;> decide
  all_goals decide

/-- Whether a year has the day `d` of the month `m`. -/
def IsDate (y : Int) (m d : Nat) : Prop := (1 ≤ m ∧ m ≤ 12) ∧ 1 ≤ d ∧ d ≤ daysInMonth y m

/-- The date of day `k` of the year `y` of an era. -/
def dateOfYearDay (y k era : Int) : Int × Nat × Nat :=
  let month' := (5 * k + 2) / 153
  let month := if month' < 10 then month' + 3 else month' - 9
  (y + era * 400 + (if month ≤ 2 then 1 else 0), month.toNat,
    (k - (153 * month' + 2) / 5 + 1).toNat)

theorem dateOfDay_eq (n : Int) : dateOfDay n =
    dateOfYearDay (yearOfDay ((n + 719468) % 146097))
      ((n + 719468) % 146097 - yearStart (yearOfDay ((n + 719468) % 146097)))
      ((n + 719468) / 146097) := rfl

theorem dateOfYearDay_spec {y k era : Int} (hk : 0 ≤ k ∧ k ≤ 365) (hy : 0 ≤ y ∧ y < 400)
    (hleap : k = 365 → isLeapYear (y + 1)) {p : Int × Nat × Nat} (hp : dateOfYearDay y k era = p) :
    IsDate p.1 p.2.1 p.2.2 ∧
      dayNumber p.1 p.2.1 p.2.2 = era * 146097 + (yearStart y + k) - 719468 := by
  subst hp
  obtain ⟨m, hm⟩ : ∃ m, m = (5 * k + 2) / 153 := ⟨_, rfl⟩
  have hm0 : 0 ≤ m := by omega
  have hm11 : m ≤ 11 := by omega
  simp only [dateOfYearDay, ← hm, IsDate, dayNumber, yearStart]
  interval_cases m
  case «11» =>
    -- February has a day 29 only as the last day of a year that begins in March
    have hleap' : k = 365 → isLeapYear (y + era * 400 + 1) := by
      rw [show y + era * 400 + 1 = (y + 1) + era * 400 by omega, isLeapYear_add]
      exact hleap
    by_cases hlast : k = 365
    · simp [daysInMonth, hleap' hlast]
      omega
    · simp [daysInMonth]
      split <;> omega
  all_goals
    simp [daysInMonth]
    omega

/-- The date of a day is a date, and its number is the number of the day. -/
theorem dateOfDay_spec {n : Int} {p : Int × Nat × Nat} (hp : dateOfDay n = p) :
    IsDate p.1 p.2.1 p.2.2 ∧ dayNumber p.1 p.2.1 p.2.2 = n := by
  obtain ⟨hy, hk, hleap⟩ := yearOfDay_spec (e := (n + 719468) % 146097) (by omega) (by omega)
  rw [dateOfDay_eq] at hp
  obtain ⟨hdate, hnumber⟩ := dateOfYearDay_spec (by omega) hy (fun h => hleap (by omega)) hp
  refine ⟨hdate, ?_⟩
  rw [hnumber]
  omega

/-! ## 3. From dates to days -/

/-- The place of a date in a year that begins in March. -/
def dayOfYear (m d : Nat) : Int := (153 * (if m > 2 then m - 3 else m + 9) + 2) / 5 + d - 1

theorem dayOfYear_spec {y : Int} {m d : Nat} (h : IsDate y m d) :
    (0 ≤ dayOfYear m d ∧ dayOfYear m d ≤ 365) ∧
      (dayOfYear m d = 365 → m = 2 ∧ isLeapYear y) ∧
      (5 * dayOfYear m d + 2) / 153 = if m ≤ 2 then (m : Int) + 9 else m - 3 := by
  obtain ⟨⟨hm1, hm12⟩, hd1, hd⟩ := h
  unfold dayOfYear
  interval_cases m
  case «2» =>
    simp [daysInMonth] at hd ⊢
    split at hd <;> simp [*] <;> omega
  all_goals
    simp [daysInMonth] at hd ⊢
    omega

theorem dateOfYearDay_dayOfYear {y era r : Int} {m d : Nat} (h : IsDate y m d)
    (hr : era * 400 + r = if m ≤ 2 then y - 1 else y) :
    dateOfYearDay r (dayOfYear m d) era = (y, m, d) := by
  obtain ⟨-, -, hmonth⟩ := dayOfYear_spec h
  obtain ⟨⟨hm1, hm12⟩, hd1, hd⟩ := h
  simp only [dateOfYearDay, hmonth]
  simp only [dayOfYear]
  interval_cases m <;> simp at hr ⊢ <;> omega

/-- The number of a date counts the eras before it, then the days of the last one. -/
theorem dayNumber_eq (y : Int) (m d : Nat) : ∃ era r, (0 ≤ r ∧ r < 400) ∧
    era * 400 + r = (if m ≤ 2 then y - 1 else y) ∧
      dayNumber y m d = era * 146097 + (yearStart r + dayOfYear m d) - 719468 := by
  refine ⟨(if m ≤ 2 then y - 1 else y) / 400, (if m ≤ 2 then y - 1 else y) % 400, by omega,
    by omega, ?_⟩
  simp only [dayNumber, yearStart, dayOfYear]
  omega

/-- The number of a date is that of a day with this date. -/
theorem dateOfDay_dayNumber {y : Int} {m d : Nat} (h : IsDate y m d) :
    dateOfDay (dayNumber y m d) = (y, m, d) := by
  obtain ⟨hk, hlast, -⟩ := dayOfYear_spec h
  obtain ⟨era, r, hr, hyear, hnumber⟩ := dayNumber_eq y m d
  have hleap : dayOfYear m d = 365 → isLeapYear (r + 1) := by
    intro h365
    obtain ⟨rfl, hy⟩ := hlast h365
    rw [← isLeapYear_add _ era, show r + 1 + era * 400 = y by simp at hyear; omega]
    exact hy
  obtain ⟨he, hyearOfDay⟩ := yearOfDay_eq hr hk hleap rfl
  have hday : (dayNumber y m d + 719468) % 146097 = yearStart r + dayOfYear m d := by omega
  have hera : (dayNumber y m d + 719468) / 146097 = era := by omega
  rw [dateOfDay_eq, hday, hera, hyearOfDay, add_sub_cancel_left]
  exact dateOfYearDay_dayOfYear h hyear

/-! ## 4. The supported days -/

namespace Day

theorem isDate (x : Day) : IsDate x.year x.month x.dayOfMonth := (dateOfDay_spec rfl).1

theorem dayNumber_date (x : Day) : dayNumber x.year x.month x.dayOfMonth = x.number :=
  (dateOfDay_spec rfl).2

theorem year_natAbs_lt (x : Day) : x.year.natAbs < 1000000 := by
  obtain ⟨hk, -, -⟩ := dayOfYear_spec x.isDate
  obtain ⟨era, r, hr, hyear, hnumber⟩ := dayNumber_eq x.year x.month x.dayOfMonth
  have hrange := x.inRange
  rw [x.dayNumber_date] at hnumber
  simp only [minDay, maxDay, yearStart] at *
  omega

/-- The first supported day begins the first supported year. -/
theorem minDay_le_iff {y : Int} {m d : Nat} (hd : IsDate y m d) :
    minDay ≤ dayNumber y m d ↔ minYear ≤ y := by
  obtain ⟨hk, -, hmonth⟩ := dayOfYear_spec hd
  obtain ⟨era, r, hr, hyear, hnumber⟩ := dayNumber_eq y m d
  have hm := hd.1
  simp only [minDay, minYear, yearStart] at *
  -- the era of the first year tells earlier from later eras
  obtain hera | rfl | hera : era ≤ -657 ∨ era = -656 ∨ -655 ≤ era := by omega
  · omega
  · omega
  · omega

theorem minYear_le (x : Day) : minYear ≤ x.year := by
  rw [← minDay_le_iff x.isDate, x.dayNumber_date]
  exact x.inRange.1

theorem exists_ofDate? {y : Int} {m d : Nat} (hy : minYear ≤ y) (hd : IsDate y m d)
    (h : dayNumber y m d ≤ maxDay) : ∃ day, ofDate? y m d = some day := by
  have hrange : minDay ≤ dayNumber y m d ∧ dayNumber y m d ≤ maxDay :=
    ⟨(minDay_le_iff hd).mpr hy, h⟩
  obtain ⟨⟨hm1, hm12⟩, hd1, hd'⟩ := hd
  exact ⟨⟨dayNumber y m d, hrange⟩, by simp [ofDate?, hm1, hm12, hd1, hd', ofNumber?, hrange]⟩

theorem dayNumber_mono {y : Int} {m d d' : Nat} (h : d ≤ d') :
    dayNumber y m d ≤ dayNumber y m d' := by
  simp only [dayNumber]
  omega

theorem dayNumber_first_le {y : Int} {m d : Nat} (h : IsDate y m d) :
    dayNumber y 1 1 ≤ dayNumber y m d := by
  obtain ⟨era, r, hr, hyear, hnumber⟩ := dayNumber_eq y m d
  obtain ⟨era', r', hr', hyear', hnumber'⟩ := dayNumber_eq y 1 1
  obtain ⟨⟨hk, -⟩, -, -⟩ := dayOfYear_spec h
  obtain ⟨⟨hm1, hm12⟩, hd1, -⟩ := h
  have hfirst : dayOfYear 1 1 = 306 := by decide
  have hwinter : m ≤ 2 → 306 ≤ dayOfYear m d := by
    intro hm
    rw [dayOfYear, if_neg (by omega)]
    omega
  rw [hfirst] at hnumber'
  simp only [yearStart] at *
  -- from March on, the first day belongs to the year before, perhaps in the era before
  obtain hera | hera : era = era' ∨ era = era' + 1 := by omega
  · omega
  · omega

/-- A day is found by its year, month and day of month, and by no other ones. -/
theorem ofDate?_eq_some {y : Int} {m d : Nat} {x : Day} :
    ofDate? y m d = some x ↔ x.date = (y, m, d) := by
  constructor
  · intro h
    simp only [ofDate?, Bool.and_eq_true, decide_eq_true_eq, Option.ite_none_right_eq_some,
      ofNumber?, Option.dite_none_right_eq_some, Option.some.injEq] at h
    obtain ⟨⟨⟨⟨hm1, hm12⟩, hd1⟩, hd⟩, hrange, rfl⟩ := h
    exact dateOfDay_dayNumber ⟨⟨hm1, hm12⟩, hd1, hd⟩
  · intro h
    obtain ⟨⟨⟨hm1, hm12⟩, hd1, hd⟩, hnumber⟩ := dateOfDay_spec h
    simp [ofDate?, hm1, hm12, hd1, hd, ofNumber?, hnumber, x.inRange]

theorem ofDate?_date (x : Day) : ofDate? x.year x.month x.dayOfMonth = some x :=
  ofDate?_eq_some.mpr rfl

end Day

end XPath.Calendar
