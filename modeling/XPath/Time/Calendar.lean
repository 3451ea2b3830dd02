import XPath.Text.Space

/-!
# The calendar

Days are numbered along the proleptic Gregorian calendar, day 0 being 1970-01-01. Years run from
-262143 to 262142; a year 0 lies between -1 and 1. A local time is a day and the nanoseconds since
its midnight, so that time arithmetic is arithmetic on one whole number.
-/

namespace XPath.Calendar

/-! ## Days and dates -/

/-- Every fourth year is a leap year, every hundredth is not, every four hundredth is. -/
def isLeapYear (y : Int) : Bool :=
  y % 4 == 0 && (y % 100 != 0 || y % 400 == 0)

def daysInMonth (y : Int) (m : Nat) : Nat :=
  match m with
  | 2 => if isLeapYear y then 29 else 28
  | 4 | 6 | 9 | 11 => 30
  | _ => 31

/-- The number of a date. Years are counted from March, so that the leap day is the last day of a
year, in cycles of four hundred years. -/
def dayNumber (y : Int) (m d : Nat) : Int :=
  let y' := if m ≤ 2 then y - 1 else y
  let era := y' / 400
  let yearOfEra := y' % 400
  let dayOfYear : Int := (153 * (if m > 2 then m - 3 else m + 9) + 2) / 5 + d - 1
  era * 146097 + (yearOfEra * 365 + yearOfEra / 4 - yearOfEra / 100 + dayOfYear) - 719468

def dateOfDay (n : Int) : Int × Nat × Nat :=
  let z := n + 719468
  let era := z / 146097
  let dayOfEra := z % 146097
  let yearOfEra := (dayOfEra - dayOfEra / 1460 + dayOfEra / 36524 - dayOfEra / 146096) / 365
  let dayOfYear := dayOfEra - (365 * yearOfEra + yearOfEra / 4 - yearOfEra / 100)
  let month' := (5 * dayOfYear + 2) / 153
  let day := dayOfYear - (153 * month' + 2) / 5 + 1
  let month := if month' < 10 then month' + 3 else month' - 9
  (yearOfEra + era * 400 + (if month ≤ 2 then 1 else 0), month.toNat, day.toNat)

def minYear : Int := -262143

/-- The number of the first day, -262143-01-01. -/
def minDay : Int := -96465292

/-- The number of the last day, 262142-12-31. -/
def maxDay : Int := 95026236

/-- A day of the supported years. -/
structure Day where
  number : Int
  inRange : minDay ≤ number ∧ number ≤ maxDay
  deriving DecidableEq, Repr

namespace Day

def ofNumber? (n : Int) : Option Day :=
  if h : minDay ≤ n ∧ n ≤ maxDay then some ⟨n, h⟩ else none

/-- 1970-01-01. -/
def epoch : Day := ⟨0, by decide⟩

instance : Inhabited Day := ⟨epoch⟩

def ofDate? (y : Int) (m d : Nat) : Option Day :=
  if 1 ≤ m && m ≤ 12 && 1 ≤ d && d ≤ daysInMonth y m then ofNumber? (dayNumber y m d) else none

def date (x : Day) : Int × Nat × Nat := dateOfDay x.number

def year (x : Day) : Int := x.date.1

def month (x : Day) : Nat := x.date.2.1

def dayOfMonth (x : Day) : Nat := x.date.2.2

/-- The day so many months later; where the month has no such day, its last one. -/
def addMonths? (x : Day) (months : Int) : Option Day :=
  let (y, m, d) := x.date
  let total := y * 12 + (m - 1 : Nat) + months
  let y' := total / 12
  let m' := (total % 12).toNat + 1
  ofDate? y' m' (min d (daysInMonth y' m'))

end Day

/-! ## Local times -/

/-- The nanoseconds of a day. -/
def dayLength : Nat := 86400000000000

/-- A time of day: the nanoseconds since midnight. -/
structure Clock where
  nanos : Nat
  nanos_lt : nanos < dayLength
  deriving DecidableEq, Repr

namespace Clock

def midnight : Clock := ⟨0, by decide⟩

/-- The time of day after a number of nanoseconds, around midnight. -/
def wrap (n : Int) : Clock := ⟨(n % dayLength).toNat, by simp only [dayLength]; omega⟩

def hour (c : Clock) : Nat := c.nanos / 3600000000000

def minute (c : Clock) : Nat := c.nanos / 60000000000 % 60

def second (c : Clock) : Nat := c.nanos / 1000000000 % 60

end Clock

structure LocalTime where
  day : Day
  clock : Clock
  deriving DecidableEq, Repr

namespace LocalTime

/-- The nanoseconds since 1970-01-01T00:00:00. -/
def total (t : LocalTime) : Int := t.day.number * dayLength + t.clock.nanos

def ofTotal? (n : Int) : Option LocalTime :=
  (Day.ofNumber? (n / dayLength)).map fun d => ⟨d, Clock.wrap n⟩

def shift? (t : LocalTime) (n : Int) : Option LocalTime := ofTotal? (t.total + n)

def midnight (d : Day) : LocalTime := ⟨d, Clock.midnight⟩

theorem ofTotal?_total (t : LocalTime) : ofTotal? t.total = some t := by
  obtain ⟨⟨n, hn⟩, ⟨k, hk⟩⟩ := t
  have hk' : (k : Int) < dayLength := by exact_mod_cast hk
  have hq : (n * dayLength + k) / (dayLength : Int) = n := by simp only [dayLength] at *; omega
  have hr : ((n * dayLength + k) % (dayLength : Int)).toNat = k := by
    simp only [dayLength] at *; omega
  simp only [ofTotal?, total, Clock.wrap, hq, hr, Day.ofNumber?, dif_pos hn, Option.map_some]

theorem total_of_ofTotal? {n : Int} {t : LocalTime} (h : ofTotal? n = some t) : t.total = n := by
  simp only [ofTotal?, Day.ofNumber?, Option.map_eq_some_iff] at h
  obtain ⟨d, hd, rfl⟩ := h
  split at hd
  · cases hd
    simp only [total, Clock.wrap, dayLength]
    omega
  · cases hd

end LocalTime

end XPath.Calendar
