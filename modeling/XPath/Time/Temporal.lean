import XPath.Time.Calendar
import XPath.Time.Duration

/-!
# Dates and times

xs:dateTime, xs:date and xs:time hold local fields and an optional time zone; the five Gregorian
fragments hold a reference day and an optional time zone. A value without time zone is placed on
the time line by an implicit time zone.
-/

namespace XPath

open XPath.Number XPath.Text XPath.Calendar

def Error.temporalRange : Error := .of .FODT0001 "date/time value out of range"

/-! ## Time zones -/

/-- An offset from universal time, in minutes to the east. -/
structure TimeZone where
  minutes : Int
  deriving DecidableEq, Repr, Inhabited

namespace TimeZone

def utc : TimeZone := ⟨0⟩

/-- The offset of so many minutes, if it is at most fourteen hours. The minutes and the seconds that
they make are kept in 32 bits, so the least number of minutes passes for none. -/
def ofMinutes? (m : Int) : Option TimeZone :=
  if wrap 32 m.natAbs ≤ 840 then some ⟨(wrap 32 (m * 60)).tdiv 60⟩ else none

theorem ofMinutes?_eq {m : Int} (h : fits 32 m = true) :
    ofMinutes? m =
      if m = -(2 ^ 31) then some utc else if m.natAbs ≤ 840 then some ⟨m⟩ else none := by
  by_cases hleast : m = -(2 ^ 31)
  · subst hleast
    rfl
  · have hbounds := fits_iff.mp h
    have hmagnitude : wrap 32 m.natAbs = m.natAbs :=
      wrap_of_fits (by decide) (fits_of_natAbs_lt (by omega))
    rw [ofMinutes?, hmagnitude, if_neg hleast]
    by_cases hm : m.natAbs ≤ 840
    · have hseconds : wrap 32 (m * 60) = m * 60 :=
        wrap_of_fits (by decide) (fits_of_natAbs_lt (by omega))
      rw [if_pos (by omega), if_pos hm, hseconds, Int.mul_tdiv_cancel m (by decide)]
    · rw [if_neg (by omega), if_neg hm]

def nanos (z : TimeZone) : Int := z.minutes * 60000000000

def toDuration (z : TimeZone) : DayTimeDuration :=
  .ofSeconds ((Decimal.ofInt? (z.minutes * 60)).getD .zero)

/-- The offset that a duration gives: a whole number of minutes, at most fourteen hours. -/
def ofDuration (d : DayTimeDuration) : Result TimeZone :=
  let invalid : Error := .of .FODT0003 ("invalid timezone: " ++ d.text)
  match d.seconds.rem? (.ofNat 60), d.seconds.div? (.ofNat 60) with
  | some r, some q =>
    if !r.isZero || !fits 32 q.truncate then .error invalid
    else match ofMinutes? q.truncate with
      | some z => .ok z
      | none => .error invalid
  | _, _ => .error invalid

/-- `Z` for universal time, otherwise sign, hours and minutes. -/
def text (z : TimeZone) : String :=
  if z.minutes == 0 then "Z"
  else (if z.minutes < 0 then "-" else "+") ++ padded 2 (z.minutes.natAbs / 60) ++ ":" ++
    padded 2 (z.minutes.natAbs % 60)

def textOf (z : Option TimeZone) : String := (z.map text).getD ""

end TimeZone

/-! ## Lexical forms -/

namespace Temporal

def twoDigits? : List Char → Option Nat
  | [a, b] => if isDigit a && isDigit b then some (digitsValue [a, b]) else none
  | _ => none

/-- Splits off a final `Z` or `±hh:mm`. Six characters that look like an offset have to be one of at
most fourteen hours. -/
def splitZone? (s : List Char) : Option (List Char × Option TimeZone) :=
  match s.reverse with
  | 'Z' :: r => some (r.reverse, some .utc)
  | m₂ :: m₁ :: ':' :: h₂ :: h₁ :: sign :: r =>
    if sign == '+' || sign == '-' then
      match twoDigits? [h₁, h₂], twoDigits? [m₁, m₂] with
      | some h, some m =>
        if m ≥ 60 || h * 60 + m > 840 then none
        else
          let total : Int := h * 60 + m
          some (r.reverse, some ⟨if sign == '-' then -total else total⟩)
      | _, _ => none
    else some (s, none)
  | _ => some (s, none)

/-- A year: at least four digits, none of a longer one zero in front; there is no year 0. -/
def year? (s : List Char) : Option Int :=
  let (negative, digits) := match s with
    | '-' :: r => (true, r)
    | s => (false, s)
  let n := digitsValue digits
  if digits.length < 4 || !digits.all isDigit then none
  else if digits.length > 4 && digits.head? == some '0' then none
  else if n == 0 || n > 2 ^ 31 then none
  else some (if negative then -(n : Int) else n)

/-- A date `-?yyyy-mm-dd`. -/
def day? (s : List Char) : Option Day := do
  let (negative, rest) := match s with
    | '-' :: r => (true, r)
    | s => (false, s)
  let (y, md) ← splitFirst? '-' rest
  let (m, d) ← splitFirst? '-' md
  let year ← year? (if negative then '-' :: y else y)
  Day.ofDate? year (← twoDigits? m) (← twoDigits? d)

/-- A time of day `hh:mm:ss(.s+)?` in nanoseconds; digits beyond the ninth do not count. Midnight
may be written as the end of the day, `24:00:00`, which the second part of the result says. -/
def nanos? (s : List Char) : Option (Nat × Bool) := do
  let (h, rest) ← splitFirst? ':' s
  let (m, rest) ← splitFirst? ':' rest
  let (sec, fraction) ← match splitFirst? '.' rest with
    | some (sec, f) => if f.isEmpty || !f.all isDigit then none else some (sec, f)
    | none => some (rest, [])
  let h ← twoDigits? h
  let m ← twoDigits? m
  let sec ← twoDigits? sec
  let kept := fraction.take 9
  let nano := digitsValue kept * 10 ^ (9 - kept.length)
  if h == 24 then
    if m == 0 && sec == 0 && nano == 0 then some (0, true) else none
  else if h < 24 && m < 60 && sec < 60 then
    some (((h * 60 + m) * 60 + sec) * 1000000000 + nano, false)
  else none

def yearText (y : Int) : String := (if y < 0 then "-" else "") ++ padded 4 y.natAbs

def dayText (d : Day) : String :=
  yearText d.year ++ "-" ++ padded 2 d.month ++ "-" ++ padded 2 d.dayOfMonth

/-- The seconds beyond the whole minutes, with their fraction. -/
def seconds (c : Clock) : Decimal :=
  (Decimal.ofParts? false (c.nanos % 60000000000) 9).getD .zero

/-- A time of day; the fraction has no zeros at its end and is left out when it is zero. -/
def clockText (c : Clock) : String :=
  let fraction := c.nanos % 1000000000
  let digits := ((padded 9 fraction).toList.reverse.dropWhile (· == '0')).reverse
  padded 2 c.hour ++ ":" ++ padded 2 c.minute ++ ":" ++ padded 2 c.second ++
    (if fraction == 0 then "" else "." ++ String.ofList digits)

/-- The local time at which clocks of zone `z` show `t`, on clocks of universal time. -/
def toUtc (t : LocalTime) (z : TimeZone) : Result LocalTime :=
  match t.shift? (-z.nanos) with
  | some u => .ok u
  | none => .error .temporalRange

def shift (t : LocalTime) (n : Int) : Result LocalTime :=
  match t.shift? n with
  | some u => .ok u
  | none => .error .temporalRange

/-- How far a change of time zone moves the local fields. -/
def zoneShift : Option TimeZone → Option TimeZone → Int
  | some old, some new => new.nanos - old.nanos
  | _, _ => 0

/-- The day so many months later. A number of months beyond 32 bits is out of range. -/
def addMonths (d : Day) (months : Int) : Result Day :=
  if months.natAbs ≥ 2 ^ 32 then .error .temporalRange
  else match d.addMonths? months with
    | some d => .ok d
    | none => .error .temporalRange

/-- The time from `b` to `a`. -/
def difference (a b : LocalTime) : DayTimeDuration := .ofNanoseconds (a.total - b.total)

end Temporal

open Temporal

/-! ## xs:dateTime -/

/-- A local time with an optional time zone. -/
structure DateTime where
  fields : LocalTime
  zone : Option TimeZone
  deriving DecidableEq, Repr

structure Date where
  day : Day
  zone : Option TimeZone
  deriving DecidableEq, Repr

structure Time where
  clock : Clock
  zone : Option TimeZone
  deriving DecidableEq, Repr

namespace DateTime

def ofParts (d : Day) (t : Time) (zone : Option TimeZone) : DateTime :=
  ⟨⟨d, t.clock⟩, zone⟩

def read? (s : List Char) : Option DateTime := do
  let (body, zone) ← splitZone? s
  let (d, t) ← splitFirst? 'T' body
  let day ← day? d
  let (nanos, endOfDay) ← nanos? t
  let fields ← LocalTime.ofTotal?
    (day.number * dayLength + nanos + (if endOfDay then dayLength else 0 : Nat))
  some ⟨fields, zone⟩

def parse (lexical : String) : Result DateTime :=
  match read? (trim lexical.toList) with
  | some v => .ok v
  | none => .error (.invalidLexical "xs:dateTime" lexical)

def text (v : DateTime) : String :=
  dayText v.fields.day ++ "T" ++ clockText v.fields.clock ++ TimeZone.textOf v.zone

def date (v : DateTime) : Date := ⟨v.fields.day, v.zone⟩

def time (v : DateTime) : Time := ⟨v.fields.clock, v.zone⟩

def toUtc (v : DateTime) (implicit : TimeZone) : Result LocalTime :=
  Temporal.toUtc v.fields (v.zone.getD implicit)

/-- The same instant in another time zone; a value that has no time zone keeps its fields, and so
does one that loses it. -/
def adjust (v : DateTime) (zone : Option TimeZone) : Result DateTime :=
  (shift v.fields (zoneShift v.zone zone)).map (⟨·, zone⟩)

def addYearMonth (v : DateTime) (d : YearMonthDuration) : Result DateTime :=
  (addMonths v.fields.day d.months).map fun day => ⟨{ v.fields with day }, v.zone⟩

def addDayTime (v : DateTime) (d : DayTimeDuration) : Result DateTime := do
  let n ← d.toNanoseconds
  (shift v.fields n).map (⟨·, v.zone⟩)

def difference (v w : DateTime) (implicit : TimeZone) : Result DayTimeDuration := do
  return Temporal.difference (← v.toUtc implicit) (← w.toUtc implicit)

end DateTime

/-! ## xs:date -/

namespace Date

def read? (s : List Char) : Option Date := do
  let (body, zone) ← splitZone? s
  some ⟨← day? body, zone⟩

def parse (lexical : String) : Result Date :=
  match read? (trim lexical.toList) with
  | some v => .ok v
  | none => .error (.invalidLexical "xs:date" lexical)

def text (v : Date) : String := dayText v.day ++ TimeZone.textOf v.zone

def start (v : Date) : LocalTime := .midnight v.day

def toUtc (v : Date) (implicit : TimeZone) : Result LocalTime :=
  Temporal.toUtc v.start (v.zone.getD implicit)

/-- The day on which the start of this day falls in another time zone. -/
def adjust (v : Date) (zone : Option TimeZone) : Result Date :=
  (shift v.start (zoneShift v.zone zone)).map (⟨·.day, zone⟩)

def addYearMonth (v : Date) (d : YearMonthDuration) : Result Date :=
  (addMonths v.day d.months).map (⟨·, v.zone⟩)

def addDayTime (v : Date) (d : DayTimeDuration) : Result Date := do
  let n ← d.toNanoseconds
  (shift v.start n).map (⟨·.day, v.zone⟩)

def difference (v w : Date) (implicit : TimeZone) : Result DayTimeDuration := do
  return Temporal.difference (← v.toUtc implicit) (← w.toUtc implicit)

end Date

/-! ## xs:time -/

namespace Time

def midnight (zone : Option TimeZone) : Time := ⟨Clock.midnight, zone⟩

def read? (s : List Char) : Option Time := do
  let (body, zone) ← splitZone? s
  let (nanos, _) ← nanos? body
  some ⟨Clock.wrap nanos, zone⟩

def parse (lexical : String) : Result Time :=
  match read? (trim lexical.toList) with
  | some v => .ok v
  | none => .error (.invalidLexical "xs:time" lexical)

def text (v : Time) : String := clockText v.clock ++ TimeZone.textOf v.zone

/-- The day on which times are compared, 1972-12-31. -/
def anchor : Day := ⟨1095, by decide⟩

def toUtc (v : Time) (implicit : TimeZone) : Result LocalTime :=
  Temporal.toUtc ⟨anchor, v.clock⟩ (v.zone.getD implicit)

/-- The same instant in another time zone, around midnight. -/
def adjust (v : Time) (zone : Option TimeZone) : Time :=
  ⟨Clock.wrap (v.clock.nanos + zoneShift v.zone zone), zone⟩

def addDayTime (v : Time) (d : DayTimeDuration) : Result Time := do
  let n ← d.toNanoseconds
  return ⟨Clock.wrap (v.clock.nanos + n), v.zone⟩

def difference (v w : Time) (implicit : TimeZone) : Result DayTimeDuration := do
  return Temporal.difference (← v.toUtc implicit) (← w.toUtc implicit)

end Time

/-! ## Gregorian fragments -/

/-- The five fragments of a date. -/
inductive GregorianKind where
  | yearMonth | year | monthDay | day | month
  deriving DecidableEq, Repr, Inhabited

/-- A fragment of a date. The fields that the kind does not have are those of the reference date
1972-12-01; the year 1972 is a leap year. -/
structure Gregorian where
  kind : GregorianKind
  day : Day
  zone : Option TimeZone
  deriving DecidableEq, Repr

namespace Gregorian

/-- The date that holds the fields of a fragment. -/
def reference (kind : GregorianKind) (y : Int) (m d : Nat) : Int × Nat × Nat :=
  match kind with
  | .yearMonth => (y, m, 1)
  | .year => (y, 1, 1)
  | .monthDay => (1972, m, d)
  | .day => (1972, 12, d)
  | .month => (1972, m, 1)

def fields? (kind : GregorianKind) (s : List Char) : Option (Int × Nat × Nat) :=
  match kind with
  | .yearMonth => do
    let (y, m) ← splitLast? '-' s
    some (← year? y, ← twoDigits? m, 1)
  | .year => do some (← year? s, 1, 1)
  | .monthDay => do
    let (m, d) ← splitFirst? '-' (← dropStart? ['-', '-'] s)
    some (1972, ← twoDigits? m, ← twoDigits? d)
  | .day => do some (1972, 12, ← twoDigits? (← dropStart? ['-', '-', '-'] s))
  | .month => do some (1972, ← twoDigits? (← dropStart? ['-', '-'] s), 1)

def read? (kind : GregorianKind) (s : List Char) : Option Gregorian := do
  let (body, zone) ← splitZone? s
  let (y, m, d) ← fields? kind body
  some ⟨kind, ← Day.ofDate? y m d, zone⟩

def ofDay (kind : GregorianKind) (day : Day) (zone : Option TimeZone) : Gregorian :=
  let (y, m, d) := reference kind day.year day.month day.dayOfMonth
  ⟨kind, (Day.ofDate? y m d).getD day, zone⟩

def text (v : Gregorian) : String :=
  (match v.kind with
    | .yearMonth => yearText v.day.year ++ "-" ++ padded 2 v.day.month
    | .year => yearText v.day.year
    | .monthDay => "--" ++ padded 2 v.day.month ++ "-" ++ padded 2 v.day.dayOfMonth
    | .day => "---" ++ padded 2 v.day.dayOfMonth
    | .month => "--" ++ padded 2 v.day.month) ++ TimeZone.textOf v.zone

def toUtc (v : Gregorian) (implicit : TimeZone) : Result LocalTime :=
  Temporal.toUtc (.midnight v.day) (v.zone.getD implicit)

end Gregorian

end XPath
