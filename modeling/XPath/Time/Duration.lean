import XPath.Error
import XPath.Number.Decimal
import XPath.Number.Word

/-!
# Durations

A year-month duration is a signed number of months, a day-time duration a signed decimal number of
seconds, and a general duration has both parts with one sign. Components are read off the
normalized whole: 25 months are 2 years and 1 month. Months are kept in 64 bits.
-/

namespace XPath

open XPath.Number XPath.Text

def Error.durationRange : Error := .of .FODT0002 "duration value out of range"

def Error.durationByZero : Error := .of .FODT0002 "division of duration by zero"

def Error.ratioByZero : Error := .of .FOAR0001 "division by zero duration"

def Error.ratioRange : Error := .of .FOAR0002 "duration ratio overflow"

def Error.durationFactor : Error := .of .FOCA0005 "NaN supplied as duration factor"

/-! ## Lexical form -/

/-- The components of a lexical duration. A component may be too large for its field, which
`overflowed` records. -/
structure DurationParts where
  negative : Bool := false
  years : Nat := 0
  months : Nat := 0
  days : Nat := 0
  hours : Nat := 0
  minutes : Nat := 0
  seconds : Decimal := .zero
  hasYearMonth : Bool := false
  hasDayTime : Bool := false
  overflowed : Bool := false

namespace DurationParts

def limit : Nat := 2 ^ 64

def whole (digits : List Char) : Nat := digitsValue digits

/-- Reads `(nY)?(nM)?(nD)?`; `rank` is the rank of the last designator seen. -/
def readDate : Nat → List Char → Nat → DurationParts → Option DurationParts
  | _, [], _, p => some p
  | 0, _ :: _, _, _ => none
  | fuel + 1, s, rank, p =>
    let digits := s.takeWhile isDigit
    let n := digitsValue digits
    let p := { p with overflowed := p.overflowed || n ≥ limit }
    if digits.isEmpty then none
    else match s.drop digits.length with
      | 'Y' :: r =>
        if rank ≥ 1 then none
        else readDate fuel r 1 { p with years := n, hasYearMonth := true }
      | 'M' :: r =>
        if rank ≥ 2 then none
        else readDate fuel r 2 { p with months := n, hasYearMonth := true }
      | 'D' :: r =>
        if rank ≥ 3 then none
        else readDate fuel r 3 { p with days := n, hasDayTime := true }
      | _ => none

/-- Digits with at most one point, which has a digit on either side. -/
def isNumeral (s : List Char) : Bool :=
  match splitFirst? '.' s with
  | none => !s.isEmpty && s.all isDigit
  | some (a, b) => !a.isEmpty && !b.isEmpty && a.all isDigit && b.all isDigit

/-- Reads `(nH)?(nM)?(n(.n)?S)?`. -/
def readTime : Nat → List Char → Nat → DurationParts → Option DurationParts
  | _, [], _, p => some p
  | 0, _ :: _, _, _ => none
  | fuel + 1, s, rank, p =>
    let numeral := s.takeWhile fun c => isDigit c || c == '.'
    let n := digitsValue numeral
    if !isNumeral numeral then none
    else match s.drop numeral.length with
      | 'H' :: r =>
        if rank ≥ 1 || numeral.contains '.' then none
        else readTime fuel r 1
          { p with hours := n, hasDayTime := true, overflowed := p.overflowed || n ≥ limit }
      | 'M' :: r =>
        if rank ≥ 2 || numeral.contains '.' then none
        else readTime fuel r 2
          { p with minutes := n, hasDayTime := true, overflowed := p.overflowed || n ≥ limit }
      | 'S' :: r =>
        if rank ≥ 3 then none
        else
          let d := Decimal.ofLiteral? numeral
          readTime fuel r 3
            { p with seconds := d.getD .zero, hasDayTime := true
                     overflowed := p.overflowed || d.isNone }
      | _ => none

/-- Reads `-?P(nY)?(nM)?(nD)?(T(nH)?(nM)?(n(.n)?S)?)?` with at least one component, and at least
one after `T`. Each component takes at least two characters, so the length bounds the number of
steps. -/
def parse? (lexical : String) : Option DurationParts :=
  let s := trim lexical.toList
  let (negative, s) := match s with
    | '-' :: r => (true, r)
    | s => (false, s)
  match s with
  | 'P' :: r =>
    let (date, time?) := match splitFirst? 'T' r with
      | some (d, t) => (d, some t)
      | none => (r, none)
    let parts? := (readDate r.length date 0 { negative }).bind fun p =>
      match time? with
      | none => some p
      | some [] => none
      | some t => readTime r.length t 0 p
    parts?.filter fun p => p.hasYearMonth || p.hasDayTime
  | _ => none

def totalMonths? (p : DurationParts) : Option Int :=
  let m := 12 * p.years + p.months
  if p.overflowed || m ≥ 2 ^ 63 then none
  else some (if p.negative then -(m : Int) else m)

theorem natAbs_lt_of_totalMonths? {p : DurationParts} {m : Int} (h : p.totalMonths? = some m) :
    m.natAbs < 2 ^ 63 := by
  obtain ⟨hin, hm⟩ := Option.ite_none_left_eq_some.mp h
  rw [← Option.some.inj hm]
  rw [Bool.or_eq_true, decide_eq_true_eq, not_or] at hin
  have hlt := hin.2
  split <;> omega

def totalSeconds? (p : DurationParts) : Option Decimal :=
  let whole := ((p.days * 24 + p.hours) * 60 + p.minutes) * 60
  if p.overflowed || whole ≥ limit then none
  else ((Decimal.ofNat whole).add? p.seconds).map fun t => if p.negative then t.neg else t

end DurationParts

/-! ## Year-month durations -/

/-- A signed number of months. -/
@[ext]
structure YearMonthDuration where
  months : Int
  months_fits : fits 64 months = true
  deriving DecidableEq, Repr

/-- A factor must be a finite number. -/
def checkFactor (x : Float) : Result Unit :=
  if x.isNaN then .error .durationFactor
  else if x.isInf then .error .durationRange
  else .ok ()

namespace YearMonthDuration

/-- The duration of so many months, as far as 64 bits keep them. -/
def ofMonths (months : Int) : YearMonthDuration := ⟨wrap 64 months, fits_wrap (by decide) months⟩

theorem months_ofMonths {m : Int} (h : fits 64 m = true) : (ofMonths m).months = m :=
  wrap_of_fits (by decide) h

theorem ofMonths_months (d : YearMonthDuration) : ofMonths d.months = d :=
  YearMonthDuration.ext (months_ofMonths d.months_fits)

theorem months_ofMonths_of_lt {m : Int} (h : m.natAbs < 2 ^ 63) : (ofMonths m).months = m :=
  months_ofMonths (fits_of_natAbs_lt h)

instance : Inhabited YearMonthDuration := ⟨ofMonths 0⟩

/-- Months beyond eleven run over into years. -/
def new (years months : UInt32) (negative : Bool) : YearMonthDuration :=
  let total : Int := years.toNat * 12 + months.toNat
  ofMonths (if negative then -total else total)

def ofMonths? (months : Int) : Result YearMonthDuration :=
  if fits 64 months then .ok (ofMonths months) else .error .durationRange

def parse (lexical : String) : Result YearMonthDuration :=
  match (DurationParts.parse? lexical).filter (!·.hasDayTime) with
  | none => .error (.invalidLexical "xs:yearMonthDuration" lexical)
  | some p =>
    match p.totalMonths? with
    | some m => .ok (ofMonths m)
    | none => .error .durationRange

def negative (d : YearMonthDuration) : Bool := d.months < 0

/-- The months without sign. The least number of months has none and stays as it is. -/
def magnitude (d : YearMonthDuration) : Int := wrap 64 d.months.natAbs

theorem magnitude_eq {d : YearMonthDuration} (h : d.months.natAbs < 2 ^ 63) :
    d.magnitude = d.months.natAbs := wrap_of_fits (by decide) (fits_of_natAbs_lt h)

def year (d : YearMonthDuration) : Int := d.magnitude.tdiv 12

def month (d : YearMonthDuration) : Int := d.magnitude.tmod 12

/-- The components `nY` and `nM` that are not zero. -/
def components (months : Int) : String :=
  let years := months.tdiv 12
  let rest := months.tmod 12
  (if years == 0 then "" else toString years ++ "Y") ++
    (if rest == 0 then "" else toString rest ++ "M")

def text (d : YearMonthDuration) : String :=
  if d.months == 0 then "P0M"
  else (if d.negative then "-P" else "P") ++ components d.magnitude

def add (d e : YearMonthDuration) : Result YearMonthDuration := ofMonths? (d.months + e.months)

def sub (d e : YearMonthDuration) : Result YearMonthDuration := ofMonths? (d.months - e.months)

def neg (d : YearMonthDuration) : YearMonthDuration := ofMonths (-d.months)

/-- The product with a number, to the nearest month, a half upwards. -/
def times (d : YearMonthDuration) (factor : Float) : Result YearMonthDuration := do
  checkFactor factor
  match truncate? (doubleOfInt d.months * factor + 0.5).floor with
  | some m => ofMonths? m
  | none => .error .durationRange

/-- The quotient by a number: the product with its reciprocal. -/
def divide (d : YearMonthDuration) (divisor : Float) : Result YearMonthDuration := do
  if divisor == 0 then .error .durationByZero
  else if divisor.isInf then .ok (ofMonths 0)
  else
    checkFactor divisor
    d.times (1 / divisor)

def ratio (d e : YearMonthDuration) : Result Decimal :=
  if e.months == 0 then .error .ratioByZero
  else match Decimal.ofInt? d.months, Decimal.ofInt? e.months with
    | some a, some b =>
      match a.div? b with
      | some r => .ok r
      | none => .error .ratioRange
    | _, _ => .error .ratioRange

end YearMonthDuration

/-! ## Day-time durations -/

/-- A signed number of seconds. -/
structure DayTimeDuration where
  seconds : Decimal
  deriving Inhabited

/-- A signed length of time in whole nanoseconds. -/
abbrev Nanoseconds := Int

namespace DayTimeDuration

/-- The duration of so many seconds, stored with the smallest scale. -/
def ofSeconds (s : Decimal) : DayTimeDuration := ⟨s.normalize⟩

def ofSeconds? (s : Option Decimal) : Result DayTimeDuration :=
  match s with
  | some s => .ok (ofSeconds s)
  | none => .error .durationRange

/-- The duration with the given components; the sign of `seconds` does not count. -/
def new (days hours minutes : Nat) (seconds : Decimal) (negative : Bool) : Result DayTimeDuration :=
  let parts : DurationParts := { negative, days, hours, minutes, seconds := seconds.abs }
  match parts.totalSeconds? with
  | some s => .ok ⟨s⟩
  | none => .error .durationRange

def parse (lexical : String) : Result DayTimeDuration :=
  match (DurationParts.parse? lexical).filter (!·.hasYearMonth) with
  | none => .error (.invalidLexical "xs:dayTimeDuration" lexical)
  | some p => ofSeconds? p.totalSeconds?

def negative (d : DayTimeDuration) : Bool := d.seconds.negative && !d.seconds.isZero

/-- The whole multiples of `unit` seconds in the length. -/
def count (d : DayTimeDuration) (unit : Nat) : Nat :=
  match d.seconds.abs.div? (.ofNat unit) with
  | some q => if fits 64 q.truncate then q.truncate.natAbs else 0
  | none => 0

def days (d : DayTimeDuration) : Nat := d.count 86400

def hours (d : DayTimeDuration) : Nat := d.count 3600 % 24

def minutes (d : DayTimeDuration) : Nat := d.count 60 % 60

/-- What is left of `s` after its whole multiples of `unit`, with those multiples. -/
def splitAtUnit (s : Decimal) (unit : Nat) : Int × Decimal :=
  let q := ((s.div? (.ofNat unit)).getD .zero).truncate
  let whole := ((Decimal.ofInt? q).getD .zero).mul? (.ofNat unit)
  (q, (s.sub? (whole.getD .zero)).getD s)

/-- The seconds beyond the whole minutes, without sign. -/
def secondsPart (d : DayTimeDuration) : Decimal := (splitAtUnit d.seconds.abs 60).2

/-- The components `nD` and `TnHnMnS` of a length in seconds that are not zero. -/
def components (length : Decimal) : String :=
  let (days, rest) := splitAtUnit length 86400
  let (hours, rest) := splitAtUnit rest 3600
  let (minutes, rest) := splitAtUnit rest 60
  let part (n : Int) (designator : String) := if n == 0 then "" else toString n ++ designator
  part days "D" ++
    (if hours == 0 && minutes == 0 && rest.isZero then ""
      else "T" ++ part hours "H" ++ part minutes "M" ++
        (if rest.isZero then "" else rest.text ++ "S"))

def text (d : DayTimeDuration) : String :=
  if d.seconds.isZero then "PT0S"
  else (if d.negative then "-P" else "P") ++ components d.seconds.abs

def add (d e : DayTimeDuration) : Result DayTimeDuration := ofSeconds? (d.seconds.add? e.seconds)

def sub (d e : DayTimeDuration) : Result DayTimeDuration := ofSeconds? (d.seconds.sub? e.seconds)

def neg (d : DayTimeDuration) : DayTimeDuration := ⟨d.seconds.neg⟩

def times (d : DayTimeDuration) (factor : Float) : Result DayTimeDuration := do
  checkFactor factor
  ofSeconds? ((Decimal.ofDouble? factor).bind d.seconds.mul?)

def divide (d : DayTimeDuration) (divisor : Float) : Result DayTimeDuration := do
  if divisor == 0 then .error .durationByZero
  else if divisor.isInf then .ok ⟨.zero⟩
  else
    checkFactor divisor
    ofSeconds? ((Decimal.ofDouble? divisor).bind d.seconds.div?)

def ratio (d e : DayTimeDuration) : Result Decimal :=
  if e.seconds.isZero then .error .ratioByZero
  else match d.seconds.div? e.seconds with
    | some r => .ok r
    | none => .error .ratioRange

/-- The largest span of time, in nanoseconds: the milliseconds of a signed 64-bit number. -/
def spanLimit : Nat := (2 ^ 63 - 1) * 1000000

/-- The length in whole nanoseconds, rounded down, if it is no longer than the largest span. -/
def toNanoseconds (d : DayTimeDuration) : Result Nanoseconds :=
  let whole := d.seconds.floor
  let fraction := (d.seconds.sub? whole).bind fun f => f.mul? (.ofNat 1000000000)
  match fraction with
  | none => .error .durationRange
  | some f =>
    let n : Int := whole.truncate * 1000000000 + f.truncate
    if n.natAbs ≤ spanLimit then .ok n else .error .durationRange

def ofNanoseconds (n : Nanoseconds) : DayTimeDuration :=
  let seconds := (Decimal.ofInt? (n.tdiv 1000000000)).getD .zero
  let fraction := (Decimal.ofParts? (n < 0) (n.tmod 1000000000).natAbs 9).getD .zero
  ofSeconds ((seconds.add? fraction).getD seconds)

end DayTimeDuration

/-! ## General durations -/

structure Duration where
  yearMonth : YearMonthDuration
  seconds : Decimal
  deriving Inhabited

namespace Duration

def new (yearMonth : YearMonthDuration) (seconds : Decimal) : Duration :=
  ⟨yearMonth, seconds.normalize⟩

def months (d : Duration) : Int := d.yearMonth.months

def parse (lexical : String) : Result Duration :=
  match DurationParts.parse? lexical with
  | none => .error (.invalidLexical "xs:duration" lexical)
  | some p =>
    match p.totalMonths?, p.totalSeconds? with
    | some m, some s => .ok (new (.ofMonths m) s)
    | _, _ => .error .durationRange

def ofYearMonth (d : YearMonthDuration) : Duration := new d .zero

def ofDayTime (d : DayTimeDuration) : Duration := new (.ofMonths 0) d.seconds

def dayTime (d : Duration) : DayTimeDuration := .ofSeconds d.seconds

def negative (d : Duration) : Bool := d.months < 0 || d.dayTime.negative

def text (d : Duration) : String :=
  if d.months == 0 && d.seconds.isZero then "PT0S"
  else (if d.negative then "-P" else "P") ++ YearMonthDuration.components d.yearMonth.magnitude ++
    DayTimeDuration.components d.seconds.abs

end Duration

end XPath
