import XPath.Proofs.Number.Reading
import XPath.Proofs.Time.DurationGrammar

/-!
# The values of durations that are read

A text in the grammar of durations stands for a number of months and a number of seconds.  The
parsers give these, the seconds as a decimal; where a component or one of the totals is too large,
they say so and give none.
-/

namespace XPath

open XPath.Number XPath.Number.Decimal XPath.Text

namespace DurationParts

/-! ## 1. What a text stands for -/

/-- The number of a component, zero if it is left out. -/
def count (n : Option Numeral) : Nat := (n.map Numeral.value).getD 0

def SecondsNumeral.value (n : SecondsNumeral) : ℚ :=
  n.whole.value + match n.fraction with
    | none => 0
    | some f => (f.value : ℚ) / 10 ^ f.digits.length

namespace Form

variable (f : Form)

def hours : Option Numeral := f.time.bind (·.hours)

def minutes : Option Numeral := f.time.bind (·.minutes)

def seconds : Option SecondsNumeral := f.time.bind (·.seconds)

/-- The components that are whole numbers. -/
def counts : List Nat :=
  [count f.years, count f.months, count f.days, count f.hours, count f.minutes]

/-- The months in the years and months, without sign. -/
def monthTotal : Nat := 12 * count f.years + count f.months

/-- The seconds in the days, hours and minutes, without sign. -/
def wholeSeconds : Nat := ((count f.days * 24 + count f.hours) * 60 + count f.minutes) * 60

/-- The number of the seconds component. -/
def ownSeconds : ℚ := (f.seconds.map SecondsNumeral.value).getD 0

/-- All seconds, without sign. -/
def secondTotal : ℚ := f.wholeSeconds + f.ownSeconds

def sign : ℤ := if f.negative then -1 else 1

/-- Whether a number in the text is too large: a whole component or the seconds in the days, hours
and minutes for 64 bits, the months for 64 bits with a sign, or all seconds for a decimal, also when
rounded. -/
def OutOfRange : Prop :=
  (∃ n ∈ f.counts, 2 ^ 64 ≤ n) ∨ 2 ^ 64 ≤ f.wholeSeconds ∨ 2 ^ 63 ≤ f.monthTotal ∨
    2 ^ 96 - 1 / 2 ≤ f.secondTotal

def HasYearMonth : Prop := f.years.isSome ∨ f.months.isSome

def HasDayTime : Prop := f.days.isSome ∨ f.time.isSome

end Form

/-- Whether a decimal stands for a number: it is the number if there is such a decimal, and near it
otherwise. -/
structure StandsFor (d : Decimal) (x : ℚ) : Prop where
  exact : IsValue x → d.value = x
  near : |d.value - x| ≤ 1

/-! ## 2. The numeral of the seconds -/

theorem digitsValue_eq_followedBy (s : List Char) : digitsValue s = followedBy 0 s := rfl

theorem SecondsNumeral.isReading (n : SecondsNumeral) : IsReading (ofLiteral? n.text) n.value := by
  obtain ⟨w, fraction⟩ := n
  cases fraction with
  | none =>
    have h := isReading_ofLiteral? w.isDigits w.nonempty
    rw [text, value, List.append_nil, add_zero]
    exact h
  | some f =>
    have h := isReading_ofLiteral?_fraction w.isDigits w.nonempty f.isDigits f.nonempty
    have hvalue : SecondsNumeral.value ⟨w, some f⟩ =
        (followedBy 0 (w.digits ++ f.digits) : ℚ) / 10 ^ f.digits.length := by
      rw [value, ← digitsValue_eq_followedBy, digitsValue_append]
      push_cast
      rw [add_div, mul_div_cancel_left₀ _ (by positivity)]
      rfl
    rw [hvalue]
    exact h

theorem SecondsNumeral.value_nonneg (n : SecondsNumeral) : 0 ≤ n.value := by
  unfold value
  split <;> positivity

namespace Form

variable (f : Form)

/-- What is read for the seconds, zero if they are left out. -/
def literal : Option Decimal :=
  match f.seconds with
  | none => some .zero
  | some n => ofLiteral? n.text

theorem literal_isReading : IsReading f.literal f.ownSeconds := by
  unfold literal ownSeconds
  cases f.seconds with
  | none =>
    have h := isReading_ofParts? (c := 0) (k := 0) (by decide) (by decide)
    rw [Nat.cast_zero, zero_div] at h
    exact h
  | some n => exact n.isReading

theorem positive_of_literal {d : Decimal} (h : f.literal = some d) : d.negative = false := by
  unfold literal at h
  split at h
  · obtain rfl := Option.some.inj h
    rfl
  · rename_i n _
    exact positive_of_numeral (isNumeral_iff.mpr ⟨n, rfl⟩) h

theorem ownSeconds_nonneg : 0 ≤ f.ownSeconds := by
  unfold ownSeconds
  cases f.seconds with
  | none => exact le_rfl
  | some n => exact n.value_nonneg

theorem any_eq (n : Option Numeral) : n.any (·.value ≥ limit) = decide (count n ≥ limit) := by
  cases n with
  | none => rfl
  | some n => rfl

/-- The parts hold the numbers of the components; they have overflowed if a whole component has more
than 64 bits, or if the seconds could not be read. -/
theorem parts_eq : f.parts =
    { negative := f.negative
      years := count f.years
      months := count f.months
      days := count f.days
      hours := count f.hours
      minutes := count f.minutes
      seconds := f.literal.getD .zero
      hasYearMonth := f.years.isSome || f.months.isSome
      hasDayTime := f.days.isSome || f.time.isSome
      overflowed := f.counts.any (· ≥ limit) || f.literal.isNone } := by
  rw [← hasYearMonth_parts, ← hasDayTime_parts]
  unfold parts literal counts hours minutes seconds
  cases f.time with
  | none =>
    have hzero : ¬ limit ≤ 0 := by decide
    simp [putDate_eq, any_eq, count, hzero, Bool.or_assoc]
  | some t =>
    cases ht : t.seconds with
    | none => simp [putDate_eq, putTime_eq, any_eq, count, ht, Bool.or_assoc]
    | some n => simp [putDate_eq, putTime_eq, any_eq, count, ht, Bool.or_assoc]

/-! ## 3. The totals -/

/-- The months that a text stands for. -/
def signedMonths : ℤ := f.sign * f.monthTotal

/-- The seconds that a text stands for. -/
def signedSeconds : ℚ := f.sign * f.secondTotal

theorem overflowed_parts : f.parts.overflowed = true ↔
    (∃ n ∈ f.counts, 2 ^ 64 ≤ n) ∨ 2 ^ 96 - 1 / 2 ≤ f.ownSeconds := by
  rw [← f.literal_isReading.eq_none_iff, f.parts_eq]
  simp [limit]

theorem totalMonths?_parts : f.parts.totalMonths? =
    if f.parts.overflowed = true ∨ 2 ^ 63 ≤ f.monthTotal then none else some f.signedMonths := by
  unfold totalMonths?
  simp only [Bool.or_eq_true, decide_eq_true_eq]
  have hm : 12 * f.parts.years + f.parts.months = f.monthTotal := by
    rw [f.parts_eq]
    rfl
  have hnegative : f.parts.negative = f.negative := by rw [f.parts_eq]
  rw [hm, hnegative]
  congr 2
  unfold signedMonths sign
  cases f.negative <;> simp

theorem standsFor_signed {d : Decimal} (h : StandsFor d f.secondTotal) :
    StandsFor (if f.negative then d.neg else d) f.signedSeconds := by
  unfold signedSeconds sign
  cases f.negative with
  | false => simpa using h
  | true =>
    simp only [if_true, Int.cast_neg, Int.cast_one, neg_one_mul]
    constructor
    · rintro ⟨e, he⟩
      have hvalue : IsValue f.secondTotal := ⟨e.neg, by rw [value_neg, he, neg_neg]⟩
      rw [value_neg, h.exact hvalue]
    · rw [value_neg, neg_sub_neg, abs_sub_comm]
      exact h.near

/-- The seconds are out of range, or they are those of the text. -/
theorem totalSeconds?_parts :
    (f.parts.totalSeconds? = none ↔
      f.parts.overflowed = true ∨ 2 ^ 64 ≤ f.wholeSeconds ∨ 2 ^ 96 - 1 / 2 ≤ f.secondTotal) ∧
    ∀ d, f.parts.totalSeconds? = some d → StandsFor d f.signedSeconds := by
  have htotal : f.parts.totalSeconds? =
      if f.parts.overflowed = true ∨ 2 ^ 64 ≤ f.wholeSeconds then none
      else ((ofNat f.wholeSeconds).add? (f.literal.getD .zero)).map fun t =>
        if f.negative then t.neg else t := by
    unfold totalSeconds?
    simp only [Bool.or_eq_true, decide_eq_true_eq, ge_iff_le]
    rw [f.parts_eq]
    rfl
  rw [htotal, ← or_assoc]
  by_cases hlarge : f.parts.overflowed = true ∨ 2 ^ 64 ≤ f.wholeSeconds
  · rw [if_pos hlarge]
    exact ⟨iff_of_true rfl (.inl hlarge), by simp⟩
  · rw [if_neg hlarge, or_iff_right hlarge]
    obtain ⟨hparts, hwhole⟩ := not_or.mp hlarge
    obtain ⟨s, hs⟩ : ∃ s, f.literal = some s := by
      rw [overflowed_parts, not_or, ← f.literal_isReading.eq_none_iff] at hparts
      exact Option.ne_none_iff_exists'.mp hparts.2
    have hsum := f.literal_isReading.approximates_sum f.ownSeconds_nonneg (not_le.mp hwhole)
      fun _ => f.positive_of_literal
    rw [hs, Option.bind_some] at hsum
    rw [hs, Option.getD_some]
    refine ⟨Option.map_eq_none_iff.trans hsum.eq_none_iff, ?_⟩
    intro d hd
    obtain ⟨t, ht, rfl⟩ := Option.map_eq_some_iff.mp hd
    exact f.standsFor_signed ⟨hsum.exact t ht, hsum.near t ht⟩

theorem totalMonths?_eq_none : f.parts.totalMonths? = none ↔
    f.parts.overflowed = true ∨ 2 ^ 63 ≤ f.monthTotal := by
  rw [totalMonths?_parts]
  split <;> simp_all

theorem months_eq_signedMonths {m : ℤ} (h : f.parts.totalMonths? = some m) :
    (YearMonthDuration.ofMonths m).months = f.signedMonths := by
  rw [YearMonthDuration.months_ofMonths_of_lt (natAbs_lt_of_totalMonths? h)]
  rw [totalMonths?_parts] at h
  exact (Option.some.inj (Option.ite_none_left_eq_some.mp h).2).symm

theorem outOfRange_iff : f.OutOfRange ↔
    f.parts.totalMonths? = none ∨ f.parts.totalSeconds? = none := by
  have hown : f.ownSeconds ≤ f.secondTotal := le_add_of_nonneg_left (by positivity)
  rw [totalMonths?_eq_none, f.totalSeconds?_parts.1, overflowed_parts, OutOfRange]
  constructor
  · rintro (h | h | h | h)
    · exact .inl (.inl (.inl h))
    · exact .inr (.inr (.inl h))
    · exact .inl (.inr h)
    · exact .inr (.inr (.inr h))
  · rintro (((h | h) | h) | ((h | h) | h | h))
    · exact .inl h
    · exact .inr (.inr (.inr (h.trans hown)))
    · exact .inr (.inr (.inl h))
    · exact .inl h
    · exact .inr (.inr (.inr (h.trans hown)))
    · exact .inr (.inl h)
    · exact .inr (.inr (.inr h))

/-- Without days and a time, only the months may be out of range. -/
theorem outOfRange_iff_months (h : ¬ f.HasDayTime) :
    f.OutOfRange ↔ f.parts.totalMonths? = none := by
  rw [outOfRange_iff, or_iff_left_of_imp]
  rw [f.totalSeconds?_parts.1, totalMonths?_eq_none]
  simp only [HasDayTime, not_or, Bool.not_eq_true, Option.isSome_eq_false_iff,
    Option.isNone_iff_eq_none] at h
  have hwhole : f.wholeSeconds = 0 := by simp [wholeSeconds, hours, minutes, h, count]
  have hown : f.ownSeconds = 0 := by simp [ownSeconds, seconds, h]
  rw [secondTotal, hwhole, hown]
  rintro (h | h | h)
  · exact .inl h
  · exact absurd h (by decide)
  · norm_num at h

/-- Without years and months, only the seconds may be out of range. -/
theorem outOfRange_iff_seconds (h : ¬ f.HasYearMonth) :
    f.OutOfRange ↔ f.parts.totalSeconds? = none := by
  rw [outOfRange_iff, or_iff_right_of_imp]
  rw [f.totalSeconds?_parts.1, totalMonths?_eq_none]
  simp only [HasYearMonth, not_or, Bool.not_eq_true, Option.isSome_eq_false_iff,
    Option.isNone_iff_eq_none] at h
  have hmonths : f.monthTotal = 0 := by simp [monthTotal, h, count]
  rw [hmonths]
  rintro (h | h)
  · exact .inl h
  · exact absurd h (by decide)

theorem hasYearMonth_iff : f.parts.hasYearMonth = true ↔ f.HasYearMonth := by
  rw [hasYearMonth_parts, Bool.or_eq_true, HasYearMonth]

theorem hasDayTime_iff : f.parts.hasDayTime = true ↔ f.HasDayTime := by
  rw [hasDayTime_parts, Bool.or_eq_true, HasDayTime]

end Form

/-! ## 4. The parsers -/

/-- What a parser gives for a text of the grammar: an error if the type does not have such
components, another if a number is out of range, and otherwise the value of the text. -/
structure Reads {α : Type} (f : Form) (type lexical : String) (result : Result α) (hasType : Prop)
    (IsValueOf : α → Prop) : Prop where
  invalid : ¬ hasType → result = .error (.invalidLexical type lexical)
  outOfRange : hasType → f.OutOfRange → result = .error .durationRange
  value : hasType → ¬ f.OutOfRange → ∃ d, result = .ok d ∧ IsValueOf d

variable {f : Form} {lexical : String}

theorem StandsFor.normalize {d : Decimal} {x : ℚ} (h : StandsFor d x) :
    StandsFor d.normalize x := by
  constructor
  · rw [value_normalize]
    exact h.exact
  · rw [value_normalize]
    exact h.near

theorem reads_yearMonth (h : parse? lexical = some f.parts) :
    Reads f "xs:yearMonthDuration" lexical (YearMonthDuration.parse lexical) (¬ f.HasDayTime)
      fun d => d.months = f.signedMonths := by
  unfold YearMonthDuration.parse
  rw [h, Option.filter_some]
  by_cases hday : f.HasDayTime
  · rw [f.hasDayTime_iff.mpr hday]
    exact ⟨fun _ => rfl, fun hn => absurd hday hn, fun hn => absurd hday hn⟩
  · rw [Bool.eq_false_iff.mpr (mt f.hasDayTime_iff.mp hday)]
    have hrange := f.outOfRange_iff_months hday
    refine ⟨fun hn => absurd hday hn, fun _ hout => ?_, fun _ hin => ?_⟩
    · simp [hrange.mp hout]
    · obtain ⟨m, hm⟩ := Option.ne_none_iff_exists'.mp (mt hrange.mpr hin)
      exact ⟨.ofMonths m, by simp [hm], f.months_eq_signedMonths hm⟩

theorem reads_dayTime (h : parse? lexical = some f.parts) :
    Reads f "xs:dayTimeDuration" lexical (DayTimeDuration.parse lexical) (¬ f.HasYearMonth)
      fun d => StandsFor d.seconds f.signedSeconds := by
  unfold DayTimeDuration.parse
  rw [h, Option.filter_some]
  by_cases hyear : f.HasYearMonth
  · rw [f.hasYearMonth_iff.mpr hyear]
    exact ⟨fun _ => rfl, fun hn => absurd hyear hn, fun hn => absurd hyear hn⟩
  · rw [Bool.eq_false_iff.mpr (mt f.hasYearMonth_iff.mp hyear)]
    have hrange := f.outOfRange_iff_seconds hyear
    refine ⟨fun hn => absurd hyear hn, fun _ hout => ?_, fun _ hin => ?_⟩
    · simp [hrange.mp hout, DayTimeDuration.ofSeconds?]
    · obtain ⟨s, hs⟩ := Option.ne_none_iff_exists'.mp (mt hrange.mpr hin)
      exact ⟨⟨s.normalize⟩, by simp [hs, DayTimeDuration.ofSeconds?, DayTimeDuration.ofSeconds],
        (f.totalSeconds?_parts.2 s hs).normalize⟩

theorem reads_duration (h : parse? lexical = some f.parts) :
    Reads f "xs:duration" lexical (Duration.parse lexical) True
      fun d => d.months = f.signedMonths ∧ StandsFor d.seconds f.signedSeconds := by
  unfold Duration.parse
  rw [h]
  refine ⟨fun hn => absurd trivial hn, fun _ hout => ?_, fun _ hin => ?_⟩
  · obtain hm | hs := f.outOfRange_iff.mp hout
    · simp [hm]
    · simp [hs]
  · rw [f.outOfRange_iff, not_or] at hin
    obtain ⟨m, hm⟩ := Option.ne_none_iff_exists'.mp hin.1
    obtain ⟨s, hs⟩ := Option.ne_none_iff_exists'.mp hin.2
    exact ⟨.new (.ofMonths m) s, by simp [hm, hs], f.months_eq_signedMonths hm,
      (f.totalSeconds?_parts.2 s hs).normalize⟩

/-- **Parsing durations.**  The parsers accept the texts of the grammar, each those with components
of its type, and give the value, unless it is out of range.  The sign does not count for the range.
-/
theorem parse_accepts_forms (lexical : String) :
    ((parse? lexical).isSome ↔ ∃ f : Form, trim lexical.toList = f.text) ∧
    ((¬ ∃ f : Form, trim lexical.toList = f.text) →
      YearMonthDuration.parse lexical =
        .error (.invalidLexical "xs:yearMonthDuration" lexical) ∧
      DayTimeDuration.parse lexical = .error (.invalidLexical "xs:dayTimeDuration" lexical) ∧
      Duration.parse lexical = .error (.invalidLexical "xs:duration" lexical)) ∧
    ∀ f : Form, trim lexical.toList = f.text →
      Reads f "xs:yearMonthDuration" lexical (YearMonthDuration.parse lexical) (¬ f.HasDayTime)
        (fun d => d.months = f.signedMonths) ∧
      Reads f "xs:dayTimeDuration" lexical (DayTimeDuration.parse lexical) (¬ f.HasYearMonth)
        (fun d => StandsFor d.seconds f.signedSeconds) ∧
      Reads f "xs:duration" lexical (Duration.parse lexical) True
        (fun d => d.months = f.signedMonths ∧ StandsFor d.seconds f.signedSeconds) := by
  have hiff : (parse? lexical).isSome ↔ ∃ f : Form, trim lexical.toList = f.text := by
    rw [Option.isSome_iff_exists]
    constructor
    · rintro ⟨p, hp⟩
      obtain ⟨f, htext, -⟩ := parse?_eq_some_iff.mp hp
      exact ⟨f, htext⟩
    · rintro ⟨f, htext⟩
      exact ⟨f.parts, parse?_eq_some_iff.mpr ⟨f, htext, rfl⟩⟩
  refine ⟨hiff, fun hno => ?_, fun f htext => ?_⟩
  · have hnone : parse? lexical = none := by
      rwa [← hiff, Bool.not_eq_true, Option.isSome_eq_false_iff, Option.isNone_iff_eq_none] at hno
    simp [YearMonthDuration.parse, DayTimeDuration.parse, Duration.parse, hnone]
  · have hparse : parse? lexical = some f.parts := parse?_eq_some_iff.mpr ⟨f, htext, rfl⟩
    exact ⟨reads_yearMonth hparse, reads_dayTime hparse, reads_duration hparse⟩

/-- A numeral of one digit. -/
def Numeral.digit (c : Char) (h : isDigit c = true) : Numeral :=
  ⟨[c], List.cons_ne_nil c [], by simpa [IsDigits] using h⟩

/-- A year, two months, three days, four hours, five minutes and 6.7 seconds, with a sign. -/
def sampleForm : Form where
  negative := true
  years := some (.digit '1' rfl)
  months := some (.digit '2' rfl)
  days := some (.digit '3' rfl)
  time := some ⟨some (.digit '4' rfl), some (.digit '5' rfl),
    some ⟨.digit '6' rfl, some (.digit '7' rfl)⟩, .inl rfl⟩
  nonempty := .inl rfl

theorem secondTotal_sampleForm : sampleForm.secondTotal = 2739067 / 10 := by
  have hwhole : sampleForm.wholeSeconds = 273900 := rfl
  have hown : sampleForm.ownSeconds = 6 + 7 / 10 := by
    show ((6 : ℕ) : ℚ) + (7 : ℕ) / 10 ^ 1 = 6 + 7 / 10
    norm_num
  rw [Form.secondTotal, hwhole, hown]
  norm_num

theorem parse_accepts_forms_sample :
    trim "-P1Y2M3DT4H5M6.7S".toList = sampleForm.text ∧ ¬ sampleForm.OutOfRange ∧
      ∃ d, Duration.parse "-P1Y2M3DT4H5M6.7S" = .ok d ∧ d.months = -14 ∧
        d.seconds.value = -(2739067 / 10) := by
  have htext : trim "-P1Y2M3DT4H5M6.7S".toList = sampleForm.text := by decide
  have hin : ¬ sampleForm.OutOfRange := by
    rintro (h | h | h | h)
    · revert h
      decide
    · revert h
      decide
    · revert h
      decide
    · rw [secondTotal_sampleForm] at h
      norm_num at h
  obtain ⟨d, hd, hmonths, hseconds⟩ :=
    ((parse_accepts_forms "-P1Y2M3DT4H5M6.7S").2.2 sampleForm htext).2.2.value trivial hin
  refine ⟨htext, hin, d, hd, hmonths, ?_⟩
  have hsigned : sampleForm.signedSeconds = -(2739067 / 10) := by
    show ((-1 : ℤ) : ℚ) * sampleForm.secondTotal = _
    rw [secondTotal_sampleForm]
    norm_num
  rw [← hsigned]
  apply hseconds.exact
  rw [hsigned]
  exact ⟨⟨true, 2739067, 1, by decide, by decide⟩, by norm_num [value_eq, factor]⟩

end DurationParts

end XPath
