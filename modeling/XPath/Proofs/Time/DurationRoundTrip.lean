import XPath.Proofs.Time.DurationText

/-!
# Durations and their texts

The text of a duration is read back as the same duration, as long as its length is counted exactly
and its minutes fit the counter of the reader.
-/

namespace XPath

open XPath.Number XPath.Text DurationParts

variable {x : Char} {marks : List Char} {negative : Bool}

/-! ## 1. The text of the components -/

/-- A count in the text of a length.  It has a sign only if a larger unit is counted wrong. -/
def signedComponent (n : Int) (designator : Char) : List Char :=
  if n = 0 then [] else (toString n).toList ++ [designator]

theorem signedComponent_natCast (n : Nat) : signedComponent n x = component n x := by
  unfold signedComponent component
  rw [toList_toString_natCast]
  by_cases hn : n = 0
  · rw [if_pos hn, if_pos (by omega)]
  · rw [if_neg hn, if_neg (by omega)]

theorem minus_mem_signedComponent {n : Int} (h : n < 0) : '-' ∈ signedComponent n x := by
  rw [signedComponent, if_neg h.ne, toList_toString_neg h]
  exact List.mem_cons_self

theorem writtenWith_signedComponent (n : Int) (hminus : '-' ∈ marks) (hx : x ∈ marks) :
    WrittenWith marks (signedComponent n x) := by
  by_cases hn : n < 0
  · rw [signedComponent, if_neg hn.ne, toList_toString_neg hn]
    simp [hminus, hx, (isDigits_toDigits _).writtenWith]
  · obtain ⟨k, rfl⟩ := Int.eq_ofNat_of_zero_le (Int.not_lt.mp hn)
    rw [signedComponent_natCast]
    exact writtenWith_component k hx

theorem toList_text_signedComponent (n : Int) {designator : String} (h : designator.toList = [x]) :
    (if n == 0 then "" else toString n ++ designator).toList = signedComponent n x := by
  unfold signedComponent
  by_cases hn : n = 0
  · rw [if_pos hn, if_pos (by simpa using hn)]
    rfl
  · rw [if_neg hn, if_neg (by simpa using hn), String.toList_append, h]

theorem YearMonthDuration.toList_components (n : Nat) :
    (components n).toList = dateText (n / 12) (n % 12) 0 := by
  have hyears : (n : Int).tdiv 12 = (n / 12 : Nat) := rfl
  have hmonths : (n : Int).tmod 12 = (n % 12 : Nat) := rfl
  rw [components, hyears, hmonths, String.toList_append,
    toList_text_signedComponent (x := 'Y') _ rfl, toList_text_signedComponent (x := 'M') _ rfl,
    signedComponent_natCast, signedComponent_natCast]
  simp [dateText, component]

namespace DayTimeDuration

/-- The text of the hours, minutes and seconds of a length. -/
def signedTime (hours minutes : Int) (seconds : Decimal) : List Char :=
  if hours = 0 ∧ minutes = 0 ∧ seconds.isZero = true then []
  else 'T' :: (signedComponent hours 'H' ++ (signedComponent minutes 'M' ++ secondsText seconds))

theorem signedTime_natCast (h m : Nat) (s : Decimal) : signedTime h m s = timePart h m s := by
  simp only [signedTime, timePart, timeText, signedComponent_natCast, Int.natCast_eq_zero]

theorem toList_components (ℓ : Decimal) : (components ℓ).toList =
    signedComponent (splitDays ℓ).1 'D' ++
      signedTime (splitHours ℓ).1 (splitMinutes ℓ).1 (splitMinutes ℓ).2 := by
  simp only [components, splitMinutes, splitHours, splitDays]
  generalize splitAtUnit ℓ 86400 = days
  generalize splitAtUnit days.2 3600 = hours
  generalize splitAtUnit hours.2 60 = minutes
  rw [String.toList_append, toList_text_signedComponent (x := 'D') _ rfl, signedTime]
  congr 1
  by_cases h0 : hours.1 = 0 ∧ minutes.1 = 0 ∧ minutes.2.isZero = true
  · rw [if_pos h0, if_pos (by simpa [and_assoc] using h0)]
    rfl
  · rw [if_neg h0, if_neg (by simpa [and_assoc] using h0)]
    rw [String.toList_append, String.toList_append, String.toList_append,
      toList_text_signedComponent (x := 'H') _ rfl, toList_text_signedComponent (x := 'M') _ rfl,
      secondsText, List.append_assoc, List.append_assoc]
    by_cases hs : minutes.2.isZero = true
    · rw [if_pos hs, if_pos hs]
      rfl
    · rw [if_neg hs, if_neg hs, String.toList_append]
      rfl

/-- The marks in the text of a duration. -/
def durationMarks : List Char := ['-', 'P', 'Y', 'M', 'D', 'T', 'H', 'S', '.']

theorem writtenWith_components (ℓ : Decimal) : WrittenWith durationMarks (components ℓ).toList := by
  have hcount : ∀ n, ∀ x ∈ durationMarks, WrittenWith durationMarks (signedComponent n x) :=
    fun n x hx => writtenWith_signedComponent n (by decide) hx
  rw [toList_components, writtenWith_append, signedTime, secondsText]
  constructor
  · exact hcount _ 'D' (by decide)
  · split
    · exact writtenWith_nil
    · rw [writtenWith_cons, writtenWith_append, writtenWith_append]
      refine ⟨by decide, hcount _ 'H' (by decide), hcount _ 'M' (by decide), ?_⟩
      split
      · exact writtenWith_nil
      · rw [writtenWith_append, writtenWith_cons]
        exact ⟨(Decimal.writtenWith_text _).mono (by decide), by decide, writtenWith_nil⟩

/-- A length that is counted wrong has a sign in its text. -/
theorem minus_mem_components {ℓ : Decimal} (h : HasSign ℓ) : '-' ∈ (components ℓ).toList := by
  rw [toList_components, signedTime, List.mem_append]
  right
  obtain hhours | hminutes | ⟨hsign, h0⟩ := h
  · rw [if_neg (fun h => hhours.ne h.1)]
    simp [minus_mem_signedComponent hhours]
  · rw [if_neg (fun h => hminutes.ne h.2.1)]
    simp [minus_mem_signedComponent hminutes]
  · have hzero : (splitMinutes ℓ).2.isZero = false := by simpa [Decimal.isZero] using h0
    rw [if_neg (by simp [hzero]), secondsText, if_neg (by simp [hzero]),
      Decimal.text_of_negative hsign hzero]
    simp

end DayTimeDuration

/-! ## 2. Reading the components -/

open DayTimeDuration

/-- The whole seconds in a length. -/
def wholeSeconds (length : Decimal) : Nat := length.coefficient / 10 ^ length.scale

theorem truncate_eq {ℓ : Decimal} (h : ℓ.negative = false) : ℓ.truncate = wholeSeconds ℓ := by
  rw [Decimal.truncate, h, if_neg Bool.false_ne_true]
  rfl

/-- The parts of a duration of so many months and so many seconds. -/
def partsOf (negative : Bool) (months : Nat) (length : Decimal) : DurationParts :=
  ofComponents negative (months / 12) (months % 12) (wholeSeconds length / 86400)
    (wholeSeconds length / 3600 % 24) (wholeSeconds length / 60 % 60)
    (splitMinutes length).2.normalize

variable {n : Nat} {ℓ : Decimal}

theorem toList_components_of_countsExact (hℓ : ℓ.negative = false) (hexact : CountsExact ℓ) :
    dateText (n / 12) (n % 12) 0 ++ (components ℓ).toList =
      dateText (n / 12) (n % 12) (wholeSeconds ℓ / 86400) ++
        timePart (wholeSeconds ℓ / 3600 % 24) (wholeSeconds ℓ / 60 % 60) (splitMinutes ℓ).2 := by
  obtain ⟨hdays, hhours, hminutes⟩ := hexact
  rw [truncate_eq hℓ] at hdays hhours hminutes
  rw [toList_components, hdays, hhours, hminutes]
  rw [show (wholeSeconds ℓ : Int) / 86400 = (wholeSeconds ℓ / 86400 : Nat) by omega,
    show (wholeSeconds ℓ : Int) / 3600 % 24 = (wholeSeconds ℓ / 3600 % 24 : Nat) by omega,
    show (wholeSeconds ℓ : Int) / 60 % 60 = (wholeSeconds ℓ / 60 % 60 : Nat) by omega,
    signedComponent_natCast, signedTime_natCast]
  simp [dateText, component]

/-- A duration that is not zero has a component that is not zero. -/
theorem hasComponent_partsOf (hne : n ≠ 0 ∨ ℓ.isZero = false)
    (hrest : (splitMinutes ℓ).2.IsLength (ℓ.coefficient % (60 * 10 ^ ℓ.scale)) ℓ.scale) :
    ((partsOf negative n ℓ).hasYearMonth || (partsOf negative n ℓ).hasDayTime) = true := by
  by_contra hnone
  simp only [partsOf, ofComponents, Decimal.isZero_normalize, Bool.or_eq_true, bne_iff_ne,
    Bool.not_eq_true', not_or, ne_eq, not_not, Bool.not_eq_false] at hnone
  obtain ⟨⟨hyears, hmonths⟩, ⟨⟨hdays, hhours⟩, hminutes⟩, hseconds⟩ := hnone
  obtain hn | h0 := hne
  · omega
  · have hcoefficient : (splitMinutes ℓ).2.coefficient = 0 := by
      simpa [Decimal.isZero] using hseconds
    have hmod : ℓ.coefficient % (60 * 10 ^ ℓ.scale) = 0 := by
      rw [← hrest.value, hcoefficient, Nat.zero_mul]
    have hdiv : ℓ.coefficient / (60 * 10 ^ ℓ.scale) = 0 := by
      rw [Nat.mul_comm, ← Nat.div_div_eq_div_mul]
      change wholeSeconds ℓ / 60 = 0
      omega
    -- there are no whole minutes, and no seconds beyond them
    have hzero : ℓ.coefficient = 0 := by
      rw [← Nat.div_add_mod ℓ.coefficient (60 * 10 ^ ℓ.scale), hmod, hdiv, Nat.mul_zero]
    simp [Decimal.isZero, hzero] at h0

theorem hasYearMonth_partsOf : (partsOf negative 0 ℓ).hasYearMonth = false := by
  rw [partsOf, ofComponents]
  rfl

theorem hasDayTime_partsOf : (partsOf negative n .zero).hasDayTime = false := by
  have hseconds : (splitMinutes .zero).2.normalize.isZero = true := by decide
  rw [partsOf, ofComponents, hseconds]
  rfl

/-- The text of a duration is read if and only if its length is counted exactly. -/
theorem parse?_toList {lexical : String} (hℓ : ℓ.negative = false)
    (hne : n ≠ 0 ∨ ℓ.isZero = false) (hlexical : lexical.toList =
      lead negative ++ (dateText (n / 12) (n % 12) 0 ++ (components ℓ).toList)) :
    parse? lexical = if CountsExact ℓ then some (partsOf negative n ℓ) else none := by
  have hwritten : WrittenWith durationMarks lexical.toList := by
    rw [hlexical, writtenWith_append, writtenWith_append]
    refine ⟨?_, writtenWith_dateText.mono (by decide), writtenWith_components ℓ⟩
    cases negative <;> simp [lead, durationMarks]
  rw [parse?_lead ((hwritten.trim (by simp [durationMarks, isSpace])).trans hlexical)]
  obtain ⟨hexact, hrest⟩ | ⟨hinexact, hsign, -⟩ := counts_cases hℓ
  · rw [if_pos hexact, toList_components_of_countsExact hℓ hexact]
    exact readBehind_text hrest.positive (hasComponent_partsOf hne hrest)
  · rw [if_neg hinexact]
    exact readBehind_sign (List.mem_append_right _ (minus_mem_components hsign))

/-! ## 3. The totals -/

/-- Whether the minutes in a length, counted in seconds, fit the counter of the reader. -/
def MinutesFit (length : Decimal) : Prop := length.truncate / 60 * 60 < limit

instance (length : Decimal) : Decidable (MinutesFit length) :=
  inferInstanceAs (Decidable (_ < _))

theorem minutesFit_iff (hℓ : ℓ.negative = false) :
    MinutesFit ℓ ↔ wholeSeconds ℓ / 60 * 60 < limit := by
  rw [MinutesFit, truncate_eq hℓ]
  omega

/-- Only the number of days may be too large for its counter. -/
theorem overflowed_partsOf (hn : n < 2 ^ 63) :
    (partsOf negative n ℓ).overflowed = decide (limit ≤ wholeSeconds ℓ / 86400) := by
  have hlimit : limit = 2 ^ 64 := rfl
  simp only [partsOf, ofComponents, ge_iff_le]
  rw [Bool.eq_iff_iff]
  simp only [Bool.or_eq_true, decide_eq_true_eq]
  omega

theorem totalMonths?_partsOf (hn : n < 2 ^ 63) (hdays : wholeSeconds ℓ / 86400 < limit) :
    (partsOf negative n ℓ).totalMonths? = some (if negative then -(n : Int) else n) := by
  have hmonths : 12 * (partsOf negative n ℓ).years + (partsOf negative n ℓ).months = n := by
    change 12 * (n / 12) + n % 12 = n
    omega
  rw [totalMonths?, hmonths, overflowed_partsOf hn]
  simp only [Nat.not_le.mpr hdays, decide_false, Bool.false_or, ge_iff_le, Nat.not_le.mpr hn]
  rfl

theorem totalSeconds?_partsOf (hn : n < 2 ^ 63) (hℓ : ℓ.IsNormal) (hpositive : ℓ.negative = false)
    (hrest : (splitMinutes ℓ).2.IsLength (ℓ.coefficient % (60 * 10 ^ ℓ.scale)) ℓ.scale) :
    (partsOf negative n ℓ).totalSeconds? =
      if MinutesFit ℓ then some (if negative then ℓ.neg else ℓ) else none := by
  have hlimit : limit = 2 ^ 64 := rfl
  have hwhole : (((partsOf negative n ℓ).days * 24 + (partsOf negative n ℓ).hours) * 60 +
      (partsOf negative n ℓ).minutes) * 60 = wholeSeconds ℓ / 60 * 60 := by
    change ((wholeSeconds ℓ / 86400 * 24 + wholeSeconds ℓ / 3600 % 24) * 60 +
      wholeSeconds ℓ / 60 % 60) * 60 = _
    omega
  rw [totalSeconds?, hwhole, overflowed_partsOf hn]
  -- a number of days that is too large for its counter is too long in seconds all the more
  by_cases hfit : wholeSeconds ℓ / 60 * 60 < limit
  · have hsum : wholeSeconds ℓ / 60 * 60 * 10 ^ ℓ.scale + ℓ.coefficient % (60 * 10 ^ ℓ.scale) =
        ℓ.coefficient := by
      rw [wholeSeconds, Nat.div_div_eq_div_mul, Nat.mul_comm (10 ^ ℓ.scale), Nat.mul_assoc,
        Nat.mul_comm, Nat.div_add_mod]
    have hadd := Decimal.add?_whole (by omega) hℓ hpositive hrest.normalize hsum
    have hseconds : (partsOf negative n ℓ).seconds = (splitMinutes ℓ).2.normalize := by
      rw [partsOf, ofComponents]
    have hnegative : (partsOf negative n ℓ).negative = negative := rfl
    rw [if_pos ((minutesFit_iff hpositive).mpr hfit), if_neg (by simp; omega), hseconds, hadd,
      Option.map_some, hnegative]
  · rw [if_neg (mt (minutesFit_iff hpositive).mp hfit), if_pos (by simp; omega)]

/-! ## 4. Reading the text -/

/-- What reading the text of a duration with this length gives. -/
def readBack {α : Type} (type text : String) (length : Decimal) (d : α) : Result α :=
  if ¬ CountsExact length then .error (.invalidLexical type text)
  else if MinutesFit length then .ok d
  else .error .durationRange

/-- A length with few digits is counted exactly, so that only its size matters. -/
theorem readBack_eq_ok {α : Type} {type text : String} {d : α} (hℓ : ℓ.negative = false)
    (hfew : ¬ HasManyDigits ℓ.coefficient ℓ.scale) (hfit : MinutesFit ℓ) :
    readBack type text ℓ d = .ok d := by
  have hexact := countsExact_of_not_hasManyDigits hℓ hfew
  rw [readBack, if_neg (not_not.mpr hexact), if_pos hfit]

namespace Duration

variable {d : Duration}

/-- Whether the months are in range, the seconds are in normal form, and both have one sign. -/
structure IsNormal (d : Duration) : Prop where
  months_lt : d.months.natAbs < 2 ^ 63
  seconds : d.seconds.IsNormal
  sign : d.months ≠ 0 → d.seconds.isZero = false → d.seconds.negative = decide (d.months < 0)

theorem toList_text (hlt : d.months.natAbs < 2 ^ 63)
    (hne : ¬ (d.months = 0 ∧ d.seconds.isZero = true)) :
    d.text.toList = lead d.negative ++ (dateText (d.months.natAbs / 12) (d.months.natAbs % 12) 0 ++
      (DayTimeDuration.components d.seconds.abs).toList) := by
  have hlead : (if d.negative = true then "-P" else "P").toList = lead d.negative := by
    cases d.negative <;> rfl
  rw [text, if_neg (by simpa using hne), String.toList_append, String.toList_append, hlead,
    YearMonthDuration.magnitude_eq hlt, YearMonthDuration.toList_components, List.append_assoc]
  rfl

theorem parse?_text (hlt : d.months.natAbs < 2 ^ 63)
    (hne : ¬ (d.months = 0 ∧ d.seconds.isZero = true)) :
    parse? d.text = if CountsExact d.seconds.abs
      then some (partsOf d.negative d.months.natAbs d.seconds.abs) else none := by
  apply parse?_toList rfl _ (toList_text hlt hne)
  rw [Int.natAbs_ne_zero, ← Bool.not_eq_true]
  exact not_and_or.mp hne

/-- The sign in the text is that of the months and of the seconds. -/
theorem signed_eq (h : d.IsNormal) :
    (if d.negative then -(d.months.natAbs : Int) else d.months.natAbs) = d.months ∧
      (if d.negative then d.seconds.abs.neg else d.seconds.abs).normalize = d.seconds := by
  obtain ⟨-, hs, hsign⟩ := h
  have hnegative : d.negative =
      (decide (d.months < 0) || d.seconds.negative && !d.seconds.isZero) := by
    rw [negative, dayTime, DayTimeDuration.negative, ofSeconds, hs.normalize_eq]
  rw [hnegative]
  generalize d.months = m at hsign ⊢
  generalize d.seconds = s at hs hsign ⊢
  have hmonths : ∀ b, (m ≠ 0 → b = decide (m < 0)) →
      (if b = true then -(m.natAbs : Int) else m.natAbs) = m := by
    intro b hb
    by_cases hm : m = 0
    · simp [hm]
    · rw [hb hm]
      simp only [decide_eq_true_eq]
      split <;> omega
  -- without seconds the sign is that of the months, and otherwise it is that of the seconds
  by_cases h0 : s.isZero = true
  · have hzero : s = .zero := hs.normalize_eq.symm.trans (if_pos h0)
    subst hzero
    constructor
    · apply hmonths
      intro _
      exact Bool.or_false _
    · cases decide (m < 0) <;> rfl
  · rw [Bool.not_eq_true] at h0
    have hsigned : (decide (m < 0) || s.negative && !s.isZero) = s.negative := by
      rw [h0, Bool.not_false, Bool.and_true]
      by_cases hm : m = 0
      · simp [hm]
      · rw [hsign hm h0, Bool.or_self]
    rw [hsigned]
    constructor
    · apply hmonths
      intro hm
      exact hsign hm h0
    · have habs : (if s.negative = true then s.abs.neg else s.abs) = s := by
        obtain ⟨b, c, k, hc, hk⟩ := s
        cases b <;> rfl
      rw [habs, hs.normalize_eq]

theorem totalMonths?_text (h : d.IsNormal) (hfit : MinutesFit d.seconds.abs) :
    (partsOf d.negative d.months.natAbs d.seconds.abs).totalMonths? = some d.months := by
  have hdays := (minutesFit_iff rfl).mp hfit
  rw [totalMonths?_partsOf h.months_lt (by omega), (signed_eq h).1]

theorem totalSeconds?_text (h : d.IsNormal) (hexact : CountsExact d.seconds.abs) :
    (partsOf d.negative d.months.natAbs d.seconds.abs).totalSeconds?.map Decimal.normalize =
      if MinutesFit d.seconds.abs then some d.seconds else none := by
  obtain ⟨-, hrest⟩ | ⟨hinexact, -⟩ := counts_cases (ℓ := d.seconds.abs) rfl
  · rw [totalSeconds?_partsOf h.months_lt h.seconds.abs rfl hrest]
    split
    · rw [Option.map_some, (signed_eq h).2]
    · rfl
  · exact absurd hexact hinexact

/-- The text of a duration is read back, unless its length is counted wrong or too long. -/
theorem parse_text (h : d.IsNormal) :
    parse d.text = readBack "xs:duration" d.text d.seconds.abs d := by
  by_cases hne : d.months = 0 ∧ d.seconds.isZero = true
  · obtain ⟨m, s⟩ := d
    obtain ⟨hm, h0⟩ : m.months = 0 ∧ s.isZero = true := hne
    obtain rfl : s = .zero := h.seconds.normalize_eq.symm.trans (if_pos h0)
    rw [← m.ofMonths_months, hm]
    rfl
  · rw [parse, parse?_text h.months_lt hne, readBack]
    by_cases hexact : CountsExact d.seconds.abs
    · have hseconds := totalSeconds?_text h hexact
      rw [if_pos hexact, if_neg (not_not.mpr hexact)]
      by_cases hfit : MinutesFit d.seconds.abs
      · rw [if_pos hfit] at hseconds ⊢
        obtain ⟨s, hs, hnormal⟩ := Option.map_eq_some_iff.mp hseconds
        simp only [totalMonths?_text h hfit, hs, new, hnormal]
        rw [months, YearMonthDuration.ofMonths_months]
      · rw [if_neg hfit, Option.map_eq_none_iff] at hseconds
        rw [if_neg hfit]
        simp only [hseconds]
        cases (partsOf d.negative d.months.natAbs d.seconds.abs).totalMonths? <;> rfl
    · rw [if_neg hexact, if_pos hexact]

theorem totalMonths?_eq_some {p : DurationParts} {m : Int} (h : p.totalMonths? = some m) :
    ∃ k : Nat, k < 2 ^ 63 ∧ m = if p.negative then -(k : Int) else k := by
  have hlt := natAbs_lt_of_totalMonths? h
  rw [← Option.some.inj (Option.ite_none_left_eq_some.mp h).2] at hlt ⊢
  refine ⟨_, ?_, rfl⟩
  split at hlt <;> omega

theorem totalSeconds?_eq_some {p : DurationParts} (hp : p.seconds.negative = false) {s : Decimal}
    (h : p.totalSeconds? = some s) :
    ∃ t, t.negative = false ∧ s = if p.negative then t.neg else t := by
  unfold totalSeconds? at h
  dsimp only at h
  obtain ⟨-, h⟩ := Option.ite_none_left_eq_some.mp h
  obtain ⟨t, ht, rfl⟩ := Option.map_eq_some_iff.mp h
  exact ⟨t, Decimal.positive_of_add? rfl hp ht, rfl⟩

theorem isNormal_new {k : Nat} (hk : k < 2 ^ 63) {t : Decimal} (ht : t.negative = false)
    (negative : Bool) :
    (new (.ofMonths (if negative then -(k : Int) else k))
      (if negative then t.neg else t)).IsNormal := by
  have hlt : (if negative = true then -(k : Int) else k).natAbs < 2 ^ 63 := by
    split <;> omega
  have hmonths : (new (.ofMonths (if negative then -(k : Int) else k))
      (if negative then t.neg else t)).months = if negative then -(k : Int) else k :=
    YearMonthDuration.months_ofMonths_of_lt hlt
  constructor
  · rw [hmonths]
    exact hlt
  · exact Decimal.isNormal_normalize _
  · intro hm0 hs0
    change Decimal.isZero (Decimal.normalize _) = false at hs0
    rw [Decimal.isZero_normalize] at hs0
    show Decimal.negative (Decimal.normalize _) = _
    rw [hmonths] at hm0 ⊢
    rw [Decimal.negative_normalize hs0]
    cases negative
    · show t.negative = decide ((k : Int) < 0)
      simp [ht]
    · change -(k : Int) ≠ 0 at hm0
      show (!t.negative) = decide (-(k : Int) < 0)
      simp only [ht, Bool.not_false, eq_comm (a := true), decide_eq_true_eq]
      omega

theorem isNormal_of_parse {lexical : String} (h : parse lexical = .ok d) : d.IsNormal := by
  unfold parse at h
  split at h
  · cases h
  · rename_i p hp
    split at h
    · rename_i m s hm hs
      obtain rfl := Except.ok.inj h
      obtain ⟨k, hk, rfl⟩ := totalMonths?_eq_some hm
      obtain ⟨t, ht, rfl⟩ := totalSeconds?_eq_some (positive_of_parse? hp) hs
      exact isNormal_new hk ht p.negative
    · cases h

end Duration

namespace YearMonthDuration

variable {d : YearMonthDuration}

/-- The text of a number of months is read back. -/
theorem parse_text (h : d.months.natAbs < 2 ^ 63) : parse d.text = .ok d := by
  by_cases h0 : d.months = 0
  · rw [← d.ofMonths_months, h0]
    rfl
  · have hnormal : Duration.IsNormal ⟨d, .zero⟩ :=
      ⟨h, ⟨.inl rfl, fun _ => rfl⟩, fun _ hzero => Bool.noConfusion hzero⟩
    have htext : text d = Duration.text ⟨d, .zero⟩ := by
      have hmonths : ¬ (d.months == 0) = true := by simpa using h0
      have hboth : ¬ (Duration.months ⟨d, .zero⟩ == 0 && Decimal.zero.isZero) = true := by
        simp [Duration.months, h0]
      have hcomponents : DayTimeDuration.components Decimal.zero.abs = "" := rfl
      have hnegative : Duration.negative ⟨d, .zero⟩ = negative d := Bool.or_false _
      rw [text, if_neg hmonths, Duration.text, if_neg hboth, hnegative, hcomponents,
        String.append_empty]
    have hexact : CountsExact Decimal.zero.abs := by decide
    have hfit : MinutesFit Decimal.zero.abs := by decide
    have hparse := Duration.parse?_text (d := ⟨d, .zero⟩) h (fun h => h0 h.1)
    rw [if_pos hexact] at hparse
    have hfilter := (Option.filter_eq_some_iff (p := fun p => !p.hasDayTime)).mpr
      ⟨hparse, congrArg not hasDayTime_partsOf⟩
    rw [parse, htext, hfilter]
    simp only [Duration.totalMonths?_text hnormal hfit]
    rw [Duration.months, ofMonths_months]

end YearMonthDuration

namespace DayTimeDuration

variable {d : DayTimeDuration}

/-- The text of a number of seconds is read back, unless its length is counted wrong or too long. -/
theorem parse_text (h : d.seconds.IsNormal) :
    parse d.text = readBack "xs:dayTimeDuration" d.text d.seconds.abs d := by
  obtain ⟨s⟩ := d
  change s.IsNormal at h
  by_cases h0 : s.isZero = true
  · obtain rfl : s = .zero := h.normalize_eq.symm.trans (if_pos h0)
    rfl
  · have hnormal : Duration.IsNormal ⟨.ofMonths 0, s⟩ :=
      ⟨Nat.pow_pos (by decide), h, fun h => absurd rfl h⟩
    have htext : Duration.text ⟨.ofMonths 0, s⟩ = text ⟨s⟩ := by
      have hboth : ¬ (Duration.months ⟨.ofMonths 0, s⟩ == 0 && s.isZero) = true := by
        rw [Bool.and_eq_true]
        exact fun h => h0 h.2
      have hcomponents :
          YearMonthDuration.components (YearMonthDuration.ofMonths 0).magnitude = "" := rfl
      have hnegative : Duration.negative ⟨.ofMonths 0, s⟩ = negative ⟨s⟩ := by
        rw [Duration.negative, Duration.dayTime, ofSeconds, h.normalize_eq]
        rfl
      rw [text, if_neg h0, Duration.text, if_neg hboth, hnegative, hcomponents,
        String.append_empty]
    have hparse := Duration.parse?_text (d := ⟨.ofMonths 0, s⟩) (Nat.pow_pos (by decide))
      (fun h => h0 h.2)
    rw [htext] at hparse
    rw [parse, readBack]
    by_cases hexact : CountsExact s.abs
    · rw [if_pos hexact] at hparse
      have hfilter := (Option.filter_eq_some_iff (p := fun p => !p.hasYearMonth)).mpr
        ⟨hparse, congrArg not hasYearMonth_partsOf⟩
      have hseconds := Duration.totalSeconds?_text hnormal hexact
      rw [hfilter, if_neg (not_not.mpr hexact)]
      dsimp only at hseconds ⊢
      by_cases hfit : MinutesFit s.abs
      · rw [if_pos hfit] at hseconds ⊢
        obtain ⟨t, ht, hnormal⟩ := Option.map_eq_some_iff.mp hseconds
        rw [ht, ofSeconds?, ofSeconds, hnormal]
      · rw [if_neg hfit, Option.map_eq_none_iff] at hseconds
        rw [if_neg hfit, hseconds]
        rfl
    · rw [if_neg hexact] at hparse
      rw [hparse, if_pos hexact]
      rfl

end DayTimeDuration

/-! ## 5. Round trip -/

theorem YearMonthDuration.months_lt_of_parse {lexical : String} {d : YearMonthDuration}
    (h : parse lexical = .ok d) : d.months.natAbs < 2 ^ 63 := by
  unfold parse at h
  split at h
  · cases h
  · split at h
    · rename_i m hm
      have hlt := natAbs_lt_of_totalMonths? hm
      rwa [← Except.ok.inj h, months_ofMonths_of_lt hlt]
    · cases h

theorem DayTimeDuration.isNormal_of_ofSeconds? {s : Option Decimal} {d : DayTimeDuration}
    (h : ofSeconds? s = .ok d) : d.seconds.IsNormal := by
  cases s with
  | none => cases h
  | some s =>
    obtain rfl := Except.ok.inj h
    exact Decimal.isNormal_normalize s

theorem DayTimeDuration.isNormal_of_parse {lexical : String} {d : DayTimeDuration}
    (h : parse lexical = .ok d) : d.seconds.IsNormal := by
  unfold parse at h
  split at h
  · cases h
  · exact isNormal_of_ofSeconds? h

/-- The text of every duration that was read is read back as the same duration, unless its length is
counted wrong, which leaves a sign among the components, or its minutes do not fit their counter. -/
theorem parse_text_of_parse (lexical : String) :
    (∀ d, YearMonthDuration.parse lexical = .ok d → YearMonthDuration.parse d.text = .ok d) ∧
    (∀ d, DayTimeDuration.parse lexical = .ok d → DayTimeDuration.parse d.text =
      readBack "xs:dayTimeDuration" d.text d.seconds.abs d) ∧
    (∀ d, Duration.parse lexical = .ok d → Duration.parse d.text =
      readBack "xs:duration" d.text d.seconds.abs d) := by
  refine ⟨?_, ?_, ?_⟩
  · intro d h
    exact YearMonthDuration.parse_text (YearMonthDuration.months_lt_of_parse h)
  · intro d h
    exact DayTimeDuration.parse_text (DayTimeDuration.isNormal_of_parse h)
  · intro d h
    exact Duration.parse_text (Duration.isNormal_of_parse h)

/-- One day, two hours, three minutes and four and a half seconds. -/
def sampleLength : Decimal := ⟨false, 937845, 1, by decide, by decide⟩

theorem parse_text_of_parse_sample :
    YearMonthDuration.parse "-P14M" = .ok (.ofMonths (-14)) ∧
    YearMonthDuration.parse "-P1Y2M" = .ok (.ofMonths (-14)) ∧
    DayTimeDuration.parse "PT93784.5S" = .ok ⟨sampleLength⟩ ∧
    DayTimeDuration.parse "P1DT2H3M4.5S" = .ok ⟨sampleLength⟩ ∧
    Duration.parse "-P14MT93784.5S" = .ok ⟨.ofMonths (-14), sampleLength.neg⟩ ∧
    Duration.parse "-P1Y2M1DT2H3M4.5S" = .ok ⟨.ofMonths (-14), sampleLength.neg⟩ := by
  have hmonths : YearMonthDuration.parse "-P14M" = .ok (.ofMonths (-14)) := rfl
  have hseconds : DayTimeDuration.parse "PT93784.5S" = .ok ⟨sampleLength⟩ := rfl
  have hboth : Duration.parse "-P14MT93784.5S" = .ok ⟨.ofMonths (-14), sampleLength.neg⟩ := rfl
  have hread : ∀ {α : Type} (type text : String) (d : α),
      readBack type text sampleLength d = .ok d :=
    fun _ _ _ => readBack_eq_ok rfl (by unfold HasManyDigits; decide) (by decide)
  have hmonths' := (parse_text_of_parse _).1 _ hmonths
  have hseconds' := ((parse_text_of_parse _).2.1 _ hseconds).trans (hread _ _ _)
  have hboth' := ((parse_text_of_parse _).2.2 _ hboth).trans (hread _ _ _)
  rw [show (YearMonthDuration.ofMonths (-14)).text = "-P1Y2M" by decide +kernel] at hmonths'
  rw [show DayTimeDuration.text ⟨sampleLength⟩ = "P1DT2H3M4.5S" by decide +kernel] at hseconds'
  rw [show Duration.text ⟨.ofMonths (-14), sampleLength.neg⟩ = "-P1Y2M1DT2H3M4.5S" by
    decide +kernel] at hboth'
  exact ⟨hmonths, hmonths', hseconds, hseconds', hboth, hboth'⟩

/-- The longest length below a minute. -/
def belowMinute : DayTimeDuration :=
  ⟨⟨false, 59999999999999999999999999999, 27, by decide, by decide⟩⟩

/-- The longest length. -/
def longest : DayTimeDuration := ⟨.ofNat 79228162514264337593543950335⟩

/-- A length just below a minute is counted as one minute, and the days of the longest length are
too many for their counter. -/
theorem parse_text_ne_of_many_digits :
    (DayTimeDuration.parse "PT59.999999999999999999999999999S" = .ok belowMinute ∧
      belowMinute.text = "PT1M-0.000000000000000000000000001S" ∧
      DayTimeDuration.parse "PT1M-0.000000000000000000000000001S" =
        .error (.invalidLexical "xs:dayTimeDuration" "PT1M-0.000000000000000000000000001S")) ∧
    DayTimeDuration.parse "PT79228162514264337593543950335S" = .ok longest ∧
      longest.text = "P916992621692874277703054DT23H32M15S" ∧
      DayTimeDuration.parse "P916992621692874277703054DT23H32M15S" = .error .durationRange := by
  have hbelow : belowMinute.text = "PT1M-0.000000000000000000000000001S" := by decide +kernel
  have hlongest : longest.text = "P916992621692874277703054DT23H32M15S" := by decide +kernel
  exact ⟨⟨rfl, hbelow, rfl⟩, rfl, hlongest, rfl⟩

end XPath
