import XPath.Proofs.Text.Digits
import XPath.Proofs.Time.Calendar
import XPath.Value.Lexical

/-!
# Reading dates and times

The readers of the parts of a date or time, applied to the texts of such parts.  Every type finds
its time zone in the last six characters, so the point is that no other part is taken for one: a
time of day is long enough to keep signs out of them, and a date has no colon.
-/

namespace XPath

open XPath.Text XPath.Calendar

namespace Temporal

/-! ## 1. Numbers -/

theorem padded_two {n : Nat} (h : n < 100) :
    ∃ a b, (padded 2 n).toList = [a, b] ∧ isDigit a ∧ isDigit b ∧ twoDigits? [a, b] = some n := by
  have hlen := length_padded_of_lt (w := 2) (by decide) h
  have hdigits := isDigits_padded 2 n
  have hvalue := digitsValue_padded 2 n
  generalize (padded 2 n).toList = s at *
  obtain ⟨a, b, rfl⟩ := List.length_eq_two.mp hlen
  have ha : isDigit a = true := hdigits a (by simp)
  have hb : isDigit b = true := hdigits b (by simp)
  refine ⟨a, b, rfl, ha, hb, ?_⟩
  simp [twoDigits?, ha, hb, hvalue]

theorem twoDigits?_padded {n : Nat} (h : n < 100) : twoDigits? (padded 2 n).toList = some n := by
  obtain ⟨a, b, hab, -, -, hread⟩ := padded_two h
  rw [hab, hread]

/-! ## 2. Time zones -/

/-- Whether a time zone, if there is one, is at most fourteen hours from universal time. -/
def ZoneInRange (zone : Option TimeZone) : Prop := ∀ z ∈ zone, z.minutes.natAbs ≤ 840

theorem splitZone?_of_noColon {s : List Char} (hz : 'Z' ∉ s) (hc : ':' ∉ s) :
    splitZone? s = some (s, none) := by
  rw [← List.mem_reverse] at hz hc
  unfold splitZone?
  split
  · rename_i r h
    simp [h] at hz
  · rename_i h
    simp [h] at hc
  · rfl

theorem splitZone?_of_noSign {s t : List Char} (hlen : 6 ≤ t.length) (hz : 'Z' ∉ t)
    (hplus : '+' ∉ t) (hminus : '-' ∉ t) : splitZone? (s ++ t) = some (s ++ t, none) := by
  have hrev : (s ++ t).reverse = t.reverse ++ s.reverse := List.reverse_append
  rw [← List.mem_reverse] at hz hplus hminus
  rw [← List.length_reverse] at hlen
  -- the last six characters are those of `t`
  obtain ⟨a, b, c, d, e, f, r, hr⟩ :
      ∃ a b c d e f r, t.reverse = a :: b :: c :: d :: e :: f :: r := by
    match t.reverse, hlen with
    | a :: b :: c :: d :: e :: f :: r, _ => exact ⟨a, b, c, d, e, f, r, rfl⟩
  rw [hr] at hrev hz hplus hminus
  unfold splitZone?
  rw [hrev]
  split
  · rename_i h
    obtain ⟨rfl, -⟩ := List.cons.inj h
    simp at hz
  · rename_i h
    simp only [List.cons_append, List.cons.injEq] at h
    obtain ⟨-, -, -, -, -, rfl, -⟩ := h
    have hsign : ¬ (f == '+' || f == '-') = true := by
      simp only [Bool.or_eq_true, beq_iff_eq]
      rintro (rfl | rfl)
      · simp at hplus
      · simp at hminus
    rw [if_neg hsign]
  · rfl

theorem toList_zoneText {z : TimeZone} (h0 : z.minutes ≠ 0) (h : z.minutes.natAbs ≤ 840) :
    ∃ a b c d, z.text.toList = [if z.minutes < 0 then '-' else '+', a, b, ':', c, d] ∧
      isDigit d ∧ twoDigits? [a, b] = some (z.minutes.natAbs / 60) ∧
      twoDigits? [c, d] = some (z.minutes.natAbs % 60) := by
  obtain ⟨a, b, hab, -, -, hhours⟩ := padded_two (n := z.minutes.natAbs / 60) (by omega)
  obtain ⟨c, d, hcd, -, hd, hminutes⟩ := padded_two (n := z.minutes.natAbs % 60) (by omega)
  refine ⟨a, b, c, d, ?_, hd, hhours, hminutes⟩
  simp only [TimeZone.text, beq_iff_eq, h0, if_false, String.toList_append, hab, hcd]
  split <;> rfl

theorem splitZone?_append {s : List Char} {sign a b c d : Char} {h m : Nat} (hd : d ≠ 'Z')
    (hsign : (sign == '+' || sign == '-') = true) (hh : twoDigits? [a, b] = some h)
    (hm : twoDigits? [c, d] = some m) (hm60 : m < 60) (hrange : h * 60 + m ≤ 840) :
    splitZone? (s ++ [sign, a, b, ':', c, d]) =
      some (s, some ⟨if sign == '-' then -(h * 60 + m : Int) else h * 60 + m⟩) := by
  have hrev :
      (s ++ [sign, a, b, ':', c, d]).reverse = d :: c :: ':' :: b :: a :: sign :: s.reverse := by
    simp
  have hrange' : ¬ (m ≥ 60 || decide (h * 60 + m > 840)) = true := by
    simp only [Bool.or_eq_true, decide_eq_true_eq]
    omega
  unfold splitZone?
  rw [hrev]
  split
  · rename_i h
    exact absurd (List.cons.inj h).1 hd
  · rename_i h
    obtain ⟨rfl, rfl, -, rfl, rfl, rfl, rfl⟩ := by simpa only [List.cons.injEq] using h
    simp only [hsign, hh, hm, if_true, if_neg hrange', List.reverse_reverse]
  · rename_i h
    exact absurd rfl (h _ _ _ _ _ _)

/-- A time zone is found behind any text that is not taken for one that ends in a time zone. -/
theorem splitZone?_textOf {s : List Char} {zone : Option TimeZone}
    (hs : splitZone? s = some (s, none)) (h : ZoneInRange zone) :
    splitZone? (s ++ (TimeZone.textOf zone).toList) = some (s, zone) := by
  cases zone with
  | none => simpa [TimeZone.textOf] using hs
  | some z =>
    obtain ⟨n⟩ := z
    have hz : n.natAbs ≤ 840 := h ⟨n⟩ rfl
    change splitZone? (s ++ (TimeZone.text ⟨n⟩).toList) = _
    by_cases h0 : n = 0
    · subst h0
      simp [splitZone?, TimeZone.text, TimeZone.utc]
    · obtain ⟨a, b, c, d, htext, hd, hhours, hminutes⟩ := toList_zoneText (z := ⟨n⟩) h0 hz
      have hdZ : d ≠ 'Z' := by
        rintro rfl
        exact absurd hd (by decide)
      rw [htext, splitZone?_append hdZ (by split <;> rfl) hhours hminutes (Nat.mod_lt _ (by decide))
        (by dsimp only; omega)]
      congr 4
      by_cases hneg : n < 0
      · simp only [hneg, if_true, beq_self_eq_true]
        omega
      · simp only [hneg, if_false, show ('+' == '-') = false from rfl, Bool.false_eq_true]
        omega

/-! ## 3. Days -/

theorem toList_yearText (y : Int) : (yearText y).toList =
    if y < 0 then '-' :: (padded 4 y.natAbs).toList else (padded 4 y.natAbs).toList := by
  unfold yearText
  split <;> simp

theorem length_padded_four (n : Nat) : 4 ≤ (padded 4 n).toList.length := by
  rw [length_padded]
  omega

/-- The reader of years, on a text that is well formed but for the year 0. -/
theorem year?_of_digits {s : List Char} (hs : IsDigits s) (hlen : 4 ≤ s.length)
    (hhead : 4 < s.length → s.head? ≠ some '0') (h : digitsValue s ≤ 2 ^ 31) :
    year? s = (if digitsValue s = 0 then none else some (digitsValue s : Int)) ∧
      year? ('-' :: s) = if digitsValue s = 0 then none else some (-(digitsValue s : Int)) := by
  have hlen' : ¬ s.length < 4 := by omega
  have hhead' : (decide (s.length > 4) && s.head? == some '0') = false := by simpa using hhead
  have hle : ¬ digitsValue s > 2 ^ 31 := by omega
  constructor
  · unfold year?
    split
    rename_i hsign
    split at hsign
    · exact absurd (hs '-' (by simp)) (by decide)
    · obtain ⟨rfl, rfl⟩ := Prod.mk.inj hsign
      simp only [hs.all, hlen', hhead', hle, decide_false, Bool.not_true, Bool.or_false,
        Bool.false_eq_true, if_false, beq_iff_eq]
  · simp only [year?, hs.all, hlen', hhead', hle, decide_false, Bool.not_true, Bool.or_false,
      Bool.false_eq_true, if_false, if_true, beq_iff_eq]

/-- Every year is read back from its text but the year 0, which has none. -/
theorem year?_yearText {y : Int} (h : y.natAbs ≤ 2 ^ 31) :
    year? (yearText y).toList = if y = 0 then none else some y := by
  obtain ⟨hread, hreadNegative⟩ := year?_of_digits (isDigits_padded 4 y.natAbs)
    (length_padded_four y.natAbs) (head?_padded (by decide)) (by rwa [digitsValue_padded])
  rw [digitsValue_padded] at hread hreadNegative
  rw [toList_yearText]
  split
  · rw [hreadNegative, if_neg (by omega), if_neg (by omega)]
    exact congrArg some (by omega)
  · rw [hread]
    simp only [Int.natAbs_eq_zero]
    rw [Int.natAbs_of_nonneg (by omega)]

theorem natAbs_year_le (d : Day) : d.year.natAbs ≤ 2 ^ 31 := by
  have := d.year_natAbs_lt
  omega

theorem month_lt (d : Day) : d.month < 100 := by
  have := d.isDate.1
  omega

theorem dayOfMonth_lt (d : Day) : d.dayOfMonth < 100 := by
  have hd := d.isDate.2.2
  have := daysInMonth_bounds d.year d.month
  omega

theorem toList_dayText (d : Day) : (dayText d).toList = (yearText d.year).toList ++
    '-' :: ((padded 2 d.month).toList ++ '-' :: (padded 2 d.dayOfMonth).toList) := by
  simp [dayText]

theorem not_mem_padded {c : Char} (h : isDigit c = false) (w n : Nat) : c ∉ (padded w n).toList :=
  (isDigits_padded w n).not_mem h

/-- A sign in front does not hide the first separator of a date. -/
theorem day?_append (y : Int) (r : List Char) : day? ((yearText y).toList ++ '-' :: r) = (do
    let (m, d) ← splitFirst? '-' r
    let year ← year? (yearText y).toList
    Day.ofDate? year (← twoDigits? m) (← twoDigits? d)) := by
  have hcut := splitFirst?_append (b := r) (not_mem_padded (c := '-') (by decide) 4 y.natAbs)
  have hdigits := isDigits_padded 4 y.natAbs
  have hlen := length_padded_four y.natAbs
  rw [toList_yearText]
  generalize (padded 4 y.natAbs).toList = s at *
  split
  · simp only [day?, List.cons_append, hcut, Option.bind_eq_bind, Option.bind_some, if_true]
  · unfold day?
    split
    rename_i hsign
    split at hsign
    · rename_i h
      obtain ⟨c, t, rfl⟩ := List.exists_cons_of_length_pos (by omega : 0 < s.length)
      obtain ⟨rfl, -⟩ := List.cons.inj h
      exact absurd (hdigits '-' (by simp)) (by decide)
    · obtain ⟨rfl, rfl⟩ := Prod.mk.inj hsign
      simp only [hcut, Option.bind_eq_bind, Option.bind_some, Bool.false_eq_true, if_false]

/-- Every day is read back from its text, unless it is in the year 0. -/
theorem day?_dayText (d : Day) : day? (dayText d).toList = if d.year = 0 then none else some d := by
  rw [toList_dayText, day?_append, splitFirst?_append (not_mem_padded (by decide) 2 d.month),
    year?_yearText (natAbs_year_le d)]
  simp only [twoDigits?_padded (month_lt d), twoDigits?_padded (dayOfMonth_lt d),
    Option.bind_eq_bind, Option.bind_some]
  split
  · rfl
  · exact d.ofDate?_date

/-! ## 4. Times of day -/

/-- The fraction of a second without the zeros at its end. -/
def fractionDigits (c : Clock) : List Char :=
  ((padded 9 (c.nanos % 1000000000)).toList.reverse.dropWhile (· == '0')).reverse

theorem toList_clockText (c : Clock) : (clockText c).toList =
    (padded 2 c.hour).toList ++ ':' :: ((padded 2 c.minute).toList ++ ':' ::
      ((padded 2 c.second).toList ++
        if c.nanos % 1000000000 = 0 then [] else '.' :: fractionDigits c)) := by
  simp only [clockText, fractionDigits, beq_iff_eq]
  split <;> simp

theorem fractionDigits_spec (c : Clock) : ∃ n, IsDigits (fractionDigits c) ∧
    (fractionDigits c).length + n = 9 ∧
      digitsValue (fractionDigits c) * 10 ^ n = c.nanos % 1000000000 := by
  have hlen := length_padded_of_lt (w := 9) (n := c.nanos % 1000000000) (by decide) (by omega)
  have hdigits := isDigits_padded 9 (c.nanos % 1000000000)
  have hvalue := digitsValue_padded 9 (c.nanos % 1000000000)
  obtain ⟨n, hn⟩ := exists_zeros (padded 9 (c.nanos % 1000000000)).toList
  change _ = fractionDigits c ++ _ at hn
  rw [hn] at hlen hdigits hvalue
  refine ⟨n, fun x hx => hdigits x (List.mem_append_left _ hx), by simpa using hlen, ?_⟩
  rw [digitsValue_append, digitsValue_zeros, List.length_replicate, Nat.add_zero] at hvalue
  rw [← hvalue, Nat.mul_comm]

/-- The nanoseconds that the digits after the point write, none of which is beyond the ninth. -/
theorem fractionDigits_nanos (c : Clock) : digitsValue ((fractionDigits c).take 9) *
    10 ^ (9 - ((fractionDigits c).take 9).length) = c.nanos % 1000000000 := by
  obtain ⟨n, -, hlen, hvalue⟩ := fractionDigits_spec c
  rw [List.take_of_length_le (by omega), ← hvalue,
    show 9 - (fractionDigits c).length = n by omega]

theorem fractionDigits_ne_nil {c : Clock} (h : c.nanos % 1000000000 ≠ 0) :
    fractionDigits c ≠ [] := by
  intro hnil
  obtain ⟨n, -, -, hvalue⟩ := fractionDigits_spec c
  rw [← hvalue, hnil] at h
  exact h (Nat.zero_mul _)

theorem fields_lt (c : Clock) : c.hour < 24 ∧ c.minute < 60 ∧ c.second < 60 := by
  have hc : c.nanos < 86400000000000 := c.nanos_lt
  simp only [Clock.hour, Clock.minute, Clock.second]
  omega

theorem nanos_eq (c : Clock) : ((c.hour * 60 + c.minute) * 60 + c.second) * 1000000000 +
    c.nanos % 1000000000 = c.nanos := by
  simp only [Clock.hour, Clock.minute, Clock.second]
  omega

/-- A time of day is read back from its text. -/
theorem nanos?_clockText (c : Clock) : nanos? (clockText c).toList = some (c.nanos, false) := by
  obtain ⟨hh, hm, hs⟩ := fields_lt c
  have hcolon : ∀ n, ':' ∉ (padded 2 n).toList := not_mem_padded (by decide) 2
  have hpoint : '.' ∉ (padded 2 c.second).toList := not_mem_padded (by decide) 2 _
  have hh24 : (c.hour == 24) = false := by simpa using hh.ne
  rw [toList_clockText]
  unfold nanos?
  simp only [splitFirst?_append (hcolon _), twoDigits?_padded (show c.hour < 100 by omega),
    twoDigits?_padded (show c.minute < 100 by omega), Option.bind_eq_bind, Option.bind_some]
  by_cases h0 : c.nanos % 1000000000 = 0
  · have hnone : digitsValue (List.take 9 []) * 10 ^ (9 - (List.take 9 ([] : List Char)).length) =
        c.nanos % 1000000000 := by
      rw [h0]
      exact Nat.zero_mul _
    rw [if_pos h0, List.append_nil, splitFirst?_eq_none hpoint]
    simp only [twoDigits?_padded (show c.second < 100 by omega), Option.bind_some, hnone, hh24, hh,
      hm, hs, nanos_eq, decide_true, Bool.and_self, Bool.false_eq_true, if_false, if_true]
  · have hdigits := (fractionDigits_spec c).choose_spec.1
    have hnil : (fractionDigits c).isEmpty = false := by simpa using fractionDigits_ne_nil h0
    rw [if_neg h0, splitFirst?_append hpoint]
    simp only [hnil, hdigits.all, twoDigits?_padded (show c.second < 100 by omega),
      Option.bind_some, fractionDigits_nanos, hh24, hh, hm, hs, nanos_eq, decide_true,
      Bool.not_true, Bool.or_self, Bool.and_self, Bool.false_eq_true, if_false, if_true]

/-! ## 5. Whole texts -/

theorem writtenWith_yearText {m : List Char} (h : '-' ∈ m) (y : Int) :
    WrittenWith m (yearText y).toList := by
  rw [toList_yearText]
  split <;> simp [h]

theorem writtenWith_dayText {m : List Char} (h : '-' ∈ m) (d : Day) :
    WrittenWith m (dayText d).toList := by
  simp [toList_dayText, writtenWith_yearText, h]

theorem writtenWith_clockText {m : List Char} (h : ':' ∈ m ∧ '.' ∈ m) (c : Clock) :
    WrittenWith m (clockText c).toList := by
  have hdigits := (fractionDigits_spec c).choose_spec.1
  rw [toList_clockText]
  split <;> simp [hdigits.writtenWith, h]

theorem length_clockText (c : Clock) : 6 ≤ (clockText c).toList.length := by
  have hh := length_padded 2 c.hour
  have hm := length_padded 2 c.minute
  have hs := length_padded 2 c.second
  rw [toList_clockText]
  simp only [List.length_append, List.length_cons]
  omega

theorem writtenWith_textOf (zone : Option TimeZone) :
    WrittenWith ['Z', '+', '-', ':'] (TimeZone.textOf zone).toList := by
  cases zone with
  | none => simp [TimeZone.textOf]
  | some z =>
    change WrittenWith _ z.text.toList
    unfold TimeZone.text
    split
    · simp
    · split <;> simp

theorem splitZone?_clockText (s : List Char) (c : Clock) :
    splitZone? (s ++ (clockText c).toList) = some (s ++ (clockText c).toList, none) :=
  have h := writtenWith_clockText (m := [':', '.']) (by decide) c
  splitZone?_of_noSign (length_clockText c) (h.not_mem (by decide)) (h.not_mem (by decide))
    (h.not_mem (by decide))

/-- A date or a part of one is not taken for a text that ends in a time zone. -/
theorem splitZone?_of_dashes {s : List Char} (h : WrittenWith ['-'] s) :
    splitZone? s = some (s, none) :=
  splitZone?_of_noColon (h.not_mem (by decide)) (h.not_mem (by decide))

/-- The marks of dates and times. -/
def temporalMarks : List Char := ['-', ':', '.', 'T', 'Z', '+']

/-- No date or time has white space at its ends. -/
theorem trim_zoned {s : List Char} {zone : Option TimeZone} (hs : WrittenWith temporalMarks s) :
    trim (s ++ (TimeZone.textOf zone).toList) = s ++ (TimeZone.textOf zone).toList := by
  have hzone := (writtenWith_textOf zone).mono (m := temporalMarks) (by decide)
  exact (writtenWith_append.mpr ⟨hs, hzone⟩).trim (by simp [temporalMarks, isSpace])

end Temporal

open Temporal

/-- A value of xs:dateTime is read back from its text, unless it is in the year 0. -/
theorem DateTime.parse_text {v : DateTime} (hz : ZoneInRange v.zone) : parse v.text =
    if v.fields.day.year = 0 then .error (.invalidLexical "xs:dateTime" v.text) else .ok v := by
  have htext : v.text.toList = ((dayText v.fields.day).toList ++ ['T'] ++
      (clockText v.fields.clock).toList) ++ (TimeZone.textOf v.zone).toList := by
    simp [text]
  have htrim : trim v.text.toList = v.text.toList := by
    rw [htext]
    apply trim_zoned
    simp [writtenWith_dayText, writtenWith_clockText, temporalMarks]
  have hzone := splitZone?_textOf (splitZone?_clockText
    ((dayText v.fields.day).toList ++ ['T']) v.fields.clock) hz
  have hT : 'T' ∉ (dayText v.fields.day).toList :=
    (writtenWith_dayText (m := ['-']) (by decide) v.fields.day).not_mem (by decide)
  have htotal := LocalTime.ofTotal?_total v.fields
  simp only [LocalTime.total] at htotal
  have hread : read? v.text.toList = if v.fields.day.year = 0 then none else some v := by
    rw [htext]
    unfold read?
    rw [hzone]
    simp only [Option.bind_eq_bind, Option.bind_some, List.append_assoc, List.singleton_append,
      splitFirst?_append hT, day?_dayText, nanos?_clockText]
    split
    · rfl
    · simp only [Bool.false_eq_true, if_false, Nat.cast_zero, add_zero, Option.bind_some, htotal]
  unfold parse
  rw [htrim, hread]
  by_cases h0 : v.fields.day.year = 0
  · simp only [if_pos h0]
  · simp only [if_neg h0]

/-- A value of xs:date is read back from its text, unless it is in the year 0. -/
theorem Date.parse_text {v : Date} (hz : ZoneInRange v.zone) : parse v.text =
    if v.day.year = 0 then .error (.invalidLexical "xs:date" v.text) else .ok v := by
  have htext : v.text.toList = (dayText v.day).toList ++ (TimeZone.textOf v.zone).toList := by
    simp [text]
  have htrim : trim v.text.toList = v.text.toList := by
    rw [htext]
    exact trim_zoned (writtenWith_dayText (by decide) v.day)
  have hzone := splitZone?_textOf (splitZone?_of_dashes (writtenWith_dayText (by decide) v.day)) hz
  have hread : read? v.text.toList = if v.day.year = 0 then none else some v := by
    rw [htext]
    unfold read?
    simp only [hzone, Option.bind_eq_bind, Option.bind_some, day?_dayText]
    split <;> rfl
  unfold parse
  rw [htrim, hread]
  by_cases h0 : v.day.year = 0
  · simp only [if_pos h0]
  · simp only [if_neg h0]

theorem Clock.wrap_nanos (c : Clock) : Clock.wrap c.nanos = c := by
  obtain ⟨n, hn⟩ := c
  have : ((n : Int) % dayLength).toNat = n := by
    simp only [dayLength] at *
    omega
  simp only [Clock.wrap, this]

/-- A value of xs:time is read back from its text. -/
theorem Time.parse_text {v : Time} (hz : ZoneInRange v.zone) : parse v.text = .ok v := by
  have htext : v.text.toList = (clockText v.clock).toList ++ (TimeZone.textOf v.zone).toList := by
    simp [text]
  have htrim : trim v.text.toList = v.text.toList := by
    rw [htext]
    exact trim_zoned (writtenWith_clockText (by decide) v.clock)
  have hzone := splitZone?_textOf (splitZone?_clockText [] v.clock) hz
  have hread : read? v.text.toList = some v := by
    rw [htext]
    unfold read?
    simp only [List.nil_append] at hzone
    simp only [hzone, Option.bind_eq_bind, Option.bind_some, nanos?_clockText, Clock.wrap_nanos]
  unfold parse
  rw [htrim, hread]

/-! ## 6. Fragments of dates -/

/-- Whether the fragments of a kind have a year. -/
def GregorianKind.hasYear : GregorianKind → Bool
  | yearMonth | year => true
  | monthDay | day | month => false

namespace Gregorian

/-- Whether the fields that a fragment does not have are those of the reference date. -/
def IsReference (v : Gregorian) : Prop :=
  v.day.date = reference v.kind v.day.year v.day.month v.day.dayOfMonth

/-- The text of a fragment in front of its time zone. -/
def body (v : Gregorian) : String :=
  match v.kind with
  | .yearMonth => yearText v.day.year ++ "-" ++ padded 2 v.day.month
  | .year => yearText v.day.year
  | .monthDay => "--" ++ padded 2 v.day.month ++ "-" ++ padded 2 v.day.dayOfMonth
  | .day => "---" ++ padded 2 v.day.dayOfMonth
  | .month => "--" ++ padded 2 v.day.month

theorem text_eq (v : Gregorian) : v.text = v.body ++ TimeZone.textOf v.zone := rfl

theorem writtenWith_body (v : Gregorian) : WrittenWith ['-'] v.body.toList := by
  unfold body
  split <;> simp [writtenWith_yearText]

theorem fields?_body (v : Gregorian) : fields? v.kind v.body.toList =
    if v.kind.hasYear ∧ v.day.year = 0 then none
    else some (reference v.kind v.day.year v.day.month v.day.dayOfMonth) := by
  have hmonth := twoDigits?_padded (month_lt v.day)
  have hday := twoDigits?_padded (dayOfMonth_lt v.day)
  have hyear := year?_yearText (natAbs_year_le v.day)
  have hdash : ∀ n, '-' ∉ (padded 2 n).toList := not_mem_padded (by decide) 2
  unfold body
  cases v.kind with
  | yearMonth =>
    have htext : (yearText v.day.year ++ "-" ++ padded 2 v.day.month).toList =
        (yearText v.day.year).toList ++ '-' :: (padded 2 v.day.month).toList := by simp
    simp only [fields?, htext, splitLast?_append (hdash _), hyear, hmonth, Option.bind_eq_bind,
      Option.bind_some, GregorianKind.hasYear, reference, true_and]
    split <;> rfl
  | year =>
    simp only [fields?, hyear, Option.bind_eq_bind, GregorianKind.hasYear, reference, true_and]
    split <;> rfl
  | monthDay =>
    have htext : ("--" ++ padded 2 v.day.month ++ "-" ++ padded 2 v.day.dayOfMonth).toList =
        '-' :: '-' :: ((padded 2 v.day.month).toList ++ '-' ::
          (padded 2 v.day.dayOfMonth).toList) := by simp
    simp [fields?, htext, dropStart?, splitFirst?_append (hdash _), hmonth, hday,
      GregorianKind.hasYear, reference]
  | day =>
    simp [fields?, dropStart?, hday, GregorianKind.hasYear, reference]
  | month =>
    simp [fields?, dropStart?, hmonth, GregorianKind.hasYear, reference]

/-- A fragment of a date is read back from its text, unless it is in the year 0. -/
theorem parse_text {v : Gregorian} (hv : v.IsReference) (hz : ZoneInRange v.zone) :
    parse v.kind v.text = if v.kind.hasYear ∧ v.day.year = 0 then
      .error (.invalidLexical v.kind.type.display v.text) else .ok v := by
  have htext : v.text.toList = v.body.toList ++ (TimeZone.textOf v.zone).toList := by
    simp [text_eq]
  have hbody := writtenWith_body v
  have htrim : trim v.text.toList = v.text.toList := by
    rw [htext]
    exact trim_zoned (hbody.mono (by decide))
  have hzone := splitZone?_textOf (splitZone?_of_dashes hbody) hz
  have href : reference v.kind v.day.year v.day.month v.day.dayOfMonth = v.day.date := hv.symm
  have hday : Day.ofDate? v.day.date.1 v.day.date.2.1 v.day.date.2.2 = some v.day :=
    v.day.ofDate?_date
  have hread : read? v.kind v.text.toList =
      if v.kind.hasYear ∧ v.day.year = 0 then none else some v := by
    rw [htext]
    unfold read?
    simp only [hzone, Option.bind_eq_bind, Option.bind_some, fields?_body, href]
    split
    · rfl
    · simp only [Option.bind_some, hday]
  unfold parse
  rw [htrim, hread]
  by_cases h0 : v.kind.hasYear ∧ v.day.year = 0
  · simp only [if_pos h0]
  · simp only [if_neg h0]

theorem reference_reference (kind : GregorianKind) (y : Int) (m d : Nat) {p : Int × Nat × Nat}
    (hp : reference kind y m d = p) : reference kind p.1 p.2.1 p.2.2 = p := by
  subst hp
  cases kind <;> rfl

theorem reference_of_fields? {kind : GregorianKind} {s : List Char} {p : Int × Nat × Nat}
    (h : fields? kind s = some p) : ∃ y m d, p = reference kind y m d := by
  obtain ⟨y, m, d⟩ := p
  refine ⟨y, m, d, ?_⟩
  cases kind <;>
    simp only [fields?, Option.bind_eq_bind, Option.bind_eq_some_iff, Option.some.injEq,
      Prod.mk.injEq] at h
  case yearMonth =>
    obtain ⟨-, -, -, -, -, -, rfl, rfl, rfl⟩ := h
    rfl
  case year =>
    obtain ⟨-, -, rfl, rfl, rfl⟩ := h
    rfl
  case monthDay =>
    obtain ⟨-, -, -, -, -, -, -, -, rfl, rfl, rfl⟩ := h
    rfl
  case day =>
    obtain ⟨-, -, -, -, rfl, rfl, rfl⟩ := h
    rfl
  case month =>
    obtain ⟨-, -, -, -, rfl, rfl, rfl⟩ := h
    rfl

theorem isReference_of_ofDate? {kind : GregorianKind} {y : Int} {m d : Nat} {day : Day}
    {zone : Option TimeZone} {p : Int × Nat × Nat} (hp : p = reference kind y m d)
    (h : Day.ofDate? p.1 p.2.1 p.2.2 = some day) : IsReference ⟨kind, day, zone⟩ := by
  have hdate : day.date = p := Day.ofDate?_eq_some.mp h
  unfold IsReference Day.year Day.month Day.dayOfMonth
  rw [hdate]
  exact (reference_reference kind y m d hp.symm).symm

/-- What is read has the fields of the reference date where its kind has none. -/
theorem isReference_of_read? {kind : GregorianKind} {s : List Char} {v : Gregorian}
    (h : read? kind s = some v) : v.kind = kind ∧ v.IsReference := by
  simp only [read?, Option.bind_eq_bind, Option.bind_eq_some_iff, Option.some.injEq] at h
  obtain ⟨⟨body, zone⟩, -, ⟨y, m, d⟩, hfields, day, hday, rfl⟩ := h
  obtain ⟨y', m', d', hp⟩ := reference_of_fields? hfields
  exact ⟨rfl, isReference_of_ofDate? hp hday⟩

/-- The date that holds a fragment of a supported day is a supported day. -/
theorem exists_reference (kind : GregorianKind) (x : Day) {p : Int × Nat × Nat}
    (hp : p = reference kind x.year x.month x.dayOfMonth) :
    ∃ day, Day.ofDate? p.1 p.2.1 p.2.2 = some day := by
  subst hp
  obtain ⟨hm, hd1, hd⟩ := x.isDate
  have hlast : dayNumber x.year x.month x.dayOfMonth ≤ maxDay := by
    rw [x.dayNumber_date]
    exact x.inRange.2
  have hmonth := daysInMonth_bounds x.year x.month
  -- the year 1972 is in the middle of the supported ones
  have hreference : ∀ m d, IsDate 1972 m d → ∃ day, Day.ofDate? 1972 m d = some day := by
    intro m d h
    apply Day.exists_ofDate? (by decide) h
    obtain ⟨hk, -, -⟩ := dayOfYear_spec h
    obtain ⟨era, r, hr, hyear, hnumber⟩ := dayNumber_eq 1972 m d
    simp only [maxDay, yearStart] at *
    omega
  cases kind <;> simp only [reference]
  case yearMonth =>
    exact Day.exists_ofDate? x.minYear_le ⟨hm, le_rfl, hmonth.1⟩
      ((Day.dayNumber_mono hd1).trans hlast)
  case year =>
    exact Day.exists_ofDate? x.minYear_le ⟨by decide, le_rfl, (daysInMonth_bounds _ 1).1⟩
      ((Day.dayNumber_first_le x.isDate).trans hlast)
  case monthDay => exact hreference _ _ ⟨hm, hd1, by omega⟩
  case day => exact hreference _ _ ⟨by decide, hd1, by change _ ≤ 31; omega⟩
  case month => exact hreference _ _ ⟨hm, le_rfl, (daysInMonth_bounds _ _).1⟩

theorem isReference_ofDay (kind : GregorianKind) (x : Day) (zone : Option TimeZone) :
    (ofDay kind x zone).IsReference := by
  obtain ⟨day, hday⟩ := exists_reference kind x rfl
  have hof : ofDay kind x zone = ⟨kind, day, zone⟩ := by
    simp only [ofDay, hday, Option.getD_some]
  rw [hof]
  exact isReference_of_ofDate? rfl hday

end Gregorian

end XPath
