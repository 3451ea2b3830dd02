import XPath.Proofs.Comparison
import XPath.Proofs.Time.Adjustment

/-!
# Differences of dates and times

The difference of two values is a duration, the exact number of nanoseconds between their instants.
Added to the second value it leads to the instant of the first one, in the time zone of the second.
-/

namespace XPath

open XPath.Number XPath.Calendar

/-! ## 1. Spans as durations -/

namespace DayTimeDuration

variable {n : ℤ}

/-- The fraction of a span has the sign of the span. -/
theorem factor_mul_natAbs_tmod (n m : ℤ) :
    Decimal.factor (n < 0) * ((n.tmod m).natAbs : ℚ) = n.tmod m := by
  by_cases hn : n < 0
  · have hneg : n.tmod m = -(-n).tmod m := by rw [Int.neg_tmod, Int.neg_neg]
    have hnonneg := Int.tmod_nonneg m (show 0 ≤ -n by omega)
    have hsigned : -((n.tmod m).natAbs : ℤ) = n.tmod m := by omega
    rw [Decimal.factor, if_pos (decide_eq_true hn), neg_one_mul, ← Int.cast_natCast, ← Int.cast_neg,
      hsigned]
  · have hsigned : ((n.tmod m).natAbs : ℤ) = n.tmod m :=
      Int.natAbs_of_nonneg (Int.tmod_nonneg m (Int.not_lt.mp hn))
    rw [Decimal.factor, if_neg (by simpa using hn), one_mul, ← Int.cast_natCast, hsigned]

/-- The whole seconds and the fraction of a span are decimals with the digits of nanoseconds, and
they add up to the span. -/
theorem exists_parts (hn : n.natAbs < 2 ^ 96) :
    ∃ s f, Decimal.ofInt? (n.tdiv 1000000000) = some s ∧
      Decimal.ofParts? (n < 0) (n.tmod 1000000000).natAbs 9 = some f ∧
      max s.scale f.scale = 9 ∧ s.value + f.value = n / 10 ^ 9 := by
  have hwhole : (n.tdiv 1000000000).natAbs < 2 ^ 96 := by
    rw [Int.natAbs_tdiv]
    exact (Nat.div_le_self _ _).trans_lt hn
  have hpart : (n.tmod 1000000000).natAbs < 2 ^ 96 := by
    rw [Int.natAbs_tmod]
    exact (Nat.mod_lt _ (by decide)).trans (by decide)
  have hs : Decimal.ofInt? (n.tdiv 1000000000) = _ := Decimal.ofParts?_eq hwhole (by decide)
  have hf : Decimal.ofParts? (n < 0) (n.tmod 1000000000).natAbs 9 = _ :=
    Decimal.ofParts?_eq hpart (by decide)
  refine ⟨_, _, hs, hf, rfl, ?_⟩
  have hsplit : (n : ℚ) = n.tdiv 1000000000 * 1000000000 + n.tmod 1000000000 := by
    exact_mod_cast (Int.tdiv_mul_add_tmod n 1000000000).symm
  rw [Decimal.value_of_ofInt? hs, Decimal.value_of_ofParts? hf, ← mul_div_assoc,
    factor_mul_natAbs_tmod, hsplit]
  norm_num
  ring

/-- A span is not rounded. -/
theorem nanoseconds_ofNanoseconds (hn : n.natAbs ≤ spanLimit) :
    (ofNanoseconds n).nanoseconds = n := by
  have hlimit : spanLimit < 2 ^ 96 := by decide
  have hn : n.natAbs < 2 ^ 96 := hn.trans_lt hlimit
  rcases exists_parts hn with ⟨s, f, hs, hf, hscale, hsum⟩
  have hfits : |s.value + f.value| * 10 ^ max s.scale f.scale < 2 ^ 96 := by
    have habs : |n| < 2 ^ 96 := by
      rw [Int.abs_eq_natAbs]
      omega
    rw [hsum, hscale, abs_div, abs_of_pos (by positivity : (0 : ℚ) < 10 ^ 9),
      div_mul_cancel₀ _ (by positivity)]
    exact_mod_cast habs
  rcases Decimal.exists_add? hfits with ⟨c, hc, hvalue⟩
  have hseconds : (ofNanoseconds n).seconds.value = c.value := by
    simp only [ofNanoseconds, hs, hf, hc, Option.getD_some]
    exact Decimal.value_normalize c
  rw [nanoseconds, hseconds, hvalue, hsum, div_mul_cancel₀ _ (by positivity)]

theorem toNanoseconds_ofNanoseconds (hn : n.natAbs ≤ spanLimit) :
    (ofNanoseconds n).toNanoseconds = .ok n := by
  rw [toNanoseconds_eq, nanoseconds_ofNanoseconds hn, Int.floor_intCast, if_pos hn]

end DayTimeDuration

/-! ## 2. Differences of local times -/

namespace Temporal

/-- All instants are within the largest span of each other. -/
theorem natAbs_total_sub_le (s t : LocalTime) :
    (s.total - t.total).natAbs ≤ DayTimeDuration.spanLimit := by
  have hs := s.day.inRange
  have ht := t.day.inRange
  have hs' := s.clock.nanos_lt
  have ht' := t.clock.nanos_lt
  simp only [LocalTime.total, minDay, maxDay, dayLength, DayTimeDuration.spanLimit] at *
  omega

theorem toNanoseconds_difference (s t : LocalTime) :
    (difference s t).toNanoseconds = .ok (s.total - t.total) :=
  DayTimeDuration.toNanoseconds_ofNanoseconds (natAbs_total_sub_le s t)

/-- The difference in the other order is the opposite one. -/
theorem nanoseconds_difference_swap (s t : LocalTime) :
    (difference t s).neg.nanoseconds = (difference s t).nanoseconds := by
  rw [DayTimeDuration.nanoseconds_neg, difference, difference,
    DayTimeDuration.nanoseconds_ofNanoseconds (natAbs_total_sub_le t s),
    DayTimeDuration.nanoseconds_ofNanoseconds (natAbs_total_sub_le s t)]
  push_cast
  ring

theorem total_of_shift {t u : LocalTime} {n : ℤ} (h : shift t n = .ok u) : u.total = t.total + n :=
  LocalTime.total_of_ofTotal? (shift_eq_ok.mp h)

/-- The difference leads from the second time to the first one. -/
theorem shift_total_sub (s t : LocalTime) : shift t (s.total - t.total) = .ok s := by
  rw [shift_eq_ok, LocalTime.shift?, add_sub_cancel, LocalTime.ofTotal?_total]

end Temporal

/-! ## 3. Differences of values -/

namespace DateTime

variable {v w u : DateTime} {tz : TimeZone} {d : DayTimeDuration}

theorem difference_eq_ok : v.difference w tz = .ok d ↔
    ∃ s t, v.toUtc tz = .ok s ∧ w.toUtc tz = .ok t ∧ Temporal.difference s t = d := map₂_eq_ok

/-- The sum of a value and the difference of another one to it has the instant of the other one. -/
theorem toUtc_addDayTime (hd : v.difference w tz = .ok d) (hu : w.addDayTime d = .ok u) :
    u.toUtc tz = v.toUtc tz := by
  rcases difference_eq_ok.mp hd with ⟨s, t, hs, ht, rfl⟩
  rw [addDayTime, Temporal.toNanoseconds_difference] at hu
  rcases except_map_eq_ok.mp hu with ⟨fields, hfields, rfl⟩
  rw [toUtc, Temporal.toUtc_eq_shift] at ht
  -- both ways lead from the local fields of `w`: by the difference and to universal time
  have hback := Temporal.shift_shift (n := s.total - t.total) ht
  rw [Temporal.shift_total_sub] at hback
  rw [hs, toUtc, Temporal.toUtc_eq_shift, Temporal.shift_shift hfields, Int.add_comm, hback]

end DateTime

namespace Date

variable {v w : Date} {tz : TimeZone} {d : DayTimeDuration}

theorem difference_eq_ok : v.difference w tz = .ok d ↔
    ∃ s t, v.toUtc tz = .ok s ∧ w.toUtc tz = .ok t ∧ Temporal.difference s t = d := map₂_eq_ok

/-- In one time zone days are whole days apart. -/
theorem addDayTime_difference (hzone : v.zone = w.zone) (hd : v.difference w tz = .ok d) :
    w.addDayTime d = .ok v := by
  rcases difference_eq_ok.mp hd with ⟨s, t, hs, ht, rfl⟩
  rw [toUtc, Temporal.toUtc_eq_shift] at hs ht
  have hspan : s.total - t.total = v.start.total - w.start.total := by
    rw [Temporal.total_of_shift hs, Temporal.total_of_shift ht, hzone]
    omega
  rw [addDayTime, Temporal.toNanoseconds_difference, hspan]
  exact except_map_eq_ok.mpr ⟨v.start, Temporal.shift_total_sub _ _, by rw [← hzone]; rfl⟩

end Date

namespace Atomic

variable {tz : TimeZone} {d e : DayTimeDuration}

theorem compare_eq_of_nanoseconds (h : d.nanoseconds = e.nanoseconds) (c : Collation) :
    compare .eq (dayTimeDuration d) (dayTimeDuration e) c tz = .ok true := by
  have hvalue : d.seconds.value = e.seconds.value := mul_right_cancel₀ (by positivity) h
  show Except.ok (Comparison.eq.holds (some (d.seconds.compare e.seconds))) = _
  rw [Decimal.compare_eq_cmp, hvalue, cmp_self_eq_eq]
  rfl

theorem map_dayTimeDuration_eq_ok {r : Result DayTimeDuration} :
    r.map dayTimeDuration = .ok (dayTimeDuration d) ↔ r = .ok d := by
  rw [except_map_eq_ok]
  simp only [dayTimeDuration.injEq, exists_eq_right]

/-- The difference of two values of xs:dateTime, added to the second one, gives a value that equals
the first one, and the difference in the other order is the opposite duration.  The difference of
two days that both have the same time zone or none leads from the second day to the first one. -/
theorem add_difference_cancel (c : Collation) (tz : TimeZone) :
    (∀ (v w : DateTime) (d : DayTimeDuration),
      arithmetic .sub (dateTime v) (dateTime w) tz = .ok (dayTimeDuration d) →
        (∀ u, arithmetic .add (dateTime w) (dayTimeDuration d) tz = .ok u →
          compare .eq u (dateTime v) c tz = .ok true) ∧
        ∃ e, arithmetic .sub (dateTime w) (dateTime v) tz = .ok (dayTimeDuration e) ∧
          compare .eq (dayTimeDuration d) (dayTimeDuration e.neg) c tz = .ok true) ∧
    ∀ (v w : Date) (d : DayTimeDuration), v.zone = w.zone →
      arithmetic .sub (date v) (date w) tz = .ok (dayTimeDuration d) →
        arithmetic .add (date w) (dayTimeDuration d) tz = .ok (date v) ∧
          compare .eq (date v) (date v) c tz = .ok true := by
  constructor
  · intro v w d hsub
    have hd : v.difference w tz = .ok d := map_dayTimeDuration_eq_ok.mp hsub
    rcases DateTime.difference_eq_ok.mp hd with ⟨s, t, hs, ht, hst⟩
    constructor
    · intro u hadd
      rcases except_map_eq_ok.mp hadd with ⟨u, hu, rfl⟩
      rw [compare_eq_of_toUtc (DateTime.toUtc_addDayTime hd hu), hs]
      rfl
    · refine ⟨Temporal.difference t s, ?_, ?_⟩
      · have he : w.difference v tz = .ok (Temporal.difference t s) :=
          DateTime.difference_eq_ok.mpr ⟨t, s, ht, hs, rfl⟩
        exact map_dayTimeDuration_eq_ok.mpr he
      · rw [← hst]
        exact compare_eq_of_nanoseconds (Temporal.nanoseconds_difference_swap s t).symm c
  · intro v w d hzone hsub
    have hd : v.difference w tz = .ok d := map_dayTimeDuration_eq_ok.mp hsub
    rcases Date.difference_eq_ok.mp hd with ⟨s, t, hs, -⟩
    constructor
    · exact except_map_eq_ok.mpr ⟨v, Date.addDayTime_difference hzone hd, rfl⟩
    · show (compareInstants _ _).map (fun o => Comparison.eq.holds (some o)) = _
      rw [compareInstants_self, hs]
      rfl

/-- From 23:00, which an implicit time zone puts five hours to the west, to half past midnight two
hours to the east on the next but one day; and from a day to another across a leap day. -/
theorem add_difference_cancel_sample :
    let east : DateTime := ⟨⟨⟨19783, by decide⟩, ⟨1800500000000, by decide⟩⟩, some ⟨120⟩⟩
    let west : DateTime := ⟨⟨⟨19781, by decide⟩, ⟨82800000000000, by decide⟩⟩, none⟩
    let sum : DateTime := ⟨⟨⟨19782, by decide⟩, ⟨63000500000000, by decide⟩⟩, none⟩
    let d : DayTimeDuration := ⟨⟨false, 666005, 1, by decide, by decide⟩⟩
    let march : Date := ⟨⟨19783, by decide⟩, none⟩
    let february : Date := ⟨⟨19416, by decide⟩, none⟩
    let days : DayTimeDuration := ⟨⟨false, 31708800, 0, by decide, by decide⟩⟩
    d.text = "PT18H30M0.5S" ∧
      arithmetic .sub (dateTime east) (dateTime west) ⟨-300⟩ = .ok (dayTimeDuration d) ∧
      arithmetic .add (dateTime west) (dayTimeDuration d) ⟨-300⟩ = .ok (dateTime sum) ∧
      compare .eq (dateTime sum) (dateTime east) .codepoint ⟨-300⟩ = .ok true ∧
      days.text = "P367D" ∧
      arithmetic .sub (date march) (date february) .utc = .ok (dayTimeDuration days) ∧
      arithmetic .add (date february) (dayTimeDuration days) .utc = .ok (date march) := by
  intro east west sum d march february days
  have hsub : arithmetic .sub (dateTime east) (dateTime west) ⟨-300⟩ = .ok (dayTimeDuration d) :=
    map_dayTimeDuration_eq_ok.mpr (by decide +kernel)
  have hsum : west.addDayTime d = .ok sum := by decide +kernel
  have hadd : arithmetic .add (dateTime west) (dayTimeDuration d) ⟨-300⟩ = .ok (dateTime sum) :=
    except_map_eq_ok.mpr ⟨sum, hsum, rfl⟩
  have hdays : arithmetic .sub (date march) (date february) .utc = .ok (dayTimeDuration days) :=
    map_dayTimeDuration_eq_ok.mpr (by decide +kernel)
  exact ⟨by decide +kernel, hsub, hadd,
    ((add_difference_cancel .codepoint ⟨-300⟩).1 east west d hsub).1 _ hadd, by decide +kernel,
    hdays, ((add_difference_cancel .codepoint .utc).2 march february days rfl hdays).1⟩

end Atomic

end XPath
