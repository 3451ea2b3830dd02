import XPath.Proofs.Number.Nearest
import XPath.Proofs.Time.Lexical
import XPath.Value.Arithmetic

/-!
# Shifted times

A duration shifts a time by whole nanoseconds: its length is rounded down.  Subtraction adds the
opposite duration, whose length is rounded down as well.  So a shift is undone if the length is a
whole number of nanoseconds, and otherwise the time ends up one nanosecond earlier.
-/

namespace XPath

open XPath.Number XPath.Calendar

deriving instance DecidableEq for DayTimeDuration

/-! ## 1. Whole parts -/

namespace Number.Decimal

/-- The whole number that is taken for the number below a decimal. -/
theorem floor_value (d : Decimal) :
    (if d.negative && !d.isWhole then d.truncate - 1 else d.truncate) = ⌊d.value⌋ := by
  have hpow : (0 : ℚ) < 10 ^ d.scale := by positivity
  have hdiv := Nat.div_add_mod d.coefficient (10 ^ d.scale)
  have hlt := Nat.mod_lt d.coefficient (Nat.pow_pos (by decide) : 0 < 10 ^ d.scale)
  have hvalue := d.value_eq
  rw [isWhole, truncate]
  generalize d.coefficient % 10 ^ d.scale = r at *
  generalize d.coefficient / 10 ^ d.scale = q at *
  have hdiv' : (d.coefficient : ℚ) = 10 ^ d.scale * q + r := by exact_mod_cast hdiv.symm
  have hlt' : (r : ℚ) / 10 ^ d.scale < 1 := (div_lt_one hpow).mpr (by exact_mod_cast hlt)
  have hr : (0 : ℚ) ≤ r / 10 ^ d.scale := by positivity
  have hquotient : (d.coefficient : ℚ) / 10 ^ d.scale = q + r / 10 ^ d.scale := by
    rw [hdiv', add_div, mul_div_cancel_left₀ _ hpow.ne']
  rw [hquotient] at hvalue
  symm
  rw [Int.floor_eq_iff, hvalue]
  cases d.negative with
  | false =>
    simp only [Bool.false_and, Bool.false_eq_true, if_false, factor, one_mul, Int.cast_natCast]
    constructor <;> linarith
  | true =>
    by_cases h0 : r = 0
    · simp [h0, factor]
    · have hpos : (0 : ℚ) < r / 10 ^ d.scale := by
        have : (0 : ℚ) < r := by exact_mod_cast Nat.pos_of_ne_zero h0
        positivity
      simp only [beq_eq_false_iff_ne.mpr h0, Bool.not_false, Bool.and_true, if_true, factor,
        neg_one_mul]
      push_cast
      constructor <;> linarith

theorem natAbs_floor_lt {d : Decimal} (hs : d.scale ≠ 0) : ⌊d.value⌋.natAbs < 2 ^ 96 := by
  have hc := d.coefficient_lt
  have hten : 2 ≤ 10 ^ d.scale := by
    calc 2 ≤ 10 ^ 1 := by decide
      _ ≤ 10 ^ d.scale := Nat.pow_le_pow_right (by decide) (Nat.pos_of_ne_zero hs)
  have hhalf : d.coefficient / 10 ^ d.scale ≤ d.coefficient / 2 :=
    Nat.div_le_div_left hten (by decide)
  have htrunc : d.truncate.natAbs = d.coefficient / 10 ^ d.scale := by
    rw [truncate]
    split
    · rw [Int.natAbs_neg, Int.natAbs_natCast]
    · rw [Int.natAbs_natCast]
  rw [← floor_value]
  split <;> omega

/-- The number below a decimal has room, as its coefficient loses digits. -/
theorem floor_spec (d : Decimal) : d.floor.value = ⌊d.value⌋ ∧ d.floor.scale = 0 := by
  rw [floor, floor_value, wholeOf]
  by_cases hs : d.scale = 0
  · rw [if_pos (beq_iff_eq.mpr hs)]
    have hwhole : d.value = d.signed := by rw [value, hs, pow_zero, div_one]
    rw [hwhole, Int.floor_intCast]
    exact ⟨rfl, hs⟩
  · rw [if_neg (by simpa using hs)]
    have hint : ofInt? ⌊d.value⌋ = some _ := ofParts?_eq (natAbs_floor_lt hs) (by decide)
    rw [hint, Option.getD_some]
    exact ⟨value_of_ofInt? hint, rfl⟩

theorem value_ofNat {n : ℕ} (hn : n < 2 ^ 96) : (ofNat n).value = n := by
  rw [ofNat_eq hn]
  simp [value_eq, factor]

/-- A fraction of a second in nanoseconds is exact: the point moves, and a digit is dropped only if
it is a zero. -/
theorem exists_mul?_billion {f : Decimal} (hf : |f.value| < 1) :
    ∃ p, f.mul? (ofNat 1000000000) = some p ∧ p.value = f.value * 10 ^ 9 := by
  have hc := f.coefficient_lt
  have hs := f.scale_le
  have hlt : f.coefficient < 10 ^ f.scale := by
    have habs : |f.value| = f.coefficient / 10 ^ f.scale := by
      rw [← value_abs, value_eq]
      simp [abs, factor]
    rw [habs, div_lt_one (by positivity)] at hf
    exact_mod_cast hf
  have hbillion : (ofNat 1000000000).value = 10 ^ 9 := by
    rw [value_ofNat (by decide)]
    norm_num
  rw [← hbillion]
  rcases Nat.le_total 9 f.scale with hlong | hshort
  · apply exists_mul? (c := f.coefficient) (t := f.scale - 9) _ (by simp [ofNat]; omega) hc
    have hpow : 10 ^ f.scale = 10 ^ 9 * 10 ^ (f.scale - 9) := by
      rw [← Nat.pow_add, Nat.add_sub_cancel' hlong]
    show f.coefficient * 10 ^ 9 * 10 ^ (f.scale - 9) = f.coefficient * 10 ^ f.scale
    rw [hpow, Nat.mul_assoc]
  · have hpow : 10 ^ 9 = 10 ^ (9 - f.scale) * 10 ^ f.scale := by
      rw [← Nat.pow_add, Nat.sub_add_cancel hshort]
    have hfits : f.coefficient * 10 ^ (9 - f.scale) < 2 ^ 96 := by
      have hle := Nat.mul_le_mul_right (10 ^ (9 - f.scale)) hlt.le
      rw [← Nat.pow_add, Nat.add_sub_cancel' hshort] at hle
      omega
    apply exists_mul? (c := f.coefficient * 10 ^ (9 - f.scale)) (t := 0) _ (Nat.zero_le _) hfits
    show f.coefficient * 10 ^ 9 * 10 ^ 0 = f.coefficient * 10 ^ (9 - f.scale) * 10 ^ f.scale
    rw [Nat.pow_zero, Nat.mul_one, hpow, Nat.mul_assoc]

end Number.Decimal

/-! ## 2. Lengths in nanoseconds -/

namespace DayTimeDuration

/-- The exact length in nanoseconds. -/
def nanoseconds (d : DayTimeDuration) : ℚ := d.seconds.value * 10 ^ 9

/-- Whether the length is a whole number of nanoseconds. -/
def IsWholeNanoseconds (d : DayTimeDuration) : Prop := (⌊d.nanoseconds⌋ : ℚ) = d.nanoseconds

instance (d : DayTimeDuration) : Decidable d.IsWholeNanoseconds :=
  inferInstanceAs (Decidable (_ = _))

theorem nanoseconds_neg (d : DayTimeDuration) : d.neg.nanoseconds = -d.nanoseconds := by
  show d.seconds.neg.value * 10 ^ 9 = _
  rw [Decimal.value_neg, neg_mul, nanoseconds]

/-- The length is rounded down, unless it is longer than the largest span. -/
theorem toNanoseconds_eq (d : DayTimeDuration) : d.toNanoseconds =
    if ⌊d.nanoseconds⌋.natAbs ≤ spanLimit then .ok ⌊d.nanoseconds⌋ else .error .durationRange := by
  rcases d.seconds.floor_spec with ⟨hfloor, hscale⟩
  have hfract : d.seconds.value - d.seconds.floor.value = Int.fract d.seconds.value := by
    rw [hfloor, Int.self_sub_floor]
  have h0 := Int.fract_nonneg d.seconds.value
  have h1 := Int.fract_lt_one d.seconds.value
  obtain ⟨f, hf, hfvalue⟩ := Decimal.exists_sub? (a := d.seconds) (b := d.seconds.floor) (by
    rw [hfract, abs_of_nonneg h0, hscale, Nat.max_eq_left (Nat.zero_le _)]
    have hpow : (10 : ℚ) ^ d.seconds.scale ≤ 10 ^ 28 :=
      pow_le_pow_right₀ (by norm_num) d.seconds.scale_le
    calc Int.fract d.seconds.value * 10 ^ d.seconds.scale
        ≤ 1 * 10 ^ 28 := mul_le_mul h1.le hpow (by positivity) zero_le_one
      _ < 2 ^ 96 := by norm_num)
  rw [hfract] at hfvalue
  obtain ⟨p, hp, hpvalue⟩ := Decimal.exists_mul?_billion (f := f) (by
    rw [hfvalue, abs_of_nonneg h0]
    exact h1)
  have hwhole : d.seconds.floor.truncate = ⌊d.seconds.value⌋ := by
    rw [Decimal.truncate_eq_wholePart, hfloor, wholePart, Rat.num_intCast, Rat.den_intCast]
    exact Int.tdiv_one _
  have hnanos : p.truncate = ⌊Int.fract d.seconds.value * 10 ^ 9⌋ := by
    rw [Decimal.truncate_eq_wholePart, hpvalue, hfvalue, wholePart_of_nonneg (by positivity)]
  have hsum : ⌊d.seconds.value⌋ * 1000000000 + ⌊Int.fract d.seconds.value * 10 ^ 9⌋ =
      ⌊d.nanoseconds⌋ := by
    have hsplit : d.nanoseconds = (⌊d.seconds.value⌋ * 1000000000 : ℤ) +
        Int.fract d.seconds.value * 10 ^ 9 := by
      rw [nanoseconds, Int.fract]
      push_cast
      ring
    rw [hsplit, Int.floor_intCast_add]
  rw [toNanoseconds, hf, Option.bind_some, hp]
  dsimp only
  rw [hwhole, hnanos, hsum]

/-- The opposite duration is rounded down as well, and so it is longer if the length is not whole.
-/
theorem floor_add_floor_neg (d : DayTimeDuration) :
    ⌊d.nanoseconds⌋ + ⌊d.neg.nanoseconds⌋ = if d.IsWholeNanoseconds then 0 else -1 := by
  rw [nanoseconds_neg, Int.floor_neg]
  by_cases h : d.IsWholeNanoseconds
  · rw [if_pos h]
    unfold IsWholeNanoseconds at h
    rw [← h, Int.floor_intCast, Int.ceil_intCast, Int.add_right_neg]
  · have hceil : ⌈d.nanoseconds⌉ = ⌊d.nanoseconds⌋ + 1 := by
      rw [Int.ceil_eq_floor_add_one_iff_notMem]
      rintro ⟨n, hn⟩
      apply h
      unfold IsWholeNanoseconds
      rw [← hn, Int.floor_intCast]
    rw [if_neg h, hceil]
    omega

end DayTimeDuration

/-! ## 3. Shifts -/

namespace Calendar

theorem LocalTime.shift?_shift? {t u : LocalTime} {m n : ℤ} (h : t.shift? m = some u) :
    u.shift? n = t.shift? (m + n) := by
  rw [shift?, total_of_ofTotal? h, shift?, Int.add_assoc]

theorem LocalTime.shift?_zero (t : LocalTime) : t.shift? 0 = some t := by
  rw [shift?, Int.add_zero, ofTotal?_total]

theorem Clock.nanos_wrap (n : ℤ) : ((wrap n).nanos : ℤ) = n % dayLength :=
  Int.toNat_of_nonneg (Int.emod_nonneg n (by decide))

theorem Clock.wrap_congr {m n : ℤ} (h : m % dayLength = n % dayLength) : wrap m = wrap n := by
  simp only [wrap, h]

theorem Clock.wrap_add_wrap (k m n : ℤ) :
    wrap ((wrap (k + m)).nanos + n) = wrap (k + (m + n)) := by
  apply wrap_congr
  rw [nanos_wrap, Int.emod_add_emod, Int.add_assoc]

end Calendar

namespace Atomic

/-- Whether a value is a time that is shifted by nanoseconds. -/
def IsMoment : Atomic → Prop
  | dateTime _ | time _ => True
  | _ => False

/-- The time zone of such a time. -/
def zone? : Atomic → Option TimeZone
  | dateTime t => t.zone
  | time t => t.zone
  | _ => none

/-- The time so many nanoseconds later, on another day if it has a day, and else around midnight. -/
def later? : Atomic → ℤ → Option Atomic
  | dateTime t, n => (t.fields.shift? n).map fun fields => dateTime ⟨fields, t.zone⟩
  | time t, n => some (time ⟨Clock.wrap (t.clock.nanos + n), t.zone⟩)
  | _, _ => none

variable {v u w : Atomic} {d : DayTimeDuration} {tz : TimeZone} {m n : ℤ}

theorem later?_later? (h : v.later? m = some u) : u.later? n = v.later? (m + n) := by
  cases v with
  | dateTime t =>
    obtain ⟨fields, hfields, rfl⟩ := Option.map_eq_some_iff.mp h
    rw [later?, later?, LocalTime.shift?_shift? hfields]
  | time t =>
    obtain rfl := Option.some.inj h
    rw [later?, later?, Clock.wrap_add_wrap]
  | _ => cases h

theorem later?_zero (hv : v.IsMoment) : v.later? 0 = some v := by
  cases v with
  | dateTime t => rw [later?, LocalTime.shift?_zero, Option.map_some]
  | time t => rw [later?, Int.add_zero, Clock.wrap_nanos]
  | _ => exact hv.elim

theorem zone?_of_later? (h : v.later? n = some u) : u.IsMoment ∧ u.zone? = v.zone? := by
  cases v with
  | dateTime t =>
    obtain ⟨fields, -, rfl⟩ := Option.map_eq_some_iff.mp h
    exact ⟨trivial, rfl⟩
  | time t =>
    obtain rfl := Option.some.inj h
    exact ⟨trivial, rfl⟩
  | _ => cases h

/-- One nanosecond earlier is another time. -/
theorem later?_ne : v.later? (-1) ≠ some v := by
  intro h
  cases v with
  | dateTime t =>
    obtain ⟨fields, hfields, heq⟩ := Option.map_eq_some_iff.mp h
    have hsame : fields = t.fields := congrArg DateTime.fields (dateTime.inj heq)
    have htotal := LocalTime.total_of_ofTotal? hfields
    rw [hsame] at htotal
    omega
  | time t =>
    have hclock : Clock.wrap (t.clock.nanos + -1) = t.clock :=
      congrArg Time.clock (time.inj (Option.some.inj h))
    have hnanos : ((t.clock.nanos + -1) % dayLength : ℤ).toNat = t.clock.nanos :=
      congrArg Clock.nanos hclock
    simp only [dayLength] at hnanos
    omega
  | _ => cases h

theorem addDayTime_dateTime_eq_ok {t : DateTime} : (t.addDayTime d).map dateTime = .ok u ↔
    ∃ n, d.toNanoseconds = .ok n ∧ (dateTime t).later? n = some u := by
  rw [DateTime.addDayTime]
  cases hn : d.toNanoseconds with
  | error e =>
    refine iff_of_false (fun h => ?_) (fun ⟨n, h, _⟩ => ?_) <;> cases h
  | ok n =>
    have hlater : (∃ k, Except.ok (ε := Error) n = .ok k ∧ (dateTime t).later? k = some u) ↔
        (dateTime t).later? n = some u := by
      refine ⟨fun ⟨k, hk, h⟩ => ?_, fun h => ⟨n, rfl, h⟩⟩
      cases hk
      exact h
    rw [hlater, later?]
    show ((Temporal.shift t.fields n).map (⟨·, t.zone⟩)).map dateTime = .ok u ↔ _
    rw [Temporal.shift]
    cases t.fields.shift? n with
    | none => exact iff_of_false (fun h => by cases h) (fun h => by cases h)
    | some fields =>
      show Except.ok _ = Except.ok _ ↔ some _ = some _
      rw [Except.ok.injEq, Option.some.injEq]

theorem addDayTime_time_eq_ok {t : Time} : (t.addDayTime d).map time = .ok u ↔
    ∃ n, d.toNanoseconds = .ok n ∧ (time t).later? n = some u := by
  rw [Time.addDayTime]
  cases hn : d.toNanoseconds with
  | error e =>
    refine iff_of_false (fun h => ?_) (fun ⟨n, h, _⟩ => ?_) <;> cases h
  | ok n =>
    show Except.ok (time ⟨Clock.wrap (t.clock.nanos + n), t.zone⟩) = Except.ok u ↔ _
    rw [Except.ok.injEq]
    refine ⟨fun h => ⟨n, rfl, congrArg some h⟩, fun ⟨k, hk, h⟩ => ?_⟩
    cases hk
    exact Option.some.inj h

theorem arithmetic_add_eq_ok (hv : v.IsMoment) :
    arithmetic .add v (dayTimeDuration d) tz = .ok u ↔
      ∃ n, d.toNanoseconds = .ok n ∧ v.later? n = some u := by
  cases v with
  | dateTime t => exact addDayTime_dateTime_eq_ok
  | time t => exact addDayTime_time_eq_ok
  | _ => exact hv.elim

theorem arithmetic_sub_eq_ok (hv : v.IsMoment) :
    arithmetic .sub v (dayTimeDuration d) tz = .ok u ↔
      ∃ n, d.neg.toNanoseconds = .ok n ∧ v.later? n = some u := by
  cases v with
  | dateTime t => exact addDayTime_dateTime_eq_ok
  | time t => exact addDayTime_time_eq_ok
  | _ => exact hv.elim

/-! ## 4. There and back -/

/-- A shift is undone if and only if the duration is a whole number of nanoseconds.  Otherwise the
time ends up one nanosecond earlier.  The time zone stays in any case. -/
theorem add_duration_sub_cancel_iff (hv : v.IsMoment)
    (hadd : arithmetic .add v (dayTimeDuration d) tz = .ok u) :
    u.zone? = v.zone? ∧
      (d.IsWholeNanoseconds → arithmetic .sub u (dayTimeDuration d) tz = .ok v) ∧
      ∀ w, arithmetic .sub u (dayTimeDuration d) tz = .ok w →
        w.zone? = v.zone? ∧ (w = v ↔ d.IsWholeNanoseconds) ∧
        (¬ d.IsWholeNanoseconds → v.later? (-1) = some w) := by
  rcases (arithmetic_add_eq_ok hv).mp hadd with ⟨m, hm, hlater⟩
  rcases zone?_of_later? hlater with ⟨hu, hzone⟩
  have hback := d.floor_add_floor_neg
  rw [DayTimeDuration.toNanoseconds_eq] at hm
  obtain ⟨hspan, hm⟩ :
      ⌊d.nanoseconds⌋.natAbs ≤ DayTimeDuration.spanLimit ∧ ⌊d.nanoseconds⌋ = m := by
    split at hm
    · rename_i hspan
      exact ⟨hspan, Except.ok.inj hm⟩
    · cases hm
  refine ⟨hzone, fun hwhole => ?_, fun w hsub => ?_⟩
  · rw [if_pos hwhole] at hback
    rw [arithmetic_sub_eq_ok hu]
    refine ⟨⌊d.neg.nanoseconds⌋, ?_, ?_⟩
    · rw [DayTimeDuration.toNanoseconds_eq, if_pos (by omega)]
    · rw [later?_later? hlater, ← hm, hback, later?_zero hv]
  · rcases (arithmetic_sub_eq_ok hu).mp hsub with ⟨n, hn, hlater'⟩
    rw [DayTimeDuration.toNanoseconds_eq] at hn
    have hn : ⌊d.neg.nanoseconds⌋ = n := by
      split at hn
      · exact Except.ok.inj hn
      · cases hn
    rw [later?_later? hlater, ← hm, ← hn, hback] at hlater'
    refine ⟨(zone?_of_later? hlater').2, ?_, fun hwhole => ?_⟩
    · by_cases hwhole : d.IsWholeNanoseconds
      · rw [if_pos hwhole, later?_zero hv] at hlater'
        exact iff_of_true (Option.some.inj hlater').symm hwhole
      · rw [if_neg hwhole] at hlater'
        refine iff_of_false (fun heq => ?_) hwhole
        rw [heq] at hlater'
        exact later?_ne hlater'
    · rwa [if_neg hwhole] at hlater'

/-- Noon. -/
def noon : Time := ⟨⟨43200000000000, by decide⟩, some .utc⟩

/-- Half a second behind noon and back. -/
theorem add_duration_sub_cancel_iff_sample :
    let half : DayTimeDuration := ⟨⟨false, 5, 1, by decide, by decide⟩⟩
    let later : Time := ⟨⟨43200500000000, by decide⟩, some .utc⟩
    half.IsWholeNanoseconds ∧
      arithmetic .add (time noon) (dayTimeDuration half) .utc = .ok (time later) ∧
      arithmetic .sub (time later) (dayTimeDuration half) .utc = .ok (time noon) := by
  intro half later
  have hadd : arithmetic .add (time noon) (dayTimeDuration half) .utc = .ok (time later) :=
    (arithmetic_add_eq_ok (v := time noon) trivial).mpr ⟨500000000, by decide +kernel, rfl⟩
  have hwhole : half.IsWholeNanoseconds := by
    have hn : half.nanoseconds = (500000000 : ℤ) := by
      norm_num [DayTimeDuration.nanoseconds, Decimal.value_eq, Decimal.factor, half]
    unfold DayTimeDuration.IsWholeNanoseconds
    rw [hn, Int.floor_intCast]
  exact ⟨hwhole, hadd, (add_duration_sub_cancel_iff (v := time noon) trivial hadd).2.1 hwhole⟩

/-- Half a nanosecond. -/
def halfNanosecond : DayTimeDuration := ⟨⟨false, 5, 10, by decide, by decide⟩⟩

/-- Half a nanosecond behind noon is noon, but half a nanosecond before noon is a nanosecond before.
-/
theorem add_half_nanosecond_sub_ne :
    DayTimeDuration.parse "PT0.0000000005S" = .ok halfNanosecond ∧
      arithmetic .add (time noon) (dayTimeDuration halfNanosecond) .utc = .ok (time noon) ∧
      arithmetic .sub (time noon) (dayTimeDuration halfNanosecond) .utc =
        .ok (time ⟨⟨43199999999999, by decide⟩, some .utc⟩) ∧
      time ⟨⟨43199999999999, by decide⟩, some .utc⟩ ≠ time noon := by
  have hzero : halfNanosecond.toNanoseconds = .ok 0 := by decide +kernel
  have hone : halfNanosecond.neg.toNanoseconds = .ok (-1) := by decide +kernel
  refine ⟨by decide +kernel, (arithmetic_add_eq_ok (v := time noon) trivial).mpr ⟨0, hzero, rfl⟩,
    (arithmetic_sub_eq_ok (v := time noon) trivial).mpr ⟨-1, hone, rfl⟩, fun h => ?_⟩
  have hnanos : 43199999999999 = 43200000000000 := congrArg (fun t => t.clock.nanos) (time.inj h)
  exact absurd hnanos (by decide)

end Atomic

end XPath
