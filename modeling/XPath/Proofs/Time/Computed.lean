import XPath.Proofs.Result
import XPath.Proofs.Time.Lexical
import XPath.Value.Arithmetic

/-!
# Computed dates

Adding and subtracting durations, adjusting to a time zone and reading `24:00:00` as the start of
the next day may all end in the year 0, which the calendar has and no lexical form does.  A computed
xs:dateTime or xs:date is read back from its text exactly if it is in another year.
-/

namespace XPath

open XPath.Text XPath.Calendar Temporal

/-! ## 1. Time zones of results -/

theorem Temporal.zoneInRange_of_splitZone? {s body : List Char} {zone : Option TimeZone}
    (h : splitZone? s = some (body, zone)) : ZoneInRange zone := by
  have hnone : ZoneInRange none := by
    intro z hz
    cases hz
  unfold splitZone? at h
  split at h
  · obtain ⟨-, rfl⟩ := Prod.mk.inj (Option.some.inj h)
    intro z hz
    obtain rfl := Option.mem_some_iff.mp hz
    decide
  · split at h
    · split at h
      · rename_i hours minutes _ _
        split at h
        · cases h
        · rename_i hrange
          obtain ⟨-, rfl⟩ := Prod.mk.inj (Option.some.inj h)
          intro z hz
          obtain rfl := Option.mem_some_iff.mp hz
          simp only [Bool.or_eq_true, decide_eq_true_eq] at hrange
          dsimp only
          split <;> omega
      · cases h
    · obtain ⟨-, rfl⟩ := Prod.mk.inj (Option.some.inj h)
      exact hnone
  · obtain ⟨-, rfl⟩ := Prod.mk.inj (Option.some.inj h)
    exact hnone

/-- The time zones that durations give are in range. -/
theorem TimeZone.ofDuration_inRange (d : DayTimeDuration) :
    Ensures (ofDuration d) fun z => ZoneInRange (some z) := by
  unfold ofDuration
  dsimp only
  split
  · rename_i r q _ _
    rw [ensures_ite]
    refine ⟨fun _ => ensures_error, fun hvalid => ?_⟩
    have hfits : Number.fits 32 q.truncate = true := by
      rw [Bool.or_eq_true, not_or] at hvalid
      simpa using hvalid.2
    rw [ofMinutes?_eq hfits]
    split
    · rename_i z hz
      rw [ensures_ok]
      intro z' hz'
      obtain rfl := Option.mem_some_iff.mp hz'
      split at hz
      · obtain rfl := Option.some.inj hz
        decide
      · obtain ⟨hle, hz⟩ := Option.ite_none_right_eq_some.mp hz
        rw [← Option.some.inj hz]
        exact hle
    · exact ensures_error
  · exact ensures_error

namespace DateTime

theorem zone_parse (lexical : String) : Ensures (parse lexical) fun v => ZoneInRange v.zone := by
  unfold parse
  split
  · rename_i v h
    rw [ensures_ok]
    simp only [read?, Option.bind_eq_bind, Option.bind_eq_some_iff, Option.some.injEq] at h
    obtain ⟨⟨body, zone⟩, hzone, -, -, -, -, -, -, -, -, rfl⟩ := h
    exact zoneInRange_of_splitZone? hzone
  · exact ensures_error

theorem zone_addYearMonth (v : DateTime) (d : YearMonthDuration) :
    Ensures (v.addYearMonth d) fun w => w.zone = v.zone :=
  ensures_except_map.mpr (ensures_of_forall fun _ => rfl)

theorem zone_addDayTime (v : DateTime) (d : DayTimeDuration) :
    Ensures (v.addDayTime d) fun w => w.zone = v.zone :=
  ensures_bind_of_forall fun _ => ensures_except_map.mpr (ensures_of_forall fun _ => rfl)

theorem zone_adjust (v : DateTime) (zone : Option TimeZone) :
    Ensures (v.adjust zone) fun w => w.zone = zone :=
  ensures_except_map.mpr (ensures_of_forall fun _ => rfl)

end DateTime

namespace Date

theorem zone_parse (lexical : String) : Ensures (parse lexical) fun v => ZoneInRange v.zone := by
  unfold parse
  split
  · rename_i v h
    rw [ensures_ok]
    simp only [read?, Option.bind_eq_bind, Option.bind_eq_some_iff, Option.some.injEq] at h
    obtain ⟨⟨body, zone⟩, hzone, -, -, rfl⟩ := h
    exact zoneInRange_of_splitZone? hzone
  · exact ensures_error

theorem zone_addYearMonth (v : Date) (d : YearMonthDuration) :
    Ensures (v.addYearMonth d) fun w => w.zone = v.zone :=
  ensures_except_map.mpr (ensures_of_forall fun _ => rfl)

theorem zone_addDayTime (v : Date) (d : DayTimeDuration) :
    Ensures (v.addDayTime d) fun w => w.zone = v.zone :=
  ensures_bind_of_forall fun _ => ensures_except_map.mpr (ensures_of_forall fun _ => rfl)

theorem zone_adjust (v : Date) (zone : Option TimeZone) :
    Ensures (v.adjust zone) fun w => w.zone = zone :=
  ensures_except_map.mpr (ensures_of_forall fun _ => rfl)

end Date

/-! ## 2. Steps and runs -/

namespace Atomic

/-- The day of an xs:dateTime or xs:date. -/
def day? : Atomic → Option Day
  | dateTime v => some v.fields.day
  | date v => some v.day
  | _ => none

/-- Whether a value is an xs:dateTime or xs:date in a time zone that a lexical form can have. -/
def IsDate : Atomic → Prop
  | dateTime v => ZoneInRange v.zone
  | date v => ZoneInRange v.zone
  | _ => False

/-- Whether a value is a duration that moves dates. -/
def IsSpan : Atomic → Prop
  | yearMonthDuration _ | dayTimeDuration _ => True
  | _ => False

/-- The xs:dateTime and xs:date values that are read, and those computed from them. -/
inductive Computed (tz : TimeZone) : Atomic → Prop
  | read {t : AtomicType} {lexical : String} {v : Atomic} (ht : t = .dateTime ∨ t = .date)
      (h : ofLexical t lexical = .ok v) : Computed tz v
  | add {v d w : Atomic} (hv : Computed tz v) (hd : d.IsSpan) (h : arithmetic .add v d tz = .ok w) :
      Computed tz w
  | addTo {v d w : Atomic} (hv : Computed tz v) (hd : d.IsSpan)
      (h : arithmetic .add d v tz = .ok w) : Computed tz w
  | sub {v d w : Atomic} (hv : Computed tz v) (hd : d.IsSpan) (h : arithmetic .sub v d tz = .ok w) :
      Computed tz w
  | adjustDateTime {v w : DateTime} {zone : Option TimeZone} (hv : Computed tz (dateTime v))
      (hzone : ZoneInRange zone) (h : v.adjust zone = .ok w) : Computed tz (dateTime w)
  | adjustDate {v w : Date} {zone : Option TimeZone} (hv : Computed tz (date v))
      (hzone : ZoneInRange zone) (h : v.adjust zone = .ok w) : Computed tz (date w)

variable {tz : TimeZone} {v d : Atomic}

theorem isDate_ofLexical {t : AtomicType} (ht : t = .dateTime ∨ t = .date) (lexical : String) :
    Ensures (ofLexical t lexical) IsDate := by
  obtain rfl | rfl := ht
  · exact ensures_except_map.mpr (DateTime.zone_parse lexical)
  · exact ensures_except_map.mpr (Date.zone_parse lexical)

/-- A duration moves a date in its time zone. -/
theorem isDate_arithmetic {op : ArithmeticOp} (hop : op = .add ∨ op = .sub) (hv : v.IsDate)
    (hd : d.IsSpan) : Ensures (arithmetic op v d tz) IsDate := by
  cases v with
  | dateTime v =>
    have hzone : ∀ w : DateTime, w.zone = v.zone → (dateTime w).IsDate := by
      intro w hw
      change ZoneInRange w.zone
      rw [hw]
      exact hv
    cases d with
    | yearMonthDuration d =>
      obtain rfl | rfl := hop
      · exact ensures_except_map.mpr ((v.zone_addYearMonth d).mono hzone)
      · exact ensures_except_map.mpr ((v.zone_addYearMonth d.neg).mono hzone)
    | dayTimeDuration d =>
      obtain rfl | rfl := hop
      · exact ensures_except_map.mpr ((v.zone_addDayTime d).mono hzone)
      · exact ensures_except_map.mpr ((v.zone_addDayTime d.neg).mono hzone)
    | _ => exact hd.elim
  | date v =>
    have hzone : ∀ w : Date, w.zone = v.zone → (date w).IsDate := by
      intro w hw
      change ZoneInRange w.zone
      rw [hw]
      exact hv
    cases d with
    | yearMonthDuration d =>
      obtain rfl | rfl := hop
      · exact ensures_except_map.mpr ((v.zone_addYearMonth d).mono hzone)
      · exact ensures_except_map.mpr ((v.zone_addYearMonth d.neg).mono hzone)
    | dayTimeDuration d =>
      obtain rfl | rfl := hop
      · exact ensures_except_map.mpr ((v.zone_addDayTime d).mono hzone)
      · exact ensures_except_map.mpr ((v.zone_addDayTime d.neg).mono hzone)
    | _ => exact hd.elim
  | _ => exact hv.elim

/-- A sum takes its operands in either order. -/
theorem arithmetic_add_comm (hv : v.IsDate) (hd : d.IsSpan) :
    arithmetic .add d v tz = arithmetic .add v d tz := by
  cases v <;> first | exact hv.elim | skip
  all_goals cases d <;> first | exact hd.elim | rfl

theorem Computed.isDate (h : Computed tz v) : v.IsDate := by
  induction h with
  | read ht h => exact isDate_ofLexical ht _ _ h
  | add _ hd h ih => exact isDate_arithmetic (.inl rfl) ih hd _ h
  | addTo _ hd h ih =>
    rw [arithmetic_add_comm ih hd] at h
    exact isDate_arithmetic (.inl rfl) ih hd _ h
  | sub _ hd h ih => exact isDate_arithmetic (.inr rfl) ih hd _ h
  | @adjustDateTime v w zone _ hzone h _ =>
    change ZoneInRange w.zone
    rw [v.zone_adjust zone w h]
    exact hzone
  | @adjustDate v w zone _ hzone h _ =>
    change ZoneInRange w.zone
    rw [v.zone_adjust zone w h]
    exact hzone

/-- A date is read back from its text, unless it is in the year 0. -/
theorem isDate_ofLexical_text (h : v.IsDate) : ∃ day, v.day? = some day ∧
    ofLexical v.type v.text =
      if day.year = 0 then .error (.invalidLexical v.type.display v.text) else .ok v := by
  cases v with
  | dateTime v =>
    refine ⟨v.fields.day, rfl, ?_⟩
    change (DateTime.parse v.text).map dateTime = _
    rw [DateTime.parse_text h]
    split <;> rfl
  | date v =>
    refine ⟨v.day, rfl, ?_⟩
    change (Date.parse v.text).map date = _
    rw [Date.parse_text h]
    split <;> rfl
  | _ => exact h.elim

/-- A computed date is read back from its text, unless it is in the year 0. -/
theorem computed_ofLexical_text (h : Computed tz v) : ∃ day, v.day? = some day ∧
    ofLexical v.type v.text =
      if day.year = 0 then .error (.invalidLexical v.type.display v.text) else .ok v :=
  isDate_ofLexical_text h.isDate

/-- A day of no time zone. -/
def sampleDate (n : Int) (h : minDay ≤ n ∧ n ≤ maxDay) : Atomic := date ⟨⟨n, h⟩, none⟩

theorem isDate_sampleDate (n : Int) (h : minDay ≤ n ∧ n ≤ maxDay) : (sampleDate n h).IsDate := by
  intro z hz
  cases hz

theorem computed_sampleDate {n : Int} {h : minDay ≤ n ∧ n ≤ maxDay} (h0 : Day.year ⟨n, h⟩ ≠ 0) :
    Computed tz (sampleDate n h) := by
  obtain ⟨day, hday, hread⟩ := isDate_ofLexical_text (isDate_sampleDate n h)
  obtain rfl := Option.some.inj hday
  rw [if_neg h0] at hread
  exact .read (.inr rfl) hread

/-- A month after the last day of January is the last day of February. -/
theorem computed_ofLexical_text_sample :
    Computed .utc (sampleDate 11016 (by decide)) ∧
      (sampleDate 11016 (by decide)).text = "2000-02-29" ∧
      ofLexical .date "2000-02-29" = .ok (sampleDate 11016 (by decide)) := by
  have hmoved : arithmetic .add (sampleDate 10987 (by decide)) (yearMonthDuration (.ofMonths 1))
      .utc = .ok (sampleDate 11016 (by decide)) := rfl
  have hcomputed := Computed.add (computed_sampleDate (by decide))
    (show IsSpan (yearMonthDuration (.ofMonths 1)) from trivial) hmoved
  have htext : (sampleDate 11016 (by decide)).text = "2000-02-29" := by decide
  obtain ⟨day, hday, hread⟩ := computed_ofLexical_text hcomputed
  obtain rfl := Option.some.inj hday
  rw [htext, if_neg (by decide)] at hread
  exact ⟨hcomputed, htext, hread⟩

/-- A month before 0001-01-15 there is a day whose text is not read back. -/
theorem computed_text_of_year_zero :
    arithmetic .sub (sampleDate (-719148) (by decide)) (yearMonthDuration (.ofMonths 1)) .utc =
        .ok (sampleDate (-719179) (by decide)) ∧
      Computed .utc (sampleDate (-719179) (by decide)) ∧
      (sampleDate (-719148) (by decide)).text = "0001-01-15" ∧
      (sampleDate (-719179) (by decide)).text = "0000-12-15" ∧
      ofLexical .date "0000-12-15" = .error (.invalidLexical "xs:date" "0000-12-15") := by
  have hmoved : arithmetic .sub (sampleDate (-719148) (by decide)) (yearMonthDuration (.ofMonths 1))
      .utc = .ok (sampleDate (-719179) (by decide)) := rfl
  have hcomputed := Computed.sub (computed_sampleDate (by decide))
    (show IsSpan (yearMonthDuration (.ofMonths 1)) from trivial) hmoved
  have htext : (sampleDate (-719179) (by decide)).text = "0000-12-15" := by decide
  obtain ⟨day, hday, hread⟩ := isDate_ofLexical_text hcomputed.isDate
  obtain rfl := Option.some.inj hday
  rw [htext, if_pos (by decide)] at hread
  exact ⟨hmoved, hcomputed, by decide, htext, hread⟩

end Atomic

end XPath
