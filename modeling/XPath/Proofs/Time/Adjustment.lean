import Mathlib.Data.Int.ModEq
import XPath.Proofs.Result
import XPath.Proofs.Time.Shifts
import XPath.Value.Compare

/-!
# Adjustment to time zones

A value with a time zone that is adjusted to another one keeps its instant: the local fields move by
the difference of the two offsets.  Such moves add up, so only the last adjustment of several
counts, and the adjustment to the first time zone brings the value back.  Where the value has no
time zone, or is to have none, nothing moves.
-/

namespace XPath

open XPath.Calendar

/-! ## 1. Moved fields -/

namespace Temporal

variable {t u : LocalTime} {m n : ℤ}

theorem shift_eq_ok : shift t n = .ok u ↔ t.shift? n = some u := by
  unfold shift
  cases t.shift? n with
  | none => exact iff_of_false (fun h => by cases h) (fun h => by cases h)
  | some u' => rw [Except.ok.injEq, Option.some.injEq]

theorem shift_shift (h : shift t m = .ok u) : shift u n = shift t (m + n) := by
  unfold shift
  rw [LocalTime.shift?_shift? (shift_eq_ok.mp h)]

theorem shift_zero (t : LocalTime) : shift t 0 = .ok t := shift_eq_ok.mpr t.shift?_zero

theorem toUtc_eq_shift (t : LocalTime) (z : TimeZone) : toUtc t z = shift t (-z.nanos) := rfl

theorem zoneShift_self (z : Option TimeZone) : zoneShift z z = 0 := by
  cases z with
  | none => rfl
  | some z => exact Int.sub_self z.nanos

theorem zoneShift_add (a b c : TimeZone) :
    zoneShift (some a) (some b) + zoneShift (some b) (some c) = zoneShift (some a) (some c) := by
  simp only [zoneShift]
  omega

end Temporal

/-! ## 2. Laws of adjustments -/

/-- What an adjustment does between time zones.  The laws are about adjustments that give a value;
after such a one, a second adjustment gives what a direct one gives, also if that is an error. -/
structure AdjustsBetweenZones {α : Type} (zone : α → Option TimeZone)
    (adjust : α → Option TimeZone → Result α) : Prop where
  zone_adjust : ∀ {v u t}, adjust v (some t) = .ok u → zone u = some t
  adjust_adjust : ∀ {v u z t₁ t₂}, zone v = some z → adjust v (some t₁) = .ok u →
    adjust u (some t₂) = adjust v (some t₂)
  adjust_back : ∀ {v u z t}, zone v = some z → adjust v (some t) = .ok u → adjust u (some z) = .ok v

/-- What an adjustment does where the value has no time zone, or is to have none: the local fields
stay. -/
structure AdjustsFromOrToNone {α φ : Type} (zone : α → Option TimeZone) (fields : α → φ)
    (adjust : α → Option TimeZone → Result α) : Prop where
  set_zone : ∀ {v}, zone v = none → ∀ t, ∃ u, adjust v (some t) = .ok u ∧ zone u = some t ∧
    fields u = fields v
  drop_zone : ∀ v, ∃ u, adjust v none = .ok u ∧ zone u = none ∧ fields u = fields v

/-! ## 3. xs:dateTime -/

namespace DateTime

variable {v u : DateTime} {z t : TimeZone} {target : Option TimeZone}

theorem adjust_eq_ok : v.adjust target = .ok u ↔
    Temporal.shift v.fields (Temporal.zoneShift v.zone target) = .ok u.fields ∧
      target = u.zone := by
  rw [adjust, except_map_eq_ok]
  constructor
  · rintro ⟨fields, hfields, rfl⟩
    exact ⟨hfields, rfl⟩
  · rintro ⟨hfields, rfl⟩
    exact ⟨u.fields, hfields, rfl⟩

/-- The local fields stay where there is no difference of time zones. -/
theorem adjust_of_zoneShift (h : Temporal.zoneShift v.zone target = 0) :
    v.adjust target = .ok ⟨v.fields, target⟩ := by
  rw [adjust_eq_ok, h]
  exact ⟨Temporal.shift_zero v.fields, rfl⟩

theorem adjust_adjust (hv : v.zone = some z) (h : v.adjust (some t) = .ok u) (t' : TimeZone) :
    u.adjust (some t') = v.adjust (some t') := by
  rcases adjust_eq_ok.mp h with ⟨hfields, hzone⟩
  rw [hv] at hfields
  rw [adjust, adjust, ← hzone, hv, Temporal.shift_shift hfields, Temporal.zoneShift_add]

theorem adjustsBetweenZones : AdjustsBetweenZones zone adjust where
  zone_adjust h := (adjust_eq_ok.mp h).2.symm
  adjust_adjust hv h := adjust_adjust hv h _
  adjust_back {v u z t} hv h := by
    have hself : Temporal.zoneShift v.zone (some z) = 0 := by rw [hv, Temporal.zoneShift_self]
    rw [adjust_adjust hv h, adjust_of_zoneShift hself, ← hv]

theorem adjustsFromOrToNone : AdjustsFromOrToNone zone fields adjust where
  set_zone {v} hv t := ⟨_, adjust_of_zoneShift (by rw [hv]; rfl), rfl, rfl⟩
  drop_zone v := ⟨_, adjust_of_zoneShift (by cases v.zone <;> rfl), rfl, rfl⟩

/-- The adjusted value has the instant of the value, and none if the value has none. -/
theorem toUtc_adjust (hv : v.zone = some z) (h : v.adjust (some t) = .ok u) (implicit : TimeZone) :
    u.toUtc implicit = v.toUtc implicit := by
  rcases adjust_eq_ok.mp h with ⟨hfields, hzone⟩
  -- the move to the other time zone is a part of the way to universal time
  have hshift : Temporal.zoneShift (some z) (some t) + -t.nanos = -z.nanos := by
    simp only [Temporal.zoneShift]
    omega
  rw [hv] at hfields
  rw [toUtc, toUtc, ← hzone, hv, Option.getD_some, Option.getD_some, Temporal.toUtc_eq_shift,
    Temporal.toUtc_eq_shift, Temporal.shift_shift hfields, hshift]

end DateTime

namespace Atomic

/-- An instant equals itself, if it has a place on the time line. -/
theorem compareInstants_self (x : Result LocalTime) :
    (compareInstants x x).map (fun o => Comparison.eq.holds (some o)) = x.map fun _ => true := by
  cases x with
  | error e => rfl
  | ok t =>
    have hself : Ord.compare t.total t.total = .eq := Std.ReflCmp.compare_self
    show Except.ok (Comparison.eq.holds (some (Ord.compare t.total t.total))) = Except.ok true
    rw [hself]
    rfl

/-- Values of one instant are equal, if that has a place on the time line. -/
theorem compare_eq_of_toUtc {v u : DateTime} {tz : TimeZone} (h : u.toUtc tz = v.toUtc tz)
    (c : Collation) :
    compare .eq (dateTime u) (dateTime v) c tz = (v.toUtc tz).map fun _ => true := by
  show (compareInstants (u.toUtc tz) (v.toUtc tz)).map (fun o => Comparison.eq.holds (some o)) = _
  rw [h, compareInstants_self]

end Atomic

/-! ## 4. xs:date and xs:time -/

namespace Date

variable {v : Date} {target : Option TimeZone}

theorem adjust_of_zoneShift (h : Temporal.zoneShift v.zone target = 0) :
    v.adjust target = .ok ⟨v.day, target⟩ := by
  rw [adjust, h, Temporal.shift_zero]
  rfl

theorem adjustsFromOrToNone : AdjustsFromOrToNone zone day adjust where
  set_zone {v} hv t := ⟨_, adjust_of_zoneShift (by rw [hv]; rfl), rfl, rfl⟩
  drop_zone v := ⟨_, adjust_of_zoneShift (by cases v.zone <;> rfl), rfl, rfl⟩

end Date

namespace Time

variable {v : Time} {z t : TimeZone} {target : Option TimeZone}

/-- An adjustment as one that gives a result; it never fails. -/
def adjust? (v : Time) (target : Option TimeZone) : Result Time := .ok (v.adjust target)

theorem adjust_of_zoneShift (h : Temporal.zoneShift v.zone target = 0) :
    v.adjust target = ⟨v.clock, target⟩ := by
  rw [adjust, h, Int.add_zero, Clock.wrap_nanos]

theorem adjust_adjust (hv : v.zone = some z) (t t' : TimeZone) :
    (v.adjust (some t)).adjust (some t') = v.adjust (some t') := by
  have htwice : (v.adjust (some t)).adjust (some t') =
      ⟨Clock.wrap (v.clock.nanos + (Temporal.zoneShift v.zone (some t) +
        Temporal.zoneShift (some t) (some t'))), some t'⟩ := by
    rw [adjust, adjust, Clock.wrap_add_wrap]
  rw [htwice, hv, Temporal.zoneShift_add, adjust, hv]

theorem adjustsBetweenZones : AdjustsBetweenZones zone adjust? where
  zone_adjust h := by
    cases h
    rfl
  adjust_adjust hv h := by
    cases h
    exact congrArg Except.ok (adjust_adjust hv _ _)
  adjust_back {v u z t} hv h := by
    cases h
    have hself : Temporal.zoneShift v.zone (some z) = 0 := by rw [hv, Temporal.zoneShift_self]
    rw [adjust?, adjust_adjust hv, adjust_of_zoneShift hself, ← hv]

/-- The adjusted time has the instant of the time on some day: a clock that passes midnight gains or
loses a day against universal time. -/
theorem nanos_adjust_modEq (hv : v.zone = some z) (t : TimeZone) :
    (v.adjust (some t)).clock.nanos - t.nanos ≡ v.clock.nanos - z.nanos [ZMOD dayLength] := by
  have hshift : v.clock.nanos + Temporal.zoneShift (some z) (some t) - t.nanos =
      v.clock.nanos - z.nanos := by
    simp only [Temporal.zoneShift]
    omega
  rw [adjust, hv, Clock.nanos_wrap, ← hshift]
  exact (Int.mod_modEq _ _).sub_right t.nanos

theorem adjustsFromOrToNone : AdjustsFromOrToNone zone clock adjust? where
  set_zone {v} hv t := ⟨_, rfl, rfl, by rw [adjust_of_zoneShift (by rw [hv]; rfl)]⟩
  drop_zone v := ⟨_, rfl, rfl, by rw [adjust_of_zoneShift (by cases v.zone <;> rfl)]⟩

end Time

/-! ## 5. All types -/

/-- A value of xs:dateTime that is adjusted from one time zone to another equals the value, whenever
the two compare, and one of xs:time keeps its time of day in universal time.  For both types only
the last of several time zones counts, and the first one brings the value back.  In all three types
a value without time zone takes the one it is adjusted to, and any value can drop its time zone,
with the local fields as they are. -/
theorem adjust_laws :
    AdjustsBetweenZones DateTime.zone DateTime.adjust ∧
      (∀ (v u : DateTime) (z t implicit : TimeZone) (c : Collation), v.zone = some z →
        v.adjust (some t) = .ok u →
          Atomic.compare .eq (.dateTime u) (.dateTime v) c implicit =
            (v.toUtc implicit).map fun _ => true) ∧
      AdjustsBetweenZones Time.zone Time.adjust? ∧
      (∀ (v u : Time) (z t : TimeZone), v.zone = some z → v.adjust? (some t) = .ok u →
        u.clock.nanos - t.nanos ≡ v.clock.nanos - z.nanos [ZMOD dayLength]) ∧
      AdjustsFromOrToNone DateTime.zone DateTime.fields DateTime.adjust ∧
      AdjustsFromOrToNone Date.zone Date.day Date.adjust ∧
      AdjustsFromOrToNone Time.zone Time.clock Time.adjust? := by
  refine ⟨DateTime.adjustsBetweenZones, ?_, Time.adjustsBetweenZones, ?_,
    DateTime.adjustsFromOrToNone, Date.adjustsFromOrToNone, Time.adjustsFromOrToNone⟩
  · intro v u z t implicit c hv h
    exact Atomic.compare_eq_of_toUtc (DateTime.toUtc_adjust hv h implicit) c
  · intro v u z t hv h
    cases h
    exact Time.nanos_adjust_modEq hv t

/-- Half an hour behind the start of 2024 in universal time is half an hour before it one hour to
the west.  Two hours to the east, it makes no difference whether the value has been in the west.
The clock alone wraps around at the same midnight. -/
theorem adjust_laws_sample :
    let start : DateTime := ⟨⟨⟨19723, by decide⟩, ⟨1800000000000, by decide⟩⟩, some .utc⟩
    let west : DateTime := ⟨⟨⟨19722, by decide⟩, ⟨84600000000000, by decide⟩⟩, some ⟨-60⟩⟩
    let east : DateTime := ⟨⟨⟨19723, by decide⟩, ⟨9000000000000, by decide⟩⟩, some ⟨120⟩⟩
    let early : Time := ⟨⟨1800000000000, by decide⟩, some .utc⟩
    let late : Time := ⟨⟨84600000000000, by decide⟩, some ⟨-60⟩⟩
    (start.text = "2024-01-01T00:30:00Z" ∧ west.text = "2023-12-31T23:30:00-01:00" ∧
      start.adjust (some ⟨-60⟩) = .ok west ∧ west.adjust (some .utc) = .ok start ∧
      start.adjust (some ⟨120⟩) = .ok east ∧ west.adjust (some ⟨120⟩) = .ok east ∧
      Atomic.compare .eq (.dateTime west) (.dateTime start) .codepoint .utc = .ok true) ∧
    early.text = "00:30:00Z" ∧ late.text = "23:30:00-01:00" ∧
      early.adjust? (some ⟨-60⟩) = .ok late ∧ late.adjust? (some .utc) = .ok early ∧
      late.adjust? (some ⟨120⟩) = .ok ⟨⟨9000000000000, by decide⟩, some ⟨120⟩⟩ ∧
      (84600000000000 - (-3600000000000) : ℤ) ≡ 1800000000000 - 0 [ZMOD dayLength] := by
  intro start west east early late
  rcases adjust_laws with ⟨hzones, hequal, htimes, hclock, -⟩
  refine ⟨?_, ?_⟩
  · have hwest : start.adjust (some ⟨-60⟩) = .ok west := by decide +kernel
    have heast : start.adjust (some ⟨120⟩) = .ok east := by decide +kernel
    have hsame : west.adjust (some ⟨120⟩) = start.adjust (some ⟨120⟩) :=
      hzones.adjust_adjust rfl hwest
    have hutc : start.toUtc .utc = .ok start.fields := by decide +kernel
    have hcompare := hequal start west .utc ⟨-60⟩ .utc .codepoint rfl hwest
    rw [hutc] at hcompare
    exact ⟨by decide +kernel, by decide +kernel, hwest, hzones.adjust_back (v := start) rfl hwest,
      heast, hsame.trans heast, hcompare⟩
  · have hlate : early.adjust? (some ⟨-60⟩) = .ok late := by decide +kernel
    have heast : early.adjust? (some ⟨120⟩) = .ok ⟨⟨9000000000000, by decide⟩, some ⟨120⟩⟩ := by
      decide +kernel
    have hsame : late.adjust? (some ⟨120⟩) = early.adjust? (some ⟨120⟩) :=
      htimes.adjust_adjust rfl hlate
    exact ⟨by decide +kernel, by decide +kernel, hlate, htimes.adjust_back (v := early) rfl hlate,
      hsame.trans heast, hclock early late .utc ⟨-60⟩ rfl hlate⟩

end XPath
