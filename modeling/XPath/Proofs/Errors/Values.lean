import XPath.Proofs.Errors.NotStatic
import XPath.Value.Arithmetic
import XPath.Value.Compare

/-!
# Operations on values raise no static errors

Reading, casting, comparing and calculating fail with type errors and dynamic errors alone.  The
one exception is a cast to the abstract root of the atomic types.
-/

namespace XPath

open Temporal

/-! ## 1. Durations, dates and times -/

section Durations

variable (d e : YearMonthDuration) (a b : DayTimeDuration) (x : Float)

@[simp] theorem notStatic_checkFactor : NotStatic (checkFactor x) := by
  unfold checkFactor
  simp [Error.durationFactor, Error.durationRange]

@[simp] theorem notStatic_ofMonths? (m : Int) : NotStatic (YearMonthDuration.ofMonths? m) := by
  unfold YearMonthDuration.ofMonths?
  simp [Error.durationRange]

@[simp] theorem notStatic_parse_yearMonth (s : String) :
    NotStatic (YearMonthDuration.parse s) := by
  unfold YearMonthDuration.parse
  split
  · simp
  · split <;> simp [Error.durationRange]

@[simp] theorem notStatic_yearMonth_add : NotStatic (d.add e) := notStatic_ofMonths? _

@[simp] theorem notStatic_yearMonth_sub : NotStatic (d.sub e) := notStatic_ofMonths? _

@[simp] theorem notStatic_yearMonth_times : NotStatic (d.times x) := by
  unfold YearMonthDuration.times
  rw [notStatic_bind]
  refine ⟨notStatic_checkFactor x, fun _ _ => ?_⟩
  split <;> simp [Error.durationRange]

@[simp] theorem notStatic_yearMonth_divide : NotStatic (d.divide x) := by
  unfold YearMonthDuration.divide
  simp [Error.durationByZero]

@[simp] theorem notStatic_yearMonth_ratio : NotStatic (d.ratio e) := by
  unfold YearMonthDuration.ratio
  split
  · simp [Error.ratioByZero]
  · split
    · split <;> simp [Error.ratioRange]
    · simp [Error.ratioRange]

@[simp] theorem notStatic_ofSeconds? (s : Option Number.Decimal) :
    NotStatic (DayTimeDuration.ofSeconds? s) := by
  unfold DayTimeDuration.ofSeconds?
  split <;> simp [Error.durationRange]

@[simp] theorem notStatic_parse_dayTime (s : String) : NotStatic (DayTimeDuration.parse s) := by
  unfold DayTimeDuration.parse
  split <;> simp

@[simp] theorem notStatic_dayTime_add : NotStatic (a.add b) := notStatic_ofSeconds? _

@[simp] theorem notStatic_dayTime_sub : NotStatic (a.sub b) := notStatic_ofSeconds? _

@[simp] theorem notStatic_dayTime_times : NotStatic (a.times x) := by
  unfold DayTimeDuration.times
  simp

@[simp] theorem notStatic_dayTime_divide : NotStatic (a.divide x) := by
  unfold DayTimeDuration.divide
  simp [Error.durationByZero]

@[simp] theorem notStatic_dayTime_ratio : NotStatic (a.ratio b) := by
  unfold DayTimeDuration.ratio
  split
  · simp [Error.ratioByZero]
  · split <;> simp [Error.ratioRange]

@[simp] theorem notStatic_toNanoseconds : NotStatic a.toNanoseconds := by
  simp only [DayTimeDuration.toNanoseconds]
  split
  · simp [Error.durationRange]
  · simp [Error.durationRange]

@[simp] theorem notStatic_parse_duration (s : String) : NotStatic (Duration.parse s) := by
  unfold Duration.parse
  split
  · simp
  · split <;> simp [Error.durationRange]

end Durations

section Temporal

variable (v w : DateTime) (p q : Date) (t u : Time) (z : TimeZone) (d : YearMonthDuration)
  (a : DayTimeDuration)

@[simp] theorem notStatic_toUtc (l : Calendar.LocalTime) : NotStatic (Temporal.toUtc l z) := by
  unfold Temporal.toUtc
  split <;> simp [Error.temporalRange]

@[simp] theorem notStatic_shift (l : Calendar.LocalTime) (n : Int) : NotStatic (shift l n) := by
  unfold shift
  split <;> simp [Error.temporalRange]

@[simp] theorem notStatic_addMonths (day : Calendar.Day) (n : Int) :
    NotStatic (addMonths day n) := by
  unfold addMonths
  split
  · simp [Error.temporalRange]
  · split <;> simp [Error.temporalRange]

@[simp] theorem notStatic_ofDuration : NotStatic (TimeZone.ofDuration a) := by
  unfold TimeZone.ofDuration
  split
  · split
    · simp
    · split <;> simp
  · simp

@[simp] theorem notStatic_parse_dateTime (s : String) : NotStatic (DateTime.parse s) := by
  unfold DateTime.parse
  split <;> simp

@[simp] theorem notStatic_parse_date (s : String) : NotStatic (Date.parse s) := by
  unfold Date.parse
  split <;> simp

@[simp] theorem notStatic_parse_time (s : String) : NotStatic (Time.parse s) := by
  unfold Time.parse
  split <;> simp

@[simp] theorem notStatic_parse_gregorian (kind : GregorianKind) (s : String) :
    NotStatic (Gregorian.parse kind s) := by
  unfold Gregorian.parse
  split <;> simp

@[simp] theorem notStatic_dateTime_toUtc : NotStatic (v.toUtc z) := notStatic_toUtc _ _

@[simp] theorem notStatic_date_toUtc : NotStatic (p.toUtc z) := notStatic_toUtc _ _

@[simp] theorem notStatic_time_toUtc : NotStatic (t.toUtc z) := notStatic_toUtc _ _

@[simp] theorem notStatic_gregorian_toUtc (g : Gregorian) : NotStatic (g.toUtc z) :=
  notStatic_toUtc _ _

@[simp] theorem notStatic_dateTime_adjust (zone : Option TimeZone) : NotStatic (v.adjust zone) := by
  simp [DateTime.adjust]

@[simp] theorem notStatic_date_adjust (zone : Option TimeZone) : NotStatic (p.adjust zone) := by
  simp [Date.adjust]

@[simp] theorem notStatic_dateTime_addYearMonth : NotStatic (v.addYearMonth d) := by
  simp [DateTime.addYearMonth]

@[simp] theorem notStatic_date_addYearMonth : NotStatic (p.addYearMonth d) := by
  simp [Date.addYearMonth]

@[simp] theorem notStatic_dateTime_addDayTime : NotStatic (v.addDayTime a) := by
  simp [DateTime.addDayTime]

@[simp] theorem notStatic_date_addDayTime : NotStatic (p.addDayTime a) := by
  simp [Date.addDayTime]

@[simp] theorem notStatic_time_addDayTime : NotStatic (t.addDayTime a) := by
  simp [Time.addDayTime]

@[simp] theorem notStatic_dateTime_difference : NotStatic (v.difference w z) := by
  simp [DateTime.difference]

@[simp] theorem notStatic_date_difference : NotStatic (p.difference q z) := by
  simp [Date.difference]

@[simp] theorem notStatic_time_difference : NotStatic (t.difference u z) := by
  simp [Time.difference]

end Temporal

/-! ## 2. Reading and casting -/

section Casts

open Atomic

variable (v w : Atomic) (t : AtomicType) (lexical : String)

@[simp] theorem kind_noCast : (v.noCast t).kind = .type := Error.kind_of _ _

@[simp] theorem kind_notFinite : (notFinite t).kind = .dynamic := Error.kind_of _ _

@[simp] theorem notStatic_parseDecimal : NotStatic (Numeric.parseDecimal lexical) := by
  simp only [Numeric.parseDecimal]
  split
  · simp
  · split <;> simp

@[simp] theorem notStatic_ofLexical : NotStatic (ofLexical t lexical) := by
  unfold ofLexical
  cases t <;> simp
  all_goals split <;> simp

@[simp] theorem notStatic_readName (scope : Option Namespaces) :
    NotStatic (QName.read lexical scope) := by
  simp only [QName.read]
  split
  all_goals
    rw [notStatic_ite]
    refine ⟨fun _ => by simp, fun _ => ?_⟩
    split
    · simp
    · split <;> simp

@[simp] theorem notStatic_readAs (scope : Option Namespaces) :
    NotStatic (readAs lexical t scope) := by
  unfold readAs
  split <;> simp

@[simp] theorem notStatic_decimalOfDouble (x : Float) : NotStatic (decimalOfDouble x) := by
  unfold decimalOfDouble
  split
  · simp
  · split <;> simp

@[simp] theorem notStatic_integerOfDouble (x : Float) : NotStatic (integerOfDouble x) := by
  unfold integerOfDouble
  split <;> simp

@[simp] theorem notStatic_toDecimal : NotStatic v.toDecimal := by
  unfold toDecimal
  split
  case h_2 => split <;> simp
  all_goals simp

@[simp] theorem notStatic_toInteger : NotStatic v.toInteger := by
  unfold toInteger
  split <;> simp

@[simp] theorem notStatic_toGregorian (kind : GregorianKind) : NotStatic (v.toGregorian kind) := by
  unfold toGregorian
  split <;> simp

@[simp] theorem notStatic_convert : NotStatic (v.convert t) := by
  cases t <;> simp only [convert]
  all_goals first
    | (split <;> simp)
    | simp

/-- Only the abstract root is no target of a cast at all. -/
theorem notStatic_cast (scope : Option Namespaces) (h : t ≠ .anyAtomic) :
    NotStatic (v.cast t scope) := by
  unfold Atomic.cast
  rw [if_neg (by simpa using h), notStatic_ite]
  refine ⟨fun _ => notStatic_ok v, fun _ => ?_⟩
  split <;> simp

/-- No value has the abstract root as its type. -/
theorem type_ne_anyAtomic : v.type ≠ .anyAtomic := by
  unfold type
  split
  case h_5 n => cases n <;> simp [Numeric.type]
  case h_10 g =>
    cases g.kind <;> simp [GregorianKind.type]
  all_goals simp

end Casts

/-! ## 3. Arithmetic -/

section Arithmetic

variable (a b : Numeric) (op : ArithmeticOp)

@[simp] theorem notStatic_orOverflow {α : Type} (o : Option α) :
    NotStatic (Numeric.orOverflow o) := by
  unfold Numeric.orOverflow
  split <;> simp [Error.numericOverflow]

@[simp] theorem notStatic_promote (rank : Nat) : NotStatic (a.promote rank) := by
  unfold Numeric.promote
  split
  · simp
  · split
    · split <;> simp [Error.decimalRange]
    all_goals simp

@[simp] theorem notStatic_unify : NotStatic (Numeric.unify a b) := by
  simp [Numeric.unify]

@[simp] theorem notStatic_onIntegers (i j : Int) : NotStatic (Numeric.onIntegers op i j) := by
  cases op <;> simp [Numeric.onIntegers, Error.divisionByZero, Error.numericOverflow]

@[simp] theorem notStatic_onDecimals (d e : Number.Decimal) :
    NotStatic (Numeric.onDecimals op d e) := by
  cases op <;> simp [Numeric.onDecimals, Error.divisionByZero, Error.numericOverflow]

@[simp] theorem notStatic_truncatedQuotient : NotStatic (Numeric.truncatedQuotient a b) := by
  unfold Numeric.truncatedQuotient
  split
  · simp [Error.divisionByZero]
  · split <;> simp

@[simp] theorem notStatic_operands : NotStatic (Numeric.operands op a b) := by
  unfold Numeric.operands
  split <;> simp

@[simp] theorem notStatic_numeric_arithmetic : NotStatic (Numeric.arithmetic op a b) := by
  unfold Numeric.arithmetic
  rw [notStatic_bind]
  refine ⟨notStatic_operands a b op, fun x _ => ?_⟩
  rw [notStatic_ite]
  refine ⟨fun _ => by simp, fun _ => ?_⟩
  split <;> simp [Error.numericOverflow]

variable (v w : Atomic) (tz : TimeZone)

/-- An operation on durations, dates and times, where it is defined. -/
def NotStaticIfSome {α : Type} (r : Option (Result α)) : Prop := ∀ s, r = some s → NotStatic s

theorem notStatic_addDuration? : NotStaticIfSome (v.addDuration? w) := by
  unfold Atomic.addDuration?
  intro s h
  split at h <;> cases h <;> simp

theorem notStatic_subtract? : NotStaticIfSome (v.subtract? w tz) := by
  unfold Atomic.subtract?
  intro s h
  split at h <;> cases h <;> simp

theorem notStatic_scale? : NotStaticIfSome (v.scale? w) := by
  unfold Atomic.scale?
  intro s h
  split at h <;> cases h <;> simp

theorem notStatic_divide? : NotStaticIfSome (v.divide? w) := by
  unfold Atomic.divide?
  intro s h
  split at h <;> cases h <;> simp

theorem notStatic_temporal? : NotStaticIfSome (Atomic.temporal? op v w tz) := by
  cases op with
  | add => exact notStatic_addDuration? v w
  | sub => exact notStatic_subtract? v w tz
  | mul => exact notStatic_scale? v w
  | div => exact notStatic_divide? v w
  | idiv => exact fun s h => by cases h
  | mod => exact fun s h => by cases h

@[simp] theorem notStatic_arithmetic : NotStatic (Atomic.arithmetic op v w tz) := by
  unfold Atomic.arithmetic
  split
  · simp
  -- other operands are durations, dates and times, or there is no operator for them
  · have h := notStatic_temporal? op v w tz
    cases ht : Atomic.temporal? op v w tz with
    | none => simp [Atomic.noOperator]
    | some r => exact h r ht

@[simp] theorem notStatic_signed (sign : Sign) : NotStatic (Atomic.signed sign v) := by
  unfold Atomic.signed
  split <;> simp

end Arithmetic

/-! ## 4. Comparison -/

section Comparison

variable (op : Comparison) (v w : Atomic) (c : Collation) (tz : TimeZone)

@[simp] theorem notStatic_numeric_compare (a b : Numeric) : NotStatic (a.compare b) := by
  unfold Numeric.compare
  rw [notStatic_bind]
  refine ⟨notStatic_unify a b, fun x _ => ?_⟩
  split <;> simp

@[simp] theorem notStatic_compareInstants {r s : Result Calendar.LocalTime} (hr : NotStatic r)
    (hs : NotStatic s) : NotStatic (Atomic.compareInstants r s) := by
  simp [Atomic.compareInstants, hr, hs]

@[simp] theorem notStatic_compareEquality (equal : Bool) :
    NotStatic (Atomic.compareEquality op v w equal) := by
  cases op <;> simp [Atomic.compareEquality, Atomic.incomparable]

@[simp] theorem notStatic_compare : NotStatic (Atomic.compare op v w c tz) := by
  unfold Atomic.compare
  split
  case h_8 => simp [Atomic.incomparable]
  case h_12 =>
    split
    · simp
    · split <;> simp [Atomic.incomparable]
  all_goals simp

@[simp] theorem notStatic_promoteUntyped : NotStatic (Atomic.promoteUntyped v w) := by
  unfold Atomic.promoteUntyped
  split
  · split
    -- an untyped value is cast to the type of the other one, or to xs:double beside a number
    case h_4 => exact notStatic_cast _ _ _ (by simp)
    case h_5 => exact notStatic_cast _ _ _ (type_ne_anyAtomic _)
    all_goals simp
  · simp

@[simp] theorem notStatic_comparePromoted : NotStatic (Atomic.comparePromoted op v w c tz) := by
  simp [Atomic.comparePromoted]

@[simp] theorem notStatic_compareSome (vs ws : List Atomic) :
    NotStatic (Atomic.compareSome op vs ws c tz) :=
  notStatic_anyM fun v _ => notStatic_anyM fun w _ => notStatic_comparePromoted op v w c tz

end Comparison

end XPath
