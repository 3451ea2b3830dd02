import XPath.Proofs.Comparison

/-!
# Equality of atomic values

Values of some types equal values of others: a text is equal to a URI, an integer to a decimal, and
any duration to any other.  Still each value has a key such that two values are equal exactly if
they have one key.  Floating-point numbers are left out, since they are rounded where they meet
other numbers, and so are the dates and times that have no place on the time line.
-/

namespace XPath

open Number

/-! ## 1. Keys -/

/-- What a value is compared by: the rational value of a number, the key of a text under the
collation, the place of an instant on the time line. -/
inductive EqualityKey where
  | number (q : Option ℚ)
  | text (key : String)
  | boolean (b : Bool)
  | name (n : ExpandedName)
  | dateTime (place : Int)
  | date (place : Int)
  | time (place : Int)
  | gregorian (kind : GregorianKind) (place : Int)
  | duration (months : Int) (seconds : ℚ)
  | hexBinary (bytes : List UInt8)
  | base64Binary (bytes : List UInt8)

def Numeric.exact? : Numeric → Option ℚ
  | integer i => some i
  | decimal d => some d.value
  | float _ | double _ => none

namespace Atomic

variable (c : Collation) (tz : TimeZone)

/-- Whether a value is of no floating-point type, and has a place on the time line if it is a date
or time. -/
def isPlaced : Atomic → Bool
  | numeric n => n.exact?.isSome
  | dateTime v => (v.toUtc tz).isOk
  | date v => (v.toUtc tz).isOk
  | time v => (v.toUtc tz).isOk
  | gregorian v => (v.toUtc tz).isOk
  | _ => true

def equalityKey : Atomic → EqualityKey
  | string s | untyped s | anyURI s => .text (c.key s)
  | boolean b => .boolean b
  | numeric n => .number n.exact?
  | qname q => .name q.expanded
  | dateTime v => .dateTime (OrderedKind.place (v.toUtc tz))
  | date v => .date (OrderedKind.place (v.toUtc tz))
  | time v => .time (OrderedKind.place (v.toUtc tz))
  | gregorian v => .gregorian v.kind (OrderedKind.place (v.toUtc tz))
  | yearMonthDuration d => .duration d.months Decimal.zero.value
  | dayTimeDuration d => .duration 0 d.seconds.value
  | duration d => .duration d.months d.seconds.value
  | hexBinary b => .hexBinary b
  | base64Binary b => .base64Binary b

end Atomic

/-! ## 2. Numbers -/

namespace Number.Decimal

theorem abs_value_lt (d : Decimal) : |d.value| < 2 ^ 96 := by
  have hc : (d.coefficient : ℚ) < 2 ^ 96 := by exact_mod_cast d.coefficient_lt
  have hs : (1 : ℚ) ≤ 10 ^ d.scale := one_le_pow₀ (by norm_num)
  have habs : |d.value| = d.coefficient / 10 ^ d.scale := by
    rw [value, abs_div, abs_of_pos (zero_lt_one.trans_le hs)]
    congr 1
    unfold signed
    split <;> simp
  rw [habs]
  exact (div_le_self (by positivity) hs).trans_lt hc

/-- An integer with more bits than a decimal has is the value of none. -/
theorem value_ne_of_ofInt? {i : Int} (h : ofInt? i = none) (d : Decimal) : d.value ≠ i := by
  intro hd
  have hlt := d.abs_value_lt
  rw [hd] at hlt
  have hi : i.natAbs < 2 ^ 96 := by
    have habs : |i| < 2 ^ 96 := by exact_mod_cast hlt
    rw [Int.abs_eq_natAbs] at habs
    omega
  simp [ofInt?, ofParts?, hi] at h

end Number.Decimal

namespace Comparison

/-- The answer of a comparison for equality, where one that fails counts as unequal. -/
def isEqual : Result Bool → Bool
  | .ok r => r
  | .error _ => false

theorem eq_holds_cmp_iff {α : Type} [LinearOrder α] {x y : α} :
    eq.holds (some (cmp x y)) = true ↔ x = y := eq_comm.trans holds_eq_iff

end Comparison

namespace Collation

variable (c : Collation) (s t : String)

theorem eq_holds_compare_iff :
    Comparison.eq.holds (some (c.compare s t)) = true ↔ c.key s = c.key t := by
  have hkeys : c.compare s t = _ := compareOfLessAndEq_eq_cmp _ _
  rw [hkeys, ← String.toList_inj]
  exact Comparison.eq_holds_cmp_iff

theorem equal_iff : c.equal s t = true ↔ c.key s = c.key t := by
  rw [← c.eq_holds_compare_iff, equal]
  cases c.compare s t <;> decide

end Collation

namespace Atomic

variable (c : Collation) (tz : TimeZone)

open Comparison

/-- An integer and a decimal compare as rational numbers.  Where that fails the integer is too
large, so the numbers differ. -/
theorem equal_numeric_iff {m n : Numeric} (hm : m.exact?.isSome) (hn : n.exact?.isSome) :
    (numeric m).equal (numeric n) c tz true = true ↔ m.exact? = n.exact? := by
  cases m with
  | integer i =>
    cases n with
    | integer j =>
      change eq.holds (some (Ord.compare i j)) = true ↔ some (i : ℚ) = some (j : ℚ)
      rw [compare_int_eq_cmp, eq_holds_cmp_iff, Option.some_inj, Int.cast_inj]
    | decimal d =>
      change isEqual (Except.map eq.holds ((Numeric.integer i).compare (.decimal d))) = true ↔
        some (i : ℚ) = some d.value
      rw [OrderedKind.compare_integer_decimal, Option.some_inj]
      cases h : Decimal.ofInt? i with
      | none => exact iff_of_false Bool.false_ne_true (Decimal.value_ne_of_ofInt? h d).symm
      | some e => exact eq_holds_cmp_iff
    | _ => cases hn
  | decimal d =>
    cases n with
    | integer j =>
      change isEqual (Except.map eq.holds ((Numeric.decimal d).compare (.integer j))) = true ↔
        some d.value = some (j : ℚ)
      rw [OrderedKind.compare_decimal_integer, Option.some_inj]
      cases h : Decimal.ofInt? j with
      | none => exact iff_of_false Bool.false_ne_true (Decimal.value_ne_of_ofInt? h d)
      | some e => exact eq_holds_cmp_iff
    | decimal e =>
      change eq.holds (some (d.compare e)) = true ↔ some d.value = some e.value
      rw [Decimal.compare_eq_cmp, eq_holds_cmp_iff, Option.some_inj]
    | _ => cases hn
  | _ => cases hm

/-! ## 3. All values -/

theorem equal_texts_iff {v w : Atomic} {s t : String} (hv : v.stringLike? = some s)
    (hw : w.stringLike? = some t) : v.equal w c tz true = true ↔ c.key s = c.key t := by
  have hequal : v.equal w c tz true = isEqual (compare .eq v w c tz) := by
    cases v with
    | numeric n => cases hv
    | _ => rfl
  rw [hequal, OrderedKind.compare_of_stringLike c tz hv hw]
  exact c.eq_holds_compare_iff s t

/-- Two instants that compare have a place on the time line. -/
theorem isOk_of_compareInstants {x y : Result Calendar.LocalTime} {f : Ordering → Bool} {r : Bool}
    (h : (compareInstants x y).map f = .ok r) : x.isOk = true ∧ y.isOk = true := by
  cases x with
  | error e => cases h
  | ok t =>
    cases y with
    | error e => cases h
    | ok u => exact ⟨rfl, rfl⟩

theorem isEqual_instants_iff {x y : Result Calendar.LocalTime} (hx : x.isOk) (hy : y.isOk) :
    isEqual ((compareInstants x y).map fun o => eq.holds (some o)) = true ↔
      OrderedKind.place x = OrderedKind.place y := by
  cases x with
  | error e => cases hx
  | ok t =>
    cases y with
    | error e => cases hy
    | ok u =>
      change eq.holds (some (Ord.compare t.total u.total)) = true ↔ t.total = u.total
      rw [compare_int_eq_cmp, eq_holds_cmp_iff]

theorem equal_gregorian_iff {v w : Gregorian} (hv : (v.toUtc tz).isOk) (hw : (w.toUtc tz).isOk) :
    (gregorian v).equal (gregorian w) c tz true = true ↔ v.kind = w.kind ∧
      OrderedKind.place (v.toUtc tz) = OrderedKind.place (w.toUtc tz) := by
  change isEqual (if v.kind == w.kind then do
      compareEquality .eq (gregorian v) (gregorian w)
        (← compareInstants (v.toUtc tz) (w.toUtc tz)).isEq
    else .error (incomparable .eq (gregorian v) (gregorian w))) = true ↔ _
  by_cases hk : v.kind = w.kind
  · rw [if_pos (beq_iff_eq.mpr hk), and_iff_right hk, ← isEqual_instants_iff hv hw]
    cases compareInstants (v.toUtc tz) (w.toUtc tz) <;> rfl
  · rw [if_neg fun h => hk (beq_iff_eq.mp h)]
    exact iff_of_false Bool.false_ne_true fun h => hk h.1

/-- Durations of any two types are equal if their months and their seconds are. -/
theorem equal_duration_iff (m n : Int) (s t : Decimal) :
    (m == n && s == t) = true ↔ EqualityKey.duration m s.value = .duration n t.value := by
  have hs : (s == t) = true ↔ s.value = t.value := by
    change (s.compare t == .eq) = true ↔ _
    rw [Decimal.compare_eq_cmp, beq_iff_eq, cmp_eq_eq_iff]
  rw [Bool.and_eq_true, beq_iff_eq, hs, EqualityKey.duration.injEq]

/-- Two values are equal exactly if they have one key. -/
theorem equal_iff {v w : Atomic} (hv : v.isPlaced tz) (hw : w.isPlaced tz) :
    v.equal w c tz true = true ↔ v.equalityKey c tz = w.equalityKey c tz := by
  -- a value compares with those of its own type, and with those whose keys are of the same form
  cases v with
  | string s | untyped s | anyURI s =>
    cases w with
    | string t | untyped t | anyURI t =>
      exact (equal_texts_iff c tz rfl rfl).trans (EqualityKey.text.injEq _ _).to_iff.symm
    | _ => constructor <;> (intro h; cases h)
  | boolean x =>
    cases w with
    | boolean y =>
      change eq.holds (some (Ord.compare x y)) = true ↔ EqualityKey.boolean x = .boolean y
      rw [EqualityKey.boolean.injEq]
      cases x <;> cases y <;> decide
    | _ => constructor <;> (intro h; cases h)
  | numeric m =>
    cases w with
    | numeric n =>
      exact (equal_numeric_iff c tz hv hw).trans (EqualityKey.number.injEq _ _).to_iff.symm
    | _ => constructor <;> (intro h; cases h)
  | qname p =>
    cases w with
    | qname q =>
      change (p.expanded == q.expanded) = true ↔ _
      rw [beq_iff_eq]
      exact (EqualityKey.name.injEq _ _).to_iff.symm
    | _ => constructor <;> (intro h; cases h)
  | dateTime x =>
    cases w with
    | dateTime y =>
      exact (isEqual_instants_iff hv hw).trans (EqualityKey.dateTime.injEq _ _).to_iff.symm
    | _ => constructor <;> (intro h; cases h)
  | date x =>
    cases w with
    | date y => exact (isEqual_instants_iff hv hw).trans (EqualityKey.date.injEq _ _).to_iff.symm
    | _ => constructor <;> (intro h; cases h)
  | time x =>
    cases w with
    | time y => exact (isEqual_instants_iff hv hw).trans (EqualityKey.time.injEq _ _).to_iff.symm
    | _ => constructor <;> (intro h; cases h)
  | gregorian x =>
    cases w with
    | gregorian y =>
      exact (equal_gregorian_iff c tz hv hw).trans (EqualityKey.gregorian.injEq _ _ _ _).to_iff.symm
    | _ => constructor <;> (intro h; cases h)
  | yearMonthDuration d =>
    cases w with
    | yearMonthDuration e =>
      change eq.holds (some (Ord.compare d.months e.months)) = true ↔ _
      rw [compare_int_eq_cmp, eq_holds_cmp_iff]
      simp [equalityKey]
    | dayTimeDuration e => exact equal_duration_iff d.months 0 .zero e.seconds
    | duration e => exact equal_duration_iff d.months e.months .zero e.seconds
    | _ => constructor <;> (intro h; cases h)
  | dayTimeDuration d =>
    cases w with
    | yearMonthDuration e => exact equal_duration_iff 0 e.months d.seconds .zero
    | dayTimeDuration e =>
      change eq.holds (some (d.seconds.compare e.seconds)) = true ↔ _
      rw [Decimal.compare_eq_cmp, eq_holds_cmp_iff]
      simp [equalityKey]
    | duration e => exact equal_duration_iff 0 e.months d.seconds e.seconds
    | _ => constructor <;> (intro h; cases h)
  | duration d =>
    cases w with
    | yearMonthDuration e => exact equal_duration_iff d.months e.months d.seconds .zero
    | dayTimeDuration e => exact equal_duration_iff d.months 0 d.seconds e.seconds
    | duration e => exact equal_duration_iff d.months e.months d.seconds e.seconds
    | _ => constructor <;> (intro h; cases h)
  | hexBinary x =>
    cases w with
    | hexBinary y =>
      change (x == y) = true ↔ _
      rw [beq_iff_eq]
      exact (EqualityKey.hexBinary.injEq _ _).to_iff.symm
    | _ => constructor <;> (intro h; cases h)
  | base64Binary x =>
    cases w with
    | base64Binary y =>
      change (x == y) = true ↔ _
      rw [beq_iff_eq]
      exact (EqualityKey.base64Binary.injEq _ _).to_iff.symm
    | _ => constructor <;> (intro h; cases h)

end Atomic

end XPath
