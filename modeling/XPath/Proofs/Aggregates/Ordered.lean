import Mathlib.Tactic.IntervalCases
import XPath.Proofs.Equality
import XPath.Proofs.Number.FloatOrder

/-!
# Values that are ordered among themselves

A comparison by `lt` or `gt` answers only if both values are numbers, or both are of one other
ordered kind and have a place in its order.  Values of one such kind are ordered by a key, and so
are numbers of one type without a NaN, whatever the type is.
-/

namespace XPath

open Number

/-! ## 1. The kind that a value is ordered in -/

namespace Atomic

variable {c : Collation} {tz : TimeZone} {a b : Atomic} {op : Comparison}

def isNaN (v : Atomic) : Bool := v.numeric?.any Numeric.isNaN

/-- The ordered kind of a value that has a place in the order of the kind.  All numbers are of one
kind, a NaN as well. -/
def orderClass? (tz : TimeZone) (v : Atomic) : Option OrderedKind :=
  if v.numeric?.isSome then some .number else if v.isPlaced tz then v.orderedKind? else none

theorem orderClass?_eq_some {k : OrderedKind} (hk : k ≠ .number) (h : a.orderClass? tz = some k) :
    a.orderedKind? = some k ∧ a.isPlaced tz = true := by
  unfold orderClass? at h
  by_cases hn : a.numeric?.isSome = true
  · rw [if_pos hn] at h
    exact absurd (Option.some.inj h).symm hk
  · rw [if_neg hn, Option.ite_none_right_eq_some] at h
    exact h.symm

theorem orderClass?_eq_number : a.orderClass? tz = some .number ↔ a.numeric?.isSome := by
  cases a <;> simp [orderClass?, numeric?, orderedKind?]

theorem orderClass?_ne_number (h : a.numeric? = none) : a.orderClass? tz ≠ some .number := by
  rw [ne_eq, orderClass?_eq_number, h]
  exact Bool.false_ne_true

theorem exists_numeric_of_isNaN (h : a.isNaN = true) : ∃ n, a = numeric n ∧ n.isNaN = true := by
  cases a with
  | numeric n => exact ⟨n, rfl, h⟩
  | _ => cases h

/-- Values that compare are of one kind. -/
theorem orderClass?_of_compare (hop : op = .lt ∨ op = .gt) {r : Bool}
    (h : compare op a b c tz = .ok r) :
    ∃ k, a.orderClass? tz = some k ∧ b.orderClass? tz = some k := by
  -- values of two kinds fail to compare, and so do values of one kind that has no order
  rcases hop with rfl | rfl
  all_goals
    cases a with
    | numeric m =>
      cases b with
      | numeric n => exact ⟨.number, rfl, rfl⟩
      | _ => cases h
    | string s | untyped s | anyURI s =>
      cases b with
      | string t | untyped t | anyURI t => exact ⟨.text, rfl, rfl⟩
      | _ => cases h
    | boolean x =>
      cases b with
      | boolean y => exact ⟨.boolean, rfl, rfl⟩
      | _ => cases h
    | yearMonthDuration d =>
      cases b with
      | yearMonthDuration e => exact ⟨.yearMonthDuration, rfl, rfl⟩
      | _ => cases h
    | dayTimeDuration d =>
      cases b with
      | dayTimeDuration e => exact ⟨.dayTimeDuration, rfl, rfl⟩
      | _ => cases h
    | dateTime v =>
      cases b with
      | dateTime w =>
        rcases isOk_of_compareInstants h with ⟨hv, hw⟩
        exact ⟨.dateTime, if_pos hv, if_pos hw⟩
      | _ => cases h
    | date v =>
      cases b with
      | date w =>
        rcases isOk_of_compareInstants h with ⟨hv, hw⟩
        exact ⟨.date, if_pos hv, if_pos hw⟩
      | _ => cases h
    | time v =>
      cases b with
      | time w =>
        rcases isOk_of_compareInstants h with ⟨hv, hw⟩
        exact ⟨.time, if_pos hv, if_pos hw⟩
      | _ => cases h
    | gregorian v =>
      cases b with
      | gregorian w =>
        -- the kinds may agree and the instants exist, but then only equality is asked for
        change (if v.kind == w.kind then do
            compareEquality _ (gregorian v) (gregorian w)
              (← compareInstants (v.toUtc tz) (w.toUtc tz)).isEq
          else .error (incomparable _ (gregorian v) (gregorian w))) = _ at h
        split at h
        · cases hi : compareInstants (v.toUtc tz) (w.toUtc tz) with
          | error e => rw [hi] at h; cases h
          | ok o => rw [hi] at h; cases h
        · cases h
      | _ => cases h
    | _ => cases b <;> cases h

/-! ## 2. Values that go by a key -/

/-- Whether the values of a list compare, by every operator, as their keys in a linear order do. -/
def IsOrdered (c : Collation) (tz : TimeZone) (l : List Atomic) : Prop :=
  ∃ (β : Type) (_ : LinearOrder β) (key : Atomic → β), ∀ a ∈ l, ∀ b ∈ l, ∀ op,
    compare op a b c tz = .ok (op.holds (some (cmp (key a) (key b))))

theorem compare_instants {x y : Result Calendar.LocalTime} (hx : x.isOk = true)
    (hy : y.isOk = true) (op : Comparison) :
    ((compareInstants x y).map fun o => op.holds (some o)) =
      .ok (op.holds (some (cmp (OrderedKind.place x) (OrderedKind.place y)))) := by
  cases x with
  | error e => cases hx
  | ok t =>
    cases y with
    | error e => cases hy
    | ok u => exact congrArg (fun o => Except.ok (op.holds (some o))) (compare_int_eq_cmp _ _)

/-- The key of a value of a kind that is ordered like the integers. -/
def integerKey (tz : TimeZone) : Atomic → Int
  | boolean b => if b then 1 else 0
  | dateTime v => OrderedKind.place (v.toUtc tz)
  | date v => OrderedKind.place (v.toUtc tz)
  | time v => OrderedKind.place (v.toUtc tz)
  | yearMonthDuration d => d.months
  | _ => 0

/-- Values of one kind other than the numbers are ordered. -/
theorem isOrdered_of_orderClass? {k : OrderedKind} (hk : k ≠ .number) {l : List Atomic}
    (h : ∀ v ∈ l, v.orderClass? tz = some k) : IsOrdered c tz l := by
  have hmade := fun v hv =>
    OrderedKind.made_from k ⟨v, (orderClass?_eq_some hk (h v hv)).1⟩
  have hplaced := fun v hv => (orderClass?_eq_some hk (h v hv)).2
  cases k with
  | number => exact absurd rfl hk
  | text =>
    let text (v : Atomic) : String := v.stringLike?.getD ""
    refine ⟨List Char, inferInstance, fun v => (c.key (text v)).toList, fun a ha b hb op => ?_⟩
    rcases hmade a ha with ⟨s, hs⟩
    rcases hmade b hb with ⟨t, ht⟩
    have has : text a = s := congrArg (Option.getD · "") hs
    have hbt : text b = t := congrArg (Option.getD · "") ht
    have hkeys : c.compare s t = _ := compareOfLessAndEq_eq_cmp _ _
    rw [OrderedKind.compare_of_stringLike c tz hs ht, hkeys, ← has, ← hbt]
  | boolean =>
    refine ⟨Int, inferInstance, integerKey tz, fun a ha b hb op => ?_⟩
    rcases hmade a ha with ⟨x, rfl⟩
    rcases hmade b hb with ⟨y, rfl⟩
    cases x <;> cases y <;> rfl
  | dateTime | date | time =>
    refine ⟨Int, inferInstance, integerKey tz, fun a ha b hb op => ?_⟩
    rcases hmade a ha with ⟨v, rfl⟩
    rcases hmade b hb with ⟨w, rfl⟩
    exact compare_instants (hplaced _ ha) (hplaced _ hb) op
  | yearMonthDuration =>
    refine ⟨Int, inferInstance, integerKey tz, fun a ha b hb op => ?_⟩
    rcases hmade a ha with ⟨d, rfl⟩
    rcases hmade b hb with ⟨e, rfl⟩
    exact congrArg (fun o => Except.ok (op.holds (some o))) (compare_int_eq_cmp _ _)
  | dayTimeDuration =>
    let seconds (v : Atomic) : Decimal := (v.durationParts?.map (·.2)).getD .zero
    refine ⟨ℚ, inferInstance, fun v => (seconds v).value, fun a ha b hb op => ?_⟩
    rcases hmade a ha with ⟨d, rfl⟩
    rcases hmade b hb with ⟨e, rfl⟩
    exact congrArg (fun o => Except.ok (op.holds (some o))) (Decimal.compare_eq_cmp _ _)

end Atomic

/-! ## 3. Numbers of one type -/

namespace Numeric

variable {m n : Numeric} {r : Nat}

theorem rank_le (n : Numeric) : n.rank ≤ 3 := by
  cases n <;> simp [rank]

theorem promote_of_le_rank (h : r ≤ n.rank) : n.promote r = .ok n := if_pos h

theorem promote_two (h : n.rank < 2) : n.promote 2 = .ok (float n.toSingle) := by
  cases n <;> simp [rank] at h <;> rfl

theorem promote_three (h : n.rank < 3) : n.promote 3 = .ok (double n.toDouble) := by
  cases n <;> simp [rank] at h <;> rfl

/-- Promotion to a type that is not below that of the number gives a number of that type. -/
theorem rank_promote (hn : n.rank ≤ r) (hr : r ≤ 3) (h : n.promote r = .ok m) : m.rank = r := by
  by_cases hle : r ≤ n.rank
  · rw [promote_of_le_rank hle] at h
    cases h
    exact le_antisymm hn hle
  · have hlt := Nat.lt_of_not_le hle
    interval_cases r
    · exact absurd hlt (Nat.not_lt_zero _)
    · -- only an integer is below the decimals
      cases n with
      | integer i =>
        rw [OrderedKind.promote_integer] at h
        cases hd : Decimal.ofInt? i with
        | none => rw [hd] at h; cases h
        | some d => rw [hd] at h; cases h; rfl
      | _ => exact absurd hlt (by simp [rank])
    · rw [promote_two hlt] at h
      cases h
      rfl
    · rw [promote_three hlt] at h
      cases h
      rfl

/-- Promotion to a floating-point type never fails. -/
theorem exists_promote (h : 2 ≤ r) (hr : r ≤ 3) (n : Numeric) : ∃ m, n.promote r = .ok m := by
  by_cases hle : r ≤ n.rank
  · exact ⟨n, promote_of_le_rank hle⟩
  · have hlt := Nat.lt_of_not_le hle
    interval_cases r
    · exact ⟨_, promote_two hlt⟩
    · exact ⟨_, promote_three hlt⟩

theorem unify_of_rank_eq (h : m.rank = n.rank) : m.unify n = .ok (m, n) := by
  rw [unify, h, max_self, promote_of_le_rank h.ge, promote_of_le_rank le_rfl]
  rfl

theorem exists_compare_of_unify {p : Numeric × Numeric} (h : m.unify n = .ok p) :
    ∃ o, m.compare n = .ok o := by
  rw [compare, h]
  rcases p with ⟨_ | _ | _ | _, _ | _ | _ | _⟩ <;> exact ⟨_, rfl⟩

theorem exists_compare_of_rank_eq (h : m.rank = n.rank) : ∃ o, m.compare n = .ok o :=
  exists_compare_of_unify (unify_of_rank_eq h)

/-- A comparison with a floating-point number never fails. -/
theorem exists_compare_of_le_rank (h : 2 ≤ m.rank ∨ 2 ≤ n.rank) : ∃ o, m.compare n = .ok o := by
  have hmax : 2 ≤ max m.rank n.rank := le_max_iff.mpr h
  have hle : max m.rank n.rank ≤ 3 := max_le m.rank_le n.rank_le
  rcases exists_promote hmax hle m with ⟨m', hm⟩
  rcases exists_promote hmax hle n with ⟨n', hn⟩
  have hunify : m.unify n = .ok (m', n') := by
    rw [unify, hm, hn]
    rfl
  exact exists_compare_of_unify hunify

theorem two_le_rank_of_isNaN (h : n.isNaN = true) : 2 ≤ n.rank := by
  cases n <;> first | cases h | simp [rank]

/-- A NaN is not ordered among the numbers of its type. -/
theorem compare_of_isNaN (hrank : m.rank = n.rank) (h : m.isNaN = true ∨ n.isNaN = true) :
    m.compare n = .ok none := by
  rw [compare, unify_of_rank_eq hrank]
  cases m with
  | integer i =>
    cases n with
    | integer j => rcases h with h | h <;> cases h
    | _ => cases hrank
  | decimal d =>
    cases n with
    | decimal e => rcases h with h | h <;> cases h
    | _ => cases hrank
  | float x =>
    cases n with
    | float y => exact congrArg Except.ok (compareFloating_single_of_isNaN h)
    | _ => cases hrank
  | double x =>
    cases n with
    | double y => exact congrArg Except.ok (compareFloating_double_of_isNaN h)
    | _ => cases hrank

/-- Other numbers that do not exceed the type of a NaN are not ordered with it either. -/
theorem compare_isNaN_of_rank_le (h : n.isNaN = true) (hle : m.rank ≤ n.rank) :
    m.compare n = .ok none := by
  rcases exists_promote (two_le_rank_of_isNaN h) n.rank_le m with ⟨m', hm⟩
  have hrank := rank_promote hle n.rank_le hm
  have hunify : m.unify n = m'.unify n := by
    rw [unify_of_rank_eq hrank, unify, max_eq_right hle, hm, promote_of_le_rank le_rfl]
    rfl
  rw [compare, hunify]
  exact compare_of_isNaN hrank (.inr h)

/-- The place of a floating-point number; what another number is given does not matter. -/
def place : Numeric → Int ×ₗ Int ×ₗ Int
  | float x => floatPlace x.toModel.unpack
  | double x => floatPlace x.toModel.unpack
  | _ => floatPlace .notANumber

/-- The value of an integer or a decimal; what another number is given does not matter. -/
def rational (n : Numeric) : ℚ := n.exact?.getD 0

/-- Integers compare as rational numbers, and so do decimals. -/
theorem compare_eq_cmp_exact (hrank : m.rank = n.rank) (h : m.rank < 2) :
    m.compare n = .ok (some (cmp m.rational n.rational)) := by
  rw [compare, unify_of_rank_eq hrank]
  cases m with
  | integer i =>
    cases n with
    | integer j =>
      show Except.ok (some (Ord.compare i j)) = Except.ok (some (cmp (i : ℚ) (j : ℚ)))
      rw [compare_int_eq_cmp, (Int.cast_strictMono (R := ℚ)).cmp_map_eq]
    | _ => cases hrank
  | decimal d =>
    cases n with
    | decimal e => exact congrArg (fun o => Except.ok (some o)) (Decimal.compare_eq_cmp d e)
    | _ => cases hrank
  | _ => exact absurd h (by simp [rank])

/-- Floating-point numbers of one type compare by their places. -/
theorem compare_eq_cmp_place (hrank : m.rank = n.rank) (h : 2 ≤ m.rank) (hm : m.isNaN = false)
    (hn : n.isNaN = false) : m.compare n = .ok (some (cmp m.place n.place)) := by
  rw [compare, unify_of_rank_eq hrank]
  cases m with
  | float x =>
    cases n with
    | float y => exact congrArg Except.ok (compareFloating_single hm hn)
    | _ => cases hrank
  | double x =>
    cases n with
    | double y => exact congrArg Except.ok (compareFloating_double hm hn)
    | _ => cases hrank
  | _ => exact absurd h (by simp [rank])

end Numeric

namespace Atomic

/-- Whether the value is a number of the type with a rank. -/
def HasRank (r : Nat) (v : Atomic) : Prop := ∃ n, v = .numeric n ∧ n.rank = r

theorem compare_numeric {c : Collation} {tz : TimeZone} {m n : Numeric} {o : Option Ordering}
    (h : m.compare n = .ok o) (op : Comparison) :
    compare op (numeric m) (numeric n) c tz = .ok (op.holds o) := by
  rw [compare, h]
  rfl

/-- Numbers of one type without a NaN are ordered. -/
theorem isOrdered_of_hasRank {c : Collation} {tz : TimeZone} {l : List Atomic} {r : Nat}
    (hrank : ∀ v ∈ l, v.HasRank r) (hnan : ∀ v ∈ l, v.isNaN = false) : IsOrdered c tz l := by
  let number (v : Atomic) : Numeric := v.numeric?.getD (.integer 0)
  by_cases hr : r < 2
  · refine ⟨ℚ, inferInstance, fun v => (number v).rational, fun a ha b hb op => ?_⟩
    rcases hrank a ha with ⟨m, rfl, hm⟩
    rcases hrank b hb with ⟨n, rfl, hn⟩
    exact compare_numeric (Numeric.compare_eq_cmp_exact (hm.trans hn.symm) (hm ▸ hr)) op
  · refine ⟨_, inferInstance, fun v => (number v).place, fun a ha b hb op => ?_⟩
    rcases hrank a ha with ⟨m, rfl, hm⟩
    rcases hrank b hb with ⟨n, rfl, hn⟩
    exact compare_numeric (Numeric.compare_eq_cmp_place (hm.trans hn.symm)
      (hm ▸ Nat.le_of_not_lt hr) (hnan _ ha) (hnan _ hb)) op

end Atomic

end XPath
