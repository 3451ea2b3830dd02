import XPath.Proofs.Division
import XPath.Proofs.GeneralComparison

/-!
# Sums and products in either order

A sum and a product do not depend on the order of their operands, whatever the types of these are:
numbers, durations, or a date and a duration that moves it.  If there is no such operator for the
two types, there is none in the other order.  The error then names the types as they stand, so only
its code is the same.
-/

namespace XPath

open Number

/-! ## 1. Decimals -/

namespace Number.Decimal

variable (a b : Decimal)

theorem normalize_of_isZero {d : Decimal} (h : d.isZero = true) : d.normalize = zero := if_pos h

/-- Of two zeros the sum is the second one, with its scale and sign, so the sums are the same only
in normal form. -/
theorem map_normalize_add?_comm : (a.add? b).map normalize = (b.add? a).map normalize := by
  by_cases ha : a.isZero = true
  · by_cases hb : b.isZero = true
    · rw [add?, if_pos ha, add?, if_pos hb, Option.map_some, Option.map_some,
        normalize_of_isZero ha, normalize_of_isZero hb]
    · rw [add?, if_pos ha, add?, if_neg hb, if_pos ha]
  · by_cases hb : b.isZero = true
    · rw [add?, if_neg ha, if_pos hb, add?, if_pos hb]
    · rw [add?, if_neg ha, if_neg hb, add?, if_neg hb, if_neg ha]
      dsimp only
      rw [Nat.max_comm, Int.add_comm]

theorem mul?_comm : a.mul? b = b.mul? a := by
  unfold mul?
  rw [Bool.or_comm]
  dsimp only
  rw [Nat.add_comm, Nat.mul_comm, bne_comm]

end Number.Decimal

/-! ## 2. Numbers -/

namespace Numeric

variable {a b : Numeric} {op : ArithmeticOp}

theorem promote_eq_error {n : Numeric} {r : Nat} {e : Error} (h : n.promote r = .error e) :
    e = .decimalRange := by
  unfold promote at h
  split at h
  · cases h
  · split at h
    · split at h
      · cases h
      · exact (Except.error.inj h).symm
    · cases h
    · cases h
    · cases h

theorem unify_eq_error {e : Error} (h : a.unify b = .error e) : e = .decimalRange := by
  unfold unify at h
  dsimp only at h
  cases ha : a.promote (max a.rank b.rank) with
  | error e' =>
    rw [ha] at h
    obtain rfl : e' = e := Except.error.inj h
    exact promote_eq_error ha
  | ok m =>
    cases hb : b.promote (max a.rank b.rank) with
    | error e' =>
      rw [ha, hb] at h
      obtain rfl : e' = e := Except.error.inj h
      exact promote_eq_error hb
    | ok n =>
      rw [ha, hb] at h
      cases h

theorem unify_comm (a b : Numeric) : b.unify a = (a.unify b).map Prod.swap := by
  cases h : a.unify b with
  | ok p => exact unify_swap h
  | error e =>
    cases h' : b.unify a with
    | ok p =>
      rw [unify_swap h'] at h
      cases h
    | error e' =>
      rw [unify_eq_error h, unify_eq_error h']
      rfl

theorem orOverflow_map {α β : Type} (f : α → β) (o : Option α) :
    (orOverflow o).map f = orOverflow (o.map f) := by
  cases o <;> rfl

theorem onDecimals_comm (hop : op = .add ∨ op = .mul) (d e : Decimal) :
    onDecimals op d e = onDecimals op e d := by
  rcases hop with rfl | rfl
  · show (orOverflow _).map Decimal.normalize = (orOverflow _).map Decimal.normalize
    rw [orOverflow_map, orOverflow_map, d.map_normalize_add?_comm e]
  · show (orOverflow _).map Decimal.normalize = (orOverflow _).map Decimal.normalize
    rw [d.mul?_comm e]

theorem onIntegers_comm (hop : op = .add ∨ op = .mul) (i j : Int) :
    onIntegers op i j = onIntegers op j i := by
  rcases hop with rfl | rfl
  · exact congrArg Except.ok (Int.add_comm i j)
  · exact congrArg Except.ok (Int.mul_comm i j)

theorem arithmetic_comm (hop : op = .add ∨ op = .mul) (ha : a.exact?.isSome)
    (hb : b.exact?.isSome) :
    a.arithmetic op b = b.arithmetic op a := by
  obtain ⟨x, hx⟩ := Option.isSome_iff_exists.mp ha
  obtain ⟨y, hy⟩ := Option.isSome_iff_exists.mp hb
  have hoperands : ∀ m n : Numeric, operands op m n = m.unify n := by
    intro m n
    rcases hop with rfl | rfl <;> rfl
  have hidiv : (op == .idiv) = false := by
    rcases hop with rfl | rfl <;> rfl
  unfold arithmetic
  rw [hoperands, hoperands, unify_comm a b]
  simp only [hidiv, Bool.false_eq_true, if_false]
  cases hp : a.unify b with
  | error e => rfl
  | ok p =>
    -- both operands are integers now, or both are decimals
    rcases unify_exact hx hy hp with ⟨-, i, j, rfl, -, -⟩ | ⟨-, d, e, rfl, -, -⟩
    · exact congrArg (Except.map integer) (onIntegers_comm hop i j)
    · exact congrArg (Except.map decimal) (onDecimals_comm hop d e)

end Numeric

/-! ## 3. Durations -/

theorem YearMonthDuration.add_comm (d e : YearMonthDuration) : d.add e = e.add d := by
  rw [add, Int.add_comm, add]

theorem DayTimeDuration.ofSeconds?_congr {s t : Option Decimal}
    (h : s.map Decimal.normalize = t.map Decimal.normalize) : ofSeconds? s = ofSeconds? t := by
  cases s with
  | none =>
    cases t with
    | none => rfl
    | some t => cases h
  | some s =>
    cases t with
    | none => cases h
    | some t => exact congrArg (fun n => Except.ok (DayTimeDuration.mk n)) (Option.some.inj h)

theorem DayTimeDuration.add_comm (d e : DayTimeDuration) : d.add e = e.add d :=
  ofSeconds?_congr (d.seconds.map_normalize_add?_comm e.seconds)

/-! ## 4. All values -/

/-- Whether two computations end alike: with one value, or with errors of one code. -/
def SameOutcome {α : Type} (x y : Result α) : Prop :=
  (∃ v, x = .ok v ∧ y = .ok v) ∨ ∃ e f, x = .error e ∧ y = .error f ∧ e.code = f.code

theorem SameOutcome.of_eq {α : Type} {x y : Result α} (h : x = y) : SameOutcome x y := by
  subst h
  cases x with
  | ok v => exact .inl ⟨v, rfl, rfl⟩
  | error e => exact .inr ⟨e, e, rfl, rfl, rfl⟩

namespace Atomic

variable {a b : Atomic} {op : ArithmeticOp}

/-- The table of sums is symmetric; on its diagonal are the sums of two durations. -/
theorem addDuration?_comm (a b : Atomic) : addDuration? a b = addDuration? b a := by
  cases a with
  | yearMonthDuration d =>
    cases b with
    | yearMonthDuration e =>
      show some ((d.add e).map yearMonthDuration) = _
      rw [d.add_comm e]
      rfl
    | _ => rfl
  | dayTimeDuration d =>
    cases b with
    | dayTimeDuration e =>
      show some ((d.add e).map dayTimeDuration) = _
      rw [d.add_comm e]
      rfl
    | _ => rfl
  | _ => cases b <;> rfl

theorem scale?_comm (a b : Atomic) : scale? a b = scale? b a := by
  cases a <;> cases b <;> rfl

theorem temporal?_comm (hop : op = .add ∨ op = .mul) (a b : Atomic) (tz : TimeZone) :
    temporal? op a b tz = temporal? op b a tz := by
  rcases hop with rfl | rfl
  · exact addDuration?_comm a b
  · exact scale?_comm a b

/-- Whether two values meet without rounding: if both are numbers, neither is a float or a double.
-/
def MeetExactly (a b : Atomic) : Prop :=
  ∀ m n, a = numeric m → b = numeric n → m.exact?.isSome ∧ n.exact?.isSome

theorem arithmetic_of_not_numbers (h : ∀ m n, a = numeric m → b ≠ numeric n) (tz : TimeZone) :
    arithmetic op a b tz = (temporal? op a b tz).getD (.error (noOperator op a b)) := by
  unfold arithmetic
  split
  · exact absurd rfl (h _ _ rfl)
  · rfl

/-- A sum and a product come out alike in either order. -/
theorem arithmetic_sameOutcome_swap (hop : op = .add ∨ op = .mul) (h : MeetExactly a b)
    (tz : TimeZone) : SameOutcome (arithmetic op a b tz) (arithmetic op b a tz) := by
  by_cases hnumbers : ∃ m n, a = numeric m ∧ b = numeric n
  · obtain ⟨m, n, rfl, rfl⟩ := hnumbers
    obtain ⟨hm, hn⟩ := h m n rfl rfl
    apply SameOutcome.of_eq
    exact congrArg (Except.map numeric) (Numeric.arithmetic_comm hop hm hn)
  · have hab : ∀ m n, a = numeric m → b ≠ numeric n :=
      fun m n ha hb => hnumbers ⟨m, n, ha, hb⟩
    have hba : ∀ m n, b = numeric m → a ≠ numeric n :=
      fun m n hb ha => hnumbers ⟨n, m, ha, hb⟩
    rw [arithmetic_of_not_numbers hab, arithmetic_of_not_numbers hba, temporal?_comm hop b a]
    cases temporal? op a b tz with
    | some r => exact .of_eq rfl
    -- the two errors name the types in their own order
    | none => exact .inr ⟨noOperator op a b, noOperator op b a, rfl, rfl, rfl⟩

/-- An integer and a decimal, a month and a date, and a date and a time, which have no product. -/
theorem arithmetic_sameOutcome_swap_sample :
    let half := decimal ⟨false, 5, 1, by decide, by decide⟩
    let month := yearMonthDuration (.ofMonths 1)
    let day := date ⟨.epoch, none⟩
    let noon := time ⟨.wrap 43200000000000, none⟩
    (arithmetic .add (integer 2) half .utc = .ok (decimal ⟨false, 25, 1, by decide, by decide⟩) ∧
      SameOutcome (arithmetic .add (integer 2) half .utc) (arithmetic .add half (integer 2) .utc)) ∧
    ((arithmetic .add month day .utc).isOk = true ∧
      SameOutcome (arithmetic .add month day .utc) (arithmetic .add day month .utc)) ∧
    arithmetic .mul day noon .utc = .error (noOperator .mul day noon) ∧
      SameOutcome (arithmetic .mul day noon .utc) (arithmetic .mul noon day .utc) := by
  intro half month day noon
  have hnumbers : MeetExactly (integer 2) half := by
    intro m n hm hn
    obtain rfl := numeric.inj hm
    obtain rfl := numeric.inj hn
    exact ⟨rfl, rfl⟩
  have hmonth : MeetExactly month day := fun m n hm => Atomic.noConfusion hm
  have hday : MeetExactly day noon := fun m n hm => Atomic.noConfusion hm
  refine ⟨⟨rfl, ?_⟩, ⟨by decide +kernel, ?_⟩, rfl, ?_⟩
  · exact arithmetic_sameOutcome_swap (.inl rfl) hnumbers .utc
  · exact arithmetic_sameOutcome_swap (.inl rfl) hmonth .utc
  · exact arithmetic_sameOutcome_swap (.inr rfl) hday .utc

end Atomic

end XPath
