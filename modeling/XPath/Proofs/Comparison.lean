import Mathlib.Data.Char
import Mathlib.Data.List.Lex
import Mathlib.Tactic.Choose
import XPath.Proofs.Number.Order
import XPath.Proofs.Result
import XPath.Value.Compare

/-!
# The order of atomic values

The values of some kinds are ordered: integers and decimals together, texts of all three types
together, truth values, dates and times, and the durations of months and those of seconds.  On each
of these kinds the six comparison operators belong to one total preorder, whatever the collation and
the implicit time zone are.

A comparison may fail: an integer can be too large to be compared with a decimal, and a date can
have no place on the time line.  The laws are about the comparisons that give an answer.  They all
come from one fact: two values compare as their keys in some linear order do.  The key of a number
is its rational value, that of a text is its key under the collation, and that of an instant is its
distance from an origin in universal time.
-/

namespace XPath

/-! ## 1. Comparisons that go by a key -/

/-- The laws that tie the six operators to a total preorder.  Each one is about comparisons that
give an answer. -/
structure TotalPreorder {α : Type} (compare : Comparison → α → α → Result Bool) : Prop where
  /-- Two values compare by all operators and in both directions, or by none in neither. -/
  answers : ∀ a b op op', (compare op a b).isOk = (compare op' a b).isOk ∧
    (compare op a b).isOk = (compare op' b a).isOk
  exactly_one : ∀ a b l e g, compare .lt a b = .ok l → compare .eq a b = .ok e →
    compare .gt a b = .ok g → [l, e, g].count true = 1
  le_eq : ∀ a b r l e, compare .le a b = .ok r → compare .lt a b = .ok l →
    compare .eq a b = .ok e → r = (l || e)
  ge_eq : ∀ a b r g e, compare .ge a b = .ok r → compare .gt a b = .ok g →
    compare .eq a b = .ok e → r = (g || e)
  ne_eq : ∀ a b r e, compare .ne a b = .ok r → compare .eq a b = .ok e → r = !e
  lt_eq_gt : ∀ a b l g, compare .lt a b = .ok l → compare .gt b a = .ok g → l = g
  lt_trans : ∀ a b c l, compare .lt a b = .ok true → compare .lt b c = .ok true →
    compare .lt a c = .ok l → l = true
  eq_trans : ∀ a b c e, compare .eq a b = .ok true → compare .eq b c = .ok true →
    compare .eq a c = .ok e → e = true
  lt_of_lt_of_eq : ∀ a b c l, compare .lt a b = .ok true → compare .eq b c = .ok true →
    compare .lt a c = .ok l → l = true

section Keys

variable {α β : Type} [LinearOrder β] {f : Comparison → α → α → Result Bool} {key : α → β}

/-- Two values compare as their keys do, unless they do not compare at all. -/
def GoesBy (f : Comparison → α → α → Result Bool) (key : α → β) : Prop :=
  ∀ a b, (∀ op, (f op a b).isOk = false ∧ (f op b a).isOk = false) ∨
    ∀ op, f op a b = .ok (op.holds (some (cmp (key a) (key b))))

theorem GoesBy.answer (h : GoesBy f key) {a b : α} {op : Comparison} {r : Bool}
    (hr : f op a b = .ok r) : r = op.holds (some (cmp (key a) (key b))) := by
  rcases h a b with hfails | hok
  · have := (hfails op).1
    rw [hr] at this
    cases this
  · rw [hok op] at hr
    cases hr
    rfl

theorem GoesBy.answers (h : GoesBy f key) (a b : α) (op op' : Comparison) :
    (f op a b).isOk = (f op' a b).isOk ∧ (f op a b).isOk = (f op' b a).isOk := by
  rcases h a b with hfails | hok
  · rw [(hfails op).1, (hfails op').1, (hfails op').2]
    exact ⟨rfl, rfl⟩
  · rcases h b a with hfails | hok'
    · have := (hfails op).2
      rw [hok op] at this
      cases this
    · rw [hok op, hok op', hok' op']
      exact ⟨rfl, rfl⟩

theorem holds_lt_iff {x y : β} : true = Comparison.lt.holds (some (cmp x y)) ↔ x < y := by
  rw [← cmp_eq_lt_iff x y]
  cases cmp x y <;> decide

theorem holds_eq_iff {x y : β} : true = Comparison.eq.holds (some (cmp x y)) ↔ x = y := by
  rw [← cmp_eq_eq_iff x y]
  cases cmp x y <;> decide

theorem GoesBy.totalPreorder (h : GoesBy f key) : TotalPreorder f where
  answers := h.answers
  exactly_one a b l e g hl he hg := by
    rw [h.answer hl, h.answer he, h.answer hg]
    cases cmp (key a) (key b) <;> rfl
  le_eq a b r l e hr hl he := by
    rw [h.answer hr, h.answer hl, h.answer he]
    cases cmp (key a) (key b) <;> rfl
  ge_eq a b r g e hr hg he := by
    rw [h.answer hr, h.answer hg, h.answer he]
    cases cmp (key a) (key b) <;> rfl
  ne_eq a b r e hr he := by
    rw [h.answer hr, h.answer he]
    cases cmp (key a) (key b) <;> rfl
  lt_eq_gt a b l g hl hg := by
    rw [h.answer hl, h.answer hg, ← cmp_swap (key a) (key b)]
    cases cmp (key a) (key b) <;> rfl
  lt_trans a b c l hab hbc hl := by
    have hlt := (holds_lt_iff.mp (h.answer hab)).trans (holds_lt_iff.mp (h.answer hbc))
    rw [h.answer hl, ← holds_lt_iff.mpr hlt]
  eq_trans a b c e hab hbc he := by
    have heq := (holds_eq_iff.mp (h.answer hab)).trans (holds_eq_iff.mp (h.answer hbc))
    rw [h.answer he, ← holds_eq_iff.mpr heq]
  lt_of_lt_of_eq a b c l hab hbc hl := by
    have hlt := (holds_lt_iff.mp (h.answer hab)).trans_eq (holds_eq_iff.mp (h.answer hbc))
    rw [h.answer hl, ← holds_lt_iff.mpr hlt]

/-- Comparisons that never fail. -/
theorem goesBy_of_ok {order : α → α → Ordering}
    (hf : ∀ op a b, f op a b = .ok (op.holds (some (order a b))))
    (horder : ∀ a b, order a b = cmp (key a) (key b)) : GoesBy f key := by
  intro a b
  refine .inr fun op => ?_
  rw [hf, horder]

end Keys

/-! ## 2. The ordered kinds -/

/-- The kinds of values that are ordered by all six operators.  Floating-point numbers are left out:
a NaN is not ordered, and other numbers are rounded where they meet one. -/
inductive OrderedKind where
  | number | text | boolean | dateTime | date | time | yearMonthDuration | dayTimeDuration
  deriving DecidableEq, Repr

/-- The ordered kind that a value belongs to. -/
def Atomic.orderedKind? : Atomic → Option OrderedKind
  | numeric (.integer _) | numeric (.decimal _) => some .number
  | string _ | untyped _ | anyURI _ => some .text
  | boolean _ => some .boolean
  | dateTime _ => some .dateTime
  | date _ => some .date
  | time _ => some .time
  | yearMonthDuration _ => some .yearMonthDuration
  | dayTimeDuration _ => some .dayTimeDuration
  | _ => none

namespace OrderedKind

/-- The values of a kind. -/
abbrev Value (k : OrderedKind) : Type := {v : Atomic // v.orderedKind? = some k}

variable (c : Collation) (tz : TimeZone)

/-- The comparisons of the values of a kind. -/
def compare (k : OrderedKind) (op : Comparison) (a b : k.Value) : Result Bool :=
  Atomic.compare op a.1 b.1 c tz

/-- An integer or a decimal as a value. -/
def exact : Int ⊕ Number.Decimal → Atomic
  | .inl i => .integer i
  | .inr d => .decimal d

/-- What the values of each kind are made from. -/
theorem made_from (k : OrderedKind) (v : k.Value) :
    match k with
    | number => ∃ x, v.1 = exact x
    | text => ∃ s, v.1.stringLike? = some s
    | boolean => ∃ b, v.1 = .boolean b
    | dateTime => ∃ t, v.1 = .dateTime t
    | date => ∃ d, v.1 = .date d
    | time => ∃ t, v.1 = .time t
    | yearMonthDuration => ∃ d, v.1 = .yearMonthDuration d
    | dayTimeDuration => ∃ d, v.1 = .dayTimeDuration d := by
  rcases v with ⟨v, hv⟩
  cases v with
  | numeric n =>
    cases n with
    | integer i =>
      cases hv
      exact ⟨.inl i, rfl⟩
    | decimal d =>
      cases hv
      exact ⟨.inr d, rfl⟩
    | _ => cases hv
  | string x | untyped x | anyURI x | boolean x | dateTime x | date x | time x
  | yearMonthDuration x | dayTimeDuration x =>
    cases hv
    exact ⟨x, rfl⟩
  | _ => cases hv

/-- It is enough to look at what the values of a kind are made from. -/
theorem totalPreorder_of_goesBy {k : OrderedKind} {γ β : Type} [LinearOrder β] {make : γ → Atomic}
    {key : γ → β} (hmake : ∀ v : k.Value, ∃ x, v.1 = make x)
    (h : GoesBy (fun op x y => Atomic.compare op (make x) (make y) c tz) key) :
    TotalPreorder (compare c tz k) := by
  choose x hx using hmake
  have hcompare :
      compare c tz k = fun op a b => Atomic.compare op (make (x a)) (make (x b)) c tz := by
    funext op a b
    rw [compare, hx a, hx b]
  have hkey : GoesBy (compare c tz k) fun v => key (x v) := by
    rw [hcompare]
    exact fun a b => h (x a) (x b)
  exact hkey.totalPreorder

/-! ### Numbers -/

/-- The number that an integer or a decimal stands for. -/
def exactValue : Int ⊕ Number.Decimal → ℚ
  | .inl i => i
  | .inr d => d.value

section Mixed

variable (i : Int) (d : Number.Decimal)

/-- An integer is compared with a decimal as a decimal, if there is room for it. -/
theorem promote_integer :
    (Numeric.integer i).promote 1 =
      match Number.Decimal.ofInt? i with
      | some e => .ok (.decimal e)
      | none => .error .decimalRange := rfl

theorem compare_integer_decimal :
    (Numeric.integer i).compare (.decimal d) =
      match Number.Decimal.ofInt? i with
      | some _ => .ok (some (cmp (i : ℚ) d.value))
      | none => .error .decimalRange := by
  have hunify : Numeric.unify (.integer i) (.decimal d) =
      (do return (← (Numeric.integer i).promote 1, .decimal d)) := rfl
  rw [Numeric.compare, hunify, promote_integer]
  cases h : Number.Decimal.ofInt? i with
  | none => rfl
  | some e =>
    show Except.ok (some (e.compare d)) = _
    rw [Number.Decimal.compare_eq_cmp, Number.Decimal.value_of_ofInt? h]

theorem compare_decimal_integer :
    (Numeric.decimal d).compare (.integer i) =
      match Number.Decimal.ofInt? i with
      | some _ => .ok (some (cmp d.value (i : ℚ)))
      | none => .error .decimalRange := by
  have hunify : Numeric.unify (.decimal d) (.integer i) =
      (do return (.decimal d, ← (Numeric.integer i).promote 1)) := rfl
  rw [Numeric.compare, hunify, promote_integer]
  cases h : Number.Decimal.ofInt? i with
  | none => rfl
  | some e =>
    show Except.ok (some (d.compare e)) = _
    rw [Number.Decimal.compare_eq_cmp, Number.Decimal.value_of_ofInt? h]

end Mixed

theorem goesBy_number :
    GoesBy (fun op x y => Atomic.compare op (exact x) (exact y) c tz) exactValue := by
  intro x y
  cases x with
  | inl i =>
    cases y with
    | inl j =>
      refine .inr fun op => ?_
      show Except.ok (op.holds (some (Ord.compare i j))) = _
      rw [Number.compare_int_eq_cmp, ← (Int.cast_strictMono (R := ℚ)).cmp_map_eq]
      rfl
    | inr d =>
      show (∀ op : Comparison, (Except.map op.holds _).isOk = false ∧
        (Except.map op.holds _).isOk = false) ∨ ∀ op : Comparison, Except.map op.holds _ = _
      rw [compare_integer_decimal, compare_decimal_integer]
      -- no decimal holds the integer, or both directions compare one and the same decimal
      cases Number.Decimal.ofInt? i with
      | none => exact .inl fun _ => ⟨rfl, rfl⟩
      | some e => exact .inr fun _ => rfl
  | inr d =>
    cases y with
    | inl j =>
      show (∀ op : Comparison, (Except.map op.holds _).isOk = false ∧
        (Except.map op.holds _).isOk = false) ∨ ∀ op : Comparison, Except.map op.holds _ = _
      rw [compare_integer_decimal, compare_decimal_integer]
      cases Number.Decimal.ofInt? j with
      | none => exact .inl fun _ => ⟨rfl, rfl⟩
      | some e => exact .inr fun _ => rfl
    | inr e =>
      refine .inr fun op => ?_
      show Except.ok (op.holds (some (d.compare e))) = _
      rw [Number.Decimal.compare_eq_cmp]
      rfl

theorem totalPreorder_number : TotalPreorder (compare c tz number) :=
  totalPreorder_of_goesBy c tz (made_from number) (goesBy_number c tz)

/-! ### Texts and truth values -/

theorem compare_of_stringLike {op : Comparison} {a b : Atomic} {s t : String}
    (ha : a.stringLike? = some s) (hb : b.stringLike? = some t) :
    Atomic.compare op a b c tz = .ok (op.holds (some (c.compare s t))) := by
  cases a with
  | string | untyped | anyURI =>
    cases b with
    | string | untyped | anyURI =>
      cases ha
      cases hb
      rfl
    | _ => cases hb
  | _ => cases ha

theorem totalPreorder_text : TotalPreorder (compare c tz text) := by
  choose s hs using made_from text
  have hkey : GoesBy (compare c tz text) fun v => (c.key (s v)).toList :=
    goesBy_of_ok (fun op a b => compare_of_stringLike c tz (hs a) (hs b))
      fun a b => Number.compareOfLessAndEq_eq_cmp _ _
  exact hkey.totalPreorder

theorem totalPreorder_boolean : TotalPreorder (compare c tz boolean) := by
  have hkey : GoesBy (fun op x y => Atomic.compare op (.boolean x) (.boolean y) c tz) id := by
    refine goesBy_of_ok (fun op x y => rfl) fun x y => ?_
    cases x <;> cases y <;> rfl
  exact totalPreorder_of_goesBy c tz (made_from boolean) hkey

/-! ### Dates, times and durations -/

/-- The place of an instant on the time line; what has none is put anywhere. -/
def place : Result Calendar.LocalTime → Int
  | .ok t => t.total
  | .error _ => 0

/-- One instant off the time line is enough for a comparison to fail, on whichever side it is. -/
theorem goesBy_instants {γ : Type} (utc : γ → Result Calendar.LocalTime) :
    GoesBy (fun op x y => (Atomic.compareInstants (utc x) (utc y)).map fun o => op.holds (some o))
      fun x => place (utc x) := by
  intro x y
  dsimp only
  cases utc x with
  | error e =>
    cases utc y with
    | error e' => exact .inl fun _ => ⟨rfl, rfl⟩
    | ok t => exact .inl fun _ => ⟨rfl, rfl⟩
  | ok t =>
    cases utc y with
    | error e => exact .inl fun _ => ⟨rfl, rfl⟩
    | ok u =>
      refine .inr fun op => ?_
      show Except.ok (op.holds (some (Ord.compare t.total u.total))) = _
      rw [Number.compare_int_eq_cmp]
      rfl

theorem totalPreorder_dateTime : TotalPreorder (compare c tz dateTime) := by
  have hkey : GoesBy (fun op v w => Atomic.compare op (.dateTime v) (.dateTime w) c tz)
      fun v => place (v.toUtc tz) := goesBy_instants fun v : DateTime => v.toUtc tz
  exact totalPreorder_of_goesBy c tz (made_from dateTime) hkey

theorem totalPreorder_date : TotalPreorder (compare c tz date) := by
  have hkey : GoesBy (fun op v w => Atomic.compare op (.date v) (.date w) c tz)
      fun v => place (v.toUtc tz) := goesBy_instants fun v : Date => v.toUtc tz
  exact totalPreorder_of_goesBy c tz (made_from date) hkey

theorem totalPreorder_time : TotalPreorder (compare c tz time) := by
  have hkey : GoesBy (fun op v w => Atomic.compare op (.time v) (.time w) c tz)
      fun v => place (v.toUtc tz) := goesBy_instants fun v : Time => v.toUtc tz
  exact totalPreorder_of_goesBy c tz (made_from time) hkey

theorem totalPreorder_yearMonthDuration : TotalPreorder (compare c tz yearMonthDuration) := by
  have hkey : GoesBy
      (fun op d e => Atomic.compare op (.yearMonthDuration d) (.yearMonthDuration e) c tz)
      YearMonthDuration.months :=
    goesBy_of_ok (fun _ _ _ => rfl) fun d e => Number.compare_int_eq_cmp d.months e.months
  exact totalPreorder_of_goesBy c tz (made_from yearMonthDuration) hkey

theorem totalPreorder_dayTimeDuration : TotalPreorder (compare c tz dayTimeDuration) := by
  have hkey : GoesBy
      (fun op d e => Atomic.compare op (.dayTimeDuration d) (.dayTimeDuration e) c tz)
      fun d => d.seconds.value :=
    goesBy_of_ok (fun _ _ _ => rfl) fun d e => Number.Decimal.compare_eq_cmp d.seconds e.seconds
  exact totalPreorder_of_goesBy c tz (made_from dayTimeDuration) hkey

/-- On each of the ordered kinds the operators belong to a total preorder, for every collation and
every implicit time zone. -/
theorem compare_totalPreorder (k : OrderedKind) : TotalPreorder (compare c tz k) := by
  cases k with
  | number => exact totalPreorder_number c tz
  | text => exact totalPreorder_text c tz
  | boolean => exact totalPreorder_boolean c tz
  | dateTime => exact totalPreorder_dateTime c tz
  | date => exact totalPreorder_date c tz
  | time => exact totalPreorder_time c tz
  | yearMonthDuration => exact totalPreorder_yearMonthDuration c tz
  | dayTimeDuration => exact totalPreorder_dayTimeDuration c tz

/-- The integer 2 is below 2.5, and that is below the integer 3. -/
theorem compare_totalPreorder_sample :
    let two : number.Value := ⟨.integer 2, rfl⟩
    let more : number.Value := ⟨.decimal ⟨false, 25, 1, by decide, by decide⟩, rfl⟩
    let three : number.Value := ⟨.integer 3, rfl⟩
    compare .codepoint .utc number .lt two more = .ok true ∧
      compare .codepoint .utc number .lt more three = .ok true ∧
      ∀ l, compare .codepoint .utc number .lt two three = .ok l → l = true := by
  intro two more three
  have hfirst : compare .codepoint .utc number .lt two more = .ok true := rfl
  have hsecond : compare .codepoint .utc number .lt more three = .ok true := rfl
  have hlaws := compare_totalPreorder .codepoint .utc number
  exact ⟨hfirst, hsecond, fun l => hlaws.lt_trans two more three l hfirst hsecond⟩

end OrderedKind

end XPath
