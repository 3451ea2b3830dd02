import XPath.Proofs.Equality
import XPath.Proofs.Number.FloatOrder
import XPath.Proofs.Result

/-!
# General comparisons

A general comparison looks for a pair of values, one of either operand, of which the operator holds.
It stops at the first such pair and at the first pair that cannot be compared.  Where all pairs can
be compared, it is true if there is such a pair, and it does not matter which operand stands on the
left, provided that the operator is turned around with them: the pairs are then tried in another
order, but each of them gives the same answer.
-/

namespace XPath

/-! ## 1. Searching a list -/

section Search

variable {α : Type} {l : List α} {f : α → Result Bool}

theorem exists_of_anyM_eq_true (h : l.anyM f = .ok true) : ∃ a ∈ l, f a = .ok true := by
  induction l with
  | nil => cases h
  | cons a l ih =>
    rw [List.anyM] at h
    rcases bind_eq_ok.mp h with ⟨b, hb, h⟩
    cases b with
    | true => exact ⟨a, List.mem_cons_self, hb⟩
    | false =>
      rcases ih h with ⟨a', ha', hf⟩
      exact ⟨a', List.mem_cons_of_mem a ha', hf⟩

theorem exists_of_anyM_eq_error {e : Error} (h : l.anyM f = .error e) :
    ∃ a ∈ l, f a = .error e := by
  induction l with
  | nil => cases h
  | cons a l ih =>
    rw [List.anyM] at h
    cases hb : f a with
    | error e' =>
      rw [hb] at h
      cases h
      exact ⟨a, List.mem_cons_self, hb⟩
    | ok b =>
      rw [hb] at h
      cases b with
      | true => cases h
      | false =>
        rcases ih h with ⟨a', ha', hf⟩
        exact ⟨a', List.mem_cons_of_mem a ha', hf⟩

theorem forall_of_anyM_eq_false (h : l.anyM f = .ok false) : ∀ a ∈ l, f a = .ok false := by
  induction l with
  | nil => exact List.forall_mem_nil _
  | cons a l ih =>
    rw [List.anyM] at h
    rcases bind_eq_ok.mp h with ⟨b, hb, h⟩
    cases b with
    | true => cases h
    | false => exact List.forall_mem_cons.mpr ⟨hb, ih h⟩

end Search

/-! ## 2. Operators turned around -/

namespace Comparison

/-- The operator that says the same of two values in the other order. -/
def mirror : Comparison → Comparison
  | eq => eq
  | ne => ne
  | lt => gt
  | le => ge
  | gt => lt
  | ge => le

theorem mirror_mirror (op : Comparison) : op.mirror.mirror = op := by
  cases op <;> rfl

theorem holds_mirror (op : Comparison) (o : Option Ordering) :
    op.mirror.holds (o.map Ordering.swap) = op.holds o := by
  cases o with
  | none => cases op <;> rfl
  | some o => cases op <;> cases o <;> rfl

end Comparison

theorem Number.Decimal.compare_swap (x y : Number.Decimal) : y.compare x = (x.compare y).swap := by
  rw [compare_eq_cmp, compare_eq_cmp, cmp_swap]

theorem Collation.compare_swap (c : Collation) (s t : String) :
    c.compare t s = (c.compare s t).swap := Number.compareOfLessAndEq_swap _ _

namespace Numeric

variable {a b m n : Numeric} {o : Option Ordering}

theorem unify_swap (h : a.unify b = .ok (m, n)) : b.unify a = .ok (n, m) := by
  unfold unify at h ⊢
  rcases map₂_eq_ok.mp h with ⟨m', n', hm, hn, heq⟩
  cases heq
  rw [Nat.max_comm]
  exact map₂_eq_ok.mpr ⟨n, m, hn, hm, rfl⟩

/-- Numbers of all types are compared in either direction with opposite results. -/
theorem compare_swap (h : a.compare b = .ok o) : b.compare a = .ok (o.map Ordering.swap) := by
  rcases bind_eq_ok.mp h with ⟨⟨m, n⟩, hunify, h⟩
  refine bind_eq_ok.mpr ⟨(n, m), unify_swap hunify, ?_⟩
  cases m with
  | integer x =>
    cases n with
    | integer y =>
      cases h
      exact congrArg (fun o => Except.ok (some o)) Std.OrientedCmp.eq_swap
    | _ =>
      cases h
      rfl
  | decimal x =>
    cases n with
    | decimal y =>
      cases h
      exact congrArg (fun o => Except.ok (some o)) (x.compare_swap y)
    | _ =>
      cases h
      rfl
  | float x =>
    cases n with
    | float y =>
      cases h
      exact congrArg Except.ok (Number.compareFloating_single_swap x y)
    | _ =>
      cases h
      rfl
  | double x =>
    cases n with
    | double y =>
      cases h
      exact congrArg Except.ok (Number.compareFloating_double_swap x y)
    | _ =>
      cases h
      rfl

end Numeric

/-! ## 3. Two values -/

namespace Atomic

variable {op : Comparison} {a b : Atomic} {c : Collation} {tz : TimeZone} {r : Bool}

theorem ordered_mirror {o o' : Ordering} (ho : o' = o.swap)
    (h : (.ok (op.holds (some o)) : Result Bool) = .ok r) :
    (.ok (op.mirror.holds (some o')) : Result Bool) = .ok r := by
  rw [ho, ← h]
  exact congrArg Except.ok (op.holds_mirror (some o))

theorem compareInstants_swap {x y : Result Calendar.LocalTime} {o : Ordering}
    (h : compareInstants x y = .ok o) : compareInstants y x = .ok o.swap := by
  rcases map₂_eq_ok.mp h with ⟨t, u, ht, hu, rfl⟩
  exact map₂_eq_ok.mpr ⟨u, t, hu, ht, Std.OrientedCmp.eq_swap⟩

theorem instants_mirror {x y : Result Calendar.LocalTime}
    (h : (compareInstants x y).map (fun o => op.holds (some o)) = .ok r) :
    (compareInstants y x).map (fun o => op.mirror.holds (some o)) = .ok r := by
  rcases except_map_eq_ok.mp h with ⟨o, ho, rfl⟩
  exact except_map_eq_ok.mpr ⟨o.swap, compareInstants_swap ho, op.holds_mirror (some o)⟩

theorem numeric_mirror {m n : Numeric} (h : (m.compare n).map op.holds = .ok r) :
    (n.compare m).map op.mirror.holds = .ok r := by
  rcases except_map_eq_ok.mp h with ⟨o, ho, rfl⟩
  exact except_map_eq_ok.mpr ⟨o.map Ordering.swap, Numeric.compare_swap ho, op.holds_mirror o⟩

theorem compareEquality_mirror {e e' : Bool} (he : e' = e)
    (h : compareEquality op a b e = .ok r) : compareEquality op.mirror b a e' = .ok r := by
  rw [he]
  cases op with
  | eq | ne => exact h
  | _ => cases h

theorem gregorian_mirror {v w : Gregorian}
    (h : compare op (gregorian v) (gregorian w) c tz = .ok r) :
    compare op.mirror (gregorian w) (gregorian v) c tz = .ok r := by
  change (if v.kind == w.kind then do
      compareEquality op (gregorian v) (gregorian w)
        (← compareInstants (v.toUtc tz) (w.toUtc tz)).isEq
    else .error (incomparable op (gregorian v) (gregorian w))) = .ok r at h
  show (if w.kind == v.kind then do
      compareEquality op.mirror (gregorian w) (gregorian v)
        (← compareInstants (w.toUtc tz) (v.toUtc tz)).isEq
    else .error (incomparable op.mirror (gregorian w) (gregorian v))) = .ok r
  by_cases hkind : (v.kind == w.kind) = true
  · rw [if_pos hkind] at h
    rw [if_pos (BEq.comm.trans hkind)]
    rcases bind_eq_ok.mp h with ⟨o, ho, h⟩
    refine bind_eq_ok.mpr ⟨o.swap, compareInstants_swap ho, compareEquality_mirror ?_ h⟩
    cases o <;> rfl
  · rw [if_neg hkind] at h
    cases h

theorem equal_parts_comm (m n : Int) (s t : Number.Decimal) :
    (n == m && t == s) = (m == n && s == t) := by
  rw [Bool.eq_iff_iff, equal_duration_iff, equal_duration_iff]
  exact eq_comm

/-- If two values compare, then they do so in the other order by the operator turned around. -/
theorem compare_mirror (h : compare op a b c tz = .ok r) : compare op.mirror b a c tz = .ok r := by
  -- values compare by an order, by an equality or not at all, always in the same way in both orders
  cases a with
  | string s | untyped s | anyURI s =>
    cases b with
    | string t | untyped t | anyURI t =>
      exact ordered_mirror (c.compare_swap s t) h
    | _ => cases h
  | numeric m =>
    cases b with
    | numeric n => exact numeric_mirror h
    | _ => cases h
  | boolean x =>
    cases b with
    | boolean y => exact ordered_mirror Std.OrientedCmp.eq_swap h
    | _ => cases h
  | dateTime v =>
    cases b with
    | dateTime w => exact instants_mirror h
    | _ => cases h
  | date v =>
    cases b with
    | date w => exact instants_mirror h
    | _ => cases h
  | time v =>
    cases b with
    | time w => exact instants_mirror h
    | _ => cases h
  | gregorian v =>
    cases b with
    | gregorian w => exact gregorian_mirror h
    | _ => cases h
  | qname p =>
    cases b with
    | qname q => exact compareEquality_mirror BEq.comm h
    | _ => cases h
  | hexBinary x =>
    cases b with
    | hexBinary y => exact compareEquality_mirror BEq.comm h
    | _ => cases h
  | base64Binary x =>
    cases b with
    | base64Binary y => exact compareEquality_mirror BEq.comm h
    | _ => cases h
  | yearMonthDuration d =>
    cases b with
    | yearMonthDuration e => exact ordered_mirror Std.OrientedCmp.eq_swap h
    | dayTimeDuration e | duration e => exact compareEquality_mirror (equal_parts_comm ..) h
    | _ => cases h
  | dayTimeDuration d =>
    cases b with
    | dayTimeDuration e => exact ordered_mirror (d.seconds.compare_swap e.seconds) h
    | yearMonthDuration e | duration e => exact compareEquality_mirror (equal_parts_comm ..) h
    | _ => cases h
  | duration d =>
    cases b with
    | yearMonthDuration e | dayTimeDuration e | duration e =>
      exact compareEquality_mirror (equal_parts_comm ..) h
    | _ => cases h

theorem comparePromoted_mirror (h : comparePromoted op a b c tz = .ok r) :
    comparePromoted op.mirror b a c tz = .ok r := by
  rcases bind_eq_ok.mp h with ⟨x, hx, h⟩
  rcases bind_eq_ok.mp h with ⟨y, hy, h⟩
  exact bind_eq_ok.mpr ⟨y, hy, bind_eq_ok.mpr ⟨x, hx, compare_mirror h⟩⟩

/-! ## 4. Two lists of values -/

section Lists

variable {as bs : List Atomic} {e : Error}

theorem exists_of_compareSome_eq_true (h : compareSome op as bs c tz = .ok true) :
    ∃ a ∈ as, ∃ b ∈ bs, comparePromoted op a b c tz = .ok true := by
  rcases exists_of_anyM_eq_true h with ⟨a, ha, h⟩
  exact ⟨a, ha, exists_of_anyM_eq_true h⟩

theorem forall_of_compareSome_eq_false (h : compareSome op as bs c tz = .ok false) :
    ∀ a ∈ as, ∀ b ∈ bs, comparePromoted op a b c tz = .ok false :=
  fun a ha => forall_of_anyM_eq_false (forall_of_anyM_eq_false h a ha)

theorem exists_of_compareSome_eq_error (h : compareSome op as bs c tz = .error e) :
    ∃ a ∈ as, ∃ b ∈ bs, comparePromoted op a b c tz = .error e := by
  rcases exists_of_anyM_eq_error h with ⟨a, ha, h⟩
  exact ⟨a, ha, exists_of_anyM_eq_error h⟩

/-- Where all pairs can be compared, the answer is whether the operator holds of one. -/
theorem exists_compareSome (h : ∀ a ∈ as, ∀ b ∈ bs, ∃ r, comparePromoted op a b c tz = .ok r) :
    ∃ r, compareSome op as bs c tz = .ok r ∧
      (r = true ↔ ∃ a ∈ as, ∃ b ∈ bs, comparePromoted op a b c tz = .ok true) := by
  cases hsome : compareSome op as bs c tz with
  | error e =>
    rcases exists_of_compareSome_eq_error hsome with ⟨a, ha, b, hb, hpair⟩
    rcases h a ha b hb with ⟨r, hr⟩
    rw [hpair] at hr
    cases hr
  | ok r =>
    refine ⟨r, rfl, ?_⟩
    cases r with
    | true => exact iff_of_true rfl (exists_of_compareSome_eq_true hsome)
    | false =>
      apply iff_of_false Bool.false_ne_true
      rintro ⟨a, ha, b, hb, hpair⟩
      rw [forall_of_compareSome_eq_false hsome a ha b hb] at hpair
      cases hpair

theorem exists_comparePromoted_mirror_iff :
    (∃ b ∈ bs, ∃ a ∈ as, comparePromoted op.mirror b a c tz = .ok true) ↔
      ∃ a ∈ as, ∃ b ∈ bs, comparePromoted op a b c tz = .ok true := by
  refine ⟨?_, ?_⟩
  · rintro ⟨b, hb, a, ha, h⟩
    have hpair := comparePromoted_mirror h
    rw [op.mirror_mirror] at hpair
    exact ⟨a, ha, b, hb, hpair⟩
  · rintro ⟨a, ha, b, hb, h⟩
    exact ⟨b, hb, a, ha, comparePromoted_mirror h⟩

end Lists

/-- If all pairs can be compared, then a general comparison tells whether the operator holds of some
pair, where untyped values are read by the type of the other value; and the operator turned around
tells the same of the lists in the other order.  In any case the answer true comes from some pair,
and so does every error. -/
theorem compareSome_exists_mirror (op : Comparison) (as bs : List Atomic) (c : Collation)
    (tz : TimeZone) :
    ((∀ a ∈ as, ∀ b ∈ bs, ∃ r, comparePromoted op a b c tz = .ok r) →
      ∃ r, compareSome op as bs c tz = .ok r ∧
        (r = true ↔ ∃ a ∈ as, ∃ b ∈ bs, comparePromoted op a b c tz = .ok true) ∧
        compareSome op.mirror bs as c tz = .ok r) ∧
    (compareSome op as bs c tz = .ok true →
      ∃ a ∈ as, ∃ b ∈ bs, comparePromoted op a b c tz = .ok true) ∧
    ∀ e, compareSome op as bs c tz = .error e →
      ∃ a ∈ as, ∃ b ∈ bs, comparePromoted op a b c tz = .error e := by
  refine ⟨fun h => ?_, exists_of_compareSome_eq_true, fun e => exists_of_compareSome_eq_error⟩
  rcases exists_compareSome h with ⟨r, hr, hiff⟩
  have hmirror : ∀ b ∈ bs, ∀ a ∈ as, ∃ r, comparePromoted op.mirror b a c tz = .ok r := by
    intro b hb a ha
    rcases h a ha b hb with ⟨r, hr⟩
    exact ⟨r, comparePromoted_mirror hr⟩
  rcases exists_compareSome hmirror with ⟨r', hr', hiff'⟩
  -- both answers say that there is a pair, and the pairs are the same
  have hsame : r' = r := by
    rw [Bool.eq_iff_iff, hiff, hiff', exists_comparePromoted_mirror_iff]
  refine ⟨r, hr, hiff, ?_⟩
  rw [hr', hsame]

/-- The texts `b` and `c` against `a` and `b`. -/
theorem compareSome_exists_mirror_sample :
    let as := [untyped "b", string "c"]
    let bs := [string "a", anyURI "b"]
    (∀ a ∈ as, ∀ b ∈ bs, ∃ r, comparePromoted .le a b .codepoint .utc = .ok r) ∧
      compareSome .le as bs .codepoint .utc = .ok true ∧
      compareSome .ge bs as .codepoint .utc = .ok true ∧
      ∃ a ∈ as, ∃ b ∈ bs, comparePromoted .le a b .codepoint .utc = .ok true := by
  intro as bs
  have hall : ∀ a ∈ as, ∀ b ∈ bs, ∃ r, comparePromoted .le a b .codepoint .utc = .ok r := by
    intro a ha b hb
    simp only [as, bs, List.mem_cons, List.not_mem_nil, or_false] at ha hb
    rcases ha with rfl | rfl
    all_goals
      rcases hb with rfl | rfl
      all_goals exact ⟨_, rfl⟩
  have hsome : compareSome .le as bs .codepoint .utc = .ok true := rfl
  have hlaws := compareSome_exists_mirror .le as bs .codepoint .utc
  rcases hlaws.1 hall with ⟨r, hr, -, hmirror⟩
  rw [hsome] at hr
  cases hr
  exact ⟨hall, hsome, hmirror, hlaws.2.1 hsome⟩

end Atomic

end XPath
