import Mathlib.Tactic.NormNum
import XPath.Proofs.Equality
import XPath.Proofs.Predicates

/-!
# Positions

A predicate whose value is one number, whatever is in focus, takes the item at that position: of
an integer and of a decimal alike, and wherever the predicate stands among others.  So it makes no
difference whether an integer is written down, in which case no item is tried, or computed.
-/

namespace XPath

open Number

/-- The item at the position that a number tells, if it is a position of the sequence. -/
def Sequence.atPosition (s : Sequence) (x : ℚ) : Sequence :=
  if x.den = 1 ∧ 1 ≤ x ∧ x ≤ s.length then s[x.num.toNat - 1]?.toList else []

/-! ## 1. Trying a number for one item -/

theorem Number.Decimal.exists_ofInt? {k : Nat} (hk : k < 2 ^ 96) :
    ∃ d, Decimal.ofInt? k = some d := by
  apply Option.isSome_iff_exists.mp
  simp [Decimal.ofInt?, Decimal.ofParts?, hk]

theorem selects_numeric {n : Numeric} {x : ℚ} (hx : n.exact? = some x) {k : Nat}
    (hk : n.type = .decimal → k < 2 ^ 96) :
    selects [.atomic (.numeric n)] k = .ok (decide (x = k)) := by
  cases n with
  | integer i =>
    obtain rfl := Option.some.inj hx
    show selects [.atomic (.integer i)] k = _
    rw [selects_integer]
    congr 1
    rw [Bool.eq_iff_iff, beq_iff_eq, decide_eq_true_eq]
    exact_mod_cast Iff.rfl
  | decimal d =>
    obtain rfl := Option.some.inj hx
    -- the position becomes a decimal as well, for which there is room
    obtain ⟨e, he⟩ := Decimal.exists_ofInt? (hk rfl)
    show (do return (← (Numeric.decimal d).compare (.integer k)) == some .eq : Result Bool) = _
    rw [OrderedKind.compare_decimal_integer, he]
    show Except.ok (some (cmp d.value ((k : ℤ) : ℚ)) == some .eq) = _
    congr 1
    rw [Bool.eq_iff_iff, beq_iff_eq, decide_eq_true_eq, Option.some_inj, cmp_eq_eq_iff]
    norm_cast
  | _ => cases hx

/-! ## 2. Trying it for all items -/

theorem Sequence.atPosition_intCast (s : Sequence) (i : Int) : s.atPosition i = itemAt s i := by
  have hpos : (1 : ℚ) ≤ i ↔ 1 ≤ i := by exact_mod_cast Iff.rfl
  have hle : (i : ℚ) ≤ s.length ↔ i ≤ s.length := by exact_mod_cast Iff.rfl
  simp only [atPosition, itemAt, Rat.num_intCast, Rat.den_intCast, hpos, hle, true_and]
  by_cases h : i ≥ 1
  · rw [if_pos h, show (i - 1).toNat = i.toNat - 1 by omega]
    by_cases hlast : i ≤ s.length
    · rw [if_pos ⟨h, hlast⟩]
    · rw [if_neg fun h => hlast h.2, List.getElem?_eq_none (by omega)]
      rfl
  · rw [if_neg h, if_neg fun h' => h h'.1]

/-- Among items that are numbered from one, those with the number `x` are the item at `x`. -/
theorem flatMap_zipIdx_eq_atPosition (s : Sequence) (x : ℚ) :
    (s.zipIdx 1).flatMap (fun y => if decide (x = (y.2 : ℚ)) then [y.1] else []) =
      s.atPosition x := by
  by_cases hden : x.den = 1
  · -- a whole number is compared with the positions as an integer
    obtain ⟨i, rfl⟩ : ∃ i : Int, x = i := ⟨x.num, (Rat.coe_int_num_of_den_eq_one hden).symm⟩
    have htest : ∀ k : Nat, decide ((i : ℚ) = (k : ℚ)) = (i == (k : Int)) := by
      intro k
      rw [Bool.eq_iff_iff, beq_iff_eq, decide_eq_true_eq]
      exact_mod_cast Iff.rfl
    simp only [htest]
    rw [flatMap_zipIdx_eq, Sequence.atPosition_intCast]
    rfl
  · -- no position is a fraction
    have htest : ∀ k : Nat, decide (x = (k : ℚ)) = false := by
      intro k
      rw [decide_eq_false_iff_not]
      intro he
      apply hden
      rw [he]
      exact Rat.den_natCast k
    simp only [htest, Bool.false_eq_true, if_false, Sequence.atPosition, hden, false_and]
    exact List.flatMap_eq_nil_iff.mpr fun _ _ => rfl

theorem forEachFocus_congr {α : Type} {s : Sequence} {g g' : Focus → Result α}
    (h : ∀ f, f.position ≤ s.length → g f = g' f) : forEachFocus s g = forEachFocus s g' := by
  -- by induction on what is left of the sequence, numbered from where the induction has come to
  have hnumbered : ∀ (l : Sequence) (start : Nat), start + l.length ≤ s.length + 1 →
      (l.zipIdx start).mapM (fun y => g ⟨y.1, y.2, s.length⟩) =
        (l.zipIdx start).mapM (fun y => g' ⟨y.1, y.2, s.length⟩) := by
    intro l
    induction l with
    | nil => exact fun _ _ => rfl
    | cons a l ih =>
      intro start hle
      rw [List.length_cons] at hle
      rw [List.zipIdx_cons, List.mapM_cons, List.mapM_cons, ih _ (by omega),
        h ⟨a, start, s.length⟩ (by show start ≤ s.length; omega)]
  exact hnumbered s 1 (by omega)

section Predicates

variable (env : Environment) (scope : Scope) {n : Numeric} {x : ℚ} {p : Expr}

theorem selectEach_numeric (hx : n.exact? = some x)
    (hp : ∀ f, p.eval env (scope.withFocus f) = .ok [.atomic (.numeric n)]) {s : Sequence}
    (hs : n.type = .decimal → s.length < 2 ^ 96) :
    selectEach env scope p s = .ok (s.atPosition x) := by
  have hone : ∀ f : Focus, f.position ≤ s.length → (do
      return if ← selects (← p.eval env (scope.withFocus f)) f.position then [f.item] else [] :
      Result Sequence) = .ok (if decide (x = (f.position : ℚ)) then [f.item] else []) := by
    intro f hf
    rw [hp]
    show (do return if ← selects [.atomic (.numeric n)] f.position then [f.item] else [] :
      Result Sequence) = _
    rw [selects_numeric hx fun ht => by have := hs ht; omega]
    rfl
  unfold selectEach
  rw [forEachFocus_congr hone, forEachFocus_ok]
  show (.ok _ : Result Sequence) = .ok _
  rw [← List.flatMap_def, ← flatMap_zipIdx_eq_atPosition]

/-! ## 3. Lists of predicates -/

theorem evalPredicates_append (ps qs : List Expr) (s : Sequence) :
    evalPredicates env scope (ps ++ qs) s =
      (do evalPredicates env scope qs (← evalPredicates env scope ps s)) := by
  induction ps generalizing s with
  | nil =>
    rw [List.nil_append, evalPredicates]
    rfl
  | cons p ps ih =>
    rw [List.cons_append, evalPredicates_cons, evalPredicates_cons, bind_assoc]
    simp only [ih]

/-- A predicate that is one integer or decimal number in every focus takes the item at this position
of what the predicates before it have left.  If the number is an integer, it may as well be written
down.  A position that is compared with a decimal has to fit into 96 bits, which is more than there
can be items in memory. -/
theorem evalPredicates_numeric (hx : n.exact? = some x)
    (hp : ∀ f, p.eval env (scope.withFocus f) = .ok [.atomic (.numeric n)])
    (before after : List Expr) (s : Sequence) (hs : n.type = .decimal → s.length < 2 ^ 96) :
    evalPredicates env scope (before ++ p :: after) s = (do
        let input ← evalPredicates env scope before s
        evalPredicates env scope after (input.atPosition x)) ∧
      ∀ i : Int, n = .integer i →
        evalPredicates env scope (before ++ .literal (.integer i) :: after) s =
          evalPredicates env scope (before ++ p :: after) s := by
  -- what holds of any predicate with this value holds of the constant too
  have hlist : ∀ q : Expr, (∀ f, q.eval env (scope.withFocus f) = .ok [.atomic (.numeric n)]) →
      evalPredicates env scope (before ++ q :: after) s = (do
        let input ← evalPredicates env scope before s
        evalPredicates env scope after (input.atPosition x)) := by
    intro q hq
    rw [evalPredicates_append]
    cases hbefore : evalPredicates env scope before s with
    | error e => rfl
    | ok input =>
      have hinput : input.length ≤ s.length :=
        (sublist_of_evalPredicates env scope hbefore).length_le
      show evalPredicates env scope (q :: after) input = _
      rw [evalPredicates_cons,
        selectEach_numeric env scope hx hq fun ht => Nat.lt_of_le_of_lt hinput (hs ht)]
      rfl
  refine ⟨hlist p hp, fun i hi => ?_⟩
  subst hi
  rw [hlist p hp]
  apply hlist
  intro f
  rw [Expr.eval]
  rfl

end Predicates

/-- The letters a, b and c under three predicates: one that holds of all of them, the position 2,
and the position 1.  The middle one is the sum of 1 and 1 or the decimal 2.0. -/
theorem evalPredicates_numeric_sample :
    let env : Environment := ⟨.initial .empty,
      .initial ⟨⟨.epoch, .midnight⟩, some .utc⟩ .utc, .empty, .codepoint⟩
    let scope : Scope := ⟨none, []⟩
    let s : Sequence := [.string "a", .string "b", .string "c"]
    let one : Expr := .literal (.integer 1)
    let sum : Expr := .arithmetic .add one one
    let two : Decimal := ⟨false, 20, 1, by decide, by decide⟩
    let among (p : Expr) : List Expr := [.literal (.boolean true)] ++ p :: [one]
    (∀ f, sum.eval env (scope.withFocus f) = .ok [.integer 2]) ∧
      (∀ f, (Expr.literal (.decimal two)).eval env (scope.withFocus f) =
        .ok [.atomic (.numeric (.decimal two))]) ∧
      s.length < 2 ^ 96 ∧
      evalPredicates env scope (among (.literal (.decimal two))) s = .ok [.string "b"] ∧
      evalPredicates env scope (among sum) s = .ok [.string "b"] ∧
      evalPredicates env scope (among (.literal (.integer 2))) s = .ok [.string "b"] := by
  intro env scope s one sum two among
  have hsum : ∀ f, sum.eval env (scope.withFocus f) = .ok [.integer 2] := fun f => rfl
  have htwo : ∀ f, (Expr.literal (.decimal two)).eval env (scope.withFocus f) =
      .ok [.atomic (.numeric (.decimal two))] := fun f => rfl
  have hvalue : two.value = 2 := by
    show ((20 : Int) : ℚ) / 10 ^ 1 = 2
    norm_num
  have hlength : s.length < 2 ^ 96 := by decide
  have hplace : s.atPosition 2 = [.string "b"] := s.atPosition_intCast 2
  have hdecimal := (evalPredicates_numeric env scope (n := .decimal two) rfl htwo
    [.literal (.boolean true)] [one] s fun _ => hlength).1
  have hinteger := evalPredicates_numeric env scope (n := .integer 2) rfl hsum
    [.literal (.boolean true)] [one] s fun h => nomatch h
  rw [hvalue] at hdecimal
  have hrest : (do
      let input ← evalPredicates env scope [.literal (.boolean true)] s
      evalPredicates env scope [one] (input.atPosition 2)) = .ok [.string "b"] := by
    show evalPredicates env scope [one] (s.atPosition 2) = _
    rw [hplace]
    rfl
  refine ⟨hsum, htwo, hlength, hdecimal.trans hrest, ?_, ?_⟩
  · exact hinteger.1.trans hrest
  · exact (hinteger.2 2 rfl).trans (hinteger.1.trans hrest)

end XPath
