import XPath.Library.Aggregates
import XPath.Proofs.Aggregates.Ordered
import XPath.Proofs.Result

/-!
# The scan for an extreme value

The greatest or the least of some values is found by a scan from left to right that compares each
value with the best so far.  Where the values are ordered, the scan ends with the first in the
order, and among numbers of one type it ends with a NaN if there is one.  But a NaN becomes the best
without being compared with the best before it.  So where it stands among values of another kind,
the scan succeeds if these come first, and fails if the NaN does.
-/

namespace XPath

namespace Aggregate

variable {f : String} {op : Comparison} {c : Collation} {tz : TimeZone}
  {best m v w : Atomic} {l r : List Atomic}

/-! ## 1. One step of the scan -/

/-- The scan of values of which the numbers are of one type, and so are the texts. -/
def scan (f : String) (op : Comparison) (c : Collation) (tz : TimeZone) :
    List Atomic → Result (Option Atomic)
  | [] => .ok none
  | v :: r => do
    let _ ← orAggregate f v (Atomic.compare .lt v v c tz)
    return some (← r.foldlM (better f op c tz) v)

theorem extreme_eq (l : List Atomic) :
    extreme f op l c tz =
      (do scan f op c tz (unifyStrings (← unifyNumbers l))) := by
  rw [extreme]
  cases unifyNumbers l with
  | error e => rfl
  | ok u =>
    show (match unifyStrings u with
      | [] => _
      | v :: r => _) = scan f op c tz (unifyStrings u)
    cases unifyStrings u <;> rfl

theorem orAggregate_eq_ok {α : Type} {s : Result α} {a : α} :
    orAggregate f v s = .ok a ↔ s = .ok a := by
  cases s with
  | error e => exact iff_of_false (by rintro ⟨⟩) (by rintro ⟨⟩)
  | ok b => rfl

theorem better_of_isNaN (h : v.isNaN = true) : better f op c tz best v = .ok v := if_pos h

theorem better_eq_ok (h : v.isNaN = false) : better f op c tz best v = .ok m ↔
    ∃ b, Atomic.compare op v best c tz = .ok b ∧ m = if b then v else best := by
  have hnan : ¬v.numeric?.any Numeric.isNaN = true := ne_true_of_eq_false h
  rw [better, if_neg hnan]
  refine bind_eq_ok.trans ⟨?_, ?_⟩
  · rintro ⟨b, hb, hm⟩
    exact ⟨b, orAggregate_eq_ok.mp hb, (Except.ok.inj hm).symm⟩
  · rintro ⟨b, hb, rfl⟩
    exact ⟨b, orAggregate_eq_ok.mpr hb, rfl⟩

theorem scan_cons_eq_ok {o : Option Atomic} : scan f op c tz (v :: r) = .ok o ↔
    (∃ b, Atomic.compare .lt v v c tz = .ok b) ∧
      ∃ m, r.foldlM (better f op c tz) v = .ok m ∧ o = some m := by
  rw [scan]
  refine bind_eq_ok.trans ⟨?_, ?_⟩
  · rintro ⟨b, hb, h⟩
    rcases bind_eq_ok.mp h with ⟨m, hm, ho⟩
    exact ⟨⟨b, orAggregate_eq_ok.mp hb⟩, m, hm, (Except.ok.inj ho).symm⟩
  · rintro ⟨⟨b, hb⟩, m, hm, rfl⟩
    exact ⟨b, orAggregate_eq_ok.mpr hb, bind_eq_ok.mpr ⟨m, hm, rfl⟩⟩

theorem foldlM_cons_eq_ok : (v :: r).foldlM (better f op c tz) best = .ok m ↔
    ∃ b, better f op c tz best v = .ok b ∧
      r.foldlM (better f op c tz) b = .ok m := by
  rw [List.foldlM_cons]
  exact bind_eq_ok

/-- A value that is compared with the best, if it is no NaN, leaves one of the two as the best. -/
theorem exists_better (h : v.isNaN = false → ∃ b, Atomic.compare op v best c tz = .ok b) :
    ∃ next, (next = best ∨ next = v) ∧ better f op c tz best v = .ok next := by
  cases hnan : v.isNaN with
  | true => exact ⟨v, .inr rfl, better_of_isNaN hnan⟩
  | false =>
    rcases h hnan with ⟨b, hb⟩
    refine ⟨_, ?_, (better_eq_ok hnan).mpr ⟨b, hb, rfl⟩⟩
    cases b with
    | true => exact .inr rfl
    | false => exact .inl rfl

theorem mem_of_mem_next {next : Atomic} (hnext : next = best ∨ next = v) :
    ∀ w ∈ next :: r, w ∈ best :: v :: r := by
  intro w hw
  rcases List.mem_cons.mp hw with rfl | hw
  · rcases hnext with rfl | rfl
    · exact List.mem_cons_self
    · exact List.mem_cons_of_mem _ List.mem_cons_self
  · exact List.mem_cons_of_mem _ (List.mem_cons_of_mem _ hw)

/-- Where every comparison succeeds, so does the scan. -/
theorem exists_foldlM
    (h : ∀ v ∈ r, ∀ w ∈ best :: r, ∃ b, Atomic.compare op v w c tz = .ok b) :
    ∃ m ∈ best :: r, r.foldlM (better f op c tz) best = .ok m := by
  induction r generalizing best with
  | nil => exact ⟨best, List.mem_cons_self, rfl⟩
  | cons v r ih =>
    rcases exists_better (f := f) fun _ => h v List.mem_cons_self best List.mem_cons_self with
      ⟨next, hnext, hbetter⟩
    have hsub := mem_of_mem_next (r := r) hnext
    rcases ih fun u hu w hw => h u (List.mem_cons_of_mem _ hu) w (hsub w hw) with ⟨m, hm, hfold⟩
    exact ⟨m, hsub m hm, foldlM_cons_eq_ok.mpr ⟨next, hbetter, hfold⟩⟩

/-! ## 2. What a scan has compared -/

/-- All values that were compared are of the kind of the first one.  What follows a NaN was compared
with numbers. -/
theorem orderClass?_of_foldlM (hop : op = .lt ∨ op = .gt) {k : OrderedKind}
    (hbest : best.orderClass? tz = some k)
    (h : r.foldlM (better f op c tz) best = .ok m) :
    ∀ w ∈ r, w.orderClass? tz = some k ∨ (w.numeric?.isSome = true ∧ ∃ u ∈ r, u.isNaN = true) := by
  -- the kind of the best value stays the same, until a NaN makes it that of the numbers
  induction r generalizing best k with
  | nil => exact fun w hw => absurd hw List.not_mem_nil
  | cons v r ih =>
    rcases foldlM_cons_eq_ok.mp h with ⟨b, hb, hrest⟩
    cases hnan : v.isNaN with
    | true =>
      rw [better_of_isNaN hnan] at hb
      cases hb
      have hnumber : v.numeric?.isSome = true := by
        rcases Atomic.exists_numeric_of_isNaN hnan with ⟨n, rfl, -⟩
        rfl
      have hclass : v.orderClass? tz = some .number := Atomic.orderClass?_eq_number.mpr hnumber
      intro w hw
      refine .inr ⟨?_, v, List.mem_cons_self, hnan⟩
      rcases List.mem_cons.mp hw with rfl | hw
      · exact hnumber
      · rcases ih hclass hrest w hw with hw | hw
        · exact Atomic.orderClass?_eq_number.mp hw
        · exact hw.1
    | false =>
      rcases (better_eq_ok hnan).mp hb with ⟨a, hcompare, rfl⟩
      rcases Atomic.orderClass?_of_compare hop hcompare with ⟨k', hv, hk'⟩
      rw [hbest] at hk'
      cases hk'
      have hbetter : (if a = true then v else best).orderClass? tz = some k := by
        cases a with
        | true => exact hv
        | false => exact hbest
      intro w hw
      rcases List.mem_cons.mp hw with rfl | hw
      · exact .inl hv
      · rcases ih hbetter hrest w hw with hw | ⟨hw, u, hu, hunan⟩
        · exact .inl hw
        · exact .inr ⟨hw, u, List.mem_cons_of_mem _ hu, hunan⟩

/-! ## 3. Ordered values -/

/-- For either strict operator there is a key under which it is the strict order. -/
theorem exists_strict_key (hop : op = .lt ∨ op = .gt) (h : Atomic.IsOrdered c tz l) :
    ∃ (β : Type) (_ : LinearOrder β) (key : Atomic → β), ∀ a ∈ l, ∀ b ∈ l,
      Atomic.compare op a b c tz = .ok (decide (key a < key b)) ∧
        (key a = key b → Atomic.compare .eq a b c tz = .ok true) := by
  rcases h with ⟨β, _, key, hkey⟩
  have heq : ∀ a ∈ l, ∀ b ∈ l, key a = key b → Atomic.compare .eq a b c tz = .ok true := by
    intro a ha b hb hab
    rw [hkey a ha b hb, Comparison.eq_holds_cmp_iff.mpr hab]
  rcases hop with rfl | rfl
  · refine ⟨β, inferInstance, key, fun a ha b hb => ⟨?_, heq a ha b hb⟩⟩
    rw [hkey a ha b hb, Except.ok.injEq, Bool.eq_iff_iff, decide_eq_true_iff]
    exact eq_comm.trans holds_lt_iff
  · refine ⟨βᵒᵈ, inferInstance, fun v => OrderDual.toDual (key v), fun a ha b hb => ⟨?_, ?_⟩⟩
    · rw [hkey a ha b hb, Except.ok.injEq, Bool.eq_iff_iff, decide_eq_true_iff, ← cmp_swap]
      refine Iff.trans ?_ (holds_lt_iff (x := key b) (y := key a))
      cases cmp (key b) (key a) <;> decide
    · exact fun hab => heq a ha b hb (OrderDual.toDual.injective hab)

/-- The scan of ordered values ends with the one whose key comes first. -/
theorem foldlM_of_key {β : Type} [LinearOrder β] {key : Atomic → β}
    (hkey : ∀ a ∈ best :: r, ∀ b ∈ best :: r,
      Atomic.compare op a b c tz = .ok (decide (key a < key b)))
    (hnan : ∀ v ∈ r, v.isNaN = false) :
    ∃ m ∈ best :: r, r.foldlM (better f op c tz) best = .ok m ∧
      ∀ w ∈ best :: r, key m ≤ key w := by
  induction r generalizing best with
  | nil =>
    refine ⟨best, List.mem_cons_self, rfl, fun w hw => ?_⟩
    rw [List.mem_singleton.mp hw]
  | cons v r ih =>
    let next := if key v < key best then v else best
    have hstep : better f op c tz best v = .ok next := by
      refine (better_eq_ok (hnan v List.mem_cons_self)).mpr ⟨_, hkey v ?_ best ?_, ?_⟩
      · exact List.mem_cons_of_mem _ List.mem_cons_self
      · exact List.mem_cons_self
      · simp [next]
    -- the next best is one of the two, and comes before both
    have hnext : next = best ∨ next = v := by
      by_cases hlt : key v < key best
      · exact .inr (if_pos hlt)
      · exact .inl (if_neg hlt)
    have hle : key next ≤ key best ∧ key next ≤ key v := by
      by_cases hlt : key v < key best
      · simp only [next, if_pos hlt]
        exact ⟨hlt.le, le_rfl⟩
      · simp only [next, if_neg hlt]
        exact ⟨le_rfl, not_lt.mp hlt⟩
    have hsub := mem_of_mem_next (r := r) hnext
    rcases ih (fun a ha b hb => hkey a (hsub a ha) b (hsub b hb))
      (fun w hw => hnan w (List.mem_cons_of_mem _ hw)) with ⟨m, hm, hfold, hfirst⟩
    refine ⟨m, hsub m hm, foldlM_cons_eq_ok.mpr ⟨next, hstep, hfold⟩, fun w hw => ?_⟩
    have hmnext := hfirst next List.mem_cons_self
    rcases List.mem_cons.mp hw with rfl | hw
    · exact hmnext.trans hle.1
    · rcases List.mem_cons.mp hw with rfl | hw
      · exact hmnext.trans hle.2
      · exact hfirst w (List.mem_cons_of_mem _ hw)

/-- Two scans of ordered values, in any order, end with values that are equal. -/
theorem scan_of_isOrdered (hop : op = .lt ∨ op = .gt) (h : Atomic.IsOrdered c tz l)
    (hnan : ∀ v ∈ l, v.isNaN = false) {l' : List Atomic} (hperm : l'.Perm l) :
    (l = [] ∧ l' = []) ∨ ∃ m m', scan f op c tz l = .ok (some m) ∧
      scan f op c tz l' = .ok (some m') ∧ Atomic.compare .eq m m' c tz = .ok true := by
  rcases exists_strict_key hop h with ⟨β, _, key, hkey⟩
  have hself : ∀ v ∈ l, ∃ b, Atomic.compare .lt v v c tz = .ok b := by
    rcases h with ⟨_, _, _, hkey⟩
    exact fun v hv => ⟨_, hkey v hv v hv .lt⟩
  have hscan : ∀ u : List Atomic, u.Perm l → u ≠ [] →
      ∃ m ∈ l, scan f op c tz u = .ok (some m) ∧ ∀ w ∈ l, key m ≤ key w := by
    intro u hu hne
    rcases List.exists_cons_of_ne_nil hne with ⟨v, r, rfl⟩
    rcases foldlM_of_key (f := f)
      (fun a ha b hb => (hkey a (hu.mem_iff.mp ha) b (hu.mem_iff.mp hb)).1)
      (fun w hw => hnan w (hu.mem_iff.mp (List.mem_cons_of_mem _ hw))) with ⟨m, hm, hfold, hfirst⟩
    refine ⟨m, hu.mem_iff.mp hm, ?_, fun w hw => hfirst w (hu.mem_iff.mpr hw)⟩
    exact scan_cons_eq_ok.mpr ⟨hself v (hu.mem_iff.mp List.mem_cons_self), m, hfold, rfl⟩
  by_cases hl : l = []
  · subst hl
    exact .inl ⟨rfl, hperm.eq_nil⟩
  · have hl' : l' ≠ [] := fun h' => hl (h' ▸ hperm.symm).eq_nil
    rcases hscan l (List.Perm.refl l) hl with ⟨m, hm, hok, hfirst⟩
    rcases hscan l' hperm hl' with ⟨m', hm', hok', hfirst'⟩
    -- each of the two comes first, so they have one key
    refine .inr ⟨m, m', hok, hok', (hkey m hm m' hm').2 ?_⟩
    exact le_antisymm (hfirst m' hm') (hfirst' m hm)

/-! ## 4. Numbers with a NaN -/

/-- Whether the value is a number of at most the type with the rank, and of at least this type if it
is a NaN. -/
def IsBelowNaN (k : Nat) (v : Atomic) : Prop :=
  ∃ n, v = .numeric n ∧ n.rank ≤ k ∧ (n.isNaN = true → k ≤ n.rank)

/-- A NaN stays the best among numbers of its type and of lower ones, unless another replaces it. -/
theorem foldlM_of_isNaN (hop : op = .lt ∨ op = .gt) {k : Nat} {n : Numeric} (hn : n.isNaN = true)
    (hk : k ≤ n.rank) (hr : ∀ v ∈ r, IsBelowNaN k v) :
    ∃ m : Atomic, m.isNaN = true ∧ r.foldlM (better f op c tz) (.numeric n) = .ok m := by
  -- every best value is a NaN with a rank of at least `k`
  induction r generalizing n with
  | nil => exact ⟨.numeric n, hn, rfl⟩
  | cons v r ih =>
    rcases hr v List.mem_cons_self with ⟨n', rfl, hle, hge⟩
    have hrest : ∀ w ∈ r, IsBelowNaN k w := fun w hw => hr w (List.mem_cons_of_mem _ hw)
    cases hnan : n'.isNaN with
    | true =>
      rcases ih hnan (hge hnan) hrest with ⟨m, hm, hfold⟩
      exact ⟨m, hm, foldlM_cons_eq_ok.mpr ⟨_, better_of_isNaN hnan, hfold⟩⟩
    | false =>
      rcases ih hn hk hrest with ⟨m, hm, hfold⟩
      have hcompare : Atomic.compare op (.numeric n') (.numeric n) c tz = .ok (op.holds none) :=
        Atomic.compare_numeric (Numeric.compare_isNaN_of_rank_le hn (hle.trans hk)) op
      have hstep := (better_eq_ok (f := f) (v := .numeric n') hnan).mpr
        ⟨_, hcompare, rfl⟩
      refine ⟨m, hm, foldlM_cons_eq_ok.mpr ⟨_, hstep, ?_⟩⟩
      have hfails : op.holds none = false := by rcases hop with rfl | rfl <;> rfl
      rw [hfails]
      exact hfold

/-- A scan that succeeds up to a NaN has a NaN as the best of what comes next. -/
theorem foldlM_append_isNaN (hop : op = .lt ∨ op = .gt) {k : Nat} {n : Numeric} {s t : List Atomic}
    (hn : n.isNaN = true) (hk : k ≤ n.rank) (ht : ∀ v ∈ t, IsBelowNaN k v)
    (hs : s.foldlM (better f op c tz) best = .ok w) :
    ∃ m : Atomic, m.isNaN = true ∧
      (s ++ .numeric n :: t).foldlM (better f op c tz) best = .ok m := by
  rcases foldlM_of_isNaN (f := f) (c := c) hop hn hk ht with ⟨m, hm, hfold⟩
  refine ⟨m, hm, ?_⟩
  rw [List.foldlM_append, hs]
  exact foldlM_cons_eq_ok.mpr ⟨_, better_of_isNaN hn, hfold⟩

/-- Among numbers of one type a NaN is the greatest and the least. -/
theorem scan_of_isNaN (hop : op = .lt ∨ op = .gt) {k : Nat} (hrank : ∀ v ∈ l, v.HasRank k)
    (hnan : ∃ v ∈ l, v.isNaN = true) :
    ∃ m : Atomic, m.isNaN = true ∧ scan f op c tz l = .ok (some m) := by
  have hbelow : ∀ v ∈ l, IsBelowNaN k v := by
    intro v hv
    rcases hrank v hv with ⟨n, rfl, rfl⟩
    exact ⟨n, rfl, le_rfl, fun _ => le_rfl⟩
  have hcompare : ∀ a ∈ l, ∀ b ∈ l, ∀ op', ∃ r, Atomic.compare op' a b c tz = .ok r := by
    intro a ha b hb op'
    rcases hrank a ha with ⟨m, rfl, hm⟩
    rcases hrank b hb with ⟨n, rfl, hn⟩
    rcases Numeric.exists_compare_of_rank_eq (hm.trans hn.symm) with ⟨o, ho⟩
    exact ⟨_, Atomic.compare_numeric ho op'⟩
  rcases hnan with ⟨x, hx, hxnan⟩
  rcases hrank x hx with ⟨n, rfl, hn⟩
  rcases List.append_of_mem hx with ⟨s, t, rfl⟩
  have ht : ∀ v ∈ t, IsBelowNaN k v := fun v hv =>
    hbelow v (List.mem_append_right s (List.mem_cons_of_mem _ hv))
  cases s with
  | nil =>
    rcases foldlM_of_isNaN (f := f) (c := c) hop hxnan hn.ge ht with ⟨m, hm, hfold⟩
    exact ⟨m, hm, scan_cons_eq_ok.mpr ⟨hcompare _ hx _ hx .lt, m, hfold, rfl⟩⟩
  | cons v s =>
    have hv : v ∈ v :: s ++ .numeric n :: t := List.mem_cons_self
    have hfirst : ∀ a ∈ s, ∀ b ∈ v :: s, ∃ r, Atomic.compare op a b c tz = .ok r :=
      fun a ha b hb => hcompare a (List.mem_append_left _ (List.mem_cons_of_mem _ ha)) b
        (List.mem_append_left _ hb) op
    rcases exists_foldlM (f := f) hfirst with ⟨b, -, hb⟩
    rcases foldlM_append_isNaN hop hxnan hn.ge ht hb with ⟨m, hm, hfold⟩
    exact ⟨m, hm, scan_cons_eq_ok.mpr ⟨hcompare v hv v hv .lt, m, hfold, rfl⟩⟩

/-! ## 5. A NaN among other values -/

/-- Whether a NaN stands with values that are no numbers and compare with one another. -/
def MixesNaN (tz : TimeZone) (l : List Atomic) : Prop :=
  (∃ v ∈ l, v.isNaN = true) ∧ (∃ v ∈ l, v.numeric? = none) ∧
    ∃ k, ∀ v ∈ l, v.numeric? = none → v.orderClass? tz = some k

/-- Values that a scan accepts are numbers or of one kind; without a NaN all are of one kind. -/
theorem orderClass?_of_scan (hop : op = .lt ∨ op = .gt) {o : Option Atomic}
    (h : scan f op c tz l = .ok o) :
    ∃ k, ∀ w ∈ l, w.orderClass? tz = some k ∨
      (w.numeric?.isSome = true ∧ ∃ u ∈ l, u.isNaN = true) := by
  cases l with
  | nil => exact ⟨.number, fun w hw => absurd hw List.not_mem_nil⟩
  | cons v r =>
    rcases scan_cons_eq_ok.mp h with ⟨⟨b, hself⟩, m, hfold, -⟩
    rcases Atomic.orderClass?_of_compare (.inl rfl) hself with ⟨k, hk, -⟩
    refine ⟨k, fun w hw => ?_⟩
    rcases List.mem_cons.mp hw with rfl | hw
    · exact .inl hk
    · rcases orderClass?_of_foldlM hop hk hfold w hw with hw | ⟨hw, u, hu, hnan⟩
      · exact .inl hw
      · exact .inr ⟨hw, u, List.mem_cons_of_mem _ hu, hnan⟩

/-- A scan that starts with a number accepts nothing but numbers. -/
theorem numeric?_of_scan (hop : op = .lt ∨ op = .gt) {n : Numeric} {o : Option Atomic}
    (h : scan f op c tz (.numeric n :: r) = .ok o) : ∀ w ∈ r, w.numeric?.isSome = true := by
  rcases scan_cons_eq_ok.mp h with ⟨-, m, hfold, -⟩
  intro w hw
  rcases orderClass?_of_foldlM hop (k := .number) rfl hfold w hw with hw | hw
  · exact Atomic.orderClass?_eq_number.mp hw
  · exact hw.1

/-- With the NaN first the scan fails. -/
theorem exists_scan_error (f : String) (c : Collation) (hop : op = .lt ∨ op = .gt)
    (hmix : MixesNaN tz l) : ∃ l', l'.Perm l ∧ ∀ o, scan f op c tz l' ≠ .ok o := by
  rcases hmix with ⟨⟨x, hx, hnan⟩, ⟨w, hw, hnone⟩, -⟩
  rcases Atomic.exists_numeric_of_isNaN hnan with ⟨n, rfl, -⟩
  rcases List.append_of_mem hx with ⟨s, t, rfl⟩
  refine ⟨.numeric n :: (s ++ t), List.perm_middle.symm, fun o h => ?_⟩
  have hmem : w ∈ s ++ t := by
    rcases List.mem_cons.mp (List.perm_middle.mem_iff.mp hw) with rfl | hw
    · cases hnone
    · exact hw
  have hsome := numeric?_of_scan hop h w hmem
  rw [hnone] at hsome
  cases hsome

/-- Values that are ordered, then a NaN, then numbers of no higher type than float, then doubles:
the scan succeeds. -/
theorem exists_scan_of_ordered_first (hop : op = .lt ∨ op = .gt) {n : Numeric}
    {low high : List Atomic} (hordered : Atomic.IsOrdered c tz (v :: r)) (hn : n.isNaN = true)
    (hlow : ∀ w ∈ low, ∃ p, w = .numeric p ∧ p.rank ≤ 2)
    (hhigh : ∀ w ∈ high, ∃ p, w = .numeric p ∧ 2 ≤ p.rank) :
    ∃ o, scan f op c tz (v :: r ++ (.numeric n :: (low ++ high))) = .ok o := by
  rcases hordered with ⟨_, _, _, hkey⟩
  have hfirst : ∀ a ∈ r, ∀ b ∈ v :: r, ∃ d, Atomic.compare op a b c tz = .ok d :=
    fun a ha b hb => ⟨_, hkey a (List.mem_cons_of_mem _ ha) b hb op⟩
  rcases exists_foldlM (f := f) hfirst with ⟨b, -, hb⟩
  have hbelow : ∀ w ∈ low, IsBelowNaN 2 w := by
    intro w hw
    rcases hlow w hw with ⟨p, rfl, hp⟩
    exact ⟨p, rfl, hp, Numeric.two_le_rank_of_isNaN⟩
  rcases foldlM_append_isNaN hop hn (Numeric.two_le_rank_of_isNaN hn) hbelow hb with
    ⟨m, hm, hfold⟩
  rcases Atomic.exists_numeric_of_isNaN hm with ⟨n', rfl, -⟩
  -- whatever is the best from here on, comparing a double with a number does not fail
  have hlast : ∀ a ∈ high, ∀ b ∈ .numeric n' :: high,
      ∃ d, Atomic.compare op a b c tz = .ok d := by
    intro a ha b hb
    rcases hhigh a ha with ⟨p, rfl, hp⟩
    have hnumber : ∃ q, b = .numeric q := by
      rcases List.mem_cons.mp hb with rfl | hb
      · exact ⟨n', rfl⟩
      · exact (hhigh b hb).imp fun _ h => h.1
    rcases hnumber with ⟨q, rfl⟩
    rcases Numeric.exists_compare_of_le_rank (n := q) (.inl hp) with ⟨o, ho⟩
    exact ⟨_, Atomic.compare_numeric ho op⟩
  rcases exists_foldlM (f := f) hlast with ⟨m', -, hm'⟩
  have hv : v ∈ v :: r := List.mem_cons_self
  refine ⟨some m', scan_cons_eq_ok.mpr ⟨⟨_, hkey v hv v hv .lt⟩, m', ?_, rfl⟩⟩
  have hsplit : r ++ .numeric n :: (low ++ high) = (r ++ .numeric n :: low) ++ high :=
    (List.append_assoc r (.numeric n :: low) high).symm
  show (r ++ .numeric n :: (low ++ high)).foldlM _ v = _
  rw [hsplit, List.foldlM_append, hfold]
  exact hm'

/-- Values with a number among them are, in another order, those that are no numbers, then that
number, then the numbers of lower types, then the doubles. -/
theorem exists_perm_of_number {n : Numeric} (hn : .numeric n ∈ l) :
    ∃ low high : List Atomic,
      (l.filter (·.numeric?.isNone) ++ (.numeric n :: (low ++ high))).Perm l ∧
      (∀ w ∈ low, ∃ p, w = .numeric p ∧ p.rank ≤ 2) ∧
      ∀ w ∈ high, ∃ p, w = .numeric p ∧ 2 ≤ p.rank := by
  have hmem : Atomic.numeric n ∈ l.filter fun v => !v.numeric?.isNone :=
    List.mem_filter.mpr ⟨hn, rfl⟩
  rcases List.append_of_mem hmem with ⟨s, t, hst⟩
  have hnumber : ∀ v ∈ s ++ t, ∃ p, v = .numeric p := by
    intro v hv
    have hv : v ∈ l.filter fun v => !v.numeric?.isNone := by
      rw [hst]
      exact List.perm_middle.mem_iff.mpr (List.mem_cons_of_mem _ hv)
    cases v with
    | numeric p => exact ⟨p, rfl⟩
    | _ => cases (List.mem_filter.mp hv).2
  let isLow (v : Atomic) : Bool := v.numeric?.all fun p => decide (p.rank ≤ 2)
  refine ⟨(s ++ t).filter isLow, (s ++ t).filter fun v => !isLow v, ?_, fun v hv => ?_,
    fun v hv => ?_⟩
  · have hsplit := List.filter_append_perm (fun v : Atomic => v.numeric?.isNone) l
    rw [hst] at hsplit
    refine List.Perm.trans ?_ hsplit
    exact (((List.filter_append_perm isLow (s ++ t)).cons _).trans
      List.perm_middle.symm).append_left _
  · rcases List.mem_filter.mp hv with ⟨hv, hle⟩
    rcases hnumber v hv with ⟨p, rfl⟩
    exact ⟨p, rfl, of_decide_eq_true hle⟩
  · rcases List.mem_filter.mp hv with ⟨hv, hlt⟩
    rcases hnumber v hv with ⟨p, rfl⟩
    refine ⟨p, rfl, le_of_not_ge fun hle => ?_⟩
    simp [isLow, Atomic.numeric?, hle] at hlt

/-- With the other values first, then the NaN, then the numbers in the order of their types, the
scan succeeds. -/
theorem exists_scan_ok (f : String) (c : Collation) (hop : op = .lt ∨ op = .gt)
    (hmix : MixesNaN tz l) : ∃ l', l'.Perm l ∧ ∃ o, scan f op c tz l' = .ok o := by
  rcases hmix with ⟨⟨x, hx, hnan⟩, ⟨w, hw, hnone⟩, k, hk⟩
  rcases Atomic.exists_numeric_of_isNaN hnan with ⟨n, rfl, hn⟩
  have hne : k ≠ .number := by
    rintro rfl
    exact Atomic.orderClass?_ne_number hnone (hk w hw hnone)
  have hothers : Atomic.IsOrdered c tz (l.filter (·.numeric?.isNone)) := by
    refine Atomic.isOrdered_of_orderClass? hne fun v hv => ?_
    rcases List.mem_filter.mp hv with ⟨hv, hother⟩
    exact hk v hv (Option.isNone_iff_eq_none.mp hother)
  have hnil : l.filter (·.numeric?.isNone) ≠ [] :=
    List.ne_nil_of_mem (List.mem_filter.mpr ⟨hw, Option.isNone_iff_eq_none.mpr hnone⟩)
  rcases exists_perm_of_number hx with ⟨low, high, hperm, hlow, hhigh⟩
  rcases List.exists_cons_of_ne_nil hnil with ⟨v, r, hvr⟩
  rw [hvr] at hothers hperm
  exact ⟨_, hperm, exists_scan_of_ordered_first hop hothers hn hlow hhigh⟩

end Aggregate

end XPath
