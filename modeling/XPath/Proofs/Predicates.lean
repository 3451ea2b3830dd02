import XPath.Eval
import XPath.Proofs.Result

/-!
# Predicates

A predicate is tried for each item of a sequence, with the item in focus.  A constant position is
no exception: taking the item at the position is what the trial of all items comes to.  Predicates
leave the order of the items alone, and they do not see the focus in which the sequence was made.
-/

namespace XPath

/-! ## 1. Constant positions -/

theorem selects_integer (i : Int) (k : Nat) :
    selects [.atomic (.integer i)] k = .ok (i == (k : Int)) := by
  have hsame : ((some (Ord.compare i (k : Int)) : Option Ordering) == some .eq) =
      (i == (k : Int)) := by
    rw [Bool.eq_iff_iff, beq_iff_eq, beq_iff_eq, Option.some.injEq]
    exact Int.compare_eq_eq
  show (.ok _ : Result Bool) = _
  rw [hsame]

/-- Among numbered items, those with a given number are the item at its place. -/
theorem flatMap_zipIdx_eq (l : Sequence) (start : Nat) (i : Int) :
    (l.zipIdx start).flatMap (fun x => if i == (x.2 : Int) then [x.1] else []) =
      if i ≥ start then l[(i - start).toNat]?.toList else [] := by
  induction l generalizing start with
  | nil => simp
  | cons a l ih =>
    rw [List.zipIdx_cons, List.flatMap_cons, ih]
    rcases Int.lt_trichotomy i start with hlt | heq | hgt
    · rw [if_neg (by simp; omega), if_neg (by omega), if_neg (by omega)]
      rfl
    · subst heq
      rw [if_pos (by simp), if_neg (by omega), if_pos (by omega)]
      simp
    · rw [if_neg (by simp; omega), if_pos (by omega), if_pos (by omega)]
      have hplace : (i - start).toNat = (i - (start + 1 : Nat)).toNat + 1 := by omega
      rw [hplace, List.getElem?_cons_succ]
      rfl

section Predicates

variable (env : Environment) (scope : Scope)

theorem forEachFocus_ok {α : Type} (s : Sequence) (g : Focus → α) :
    forEachFocus s (fun f => .ok (g f)) =
      .ok ((s.zipIdx 1).map fun (item, i) => g ⟨item, i, s.length⟩) :=
  List.mapM_pure

/-- The items that a predicate selects, each tried in its own focus. -/
def selectEach (p : Expr) (s : Sequence) : Result Sequence := do
  let kept ← forEachFocus s fun f => do
    return if ← selects (← p.eval env (scope.withFocus f)) f.position then [f.item] else []
  return kept.flatten

/-- Trying a constant position for all items selects the item that stands there. -/
theorem selectEach_integer (i : Int) (s : Sequence) :
    selectEach env scope (.literal (.integer i)) s = .ok (itemAt s i) := by
  have hone : ∀ f : Focus, (do
      return if ← selects (← (Expr.literal (.integer i)).eval env (scope.withFocus f)) f.position
        then [f.item] else [] : Result Sequence) =
      .ok (if i == (f.position : Int) then [f.item] else []) := by
    intro f
    rw [Expr.eval]
    show (do return if ← selects [.atomic (.integer i)] f.position then [f.item] else [] :
      Result Sequence) = _
    rw [selects_integer]
    rfl
  unfold selectEach
  simp only [hone, forEachFocus_ok]
  show (.ok _ : Result Sequence) = .ok _
  rw [← List.flatMap_def, flatMap_zipIdx_eq]
  rfl

/-- A predicate selects from a sequence, and the following ones from what it has left. -/
theorem evalPredicates_cons (p : Expr) (ps : List Expr) (s : Sequence) :
    evalPredicates env scope (p :: ps) s =
      (do evalPredicates env scope ps (← selectEach env scope p s)) := by
  by_cases hp : ∃ i, p = .literal (.integer i)
  · rcases hp with ⟨i, rfl⟩
    rw [selectEach_integer, evalPredicates]
    rfl
  · rw [evalPredicates]
    · simp only [selectEach, bind_assoc, pure_bind]
    · exact fun i he => hp ⟨i, he⟩

/-- Predicates are evaluated in the focus of the items that they are tried for. -/
theorem evalPredicates_withFocus (f : Focus) (ps : List Expr) (s : Sequence) :
    evalPredicates env (scope.withFocus f) ps s = evalPredicates env scope ps s := by
  induction ps generalizing s with
  | nil => rw [evalPredicates, evalPredicates]
  | cons p ps ih =>
    rw [evalPredicates_cons, evalPredicates_cons]
    simp only [ih]
    rfl

/-! ## 2. The items that are left -/

theorem sublist_of_forEachFocus {s : Sequence} {g : Focus → Result Sequence}
    {kept : List Sequence} (hg : ∀ f r, g f = .ok r → r.Sublist [f.item])
    (h : forEachFocus s g = .ok kept) : kept.flatten.Sublist s := by
  have hnumbered : ∀ (l : Sequence) (start last : Nat) (kept : List Sequence),
      (l.zipIdx start).mapM (fun x => g ⟨x.1, x.2, last⟩) = .ok kept →
      kept.flatten.Sublist l := by
    intro l
    induction l with
    | nil =>
      intro start last kept h
      cases h
      exact .slnil
    | cons a l ih =>
      intro start last kept h
      rw [List.zipIdx_cons, List.mapM_cons] at h
      rcases map₂_eq_ok.mp h with ⟨first, rest, hfirst, hrest, rfl⟩
      rw [List.flatten_cons]
      exact (hg _ _ hfirst).append (ih _ _ _ hrest)
  exact hnumbered s 1 s.length kept h

theorem sublist_of_selectEach {p : Expr} {s r : Sequence}
    (h : selectEach env scope p s = .ok r) : r.Sublist s := by
  rcases map_eq_ok.mp h with ⟨kept, hkept, rfl⟩
  refine sublist_of_forEachFocus (fun f r hr => ?_) hkept
  rcases bind_eq_ok.mp hr with ⟨value, -, hr⟩
  rcases map_eq_ok.mp hr with ⟨selected, -, rfl⟩
  cases selected with
  | true => exact .refl _
  | false => exact List.nil_sublist _

/-- Predicates leave some of the items, in their order. -/
theorem sublist_of_evalPredicates {ps : List Expr} {s r : Sequence}
    (h : evalPredicates env scope ps s = .ok r) : r.Sublist s := by
  induction ps generalizing s with
  | nil =>
    rw [evalPredicates] at h
    cases h
    exact .refl _
  | cons p ps ih =>
    rw [evalPredicates_cons] at h
    rcases bind_eq_ok.mp h with ⟨selected, hselected, h⟩
    exact (ih h).trans (sublist_of_selectEach env scope hselected)

end Predicates

end XPath
