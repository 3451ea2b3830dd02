import XPath.Eval
import XPath.Proofs.Result

/-!
# Dual quantifiers

A condition holds of every choice of the variables exactly if there is no choice that it does not
hold of.  Both searches take the choices in one order and stop at the same one, because what decides
the one decides the other.  So they evaluate the same expressions, and an error of one search is the
error of the other.
-/

namespace XPath

/-! ## 1. Conditions the other way round -/

/-- The quantifier that says the same of a condition that does not hold. -/
def Quantifier.dual : Quantifier → Quantifier
  | some => every
  | every => some

/-- The condition that holds where `p` does not. -/
def Expr.denial (p : Expr) : Expr :=
  .ifThenElse p (.literal (.boolean false)) (.literal (.boolean true))

section Evaluation

variable (env : Environment)

/-- The effective boolean value of a condition. -/
def evalTruth (scope : Scope) (p : Expr) : Result Bool := do
  Sequence.truth (← p.eval env scope)

/-- The denial is the other truth value, or the error of the condition. -/
theorem evalTruth_denial (scope : Scope) (p : Expr) :
    evalTruth env scope p.denial = (! ·) <$> evalTruth env scope p := by
  have hdenial : p.denial.eval env scope = (do
      if ← evalTruth env scope p then return [.boolean false] else return [.boolean true]) := by
    rw [Expr.denial, Expr.eval, Expr.eval, Expr.eval, evalTruth, bind_assoc]
    rfl
  rw [evalTruth, hdenial]
  cases evalTruth env scope p with
  | error e => rfl
  | ok b => cases b <;> rfl

/-! ## 2. Choices of the variables -/

/-- The search for a choice that decides a quantifier.  The induction is on the variables, in all
scopes, since the ranges of the later ones are evaluated with the earlier ones bound. -/
theorem evalQuantified_dual (q : Quantifier) (bs : List Binding) (condition : Scope → Result Bool)
    (scope : Scope) :
    evalQuantified env scope q bs condition =
      (! ·) <$> evalQuantified env scope q.dual bs fun inner => (! ·) <$> condition inner := by
  induction bs generalizing scope with
  | nil =>
    rw [evalQuantified, evalQuantified]
    cases condition scope with
    | error e => rfl
    | ok b => exact congrArg Except.ok (Bool.not_not b).symm
  | cons binding r ih =>
    cases binding with
    | mk v e =>
      rw [evalQuantified, evalQuantified, map_bind]
      refine bind_congr fun s => ?_
      cases q with
      | some =>
        show s.anyM _ = (! ·) <$> s.allM _
        rw [List.allM_eq_not_anyM_not]
        simp only [ih, Functor.map_map, Bool.not_not, id_map', Quantifier.dual]
      | every =>
        show s.allM _ = (! ·) <$> s.anyM _
        rw [List.allM_eq_not_anyM_not]
        simp only [ih, Functor.map_map, Bool.not_not, id_map', Quantifier.dual]

/-- A quantified expression and its dual, with the condition denied, have opposite truth values, or
they have one error. -/
theorem eval_quantified_dual (scope : Scope) (q : Quantifier) (bs : List Binding) (p : Expr) :
    ∃ r : Result Bool,
      (Expr.quantified q bs p).eval env scope = (fun b => [.boolean b]) <$> r ∧
        (Expr.quantified q.dual bs p.denial).eval env scope = (fun b => [.boolean !b]) <$> r := by
  refine ⟨evalQuantified env scope q bs fun inner => evalTruth env inner p, ?_, ?_⟩
  · rw [Expr.eval, map_eq_pure_bind]
    rfl
  · have hsearch : (Expr.quantified q.dual bs p.denial).eval env scope =
        (fun b => [.boolean b]) <$> evalQuantified env scope q.dual bs fun inner =>
          evalTruth env inner p.denial := by
      rw [Expr.eval, map_eq_pure_bind]
      rfl
    rw [hsearch, evalQuantified_dual env q]
    simp only [evalTruth_denial, Functor.map_map, Bool.not_not]

end Evaluation

end XPath
