import XPath.Proofs.Predicates

/-!
# Constants in the place of variables

A variable that is set to a constant can be replaced by it.  The replacement stops where the
variable is bound again.  The proof follows the evaluation of the expression: a scope in which some
variables have constant values is compared with a scope for the expression in which these are
replaced.  Only the predicates need more than that, since a constant position is not tried for each
item: there the two ways to select an item have to agree.
-/

namespace XPath

/-! ## 1. Replacing variables -/

/-- The constants that some variables are replaced by. -/
def Constants := ExpandedName → Option Literal

namespace Constants

/-- The constant of one variable alone. -/
def single (name : ExpandedName) (l : Literal) : Constants :=
  fun other => if other = name then some l else none

/-- The constants of the other variables. -/
def without (σ : Constants) (name : ExpandedName) : Constants :=
  fun other => if other = name then none else σ other

/-- The constants of the variables that are not bound to the operand of a typeswitch. -/
def withoutOptional (σ : Constants) : Option QName → Constants
  | none => σ
  | some q => σ.without q.expanded

/-- The constants of the variables that are not bound. -/
def withoutBound (σ : Constants) : List Binding → Constants
  | [] => σ
  | .mk q _ :: r => (σ.without q.expanded).withoutBound r

end Constants

mutual

/-- The expression with the constants in the place of free variables. -/
def Expr.replace (σ : Constants) : Expr → Expr
  | .literal l => .literal l
  | .var q =>
    match σ q.expanded with
    | some l => .literal l
    | none => .var q
  | .contextItem => .contextItem
  | .call q args => .call q (replaceAll σ args)
  | .sequence items => .sequence (replaceAll σ items)
  | .range a b => .range (a.replace σ) (b.replace σ)
  | .arithmetic op a b => .arithmetic op (a.replace σ) (b.replace σ)
  | .and a b => .and (a.replace σ) (b.replace σ)
  | .or a b => .or (a.replace σ) (b.replace σ)
  | .signed sign a => .signed sign (a.replace σ)
  | .generalComparison op a b => .generalComparison op (a.replace σ) (b.replace σ)
  | .valueComparison op a b => .valueComparison op (a.replace σ) (b.replace σ)
  | .nodeComparison op a b => .nodeComparison op (a.replace σ) (b.replace σ)
  | .path start steps => .path start (replaceSteps σ steps)
  | .filter a ps => .filter (a.replace σ) (replaceAll σ ps)
  | .ifThenElse a b c => .ifThenElse (a.replace σ) (b.replace σ) (c.replace σ)
  | .forEach bs e => .forEach (replaceBindings σ bs) (e.replace (σ.withoutBound bs))
  | .letIn bs e => .letIn (replaceBindings σ bs) (e.replace (σ.withoutBound bs))
  | .quantified q bs e => .quantified q (replaceBindings σ bs) (e.replace (σ.withoutBound bs))
  | .instanceOf a t => .instanceOf (a.replace σ) t
  | .treatAs a t => .treatAs (a.replace σ) t
  | .castAs a t => .castAs (a.replace σ) t
  | .castableAs a t => .castableAs (a.replace σ) t
  | .setOperation op a b => .setOperation op (a.replace σ) (b.replace σ)
  | .typeswitch a cases v d =>
    .typeswitch (a.replace σ) (replaceCases σ cases) v (d.replace (σ.withoutOptional v))

def replaceAll (σ : Constants) : List Expr → List Expr
  | [] => []
  | e :: r => e.replace σ :: replaceAll σ r

def replaceSteps (σ : Constants) : List Step → List Step
  | [] => []
  | step :: r => step.replace σ :: replaceSteps σ r

def Step.replace (σ : Constants) : Step → Step
  | .axis axis test ps => .axis axis test (replaceAll σ ps)
  | .expr e => .expr (e.replace σ)

/-- The expression of a variable sees the variables that are bound before it. -/
def replaceBindings (σ : Constants) : List Binding → List Binding
  | [] => []
  | .mk q e :: r => .mk q (e.replace σ) :: replaceBindings (σ.without q.expanded) r

def replaceCases (σ : Constants) : List Case → List Case
  | [] => []
  | .mk v t e :: r => .mk v t (e.replace (σ.withoutOptional v)) :: replaceCases σ r

end

/-! ## 2. Scopes -/

/-- The scopes have one focus.  A variable with a constant has the value of that in the first scope,
and any other variable has one value in both or in neither. -/
structure Scope.Sets (σ : Constants) (scope scope' : Scope) : Prop where
  focus : scope.focus = scope'.focus
  lookup : ∀ name, scope.locals.lookup name =
    ((σ name).map Literal.value).or (scope'.locals.lookup name)

theorem Scope.lookup_bind (scope : Scope) (q : QName) (value : Sequence) (name : ExpandedName) :
    (scope.bind q value).locals.lookup name =
      if name = q.expanded then some value else scope.locals.lookup name := by
  rw [Scope.bind, List.lookup_cons]
  by_cases hname : name = q.expanded
  · rw [if_pos hname, beq_iff_eq.mpr hname]
  · rw [if_neg hname, beq_eq_false_iff_ne.mpr hname]

/-- A variable that is set to a constant. -/
theorem Scope.sets_single (scope : Scope) (q : QName) (l : Literal) :
    Scope.Sets (.single q.expanded l) (scope.bind q l.value) scope where
  focus := rfl
  lookup name := by
    rw [lookup_bind, Constants.single]
    by_cases hname : name = q.expanded
    · rw [if_pos hname, if_pos hname]
      rfl
    · rw [if_neg hname, if_neg hname]
      rfl

namespace Scope.Sets

variable {σ : Constants} {scope scope' : Scope}

theorem contextItem (h : Sets σ scope scope') : scope.contextItem = scope'.contextItem := by
  rw [Scope.contextItem, Scope.contextItem, h.focus]

theorem withFocus (h : Sets σ scope scope') (f : Focus) :
    Sets σ (scope.withFocus f) (scope'.withFocus f) where
  focus := rfl
  lookup := h.lookup

/-- A variable that is bound in both scopes has no constant any more. -/
theorem bind (h : Sets σ scope scope') (q : QName) (value : Sequence) :
    Sets (σ.without q.expanded) (scope.bind q value) (scope'.bind q value) where
  focus := h.focus
  lookup name := by
    rw [lookup_bind, lookup_bind, Constants.without]
    by_cases hname : name = q.expanded
    · rw [if_pos hname, if_pos hname, if_pos hname]
      rfl
    · rw [if_neg hname, if_neg hname, if_neg hname]
      exact h.lookup name

end Scope.Sets

/-! ## 3. Evaluation -/

section Evaluation

variable (env : Environment) {σ : Constants} {scope scope' : Scope}

theorem lookup_eq_of_sets (h : Scope.Sets σ scope scope') {q : QName} (hq : σ q.expanded = none) :
    env.lookup scope q = env.lookup scope' q := by
  have hlookup := h.lookup q.expanded
  rw [hq] at hlookup
  rw [Environment.lookup, Environment.lookup, hlookup]
  rfl

theorem lookup_constant_of_sets (h : Scope.Sets σ scope scope') {q : QName} {l : Literal}
    (hq : σ q.expanded = some l) : env.lookup scope q = .ok l.value := by
  have hlookup := h.lookup q.expanded
  rw [hq] at hlookup
  rw [Environment.lookup, hlookup]
  rfl

theorem call_eq_of_sets (h : Scope.Sets σ scope scope') (q : QName) (args : List Sequence) :
    env.call scope q args = env.call scope' q args := by
  rw [Environment.call, Environment.call, h.focus]

/-- Predicates with the same values in each focus select the same items. -/
theorem selectEach_congr {p p' : Expr}
    (h : ∀ f, p.eval env (scope.withFocus f) = p'.eval env (scope'.withFocus f)) (s : Sequence) :
    selectEach env scope p s = selectEach env scope' p' s := by
  simp only [selectEach, h]

-- the constants and the scopes change wherever a variable is bound, and the predicates and steps of
-- a path are evaluated in other focuses, so the induction is for all constants and scopes
mutual

/-- An expression has the value of the expression in which the variables that are set to constants
are replaced by these. -/
theorem eval_replace {σ : Constants} {scope scope' : Scope} (h : Scope.Sets σ scope scope') :
    ∀ e : Expr, e.eval env scope = (e.replace σ).eval env scope'
  | .literal l => by rw [Expr.replace, Expr.eval, Expr.eval]
  | .var q => by
    rw [Expr.replace, Expr.eval]
    cases hq : σ q.expanded with
    | some l =>
      show _ = (Expr.literal l).eval env scope'
      rw [Expr.eval]
      exact lookup_constant_of_sets env h hq
    | none =>
      show _ = (Expr.var q).eval env scope'
      rw [Expr.eval]
      exact lookup_eq_of_sets env h hq
  | .contextItem => by rw [Expr.replace, Expr.eval, Expr.eval, h.contextItem]
  | .call q args => by
    rw [Expr.replace, Expr.eval, Expr.eval, evalAll_replace h args]
    simp only [call_eq_of_sets env h]
  | .sequence items => by rw [Expr.replace, Expr.eval, Expr.eval, evalAll_replace h items]
  | .range a b | .and a b | .or a b | .arithmetic _ a b | .generalComparison _ a b
  | .valueComparison _ a b | .nodeComparison _ a b | .setOperation _ a b => by
    rw [Expr.replace, Expr.eval, Expr.eval, eval_replace h a, eval_replace h b]
  | .signed _ a | .instanceOf a _ | .treatAs a _ | .castAs a _ | .castableAs a _ => by
    rw [Expr.replace, Expr.eval, Expr.eval, eval_replace h a]
  | .path .relative [] => by rw [Expr.replace, replaceSteps, Expr.eval, Expr.eval]
  | .path .relative (step :: r) => by
    rw [Expr.replace, replaceSteps, Expr.eval, Expr.eval, evalStep_replace h step]
    simp only [evalSteps_replace h r]
  | .path .root steps => by
    rw [Expr.replace, Expr.eval, Expr.eval, h.contextItem]
    simp only [evalSteps_replace h steps]
  | .path .rootDescendant steps => by
    rw [Expr.replace, Expr.eval, Expr.eval, h.contextItem]
    simp only [evalSteps_replace h steps]
  | .filter a ps => by
    rw [Expr.replace, Expr.eval, Expr.eval, eval_replace h a]
    simp only [evalPredicates_replace h ps]
  | .ifThenElse a b c => by
    rw [Expr.replace, Expr.eval, Expr.eval, eval_replace h a, eval_replace h b, eval_replace h c]
  | .forEach bs e => by
    rw [Expr.replace, Expr.eval, Expr.eval]
    exact evalFor_replace h bs _ _ fun _ _ hinner => eval_replace hinner e
  | .letIn bs e => by
    rw [Expr.replace, Expr.eval, Expr.eval]
    exact evalLet_replace h bs _ _ fun _ _ hinner => eval_replace hinner e
  | .quantified q bs e => by
    have hcondition := evalQuantified_replace h q bs
      (fun inner => do Sequence.truth (← e.eval env inner))
      (fun inner => do Sequence.truth (← (e.replace (σ.withoutBound bs)).eval env inner))
      fun _ _ hinner => by rw [eval_replace hinner e]
    rw [Expr.replace, Expr.eval, Expr.eval, hcondition]
  | .typeswitch a cases v d => by
    rw [Expr.replace, Expr.eval, Expr.eval, eval_replace h a]
    refine bind_congr fun value => evalCases_replace h value cases _ _ ?_
    cases v with
    | none => exact eval_replace h d
    | some q => exact eval_replace (h.bind q value) d

theorem evalAll_replace {σ : Constants} {scope scope' : Scope} (h : Scope.Sets σ scope scope') :
    ∀ es : List Expr, evalAll env scope es = evalAll env scope' (replaceAll σ es)
  | [] => by rw [replaceAll, evalAll, evalAll]
  | e :: r => by
    rw [replaceAll, evalAll, evalAll, eval_replace h e, evalAll_replace h r]

theorem evalPredicates_replace {σ : Constants} {scope scope' : Scope}
    (h : Scope.Sets σ scope scope') : ∀ (ps : List Expr) (s : Sequence),
    evalPredicates env scope ps s = evalPredicates env scope' (replaceAll σ ps) s
  | [], s => by rw [replaceAll, evalPredicates, evalPredicates]
  | p :: ps, s => by
    -- replacing a variable may leave a constant position, which evaluation takes on a path of its
    -- own; the other predicates are tried for each item before and after
    rw [replaceAll, evalPredicates_cons, evalPredicates_cons,
      selectEach_congr env fun f => eval_replace (h.withFocus f) p]
    simp only [evalPredicates_replace h ps]

theorem evalSteps_replace {σ : Constants} {scope scope' : Scope}
    (h : Scope.Sets σ scope scope') : ∀ (steps : List Step) (s : Sequence),
    evalSteps env scope steps s = evalSteps env scope' (replaceSteps σ steps) s
  | [], s => by rw [replaceSteps, evalSteps, evalSteps]
  | step :: r, s => by
    have hstep := fun f => evalStep_replace (h.withFocus f) step
    rw [replaceSteps, evalSteps, evalSteps]
    simp only [hstep, evalSteps_replace h r]

theorem evalStep_replace {σ : Constants} {scope scope' : Scope}
    (h : Scope.Sets σ scope scope') : ∀ step : Step,
    evalStep env scope step = evalStep env scope' (step.replace σ)
  | .expr e => by rw [Step.replace, evalStep, evalStep, eval_replace h e]
  | .axis axis test ps => by
    rw [Step.replace, evalStep, evalStep, h.contextItem]
    simp only [evalPredicates_replace h ps]

theorem evalFor_replace {σ : Constants} {scope scope' : Scope}
    (h : Scope.Sets σ scope scope') : ∀ (bs : List Binding) (body body' : Scope → Result Sequence),
    (∀ inner inner', Scope.Sets (σ.withoutBound bs) inner inner' → body inner = body' inner') →
    evalFor env scope bs body = evalFor env scope' (replaceBindings σ bs) body'
  | [], body, body', hbody => by
    rw [replaceBindings, evalFor, evalFor]
    exact hbody scope scope' h
  | .mk q e :: r, body, body', hbody => by
    have hr := fun item => evalFor_replace (h.bind q [item]) r body body' hbody
    rw [replaceBindings, evalFor, evalFor, eval_replace h e]
    simp only [hr]

theorem evalLet_replace {σ : Constants} {scope scope' : Scope}
    (h : Scope.Sets σ scope scope') : ∀ (bs : List Binding) (body body' : Scope → Result Sequence),
    (∀ inner inner', Scope.Sets (σ.withoutBound bs) inner inner' → body inner = body' inner') →
    evalLet env scope bs body = evalLet env scope' (replaceBindings σ bs) body'
  | [], body, body', hbody => by
    rw [replaceBindings, evalLet, evalLet]
    exact hbody scope scope' h
  | .mk q e :: r, body, body', hbody => by
    have hr := fun value => evalLet_replace (h.bind q value) r body body' hbody
    rw [replaceBindings, evalLet, evalLet, eval_replace h e]
    simp only [hr]

theorem evalQuantified_replace {σ : Constants} {scope scope' : Scope}
    (h : Scope.Sets σ scope scope') (q : Quantifier) :
    ∀ (bs : List Binding) (condition condition' : Scope → Result Bool),
    (∀ inner inner', Scope.Sets (σ.withoutBound bs) inner inner' →
      condition inner = condition' inner') →
    evalQuantified env scope q bs condition =
      evalQuantified env scope' q (replaceBindings σ bs) condition'
  | [], condition, condition', hcondition => by
    rw [replaceBindings, evalQuantified, evalQuantified]
    exact hcondition scope scope' h
  | .mk v e :: r, condition, condition', hcondition => by
    have hr := fun item => evalQuantified_replace (h.bind v [item]) q r condition condition'
      hcondition
    rw [replaceBindings, evalQuantified, evalQuantified, eval_replace h e]
    simp only [hr]

theorem evalCases_replace {σ : Constants} {scope scope' : Scope}
    (h : Scope.Sets σ scope scope') (value : Sequence) :
    ∀ (cases : List Case) (otherwise otherwise' : Unit → Result Sequence),
    otherwise () = otherwise' () →
    evalCases env scope value cases otherwise =
      evalCases env scope' value (replaceCases σ cases) otherwise'
  | [], otherwise, otherwise', hother => by
    rw [replaceCases, evalCases, evalCases]
    exact hother
  | .mk v t e :: r, otherwise, otherwise', hother => by
    rw [replaceCases]
    unfold evalCases
    refine ite_congr rfl (fun _ => ?_) fun _ => evalCases_replace h value r _ _ hother
    cases v with
    | none => exact eval_replace h e
    | some q => exact eval_replace (h.bind q value) e

end

/-- A variable that is set to a constant may be replaced by it: the value, or the error, is that of
the expression with the constant in the place of all free references to the variable. -/
theorem eval_let_literal (scope : Scope) (x : QName) (l : Literal) (e : Expr) :
    (Expr.letIn [.mk x (.literal l)] e).eval env scope =
      (e.replace (.single x.expanded l)).eval env scope := by
  rw [Expr.eval, evalLet, Expr.eval]
  show evalLet env (scope.bind x l.value) [] (fun inner => e.eval env inner) = _
  rw [evalLet]
  exact eval_replace env (scope.sets_single x l) e

/-- In `for $x in $x return $x` only the range of the variable is a reference from outside. -/
example : let x : QName := .unqualified "x"
    (Expr.forEach [.mk x (.var x)] (.var x)).replace (.single x.expanded (.integer 1)) =
      .forEach [.mk x (.literal (.integer 1))] (.var x) := rfl

end Evaluation

end XPath
