import XPath.Bind
import XPath.Eval
import XPath.Proofs.Resolution

/-!
# Bound expressions are resolved

Evaluation may come across every subexpression in any focus and with any values of the variables
that the expressions around it bind.  An expression is resolved if there every variable is known,
every call has a signature and a function, and every target of a cast is a type that can be cast
to.  Binding an expression resolves it: the list of local variables that binding carries along is
the list of names in the scope of the evaluation.
-/

namespace XPath

/-! ## 1. Scopes -/

namespace Scope

/-- The scope with another focus, or with none. -/
def refocus (s : Scope) (f : Option Focus) : Scope := { s with focus := f }

/-- The scope with a local variable that may have been left out. -/
def bind? (s : Scope) (name : Option QName) (value : Sequence) : Scope :=
  match name with
  | some q => s.bind q value
  | none => s

/-- The names of the local variables. -/
def names (s : Scope) : List ExpandedName := s.locals.map (·.1)

theorem lookup_isSome_iff (s : Scope) (name : ExpandedName) :
    (s.locals.lookup name).isSome = true ↔ name ∈ s.names := by
  rw [names]
  induction s.locals with
  | nil => simp
  | cons l r ih =>
    rcases l with ⟨name', value⟩
    rw [List.lookup_cons, List.map_cons, List.mem_cons]
    -- the first local variable has the name, or the search goes on
    by_cases h : name = name'
    · simp [h]
    · rw [beq_eq_false_iff_ne.mpr h]
      simp only [ih, h, false_or]

end Scope

/-! ## 2. Resolved expressions -/

namespace Environment

variable (env : Environment)

/-- The variable is local, or it has a value in the dynamic context, or it is declared. -/
def ResolvesVariable (scope : Scope) (q : QName) : Prop :=
  (scope.locals.lookup q.expanded).isSome = true ∨ (env.dynamic.value? q.expanded).isSome = true ∨
    (env.static.variableType? q.expanded).isSome = true

/-- There are a signature and a function for a call with `n` arguments, which is not one of
`fn:error`. -/
def ResolvesCall (q : QName) (n : Nat) : Prop :=
  q.expanded ≠ Library.errorName ∧ (∃ s, env.static.signatures.forCall q.expanded n = .ok s) ∧
    ∃ f, env.functions.mostSpecific q.expanded n = .ok f

end Environment

/-- The target of a cast is an atomic type that values can be cast to. -/
def CastTarget.Known (t : CastTarget) : Prop :=
  ∃ type, t.atomicType = .ok type ∧ type ≠ .anyAtomic

section Resolved

variable (env : Environment)

mutual

/-- All names that the evaluation of an expression in a scope may come across are resolved. -/
def Expr.Resolved (scope : Scope) : Expr → Prop
  | .literal _ | .contextItem => True
  | .var q => env.ResolvesVariable scope q
  | .call q args => env.ResolvesCall q args.length ∧ AllResolved scope args
  | .sequence items => AllResolved scope items
  | .range a b | .and a b | .or a b => a.Resolved scope ∧ b.Resolved scope
  | .arithmetic _ a b | .generalComparison _ a b | .valueComparison _ a b
  | .nodeComparison _ a b | .setOperation _ a b => a.Resolved scope ∧ b.Resolved scope
  | .signed _ a | .instanceOf a _ | .treatAs a _ => a.Resolved scope
  | .path _ steps => StepsResolved scope steps
  | .filter a ps => a.Resolved scope ∧ ∀ f, AllResolved (scope.refocus f) ps
  | .ifThenElse a b c => a.Resolved scope ∧ b.Resolved scope ∧ c.Resolved scope
  | .forEach bs e | .letIn bs e | .quantified _ bs e =>
    BindingsResolved scope bs fun inner => e.Resolved inner
  | .castAs e t | .castableAs e t => t.Known ∧ e.Resolved scope
  | .typeswitch e cases v d =>
    e.Resolved scope ∧ CasesResolved scope cases ∧ ∀ value, d.Resolved (scope.bind? v value)

/-- All expressions of a list are resolved. -/
def AllResolved (scope : Scope) : List Expr → Prop
  | [] => True
  | e :: r => e.Resolved scope ∧ AllResolved scope r

/-- The steps of a path are resolved, whatever they are taken from. -/
def StepsResolved (scope : Scope) : List Step → Prop
  | [] => True
  | step :: r => (∀ f, step.Resolved (scope.refocus f)) ∧ StepsResolved scope r

/-- A step is resolved, with its predicates in any focus. -/
def Step.Resolved (scope : Scope) : Step → Prop
  | .expr e => e.Resolved scope
  | .axis _ _ ps => ∀ f, AllResolved (scope.refocus f) ps

/-- The expressions of the variables are resolved, and the body is, with any values of them. -/
def BindingsResolved (scope : Scope) : List Binding → (Scope → Prop) → Prop
  | [], body => body scope
  | .mk q e :: r, body => e.Resolved scope ∧ ∀ value, BindingsResolved (scope.bind q value) r body

/-- The cases of a typeswitch are resolved, with any value of the operand. -/
def CasesResolved (scope : Scope) : List Case → Prop
  | [] => True
  | .mk v _ e :: r => (∀ value, e.Resolved (scope.bind? v value)) ∧ CasesResolved scope r

end

end Resolved

/-! ## 3. The calls of an expression -/

mutual

/-- The names of all functions that an expression calls. -/
def Expr.calls : Expr → List QName
  | .literal _ | .contextItem | .var _ => []
  | .call q args => q :: callsOfAll args
  | .sequence items => callsOfAll items
  | .range a b | .and a b | .or a b => a.calls ++ b.calls
  | .arithmetic _ a b | .generalComparison _ a b | .valueComparison _ a b
  | .nodeComparison _ a b | .setOperation _ a b => a.calls ++ b.calls
  | .signed _ a | .instanceOf a _ | .treatAs a _ | .castAs a _ | .castableAs a _ => a.calls
  | .path _ steps => callsOfSteps steps
  | .filter a ps => a.calls ++ callsOfAll ps
  | .ifThenElse a b c => a.calls ++ b.calls ++ c.calls
  | .forEach bs e | .letIn bs e | .quantified _ bs e => callsOfBindings bs ++ e.calls
  | .typeswitch e cases _ d => e.calls ++ callsOfCases cases ++ d.calls

def callsOfAll : List Expr → List QName
  | [] => []
  | e :: r => e.calls ++ callsOfAll r

def callsOfSteps : List Step → List QName
  | [] => []
  | .expr e :: r => e.calls ++ callsOfSteps r
  | .axis _ _ ps :: r => callsOfAll ps ++ callsOfSteps r

def callsOfBindings : List Binding → List QName
  | [] => []
  | .mk _ e :: r => e.calls ++ callsOfBindings r

def callsOfCases : List Case → List QName
  | [] => []
  | .mk _ _ e :: r => e.calls ++ callsOfCases r

end

end XPath
