import XPath.Proofs.Result
import XPath.Proofs.Scope
import XPath.Query

/-!
# Binding resolves expressions

What binding accepts is resolved in every scope that has the local variables of the binding: a
variable is in the scope or declared, a call has a signature and so a function, and the target of a
cast is known.  The proof follows the binding of the expression.
-/

namespace XPath

/-! ## 1. Names -/

/-- The context and the environment of a query that is bound to it, where the functions are those
of the library. -/
structure StaticContext.Prepares (c : StaticContext) (env : Environment) : Prop where
  signatures : c.signatures = Library.signatures
  sameSignatures : env.static.signatures = Library.signatures
  functions : env.functions = Library.functions
  declared : ∀ name, (c.variableType? name).isSome = true →
    (env.static.variableType? name).isSome = true

/-- The name stands for `fn:error` where a function is called. -/
def StaticContext.NamesError (c : StaticContext) (q : QName) : Prop :=
  ∃ b, c.bindName .function q = .ok b ∧ b.expanded = Library.errorName

section Names

variable {c : StaticContext} {env : Environment} {scope : Scope}

theorem resolvesVariable_of_bindVariable (hc : c.Prepares env) {q q' : QName}
    (h : c.bindVariable scope.names q = .ok q') : env.ResolvesVariable scope q' := by
  unfold StaticContext.bindVariable at h
  rcases bind_eq_ok.mp h with ⟨b, -, h⟩
  by_cases hknown :
      (scope.names.contains b.expanded || (c.variableType? b.expanded).isSome) = true
  -- a variable is accepted where it is local, or else where it is declared
  · rw [if_pos hknown] at h
    cases h
    rw [Bool.or_eq_true, List.contains_iff_mem] at hknown
    rcases hknown with hlocal | hdeclared
    · exact .inl ((scope.lookup_isSome_iff q'.expanded).mpr hlocal)
    · exact .inr (.inr (hc.declared _ hdeclared))
  · rw [if_neg hknown] at h
    cases h

theorem resolvesCall_of_forCall (hc : c.Prepares env) {q q' : QName} {n : Nat} {s : Signature}
    (herror : ¬ c.NamesError q) (hq : c.bindName .function q = .ok q')
    (hs : c.signatures.forCall q'.expanded n = .ok s) : env.ResolvesCall q' n := by
  refine ⟨fun he => herror ⟨q', hq, he⟩, ⟨s, ?_⟩, ?_⟩
  · rw [hc.sameSignatures, ← hc.signatures]
    exact hs
  -- signatures and functions come from one table
  · rw [hc.signatures] at hs
    rw [hc.functions]
    exact Library.mostSpecific_of_forCall hs

theorem known_of_bindCastTarget {t t' : CastTarget} (h : c.bindCastTarget t = .ok t') :
    t'.Known := by
  unfold StaticContext.bindCastTarget at h
  rcases bind_eq_ok.mp h with ⟨⟨b, type⟩, hb, h⟩
  unfold StaticContext.bindAtomicType at hb
  rcases bind_eq_ok.mp hb with ⟨b', -, hb⟩
  cases htype : AtomicType.ofName? b'.expanded with
  | none =>
    rw [htype] at hb
    cases hb
  | some type' =>
    rw [htype] at hb
    cases hb
    -- only the abstract root of the types is refused as a target
    by_cases htarget : type.isCastTarget = true
    · simp only [htarget, if_true] at h
      cases h
      refine ⟨type, ?_, by simpa [AtomicType.isCastTarget] using htarget⟩
      simp only [CastTarget.atomicType, htype]
    · simp only [htarget] at h
      cases h

theorem names_bind?_of_bindOptionalVariable {v v' : Option QName} {inner : List ExpandedName}
    (h : c.bindOptionalVariable scope.names v = .ok (v', inner)) (value : Sequence) :
    (scope.bind? v' value).names = inner := by
  cases v with
  | none =>
    cases h
    rfl
  | some q =>
    unfold StaticContext.bindOptionalVariable at h
    rcases bind_eq_ok.mp h with ⟨b, -, h⟩
    cases h
    rfl

end Names

/-! ## 2. Expressions -/

theorem length_of_bindExprs {c : StaticContext} {locals : List ExpandedName} {es es' : List Expr}
    (h : c.bindExprs locals es = .ok es') : es'.length = es.length := by
  induction es generalizing es' with
  | nil =>
    rw [StaticContext.bindExprs] at h
    cases h
    rfl
  | cons e r ih =>
    rw [StaticContext.bindExprs] at h
    rcases map₂_eq_ok.mp h with ⟨e', r', -, hr, rfl⟩
    rw [List.length_cons, List.length_cons, ih hr]

section Expressions

variable {c : StaticContext} {env : Environment} (hc : c.Prepares env)

include hc

-- the theorems use the assumption through each other
set_option linter.unusedSectionVars false

mutual

theorem resolved_of_bindExpr (scope : Scope) : ∀ (e e' : Expr),
    (∀ q ∈ e.calls, ¬ c.NamesError q) → c.bindExpr scope.names e = .ok e' →
    e'.Resolved env scope
  | .literal _, e', _, h | .contextItem, e', _, h => by
    rw [StaticContext.bindExpr] at h
    cases h
    exact trivial
  | .var q, e', _, h => by
    rw [StaticContext.bindExpr] at h
    rcases map_eq_ok.mp h with ⟨q', hq, rfl⟩
    exact resolvesVariable_of_bindVariable hc hq
  | .call q args, e', hcalls, h => by
    rw [Expr.calls, List.forall_mem_cons] at hcalls
    rw [StaticContext.bindExpr] at h
    rcases bind_eq_ok.mp h with ⟨q', hq, h⟩
    rcases bind_eq_ok.mp h with ⟨s, hs, h⟩
    rcases map_eq_ok.mp h with ⟨args', hargs, rfl⟩
    -- binding keeps the number of arguments, so the signature that was found is for the bound call
    have hall := resolved_of_bindExprs scope args args' hcalls.2 hargs
    have hlen := length_of_bindExprs hargs
    refine ⟨?_, hall⟩
    rw [hlen]
    exact resolvesCall_of_forCall hc hcalls.1 hq hs
  | .sequence items, e', hcalls, h => by
    rw [Expr.calls] at hcalls
    rw [StaticContext.bindExpr] at h
    rcases map_eq_ok.mp h with ⟨items', hitems, rfl⟩
    exact resolved_of_bindExprs scope items items' hcalls hitems
  | .range a b, e', hcalls, h | .and a b, e', hcalls, h | .or a b, e', hcalls, h
  | .arithmetic _ a b, e', hcalls, h | .generalComparison _ a b, e', hcalls, h
  | .valueComparison _ a b, e', hcalls, h | .nodeComparison _ a b, e', hcalls, h
  | .setOperation _ a b, e', hcalls, h => by
    rw [Expr.calls, List.forall_mem_append] at hcalls
    rw [StaticContext.bindExpr] at h
    rcases map₂_eq_ok.mp h with ⟨a', b', ha, hb, rfl⟩
    exact ⟨resolved_of_bindExpr scope a a' hcalls.1 ha,
      resolved_of_bindExpr scope b b' hcalls.2 hb⟩
  | .signed sign a, e', hcalls, h => by
    rw [Expr.calls] at hcalls
    rw [StaticContext.bindExpr] at h
    rcases map_eq_ok.mp h with ⟨a', ha, rfl⟩
    exact resolved_of_bindExpr scope a a' hcalls ha
  | .path start steps, e', hcalls, h => by
    rw [Expr.calls] at hcalls
    rw [StaticContext.bindExpr] at h
    rcases map_eq_ok.mp h with ⟨steps', hsteps, rfl⟩
    exact resolved_of_bindSteps scope steps steps' hcalls hsteps
  | .filter a ps, e', hcalls, h => by
    rw [Expr.calls, List.forall_mem_append] at hcalls
    rw [StaticContext.bindExpr] at h
    rcases map₂_eq_ok.mp h with ⟨a', ps', ha, hps, rfl⟩
    exact ⟨resolved_of_bindExpr scope a a' hcalls.1 ha,
      fun f => resolved_of_bindExprs (scope.refocus f) ps ps' hcalls.2 hps⟩
  | .ifThenElse a b d, e', hcalls, h => by
    rw [Expr.calls, List.forall_mem_append, List.forall_mem_append] at hcalls
    rw [StaticContext.bindExpr] at h
    rcases bind_eq_ok.mp h with ⟨a', ha, h⟩
    rcases map₂_eq_ok.mp h with ⟨b', d', hb, hd, rfl⟩
    exact ⟨resolved_of_bindExpr scope a a' hcalls.1.1 ha,
      resolved_of_bindExpr scope b b' hcalls.1.2 hb, resolved_of_bindExpr scope d d' hcalls.2 hd⟩
  | .forEach bs e, e', hcalls, h | .letIn bs e, e', hcalls, h
  | .quantified _ bs e, e', hcalls, h => by
    rw [Expr.calls, List.forall_mem_append] at hcalls
    rw [StaticContext.bindExpr] at h
    rcases bind_eq_ok.mp h with ⟨⟨bs', inner⟩, hbs, h⟩
    rcases map_eq_ok.mp h with ⟨body, hbody, rfl⟩
    -- the body is bound with the names of all variables, and evaluated in scopes of these names
    exact resolved_of_bindBindings scope bs bs' inner _ hcalls.1 hbs fun s hs =>
      resolved_of_bindExpr s e body hcalls.2 (by rw [hs]; exact hbody)
  | .instanceOf a t, e', hcalls, h | .treatAs a t, e', hcalls, h => by
    rw [Expr.calls] at hcalls
    rw [StaticContext.bindExpr] at h
    rcases map₂_eq_ok.mp h with ⟨a', t', ha, -, rfl⟩
    exact resolved_of_bindExpr scope a a' hcalls ha
  | .castAs a t, e', hcalls, h | .castableAs a t, e', hcalls, h => by
    rw [Expr.calls] at hcalls
    rw [StaticContext.bindExpr] at h
    rcases map₂_eq_ok.mp h with ⟨a', t', ha, ht, rfl⟩
    exact ⟨known_of_bindCastTarget ht, resolved_of_bindExpr scope a a' hcalls ha⟩
  | .typeswitch a cases v d, e', hcalls, h => by
    rw [Expr.calls, List.forall_mem_append, List.forall_mem_append] at hcalls
    rw [StaticContext.bindExpr] at h
    rcases bind_eq_ok.mp h with ⟨a', ha, h⟩
    rcases bind_eq_ok.mp h with ⟨cases', hcases, h⟩
    rcases bind_eq_ok.mp h with ⟨⟨v', inner⟩, hv, h⟩
    rcases map_eq_ok.mp h with ⟨d', hd, rfl⟩
    refine ⟨resolved_of_bindExpr scope a a' hcalls.1.1 ha,
      resolved_of_bindCases scope cases cases' hcalls.1.2 hcases, fun value => ?_⟩
    have hnames := names_bind?_of_bindOptionalVariable hv value
    exact resolved_of_bindExpr _ d d' hcalls.2 (by rw [hnames]; exact hd)
termination_by structural e => e

theorem resolved_of_bindExprs (scope : Scope) : ∀ (es es' : List Expr),
    (∀ q ∈ callsOfAll es, ¬ c.NamesError q) → c.bindExprs scope.names es = .ok es' →
    AllResolved env scope es'
  | [], es', _, h => by
    rw [StaticContext.bindExprs] at h
    cases h
    exact trivial
  | e :: r, es', hcalls, h => by
    rw [callsOfAll, List.forall_mem_append] at hcalls
    rw [StaticContext.bindExprs] at h
    rcases map₂_eq_ok.mp h with ⟨e', r', he, hr, rfl⟩
    exact ⟨resolved_of_bindExpr scope e e' hcalls.1 he,
      resolved_of_bindExprs scope r r' hcalls.2 hr⟩
termination_by structural es => es

theorem resolved_of_bindSteps (scope : Scope) : ∀ (steps steps' : List Step),
    (∀ q ∈ callsOfSteps steps, ¬ c.NamesError q) → c.bindSteps scope.names steps = .ok steps' →
    StepsResolved env scope steps'
  | [], steps', _, h => by
    rw [StaticContext.bindSteps] at h
    cases h
    exact trivial
  | .axis axis test ps :: r, steps', hcalls, h => by
    rw [callsOfSteps, List.forall_mem_append] at hcalls
    rw [StaticContext.bindSteps] at h
    rcases bind_eq_ok.mp h with ⟨test', -, h⟩
    rcases map₂_eq_ok.mp h with ⟨ps', r', hps, hr, rfl⟩
    exact ⟨fun f f' => resolved_of_bindExprs ((scope.refocus f).refocus f') ps ps' hcalls.1 hps,
      resolved_of_bindSteps scope r r' hcalls.2 hr⟩
  | .expr e :: r, steps', hcalls, h => by
    rw [callsOfSteps, List.forall_mem_append] at hcalls
    rw [StaticContext.bindSteps] at h
    rcases map₂_eq_ok.mp h with ⟨e', r', he, hr, rfl⟩
    exact ⟨fun f => resolved_of_bindExpr (scope.refocus f) e e' hcalls.1 he,
      resolved_of_bindSteps scope r r' hcalls.2 hr⟩
termination_by structural steps => steps

theorem resolved_of_bindBindings (scope : Scope) : ∀ (bs bs' : List Binding)
    (inner : List ExpandedName) (body : Scope → Prop),
    (∀ q ∈ callsOfBindings bs, ¬ c.NamesError q) →
    c.bindBindings scope.names bs = .ok (bs', inner) →
    (∀ s : Scope, s.names = inner → body s) → BindingsResolved env scope bs' body
  | [], bs', inner, body, _, h, hbody => by
    rw [StaticContext.bindBindings] at h
    cases h
    exact hbody scope rfl
  | .mk q e :: r, bs', inner, body, hcalls, h, hbody => by
    rw [callsOfBindings, List.forall_mem_append] at hcalls
    rw [StaticContext.bindBindings] at h
    rcases bind_eq_ok.mp h with ⟨e', he, h⟩
    rcases bind_eq_ok.mp h with ⟨q', -, h⟩
    rcases map_eq_ok.mp h with ⟨⟨r', inner'⟩, hr, hpair⟩
    cases hpair
    -- whatever the value of the variable, its name is in scope for the remaining ones
    exact ⟨resolved_of_bindExpr scope e e' hcalls.1 he, fun value =>
      resolved_of_bindBindings (scope.bind q' value) r r' inner' body hcalls.2 hr hbody⟩
termination_by structural bs => bs

theorem resolved_of_bindCases (scope : Scope) : ∀ (cases cases' : List Case),
    (∀ q ∈ callsOfCases cases, ¬ c.NamesError q) → c.bindCases scope.names cases = .ok cases' →
    CasesResolved env scope cases'
  | [], cases', _, h => by
    rw [StaticContext.bindCases] at h
    cases h
    exact trivial
  | .mk v t e :: r, cases', hcalls, h => by
    rw [callsOfCases, List.forall_mem_append] at hcalls
    rw [StaticContext.bindCases] at h
    rcases bind_eq_ok.mp h with ⟨t', -, h⟩
    rcases bind_eq_ok.mp h with ⟨⟨v', inner⟩, hv, h⟩
    rcases map₂_eq_ok.mp h with ⟨e', r', he, hr, rfl⟩
    refine ⟨fun value => ?_, resolved_of_bindCases scope r r' hcalls.2 hr⟩
    have hnames := names_bind?_of_bindOptionalVariable hv value
    exact resolved_of_bindExpr _ e e' hcalls.1 (by rw [hnames]; exact he)
termination_by structural cases => cases

end

end Expressions

end XPath
