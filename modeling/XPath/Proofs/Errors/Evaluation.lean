import XPath.Proofs.Errors.Library
import XPath.Proofs.Result
import XPath.Proofs.Scope
import XPath.Query

/-!
# Evaluation raises no static errors

Operators, paths and calls fail with type errors and dynamic errors alone, once all names that they
come across are resolved.  The proof follows the evaluation: each expression is evaluated in a
scope in which it is resolved, and so are its parts in the scopes that it evaluates them in.
-/

namespace XPath

/-! ## 1. Operands and operators -/

section Operators

variable (s : Sequence) (scope : Scope)

@[simp] theorem notStatic_scope_contextItem : NotStatic scope.contextItem := by
  unfold Scope.contextItem
  split <;> simp [Error.noContextItem]

@[simp] theorem notStatic_single (message : String) : NotStatic (Operand.single message s) := by
  unfold Operand.single
  split <;> simp

@[simp] theorem notStatic_ofArithmetic (what : String) :
    NotStatic (Operand.ofArithmetic what s) := by
  unfold Operand.ofArithmetic
  rw [notStatic_bind]
  refine ⟨notStatic_single _ _, fun v _ => ?_⟩
  split
  · rw [notStatic_bind]
    exact ⟨notStatic_cast _ _ _ (by simp), fun _ _ => notStatic_pure _⟩
  · simp

@[simp] theorem notStatic_ofComparison : NotStatic (Operand.ofComparison s) := by
  unfold Operand.ofComparison
  rw [notStatic_bind]
  refine ⟨notStatic_single _ _, fun v _ => ?_⟩
  split <;> simp

@[simp] theorem notStatic_ofRange : NotStatic (Operand.ofRange s) := by
  unfold Operand.ofRange
  rw [notStatic_bind]
  refine ⟨notStatic_single _ _, fun v _ => ?_⟩
  split
  · rw [notStatic_bind]
    refine ⟨notStatic_cast _ _ _ (by simp), fun w _ => ?_⟩
    show NotStatic (_ >>= _)
    rw [notStatic_bind]
    refine ⟨notStatic_pure _, fun _ _ => ?_⟩
    dsimp only
    split <;> simp
  · show NotStatic (_ >>= _)
    rw [notStatic_bind]
    refine ⟨notStatic_pure _, fun _ _ => ?_⟩
    dsimp only
    split <;> simp

@[simp] theorem notStatic_ofNodeComparison : NotStatic (Operand.ofNodeComparison s) := by
  unfold Operand.ofNodeComparison
  rw [notStatic_bind]
  refine ⟨notStatic_atMostOne s _, fun i _ => ?_⟩
  split <;> simp

@[simp] theorem notStatic_ofSetOperation (op : SetOp) :
    NotStatic (Operand.ofSetOperation op s) := by
  apply notStatic_mapM
  intro i _
  cases i <;> simp

@[simp] theorem notStatic_nodeComparison (op : NodeComparison) (m n : Node) :
    NotStatic (op.apply m n) := by
  cases op <;> simp [NodeComparison.apply]

@[simp] theorem notStatic_setOperation (op : SetOp) (ms ns : List Node) :
    NotStatic (op.apply ms ns) := notStatic_node_sortDistinct _

@[simp] theorem notStatic_selects (position : Nat) : NotStatic (selects s position) := by
  unfold selects
  split <;> simp

@[simp] theorem notStatic_stepResult : NotStatic (stepResult s) := by
  simp [stepResult]

@[simp] theorem notStatic_documentOfContext (i : Item) : NotStatic (documentOfContext i) := by
  unfold documentOfContext
  split <;> simp

@[simp] theorem notStatic_stepOrigin (i : Item) : NotStatic (stepOrigin i) := by
  unfold stepOrigin
  split <;> simp

theorem notStatic_castSequence {type : AtomicType} (h : type ≠ .anyAtomic) (optional : Bool)
    (namespaces : Namespaces) : NotStatic (castSequence s type optional namespaces) := by
  unfold castSequence
  split
  · rename_i v _
    simp [notStatic_cast v type _ h]
  · simp
  · simp

theorem notStatic_forEachFocus {α : Type} {f : Focus → Result α} (h : ∀ x, NotStatic (f x)) :
    NotStatic (forEachFocus s f) :=
  notStatic_mapM fun _ _ => h _

end Operators

/-! ## 2. Calls and variables -/

/-- The environment has the signatures and the functions of the library, and a host that raises no
static errors. -/
structure Environment.OfLibrary (env : Environment) : Prop where
  signatures : env.static.signatures = Library.signatures
  functions : env.functions = Library.functions
  host : env.dynamic.HostNotStatic

namespace Environment

variable {env : Environment} {scope : Scope} {q : QName}

theorem notStatic_lookup (h : env.ResolvesVariable scope q) : NotStatic (env.lookup scope q) := by
  unfold lookup
  split
  · simp
  · rename_i hlocal
    split
    · simp
    · rename_i hvalue
      have hdeclared : (env.static.variableType? q.expanded).isSome = true := by
        rcases h with h | h | h
        · rw [hlocal] at h
          cases h
        · rw [hvalue] at h
          cases h
        · exact h
      rw [if_pos hdeclared]
      simp

/-- The signature converts the arguments, and the function is one of the library but `fn:error`. -/
theorem notStatic_call (h : env.OfLibrary) {args : List Sequence}
    (hq : env.ResolvesCall q args.length) : NotStatic (env.call scope q args) := by
  rcases hq with ⟨hname, ⟨s, hs⟩, ⟨⟨a, body⟩, hbody⟩⟩
  -- the signature is one of the library, so no parameter asks for a cast to the abstract root
  have hconvert : NotStatic (s.convertArguments args) := by
    rw [h.signatures, Signatures.forCall] at hs
    cases hfirst : Library.signatures.firstRegistered q.expanded args.length with
    | error e =>
      rw [hfirst] at hs
      cases hs
    | ok e =>
      rw [hfirst] at hs
      cases hs
      have hmem := (FunctionTable.mem_of_firstRegistered hfirst).1
      rcases Library.mem_signatures hmem with ⟨f, hf, hfs⟩
      show NotStatic (e.2.convertArguments args)
      rw [← hfs]
      exact notStatic_convertArguments args (Library.parameter_ne_anyAtomic hf)
  -- the function is one of the library with the name of the call
  have hcall : BodyNotStatic body := by
    rw [h.functions] at hbody
    rcases Library.mem_functions (FunctionTable.mem_of_mostSpecific hbody) with ⟨f, hf, hfn, hfb⟩
    rw [← hfb]
    exact Library.notStatic_table f hf (by rw [hfn]; exact hname)
  unfold call
  rw [hs]
  show NotStatic (s.convertArguments args >>= _)
  rw [notStatic_bind]
  refine ⟨hconvert, fun converted _ => ?_⟩
  rw [hbody]
  exact hcall _ converted h.host

end Environment

/-! ## 3. Expressions -/

theorem length_evalAll {env : Environment} {scope : Scope} {es : List Expr}
    {values : List Sequence} (h : evalAll env scope es = .ok values) :
    values.length = es.length := by
  induction es generalizing values with
  | nil =>
    rw [evalAll] at h
    cases h
    rfl
  | cons e r ih =>
    rw [evalAll] at h
    rcases map₂_eq_ok.mp h with ⟨v, vs, -, hr, rfl⟩
    rw [List.length_cons, List.length_cons, ih hr]

section Evaluation

variable {env : Environment} (hlib : env.OfLibrary)

include hlib

-- the theorems use the assumption through each other
set_option linter.unusedSectionVars false

mutual

theorem notStatic_eval (scope : Scope) : ∀ e : Expr, e.Resolved env scope →
    NotStatic (e.eval env scope)
  | .literal l, _ => by
    rw [Expr.eval]
    exact notStatic_ok _
  | .var q, h => by
    rw [Expr.eval]
    exact Environment.notStatic_lookup h
  | .contextItem, _ => by
    rw [Expr.eval]
    simp
  | .call q args, h => by
    have hargs := notStatic_evalAll scope args h.2
    rw [Expr.eval, notStatic_bind]
    refine ⟨hargs, fun values hvalues => ?_⟩
    -- the call was resolved for as many arguments as it has values
    have hlen := length_evalAll hvalues
    exact Environment.notStatic_call hlib (by rw [hlen]; exact h.1)
  | .sequence items, h => by
    have hitems := notStatic_evalAll scope items h
    rw [Expr.eval]
    simp [hitems]
  | .range a b, h => by
    have ha := notStatic_eval scope a h.1
    have hb := notStatic_eval scope b h.2
    rw [Expr.eval]
    simp only [notStatic_bind, ha, hb, notStatic_ofRange, true_and]
    intro _ _ i _ _ _ j _
    split <;> simp
  | .and a b, h => by
    have ha := notStatic_eval scope a h.1
    have hb := notStatic_eval scope b h.2
    rw [Expr.eval]
    simp [ha, hb]
  | .or a b, h => by
    have ha := notStatic_eval scope a h.1
    have hb := notStatic_eval scope b h.2
    rw [Expr.eval]
    simp [ha, hb]
  | .arithmetic op a b, h => by
    have ha := notStatic_eval scope a h.1
    have hb := notStatic_eval scope b h.2
    rw [Expr.eval]
    simp only [notStatic_bind, ha, hb, notStatic_ofArithmetic, true_and]
    intro _ _ v _ _ _ w _
    split <;> simp
  | .signed sign a, h => by
    have ha := notStatic_eval scope a h
    rw [Expr.eval]
    simp only [notStatic_bind, ha, notStatic_ofArithmetic, true_and]
    intro _ _ v _
    split <;> simp
  | .generalComparison op a b, h => by
    have ha := notStatic_eval scope a h.1
    have hb := notStatic_eval scope b h.2
    rw [Expr.eval]
    simp [ha, hb]
  | .valueComparison op a b, h => by
    have ha := notStatic_eval scope a h.1
    have hb := notStatic_eval scope b h.2
    rw [Expr.eval]
    simp only [notStatic_bind, ha, hb, notStatic_ofComparison, true_and]
    intro _ _ v _ _ _ w _
    split <;> simp
  | .nodeComparison op a b, h => by
    have ha := notStatic_eval scope a h.1
    have hb := notStatic_eval scope b h.2
    rw [Expr.eval]
    simp only [notStatic_bind, ha, hb, notStatic_ofNodeComparison, true_and]
    intro _ _ m _ _ _ n _
    split <;> simp
  | .path .relative [], _ => by
    rw [Expr.eval]
    exact notStatic_ok _
  | .path .relative (step :: r), h => by
    have hstep := notStatic_evalStep step scope (h.1 scope.focus)
    rw [Expr.eval, notStatic_bind]
    exact ⟨hstep, fun s _ => notStatic_evalSteps r scope s h.2⟩
  | .path .root steps, h => by
    have hsteps := fun s => notStatic_evalSteps steps scope s h
    rw [Expr.eval]
    simp [hsteps]
  | .path .rootDescendant steps, h => by
    have hsteps := fun s => notStatic_evalSteps steps scope s h
    rw [Expr.eval]
    simp [hsteps]
  | .filter a ps, h => by
    have ha := notStatic_eval scope a h.1
    have hps := fun s => notStatic_evalPredicates ps scope s h.2
    rw [Expr.eval]
    simp [ha, hps]
  | .ifThenElse a b c, h => by
    have ha := notStatic_eval scope a h.1
    have hb := notStatic_eval scope b h.2.1
    have hc := notStatic_eval scope c h.2.2
    rw [Expr.eval]
    simp [ha, hb, hc]
  | .forEach bs e, h => by
    rw [Expr.eval]
    exact notStatic_evalFor bs scope _ _ h fun inner he => notStatic_eval inner e he
  | .letIn bs e, h => by
    rw [Expr.eval]
    exact notStatic_evalLet bs scope _ _ h fun inner he => notStatic_eval inner e he
  | .quantified q bs e, h => by
    -- the condition is the truth of the body, in any scope that the bindings lead to
    have hcondition := notStatic_evalQuantified q bs scope _ (fun inner => do
      Sequence.truth (← e.eval env inner)) h fun inner he => by
        have hbody := notStatic_eval inner e he
        simp [hbody]
    rw [Expr.eval, notStatic_bind]
    exact ⟨hcondition, fun _ _ => notStatic_pure _⟩
  | .instanceOf a t, h => by
    have ha := notStatic_eval scope a h
    rw [Expr.eval]
    simp [ha]
  | .treatAs a t, h => by
    have ha := notStatic_eval scope a h
    rw [Expr.eval]
    simp [ha]
  | .castAs a t, h => by
    have ha := notStatic_eval scope a h.2
    -- the target was found when the expression was bound, and is not the abstract root
    rcases h.1 with ⟨type, htype, hne⟩
    have hcast := fun s => notStatic_castSequence s hne t.optional env.static.namespaces
    rw [Expr.eval, htype, notStatic_bind]
    refine ⟨notStatic_ok _, fun type' htype' => ?_⟩
    cases htype'
    simp [ha, hcast]
  | .castableAs a t, h => by
    have ha := notStatic_eval scope a h.2
    rcases h.1 with ⟨type, htype, -⟩
    rw [Expr.eval, htype]
    simp [ha]
  | .setOperation op a b, h => by
    have ha := notStatic_eval scope a h.1
    have hb := notStatic_eval scope b h.2
    rw [Expr.eval]
    simp [ha, hb]
  | .typeswitch a cases v d, h => by
    have ha := notStatic_eval scope a h.1
    rw [Expr.eval, notStatic_bind]
    refine ⟨ha, fun value _ => notStatic_evalCases cases scope value _ h.2.1 ?_⟩
    have hd := h.2.2 value
    cases v with
    | none => exact notStatic_eval scope d hd
    | some q => exact notStatic_eval (scope.bind q value) d hd

theorem notStatic_evalAll (scope : Scope) : ∀ es : List Expr, AllResolved env scope es →
    NotStatic (evalAll env scope es)
  | [], _ => by
    rw [evalAll]
    exact notStatic_ok _
  | e :: r, h => by
    have he := notStatic_eval scope e h.1
    have hr := notStatic_evalAll scope r h.2
    rw [evalAll]
    simp [he, hr]

theorem notStatic_evalPredicates : ∀ (ps : List Expr) (scope : Scope) (s : Sequence),
    (∀ f, AllResolved env (scope.refocus f) ps) → NotStatic (evalPredicates env scope ps s)
  | [], scope, s, _ => by
    rw [evalPredicates]
    exact notStatic_ok _
  | p :: ps, scope, s, h => by
    have hp := fun f => notStatic_eval (scope.refocus f) p (h f).1
    have hps := fun s => notStatic_evalPredicates ps scope s fun f => (h f).2
    -- each item is tried in its own focus, which leaves the local variables alone
    have hkept : NotStatic (forEachFocus s fun f => do
        return if ← selects (← p.eval env (scope.withFocus f)) f.position then [f.item] else []) :=
      notStatic_forEachFocus s fun f => by
        have hf : NotStatic (p.eval env (scope.withFocus f)) := hp (some f)
        simp [hf]
    unfold evalPredicates
    split
    · rename_i heq
      cases heq
    · rename_i i _ heq
      cases heq
      exact hps _
    · rename_i heq
      cases heq
      rw [notStatic_bind]
      exact ⟨hkept, fun kept _ => hps _⟩

theorem notStatic_evalSteps : ∀ (steps : List Step) (scope : Scope) (s : Sequence),
    StepsResolved env scope steps → NotStatic (evalSteps env scope steps s)
  | [], scope, s, _ => by
    rw [evalSteps]
    exact notStatic_ok _
  | step :: r, scope, s, h => by
    have hstep := fun f => notStatic_evalStep step (scope.refocus f) (h.1 f)
    have hr := fun s => notStatic_evalSteps r scope s h.2
    rw [evalSteps, notStatic_bind]
    refine ⟨notStatic_forEachFocus s fun f => ?_, fun results _ => ?_⟩
    · rw [notStatic_ite]
      exact ⟨fun _ => hstep (some f), fun _ => by simp⟩
    · simp [hr]

theorem notStatic_evalStep : ∀ (step : Step) (scope : Scope), step.Resolved env scope →
    NotStatic (evalStep env scope step)
  | .expr e, scope, h => by
    rw [evalStep]
    exact notStatic_eval scope e h
  | .axis axis test ps, scope, h => by
    have hps := fun s => notStatic_evalPredicates ps scope s h
    rw [evalStep]
    simp [hps]

theorem notStatic_evalFor : ∀ (bs : List Binding) (scope : Scope) (k : Scope → Prop)
    (body : Scope → Result Sequence), BindingsResolved env scope bs k →
    (∀ inner, k inner → NotStatic (body inner)) → NotStatic (evalFor env scope bs body)
  | [], scope, k, body, h, hbody => by
    rw [evalFor]
    exact hbody scope h
  | .mk q e :: r, scope, k, body, h, hbody => by
    have he := notStatic_eval scope e h.1
    rw [evalFor, notStatic_bind]
    refine ⟨he, fun s _ => ?_⟩
    have hitems := notStatic_mapM (l := s) fun item _ =>
      notStatic_evalFor r (scope.bind q [item]) k body (h.2 [item]) hbody
    simp [hitems]

theorem notStatic_evalLet : ∀ (bs : List Binding) (scope : Scope) (k : Scope → Prop)
    (body : Scope → Result Sequence), BindingsResolved env scope bs k →
    (∀ inner, k inner → NotStatic (body inner)) → NotStatic (evalLet env scope bs body)
  | [], scope, k, body, h, hbody => by
    rw [evalLet]
    exact hbody scope h
  | .mk q e :: r, scope, k, body, h, hbody => by
    have he := notStatic_eval scope e h.1
    rw [evalLet, notStatic_bind]
    exact ⟨he, fun s _ => notStatic_evalLet r (scope.bind q s) k body (h.2 s) hbody⟩

theorem notStatic_evalQuantified (q : Quantifier) : ∀ (bs : List Binding) (scope : Scope)
    (k : Scope → Prop) (condition : Scope → Result Bool), BindingsResolved env scope bs k →
    (∀ inner, k inner → NotStatic (condition inner)) →
    NotStatic (evalQuantified env scope q bs condition)
  | [], scope, k, condition, h, hcondition => by
    rw [evalQuantified]
    exact hcondition scope h
  | .mk v e :: r, scope, k, condition, h, hcondition => by
    have he := notStatic_eval scope e h.1
    have hr := fun item => notStatic_evalQuantified q r (scope.bind v [item]) k condition
      (h.2 [item]) hcondition
    rw [evalQuantified, notStatic_bind]
    refine ⟨he, fun s _ => ?_⟩
    cases q with
    | some => exact notStatic_anyM fun item _ => hr item
    | every => exact notStatic_allM fun item _ => hr item

theorem notStatic_evalCases : ∀ (cases : List Case) (scope : Scope) (value : Sequence)
    (otherwise : Unit → Result Sequence), CasesResolved env scope cases →
    NotStatic (otherwise ()) → NotStatic (evalCases env scope value cases otherwise)
  | [], scope, value, otherwise, _, h => by
    rw [evalCases]
    exact h
  | .mk v t e :: r, scope, value, otherwise, hcases, h => by
    have he := hcases.1 value
    have hr := notStatic_evalCases r scope value otherwise hcases.2 h
    unfold evalCases
    rw [notStatic_ite]
    refine ⟨fun _ => ?_, fun _ => hr⟩
    cases v with
    | none => exact notStatic_eval scope e he
    | some q => exact notStatic_eval (scope.bind q value) e he

end

end Evaluation

end XPath
