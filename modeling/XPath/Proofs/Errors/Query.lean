import XPath.Proofs.Binding
import XPath.Proofs.Errors.Evaluation

/-!
# Queries raise no static errors

A query that is bound to the signatures of the library and evaluated with its functions gives a
value, or an error that is not static.  Binding resolves the expression in the initial scope, and
the evaluation of resolved expressions raises no static errors.
-/

namespace XPath

/-! ## 1. Declared variables -/

namespace StaticContext

variable {c c' : StaticContext}

/-- Binding the types of the variables keeps their names. -/
theorem bindVariableTypes_isSome (h : c.bindVariableTypes = .ok c') (name : ExpandedName) :
    (c'.variableType? name).isSome = (c.variableType? name).isSome := by
  have hlookup : ∀ l l' : List (ExpandedName × SequenceType),
      l.mapM (fun x => do return (x.1, ← c.bindSequenceType x.2)) = .ok l' →
      (l'.lookup name).isSome = (l.lookup name).isSome := by
    intro l
    induction l with
    | nil =>
      intro l' hl
      cases hl
      rfl
    | cons x l ih =>
      intro l' hl
      rw [List.mapM_cons] at hl
      -- the entry keeps its name, only its type is bound
      rcases map₂_eq_ok.mp hl with ⟨y, r, hy, hr, rfl⟩
      rcases map_eq_ok.mp hy with ⟨type, -, rfl⟩
      rw [List.lookup_cons, List.lookup_cons]
      cases name == x.1 with
      | true => rfl
      | false => exact ih r hr
  unfold bindVariableTypes at h
  rcases map_eq_ok.mp h with ⟨types, htypes, rfl⟩
  exact hlookup _ _ htypes

theorem bindVariableTypes_signatures (h : c.bindVariableTypes = .ok c') :
    c'.signatures = c.signatures := by
  unfold bindVariableTypes at h
  rcases map_eq_ok.mp h with ⟨types, -, rfl⟩
  rfl

end StaticContext

namespace Query

variable {c : StaticContext} {d : DynamicContext} {e : Expr} {q : Query} {env : Environment}

theorem notStatic_defaultCollation : NotStatic (defaultCollation c d) := by
  unfold defaultCollation
  split
  · exact notStatic_ok _
  · split <;> simp

theorem notStatic_checkVariables : NotStatic (checkVariables c d) := by
  apply notStatic_forM
  intro ⟨name, type⟩ _
  dsimp only
  cases d.value? name with
  | none => exact notStatic_ok _
  | some value => simp [Error.variableType]

/-! ## 2. Environments of queries -/

theorem environment_eq_ok {functions : Functions} (h : q.environment d functions = .ok env) :
    env.static = q.context ∧ env.dynamic = d ∧ env.functions = functions := by
  unfold environment at h
  rcases map_eq_ok.mp h with ⟨collation, -, rfl⟩
  exact ⟨rfl, rfl, rfl⟩

/-- The context that an expression is bound to prepares all environments of the query. -/
theorem prepares_of_ofExpr (hsig : c.signatures = Library.signatures) (hq : ofExpr e c = .ok q)
    (henv : q.environment d Library.functions = .ok env) : c.Prepares env := by
  unfold ofExpr at hq
  rcases map₂_eq_ok.mp hq with ⟨bound, c', -, hc', rfl⟩
  have heq := environment_eq_ok henv
  refine ⟨hsig, ?_, heq.2.2, fun name hname => ?_⟩
  · rw [heq.1, StaticContext.bindVariableTypes_signatures hc', hsig]
  · rw [heq.1, StaticContext.bindVariableTypes_isSome hc']
    exact hname

theorem resolved_of_ofExpr (hsig : c.signatures = Library.signatures)
    (hcalls : ∀ n ∈ e.calls, ¬ c.NamesError n) (hq : ofExpr e c = .ok q)
    (henv : q.environment d Library.functions = .ok env) :
    q.expr.Resolved env (initialScope d) := by
  have hc := prepares_of_ofExpr hsig hq henv
  unfold ofExpr at hq
  rcases map₂_eq_ok.mp hq with ⟨bound, c', hbound, -, rfl⟩
  exact resolved_of_bindExpr hc (initialScope d) e bound hcalls hbound

/-! ## 3. Evaluation of queries -/

theorem ofLibrary_of_ofExpr (hsig : c.signatures = Library.signatures)
    (hhost : d.HostNotStatic) (hq : ofExpr e c = .ok q)
    (henv : q.environment d Library.functions = .ok env) : env.OfLibrary := by
  have hc := prepares_of_ofExpr hsig hq henv
  have heq := environment_eq_ok henv
  exact ⟨hc.sameSignatures, hc.functions, by rw [heq.2.1]; exact hhost⟩

/-- A query whose expression does not call `fn:error` is evaluated to a sequence, or fails with a
type error or a dynamic error.  All variables, calls and targets of casts that the evaluation may
come across are resolved.  There are no documents, and the host's operations with regular
expressions, if it has its own, are trusted not to raise static errors; those over an engine do not
(`RegexEngine.raisesNoStatic_provider`). -/
theorem evaluate_notStatic (hsig : c.signatures = Library.signatures)
    (hdocuments : d.documents = {}) (hregex : d.regex.RaisesNoStatic)
    (hcalls : ∀ n ∈ e.calls, ¬ c.NamesError n) (hq : ofExpr e c = .ok q) :
    ((∃ s, q.evaluate d Library.functions = .ok s) ∨
      ∃ x, q.evaluate d Library.functions = .error x ∧ x.kind ≠ .static) ∧
    ∀ env, q.environment d Library.functions = .ok env →
      q.expr.Resolved env (initialScope d) := by
  have hresolved : ∀ env, q.environment d Library.functions = .ok env →
      q.expr.Resolved env (initialScope d) :=
    fun env henv => resolved_of_ofExpr hsig hcalls hq henv
  have heval : NotStatic (q.evaluate d Library.functions) := by
    unfold evaluate
    rw [notStatic_bind]
    refine ⟨?_, fun env henv => ?_⟩
    -- the collation may be missing, which is a dynamic error
    · unfold environment
      rw [notStatic_bind]
      exact ⟨notStatic_defaultCollation, fun _ _ => notStatic_pure _⟩
    · rw [notStatic_bind]
      have hlib := ofLibrary_of_ofExpr hsig ⟨hdocuments, hregex⟩ hq henv
      exact ⟨notStatic_checkVariables, fun _ _ =>
        notStatic_eval hlib (initialScope d) q.expr (hresolved env henv)⟩
  refine ⟨?_, hresolved⟩
  cases hresult : q.evaluate d Library.functions with
  | ok s => exact .inl ⟨s, rfl⟩
  | error x => exact .inr ⟨x, rfl, heval x hresult⟩

/-- The expression `for $x in (1, 2) return count($x) cast as xs:string`. -/
def sampleExpr : Expr :=
  .forEach [.mk (.unqualified "x") (.sequence [.literal (.integer 1), .literal (.integer 2)])]
    (.castAs (.call (.unqualified "count") [.var (.unqualified "x")])
      ⟨⟨some "xs", "string", none⟩, false⟩)

theorem evaluate_notStatic_sample :
    let c := StaticContext.initial Library.signatures
    let d := DynamicContext.initial ⟨⟨.epoch, .midnight⟩, some .utc⟩ .utc
    d.regex.RaisesNoStatic ∧ (∀ n ∈ sampleExpr.calls, ¬ c.NamesError n) ∧
      ∃ q, ofExpr sampleExpr c = .ok q ∧
      ((∃ s, q.evaluate d Library.functions = .ok s) ∨
        ∃ x, q.evaluate d Library.functions = .error x ∧ x.kind ≠ .static) ∧
      ∀ env, q.environment d Library.functions = .ok env →
        q.expr.Resolved env (initialScope d) := by
  have hcalls : ∀ n ∈ sampleExpr.calls,
      ¬ (StaticContext.initial Library.signatures).NamesError n := by
    intro n hn
    rw [show sampleExpr.calls = [.unqualified "count"] from rfl, List.mem_singleton] at hn
    intro h
    rcases h with ⟨b, hb, herror⟩
    rw [hn] at hb
    cases hb
    revert herror
    decide
  have hregex := RegexEngine.backtracking.raisesNoStatic_provider
  exact ⟨hregex, hcalls, _, rfl, evaluate_notStatic rfl rfl hregex hcalls rfl⟩

end Query

end XPath
