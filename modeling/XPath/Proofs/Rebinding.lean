import XPath.Proofs.Binding
import XPath.Proofs.Erasure

/-!
# Binding a bound expression

Binding gives a bound expression again as it is: the prefix of a bound name is still there and
stands for the same namespace, and a name without prefix keeps the namespace of its role.  A test
for all names in a namespace is different.  It has a prefix before binding and a namespace
afterwards, and binding does not tell the two apart; so the expressions here are those without such
a test.
-/

namespace XPath

/-! ## 1. Names -/

/-- There is no test for all names in a namespace. -/
def NoWildcard (l : List Mention) : Prop := ∀ p, .wildcard p ∉ l

theorem noWildcard_append {l l' : List Mention} :
    NoWildcard (l ++ l') ↔ NoWildcard l ∧ NoWildcard l' := by
  refine ⟨fun h => ⟨fun p hp => ?_, fun p hp => ?_⟩, fun h p hp => ?_⟩
  · exact h p (List.mem_append_left _ hp)
  · exact h p (List.mem_append_right _ hp)
  · rcases List.mem_append.mp hp with hp | hp
    · exact h.1 p hp
    · exact h.2 p hp

theorem noWildcard_name_cons {q : QName} {l : List Mention} :
    NoWildcard (.name q :: l) ↔ NoWildcard l := by
  refine ⟨fun h p hp => h p (List.mem_cons_of_mem _ hp), fun h p hp => ?_⟩
  rcases List.mem_cons.mp hp with hp | hp
  · cases hp
  · exact h p hp

section Names

variable {c : StaticContext} {q b : QName} {role : NameRole} {locals : List ExpandedName}

theorem bindName_again (h : c.bindName role q = .ok b) : c.bindName role b = .ok b := by
  unfold StaticContext.bindName at h
  cases hp : q.pre? with
  | some p =>
    rw [hp] at h
    rcases map_eq_ok.mp h with ⟨uri, huri, rfl⟩
    -- the prefix is looked up again, and the namespace that it had is put aside
    have hbound : ({ q with namespaceUri := some uri } : QName).pre? = some p := hp
    rw [StaticContext.bindName, hbound]
    exact map_eq_ok.mpr ⟨uri, huri, rfl⟩
  | none =>
    by_cases hns : q.namespaceUri.isSome = true
    · simp only [hp, hns, if_true] at h
      cases h
      rw [StaticContext.bindName, hp]
      exact if_pos hns
    · simp only [hp, hns] at h
      cases h
      have hbound : ({ q with namespaceUri := c.namespaceOfRole role } : QName).pre? = none := hp
      rw [StaticContext.bindName, hbound]
      -- a role may have no namespace, which is then asked for once more
      exact ite_self _

theorem bindVariable_again (h : c.bindVariable locals q = .ok b) :
    c.bindVariable locals b = .ok b := by
  unfold StaticContext.bindVariable at h
  rcases bind_eq_ok.mp h with ⟨b', hb, h⟩
  split at h
  · rename_i hknown
    cases h
    exact bind_eq_ok.mpr ⟨b, bindName_again hb, if_pos hknown⟩
  · cases h

theorem bindOptionalVariable_again {v v' : Option QName} {inner : List ExpandedName}
    (h : c.bindOptionalVariable locals v = .ok (v', inner)) :
    c.bindOptionalVariable locals v' = .ok (v', inner) := by
  cases v with
  | none =>
    cases h
    rfl
  | some q =>
    rcases map_eq_ok.mp h with ⟨b, hb, heq⟩
    cases heq
    exact map_eq_ok.mpr ⟨b, bindName_again hb, rfl⟩

/-! ## 2. Types and tests -/

theorem bindAnnotation_again (h : c.bindAnnotation q = .ok b) : c.bindAnnotation b = .ok b := by
  unfold StaticContext.bindAnnotation at h
  rcases bind_eq_ok.mp h with ⟨b', hb, h⟩
  dsimp only at h
  split at h
  · rename_i hknown
    cases h
    exact bind_eq_ok.mpr ⟨b, bindName_again hb, if_pos hknown⟩
  · cases h

theorem bindAtomicType_again {type : AtomicType} (h : c.bindAtomicType q = .ok (b, type)) :
    c.bindAtomicType b = .ok (b, type) := by
  unfold StaticContext.bindAtomicType at h
  rcases bind_eq_ok.mp h with ⟨b', hb, h⟩
  cases htype : AtomicType.ofName? b'.expanded with
  | none =>
    rw [htype] at h
    cases h
  | some type' =>
    rw [htype] at h
    cases h
    refine bind_eq_ok.mpr ⟨b, bindName_again hb, ?_⟩
    rw [htype]
    rfl

theorem bindCastTarget_again {t t' : CastTarget} (h : c.bindCastTarget t = .ok t') :
    c.bindCastTarget t' = .ok t' := by
  unfold StaticContext.bindCastTarget at h
  rcases bind_eq_ok.mp h with ⟨⟨b, type⟩, hb, h⟩
  dsimp only at h
  split at h
  · rename_i htarget
    cases h
    exact bind_eq_ok.mpr ⟨(b, type), bindAtomicType_again hb, if_pos htarget⟩
  · cases h

theorem bindTestedName_again {n n' : Option TestedName} (h : c.bindTestedName role n = .ok n') :
    c.bindTestedName role n' = .ok n' := by
  match n with
  | none | some .any =>
    cases h
    rfl
  | some (.name q) =>
    rcases map_eq_ok.mp h with ⟨b, hb, rfl⟩
    exact map_eq_ok.mpr ⟨b, bindName_again hb, rfl⟩

theorem bindTestedType_again {t t' : Option QName} (h : c.bindTestedType t = .ok t') :
    c.bindTestedType t' = .ok t' := by
  cases t with
  | none =>
    cases h
    rfl
  | some q =>
    rcases map_eq_ok.mp h with ⟨b, hb, rfl⟩
    exact map_eq_ok.mpr ⟨b, bindAnnotation_again hb, rfl⟩

theorem bindKindTest_again : ∀ {t t' : KindTest}, c.bindKindTest t = .ok t' →
    c.bindKindTest t' = .ok t'
  | .documentOf t, t', h => by
    rw [StaticContext.bindKindTest] at h
    rcases map_eq_ok.mp h with ⟨u, hu, rfl⟩
    rw [StaticContext.bindKindTest]
    exact map_eq_ok.mpr ⟨u, bindKindTest_again hu, rfl⟩
  | .element name type nillable, t', h => by
    rw [StaticContext.bindKindTest] at h
    rcases map₂_eq_ok.mp h with ⟨name', type', hname, htype, rfl⟩
    rw [StaticContext.bindKindTest]
    exact map₂_eq_ok.mpr
      ⟨name', type', bindTestedName_again hname, bindTestedType_again htype, rfl⟩
  | .attributeNode name type, t', h => by
    rw [StaticContext.bindKindTest] at h
    rcases map₂_eq_ok.mp h with ⟨name', type', hname, htype, rfl⟩
    rw [StaticContext.bindKindTest]
    exact map₂_eq_ok.mpr
      ⟨name', type', bindTestedName_again hname, bindTestedType_again htype, rfl⟩
  | .node, t', h | .document, t', h | .text, t', h | .comment, t', h
  | .processingInstruction _, t', h => by
    cases h
    rfl

theorem bindNodeTest_again {axis : Axis} {t t' : NodeTest} (hw : NoWildcard t.mentions)
    (h : c.bindNodeTest axis t = .ok t') : c.bindNodeTest axis t' = .ok t' := by
  match t with
  | .name (.name q) =>
    rcases map_eq_ok.mp h with ⟨b, hb, rfl⟩
    exact map_eq_ok.mpr ⟨b, bindName_again hb, rfl⟩
  | .name (.inNamespace p) => exact absurd List.mem_cons_self (hw p)
  | .name .any | .name (.withLocalName _) =>
    cases h
    rfl
  | .kind k =>
    rcases map_eq_ok.mp h with ⟨k', hk, rfl⟩
    exact map_eq_ok.mpr ⟨k', bindKindTest_again hk, rfl⟩

theorem bindSequenceType_again {t t' : SequenceType} (h : c.bindSequenceType t = .ok t') :
    c.bindSequenceType t' = .ok t' := by
  match t with
  | .items (.kind k) o =>
    rcases map_eq_ok.mp h with ⟨k', hk, rfl⟩
    exact map_eq_ok.mpr ⟨k', bindKindTest_again hk, rfl⟩
  | .items (.atomic q) o =>
    rcases map_eq_ok.mp h with ⟨⟨b, type⟩, hb, rfl⟩
    exact map_eq_ok.mpr ⟨(b, type), bindAtomicType_again hb, rfl⟩
  | .items .item o | .items .node o | .empty =>
    cases h
    rfl

end Names

/-! ## 3. Expressions -/

section Expressions

variable {c : StaticContext}

-- one case for each constructor: its names stay as they are, and so do its parts by induction
mutual

theorem bindExpr_again (locals : List ExpandedName) : ∀ (e e' : Expr), NoWildcard e.mentions →
    c.bindExpr locals e = .ok e' → c.bindExpr locals e' = .ok e'
  | .literal _, e', _, h | .contextItem, e', _, h => by
    rw [StaticContext.bindExpr] at h
    cases h
    rw [StaticContext.bindExpr]
  | .var q, e', _, h => by
    rw [StaticContext.bindExpr] at h
    rcases map_eq_ok.mp h with ⟨q', hq, rfl⟩
    rw [StaticContext.bindExpr]
    exact map_eq_ok.mpr ⟨q', bindVariable_again hq, rfl⟩
  | .call q args, e', hw, h => by
    rw [Expr.mentions, noWildcard_name_cons] at hw
    rw [StaticContext.bindExpr] at h
    rcases bind_eq_ok.mp h with ⟨q', hq, h⟩
    rcases bind_eq_ok.mp h with ⟨s, hs, h⟩
    rcases map_eq_ok.mp h with ⟨args', hargs, rfl⟩
    -- the bound call has as many arguments, so the same signature is found
    rw [← length_of_bindExprs hargs] at hs
    have hargs := bindExprs_again locals args args' hw hargs
    rw [StaticContext.bindExpr]
    exact bind_eq_ok.mpr ⟨q', bindName_again hq,
      bind_eq_ok.mpr ⟨s, hs, map_eq_ok.mpr ⟨args', hargs, rfl⟩⟩⟩
  | .sequence items, e', hw, h => by
    rw [StaticContext.bindExpr] at h
    rcases map_eq_ok.mp h with ⟨items', hitems, rfl⟩
    have hitems := bindExprs_again locals items items' hw hitems
    rw [StaticContext.bindExpr]
    exact map_eq_ok.mpr ⟨items', hitems, rfl⟩
  | .range a b, e', hw, h | .and a b, e', hw, h | .or a b, e', hw, h | .arithmetic _ a b, e', hw, h
  | .generalComparison _ a b, e', hw, h | .valueComparison _ a b, e', hw, h
  | .nodeComparison _ a b, e', hw, h | .setOperation _ a b, e', hw, h => by
    rw [Expr.mentions, noWildcard_append] at hw
    rw [StaticContext.bindExpr] at h
    rcases map₂_eq_ok.mp h with ⟨a', b', ha, hb, rfl⟩
    have ha := bindExpr_again locals a a' hw.1 ha
    have hb := bindExpr_again locals b b' hw.2 hb
    rw [StaticContext.bindExpr]
    exact map₂_eq_ok.mpr ⟨a', b', ha, hb, rfl⟩
  | .signed _ a, e', hw, h => by
    rw [StaticContext.bindExpr] at h
    rcases map_eq_ok.mp h with ⟨a', ha, rfl⟩
    have ha := bindExpr_again locals a a' hw ha
    rw [StaticContext.bindExpr]
    exact map_eq_ok.mpr ⟨a', ha, rfl⟩
  | .path start steps, e', hw, h => by
    rw [StaticContext.bindExpr] at h
    rcases map_eq_ok.mp h with ⟨steps', hsteps, rfl⟩
    have hsteps := bindSteps_again locals steps steps' hw hsteps
    rw [StaticContext.bindExpr]
    exact map_eq_ok.mpr ⟨steps', hsteps, rfl⟩
  | .filter a ps, e', hw, h => by
    rw [Expr.mentions, noWildcard_append] at hw
    rw [StaticContext.bindExpr] at h
    rcases map₂_eq_ok.mp h with ⟨a', ps', ha, hps, rfl⟩
    have ha := bindExpr_again locals a a' hw.1 ha
    have hps := bindExprs_again locals ps ps' hw.2 hps
    rw [StaticContext.bindExpr]
    exact map₂_eq_ok.mpr ⟨a', ps', ha, hps, rfl⟩
  | .ifThenElse a b d, e', hw, h => by
    rw [Expr.mentions, noWildcard_append, noWildcard_append] at hw
    rw [StaticContext.bindExpr] at h
    rcases bind_eq_ok.mp h with ⟨a', ha, h⟩
    rcases map₂_eq_ok.mp h with ⟨b', d', hb, hd, rfl⟩
    have ha := bindExpr_again locals a a' hw.1 ha
    have hb := bindExpr_again locals b b' hw.2.1 hb
    have hd := bindExpr_again locals d d' hw.2.2 hd
    rw [StaticContext.bindExpr]
    exact bind_eq_ok.mpr ⟨a', ha, map₂_eq_ok.mpr ⟨b', d', hb, hd, rfl⟩⟩
  | .forEach bs e, e', hw, h | .letIn bs e, e', hw, h | .quantified _ bs e, e', hw, h => by
    rw [Expr.mentions, noWildcard_append] at hw
    rw [StaticContext.bindExpr] at h
    rcases bind_eq_ok.mp h with ⟨⟨bs', inner⟩, hbs, h⟩
    rcases map_eq_ok.mp h with ⟨body, hbody, rfl⟩
    -- the bound variables bring the same names into scope, so the body is bound where it was
    have hbs := bindBindings_again locals bs bs' inner hw.1 hbs
    have hbody := bindExpr_again inner e body hw.2 hbody
    rw [StaticContext.bindExpr]
    exact bind_eq_ok.mpr ⟨(bs', inner), hbs, map_eq_ok.mpr ⟨body, hbody, rfl⟩⟩
  | .instanceOf a t, e', hw, h | .treatAs a t, e', hw, h => by
    rw [Expr.mentions, noWildcard_append] at hw
    rw [StaticContext.bindExpr] at h
    rcases map₂_eq_ok.mp h with ⟨a', t', ha, ht, rfl⟩
    have ha := bindExpr_again locals a a' hw.1 ha
    rw [StaticContext.bindExpr]
    exact map₂_eq_ok.mpr ⟨a', t', ha, bindSequenceType_again ht, rfl⟩
  | .castAs a t, e', hw, h | .castableAs a t, e', hw, h => by
    rw [Expr.mentions, noWildcard_append] at hw
    rw [StaticContext.bindExpr] at h
    rcases map₂_eq_ok.mp h with ⟨a', t', ha, ht, rfl⟩
    have ha := bindExpr_again locals a a' hw.1 ha
    rw [StaticContext.bindExpr]
    exact map₂_eq_ok.mpr ⟨a', t', ha, bindCastTarget_again ht, rfl⟩
  | .typeswitch a cases v d, e', hw, h => by
    rw [Expr.mentions, noWildcard_append, noWildcard_append, noWildcard_append] at hw
    rw [StaticContext.bindExpr] at h
    rcases bind_eq_ok.mp h with ⟨a', ha, h⟩
    rcases bind_eq_ok.mp h with ⟨cases', hcases, h⟩
    rcases bind_eq_ok.mp h with ⟨⟨v', inner⟩, hv, h⟩
    rcases map_eq_ok.mp h with ⟨d', hd, rfl⟩
    have ha := bindExpr_again locals a a' hw.1 ha
    have hcases := bindCases_again locals cases cases' hw.2.1 hcases
    have hv := bindOptionalVariable_again hv
    have hd := bindExpr_again inner d d' hw.2.2.2 hd
    rw [StaticContext.bindExpr]
    exact bind_eq_ok.mpr ⟨a', ha, bind_eq_ok.mpr ⟨cases', hcases,
      bind_eq_ok.mpr ⟨(v', inner), hv, map_eq_ok.mpr ⟨d', hd, rfl⟩⟩⟩⟩
termination_by structural e => e

theorem bindExprs_again (locals : List ExpandedName) : ∀ (es es' : List Expr),
    NoWildcard (mentionsOfAll es) → c.bindExprs locals es = .ok es' →
    c.bindExprs locals es' = .ok es'
  | [], es', _, h => by
    rw [StaticContext.bindExprs] at h
    cases h
    rw [StaticContext.bindExprs]
  | e :: r, es', hw, h => by
    rw [mentionsOfAll, noWildcard_append] at hw
    rw [StaticContext.bindExprs] at h
    rcases map₂_eq_ok.mp h with ⟨e', r', he, hr, rfl⟩
    have he := bindExpr_again locals e e' hw.1 he
    have hr := bindExprs_again locals r r' hw.2 hr
    rw [StaticContext.bindExprs]
    exact map₂_eq_ok.mpr ⟨e', r', he, hr, rfl⟩
termination_by structural es => es

theorem bindSteps_again (locals : List ExpandedName) : ∀ (steps steps' : List Step),
    NoWildcard (mentionsOfSteps steps) → c.bindSteps locals steps = .ok steps' →
    c.bindSteps locals steps' = .ok steps'
  | [], steps', _, h => by
    rw [StaticContext.bindSteps] at h
    cases h
    rw [StaticContext.bindSteps]
  | .axis axis test ps :: r, steps', hw, h => by
    rw [mentionsOfSteps, noWildcard_append, noWildcard_append] at hw
    rw [StaticContext.bindSteps] at h
    rcases bind_eq_ok.mp h with ⟨test', htest, h⟩
    rcases map₂_eq_ok.mp h with ⟨ps', r', hps, hr, rfl⟩
    have htest := bindNodeTest_again hw.1.1 htest
    have hps := bindExprs_again locals ps ps' hw.1.2 hps
    have hr := bindSteps_again locals r r' hw.2 hr
    rw [StaticContext.bindSteps]
    exact bind_eq_ok.mpr ⟨test', htest, map₂_eq_ok.mpr ⟨ps', r', hps, hr, rfl⟩⟩
  | .expr e :: r, steps', hw, h => by
    rw [mentionsOfSteps, noWildcard_append] at hw
    rw [StaticContext.bindSteps] at h
    rcases map₂_eq_ok.mp h with ⟨e', r', he, hr, rfl⟩
    have he := bindExpr_again locals e e' hw.1 he
    have hr := bindSteps_again locals r r' hw.2 hr
    rw [StaticContext.bindSteps]
    exact map₂_eq_ok.mpr ⟨e', r', he, hr, rfl⟩
termination_by structural steps => steps

theorem bindBindings_again (locals : List ExpandedName) : ∀ (bs bs' : List Binding)
    (inner : List ExpandedName), NoWildcard (mentionsOfBindings bs) →
    c.bindBindings locals bs = .ok (bs', inner) → c.bindBindings locals bs' = .ok (bs', inner)
  | [], bs', inner, _, h => by
    rw [StaticContext.bindBindings] at h
    cases h
    rw [StaticContext.bindBindings]
  | .mk q e :: r, bs', inner, hw, h => by
    rw [mentionsOfBindings, noWildcard_append, noWildcard_name_cons] at hw
    rw [StaticContext.bindBindings] at h
    rcases bind_eq_ok.mp h with ⟨e', he, h⟩
    rcases bind_eq_ok.mp h with ⟨q', hq, h⟩
    rcases map_eq_ok.mp h with ⟨⟨r', inner'⟩, hr, hpair⟩
    cases hpair
    have he := bindExpr_again locals e e' hw.1 he
    have hr := bindBindings_again _ r r' inner' hw.2 hr
    rw [StaticContext.bindBindings]
    exact bind_eq_ok.mpr ⟨e', he, bind_eq_ok.mpr ⟨q', bindName_again hq,
      map_eq_ok.mpr ⟨(r', inner'), hr, rfl⟩⟩⟩
termination_by structural bs => bs

theorem bindCases_again (locals : List ExpandedName) : ∀ (cases cases' : List Case),
    NoWildcard (mentionsOfCases cases) → c.bindCases locals cases = .ok cases' →
    c.bindCases locals cases' = .ok cases'
  | [], cases', _, h => by
    rw [StaticContext.bindCases] at h
    cases h
    rw [StaticContext.bindCases]
  | .mk v t e :: r, cases', hw, h => by
    rw [mentionsOfCases, noWildcard_append, noWildcard_append, noWildcard_append] at hw
    rw [StaticContext.bindCases] at h
    rcases bind_eq_ok.mp h with ⟨t', ht, h⟩
    rcases bind_eq_ok.mp h with ⟨⟨v', inner⟩, hv, h⟩
    rcases map₂_eq_ok.mp h with ⟨e', r', he, hr, rfl⟩
    have he := bindExpr_again inner e e' hw.1.2.2 he
    have hr := bindCases_again locals r r' hw.2 hr
    rw [StaticContext.bindCases]
    exact bind_eq_ok.mpr ⟨t', bindSequenceType_again ht, bind_eq_ok.mpr ⟨(v', inner),
      bindOptionalVariable_again hv, map₂_eq_ok.mpr ⟨e', r', he, hr, rfl⟩⟩⟩
termination_by structural cases => cases

end

end Expressions

/-! ## 4. Queries -/

/-- An expression without a test for all names in a namespace can be bound again once it is bound,
and is then the same query. -/
theorem Query.ofExpr_again {e : Expr} {c : StaticContext} {q : Query}
    (hw : NoWildcard e.mentions) (h : Query.ofExpr e c = .ok q) :
    Query.ofExpr q.expr c = .ok q := by
  unfold Query.ofExpr at h
  rcases map₂_eq_ok.mp h with ⟨e', c', he, hc, rfl⟩
  exact map₂_eq_ok.mpr ⟨e', c', bindExpr_again [] e e' hw he, hc, rfl⟩

/-- The expression `for $x in p:a return $x/@b`, with the names of an element, an attribute and a
variable. -/
theorem Query.ofExpr_again_sample :
    let c : StaticContext := (StaticContext.initial .empty).bindPrefix "p" "urn:p"
    let x : QName := .unqualified "x"
    let e : Expr := .forEach
      [.mk x (.path .relative [.axis .child (.name (.name ⟨some "p", "a", none⟩)) []])]
      (.path .relative [.expr (.var x), .axis .attributes (.name (.name (.unqualified "b"))) []])
    ∃ q, Query.ofExpr e c = .ok q ∧ Query.ofExpr q.expr c = .ok q := by
  intro c x e
  have hmentions : e.mentions =
      [.name x, .name ⟨some "p", "a", none⟩, .name x, .name (.unqualified "b")] := rfl
  have hw : NoWildcard e.mentions := by
    intro p
    rw [hmentions]
    simp
  exact ⟨_, rfl, Query.ofExpr_again hw rfl⟩

end XPath
