import XPath.Proofs.Path
import XPath.Proofs.Predicates
import XPath.Proofs.Tree.NamespaceOrder
import XPath.Proofs.Tree.NodeSets

/-!
# The order of the first step

The first step of a relative path keeps the order of its axis, and every later step is sorted.  So
a step and the same step behind the context item agree where the axis comes in document order.  All
axes do but one: the namespace nodes of an element are listed before those that it inherits, though
these come first in document order.
-/

namespace XPath

/-! ## 1. The nodes of one step -/

namespace Forest

variable {f : Forest} {n x : Node} {o : Origin} {axis : Axis} {test : NodeTest}

theorem found_namespaces (n : Node) (test : NodeTest) :
    n.found .namespaces test = n.namespacesInScope.filter (·.passes .namespaces test) := rfl

theorem inTree_of_mem_found (hn : f.InTree o n) (hx : x ∈ n.found axis test) : f.InTree o x := by
  by_cases hax : axis = .namespaces
  · subst hax
    rw [found_namespaces] at hx
    exact inTree_of_mem_namespacesInScope hn (List.mem_filter.mp hx).1
  · exact ((mem_found_iff hn hax).mp hx).1

/-- What a step finds is in document order, unless it is along the namespace axis from an element
that has namespace nodes in scope of several elements. -/
theorem pairwise_found_of_parent? (hn : f.InTree o n) (h : axis = .namespaces →
      ∀ x ∈ n.namespacesInScope, ∀ y ∈ n.namespacesInScope, x.parent? = y.parent?) :
    (n.found axis test).Pairwise Node.Precedes := by
  by_cases hax : axis = .namespaces
  · subst hax
    rw [found_namespaces]
    exact ((pairwise_namespacesInScope_iff hn).mpr (h rfl)).filter _
  · exact pairwise_found hn hax

end Forest

section Evaluation

variable (env : Environment) {scope : Scope} {n : Node} {axis : Axis} {test : NodeTest}
  {ps : List Expr}

/-- Whatever its predicates, a step leads to some of the nodes that it finds, in their order. -/
theorem sublist_found_of_evalStep {s : Sequence} (hfocus : scope.contextItem = .ok (.node n))
    (h : evalStep env scope (.axis axis test ps) = .ok s) :
    ∃ l : List Node, s = l.map Item.node ∧ l.Sublist (n.found axis test) := by
  rw [evalStep, hfocus] at h
  rcases map_eq_ok.mp h with ⟨selected, hselected, rfl⟩
  have hsub := sublist_of_evalPredicates env scope hselected
  rcases List.sublist_map_iff.mp hsub with ⟨l, hl, rfl⟩
  unfold Node.found
  by_cases hrev : axis.isReverse = true
  · rw [if_pos hrev, if_pos hrev]
    exact ⟨l.reverse, List.map_reverse.symm, hl.reverse⟩
  · rw [if_neg hrev, if_neg hrev]
    exact ⟨l, rfl, hl⟩

/-! ## 2. The step behind the context item -/

theorem eval_firstStep (step : Step) :
    (Expr.path .relative [step]).eval env scope = evalStep env scope step := by
  rw [Expr.eval]
  show (do evalSteps env scope [] (← evalStep env scope step)) = _
  simp only [evalSteps]
  exact bind_pure _

/-- A step does not see the position of the context item. -/
theorem evalStep_axis_withFocus (hfocus : scope.contextItem = .ok (.node n)) (i k : Nat) :
    evalStep env (scope.withFocus ⟨.node n, i, k⟩) (.axis axis test ps) =
      evalStep env scope (.axis axis test ps) := by
  rw [evalStep, evalStep, hfocus]
  simp only [evalPredicates_withFocus]
  rfl

/-- Behind the context item the result of a step is sorted. -/
theorem eval_secondStep (hfocus : scope.contextItem = .ok (.node n)) :
    (Expr.path .relative [.expr .contextItem, .axis axis test ps]).eval env scope =
      (do stepResult (← (Expr.path .relative [.axis axis test ps]).eval env scope)) := by
  rw [eval_firstStep, Expr.eval, evalStep, Expr.eval, hfocus]
  show evalSteps env scope [.axis axis test ps] [.node n] = _
  rw [evalSteps]
  show (do
    let results ←
      (do return [← evalStep env (scope.withFocus ⟨.node n, 1, 1⟩) (.axis axis test ps)])
    evalSteps env scope [] (← stepResult results.flatten)) = _
  rw [evalStep_axis_withFocus env hfocus]
  cases evalStep env scope (.axis axis test ps) with
  | error e => rfl
  | ok s =>
    show (do evalSteps env scope [] (← stepResult [s].flatten)) = stepResult s
    rw [List.flatten_singleton]
    simp only [evalSteps]
    exact bind_pure _

/-- A step whose nodes are in document order is the same behind the context item. -/
theorem eval_secondStep_of_pairwise (hfocus : scope.contextItem = .ok (.node n))
    (hsorted : (n.found axis test).Pairwise Node.Precedes) :
    (Expr.path .relative [.expr .contextItem, .axis axis test ps]).eval env scope =
      (Expr.path .relative [.axis axis test ps]).eval env scope := by
  rw [eval_secondStep env hfocus, eval_firstStep]
  cases h : evalStep env scope (.axis axis test ps) with
  | error e => rfl
  | ok s =>
    rcases sublist_found_of_evalStep env hfocus h with ⟨l, rfl, hl⟩
    show stepResult (l.map Item.node) = _
    rw [stepResult_nodes, Node.sortDistinct_of_pairwise (hsorted.sublist hl)]
    rfl

/-- A step that is the same behind the context item has its nodes in document order. -/
theorem pairwise_found_of_eval_secondStep {f : Forest} (hn : n ∈ f)
    (hfocus : scope.contextItem = .ok (.node n))
    (h : (Expr.path .relative [.expr .contextItem, .axis axis test []]).eval env scope =
      (Expr.path .relative [.axis axis test []]).eval env scope) :
    (n.found axis test).Pairwise Node.Precedes := by
  have hin : ∀ m ∈ n.found axis test, f.InTree n.origin m := fun m hm =>
    Forest.inTree_of_mem_found ⟨hn, rfl⟩ hm
  rw [eval_secondStep env hfocus, eval_firstStep, evalStep_axis env hfocus] at h
  change stepResult _ = _ at h
  rw [stepResult_nodes] at h
  rcases Node.sortDistinct_spec (Forest.comparable_inTree _) hin with ⟨r, hsort, hsorted, -⟩
  rw [hsort] at h
  -- a list of nodes is determined by the sequence of its items
  have hitems : r.map Item.node = (n.found axis test).map Item.node := Except.ok.inj h
  rw [← List.map_inj_right (fun _ _ => Item.node.inj) |>.mp hitems]
  exact hsorted

/-- Behind the context item a step gives its nodes sorted.  Without it, the nodes are in document
order already on all axes but that of the namespaces, and there they are exactly where all
namespace nodes in scope are of one element; so exactly then the two paths agree. -/
theorem eval_secondStep_eq_iff {f : Forest} (hn : n ∈ f)
    (hfocus : scope.contextItem = .ok (.node n)) (axis : Axis) :
    (∀ test ps, (Expr.path .relative [.expr .contextItem, .axis axis test ps]).eval env scope =
      (do stepResult (← (Expr.path .relative [.axis axis test ps]).eval env scope))) ∧
    (axis ≠ .namespaces → ∀ test ps s,
      (Expr.path .relative [.axis axis test ps]).eval env scope = .ok s →
      ∃ l : List Node, s = l.map Item.node ∧ l.Pairwise Node.Precedes) ∧
    ((∀ test ps, (Expr.path .relative [.expr .contextItem, .axis axis test ps]).eval env scope =
        (Expr.path .relative [.axis axis test ps]).eval env scope) ↔
      (axis = .namespaces →
        ∀ x ∈ n.namespacesInScope, ∀ y ∈ n.namespacesInScope, x.parent? = y.parent?)) := by
  have hin : f.InTree n.origin n := ⟨hn, rfl⟩
  refine ⟨fun test ps => eval_secondStep env hfocus, fun hax test ps s hs => ?_, ?_, ?_⟩
  · rw [eval_firstStep] at hs
    rcases sublist_found_of_evalStep env hfocus hs with ⟨l, rfl, hl⟩
    exact ⟨l, rfl, (Forest.pairwise_found hin hax).sublist hl⟩
  · intro h hax
    subst hax
    -- the test for any node keeps them all
    have hall : n.found .namespaces (.kind .node) = n.namespacesInScope := by
      rw [Forest.found_namespaces]
      exact List.filter_eq_self.mpr fun _ _ => rfl
    have hsorted := pairwise_found_of_eval_secondStep env hn hfocus (h (.kind .node) [])
    rw [hall] at hsorted
    exact (Forest.pairwise_namespacesInScope_iff hin).mp hsorted
  · intro h test ps
    exact eval_secondStep_of_pairwise env hfocus (Forest.pairwise_found_of_parent? hin h)

end Evaluation

theorem eval_secondStep_eq_iff_sample :
    let env : Environment := ⟨.initial .empty,
      .initial ⟨⟨.epoch, .midnight⟩, some .utc⟩ .utc, .empty, .codepoint⟩
    let scope : Scope := ⟨some ⟨.node Forest.sampleNode, 1, 1⟩, []⟩
    Forest.sampleNode ∈ Forest.sample ∧ scope.contextItem = .ok (.node Forest.sampleNode) ∧
    ∀ test ps,
      (Expr.path .relative [.expr .contextItem, .axis .preceding test ps]).eval env scope =
        (Expr.path .relative [.axis .preceding test ps]).eval env scope := by
  intro env scope
  refine ⟨Forest.sampleNode_mem, rfl, ?_⟩
  refine (eval_secondStep_eq_iff env Forest.sampleNode_mem rfl .preceding).2.2.mpr fun h => ?_
  cases h

/-! ## 3. Namespace nodes of two elements -/

namespace Forest

/-- An element with a namespace node inside another such element. -/
def innerElement : Tree :=
  .node { kind := .element, name := some (.unqualified "b") } []
    [.leaf { kind := .namespaceNode, name := some (.unqualified "q"), value := "urn:q" }] []

def outerElement : Tree :=
  .node { kind := .element, name := some (.unqualified "a") } []
    [.leaf { kind := .namespaceNode, name := some (.unqualified "p"), value := "urn:p" }]
    [innerElement]

def nested : Forest where
  ranked := true
  tree? := fun
    | 0 => some outerElement
    | _ => none
  wellFormed := by
    intro i t h
    match i, h with
    | 0, h => cases h; rfl

def outerNode : Node := Node.ofTree ⟨0, true⟩ outerElement

def innerNode : Node := outerNode.below (.child 0) innerElement

theorem innerNode_mem : innerNode ∈ nested :=
  mem_below (n := outerNode) ⟨rfl, _, rfl, .top⟩ rfl

end Forest

/-- From the inner element the path `namespace::*` gives the nearer namespace node first, and the
path `./namespace::*` the one that is first in document order. -/
theorem eval_secondStep_ne_of_inherited :
    let env : Environment := ⟨.initial .empty,
      .initial ⟨⟨.epoch, .midnight⟩, some .utc⟩ .utc, .empty, .codepoint⟩
    let scope : Scope := ⟨some ⟨.node Forest.innerNode, 1, 1⟩, []⟩
    let step : Step := .axis .namespaces (.name .any) []
    let near := Forest.innerNode.namespaces.map Item.node
    let far := Forest.outerNode.namespaces.map Item.node
    (Expr.path .relative [step]).eval env scope = .ok (near ++ far) ∧
    (Expr.path .relative [.expr .contextItem, step]).eval env scope = .ok (far ++ near) ∧
    (Expr.path .relative [.expr .contextItem, step]).eval env scope ≠
      (Expr.path .relative [step]).eval env scope := by
  intro env scope step near far
  have hfocus : scope.contextItem = .ok (.node Forest.innerNode) := rfl
  have hfirst : (Expr.path .relative [step]).eval env scope = .ok (near ++ far) := by
    rw [eval_firstStep, evalStep_axis env hfocus]
    rfl
  have hin : ∀ m ∈ Forest.innerNode.found .namespaces (.name .any),
      Forest.nested.InTree ⟨0, true⟩ m := fun m hm =>
    Forest.inTree_of_mem_found ⟨Forest.innerNode_mem, rfl⟩ hm
  -- sorting exchanges the two nodes
  have hsort : Node.sortDistinct (Forest.innerNode.found .namespaces (.name .any)) =
      .ok (Forest.outerNode.namespaces ++ Forest.innerNode.namespaces) := by
    refine (Node.sortDistinct_eq_ok_iff (Forest.comparable_inTree _) hin).mpr ⟨?_, fun m => ?_⟩
    · exact List.pairwise_pair.mpr rfl
    · exact List.mem_append.trans (or_comm.trans List.mem_append.symm)
  have hsecond : (Expr.path .relative [.expr .contextItem, step]).eval env scope =
      .ok (far ++ near) := by
    rw [eval_secondStep env hfocus, eval_firstStep, evalStep_axis env hfocus]
    show stepResult ((Forest.innerNode.found .namespaces (.name .any)).map Item.node) = _
    rw [stepResult_nodes, hsort]
    rfl
  refine ⟨hfirst, hsecond, ?_⟩
  rw [hfirst, hsecond]
  intro he
  have hnodes := Item.node.inj (List.cons.inj (Except.ok.inj he)).1
  exact absurd (congrArg Node.path hnodes) (by decide)

end XPath
