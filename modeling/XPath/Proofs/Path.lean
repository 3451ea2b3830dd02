import XPath.Eval
import XPath.Proofs.Tree.AxisOrder
import XPath.Proofs.Tree.Sorting

/-!
# Paths are compositions of axes

A path of axis steps without predicates leads from the context node to the ends of all chains of
nodes in which each is on the axis of the one before and passes the test.  The nodes come in
document order: the first step lists its axis in order, and every later step sorts what it finds.
-/

namespace XPath

/-! ## 1. Chains of nodes -/

/-- Chains of nodes from one node to another: each is on the axis of the node before it and passes
the test. -/
def Forest.LeadsAlong (f : Forest) : List (Axis × NodeTest) → Node → Node → Prop
  | [], n, m => m = n
  | (axis, test) :: r, n, m =>
    ∃ k, (f.InTree n.origin k ∧ axis.Leads n k ∧ k.passes axis test = true) ∧ f.LeadsAlong r k m

/-- The steps along the axes, without predicates. -/
def Step.ofTests (tests : List (Axis × NodeTest)) : List Step :=
  tests.map fun t => .axis t.1 t.2 []

/-! ## 2. One step -/

/-- The nodes that a step without predicates finds. -/
def Node.found (n : Node) (axis : Axis) (test : NodeTest) : List Node :=
  let selected := (n.along axis).filter (·.passes axis test)
  if axis.isReverse then selected.reverse else selected

namespace Forest

variable {f : Forest} {k m n : Node} {o : Origin} {axis : Axis} {test : NodeTest}

theorem mem_found_iff (hn : f.InTree o n) (hax : axis ≠ .namespaces) : m ∈ n.found axis test ↔
    f.InTree o m ∧ axis.Leads n m ∧ m.passes axis test = true := by
  have hmem : m ∈ n.found axis test ↔ m ∈ (n.along axis).filter (·.passes axis test) := by
    unfold Node.found
    by_cases hrev : axis.isReverse = true
    · rw [if_pos hrev, List.mem_reverse]
    · rw [if_neg hrev]
  rw [hmem, List.mem_filter, mem_along_iff hn hax, and_assoc]

/-- A reverse axis is turned around, so the nodes come in document order. -/
theorem pairwise_found (hn : f.InTree o n) (hax : axis ≠ .namespaces) :
    (n.found axis test).Pairwise Node.Precedes := by
  have horder := pairwise_along hn hax
  unfold Node.found
  by_cases hrev : axis.isReverse = true
  · rw [if_pos hrev] at horder ⊢
    rw [List.pairwise_reverse]
    exact horder.filter _
  · rw [if_neg hrev] at horder ⊢
    exact horder.filter _

end Forest

section Evaluation

variable (env : Environment) {scope : Scope} {n : Node} {axis : Axis} {test : NodeTest}

theorem evalStep_axis (hfocus : scope.contextItem = .ok (.node n)) :
    evalStep env scope (.axis axis test []) = .ok ((n.found axis test).map Item.node) := by
  unfold evalStep Node.found
  rw [hfocus]
  simp only [bind, Except.bind, stepOrigin, evalPredicates, pure, Except.pure]
  by_cases hrev : axis.isReverse = true
  · rw [if_pos hrev, if_pos hrev, List.map_reverse]
  · rw [if_neg hrev, if_neg hrev]

/-- Something that succeeds for each node, wherever it stands in its sequence. -/
theorem forEachFocus_nodes {α : Type} {l : List Node} {f : Focus → Result α} {g : Node → α}
    (h : ∀ n ∈ l, ∀ i k, f ⟨.node n, i, k⟩ = .ok (g n)) :
    forEachFocus (l.map Item.node) f = .ok (l.map g) := by
  have hmap : ∀ i k, ((l.map Item.node).zipIdx i).mapM (fun x => f ⟨x.1, x.2, k⟩) =
      .ok (l.map g) := by
    induction l with
    | nil =>
      intro i k
      rfl
    | cons n l ih =>
      intro i k
      rw [List.map_cons, List.zipIdx_cons, List.mapM_cons, h n List.mem_cons_self,
        ih (fun m hm => h m (List.mem_cons_of_mem n hm))]
      rfl
  exact hmap 1 _

/-- Taking the nodes out of a sequence of nodes. -/
theorem mapM_map_node {f : Item → Result Node} (h : ∀ n, f (.node n) = .ok n) (l : List Node) :
    (l.map Item.node).mapM f = .ok l := by
  have hf : f ∘ Item.node = fun n => .ok n := funext h
  rw [List.mapM_map, hf]
  exact List.mapM_pure.trans (congrArg Except.ok (List.map_id l))

theorem sortDistinct_map_node (l : List Node) : Sequence.sortDistinct (l.map Item.node) =
    (Node.sortDistinct l).map (·.map Item.node) := by
  rw [Sequence.sortDistinct, Sequence.nodes, mapM_map_node fun _ => rfl]
  rfl

/-- The result of a step that gives nodes is sorted. -/
theorem stepResult_nodes (l : List Node) :
    stepResult (l.map Item.node) = (Node.sortDistinct l).map (·.map Item.node) := by
  have hall : (l.map Item.node).all Item.isNode = true := by
    rw [List.all_map, List.all_eq_true]
    intro n _
    rfl
  rw [stepResult, if_pos hall, sortDistinct_map_node]

/-! ## 3. All steps -/

/-- Steps from nodes of one tree find the ends of the chains from these nodes. -/
theorem evalSteps_ofTests {f : Forest} {o : Origin} {tests : List (Axis × NodeTest)}
    (hax : ∀ t ∈ tests, t.1 ≠ .namespaces) {l : List Node} (hl : ∀ n ∈ l, f.InTree o n)
    (horder : l.Pairwise Node.Precedes) :
    ∃ r : List Node,
      evalSteps env scope (Step.ofTests tests) (l.map Item.node) = .ok (r.map Item.node) ∧
      r.Pairwise Node.Precedes ∧ ∀ m, m ∈ r ↔ ∃ n ∈ l, f.LeadsAlong tests n m := by
  induction tests generalizing l with
  | nil =>
    refine ⟨l, rfl, horder, fun m => ?_⟩
    refine ⟨?_, ?_⟩
    · intro h
      exact ⟨m, h, rfl⟩
    · intro h
      rcases h with ⟨n, hn, rfl⟩
      exact hn
  | cons t tests ih =>
    have hat : t.1 ≠ .namespaces := hax t List.mem_cons_self
    have hfound : ∀ n ∈ l, ∀ m, m ∈ n.found t.1 t.2 ↔
        f.InTree n.origin m ∧ t.1.Leads n m ∧ m.passes t.1 t.2 = true := by
      intro n hn m
      rw [(hl n hn).2]
      exact Forest.mem_found_iff (hl n hn) hat
    have hin : ∀ m ∈ l.flatMap (·.found t.1 t.2), f.InTree o m := by
      intro m hm
      rcases List.mem_flatMap.mp hm with ⟨n, hn, hm⟩
      rw [← (hl n hn).2]
      exact ((hfound n hn m).mp hm).1
    -- the merged results are sorted, and so the remaining steps start from sorted nodes again
    rcases Node.sortDistinct_spec (Forest.comparable_inTree o) hin with ⟨r, hsort, hr, hmem⟩
    have hrin : ∀ m ∈ r, f.InTree o m := fun m hm => hin m ((hmem m).mp hm)
    rcases ih (fun t ht => hax t (List.mem_cons_of_mem _ ht)) hrin hr with ⟨r', heval, hr', hmem'⟩
    refine ⟨r', ?_, hr', fun m => ?_⟩
    · have hstep : forEachFocus (l.map Item.node) (fun x =>
          if x.item.isNode then evalStep env (scope.withFocus x) (.axis t.1 t.2 [])
          else .error (.of .XPTY0019 "path step applied to a sequence containing atomic values")) =
          .ok (l.map fun n => (n.found t.1 t.2).map Item.node) :=
        forEachFocus_nodes fun n _ _ _ => evalStep_axis env rfl
      -- the results of all nodes together are the nodes found from any of them
      have hflat : (l.map fun n => (n.found t.1 t.2).map Item.node).flatten =
          (l.flatMap (·.found t.1 t.2)).map Item.node := by
        rw [List.map_flatMap, List.flatMap_def]
      unfold Step.ofTests
      rw [List.map_cons, evalSteps, hstep]
      show stepResult _ >>= _ = _
      rw [hflat, stepResult_nodes, hsort]
      exact heval
    · rw [hmem']
      refine ⟨?_, ?_⟩
      · intro h
        rcases h with ⟨k, hk, hchain⟩
        rcases List.mem_flatMap.mp ((hmem k).mp hk) with ⟨n, hn, hk⟩
        exact ⟨n, hn, k, (hfound n hn k).mp hk, hchain⟩
      · intro h
        rcases h with ⟨n, hn, k, hk, hchain⟩
        refine ⟨k, (hmem k).mpr ?_, hchain⟩
        exact List.mem_flatMap.mpr ⟨n, hn, (hfound n hn k).mpr hk⟩

/-- A relative path of axis steps without predicates succeeds, and finds exactly the ends of the
chains from the context node, in strictly increasing document order. -/
theorem eval_relativePath {f : Forest} (hn : n ∈ f) {tests : List (Axis × NodeTest)}
    (hne : tests ≠ []) (hax : ∀ t ∈ tests, t.1 ≠ .namespaces)
    (hfocus : scope.contextItem = .ok (.node n)) :
    ∃ r : List Node,
      (Expr.path .relative (Step.ofTests tests)).eval env scope = .ok (r.map Item.node) ∧
      r.Pairwise Node.Precedes ∧ ∀ m, m ∈ r ↔ f.LeadsAlong tests n m := by
  cases tests with
  | nil => exact absurd rfl hne
  | cons t tests =>
    have hat : t.1 ≠ .namespaces := hax t List.mem_cons_self
    have hin : f.InTree n.origin n := ⟨hn, rfl⟩
    have hfound : ∀ m, m ∈ n.found t.1 t.2 ↔
        f.InTree n.origin m ∧ t.1.Leads n m ∧ m.passes t.1 t.2 = true :=
      fun m => Forest.mem_found_iff hin hat
    rcases @evalSteps_ofTests env scope f n.origin tests
      (fun t ht => hax t (List.mem_cons_of_mem _ ht)) (n.found t.1 t.2)
      (fun m hm => ((hfound m).mp hm).1) (Forest.pairwise_found hin hat) with ⟨r, heval, hr, hmem⟩
    refine ⟨r, ?_, hr, fun m => ?_⟩
    · unfold Step.ofTests
      rw [List.map_cons, Expr.eval, evalStep_axis env hfocus]
      exact heval
    · rw [hmem]
      refine ⟨?_, ?_⟩
      · intro h
        rcases h with ⟨k, hk, hchain⟩
        exact ⟨k, (hfound k).mp hk, hchain⟩
      · intro h
        rcases h with ⟨k, hk, hchain⟩
        exact ⟨k, (hfound k).mpr hk, hchain⟩

end Evaluation

/-- The path `ancestor::node()/descendant::*/preceding::text()`. -/
theorem eval_relativePath_sample :
    let env : Environment := ⟨.initial .empty,
      .initial ⟨⟨.epoch, .midnight⟩, some .utc⟩ .utc, .empty, .codepoint⟩
    let scope : Scope := ⟨some ⟨.node Forest.sampleNode, 1, 1⟩, []⟩
    let tests := [(Axis.ancestor, NodeTest.kind .node), (.descendant, .name .any),
      (.preceding, .kind .text)]
    ∃ r : List Node,
      (Expr.path .relative (Step.ofTests tests)).eval env scope = .ok (r.map Item.node) ∧
      r.Pairwise Node.Precedes ∧ ∀ m, m ∈ r ↔ Forest.sample.LeadsAlong tests Forest.sampleNode m :=
  eval_relativePath _ Forest.sampleNode_mem (by simp) (by decide) rfl

end XPath
