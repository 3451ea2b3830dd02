import Mathlib.Data.List.Flatten
import XPath.Proofs.Path
import XPath.Proofs.Tree.Axes

/-!
# Paths from all nodes of a document

A path can start with the root and all its descendants at once.  That is the same as to start with
the root and take a step to these nodes: they are in document order already, so the step does not
change their order, and the steps behind it see them at the same positions.
-/

namespace XPath

/-! ## 1. Roots and what is below them -/

namespace Node

/-- Nothing is around the outermost ancestor. -/
theorem above_root (n : Node) : n.root.above = [] := by
  rcases n with ⟨o, t, above⟩
  induction above generalizing t with
  | nil => rfl
  | cons step above ih =>
    -- a node has the root of its parent
    have hparent : (⟨o, t, step :: above⟩ : Node).root = (⟨o, step.1, above⟩ : Node).root :=
      root_below ⟨o, step.1, above⟩ step.2 t
    rw [hparent]
    exact ih step.1

/-- The descendants are in the subtree, in the same order. -/
theorem sublist_descendantsOrSelf_subtree (n : Node) : n.descendantsOrSelf.Sublist n.subtree := by
  induction n using subtree.induct with
  | case1 n ih =>
    rw [descendantsOrSelf, descendants_eq_flatMap, subtree_eq]
    apply List.Sublist.cons_cons
    have hinner : n.children.Sublist n.inner := List.sublist_append_right ..
    have hbelow : (n.children.flatMap descendantsOrSelf).Sublist (n.children.flatMap subtree) :=
      List.Sublist.flatMap_right _ fun k hk => ih k (hinner.mem hk)
    exact hbelow.trans (hinner.flatMap subtree)

/-- Below a root the paths decide which node comes first. -/
theorem precedes_of_mem_subtree {root m n : Node} (htop : root.above = []) (hm : m ∈ root.subtree)
    (hn : n ∈ root.subtree) (h : Branch.comparePaths m.path n.path = .lt) : m.Precedes n := by
  rcases mem_subtree_iff.mp hm with ⟨way, bs, hwm⟩
  rcases mem_subtree_iff.mp hn with ⟨way', cs, hwn⟩
  rw [Precedes, compare_of_way htop hwm hwn, h]

theorem pairwise_descendantsOrSelf {root : Node} (htop : root.above = []) :
    root.descendantsOrSelf.Pairwise Precedes := by
  have hsub := sublist_descendantsOrSelf_subtree root
  refine List.Pairwise.imp_of_mem ?_ ((pairwise_subtree root).sublist hsub)
  intro m n hm hn h
  exact precedes_of_mem_subtree htop (hsub.mem hm) (hsub.mem hn) h

end Node

/-! ## 2. The step to all descendants -/

theorem above_of_documentOfContext {item : Item} {root : Node}
    (h : documentOfContext item = .ok root) : root.above = [] := by
  cases item with
  | atomic v => cases h
  | node n =>
    simp only [documentOfContext] at h
    by_cases hkind : (n.root.kind == .document) = true
    · rw [if_pos hkind] at h
      cases h
      exact n.above_root
    · rw [if_neg hkind] at h
      cases h

section Evaluation

variable (env : Environment) (scope : Scope)

/-- A step from one node leads to the nodes that it finds, if these are in document order. -/
theorem evalSteps_axis_of_pairwise {n : Node} {axis : Axis} {test : NodeTest}
    (h : (n.found axis test).Pairwise Node.Precedes) (steps : List Step) :
    evalSteps env scope (.axis axis test [] :: steps) [.node n] =
      evalSteps env scope steps ((n.found axis test).map Item.node) := by
  have hstep : forEachFocus [Item.node n] (fun x =>
      if x.item.isNode then evalStep env (scope.withFocus x) (.axis axis test [])
      else .error (.of .XPTY0019 "path step applied to a sequence containing atomic values")) =
      .ok [(n.found axis test).map Item.node] := by
    apply forEachFocus_nodes (l := [n]) (g := fun k => (k.found axis test).map Item.node)
    intro k _ _ _
    exact evalStep_axis env rfl
  rw [evalSteps, hstep]
  show (do
    let s ← stepResult [(n.found axis test).map Item.node].flatten
    evalSteps env scope steps s) = _
  rw [List.flatten_singleton, stepResult_nodes, Node.sortDistinct_of_pairwise h]
  rfl

theorem found_descendantsOrSelf (n : Node) :
    n.found .descendantOrSelf (.kind .node) = n.descendantsOrSelf :=
  List.filter_eq_self.mpr fun _ _ => rfl

/-- A path from all nodes of the document is the path from its root that first goes to all
descendants, for any steps behind and in any context; the two give the same error where there is no
document. -/
theorem eval_rootDescendant (steps : List Step) :
    (Expr.path .rootDescendant steps).eval env scope =
      (Expr.path .root (.axis .descendantOrSelf (.kind .node) [] :: steps)).eval env scope := by
  rw [Expr.eval, Expr.eval]
  cases scope.contextItem with
  | error e => rfl
  | ok item =>
    show (do
      let root ← documentOfContext item
      evalSteps env scope steps (root.descendantsOrSelf.map Item.node)) = (do
      let root ← documentOfContext item
      evalSteps env scope (.axis .descendantOrSelf (.kind .node) [] :: steps) [.node root])
    cases hroot : documentOfContext item with
    | error e => rfl
    | ok root =>
      have hsorted := Node.pairwise_descendantsOrSelf (above_of_documentOfContext hroot)
      rw [← found_descendantsOrSelf] at hsorted
      show _ = evalSteps env scope (.axis .descendantOrSelf (.kind .node) [] :: steps) [.node root]
      rw [evalSteps_axis_of_pairwise env scope hsorted, found_descendantsOrSelf]
      rfl

end Evaluation

end XPath
