import XPath.Bind
import XPath.Proofs.StepOrder

/-!
# Names without prefix

On each axis a name test looks for one kind of node.  The namespace of a name without prefix is
chosen by another table: the default namespace of elements everywhere but on the attribute axis.  So
the tables disagree on the namespace axis, where the names of namespace nodes, which are in no
namespace, are looked for in the default namespace of elements, and are found only if there is
none.
-/

namespace XPath

/-! ## 1. What a name stands for -/

/-- The namespace of names without prefix for a kind of node: only elements have a default one. -/
def StaticContext.namespaceOfKind (c : StaticContext) : NodeKind → Option String
  | .element => c.namespaces.defaultElement
  | _ => none

/-- Whether the node is of the principal kind of the axis, and its name has the local part and the
namespace.  An empty namespace counts as none. -/
def Node.IsNamed (n : Node) (axis : Axis) (uri : Option String) (l : String) : Prop :=
  n.kind = axis.principalKind ∧
    ∃ q, n.name? = some q ∧ q.localName = l ∧ q.namespaceUri.getD "" = uri.getD ""

section Binding

variable (c : StaticContext) {axis : Axis} {q : QName}

theorem passes_name_iff (n : Node) (axis : Axis) (q : QName) :
    n.passes axis (.name (.name q)) = true ↔ n.IsNamed axis q.namespaceUri q.localName := by
  simp [Node.passes, Node.passesNameTest, Node.IsNamed, QName.sameName, Option.any_eq_true]

/-- Binding puts a name without prefix into the namespace of its role. -/
theorem bindNodeTest_unprefixed (axis : Axis) (hpre : q.pre? = none)
    (huri : q.namespaceUri = none) :
    c.bindNodeTest axis (.name (.name q)) =
      .ok (.name (.name
        { q with namespaceUri := c.namespaceOfRole (StaticContext.roleOfAxis axis) })) := by
  have hsome : ¬q.namespaceUri.isSome = true := by
    rw [huri]
    exact Bool.false_ne_true
  rw [StaticContext.bindNodeTest, StaticContext.bindName, hpre]
  simp only [if_neg hsome]
  rfl

/-- The namespace of the role is that of the principal kind, unless the axis is that of the
namespaces. -/
theorem namespaceOfRole_roleOfAxis (axis : Axis) :
    c.namespaceOfRole (StaticContext.roleOfAxis axis) =
      if axis = .namespaces then c.namespaces.defaultElement
      else c.namespaceOfKind axis.principalKind := by
  cases axis <;> rfl

/-- A name test finds a node of the principal kind in a namespace exactly if it is bound to that
namespace. -/
theorem forall_isNamed_iff (axis : Axis) (uri uri' : Option String) (l : String) :
    (∀ n : Node, n.IsNamed axis uri l ↔ n.IsNamed axis uri' l) ↔ uri.getD "" = uri'.getD "" := by
  refine ⟨fun h => ?_, fun h n => by rw [Node.IsNamed, Node.IsNamed, h]⟩
  -- a node with the name in the first namespace has it in the second
  let named : Node :=
    .ofTree ⟨0, true⟩ (.leaf { kind := axis.principalKind, name := some ⟨none, l, uri⟩ })
  rcases (h named).mp ⟨rfl, _, rfl, rfl, rfl⟩ with ⟨-, q, hq, -, huri⟩
  rw [← huri, ← Option.some.inj hq]

end Binding

/-! ## 2. Namespace nodes by name -/

section Evaluation

variable {c : StaticContext} {q : QName} {n : Node}

/-- Whether the node is a namespace node with a name that is in no namespace, if it has one. -/
def Node.NamesPrefix (n : Node) : Prop :=
  n.kind = .namespaceNode ∧ ∀ q, n.name? = some q → q.namespaceUri.getD "" = ""

theorem passes_namespaces_iff {m : Node} (hm : m.NamesPrefix) (q : QName) (hl : q.localName ≠ "") :
    m.passes .namespaces (.name (.name q)) = true ↔
      q.namespaceUri.getD "" = "" ∧ m.declaredPrefix = q.localName := by
  rw [passes_name_iff, Node.IsNamed, Node.declaredPrefix]
  cases hname : m.name? with
  | none => simp [hl.symm]
  | some q' =>
    have huri := hm.2 q' hname
    simp [hm.1, huri, Axis.principalKind, and_comm, eq_comm (a := "")]

/-- A name finds the namespace node in scope with the prefix, or nothing at all if the name is in a
namespace. -/
theorem found_namespaces_name (q : QName) (hl : q.localName ≠ "")
    (hscope : ∀ m ∈ n.namespacesInScope, m.NamesPrefix) :
    n.found .namespaces (.name (.name q)) =
      if q.namespaceUri.getD "" = ""
        then n.namespacesInScope.filter (·.declaredPrefix == q.localName) else [] := by
  show n.namespacesInScope.filter _ = _
  by_cases huri : q.namespaceUri.getD "" = ""
  · rw [if_pos huri]
    refine List.filter_congr fun m hm => Bool.eq_iff_iff.mpr ?_
    rw [passes_namespaces_iff (hscope m hm) _ hl, beq_iff_eq]
    exact and_iff_right huri
  · rw [if_neg huri, List.filter_eq_nil_iff]
    intro m hm hpass
    exact huri ((passes_namespaces_iff (hscope m hm) _ hl).mp hpass).1

theorem eval_namespaceStep (hpre : q.pre? = none) (huri : q.namespaceUri = none)
    (locals : List ExpandedName) :
    ∃ e, c.bindExpr locals (.path .relative [.axis .namespaces (.name (.name q)) []]) = .ok e ∧
      ∀ env scope n, q.localName ≠ "" → scope.contextItem = .ok (.node n) →
        (∀ m ∈ n.namespacesInScope, m.NamesPrefix) →
        e.eval env scope = .ok
          ((if c.namespaces.defaultElement.getD "" = ""
            then n.namespacesInScope.filter (·.declaredPrefix == q.localName) else []).map
              Item.node) := by
  refine ⟨.path .relative [.axis .namespaces
    (.name (.name { q with namespaceUri := c.namespaces.defaultElement })) []], ?_, ?_⟩
  · simp only [StaticContext.bindExpr, StaticContext.bindSteps, StaticContext.bindExprs,
      bindNodeTest_unprefixed c .namespaces hpre huri]
    rfl
  · intro env scope n hl hfocus hscope
    rw [eval_firstStep, evalStep_axis env hfocus, found_namespaces_name _ (by exact hl) hscope]

end Evaluation

/-! ## 3. Where the two tables agree -/

/-- On every axis a name without prefix is bound to a test for nodes of the principal kind with that
local name.  Their namespace is the default one of elements, on the attribute axis none.  For
namespace nodes it should be none too; it is exactly if there is no default namespace of elements,
and otherwise `namespace::p` finds nothing, whatever is in scope. -/
theorem bindNodeTest_principalKind_iff (c : StaticContext) (axis : Axis) {q : QName}
    (hpre : q.pre? = none) (huri : q.namespaceUri = none) :
    (∃ test, c.bindNodeTest axis (.name (.name q)) = .ok test ∧
      (∀ n : Node, n.passes axis test = true ↔
        n.IsNamed axis (if axis = .attributes then none else c.namespaces.defaultElement)
          q.localName) ∧
      ((∀ n : Node, n.passes axis test = true ↔
          n.IsNamed axis (c.namespaceOfKind axis.principalKind) q.localName) ↔
        (axis = .namespaces → c.namespaces.defaultElement.getD "" = ""))) ∧
    ∀ locals, ∃ e,
      c.bindExpr locals (.path .relative [.axis .namespaces (.name (.name q)) []]) = .ok e ∧
      ∀ env scope n, q.localName ≠ "" → scope.contextItem = .ok (.node n) →
        (∀ m ∈ n.namespacesInScope, m.NamesPrefix) →
        e.eval env scope = .ok
          ((if c.namespaces.defaultElement.getD "" = ""
            then n.namespacesInScope.filter (·.declaredPrefix == q.localName) else []).map
              Item.node) := by
  refine ⟨⟨_, bindNodeTest_unprefixed c axis hpre huri, fun n => ?_, ?_⟩,
    eval_namespaceStep hpre huri⟩
  · rw [passes_name_iff]
    cases axis <;> rfl
  · simp only [passes_name_iff]
    rw [forall_isNamed_iff, namespaceOfRole_roleOfAxis]
    by_cases hax : axis = .namespaces
    · subst hax
      exact (imp_iff_right rfl).symm
    · rw [if_neg hax]
      exact iff_of_true rfl fun h => absurd h hax

/-- The namespace node of the sample element is found by its prefix where there is no default
namespace. -/
theorem bindNodeTest_principalKind_iff_sample :
    let c := StaticContext.initial .empty
    let p := QName.unqualified "p"
    p.pre? = none ∧ p.namespaceUri = none ∧
    ∃ test, c.bindNodeTest .namespaces (.name (.name p)) = .ok test ∧
      ∀ n ∈ Forest.outerNode.namespaces, n.passes .namespaces test = true := by
  intro c p
  refine ⟨rfl, rfl, ?_⟩
  rcases (bindNodeTest_principalKind_iff c .namespaces (q := p) rfl rfl).1 with
    ⟨test, hbind, hpass, -⟩
  refine ⟨test, hbind, fun n hn => (hpass n).mpr ?_⟩
  rcases List.mem_singleton.mp hn with rfl
  exact ⟨rfl, p, rfl, rfl, rfl⟩

/-- With a default namespace of elements the bound test `namespace::p` looks for a name in that
namespace.  It rejects the namespace node with the prefix `p`, which is in scope, is of the
principal kind and has a name without namespace; so the path finds nothing. -/
theorem bindNodeTest_namespaces_default :
    let c := { StaticContext.initial .empty with namespaces := ⟨[], some "urn:d"⟩ }
    let env : Environment := ⟨c, .initial ⟨⟨.epoch, .midnight⟩, some .utc⟩ .utc, .empty, .codepoint⟩
    let scope : Scope := ⟨some ⟨.node Forest.outerNode, 1, 1⟩, []⟩
    let m := Forest.outerNode.below (.namespaceNode 0)
      (.leaf { kind := .namespaceNode, name := some (.unqualified "p"), value := "urn:p" })
    let bound : NodeTest := .name (.name ⟨none, "p", some "urn:d"⟩)
    c.bindNodeTest .namespaces (.name (.name (.unqualified "p"))) = .ok bound ∧
    Forest.outerNode.namespacesInScope.map Node.path = [m.path] ∧
    m.passes .namespaces bound = false ∧
    m.IsNamed .namespaces (c.namespaceOfKind .namespaceNode) "p" ∧
    (Expr.path .relative [.axis .namespaces bound []]).eval env scope = .ok [] := by
  intro c env scope m bound
  refine ⟨rfl, rfl, rfl, ⟨rfl, .unqualified "p", rfl, rfl, rfl⟩, ?_⟩
  rw [eval_firstStep, evalStep_axis env (n := Forest.outerNode) rfl]
  rfl

end XPath
