import XPath.Eval
import XPath.Library.Nodes
import XPath.Proofs.DeepEqual

/-!
# Sameness of names

Whether two nodes have the same expanded name is asked in four ways: by a name test, by a kind test,
by deep equality and by comparing the results of `node-name`.  The two tests take an empty namespace
for none, the two comparisons tell them apart.  So the four agree on all nodes but those with one
local name of which one is in no namespace and the other in the empty one.
-/

namespace XPath

/-! ## 1. Two ways to compare names -/

namespace QName

variable {p q : QName}

/-- One name has no namespace, the other an empty one; otherwise they are the same. -/
def DiffersByEmptyNamespace (p q : QName) : Prop :=
  p.localName = q.localName ∧
    (p.namespaceUri = none ∧ q.namespaceUri = some "" ∨
      p.namespaceUri = some "" ∧ q.namespaceUri = none)

theorem sameName_iff : p.sameName q = true ↔
    p.localName = q.localName ∧ p.namespaceUri.getD "" = q.namespaceUri.getD "" := by
  rw [sameName, Bool.and_eq_true, beq_iff_eq, beq_iff_eq]

theorem expanded_eq_iff : p.expanded = q.expanded ↔
    p.localName = q.localName ∧ p.namespaceUri = q.namespaceUri := by
  rw [expanded, expanded, ExpandedName.mk.injEq, and_comm]

theorem getD_eq_iff (u v : Option String) : u.getD "" = v.getD "" ↔
    u = v ∨ (u = none ∧ v = some "" ∨ u = some "" ∧ v = none) := by
  rcases u with _ | u <;> rcases v with _ | v <;> simp [eq_comm]

/-- Names are the same if their expanded names are equal, or if they differ by an empty
namespace. -/
theorem sameName_iff_expanded :
    p.sameName q = true ↔ p.expanded = q.expanded ∨ p.DiffersByEmptyNamespace q := by
  rw [sameName_iff, expanded_eq_iff, getD_eq_iff, DiffersByEmptyNamespace, and_or_left]

theorem DiffersByEmptyNamespace.expanded_ne (h : p.DiffersByEmptyNamespace q) :
    p.expanded ≠ q.expanded := by
  rcases h with ⟨-, ⟨hp, hq⟩ | ⟨hp, hq⟩⟩ <;>
    simp [expanded_eq_iff, hp, hq]

theorem sameName_eq_iff :
    p.sameName q = (p.expanded == q.expanded) ↔ ¬p.DiffersByEmptyNamespace q := by
  rw [Bool.eq_iff_iff, beq_iff_eq, sameName_iff_expanded]
  refine ⟨fun h hd => hd.expanded_ne (h.mp (.inr hd)), fun h => ?_⟩
  exact or_iff_left h

end QName

/-! ## 2. The four questions -/

/-- The test for elements or attributes with a name. -/
def KindTest.named (k : NodeKind) (q : QName) : KindTest :=
  if k = .attributeNode then .attributeNode (some (.name q)) none
  else .element (some (.name q)) none false

section Questions

variable {a b : Node} {q : QName}

theorem passes_name_eq {axis : Axis} (hk : axis.principalKind = a.kind) :
    a.passes axis (.name (.name q)) = a.hasName q := by
  show (a.kind == axis.principalKind && a.passesNameTest (.name q)) = _
  rw [hk, beq_self_eq_true, Bool.true_and]
  rfl

theorem passesKind_named_eq (hk : a.kind = .element ∨ a.kind = .attributeNode) :
    a.passesKind (.named a.kind q) = a.hasName q := by
  rcases hk with hk | hk <;> simp [KindTest.named, hk, Node.passesKind, Node.passesName]

theorem names_eq (hq : b.name? = some q) :
    DeepEquality.names a.tree b.tree = a.name?.any fun p => p.expanded == q.expanded := by
  have hb : b.tree.info.name = some q := hq
  show (a.name?.map QName.expanded == b.tree.info.name.map QName.expanded) = _
  rw [hb]
  cases a.name? with
  | none => rfl
  | some p => rfl

theorem nodeName_eq (call : Call) (hk : a.kind = .element ∨ a.kind = .attributeNode) :
    Library.nodeName call [[.node a]] =
      .ok (Library.atomicResult (a.name?.map Atomic.qname)) := by
  have hname : a.nameForFunctions? = a.name? := by
    unfold Node.nameForFunctions?
    rcases hk with hk | hk <;> rw [hk]
  rw [← hname]
  rfl

theorem ofComparison_name (q? : Option QName) :
    Operand.ofComparison (Library.atomicResult (q?.map Atomic.qname)) =
      .ok (q?.map Atomic.qname) := by
  cases q? with
  | none => rfl
  | some q => rfl

/-- Comparing the names of two nodes gives nothing if one of them has no name. -/
theorem eval_eq_nodeName {env : Environment} {scope : Scope} {e e' : Expr} (call : Call)
    (ha : a.kind = .element ∨ a.kind = .attributeNode)
    (hb : b.kind = .element ∨ b.kind = .attributeNode) (hq : b.name? = some q)
    (he : e.eval env scope = Library.nodeName call [[.node a]])
    (he' : e'.eval env scope = Library.nodeName call [[.node b]]) :
    (Expr.valueComparison .eq e e').eval env scope =
      .ok ((a.name?.map fun _ => Item.boolean (DeepEquality.names a.tree b.tree)).toList) := by
  rw [Expr.eval, he, he', nodeName_eq call ha, nodeName_eq call hb, names_eq hq, hq]
  simp only [bind, Except.bind, ofComparison_name]
  cases a.name? with
  | none => rfl
  | some p => rfl

end Questions

/-! ## 3. Where they agree -/

/-- For two elements or two attributes, the name test and the kind test with the name of the second
give one answer, deep equality and `node-name` another.  The first takes an empty namespace for
none, the second does not.  So the answers are the same unless the names differ by an empty
namespace. -/
theorem name_questions_agree_iff {a b : Node} {q : QName}
    (hk : b.kind = .element ∨ b.kind = .attributeNode) (hab : a.kind = b.kind)
    (hq : b.name? = some q) :
    (∀ axis, Axis.principalKind axis = b.kind → a.passes axis (.name (.name q)) = a.hasName q) ∧
    a.passesKind (.named b.kind q) = a.hasName q ∧
    (∀ (call : Call) env scope (e e' : Expr),
      e.eval env scope = Library.nodeName call [[.node a]] →
      e'.eval env scope = Library.nodeName call [[.node b]] →
      (Expr.valueComparison .eq e e').eval env scope =
        .ok ((a.name?.map fun _ => Item.boolean (DeepEquality.names a.tree b.tree)).toList)) ∧
    (∀ p, a.name? = some p →
      (a.hasName q = true ↔
        p.localName = q.localName ∧ p.namespaceUri.getD "" = q.namespaceUri.getD "") ∧
      (DeepEquality.names a.tree b.tree = true ↔
        p.localName = q.localName ∧ p.namespaceUri = q.namespaceUri)) ∧
    (a.hasName q = DeepEquality.names a.tree b.tree ↔
      ∀ p, a.name? = some p → ¬p.DiffersByEmptyNamespace q) := by
  have hka : a.kind = .element ∨ a.kind = .attributeNode := hab ▸ hk
  refine ⟨fun axis hax => passes_name_eq (hax.trans hab.symm), ?_,
    fun call env scope e e' he he' => eval_eq_nodeName call hka hk hq he he', fun p hp => ?_, ?_⟩
  · rw [← hab]
    exact passesKind_named_eq hka
  · rw [names_eq hq, Node.hasName, hp, Option.any_some, Option.any_some, beq_iff_eq]
    exact ⟨QName.sameName_iff, QName.expanded_eq_iff⟩
  · rw [names_eq hq, Node.hasName]
    cases a.name? with
    | none => simp
    | some p =>
      rw [Option.any_some, Option.any_some, QName.sameName_eq_iff]
      simp

/-- An element with the local name `a` and a namespace, or none. -/
def elementNamedA (uri : Option String) : Tree :=
  .leaf { kind := .element, name := some ⟨none, "a", uri⟩ }

theorem name_questions_agree_iff_sample :
    let a : Node := .ofTree ⟨0, true⟩ (elementNamedA (some "urn:a"))
    let b : Node := .ofTree ⟨1, true⟩ (elementNamedA none)
    (b.kind = .element ∨ b.kind = .attributeNode) ∧ a.kind = b.kind ∧
      b.name? = some (.unqualified "a") ∧
      a.hasName (.unqualified "a") = DeepEquality.names a.tree b.tree := by
  intro a b
  refine ⟨.inl rfl, rfl, rfl, ?_⟩
  refine (name_questions_agree_iff (a := a) (b := b) (.inl rfl) rfl rfl).2.2.2.2.mpr ?_
  rintro p hp ⟨-, ⟨huri, -⟩ | ⟨huri, -⟩⟩
  · rw [← Option.some.inj hp] at huri
    cases huri
  · rw [← Option.some.inj hp] at huri
    exact absurd (Option.some.inj huri) (by decide)

/-- Of two elements `a`, one in no namespace and one in the empty namespace, the first passes both
tests with the name of the second; but neither they nor their names are equal. -/
theorem name_questions_disagree_on_empty :
    let a : Node := .ofTree ⟨0, true⟩ (elementNamedA none)
    let b : Node := .ofTree ⟨1, true⟩ (elementNamedA (some ""))
    let q : QName := ⟨none, "a", some ""⟩
    b.name? = some q ∧ a.passes .child (.name (.name q)) = true ∧
    a.passesKind (.element (some (.name q)) none false) = true ∧
    DeepEquality.names a.tree b.tree = false ∧
    Library.deepEqual Library.sampleCall [[.node a], [.node b]] = .ok [.boolean false] ∧
    Library.nodeName Library.sampleCall [[.node a]] = .ok [.atomic (.qname (.unqualified "a"))] ∧
    Library.nodeName Library.sampleCall [[.node b]] = .ok [.atomic (.qname q)] ∧
    Atomic.compare .eq (.qname (.unqualified "a")) (.qname q) .codepoint .utc = .ok false := by
  refine ⟨rfl, rfl, rfl, rfl, rfl, rfl, rfl, rfl⟩

end XPath
