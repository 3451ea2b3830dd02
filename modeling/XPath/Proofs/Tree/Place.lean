import XPath.Tree.Axis

/-!
# Places in forests

A node of a tree is a subtree together with a way up to the root whose branches lead back down to
the subtree.  A forest is a family of well-formed trees, at most one for each rank; the nodes of a
forest are the places in its trees.  Two nodes of a forest for which `==` holds are one node.
-/

namespace XPath

/-! ## 1. Well-formed trees -/

/-- Whether nodes of the kind are attached to their parent without being among its children. -/
def NodeKind.isAttached : NodeKind → Bool
  | attributeNode | namespaceNode => true
  | _ => false

theorem Node.isAttached_eq (n : Node) : n.isAttached = n.kind.isAttached := by
  unfold Node.isAttached NodeKind.isAttached
  cases n.kind <;> rfl

namespace Tree

mutual

/-- Whether attributes and namespace nodes stand in their own lists only, with nothing below
them. -/
def isWellFormed : Tree → Bool
  | node i a n c =>
    (!i.kind.isAttached || (a.isEmpty && n.isEmpty && c.isEmpty)) &&
      a.all (fun t => t.info.kind == .attributeNode) &&
      n.all (fun t => t.info.kind == .namespaceNode) &&
      c.all (fun t => !t.info.kind.isAttached) &&
      (areWellFormed a && areWellFormed n && areWellFormed c)

/-- Whether all trees of a list are well-formed. -/
def areWellFormed : List Tree → Bool
  | [] => true
  | t :: r => isWellFormed t && areWellFormed r

end

theorem areWellFormed_iff {l : List Tree} :
    areWellFormed l = true ↔ ∀ t ∈ l, t.isWellFormed = true := by
  induction l with
  | nil => simp [areWellFormed]
  | cons t r ih => rw [areWellFormed, Bool.and_eq_true, ih, List.forall_mem_cons]

theorem isWellFormed_iff {t : Tree} : t.isWellFormed = true ↔
    (t.info.kind.isAttached = true → t.attributes = [] ∧ t.namespaces = [] ∧ t.children = []) ∧
      (∀ u ∈ t.attributes, u.info.kind = .attributeNode ∧ u.isWellFormed = true) ∧
      (∀ u ∈ t.namespaces, u.info.kind = .namespaceNode ∧ u.isWellFormed = true) ∧
      ∀ u ∈ t.children, u.info.kind.isAttached = false ∧ u.isWellFormed = true := by
  rcases t with ⟨i, a, n, c⟩
  show _ ↔ (i.kind.isAttached = true → a = [] ∧ n = [] ∧ c = []) ∧
    (∀ u ∈ a, u.info.kind = .attributeNode ∧ u.isWellFormed = true) ∧
    (∀ u ∈ n, u.info.kind = .namespaceNode ∧ u.isWellFormed = true) ∧
    ∀ u ∈ c, u.info.kind.isAttached = false ∧ u.isWellFormed = true
  simp only [isWellFormed, Bool.and_eq_true, Bool.or_eq_true, Bool.not_eq_true', List.all_eq_true,
    List.isEmpty_iff, beq_iff_eq, areWellFormed_iff]
  refine ⟨?_, ?_⟩
  · intro h
    rcases h with ⟨⟨⟨⟨hleaf, hak⟩, hnk⟩, hck⟩, ⟨ha, hn⟩, hc⟩
    refine ⟨fun hi => ?_, fun u hu => ⟨hak u hu, ha u hu⟩, fun u hu => ⟨hnk u hu, hn u hu⟩,
      fun u hu => ⟨hck u hu, hc u hu⟩⟩
    rcases hleaf with hno | ⟨⟨h1, h2⟩, h3⟩
    · rw [hi] at hno
      cases hno
    · exact ⟨h1, h2, h3⟩
  · intro h
    rcases h with ⟨hleaf, ha, hn, hc⟩
    refine ⟨⟨⟨⟨?_, fun u hu => (ha u hu).1⟩, fun u hu => (hn u hu).1⟩, fun u hu => (hc u hu).1⟩,
      ⟨fun u hu => (ha u hu).2, fun u hu => (hn u hu).2⟩, fun u hu => (hc u hu).2⟩
    by_cases hi : i.kind.isAttached = true
    · rcases hleaf hi with ⟨h1, h2, h3⟩
      exact .inr ⟨⟨h1, h2⟩, h3⟩
    · exact .inl (Bool.eq_false_iff.mpr hi)

/-- The subtree that a branch leads to. -/
def below? (t : Tree) : Branch → Option Tree
  | .attributeNode i => t.attributes[i]?
  | .namespaceNode i => t.namespaces[i]?
  | .child i => t.children[i]?

section WellFormed

variable {t u : Tree}

theorem isWellFormed_of_below? (h : t.isWellFormed) {b : Branch} (hb : t.below? b = some u) :
    u.isWellFormed := by
  rcases isWellFormed_iff.mp h with ⟨-, ha, hn, hc⟩
  cases b with
  | attributeNode i => exact (ha u (List.mem_of_getElem? hb)).2
  | namespaceNode i => exact (hn u (List.mem_of_getElem? hb)).2
  | child i => exact (hc u (List.mem_of_getElem? hb)).2

theorem kind_of_below?_attribute (h : t.isWellFormed) {i : Nat}
    (hb : t.below? (.attributeNode i) = some u) : u.info.kind = .attributeNode :=
  ((isWellFormed_iff.mp h).2.1 u (List.mem_of_getElem? hb)).1

theorem kind_of_below?_namespace (h : t.isWellFormed) {i : Nat}
    (hb : t.below? (.namespaceNode i) = some u) : u.info.kind = .namespaceNode :=
  ((isWellFormed_iff.mp h).2.2.1 u (List.mem_of_getElem? hb)).1

theorem isAttached_of_below?_child (h : t.isWellFormed) {i : Nat}
    (hb : t.below? (.child i) = some u) : u.info.kind.isAttached = false :=
  ((isWellFormed_iff.mp h).2.2.2 u (List.mem_of_getElem? hb)).1

/-- Nothing is below an attribute or a namespace node. -/
theorem below?_eq_none (h : t.isWellFormed) (hk : t.info.kind.isAttached) (b : Branch) :
    t.below? b = none := by
  rcases (isWellFormed_iff.mp h).1 hk with ⟨ha, hn, hc⟩
  cases b with
  | attributeNode i => rw [below?, ha]; rfl
  | namespaceNode i => rw [below?, hn]; rfl
  | child i => rw [below?, hc]; rfl

end WellFormed

/-! ## 2. Places -/

/-- The trees and branches `above` lead from the root down to the subtree. -/
inductive Place (root : Tree) : Tree → List (Tree × Branch) → Prop
  | top : Place root root []
  | inside {p t : Tree} {b : Branch} {above : List (Tree × Branch)} :
    Place root p above → p.below? b = some t → Place root t ((p, b) :: above)

namespace Place

variable {root t u : Tree} {above above' : List (Tree × Branch)}

theorem isWellFormed (h : Place root t above) (hr : root.isWellFormed) : t.isWellFormed := by
  induction h with
  | top => exact hr
  | inside _ hb ih => exact isWellFormed_of_below? ih hb

/-- The branches alone determine a place. -/
theorem unique (h : Place root t above) (h' : Place root u above')
    (hp : above.map (·.2) = above'.map (·.2)) : t = u ∧ above = above' := by
  induction h generalizing u above' with
  | top =>
    cases h' with
    | top => exact ⟨rfl, rfl⟩
    | inside _ _ => simp at hp
  | @inside p t b above _ hb ih =>
    cases h' with
    | top => simp at hp
    | @inside q _ c above' hq hc =>
      simp only [List.map_cons, List.cons.injEq] at hp
      rcases hp with ⟨rfl, hp⟩
      rcases ih hq hp with ⟨rfl, rfl⟩
      rw [hb] at hc
      exact ⟨Option.some.inj hc, rfl⟩

end Place

end Tree

namespace Node

theorem same_iff {m n : Node} : (m == n) = true ↔ m.origin = n.origin ∧ m.path = n.path := by
  show (m.origin == n.origin && m.path == n.path) = true ↔ _
  rw [Bool.and_eq_true, beq_iff_eq, beq_iff_eq]

theorem same_self (n : Node) : (n == n) = true := same_iff.mpr ⟨rfl, rfl⟩

end Node

/-! ## 3. Forests -/

/-- Well-formed trees by their rank. -/
structure Forest where
  /-- Whether the trees follow each other by their rank, or have no order between them. -/
  ranked : Bool
  tree? : Nat → Option Tree
  wellFormed : ∀ i t, tree? i = some t → t.isWellFormed

namespace Forest

/-- The nodes of a forest. -/
instance : Membership Node Forest where
  mem f n := n.origin.ranked = f.ranked ∧
    ∃ root, f.tree? n.origin.index = some root ∧ root.Place n.tree n.above

variable {f : Forest} {m n p : Node}

theorem isWellFormed_of_mem (h : n ∈ f) : n.tree.isWellFormed := by
  rcases h with ⟨-, root, hr, hp⟩
  exact hp.isWellFormed (f.wellFormed _ root hr)

theorem mem_below (h : n ∈ f) {b : Branch} {t : Tree} (hb : n.tree.below? b = some t) :
    n.below b t ∈ f := by
  rcases h with ⟨hi, root, hr, hp⟩
  exact ⟨hi, root, hr, hp.inside hb⟩

/-- Every node but a root is below its parent. -/
theorem exists_below_of_parent? (h : n ∈ f) (hp : n.parent? = some p) :
    p ∈ f ∧ ∃ b t, p.tree.below? b = some t ∧ n = p.below b t := by
  rcases h with ⟨hi, root, hr, hpl⟩
  rcases n with ⟨o, t, above⟩
  cases hpl with
  | top => simp [Node.parent?] at hp
  | @inside q _ b above hq hb =>
    simp only [Node.parent?, Option.some.injEq] at hp
    subst hp
    exact ⟨⟨hi, root, hr, hq⟩, b, t, hb, rfl⟩

/-- Nodes of a forest are the same if they are at the same place of the same tree. -/
theorem eq_of_path (hm : m ∈ f) (hn : n ∈ f) (ho : m.origin = n.origin)
    (hp : m.path = n.path) : m = n := by
  rcases hm with ⟨-, root, hr, hpm⟩
  rcases hn with ⟨-, root', hr', hpn⟩
  rw [ho, hr'] at hr
  cases hr
  rcases hpm.unique hpn (List.reverse_inj.mp hp) with ⟨htree, habove⟩
  cases m
  cases n
  simp_all

theorem same_iff_eq (hm : m ∈ f) (hn : n ∈ f) : (m == n) = true ↔ m = n := by
  rw [Node.same_iff]
  refine ⟨?_, ?_⟩
  · intro h
    exact eq_of_path hm hn h.1 h.2
  · intro he
    exact ⟨congrArg Node.origin he, congrArg Node.path he⟩

/-! ## 4. A forest of two documents -/

/-- An element with an attribute, a namespace node, a text and another element with a comment. -/
def sampleElement : Tree :=
  .node { kind := .element, name := some (.unqualified "a") }
    [.leaf { kind := .attributeNode, name := some (.unqualified "x"), value := "1" }]
    [.leaf { kind := .namespaceNode, name := some (.unqualified "p"), value := "urn:p" }]
    [.leaf { kind := .text, value := "t" },
     .node { kind := .element, name := some (.unqualified "b") } [] []
      [.leaf { kind := .comment, value := "c" }]]

def sampleDocument : Tree := .node { kind := .document } [] [] [sampleElement]

/-- A document with the element, and one with a comment alone. -/
def sample : Forest where
  ranked := true
  tree? := fun
    | 0 => some sampleDocument
    | 1 => some (.node { kind := .document } [] [] [.leaf { kind := .comment, value := "d" }])
    | _ => none
  wellFormed := by
    intro i t h
    match i, h with
    | 0, h => cases h; rfl
    | 1, h => cases h; rfl

/-- The element in the first document. -/
def sampleNode : Node := (Node.ofTree ⟨0, true⟩ sampleDocument).below (.child 0) sampleElement

theorem sampleNode_mem : sampleNode ∈ sample :=
  mem_below (n := Node.ofTree ⟨0, true⟩ sampleDocument) ⟨rfl, _, rfl, .top⟩ rfl

end Forest

end XPath
