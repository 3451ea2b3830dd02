import XPath.Proofs.Path
import XPath.Proofs.Tree.NodeSets

/-!
# Set operations

A set operation gives the sorted list of the union, of the intersection or of the difference of the
sets of nodes of its operands.  A set has one such list only, so the laws of sets are laws of the
operations: two expressions with the same nodes have the same value.
-/

namespace XPath

/-! ## 1. Sorting a sequence of nodes -/

/-- Sorting sees a list of nodes as a set: it gives the sorted list of the set, leaves that as it
is, and gives the same for all lists of the set. -/
structure SortsAsSet (l : List Node) : Prop where
  lists : ∃ r : List Node, Sequence.sortDistinct (l.map .node) = .ok (r.map .node) ∧
    Node.Lists r (· ∈ l)
  idempotent : (do Sequence.sortDistinct (← Sequence.sortDistinct (l.map .node))) =
    Sequence.sortDistinct (l.map .node)
  congr : ∀ l' : List Node, (∀ m, m ∈ l' ↔ m ∈ l) →
    Sequence.sortDistinct (l'.map .node) = Sequence.sortDistinct (l.map .node)

theorem sortsAsSet {f : Forest} {s : Node → Prop} {l : List Node} (hs : f.Comparable s)
    (hl : ∀ m ∈ l, s m) : SortsAsSet l := by
  rcases Node.exists_sortDistinct hs hl with ⟨r, hsort, hlists⟩
  have hvalue : Sequence.sortDistinct (l.map .node) = .ok (r.map .node) := by
    rw [sortDistinct_map_node, hsort]
    rfl
  refine ⟨⟨r, hvalue, hlists⟩, ?_, fun l' h => ?_⟩
  · rw [hvalue]
    show Sequence.sortDistinct (r.map .node) = _
    rw [sortDistinct_map_node, Node.sortDistinct_of_pairwise hlists.sorted]
    rfl
  · rw [sortDistinct_map_node, sortDistinct_map_node,
      Node.sortDistinct_congr hs hl fun m => (h m).symm]

theorem sortsAsSet_of_origin_eq {f : Forest} {l : List Node} (hl : ∀ m ∈ l, m ∈ f)
    (hone : ∀ m ∈ l, ∀ n ∈ l, m.origin = n.origin) : SortsAsSet l := by
  have hs : f.Comparable (· ∈ l) := ⟨hl, fun m n hm hn => .inr (hone m hm n hn)⟩
  exact sortsAsSet hs fun _ hm => hm

/-- Where trees have no order between them, nodes are not sorted if they are of different trees,
and only then. -/
theorem sortDistinct_error_iff {f : Forest} {l : List Node} (hf : f.ranked = false)
    (hl : ∀ m ∈ l, m ∈ f) :
    (∃ e, Sequence.sortDistinct (l.map .node) = .error e ∧ e.errorCode = .FOER0000) ↔
      ∃ m ∈ l, ∃ n ∈ l, m.origin ≠ n.origin := by
  by_cases htwo : ∃ m ∈ l, ∃ n ∈ l, m.origin ≠ n.origin
  · have herror : Sequence.sortDistinct (l.map .node) = .error .noDocumentOrder := by
      rw [sortDistinct_map_node, Node.sortDistinct_eq_error hf hl htwo]
      rfl
    exact ⟨fun _ => htwo, fun _ => ⟨_, herror, Error.errorCode_of _ _⟩⟩
  · have hone : ∀ m ∈ l, ∀ n ∈ l, m.origin = n.origin := fun m hm n hn =>
      Decidable.byContradiction fun ho => htwo ⟨m, hm, n, hn, ho⟩
    rcases (sortsAsSet_of_origin_eq hl hone).lists with ⟨r, hvalue, -⟩
    refine ⟨?_, fun h => absurd h htwo⟩
    rintro ⟨e, herror, -⟩
    rw [hvalue] at herror
    cases herror

/-! ## 2. One operation -/

namespace SetOp

/-- What the operation says of a node of the result, by whether the operands have it. -/
def Holds : SetOp → Prop → Prop → Prop
  | union, p, q => p ∨ q
  | intersect, p, q => p ∧ q
  | except, p, q => p ∧ ¬ q

variable {f : Forest} {s : Node → Prop} {ms ns : List Node}

theorem contains_iff_mem {m : Node} (hm : m ∈ f) (hns : ∀ n ∈ ns, n ∈ f) :
    ns.contains m = true ↔ m ∈ ns := by
  rw [List.contains_iff_exists_mem_beq]
  refine ⟨?_, fun h => ⟨m, h, (Forest.same_iff_eq hm hm).mpr rfl⟩⟩
  rintro ⟨n, hn, hsame⟩
  rw [(Forest.same_iff_eq hm (hns n hn)).mp hsame]
  exact hn

/-- The operation gives the nodes that it says, in document order. -/
theorem apply_spec (op : SetOp) (hs : f.Comparable s) (hms : ∀ m ∈ ms, s m)
    (hns : ∀ n ∈ ns, s n) :
    ∃ r, op.apply ms ns = .ok r ∧ Node.Lists r fun m => op.Holds (m ∈ ms) (m ∈ ns) := by
  have hcontains : ∀ m ∈ ms, (ns.contains m = true ↔ m ∈ ns) := fun m hm =>
    contains_iff_mem (hs.mem m (hms m hm)) fun n hn => hs.mem n (hns n hn)
  cases op with
  | union =>
    have hall : ∀ m ∈ ms ++ ns, s m := fun m hm => (List.mem_append.mp hm).elim (hms m) (hns m)
    rcases Node.exists_sortDistinct hs hall with ⟨r, hsort, hlists⟩
    exact ⟨r, hsort, hlists.congr fun m => List.mem_append⟩
  | intersect => exact Node.exists_sortDistinct_filter hs hms hcontains
  | except =>
    refine Node.exists_sortDistinct_filter hs hms fun m hm => ?_
    rw [Bool.not_eq_true', ← Bool.not_eq_true]
    exact not_congr (hcontains m hm)

end SetOp

/-! ## 3. Expressions with nodes of a forest -/

/-- The value of the expression is a sequence of nodes of the forest. -/
structure Forest.Yields (f : Forest) (env : Environment) (scope : Scope) (e : Expr)
    (l : List Node) : Prop where
  value : e.eval env scope = .ok (l.map Item.node)
  mem : ∀ m ∈ l, m ∈ f

/-- Set operations on nodes of the forest give exactly the union, the intersection and the
difference of their operands, in document order, and they have the laws of these. -/
structure Forest.HasSetAlgebra (f : Forest) (env : Environment) (scope : Scope) : Prop where
  lists : ∀ (op : SetOp) (a b : Expr) (A B : List Node),
    f.Yields env scope a A → f.Yields env scope b B →
    ∃ r : List Node, (Expr.setOperation op a b).eval env scope = .ok (r.map Item.node) ∧
      Node.Lists r fun m => op.Holds (m ∈ A) (m ∈ B)
  comm : ∀ (op : SetOp) (a b : Expr) (A B : List Node), op ≠ .except →
    f.Yields env scope a A → f.Yields env scope b B →
    (Expr.setOperation op a b).eval env scope = (Expr.setOperation op b a).eval env scope
  assoc : ∀ (op : SetOp) (a b c : Expr) (A B C : List Node), op ≠ .except →
    f.Yields env scope a A → f.Yields env scope b B → f.Yields env scope c C →
    (Expr.setOperation op (.setOperation op a b) c).eval env scope =
      (Expr.setOperation op a (.setOperation op b c)).eval env scope
  partition : ∀ (a b : Expr) (A B : List Node),
    f.Yields env scope a A → f.Yields env scope b B →
    (Expr.setOperation .union (.setOperation .intersect a b)
      (.setOperation .except a b)).eval env scope = Sequence.sortDistinct (A.map Item.node)

section Expressions

variable {f : Forest} {env : Environment} {scope : Scope} {a b e e' : Expr} {A B l l' : List Node}
  {p q : Node → Prop}

theorem Forest.Yields.setOperation (hf : f.ranked = true) (op : SetOp)
    (ha : f.Yields env scope a A) (hb : f.Yields env scope b B) :
    ∃ r, f.Yields env scope (.setOperation op a b) r ∧
      Node.Lists r fun m => op.Holds (m ∈ A) (m ∈ B) := by
  rcases op.apply_spec (Forest.comparable_of_ranked hf) ha.mem hb.mem with ⟨r, hr, hlists⟩
  refine ⟨r, ⟨?_, fun m hm => ?_⟩, hlists⟩
  · rw [Expr.eval, ha.value, hb.value]
    have hoperand : ∀ l : List Node, Operand.ofSetOperation op (l.map .node) = .ok l :=
      mapM_map_node fun _ => rfl
    show (do
      let ms ← Operand.ofSetOperation op (A.map .node)
      let ns ← Operand.ofSetOperation op (B.map .node)
      return (← op.apply ms ns).map Item.node) = _
    rw [hoperand, hoperand]
    show (do return (← op.apply A B).map Item.node) = _
    rw [hr]
    rfl
  · have hm := (hlists.mem_iff m).mp hm
    cases op with
    | union => exact hm.elim (ha.mem m) (hb.mem m)
    | intersect => exact ha.mem m hm.1
    | except => exact ha.mem m hm.1

/-- Expressions whose values list one set have one value. -/
theorem Forest.Yields.eval_eq (hf : f.ranked = true) (h : f.Yields env scope e l)
    (h' : f.Yields env scope e' l') (hl : Node.Lists l p) (hl' : Node.Lists l' q)
    (hpq : ∀ m, p m ↔ q m) : e.eval env scope = e'.eval env scope := by
  have hmem : ∀ m, q m → m ∈ f := fun m hm => h'.mem m ((hl'.mem_iff m).mpr hm)
  rw [h.value, h'.value, Node.Lists.unique (Forest.comparable_of_ranked hf) hmem (hl.congr hpq) hl']

theorem Forest.hasSetAlgebra (hf : f.ranked = true) (env : Environment) (scope : Scope) :
    f.HasSetAlgebra env scope where
  lists op a b A B ha hb := by
    rcases ha.setOperation hf op hb with ⟨r, hr, hlists⟩
    exact ⟨r, hr.value, hlists⟩
  comm op a b A B hop ha hb := by
    rcases ha.setOperation hf op hb with ⟨r, hr, hlists⟩
    rcases hb.setOperation hf op ha with ⟨r', hr', hlists'⟩
    refine hr.eval_eq hf hr' hlists hlists' fun m => ?_
    cases op with
    | union => exact or_comm
    | intersect => exact and_comm
    | except => exact absurd rfl hop
  assoc op a b c A B C hop ha hb hc := by
    rcases ha.setOperation hf op hb with ⟨r, hr, hlists⟩
    rcases hr.setOperation hf op hc with ⟨r₁, hr₁, hlists₁⟩
    rcases hb.setOperation hf op hc with ⟨r', hr', hlists'⟩
    rcases ha.setOperation hf op hr' with ⟨r₂, hr₂, hlists₂⟩
    refine hr₁.eval_eq hf hr₂ hlists₁ hlists₂ fun m => ?_
    rw [hlists.mem_iff, hlists'.mem_iff]
    cases op with
    | union => exact or_assoc
    | intersect => exact and_assoc
    | except => exact absurd rfl hop
  partition a b A B ha hb := by
    rcases ha.setOperation hf .intersect hb with ⟨r, hr, hlists⟩
    rcases ha.setOperation hf .except hb with ⟨r', hr', hlists'⟩
    rcases hr.setOperation hf .union hr' with ⟨r'', hr'', hlists''⟩
    -- a node of the first operand is in the second or not
    have hmem : ∀ m, SetOp.union.Holds (m ∈ r) (m ∈ r') ↔ m ∈ A := by
      intro m
      show m ∈ r ∨ m ∈ r' ↔ m ∈ A
      rw [hlists.mem_iff, hlists'.mem_iff]
      show (m ∈ A ∧ m ∈ B) ∨ (m ∈ A ∧ m ∉ B) ↔ m ∈ A
      rw [← and_or_left, and_iff_left (Classical.em _)]
    have hsort := (Node.sortDistinct_eq_ok_iff (Forest.comparable_of_ranked hf) ha.mem).mpr
      (hlists''.congr hmem)
    rw [hr''.value, sortDistinct_map_node, hsort]
    rfl

end Expressions

/-! ## 4. The algebra of node sets -/

/-- In a ranked forest all lists of nodes are sorted as sets, and set operations have the laws of
sets.  In a forest without an order between its trees, sorting fails exactly for nodes of different
trees, and all other lists are sorted as sets. -/
theorem nodeSets_algebra {f g : Forest} (hf : f.ranked = true) (hg : g.ranked = false) :
    (∀ l : List Node, (∀ m ∈ l, m ∈ f) → SortsAsSet l) ∧
    (∀ env scope, f.HasSetAlgebra env scope) ∧
    (∀ l : List Node, (∀ m ∈ l, m ∈ g) →
      ((∃ e, Sequence.sortDistinct (l.map .node) = .error e ∧ e.errorCode = .FOER0000) ↔
        ∃ m ∈ l, ∃ n ∈ l, m.origin ≠ n.origin) ∧
      ((∀ m ∈ l, ∀ n ∈ l, m.origin = n.origin) → SortsAsSet l)) := by
  refine ⟨fun l hl => sortsAsSet (Forest.comparable_of_ranked hf) hl, Forest.hasSetAlgebra hf,
    fun l hl => ⟨sortDistinct_error_iff hg hl, sortsAsSet_of_origin_eq hl⟩⟩

/-- Two documents with an order between them, and the same two without. -/
theorem nodeSets_algebra_sample :
    let unranked : Forest := { Forest.sample with ranked := false }
    let second := Tree.node { kind := .document } [] [] [.leaf { kind := .comment, value := "d" }]
    let roots (ranked : Bool) :=
      [Node.ofTree ⟨1, ranked⟩ second, Node.ofTree ⟨0, ranked⟩ Forest.sampleDocument]
    (∀ m ∈ roots true, m ∈ Forest.sample) ∧ (∀ m ∈ roots false, m ∈ unranked) ∧
    SortsAsSet (roots true) ∧ (∀ env scope, Forest.sample.HasSetAlgebra env scope) ∧
    (∃ e, Sequence.sortDistinct ((roots false).map .node) = .error e ∧
      e.errorCode = .FOER0000) ∧
    SortsAsSet ((roots false).take 1) := by
  intro unranked second roots
  have hranked : ∀ m ∈ roots true, m ∈ Forest.sample := by
    refine List.forall_mem_cons.mpr ⟨?_, List.forall_mem_singleton.mpr ?_⟩
    · exact ⟨rfl, _, rfl, .top⟩
    · exact ⟨rfl, _, rfl, .top⟩
  have hunranked : ∀ m ∈ roots false, m ∈ unranked := by
    refine List.forall_mem_cons.mpr ⟨?_, List.forall_mem_singleton.mpr ?_⟩
    · exact ⟨rfl, _, rfl, .top⟩
    · exact ⟨rfl, _, rfl, .top⟩
  rcases nodeSets_algebra (f := Forest.sample) (g := unranked) rfl rfl with ⟨hsorts, hops, hfails⟩
  refine ⟨hranked, hunranked, hsorts _ hranked, hops, ?_, ?_⟩
  · exact (hfails _ hunranked).1.mpr ⟨Node.ofTree ⟨1, false⟩ second, List.mem_cons_self,
      Node.ofTree ⟨0, false⟩ Forest.sampleDocument, List.mem_cons_of_mem _ List.mem_cons_self,
      by decide⟩
  · refine (hfails _ fun m hm => hunranked m (List.mem_of_mem_take hm)).2 fun m hm n hn => ?_
    rw [List.mem_singleton.mp hm, List.mem_singleton.mp hn]

end XPath
