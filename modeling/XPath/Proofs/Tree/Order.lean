import XPath.Proofs.Tree.Place
import XPath.Tree.Order

/-!
# Document order by paths

The way up from the root to a node takes one branch after the other.  Comparing two such ways at
the place where they part is the same as comparing the two lists of branches lexicographically,
where the attributes of a node come before its namespace nodes, and these before its children.
Since the lists of branches are linearly ordered, so are the nodes of a forest.
-/

namespace XPath

/-! ## 1. The order of paths -/

theorem ordering_then_of_ne {o : Ordering} (h : o ≠ .eq) (o' : Ordering) : o.then o' = o := by
  cases o with
  | eq => exact absurd rfl h
  | lt | gt => rfl

namespace Branch

/-- The group of a branch among the branches of a node, and the place in its group. -/
def rank : Branch → Nat × Nat
  | attributeNode i => (0, i)
  | namespaceNode i => (1, i)
  | child i => (2, i)

theorem rank_injective {a b : Branch} (h : a.rank = b.rank) : a = b := by
  cases a <;> cases b <;> simp_all [rank]

/-- The order of the branches of one node. -/
def compare : Branch → Branch → Ordering :=
  compareLex (compareOn fun b => b.rank.1) (compareOn fun b => b.rank.2)

instance : Std.TransCmp compare := inferInstanceAs (Std.TransCmp (compareLex _ _))

instance : Std.LawfulEqCmp compare where
  eq_of_compare {a b} h := by
    rw [compare, compareLex_eq_eq, compareOn, compareOn] at h
    have h1 := Std.LawfulEqOrd.eq_of_compare h.1
    have h2 := Std.LawfulEqOrd.eq_of_compare h.2
    exact rank_injective (Prod.ext h1 h2)

theorem compare_self (b : Branch) : compare b b = .eq := Std.ReflCmp.compare_self

/-- The lexicographic order of paths; a path comes before its continuations. -/
abbrev comparePaths : List Branch → List Branch → Ordering := List.compareLex compare

theorem comparePaths_cons (a b : Branch) (as bs : List Branch) :
    comparePaths (a :: as) (b :: bs) = (compare a b).then (comparePaths as bs) :=
  List.compareLex_cons_cons

theorem comparePaths_append (p as bs : List Branch) :
    comparePaths (p ++ as) (p ++ bs) = comparePaths as bs := by
  induction p with
  | nil => rfl
  | cons b p ih =>
    rw [List.cons_append, List.cons_append, comparePaths_cons, compare_self]
    exact ih

theorem comparePaths_self (p : List Branch) : comparePaths p p = .eq := Std.ReflCmp.compare_self

/-- Paths that part at a node are ordered by the branches that they take there. -/
theorem comparePaths_of_ne (p as bs : List Branch) {a b : Branch} (h : a ≠ b) :
    comparePaths (p ++ a :: as) (p ++ b :: bs) = compare a b := by
  rw [comparePaths_append, comparePaths_cons]
  have hne : compare a b ≠ .eq := fun he => h (Std.LawfulEqCmp.eq_of_compare he)
  exact ordering_then_of_ne hne _

end Branch

/-! ## 2. Ways through a tree -/

namespace Node

theorem path_below (n : Node) (b : Branch) (t : Tree) : (n.below b t).path = n.path ++ [b] := by
  simp only [path, below, List.map_cons, List.reverse_cons]

theorem ancestors_below (n : Node) (b : Branch) (t : Tree) :
    (n.below b t).ancestors = n :: n.ancestors := rfl

theorem wayFromRoot_below (n : Node) (b : Branch) (t : Tree) :
    (n.below b t).wayFromRoot = n.wayFromRoot ++ [n.below b t] := by
  simp only [wayFromRoot, ancestorsOrSelf, ancestors_below, List.reverse_cons]

theorem root_below (n : Node) (b : Branch) (t : Tree) : (n.below b t).root = n.root := by
  rw [root, ancestors_below, List.getLastD_cons]
  rfl

theorem below_same_iff (n : Node) (b c : Branch) (t u : Tree) :
    (n.below b t == n.below c u) = true ↔ b = c := by
  rw [same_iff, path_below, path_below, List.append_cancel_left_eq, List.cons.injEq]
  exact ⟨fun h => h.2.1, fun h => ⟨rfl, h, rfl⟩⟩

/-- The nodes `way` lead down from a node to another one by the branches `bs`. -/
inductive Way : Node → List Node → List Branch → Node → Prop
  | here (n : Node) : Way n [] [] n
  | down {n m : Node} {b : Branch} {t : Tree} {way : List Node} {bs : List Branch} :
    n.tree.below? b = some t → Way (n.below b t) way bs m → Way n (n.below b t :: way) (b :: bs) m

namespace Way

variable {f : Forest} {n m k : Node} {way : List Node} {bs : List Branch}

theorem append {way' : List Node} {cs : List Branch} (h : Way n way bs m) (h' : Way m way' cs k) :
    Way n (way ++ way') (bs ++ cs) k := by
  induction h with
  | here n => exact h'
  | down hb _ ih => exact .down hb (ih h')

theorem snoc (h : Way n way bs m) {b : Branch} {t : Tree} (hb : m.tree.below? b = some t) :
    Way n (way ++ [m.below b t]) (bs ++ [b]) (m.below b t) :=
  h.append (.down hb (.here _))

theorem mem (h : Way n way bs m) (hn : n ∈ f) : m ∈ f := by
  induction h with
  | here _ => exact hn
  | down hb _ ih => exact ih (Forest.mem_below hn hb)

theorem path_eq (h : Way n way bs m) : m.path = n.path ++ bs := by
  induction h with
  | here _ => rw [List.append_nil]
  | down _ _ ih => rw [ih, path_below, List.append_assoc, List.singleton_append]

theorem origin_eq (h : Way n way bs m) : m.origin = n.origin := by
  induction h with
  | here _ => rfl
  | down _ _ ih => exact ih

theorem root_eq (h : Way n way bs m) : m.root = n.root := by
  induction h with
  | here _ => rfl
  | down _ _ ih => rw [ih, root_below]

theorem wayFromRoot_eq (h : Way n way bs m) : m.wayFromRoot = n.wayFromRoot ++ way := by
  induction h with
  | here _ => rw [List.append_nil]
  | down _ _ ih => rw [ih, wayFromRoot_below, List.append_assoc, List.singleton_append]

end Way

/-- A way leads from the root to every place. -/
theorem way_of_place {root t : Tree} {above : List (Tree × Branch)} (o : Origin)
    (h : root.Place t above) :
    ∃ way, (⟨o, t, above⟩ : Node).wayFromRoot = ofTree o root :: way ∧
      Way (ofTree o root) way (⟨o, t, above⟩ : Node).path ⟨o, t, above⟩ := by
  induction h with
  | top => exact ⟨[], rfl, .here _⟩
  | @inside p t b above hp hb ih =>
    rcases ih with ⟨way, hway, hw⟩
    -- the way to the parent is extended by the branch that leads on
    have hbelow : (⟨o, t, (p, b) :: above⟩ : Node) = (⟨o, p, above⟩ : Node).below b t := rfl
    refine ⟨way ++ [(⟨o, p, above⟩ : Node).below b t], ?_, ?_⟩
    · rw [hbelow, wayFromRoot_below, hway, List.cons_append]
    · rw [hbelow, path_below]
      exact hw.snoc hb

theorem root_of_place {root t : Tree} {above : List (Tree × Branch)} (o : Origin)
    (h : root.Place t above) : (⟨o, t, above⟩ : Node).root = ofTree o root := by
  induction h with
  | top => rfl
  | @inside p t b above _ _ ih =>
    show ((⟨o, p, above⟩ : Node) :: (⟨o, p, above⟩ : Node).ancestors).getLastD _ = _
    rw [List.getLastD_cons]
    exact ih

end Node

/-! ## 3. The places directly below a node -/

namespace Tree

/-- The number of a branch among the attributes, the namespace nodes and the children. -/
def innerIndex (t : Tree) : Branch → Nat
  | .attributeNode i => i
  | .namespaceNode i => t.attributes.length + i
  | .child i => t.attributes.length + t.namespaces.length + i

theorem lt_length_of_below? {t u : Tree} {b : Branch} (h : t.below? b = some u) :
    match b with
    | .attributeNode i => i < t.attributes.length
    | .namespaceNode i => i < t.namespaces.length
    | .child i => i < t.children.length := by
  cases b with
  | attributeNode i => exact (List.getElem?_eq_some_iff.mp h).1
  | namespaceNode i => exact (List.getElem?_eq_some_iff.mp h).1
  | child i => exact (List.getElem?_eq_some_iff.mp h).1

/-- Within a group the places decide, and the groups follow each other. -/
theorem compare_innerIndex {t u v : Tree} {b c : Branch} (hb : t.below? b = some u)
    (hc : t.below? c = some v) :
    Ord.compare (t.innerIndex b) (t.innerIndex c) = b.compare c := by
  have hlb := lt_length_of_below? hb
  have hlc := lt_length_of_below? hc
  -- within a group the places are compared, across groups the lengths of the earlier groups decide
  cases b <;> cases c <;>
    simp only [innerIndex, Branch.compare, compareLex, compareOn, Branch.rank] at *
  all_goals first
    | rw [Nat.compare_eq_lt.mpr (by omega)]; rfl
    | rw [Nat.compare_eq_gt.mpr (by omega)]; rfl
    | simp only [Nat.compare_eq_ite_lt, Nat.add_lt_add_iff_left]; rfl

end Tree

namespace Node

/-- A node among the nodes that one kind of branch leads to. -/
theorem findIdx?_below (n : Node) (branch : Nat → Branch)
    (hinj : ∀ i j, branch i = branch j → i = j) (l : List Tree) {i : Nat} (hi : i < l.length)
    (t : Tree) :
    (l.mapIdx fun j u => n.below (branch j) u).findIdx? (· == n.below (branch i) t) = some i := by
  rw [List.findIdx?_eq_some_iff_getElem]
  refine ⟨by rwa [List.length_mapIdx], ?_, ?_⟩
  · rw [List.getElem_mapIdx, below_same_iff]
  · intro j hj
    rw [List.getElem_mapIdx, below_same_iff]
    intro he
    exact absurd (hinj j i he) (by omega)

/-- Other kinds of branches lead to other nodes. -/
theorem findIdx?_below_eq_none (n : Node) (branch : Nat → Branch) (b : Branch)
    (hne : ∀ i, branch i ≠ b) (l : List Tree) (t : Tree) :
    (l.mapIdx fun j u => n.below (branch j) u).findIdx? (· == n.below b t) = none := by
  rw [List.findIdx?_eq_none_iff]
  intro x hx
  rcases List.mem_mapIdx.mp hx with ⟨j, _, rfl⟩
  rw [Bool.eq_false_iff, ne_eq, below_same_iff]
  exact hne j

theorem findIdx?_inner (n : Node) {b : Branch} {t : Tree} (hb : n.tree.below? b = some t) :
    n.inner.findIdx? (· == n.below b t) = some (n.tree.innerIndex b) := by
  have hlt := Tree.lt_length_of_below? hb
  unfold inner attributes namespaces children
  rw [List.findIdx?_append, List.findIdx?_append]
  cases b with
  | attributeNode i =>
    rw [findIdx?_below n .attributeNode (fun _ _ h => Branch.attributeNode.inj h) _ hlt]
    rfl
  | namespaceNode i =>
    -- the attributes are passed over, so their number is added to the place
    rw [findIdx?_below_eq_none n .attributeNode _ (by simp),
      findIdx?_below n .namespaceNode (fun _ _ h => Branch.namespaceNode.inj h) _ hlt]
    simp only [Option.map_some, Option.none_or, Option.some_or, List.length_mapIdx,
      Tree.innerIndex, Nat.add_comm]
  | child i =>
    rw [findIdx?_below_eq_none n .attributeNode _ (by simp),
      findIdx?_below_eq_none n .namespaceNode _ (by simp),
      findIdx?_below n .child (fun _ _ h => Branch.child.inj h) _ hlt]
    simp only [Option.map_some, Option.map_none, Option.none_or, List.length_append,
      List.length_mapIdx, Tree.innerIndex, Nat.add_comm]

theorem compareInner_below (n : Node) {b c : Branch} {t u : Tree}
    (hb : n.tree.below? b = some t) (hc : n.tree.below? c = some u) :
    n.compareInner (n.below b t) (n.below c u) = b.compare c := by
  rw [compareInner, findIdx?_inner n hb, findIdx?_inner n hc]
  exact Tree.compare_innerIndex hb hc

end Node

end XPath
