import XPath.Proofs.Tree.DocumentOrder

/-!
# Subtrees in preorder

The subtree of a node lists the node, and then the subtrees of its attributes, its namespace nodes
and its children.  The comparison of nodes puts every subtree in exactly this order.
-/

namespace XPath

namespace Node

variable {f : Forest} {m n p : Node}

/-! ## 1. The nodes directly below a node -/

theorem mem_mapIdx_below {n m : Node} {branch : Nat → Branch} {l : List Tree} :
    m ∈ l.mapIdx (fun i t => n.below (branch i) t) ↔
      ∃ i t, l[i]? = some t ∧ m = n.below (branch i) t := by
  rw [List.mem_mapIdx]
  refine ⟨?_, ?_⟩
  · intro h
    rcases h with ⟨i, hi, rfl⟩
    exact ⟨i, l[i], List.getElem?_eq_getElem hi, rfl⟩
  · intro h
    rcases h with ⟨i, t, ht, rfl⟩
    rcases List.getElem?_eq_some_iff.mp ht with ⟨hi, hit⟩
    exact ⟨i, hi, by rw [hit]⟩

theorem mem_attributes_iff : m ∈ n.attributes ↔
    ∃ i t, n.tree.below? (.attributeNode i) = some t ∧ m = n.below (.attributeNode i) t :=
  mem_mapIdx_below

theorem mem_namespaces_iff : m ∈ n.namespaces ↔
    ∃ i t, n.tree.below? (.namespaceNode i) = some t ∧ m = n.below (.namespaceNode i) t :=
  mem_mapIdx_below

theorem mem_children_iff : m ∈ n.children ↔
    ∃ i t, n.tree.below? (.child i) = some t ∧ m = n.below (.child i) t :=
  mem_mapIdx_below

theorem mem_inner_iff : m ∈ n.inner ↔ ∃ b t, n.tree.below? b = some t ∧ m = n.below b t := by
  rw [inner, List.mem_append, List.mem_append, mem_attributes_iff, mem_namespaces_iff,
    mem_children_iff]
  refine ⟨?_, ?_⟩
  · intro h
    rcases h with (⟨i, t, h⟩ | ⟨i, t, h⟩) | ⟨i, t, h⟩
    all_goals exact ⟨_, t, h⟩
  · intro h
    rcases h with ⟨b, t, h⟩
    cases b with
    | attributeNode i => exact .inl (.inl ⟨i, t, h⟩)
    | namespaceNode i => exact .inl (.inr ⟨i, t, h⟩)
    | child i => exact .inr ⟨i, t, h⟩

/-- Two nodes below `n`, of which the first is reached by the earlier branch. -/
def InnerBefore (n x y : Node) : Prop :=
  ∃ b c t u, n.tree.below? b = some t ∧ n.tree.below? c = some u ∧ b.compare c = .lt ∧
    x = n.below b t ∧ y = n.below c u

theorem pairwise_mapIdx_below (n : Node) (branch : Nat → Branch) (l : List Tree)
    (hl : ∀ i t, l[i]? = some t → n.tree.below? (branch i) = some t)
    (hlt : ∀ i j, i < j → (branch i).compare (branch j) = .lt) :
    (l.mapIdx fun i t => n.below (branch i) t).Pairwise n.InnerBefore := by
  rw [List.pairwise_iff_getElem]
  intro i j hi hj hij
  rw [List.length_mapIdx] at hi hj
  rw [List.getElem_mapIdx, List.getElem_mapIdx]
  exact ⟨_, _, _, _, hl i _ (List.getElem?_eq_getElem hi), hl j _ (List.getElem?_eq_getElem hj),
    hlt i j hij, rfl, rfl⟩

theorem pairwise_children (n : Node) : n.children.Pairwise n.InnerBefore :=
  pairwise_mapIdx_below n .child _ (fun _ _ h => h) fun _ _ h => Nat.compare_eq_lt.mpr h

theorem pairwise_attributes (n : Node) : n.attributes.Pairwise n.InnerBefore :=
  pairwise_mapIdx_below n .attributeNode _ (fun _ _ h => h) fun _ _ h => Nat.compare_eq_lt.mpr h

theorem pairwise_namespaces (n : Node) : n.namespaces.Pairwise n.InnerBefore :=
  pairwise_mapIdx_below n .namespaceNode _ (fun _ _ h => h) fun _ _ h => Nat.compare_eq_lt.mpr h

theorem innerBefore_attribute_namespace {x y : Node} (hx : x ∈ n.attributes)
    (hy : y ∈ n.namespaces) : n.InnerBefore x y := by
  rcases mem_attributes_iff.mp hx with ⟨i, t, hi, rfl⟩
  rcases mem_namespaces_iff.mp hy with ⟨j, u, hj, rfl⟩
  exact ⟨_, _, _, _, hi, hj, rfl, rfl, rfl⟩

theorem innerBefore_attribute_child {x y : Node} (hx : x ∈ n.attributes)
    (hy : y ∈ n.children) : n.InnerBefore x y := by
  rcases mem_attributes_iff.mp hx with ⟨i, t, hi, rfl⟩
  rcases mem_children_iff.mp hy with ⟨j, u, hj, rfl⟩
  exact ⟨_, _, _, _, hi, hj, rfl, rfl, rfl⟩

theorem innerBefore_namespace_child {x y : Node} (hx : x ∈ n.namespaces)
    (hy : y ∈ n.children) : n.InnerBefore x y := by
  rcases mem_namespaces_iff.mp hx with ⟨i, t, hi, rfl⟩
  rcases mem_children_iff.mp hy with ⟨j, u, hj, rfl⟩
  exact ⟨_, _, _, _, hi, hj, rfl, rfl, rfl⟩

theorem pairwise_inner (n : Node) : n.inner.Pairwise n.InnerBefore := by
  rw [inner, List.pairwise_append, List.pairwise_append]
  refine ⟨⟨pairwise_attributes n, pairwise_namespaces n, ?_⟩, pairwise_children n, ?_⟩
  · intro x hx y hy
    exact innerBefore_attribute_namespace hx hy
  · intro x hx y hy
    rcases List.mem_append.mp hx with hx | hx
    · exact innerBefore_attribute_child hx hy
    · exact innerBefore_namespace_child hx hy

/-! ## 2. Subtrees -/

theorem sizeOf_lt_of_below? {t u : Tree} {b : Branch} (h : t.below? b = some u) :
    sizeOf u < sizeOf t := by
  cases t with
  | node i a n c =>
    cases b with
    | attributeNode j | namespaceNode j | child j =>
      have hlt := List.sizeOf_lt_of_mem (List.mem_of_getElem? h)
      simp only [Tree.attributes, Tree.namespaces, Tree.children] at hlt
      simp only [Tree.node.sizeOf_spec]
      omega

theorem sizeOf_tree_lt (h : m ∈ n.inner) : sizeOf m.tree < sizeOf n.tree := by
  rcases mem_inner_iff.mp h with ⟨b, t, hb, rfl⟩
  exact sizeOf_lt_of_below? hb

/-- The node and all nodes below it, attributes and namespace nodes included, in preorder. -/
def subtree (n : Node) : List Node :=
  n :: n.inner.attach.flatMap fun ⟨m, _⟩ => subtree m
termination_by sizeOf n.tree
decreasing_by exact sizeOf_tree_lt ‹_›

theorem subtree_eq (n : Node) : n.subtree = n :: n.inner.flatMap subtree := by
  rw [subtree]
  congr 1
  exact List.flatMap_subtype (fun _ _ => rfl) |>.trans (by rw [List.unattach_attach])

theorem mem_subtree_self (n : Node) : n ∈ n.subtree := by
  rw [subtree_eq]
  exact List.mem_cons_self

theorem mem_subtree_of_inner {k : Node} (hk : k ∈ n.inner) (hm : m ∈ k.subtree) :
    m ∈ n.subtree := by
  rw [subtree_eq]
  exact List.mem_cons_of_mem _ (List.mem_flatMap.mpr ⟨k, hk, hm⟩)

/-- The subtree holds the nodes that a way leads down to. -/
theorem mem_subtree_iff : m ∈ n.subtree ↔ ∃ way bs, Way n way bs m := by
  refine ⟨?_, ?_⟩
  · induction n using subtree.induct with
    | case1 n ih =>
      intro hm
      rw [subtree_eq, List.mem_cons, List.mem_flatMap] at hm
      rcases hm with rfl | ⟨k, hk, hm⟩
      · exact ⟨[], [], .here m⟩
      · rcases ih k hk hm with ⟨way, bs, hw⟩
        rcases mem_inner_iff.mp hk with ⟨b, t, hb, rfl⟩
        exact ⟨_, _, .down hb hw⟩
  · intro h
    rcases h with ⟨way, bs, hw⟩
    induction hw with
    | here n => exact mem_subtree_self n
    | down hb _ ih => exact mem_subtree_of_inner (mem_inner_iff.mpr ⟨_, _, hb, rfl⟩) ih

theorem path_of_mem_subtree (h : m ∈ n.subtree) : ∃ bs, m.path = n.path ++ bs := by
  rcases mem_subtree_iff.mp h with ⟨way, bs, hw⟩
  exact ⟨bs, hw.path_eq⟩

theorem origin_of_mem_subtree (h : m ∈ n.subtree) : m.origin = n.origin := by
  rcases mem_subtree_iff.mp h with ⟨way, bs, hw⟩
  exact hw.origin_eq

theorem mem_forest_of_mem_subtree (hn : n ∈ f) (h : m ∈ n.subtree) : m ∈ f := by
  rcases mem_subtree_iff.mp h with ⟨way, bs, hw⟩
  exact hw.mem hn

/-- The subtree of a root holds all nodes of the tree. -/
theorem mem_subtree_root_iff {root : Node} (hr : root ∈ f) (htop : root.parent? = none) :
    m ∈ root.subtree ↔ m ∈ f ∧ m.origin = root.origin := by
  refine ⟨?_, ?_⟩
  · intro h
    exact ⟨mem_forest_of_mem_subtree hr h, origin_of_mem_subtree h⟩
  · intro h
    rcases h with ⟨⟨-, t, ht, hp⟩, ho⟩
    rcases hr with ⟨-, t', ht', hp'⟩
    rw [ho, ht'] at ht
    cases ht
    rcases root with ⟨o, u, above⟩
    cases hp' with
    | inside _ _ => simp [parent?] at htop
    | top =>
      -- the way from the root that every place has leads from this root
      rcases way_of_place m.origin hp with ⟨way, -, hw⟩
      rw [ho] at hw
      have hm : m = ⟨o, m.tree, m.above⟩ := by cases m; simp_all
      rw [hm]
      exact mem_subtree_iff.mpr ⟨_, _, hw⟩

/-! ## 3. Subtrees are in document order -/

theorem comparePaths_of_mem_subtree {b c : Branch} {t u : Tree} (hbc : b.compare c = .lt)
    (hx : m ∈ (n.below b t).subtree) (hy : p ∈ (n.below c u).subtree) :
    Branch.comparePaths m.path p.path = .lt := by
  rcases path_of_mem_subtree hx with ⟨bs, hbs⟩
  rcases path_of_mem_subtree hy with ⟨cs, hcs⟩
  have hne : b ≠ c := by
    intro he
    subst he
    rw [Branch.compare_self] at hbc
    cases hbc
  rw [hbs, hcs, path_below, path_below, List.append_assoc, List.append_assoc,
    List.singleton_append, List.singleton_append, Branch.comparePaths_of_ne _ _ _ hne]
  exact hbc

/-- A node comes before all below it, and all below a branch before all below a later branch. -/
theorem pairwise_subtree (n : Node) :
    n.subtree.Pairwise fun x y => Branch.comparePaths x.path y.path = .lt := by
  induction n using subtree.induct with
  | case1 n ih =>
    rw [subtree_eq, List.pairwise_cons]
    refine ⟨?_, ?_⟩
    · intro m hm
      rcases List.mem_flatMap.mp hm with ⟨k, hk, hm⟩
      rcases mem_inner_iff.mp hk with ⟨b, t, -, rfl⟩
      rcases path_of_mem_subtree hm with ⟨bs, hbs⟩
      have hnil := Branch.comparePaths_append n.path [] (b :: bs)
      rw [List.append_nil] at hnil
      rw [hbs, path_below, List.append_assoc, List.singleton_append, hnil]
      rfl
    · rw [List.pairwise_flatMap]
      refine ⟨ih, (pairwise_inner n).imp ?_⟩
      -- what is below an earlier branch comes before what is below a later one
      rintro _ _ ⟨b, c, t, u, -, -, hbc, rfl, rfl⟩ x hx y hy
      exact comparePaths_of_mem_subtree hbc hx hy

/-- In a list that is in document order, places in the list and places in the tree agree. -/
theorem comparePaths_eq_compare_idxOf {l : List Node}
    (hl : l.Pairwise fun x y => Branch.comparePaths x.path y.path = .lt)
    (hf : ∀ x ∈ l, x ∈ f) (hm : m ∈ l) (hn : n ∈ l) :
    Branch.comparePaths m.path n.path = Ord.compare (l.idxOf m) (l.idxOf n) := by
  -- at its own index the list holds the node itself, as `==` is identity in a forest
  have at_idxOf {x : Node} (hx : x ∈ l) : ∃ h : l.idxOf x < l.length, l[l.idxOf x] = x := by
    have hlt : l.idxOf x < l.length :=
      List.findIdx_lt_length_of_exists ⟨x, hx, (Forest.same_iff_eq (hf x hx) (hf x hx)).mpr rfl⟩
    have hsame : (l[l.findIdx (· == x)] == x) = true :=
      @List.findIdx_getElem _ (· == x) l hlt
    exact ⟨hlt, (Forest.same_iff_eq (hf _ (List.getElem_mem hlt)) (hf x hx)).mp hsame⟩
  rcases at_idxOf hm with ⟨hi, hmi⟩
  rcases at_idxOf hn with ⟨hj, hnj⟩
  rw [List.pairwise_iff_getElem] at hl
  rcases Nat.lt_trichotomy (l.idxOf m) (l.idxOf n) with hlt | heq | hgt
  · have h := hl _ _ hi hj hlt
    rw [hmi, hnj] at h
    rw [h, Nat.compare_eq_lt.mpr hlt]
  · have hmn : m = n := by
      rw [← hmi, ← hnj]
      congr 1
    rw [hmn, Branch.comparePaths_self, Nat.compare_eq_eq.mpr rfl]
  · have h := hl _ _ hj hi hgt
    rw [hmi, hnj] at h
    rw [Std.OrientedCmp.gt_of_lt h, Nat.compare_eq_gt.mpr hgt]

end Node

/-! ## 4. The order of a forest -/

namespace Forest

/-- A comparison that never fails and is a strict total order of the nodes of the forest. -/
structure TotallyOrders (cmp : Node → Node → Result Ordering) (f : Forest) : Prop where
  total : ∀ m ∈ f, ∀ n ∈ f, ∃ o, cmp m n = .ok o
  eq_iff : ∀ m ∈ f, ∀ n ∈ f, cmp m n = .ok .eq ↔ m = n
  swap : ∀ m ∈ f, ∀ n ∈ f, ∀ o, cmp m n = .ok o → cmp n m = .ok o.swap
  trans : ∀ l ∈ f, ∀ m ∈ f, ∀ n ∈ f, cmp l m = .ok .lt → cmp m n = .ok .lt → cmp l n = .ok .lt

/-- A comparison that puts trees in the order of their ranks and every tree in preorder: the
subtree of a root lists the nodes of its tree, and the comparison agrees with their places in this
list. -/
structure Preorders (cmp : Node → Node → Result Ordering) (f : Forest) : Prop where
  trees : ∀ m ∈ f, ∀ n ∈ f, m.origin.index < n.origin.index → cmp m n = .ok .lt
  nodes : ∀ root ∈ f, root.parent? = none →
    ∀ m, m ∈ root.subtree ↔ m ∈ f ∧ m.origin = root.origin
  places : ∀ root ∈ f, root.parent? = none → ∀ m ∈ root.subtree, ∀ n ∈ root.subtree,
    cmp m n = .ok (Ord.compare (root.subtree.idxOf m) (root.subtree.idxOf n))
  inner : ∀ n ∈ f, ∀ x ∈ n.inner, cmp n x = .ok .lt
  namespaces : ∀ n ∈ f, ∀ x ∈ n.attributes, ∀ y ∈ n.namespaces, cmp x y = .ok .lt
  children : ∀ n ∈ f, ∀ x ∈ n.attributes ++ n.namespaces, ∀ y ∈ n.children, cmp x y = .ok .lt
  siblings : ∀ n ∈ f, ∀ i j : Nat, ∀ c d : Node, i < j → n.children[i]? = some c →
    n.children[j]? = some d → ∀ x ∈ c.subtree, ∀ y ∈ d.subtree, cmp x y = .ok .lt

variable {f : Forest} {m n : Node}

theorem precedes_of_innerBefore (hn : n ∈ f) {x y : Node} (h : n.InnerBefore x y) {k l : Node}
    (hk : k ∈ x.subtree) (hl : l ∈ y.subtree) : k.Precedes l := by
  rcases h with ⟨b, c, t, u, hb, hc, hbc, rfl, rfl⟩
  have hkf := Node.mem_forest_of_mem_subtree (mem_below hn hb) hk
  have hlf := Node.mem_forest_of_mem_subtree (mem_below hn hc) hl
  have ho : k.origin = l.origin :=
    (Node.origin_of_mem_subtree hk).trans (Node.origin_of_mem_subtree hl).symm
  rw [Node.precedes_iff hkf hlf (.inr ho), Node.comparePlaces_of_origin_eq ho]
  exact Node.comparePaths_of_mem_subtree hbc hk hl

theorem compare_totallyOrders (hf : f.ranked = true) : f.TotallyOrders Node.compare where
  total m hm n hn := ⟨_, Node.compare_eq hm hn (.inl hf)⟩
  eq_iff m hm n hn := by
    rw [Node.compare_eq hm hn (.inl hf), Except.ok.injEq]
    exact Node.comparePlaces_eq_iff hm hn
  swap m hm n hn o h := by
    rw [Node.compare_eq hm hn (.inl hf), Except.ok.injEq] at h
    rw [Node.compare_eq hn hm (.inl hf), ← h]
    exact congrArg Except.ok Std.OrientedCmp.eq_swap
  trans l hl m hm n hn hlm hmn := (comparable_of_ranked hf).trans hl hm hn hlm hmn

theorem compare_of_index_lt (hf : f.ranked = true) (hm : m ∈ f) (hn : n ∈ f)
    (h : m.origin.index < n.origin.index) : m.Precedes n := by
  rw [Node.precedes_iff hm hn (.inl hf), Node.comparePlaces, compareLex, compareOn,
    Nat.compare_eq_lt.mpr h]
  rfl

theorem compare_eq_idxOf {root : Node} (hr : root ∈ f) (hm : m ∈ root.subtree)
    (hn : n ∈ root.subtree) :
    m.compare n = .ok (Ord.compare (root.subtree.idxOf m) (root.subtree.idxOf n)) := by
  have hin {x : Node} (hx : x ∈ root.subtree) : x ∈ f := Node.mem_forest_of_mem_subtree hr hx
  have ho : m.origin = n.origin :=
    (Node.origin_of_mem_subtree hm).trans (Node.origin_of_mem_subtree hn).symm
  rw [Node.compare_eq (hin hm) (hin hn) (.inr ho), Node.comparePlaces_of_origin_eq ho]
  exact congrArg Except.ok
    (Node.comparePaths_eq_compare_idxOf (Node.pairwise_subtree root) (fun _ => hin) hm hn)

theorem precedes_of_mem_inner (hn : n ∈ f) (hm : m ∈ n.inner) : n.Precedes m := by
  have hsub : m ∈ n.subtree := Node.mem_subtree_of_inner hm (Node.mem_subtree_self m)
  have hpair := Node.pairwise_subtree n
  have ho : n.origin = m.origin := (Node.origin_of_mem_subtree hsub).symm
  rw [Node.precedes_iff hn (Node.mem_forest_of_mem_subtree hn hsub) (.inr ho),
    Node.comparePlaces_of_origin_eq ho]
  rw [Node.subtree_eq, List.pairwise_cons] at hpair
  exact hpair.1 m (List.mem_flatMap.mpr ⟨m, hm, Node.mem_subtree_self m⟩)

theorem compare_preorders (hf : f.ranked = true) : f.Preorders Node.compare where
  trees _ hm _ hn h := compare_of_index_lt hf hm hn h
  nodes _ hr htop _ := Node.mem_subtree_root_iff hr htop
  places _ hr _ _ hm _ hn := compare_eq_idxOf hr hm hn
  inner _ hn _ hx := precedes_of_mem_inner hn hx
  namespaces _ hn x hx y hy := precedes_of_innerBefore hn
    (Node.innerBefore_attribute_namespace hx hy) (Node.mem_subtree_self x) (Node.mem_subtree_self y)
  children n hn x hx y hy := by
    have hbefore : n.InnerBefore x y := by
      rcases List.mem_append.mp hx with hx | hx
      · exact Node.innerBefore_attribute_child hx hy
      · exact Node.innerBefore_namespace_child hx hy
    exact precedes_of_innerBefore hn hbefore (Node.mem_subtree_self x) (Node.mem_subtree_self y)
  siblings n hn i j c d hij hc hd x hx y hy := by
    rcases List.getElem?_eq_some_iff.mp hc with ⟨hi, rfl⟩
    rcases List.getElem?_eq_some_iff.mp hd with ⟨hj, rfl⟩
    have hbefore := List.pairwise_iff_getElem.mp (Node.pairwise_children n) i j hi hj hij
    exact precedes_of_innerBefore hn hbefore hx hy

/-- The document order of a forest whose trees have ranks is a strict total order, and it is the
preorder of its trees one after another. -/
theorem documentOrder_total_preorder (hf : f.ranked = true) :
    f.TotallyOrders Node.compare ∧ f.Preorders Node.compare :=
  ⟨compare_totallyOrders hf, compare_preorders hf⟩

theorem documentOrder_total_preorder_sample : sample.ranked = true ∧
    sample.TotallyOrders Node.compare ∧ sample.Preorders Node.compare :=
  ⟨rfl, documentOrder_total_preorder rfl⟩

end Forest

end XPath
