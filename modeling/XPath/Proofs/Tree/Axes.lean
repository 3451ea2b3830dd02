import XPath.Proofs.Tree.Ancestry

/-!
# Axes

The descendants of a node are its subtree without the node, attributes and namespace nodes: the
walk with a stack lists them in the order of the subtree.  The siblings of a child are the other
children of its parent.  The nodes after a node come after its subtree, and the nodes before it come
before it and are not above it.
-/

namespace XPath

/-! ## 1. Descendants -/

namespace Node

theorem walk_append (xs ys : List Node) : walk (xs ++ ys) = walk xs ++ walk ys := by
  induction xs using walk.induct with
  | case1 => rw [walk, List.nil_append, List.nil_append]
  | case2 n stack ih =>
    rw [List.cons_append, walk, walk, List.cons_append, ← ih, List.append_assoc]

/-- Walking with a stack lists the nodes of the stack one after the other, each with its
descendants. -/
theorem walk_eq_flatMap (xs : List Node) : walk xs = xs.flatMap descendantsOrSelf := by
  induction xs with
  | nil => rw [walk, List.flatMap_nil]
  | cons n xs ih =>
    rw [walk, walk_append, ih, List.flatMap_cons]
    rfl

theorem descendants_eq_flatMap (n : Node) :
    n.descendants = n.children.flatMap descendantsOrSelf := by
  rw [descendants, walk_eq_flatMap]

end Node

namespace Forest

variable {f : Forest} {k m n p : Node} {o : Origin}

theorem filter_subtree_of_isAttached (hn : n ∈ f) (ha : n.isAttached = true) :
    n.subtree.filter (fun m => !m.isAttached) = [] := by
  rw [subtree_of_isAttached hn ha, List.filter_cons_of_neg (by simp [ha]), List.filter_nil]

theorem isAttached_of_mem_attributes (hn : n ∈ f) (hm : m ∈ n.attributes) :
    m ∈ f ∧ m.kind = .attributeNode ∧ m.isAttached = true := by
  rcases Node.mem_attributes_iff.mp hm with ⟨i, t, hb, rfl⟩
  have hk := Tree.kind_of_below?_attribute (isWellFormed_of_mem hn) hb
  refine ⟨mem_below hn hb, hk, ?_⟩
  rw [Node.isAttached_eq]
  exact congrArg NodeKind.isAttached hk

theorem isAttached_of_mem_namespaces (hn : n ∈ f) (hm : m ∈ n.namespaces) :
    m ∈ f ∧ m.kind = .namespaceNode ∧ m.isAttached = true := by
  rcases Node.mem_namespaces_iff.mp hm with ⟨i, t, hb, rfl⟩
  have hk := Tree.kind_of_below?_namespace (isWellFormed_of_mem hn) hb
  refine ⟨mem_below hn hb, hk, ?_⟩
  rw [Node.isAttached_eq]
  exact congrArg NodeKind.isAttached hk

theorem not_isAttached_of_mem_children (hn : n ∈ f) (hm : m ∈ n.children) :
    m ∈ f ∧ m.isAttached = false := by
  rcases Node.mem_children_iff.mp hm with ⟨i, t, hb, rfl⟩
  exact ⟨mem_below hn hb, not_isAttached_child hn hb⟩

/-- Below a node, only its children have nodes in their subtrees that are not attached. -/
theorem filter_inner (hn : n ∈ f) :
    (n.inner.flatMap Node.subtree).filter (fun m => !m.isAttached) =
      n.children.flatMap fun m => m.subtree.filter fun k => !k.isAttached := by
  -- the subtrees of attributes and namespace nodes hold nothing else
  have hattached : ∀ m ∈ n.attributes ++ n.namespaces,
      m.subtree.filter (fun k => !k.isAttached) = [] := by
    intro m hm
    rcases List.mem_append.mp hm with hm | hm
    · rcases isAttached_of_mem_attributes hn hm with ⟨hmf, -, ha⟩
      exact filter_subtree_of_isAttached hmf ha
    · rcases isAttached_of_mem_namespaces hn hm with ⟨hmf, -, ha⟩
      exact filter_subtree_of_isAttached hmf ha
  rw [Node.inner, List.flatMap_append, List.filter_append, List.filter_flatMap,
    List.filter_flatMap, List.flatMap_eq_nil_iff.mpr hattached, List.nil_append]

/-- The node and its descendants are its subtree without attributes and namespace nodes. -/
theorem descendantsOrSelf_eq_filter (hn : n ∈ f) (ha : n.isAttached = false) :
    n.descendantsOrSelf = n.subtree.filter fun m => !m.isAttached := by
  induction n using Node.subtree.induct with
  | case1 n ih =>
    rw [Node.subtree_eq, List.filter_cons_of_pos (by simp [ha]), filter_inner hn,
      Node.descendantsOrSelf, Node.descendants_eq_flatMap]
    rw [List.flatMap_def, List.flatMap_def, List.map_congr_left]
    intro m hm
    rcases not_isAttached_of_mem_children hn hm with ⟨hmf, hma⟩
    exact ih m (List.mem_append_right _ hm) hmf hma

theorem descendants_eq_filter (hn : n ∈ f) :
    n.descendants = (n.inner.flatMap Node.subtree).filter fun m => !m.isAttached := by
  rw [filter_inner hn, Node.descendants_eq_flatMap, List.flatMap_def, List.flatMap_def,
    List.map_congr_left]
  intro m hm
  rcases not_isAttached_of_mem_children hn hm with ⟨hmf, hma⟩
  exact descendantsOrSelf_eq_filter hmf hma

theorem mem_descendantsOrSelf_iff (hn : n ∈ f) (ha : n.isAttached = false) :
    m ∈ n.descendantsOrSelf ↔ m ∈ n.subtree ∧ m.isAttached = false := by
  rw [descendantsOrSelf_eq_filter hn ha, List.mem_filter, Bool.not_eq_true']

theorem mem_descendants_iff (hn : f.InTree o n) :
    m ∈ n.descendants ↔ (m ∈ n.subtree ∧ m ≠ n) ∧ m.isAttached = false := by
  rw [descendants_eq_filter hn.1, List.mem_filter, Bool.not_eq_true', List.mem_flatMap]
  refine and_congr_left fun _ => ?_
  refine ⟨?_, ?_⟩
  · intro h
    rcases h with ⟨k, hk, hm⟩
    refine ⟨Node.mem_subtree_of_inner hk hm, ?_⟩
    intro he
    subst he
    rcases Node.mem_inner_iff.mp hk with ⟨b, t, hb, rfl⟩
    have hself := below_mem_subtree (Node.mem_subtree_self m) hb
    exact below_ne_self m b t (hn.subtree_antisymm hself hm)
  · intro h
    rcases h with ⟨hm, hne⟩
    exact (mem_subtree_cases hm).resolve_left hne

/-! ## 2. Siblings -/

theorem siblings?_child (hp : p ∈ f) {i : Nat} {t : Tree}
    (hb : p.tree.below? (.child i) = some t) :
    (p.below (.child i) t).siblings? = some (p.children, i) := by
  have hi : i < p.tree.children.length := (List.getElem?_eq_some_iff.mp hb).1
  rw [Node.siblings?, not_isAttached_child hp hb, if_neg (by simp), parent?_below]
  show (p.children.findIdx? (· == p.below (.child i) t)).bind _ = _
  rw [Node.children, Node.findIdx?_below p .child (fun _ _ h => Branch.child.inj h) _ hi]
  rfl

theorem followingSiblings_child (hp : p ∈ f) {i : Nat} {t : Tree}
    (hb : p.tree.below? (.child i) = some t) :
    (p.below (.child i) t).followingSiblings = p.children.drop (i + 1) := by
  rw [Node.followingSiblings, siblings?_child hp hb]

theorem precedingSiblings_child (hp : p ∈ f) {i : Nat} {t : Tree}
    (hb : p.tree.below? (.child i) = some t) :
    (p.below (.child i) t).precedingSiblings = (p.children.take i).reverse := by
  rw [Node.precedingSiblings, siblings?_child hp hb]

theorem siblings?_eq_none (h : n.isAttached = true ∨ n.parent? = none) : n.siblings? = none := by
  unfold Node.siblings?
  by_cases ha : n.isAttached = true
  · rw [if_pos ha]
  · rw [if_neg ha, h.resolve_left ha]
    rfl

theorem mem_drop_children_iff {i : Nat} : m ∈ p.children.drop (i + 1) ↔
    ∃ j t, i < j ∧ p.tree.below? (.child j) = some t ∧ m = p.below (.child j) t := by
  rw [List.mem_iff_getElem?]
  refine ⟨?_, ?_⟩
  · intro h
    rcases h with ⟨k, hk⟩
    rw [List.getElem?_drop, Node.children, List.getElem?_mapIdx, Option.map_eq_some_iff] at hk
    rcases hk with ⟨t, ht, rfl⟩
    exact ⟨i + 1 + k, t, by omega, ht, rfl⟩
  · intro h
    rcases h with ⟨j, t, hij, ht, rfl⟩
    refine ⟨j - (i + 1), ?_⟩
    rw [List.getElem?_drop, Nat.add_sub_cancel' hij, Node.children, List.getElem?_mapIdx]
    exact congrArg (Option.map _) ht

theorem mem_take_children_iff {i : Nat} : m ∈ p.children.take i ↔
    ∃ j t, j < i ∧ p.tree.below? (.child j) = some t ∧ m = p.below (.child j) t := by
  rw [List.mem_take_iff_getElem]
  refine ⟨?_, ?_⟩
  · intro h
    rcases h with ⟨j, hj, rfl⟩
    rw [Nat.lt_min, Node.children, List.length_mapIdx] at hj
    refine ⟨j, p.tree.children[j], hj.1, List.getElem?_eq_getElem hj.2, ?_⟩
    simp only [Node.children, List.getElem_mapIdx]
  · intro h
    rcases h with ⟨j, t, hji, ht, rfl⟩
    rcases List.getElem?_eq_some_iff.mp ht with ⟨hj, rfl⟩
    refine ⟨j, ?_, ?_⟩
    · rw [Nat.lt_min, Node.children, List.length_mapIdx]
      exact ⟨hji, hj⟩
    · simp only [Node.children, List.getElem_mapIdx]

/-- A node is a child, or it has no siblings. -/
theorem child_cases (hn : n ∈ f) : (n.isAttached = true ∨ n.parent? = none) ∨
    ∃ p ∈ f, ∃ i t, p.tree.below? (.child i) = some t ∧ n = p.below (.child i) t := by
  by_cases hno : n.isAttached = true ∨ n.parent? = none
  · exact .inl hno
  · rcases not_or.mp hno with ⟨hatt, hpar⟩
    rcases Option.ne_none_iff_exists'.mp hpar with ⟨p, hpar⟩
    rcases exists_below_of_parent? hn hpar with ⟨hp, b, t, hb, rfl⟩
    rcases eq_child_of_not_isAttached hp hb (Bool.eq_false_iff.mpr hatt) with ⟨i, rfl⟩
    exact .inr ⟨p, hp, i, t, hb, rfl⟩

/-! ## 3. What is after a node, and what is before it -/

theorem mem_subtree_cases_child (hp : p ∈ f) (hm : m ∈ p.subtree) (ha : m.isAttached = false) :
    m = p ∨ ∃ j t, p.tree.below? (.child j) = some t ∧ m ∈ (p.below (.child j) t).subtree := by
  rcases mem_subtree_cases hm with he | ⟨k, hk, hm⟩
  · exact .inl he
  · rcases Node.mem_inner_iff.mp hk with ⟨b, t, hb, rfl⟩
    have hk' : (p.below b t).isAttached = false := by
      rw [Bool.eq_false_iff]
      intro hka
      rw [subtree_of_isAttached (mem_below hp hb) hka, List.mem_singleton] at hm
      rw [hm, hka] at ha
      cases ha
    rcases eq_child_of_not_isAttached hp hb hk' with ⟨j, rfl⟩
    exact .inr ⟨j, t, hb, hm⟩

theorem precedes_of_child_lt (hp : p ∈ f) {i j : Nat} {t u : Tree}
    (ht : p.tree.below? (.child i) = some t) (hu : p.tree.below? (.child j) = some u) (h : i < j)
    (hm : m ∈ (p.below (.child i) t).subtree) (hn : n ∈ (p.below (.child j) u).subtree) :
    m.Precedes n :=
  precedes_of_innerBefore hp ⟨_, _, t, u, ht, hu, Nat.compare_eq_lt.mpr h, rfl, rfl⟩ hm hn

theorem after_child (hp : p ∈ f) {i : Nat} {t : Tree} (hb : p.tree.below? (.child i) = some t) :
    (p.below (.child i) t).after =
      (p.children.drop (i + 1)).flatMap Node.descendantsOrSelf ++ p.after := by
  unfold Node.after
  rw [Node.ancestorsOrSelf, List.flatMap_cons, followingSiblings_child hp hb]
  rfl

theorem before_child (hp : p ∈ f) {i : Nat} {t : Tree} (hb : p.tree.below? (.child i) = some t) :
    (p.below (.child i) t).before =
      ((p.children.take i).flatMap Node.descendantsOrSelf).reverse ++ p.before := by
  unfold Node.before
  rw [Node.ancestorsOrSelf, List.flatMap_cons, precedingSiblings_child hp hb,
    List.reverse_flatMap]
  rfl

theorem after_root (hroot : n.parent? = none) : n.after = [] := by
  rw [Node.after, Node.ancestorsOrSelf, ancestors_of_parent?_eq_none hroot,
    List.flatMap_singleton, Node.followingSiblings, siblings?_eq_none (.inr hroot)]
  rfl

theorem before_root (hroot : n.parent? = none) : n.before = [] := by
  rw [Node.before, Node.ancestorsOrSelf, ancestors_of_parent?_eq_none hroot,
    List.flatMap_singleton, Node.precedingSiblings, siblings?_eq_none (.inr hroot)]
  rfl

/-- What is in some children of a node or below them. -/
theorem mem_flatMap_children_iff (hp : p ∈ f) {l : List Node} {q : Nat → Prop}
    (hl : ∀ c, c ∈ l ↔
      ∃ j t, q j ∧ p.tree.below? (.child j) = some t ∧ c = p.below (.child j) t) :
    m ∈ l.flatMap Node.descendantsOrSelf ↔ ∃ j t, q j ∧ p.tree.below? (.child j) = some t ∧
      m ∈ (p.below (.child j) t).subtree ∧ m.isAttached = false := by
  rw [List.mem_flatMap]
  refine ⟨?_, ?_⟩
  · intro h
    rcases h with ⟨c, hc, hm⟩
    rcases (hl c).mp hc with ⟨j, t, hq, ht, rfl⟩
    rw [mem_descendantsOrSelf_iff (mem_below hp ht) (not_isAttached_child hp ht)] at hm
    exact ⟨j, t, hq, ht, hm⟩
  · intro h
    rcases h with ⟨j, t, hq, ht, hm⟩
    refine ⟨_, (hl _).mpr ⟨j, t, hq, ht, rfl⟩, ?_⟩
    rwa [mem_descendantsOrSelf_iff (mem_below hp ht) (not_isAttached_child hp ht)]

theorem mem_flatMap_drop_iff (hp : p ∈ f) {i : Nat} :
    m ∈ (p.children.drop (i + 1)).flatMap Node.descendantsOrSelf ↔
      ∃ j t, i < j ∧ p.tree.below? (.child j) = some t ∧
        m ∈ (p.below (.child j) t).subtree ∧ m.isAttached = false :=
  mem_flatMap_children_iff hp fun _ => mem_drop_children_iff

theorem mem_flatMap_take_iff (hp : p ∈ f) {i : Nat} :
    m ∈ (p.children.take i).flatMap Node.descendantsOrSelf ↔
      ∃ j t, j < i ∧ p.tree.below? (.child j) = some t ∧
        m ∈ (p.below (.child j) t).subtree ∧ m.isAttached = false :=
  mem_flatMap_children_iff hp fun _ => mem_take_children_iff

/-- All that comes after the subtree of a node is after it. -/
theorem mem_after_iff (hn : f.InTree o n) (ha : n.isAttached = false) : m ∈ n.after ↔
    f.InTree o m ∧ m.isAttached = false ∧ n.Precedes m ∧ m ∉ n.subtree := by
  refine InTree.induction (P := fun n => n.isAttached = false → (m ∈ n.after ↔
    f.InTree o m ∧ m.isAttached = false ∧ n.Precedes m ∧ m ∉ n.subtree)) ?_ ?_ hn ha
  · intro n hn htop _
    have hroot := parent?_eq_none htop
    rw [after_root hroot]
    refine ⟨?_, ?_⟩
    · intro h
      cases h
    · intro h
      rcases h with ⟨hm, -, -, hnot⟩
      exact absurd (hn.mem_subtree_root hroot hm) hnot
  · intro p b t hp hb ih ha
    rcases eq_child_of_not_isAttached hp.1 hb ha with ⟨i, rfl⟩
    have hc := hp.below hb
    have hsub : p.below (.child i) t ∈ p.subtree :=
      below_mem_subtree (Node.mem_subtree_self p) hb
    -- after a child come its later siblings with what is below them, and then what is after the
    -- parent
    have hpre : p.Precedes (p.below (.child i) t) :=
      hp.precedes_of_mem_subtree hsub (below_ne_self _ _ _)
    rw [after_child hp.1 hb, List.mem_append, mem_flatMap_drop_iff hp.1,
      ih (isAttached_of_below? hp.1 hb)]
    refine ⟨?_, ?_⟩
    · intro h
      rcases h with ⟨j, u, hij, hu, hm, hma⟩ | ⟨hm, hma, hpm, hnot⟩
      · have hmt := (hp.below hu).subtree hm
        refine ⟨hmt, hma,
          precedes_of_child_lt hp.1 hb hu hij (Node.mem_subtree_self _) hm, fun hms => ?_⟩
        have hself := precedes_of_child_lt hp.1 hb hu hij hms hm
        exact (comparable_inTree o).irrefl hmt hself
      · refine ⟨hm, hma, hp.precedes_of_after hm hpm hnot hsub, fun hms => hnot ?_⟩
        exact mem_subtree_trans hsub hms
    · intro h
      rcases h with ⟨hm, hma, hpm, hnot⟩
      by_cases hmp : m ∈ p.subtree
      · -- the node is below the parent, so it is in the subtree of a later child
        rcases mem_subtree_cases_child hp.1 hmp hma with rfl | ⟨j, u, hu, hmu⟩
        · exact absurd hpm (hp.not_precedes hc hpre)
        · rcases Nat.lt_trichotomy i j with hij | rfl | hji
          · exact .inl ⟨j, u, hij, hu, hmu, hma⟩
          · rw [hb] at hu
            cases hu
            exact absurd hmu hnot
          · have hmc := precedes_of_child_lt hp.1 hu hb hji hmu (Node.mem_subtree_self _)
            exact absurd hpm (hm.not_precedes hc hmc)
      · exact .inr ⟨hm, hma, (comparable_inTree o).trans hp hc hm hpre hpm, hmp⟩

/-- All that comes before a node and is not above it is before it. -/
theorem mem_before_iff (hn : f.InTree o n) (ha : n.isAttached = false) : m ∈ n.before ↔
    f.InTree o m ∧ m.isAttached = false ∧ m.Precedes n ∧ n ∉ m.subtree := by
  refine InTree.induction (P := fun n => n.isAttached = false → (m ∈ n.before ↔
    f.InTree o m ∧ m.isAttached = false ∧ m.Precedes n ∧ n ∉ m.subtree)) ?_ ?_ hn ha
  · intro n hn htop _
    have hroot := parent?_eq_none htop
    rw [before_root hroot]
    refine ⟨?_, ?_⟩
    · intro h
      cases h
    · intro h
      rcases h with ⟨hm, -, hmn, -⟩
      have hsub : m ∈ n.subtree := hn.mem_subtree_root hroot hm
      exact absurd hmn (hn.not_precedes_of_mem_subtree hsub)
  · intro p b t hp hb ih ha
    rcases eq_child_of_not_isAttached hp.1 hb ha with ⟨i, rfl⟩
    have hc := hp.below hb
    have hself := Node.mem_subtree_self (p.below (.child i) t)
    have hsub : p.below (.child i) t ∈ p.subtree :=
      below_mem_subtree (Node.mem_subtree_self p) hb
    -- before a child come its earlier siblings with what is below them, and then what is before
    -- the parent
    rw [before_child hp.1 hb, List.mem_append, List.mem_reverse, mem_flatMap_take_iff hp.1,
      ih (isAttached_of_below? hp.1 hb)]
    refine ⟨?_, ?_⟩
    · intro h
      rcases h with ⟨j, u, hji, hu, hm, hma⟩ | ⟨hm, hma, hmp, hnot⟩
      · have hmt := (hp.below hu).subtree hm
        refine ⟨hmt, hma, precedes_of_child_lt hp.1 hu hb hji hm hself, fun hcm => ?_⟩
        have hirr := precedes_of_child_lt hp.1 hu hb hji (mem_subtree_trans hm hcm) hself
        exact (comparable_inTree o).irrefl hc hirr
      · refine ⟨hm, hma, hp.precedes_of_before hm hmp hsub, fun hcm => ?_⟩
        -- the node would be above the child and so its parent or above that
        by_cases he : p.below (.child i) t = m
        · subst he
          exact absurd hmp (hp.not_precedes_of_mem_subtree hsub)
        · exact hnot (mem_subtree_of_below hcm he)
    · intro h
      rcases h with ⟨hm, hma, hmc, hnot⟩
      by_cases hmp : m ∈ p.subtree
      · rcases mem_subtree_cases_child hp.1 hmp hma with rfl | ⟨j, u, hu, hmu⟩
        · exact absurd hsub hnot
        · rcases Nat.lt_trichotomy j i with hji | rfl | hij
          · exact .inl ⟨j, u, hji, hu, hmu, hma⟩
          · rw [hb] at hu
            cases hu
            exact absurd hmc (hc.not_precedes_of_mem_subtree hmu)
          · have hcm := precedes_of_child_lt hp.1 hb hu hij hself hmu
            exact absurd hmc (hc.not_precedes hm hcm)
      -- outside the subtree of the parent, the order to the parent decides
      · refine .inr ⟨hm, hma, ?_, fun hpm => hnot (below_mem_subtree hpm hb)⟩
        rcases (comparable_inTree o).compare_cases hm hp with h | ⟨-, rfl⟩ | ⟨-, h⟩
        · exact h
        · exact absurd (Node.mem_subtree_self m) hmp
        · exact absurd hmc (hc.not_precedes hm (hp.precedes_of_after hm h hmp hsub))

end Forest

end XPath
