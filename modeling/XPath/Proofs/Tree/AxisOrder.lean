import XPath.Proofs.Tree.Axes

/-!
# Axes in document order

What it means to be on an axis is told by parenthood and document order alone, and each axis lists
exactly the nodes on it.  Forward axes list them in strictly increasing document order, reverse
axes in strictly decreasing order.
-/

namespace XPath

namespace Forest

variable {f : Forest} {k m n p : Node} {o : Origin}

/-! ## 1. The nodes after and before an attached node -/

/-- Attributes and namespace nodes come before all children and what is below them. -/
theorem precedes_of_isAttached (hp : p ∈ f) {b : Branch} {t : Tree}
    (hb : p.tree.below? b = some t) (hatt : (p.below b t).isAttached = true) (hm : m ∈ p.subtree)
    (hne : m ≠ p) (ha : m.isAttached = false) : (p.below b t).Precedes m := by
  rcases (mem_subtree_cases_child hp hm ha).resolve_left hne with ⟨j, u, hu, hmu⟩
  have hbefore : b.compare (.child j) = .lt := by
    cases b with
    | attributeNode i => rfl
    | namespaceNode i => rfl
    | child i =>
      rw [not_isAttached_child hp hb] at hatt
      cases hatt
  exact precedes_of_innerBefore hp ⟨_, _, t, u, hb, hu, hbefore, rfl, rfl⟩
    (Node.mem_subtree_self _) hmu

theorem not_mem_subtree_of_isAttached (hn : n ∈ f) (hatt : n.isAttached = true)
    (ha : m.isAttached = false) : m ∉ n.subtree := by
  rw [subtree_of_isAttached hn hatt, List.mem_singleton]
  intro he
  subst he
  rw [hatt] at ha
  cases ha

/-- The nodes that follow a node come after it and are not in its subtree. -/
theorem mem_following_iff (hn : f.InTree o n) : m ∈ n.following ↔
    f.InTree o m ∧ m.isAttached = false ∧ n.Precedes m ∧ m ∉ n.subtree := by
  unfold Node.following
  by_cases hatt : n.isAttached = true
  · rw [if_pos hatt]
    cases hpar : n.parent? with
    | none =>
      refine ⟨?_, ?_⟩
      · intro h
        cases h
      · intro h
        rcases h with ⟨hm, -, -, hnot⟩
        exact absurd (hn.mem_subtree_root hpar hm) hnot
    | some p =>
      rcases exists_below_of_parent? hn.1 hpar with ⟨hpf, b, t, hb, rfl⟩
      have hp : f.InTree o p := ⟨hpf, hn.2⟩
      have hsub : p.below b t ∈ p.subtree := below_mem_subtree (Node.mem_subtree_self p) hb
      have hpre : p.Precedes (p.below b t) :=
        hp.precedes_of_mem_subtree hsub (below_ne_self _ _ _)
      -- an attached node is followed by what is below its parent and by what is after that
      show m ∈ p.descendants ++ p.after ↔ _
      rw [List.mem_append, mem_descendants_iff hp, mem_after_iff hp (isAttached_of_below? hpf hb)]
      refine ⟨?_, ?_⟩
      · intro h
        rcases h with ⟨⟨hm, hne⟩, ha⟩ | ⟨hm, ha, hpm, hnot⟩
        · exact ⟨hp.subtree hm, ha, precedes_of_isAttached hpf hb hatt hm hne ha,
            not_mem_subtree_of_isAttached hn.1 hatt ha⟩
        · exact ⟨hm, ha, hp.precedes_of_after hm hpm hnot hsub,
            not_mem_subtree_of_isAttached hn.1 hatt ha⟩
      · intro h
        rcases h with ⟨hm, ha, hnm, -⟩
        have hpm := (comparable_inTree o).trans hp hn hm hpre hnm
        by_cases hmp : m ∈ p.subtree
        · exact .inl ⟨⟨hmp, (hp.ne_of_precedes hpm).symm⟩, ha⟩
        · exact .inr ⟨hm, ha, hpm, hmp⟩
  · rw [if_neg hatt]
    exact mem_after_iff hn (Bool.eq_false_iff.mpr hatt)

/-- The nodes that precede a node come before it, and it is not in their subtrees. -/
theorem mem_preceding_iff (hn : f.InTree o n) : m ∈ n.preceding ↔
    f.InTree o m ∧ m.isAttached = false ∧ m.Precedes n ∧ n ∉ m.subtree := by
  unfold Node.preceding
  by_cases hatt : n.isAttached = true
  · rw [if_pos hatt]
    cases hpar : n.parent? with
    | none =>
      refine ⟨?_, ?_⟩
      · intro h
        cases h
      · intro h
        rcases h with ⟨hm, -, hmn, -⟩
        have hsub := hn.mem_subtree_root hpar hm
        exact absurd hmn (hn.not_precedes_of_mem_subtree hsub)
    | some p =>
      rcases exists_below_of_parent? hn.1 hpar with ⟨hpf, b, t, hb, rfl⟩
      have hp : f.InTree o p := ⟨hpf, hn.2⟩
      have hsub : p.below b t ∈ p.subtree := below_mem_subtree (Node.mem_subtree_self p) hb
      -- an attached node is preceded by what is before its parent
      show m ∈ p.before ↔ _
      rw [mem_before_iff hp (isAttached_of_below? hpf hb)]
      refine ⟨?_, ?_⟩
      · intro h
        rcases h with ⟨hm, ha, hmp, hnot⟩
        refine ⟨hm, ha, hp.precedes_of_before hm hmp hsub, fun hnm => hnot ?_⟩
        refine mem_subtree_of_below hnm ?_
        intro he
        subst he
        rw [hatt] at ha
        cases ha
      · intro h
        rcases h with ⟨hm, ha, hmn, hnot⟩
        have hpm : p ∉ m.subtree := fun h => hnot (below_mem_subtree h hb)
        refine ⟨hm, ha, ?_, hpm⟩
        rcases (comparable_inTree o).compare_cases hm hp with h | ⟨-, rfl⟩ | ⟨-, h⟩
        · exact h
        · exact absurd (Node.mem_subtree_self m) hpm
        · -- after the parent, the node would come after all that is attached to the parent
          by_cases hmp : m ∈ p.subtree
          · have hne : m ≠ p := fun he => hpm (he ▸ Node.mem_subtree_self m)
            have hnm := precedes_of_isAttached hpf hb hatt hmp hne ha
            exact absurd hmn (hn.not_precedes hm hnm)
          · exact absurd hmn (hn.not_precedes hm (hp.precedes_of_after hm h hmp hsub))
  · rw [if_neg hatt]
    exact mem_before_iff hn (Bool.eq_false_iff.mpr hatt)

end Forest

/-! ## 2. The nodes on an axis -/

/-- What it means that the axis leads from a node to another node of its tree. -/
def Axis.Leads (n m : Node) : Axis → Prop
  | .self => m = n
  | .child => m.parent? = some n ∧ m.isAttached = false
  | .attributes => m.parent? = some n ∧ m.kind = .attributeNode
  | .namespaces => m ∈ n.namespacesInScope
  | .parent => n.parent? = some m
  | .ancestor => m.IsAncestor n
  | .ancestorOrSelf => m = n ∨ m.IsAncestor n
  | .descendant => n.IsAncestor m ∧ m.isAttached = false
  | .descendantOrSelf => m = n ∨ (n.IsAncestor m ∧ m.isAttached = false)
  | .followingSibling => (n.isAttached = false ∧ m.isAttached = false) ∧
      (∃ p, n.parent? = some p ∧ m.parent? = some p) ∧ n.Precedes m
  | .precedingSibling => (n.isAttached = false ∧ m.isAttached = false) ∧
      (∃ p, n.parent? = some p ∧ m.parent? = some p) ∧ m.Precedes n
  | .following => m.isAttached = false ∧ n.Precedes m ∧ ¬ n.IsAncestor m
  | .preceding => m.isAttached = false ∧ m.Precedes n ∧ ¬ m.IsAncestor n

namespace Forest

variable {f : Forest} {k m n p : Node} {o : Origin}

theorem InTree.parent (hn : f.InTree o n) (hp : n.parent? = some p) : f.InTree o p := by
  rcases exists_below_of_parent? hn.1 hp with ⟨hpf, b, t, -, rfl⟩
  exact ⟨hpf, hn.2⟩

theorem mem_children_iff_parent (hn : f.InTree o n) : m ∈ n.children ↔
    f.InTree o m ∧ m.parent? = some n ∧ m.isAttached = false := by
  refine ⟨?_, ?_⟩
  · intro h
    rcases not_isAttached_of_mem_children hn.1 h with ⟨hmf, ha⟩
    rcases Node.mem_children_iff.mp h with ⟨i, t, hb, rfl⟩
    exact ⟨hn.below hb, rfl, ha⟩
  · intro h
    rcases h with ⟨hm, hp, ha⟩
    rcases exists_below_of_parent? hm.1 hp with ⟨-, b, t, hb, rfl⟩
    rcases eq_child_of_not_isAttached hn.1 hb ha with ⟨i, rfl⟩
    exact Node.mem_children_iff.mpr ⟨i, t, hb, rfl⟩

theorem mem_attributes_iff_parent (hn : f.InTree o n) : m ∈ n.attributes ↔
    f.InTree o m ∧ m.parent? = some n ∧ m.kind = .attributeNode := by
  refine ⟨?_, ?_⟩
  · intro h
    rcases isAttached_of_mem_attributes hn.1 h with ⟨hmf, hk, -⟩
    rcases Node.mem_attributes_iff.mp h with ⟨i, t, hb, rfl⟩
    exact ⟨hn.below hb, rfl, hk⟩
  · intro h
    rcases h with ⟨hm, hp, hk⟩
    rcases exists_below_of_parent? hm.1 hp with ⟨-, b, t, hb, rfl⟩
    cases b with
    | attributeNode i => exact Node.mem_attributes_iff.mpr ⟨i, t, hb, rfl⟩
    | namespaceNode i =>
      have hns := Tree.kind_of_below?_namespace (isWellFormed_of_mem hn.1) hb
      rw [show t.info.kind = .attributeNode from hk] at hns
      cases hns
    | child i =>
      have hc := Tree.isAttached_of_below?_child (isWellFormed_of_mem hn.1) hb
      rw [show t.info.kind = .attributeNode from hk] at hc
      cases hc

theorem mem_ancestors_iff_inTree (hn : f.InTree o n) : m ∈ n.ancestors ↔
    f.InTree o m ∧ m.IsAncestor n := by
  rw [mem_ancestors_iff_isAncestor]
  refine ⟨fun h => ⟨?_, h⟩, And.right⟩
  induction h with
  | single h => exact hn.parent h
  | tail _ h ih => exact ih (hn.parent h)

theorem mem_descendants_iff_isAncestor (hn : f.InTree o n) : m ∈ n.descendants ↔
    f.InTree o m ∧ n.IsAncestor m ∧ m.isAttached = false := by
  rw [mem_descendants_iff hn]
  refine ⟨?_, ?_⟩
  · intro h
    rcases h with ⟨hm, ha⟩
    exact ⟨hn.subtree hm.1, (isAncestor_iff hn (hn.subtree hm.1)).mpr hm, ha⟩
  · intro h
    rcases h with ⟨hm, hanc, ha⟩
    exact ⟨(isAncestor_iff hn hm).mp hanc, ha⟩

/-- The siblings of a child, by their places. -/
theorem child_precedes_iff (hp : p ∈ f) {i j : Nat} {t u : Tree}
    (ht : p.tree.below? (.child i) = some t) (hu : p.tree.below? (.child j) = some u) :
    (p.below (.child i) t).Precedes (p.below (.child j) u) ↔ i < j := by
  have hi : f.InTree p.origin (p.below (.child i) t) := InTree.below ⟨hp, rfl⟩ ht
  have hj : f.InTree p.origin (p.below (.child j) u) := InTree.below ⟨hp, rfl⟩ hu
  have hself {i : Nat} {t : Tree} := Node.mem_subtree_self (p.below (.child i) t)
  refine ⟨?_, ?_⟩
  · intro h
    rcases Nat.lt_trichotomy i j with hij | rfl | hji
    · exact hij
    · rw [ht] at hu
      cases hu
      exact absurd h ((comparable_inTree _).irrefl hi)
    · exact absurd h (hj.not_precedes hi (precedes_of_child_lt hp hu ht hji hself hself))
  · intro h
    exact precedes_of_child_lt hp ht hu h hself hself

theorem mem_followingSiblings_iff (hn : f.InTree o n) : m ∈ n.followingSiblings ↔
    f.InTree o m ∧ Axis.Leads n m .followingSibling := by
  rcases child_cases hn.1 with hno | ⟨p, hpf, i, t, hb, rfl⟩
  · rw [Node.followingSiblings, siblings?_eq_none hno]
    refine ⟨?_, ?_⟩
    · intro h
      cases h
    · intro h
      rcases h with ⟨-, ⟨ha, -⟩, ⟨p, hp, -⟩, -⟩
      rw [ha, hp] at hno
      simp at hno
  · have ha := not_isAttached_child hpf hb
    rw [followingSiblings_child hpf hb, mem_drop_children_iff]
    refine ⟨?_, ?_⟩
    · intro h
      rcases h with ⟨j, u, hij, hu, rfl⟩
      exact ⟨InTree.below ⟨hpf, hn.2⟩ hu, ⟨ha, not_isAttached_child hpf hu⟩, ⟨p, rfl, rfl⟩,
        (child_precedes_iff hpf hb hu).mpr hij⟩
    · intro h
      rcases h with ⟨hm, ⟨-, hma⟩, ⟨q, hq, hmq⟩, hpre⟩
      rw [parent?_below, Option.some.injEq] at hq
      subst hq
      rcases exists_below_of_parent? hm.1 hmq with ⟨-, c, u, hu, rfl⟩
      rcases eq_child_of_not_isAttached hpf hu hma with ⟨j, rfl⟩
      exact ⟨j, u, (child_precedes_iff hpf hb hu).mp hpre, hu, rfl⟩

theorem mem_precedingSiblings_iff (hn : f.InTree o n) : m ∈ n.precedingSiblings ↔
    f.InTree o m ∧ Axis.Leads n m .precedingSibling := by
  rcases child_cases hn.1 with hno | ⟨p, hpf, i, t, hb, rfl⟩
  · rw [Node.precedingSiblings, siblings?_eq_none hno]
    refine ⟨?_, ?_⟩
    · intro h
      cases h
    · intro h
      rcases h with ⟨-, ⟨ha, -⟩, ⟨p, hp, -⟩, -⟩
      rw [ha, hp] at hno
      simp at hno
  · have ha := not_isAttached_child hpf hb
    rw [precedingSiblings_child hpf hb, List.mem_reverse, mem_take_children_iff]
    refine ⟨?_, ?_⟩
    · intro h
      rcases h with ⟨j, u, hji, hu, rfl⟩
      exact ⟨InTree.below ⟨hpf, hn.2⟩ hu, ⟨ha, not_isAttached_child hpf hu⟩, ⟨p, rfl, rfl⟩,
        (child_precedes_iff hpf hu hb).mpr hji⟩
    · intro h
      rcases h with ⟨hm, ⟨-, hma⟩, ⟨q, hq, hmq⟩, hpre⟩
      rw [parent?_below, Option.some.injEq] at hq
      subst hq
      rcases exists_below_of_parent? hm.1 hmq with ⟨-, c, u, hu, rfl⟩
      rcases eq_child_of_not_isAttached hpf hu hma with ⟨j, rfl⟩
      exact ⟨j, u, (child_precedes_iff hpf hu hb).mp hpre, hu, rfl⟩

/-- An axis that lists the node first, and then what `q` holds of. -/
theorem eq_or_inTree_iff (hn : f.InTree o n) {q : Prop} :
    (m = n ∨ f.InTree o m ∧ q) ↔ f.InTree o m ∧ (m = n ∨ q) := by
  refine ⟨?_, ?_⟩
  · intro h
    rcases h with rfl | h
    · exact ⟨hn, .inl rfl⟩
    · exact ⟨h.1, .inr h.2⟩
  · intro h
    rcases h with ⟨hm, rfl | h⟩
    · exact .inl rfl
    · exact .inr ⟨hm, h⟩

/-- An axis lists the nodes that it leads to. -/
theorem mem_along_iff (hn : f.InTree o n) {axis : Axis} (hax : axis ≠ .namespaces) :
    m ∈ n.along axis ↔ f.InTree o m ∧ axis.Leads n m := by
  cases axis with
  | self =>
    rw [Node.along, List.mem_singleton, Axis.Leads]
    refine ⟨?_, And.right⟩
    intro he
    subst he
    exact ⟨hn, rfl⟩
  | child => exact mem_children_iff_parent hn
  | attributes => exact mem_attributes_iff_parent hn
  | namespaces => exact absurd rfl hax
  | parent =>
    rw [Node.along, Option.mem_toList]
    exact ⟨fun h => ⟨hn.parent h, h⟩, And.right⟩
  | ancestor => exact mem_ancestors_iff_inTree hn
  | ancestorOrSelf =>
    rw [Node.along, Node.ancestorsOrSelf, List.mem_cons, mem_ancestors_iff_inTree hn, Axis.Leads]
    exact eq_or_inTree_iff hn
  | descendant => exact mem_descendants_iff_isAncestor hn
  | descendantOrSelf =>
    rw [Node.along, Node.descendantsOrSelf, List.mem_cons, mem_descendants_iff_isAncestor hn,
      Axis.Leads]
    exact eq_or_inTree_iff hn
  | followingSibling => exact mem_followingSiblings_iff hn
  | precedingSibling => exact mem_precedingSiblings_iff hn
  | following =>
    rw [Node.along, mem_following_iff hn, Axis.Leads]
    refine and_congr_right fun hm => and_congr_right fun _ => and_congr_right fun hpre => ?_
    rw [isAncestor_iff hn hm]
    exact ⟨fun h h' => h h'.1, fun h h' => h ⟨h', (hn.ne_of_precedes hpre).symm⟩⟩
  | preceding =>
    rw [Node.along, mem_preceding_iff hn, Axis.Leads]
    refine and_congr_right fun hm => and_congr_right fun _ => and_congr_right fun hpre => ?_
    rw [isAncestor_iff hm hn]
    exact ⟨fun h h' => h h'.1, fun h h' => h ⟨h', (hm.ne_of_precedes hpre).symm⟩⟩

/-! ## 3. The order of the nodes on an axis -/

/-- The nodes come in strictly decreasing document order. -/
def Reversed (l : List Node) : Prop := l.Pairwise fun x y => y.Precedes x

theorem pairwise_of_innerBefore (hn : n ∈ f) {l : List Node} (h : l.Pairwise n.InnerBefore) :
    l.Pairwise Node.Precedes :=
  h.imp fun hxy => precedes_of_innerBefore hn hxy (Node.mem_subtree_self _)
    (Node.mem_subtree_self _)

theorem pairwise_children_precedes (hn : n ∈ f) : n.children.Pairwise Node.Precedes :=
  pairwise_of_innerBefore hn (Node.pairwise_children n)

theorem pairwise_descendants (hn : f.InTree o n) : n.descendants.Pairwise Node.Precedes := by
  have hpair := pairwise_subtree_precedes hn
  rw [Node.subtree_eq, List.pairwise_cons] at hpair
  rw [descendants_eq_filter hn.1]
  exact hpair.2.filter _

theorem pairwise_descendantsOrSelf (hn : f.InTree o n) :
    n.descendantsOrSelf.Pairwise Node.Precedes := by
  rw [Node.descendantsOrSelf, List.pairwise_cons]
  refine ⟨fun m hm => ?_, pairwise_descendants hn⟩
  rcases (mem_descendants_iff hn).mp hm with ⟨⟨hsub, hne⟩, -⟩
  exact hn.precedes_of_mem_subtree hsub hne

/-- Some children, in their order, with all below them. -/
theorem pairwise_flatMap_children (hp : f.InTree o p) {l : List Node}
    (hl : l.Sublist p.children) : (l.flatMap Node.descendantsOrSelf).Pairwise Node.Precedes := by
  have hmem : ∀ c ∈ l, f.InTree o c ∧ c.isAttached = false := by
    intro c hc
    rcases (mem_children_iff_parent hp).mp (hl.mem hc) with ⟨hin, -, ha⟩
    exact ⟨hin, ha⟩
  rw [List.pairwise_flatMap]
  refine ⟨fun c hc => pairwise_descendantsOrSelf (hmem c hc).1, ?_⟩
  refine ((Node.pairwise_children p).sublist hl).imp_of_mem ?_
  intro c d hc hd hcd x hx y hy
  rw [mem_descendantsOrSelf_iff (hmem c hc).1.1 (hmem c hc).2] at hx
  rw [mem_descendantsOrSelf_iff (hmem d hd).1.1 (hmem d hd).2] at hy
  exact precedes_of_innerBefore hp.1 hcd hx.1 hy.1

theorem pairwise_after (hn : f.InTree o n) (ha : n.isAttached = false) :
    n.after.Pairwise Node.Precedes := by
  refine InTree.induction (P := fun n => n.isAttached = false → n.after.Pairwise Node.Precedes)
    ?_ ?_ hn ha
  · intro n _ htop _
    rw [after_root (parent?_eq_none htop)]
    exact .nil
  · intro p b t hp hb ih ha
    rcases eq_child_of_not_isAttached hp.1 hb ha with ⟨i, rfl⟩
    have hpa := isAttached_of_below? hp.1 hb
    rw [after_child hp.1 hb, List.pairwise_append]
    refine ⟨pairwise_flatMap_children hp (List.drop_sublist _ _), ih hpa, fun x hx y hy => ?_⟩
    rcases (mem_flatMap_drop_iff hp.1).mp hx with ⟨j, u, -, hu, hx, -⟩
    rcases (mem_after_iff hp hpa).mp hy with ⟨hyt, -, hpy, hnot⟩
    have hsub := below_mem_subtree (Node.mem_subtree_self p) hu
    exact hp.precedes_of_after hyt hpy hnot (mem_subtree_trans hsub hx)

theorem reversed_before (hn : f.InTree o n) (ha : n.isAttached = false) : Reversed n.before := by
  refine InTree.induction (P := fun n => n.isAttached = false → Reversed n.before) ?_ ?_ hn ha
  · intro n _ htop _
    rw [before_root (parent?_eq_none htop)]
    exact .nil
  · intro p b t hp hb ih ha
    rcases eq_child_of_not_isAttached hp.1 hb ha with ⟨i, rfl⟩
    have hpa := isAttached_of_below? hp.1 hb
    -- the siblings are listed from the nearest to the first, each from its last node to its first
    rw [Reversed, before_child hp.1 hb, List.pairwise_append, List.pairwise_reverse]
    refine ⟨pairwise_flatMap_children hp (List.take_sublist _ _), ih hpa, fun x hx y hy => ?_⟩
    rcases (mem_flatMap_take_iff hp.1).mp (List.mem_reverse.mp hx) with ⟨j, u, -, hu, hx, -⟩
    rcases (mem_before_iff hp hpa).mp hy with ⟨hyt, -, hyp, -⟩
    have hsub := below_mem_subtree (Node.mem_subtree_self p) hu
    exact hp.precedes_of_before hyt hyp (mem_subtree_trans hsub hx)

theorem inTree_of_mem_ancestorsOrSelf (hn : f.InTree o n) (h : p ∈ n.ancestorsOrSelf) :
    f.InTree o p := by
  rcases List.mem_cons.mp h with rfl | h
  · exact hn
  · exact ((mem_ancestors_iff_inTree hn).mp h).1

theorem reversed_ancestorsOrSelf (hn : f.InTree o n) : Reversed n.ancestorsOrSelf := by
  refine InTree.induction (P := fun n => Reversed n.ancestorsOrSelf) ?_ ?_ hn
  · intro n _ htop
    rw [Node.ancestorsOrSelf, ancestors_of_parent?_eq_none (parent?_eq_none htop)]
    exact List.pairwise_singleton _ _
  · intro p b t hp hb ih
    refine List.pairwise_cons.mpr ⟨fun a ha => ?_, ih⟩
    have hat : f.InTree o a := inTree_of_mem_ancestorsOrSelf hp ha
    -- all further ancestors are above the parent, and so before the node
    have hpa : p ∈ a.subtree := (mem_ancestorsOrSelf_iff hat hp).mp ha
    refine hat.precedes_of_mem_subtree (below_mem_subtree hpa hb) ?_
    intro he
    subst he
    exact below_ne_self p b t
      (hp.subtree_antisymm (below_mem_subtree (Node.mem_subtree_self p) hb) hpa)

theorem sublist_siblings (hn : n ∈ f) : ∃ p ∈ f, n.followingSiblings.Sublist p.children ∧
    n.precedingSiblings.reverse.Sublist p.children := by
  rcases child_cases hn with hno | ⟨p, hpf, i, t, hb, rfl⟩
  · refine ⟨n, hn, ?_⟩
    rw [Node.followingSiblings, Node.precedingSiblings, siblings?_eq_none hno]
    exact ⟨List.nil_sublist _, List.nil_sublist _⟩
  · refine ⟨p, hpf, ?_⟩
    rw [followingSiblings_child hpf hb, precedingSiblings_child hpf hb, List.reverse_reverse]
    exact ⟨List.drop_sublist _ _, List.take_sublist _ _⟩

theorem pairwise_following (hn : f.InTree o n) : n.following.Pairwise Node.Precedes := by
  unfold Node.following
  by_cases hatt : n.isAttached = true
  · rw [if_pos hatt]
    cases hpar : n.parent? with
    | none => exact .nil
    | some p =>
      rcases exists_below_of_parent? hn.1 hpar with ⟨hpf, b, t, hb, rfl⟩
      have hp : f.InTree o p := ⟨hpf, hn.2⟩
      have hpa := isAttached_of_below? hpf hb
      show (p.descendants ++ p.after).Pairwise Node.Precedes
      rw [List.pairwise_append]
      refine ⟨pairwise_descendants hp, pairwise_after hp hpa, fun x hx y hy => ?_⟩
      rcases (mem_after_iff hp hpa).mp hy with ⟨hyt, -, hpy, hnot⟩
      exact hp.precedes_of_after hyt hpy hnot ((mem_descendants_iff hp).mp hx).1.1
  · rw [if_neg hatt]
    exact pairwise_after hn (Bool.eq_false_iff.mpr hatt)

theorem reversed_preceding (hn : f.InTree o n) : Reversed n.preceding := by
  unfold Node.preceding
  by_cases hatt : n.isAttached = true
  · rw [if_pos hatt]
    cases hpar : n.parent? with
    | none => exact .nil
    | some p =>
      rcases exists_below_of_parent? hn.1 hpar with ⟨hpf, b, t, hb, rfl⟩
      exact reversed_before ⟨hpf, hn.2⟩ (isAttached_of_below? hpf hb)
  · rw [if_neg hatt]
    exact reversed_before hn (Bool.eq_false_iff.mpr hatt)

theorem pairwise_along (hn : f.InTree o n) {axis : Axis} (hax : axis ≠ .namespaces) :
    if axis.isReverse then Reversed (n.along axis) else (n.along axis).Pairwise Node.Precedes := by
  cases axis with
  | self => exact List.pairwise_singleton _ _
  | child => exact pairwise_children_precedes hn.1
  | attributes => exact pairwise_of_innerBefore hn.1 (Node.pairwise_attributes n)
  | namespaces => exact absurd rfl hax
  | parent =>
    show Reversed n.parent?.toList
    cases n.parent? with
    | none => exact .nil
    | some p => exact List.pairwise_singleton _ _
  | ancestor => exact (List.pairwise_cons.mp (reversed_ancestorsOrSelf hn)).2
  | ancestorOrSelf => exact reversed_ancestorsOrSelf hn
  | descendant => exact pairwise_descendants hn
  | descendantOrSelf => exact pairwise_descendantsOrSelf hn
  | followingSibling =>
    rcases sublist_siblings hn.1 with ⟨p, hp, hsub, -⟩
    exact (pairwise_children_precedes hp).sublist hsub
  | precedingSibling =>
    rcases sublist_siblings hn.1 with ⟨p, hp, -, hsub⟩
    exact List.pairwise_reverse.mp ((pairwise_children_precedes hp).sublist hsub)
  | following => exact pairwise_following hn
  | preceding => exact reversed_preceding hn

end Forest

end XPath
