import XPath.Proofs.Tree.AxisOrder

/-!
# Axes divide the tree

A node of the tree is the node itself, or it comes before it or after it; and then one of the two is
in the subtree of the other or not.  These five cases are five axes.  An attached node has no
descendants and is not counted itself, which leaves three.
-/

namespace XPath

/-! ## 1. The sides of a node -/

/-- The five axes that every node of a tree divides it into; three around an attached node. -/
def Node.divisions (n : Node) : List Axis :=
  if n.isAttached then [.ancestor, .preceding, .following]
  else [.self, .ancestor, .descendant, .preceding, .following]

/-- The node stands at exactly one place of the list. -/
def Node.OccursOnce (m : Node) (l : List Node) : Prop :=
  ∃ l₁ l₂, l = l₁ ++ m :: l₂ ∧ m ∉ l₁ ∧ m ∉ l₂

/-- On which side of a node another node is: before or after it, above or below it or not. -/
def Axis.Side (n m : Node) : Axis → Prop
  | .self => m = n
  | .ancestor => m.Precedes n ∧ n ∈ m.subtree
  | .descendant => n.Precedes m ∧ m ∈ n.subtree
  | .preceding => m.Precedes n ∧ n ∉ m.subtree
  | .following => n.Precedes m ∧ m ∉ n.subtree
  | _ => False

namespace Forest

variable {f : Forest} {m n : Node} {o : Origin} {a b : Axis}

theorem mem_along_iff_side (hn : f.InTree o n) (hm : f.InTree o m) (ha : m.isAttached = false)
    (hmem : a ∈ n.divisions) : m ∈ n.along a ↔ a.Side n m := by
  have hfive : a ∈ [Axis.self, .ancestor, .descendant, .preceding, .following] := by
    unfold Node.divisions at hmem
    by_cases hatt : n.isAttached = true
    · rw [if_pos hatt] at hmem
      revert hmem
      cases a <;> decide
    · rw [if_neg hatt] at hmem
      exact hmem
  cases a with
  | self => exact List.mem_singleton
  | ancestor =>
    rw [Node.along, mem_ancestors_iff_inTree hn, isAncestor_iff hm hn, Axis.Side]
    refine ⟨?_, ?_⟩
    · intro h
      exact ⟨hm.precedes_of_mem_subtree h.2.1 h.2.2, h.2.1⟩
    · intro h
      exact ⟨hm, h.2, (hm.ne_of_precedes h.1).symm⟩
  | descendant =>
    rw [Node.along, mem_descendants_iff hn, Axis.Side]
    refine ⟨?_, ?_⟩
    · intro h
      exact ⟨hn.precedes_of_mem_subtree h.1.1 h.1.2, h.1.1⟩
    · intro h
      exact ⟨⟨h.2, (hn.ne_of_precedes h.1).symm⟩, ha⟩
  | preceding =>
    rw [Node.along, mem_preceding_iff hn, Axis.Side]
    exact ⟨fun h => h.2.2, fun h => ⟨hm, ha, h⟩⟩
  | following =>
    rw [Node.along, mem_following_iff hn, Axis.Side]
    exact ⟨fun h => h.2.2, fun h => ⟨hm, ha, h⟩⟩
  | _ => exact absurd hfive (by decide)

/-- No node is on two sides. -/
theorem side_unique (hn : f.InTree o n) (hm : f.InTree o m) (hside : a.Side n m)
    (hside' : b.Side n m) : a = b := by
  have hirr : ¬ n.Precedes n := (comparable_inTree o).irrefl hn
  have hasymm : m.Precedes n → ¬ n.Precedes m := fun h => hm.not_precedes hn h
  -- two sides exclude each other by the order of the nodes, or by a subtree that holds one of them
  cases a <;> cases b <;> simp only [Axis.Side] at hside hside'
  all_goals first
    | rfl
    | (subst hside; exact absurd hside'.1 hirr)
    | (subst hside'; exact absurd hside.1 hirr)
    | exact absurd hside'.1 (hasymm hside.1)
    | exact absurd hside.1 (hasymm hside'.1)
    | exact absurd hside.2 hside'.2
    | exact absurd hside'.2 hside.2

/-- Every node that is not attached is on one side. -/
theorem exists_side (hn : f.InTree o n) (hm : f.InTree o m) (ha : m.isAttached = false) :
    ∃ a ∈ n.divisions, a.Side n m := by
  unfold Node.divisions
  rcases (comparable_inTree o).compare_cases hm hn with h | ⟨-, rfl⟩ | ⟨-, h⟩
  · by_cases hsub : n ∈ m.subtree
    · refine ⟨.ancestor, ?_, h, hsub⟩
      by_cases hatt : n.isAttached = true <;> simp [hatt]
    · refine ⟨.preceding, ?_, h, hsub⟩
      by_cases hatt : n.isAttached = true <;> simp [hatt]
  · exact ⟨.self, by simp [ha], rfl⟩
  · by_cases hsub : m ∈ n.subtree
    · have hatt : n.isAttached = false := by
        rw [Bool.eq_false_iff]
        intro hatt
        exact not_mem_subtree_of_isAttached hn.1 hatt ha hsub
      exact ⟨.descendant, by simp [hatt], h, hsub⟩
    · refine ⟨.following, ?_, h, hsub⟩
      by_cases hatt : n.isAttached = true <;> simp [hatt]

/-! ## 2. The division of a tree -/

theorem occursOnce_of_nodup {l : List Node} (hl : l.Pairwise (· ≠ ·)) (hm : m ∈ l) :
    m.OccursOnce l := by
  rcases List.mem_iff_append.mp hm with ⟨l₁, l₂, rfl⟩
  rw [List.pairwise_append, List.pairwise_cons] at hl
  refine ⟨l₁, l₂, rfl, fun h => ?_, fun h => ?_⟩
  · exact hl.2.2 m h m List.mem_cons_self rfl
  · exact hl.2.1.1 m h rfl

theorem ne_namespaces_of_mem_divisions (h : a ∈ n.divisions) : a ≠ .namespaces := by
  intro he
  subst he
  unfold Node.divisions at h
  by_cases hatt : n.isAttached = true <;> simp [hatt] at h

theorem pairwise_ne_along (hn : f.InTree o n) (ha : a ≠ .namespaces) :
    (n.along a).Pairwise (· ≠ ·) := by
  have hmem {x : Node} (hx : x ∈ n.along a) : f.InTree o x := ((mem_along_iff hn ha).mp hx).1
  have horder := pairwise_along hn ha
  by_cases hrev : a.isReverse = true
  · rw [if_pos hrev] at horder
    exact horder.imp_of_mem fun _ hy h => ((hmem hy).ne_of_precedes h).symm
  · rw [if_neg hrev] at horder
    exact horder.imp_of_mem fun hx _ h => (hmem hx).ne_of_precedes h

theorem not_isAttached_of_isAncestor (hm : f.InTree o m) (hn : f.InTree o n)
    (h : m.IsAncestor n) : m.isAttached = false := by
  rw [Bool.eq_false_iff]
  intro hatt
  have hsub := (isAncestor_iff hm hn).mp h
  rw [subtree_of_isAttached hm.1 hatt, List.mem_singleton] at hsub
  exact hsub.2 hsub.1

theorem not_isAttached_of_mem_division (hn : f.InTree o n) (ha : a ∈ n.divisions)
    (hm : m ∈ n.along a) : m.isAttached = false := by
  unfold Node.divisions at ha
  by_cases hatt : n.isAttached = true
  · rw [if_pos hatt] at ha
    cases a with
    | ancestor =>
      have hanc := (mem_ancestors_iff_inTree hn).mp hm
      exact not_isAttached_of_isAncestor hanc.1 hn hanc.2
    | preceding => exact ((mem_preceding_iff hn).mp hm).2.1
    | following => exact ((mem_following_iff hn).mp hm).2.1
    | _ => exact absurd ha (by decide)
  · rw [if_neg hatt] at ha
    cases a with
    | self =>
      rw [List.mem_singleton.mp hm]
      exact Bool.eq_false_iff.mpr hatt
    | ancestor =>
      have hanc := (mem_ancestors_iff_inTree hn).mp hm
      exact not_isAttached_of_isAncestor hanc.1 hn hanc.2
    | descendant => exact ((mem_descendants_iff hn).mp hm).2
    | preceding => exact ((mem_preceding_iff hn).mp hm).2.1
    | following => exact ((mem_following_iff hn).mp hm).2.1
    | _ => exact absurd ha (by decide)

/-- The axes of a node of a forest divide its tree: each other node that is not attached, and the
node itself if it is not, is on one of them, at one place.  All axes but that of the namespaces are
in strict document order, forward or reverse. -/
theorem axes_divide_tree (hn : n ∈ f) :
    (∀ m, f.InTree n.origin m → m.isAttached = false →
      ∃ a ∈ n.divisions, m.OccursOnce (n.along a) ∧
        ∀ b ∈ n.divisions, m ∈ n.along b → b = a) ∧
    (∀ a ∈ n.divisions, ∀ m ∈ n.along a, f.InTree n.origin m ∧ m.isAttached = false) ∧
    (∀ a ∈ [Axis.child, .attributes, .descendant, .descendantOrSelf, .followingSibling,
        .following, .self], (n.along a).Pairwise Node.Precedes) ∧
    (∀ a ∈ [Axis.parent, .ancestor, .ancestorOrSelf, .precedingSibling, .preceding],
        Reversed (n.along a)) := by
  have hin : f.InTree n.origin n := ⟨hn, rfl⟩
  refine ⟨fun m hm ha => ?_, fun a ha m hm => ?_, fun a ha => ?_, fun a ha => ?_⟩
  · rcases exists_side hin hm ha with ⟨a, hdiv, hside⟩
    have hmem := (mem_along_iff_side hin hm ha hdiv).mpr hside
    have hnodup := pairwise_ne_along hin (ne_namespaces_of_mem_divisions hdiv)
    -- strict order rules out a second place on the axis, and the sides rule out a second axis
    refine ⟨a, hdiv, occursOnce_of_nodup hnodup hmem, fun b hb hmb => ?_⟩
    exact side_unique hin hm ((mem_along_iff_side hin hm ha hb).mp hmb) hside
  · have hmem := (mem_along_iff hin (ne_namespaces_of_mem_divisions ha)).mp hm
    exact ⟨hmem.1, not_isAttached_of_mem_division hin ha hm⟩
  · have hax : a ≠ .namespaces ∧ a.isReverse = false := by
      revert ha
      cases a <;> decide
    have horder := pairwise_along hin hax.1
    rwa [hax.2] at horder
  · have hax : a ≠ .namespaces ∧ a.isReverse = true := by
      revert ha
      cases a <;> decide
    have horder := pairwise_along hin hax.1
    rwa [hax.2] at horder

theorem axes_divide_tree_sample :
    let n := sampleNode
    n ∈ sample ∧
    (∀ m, sample.InTree n.origin m → m.isAttached = false →
      ∃ a ∈ n.divisions, m.OccursOnce (n.along a) ∧
        ∀ b ∈ n.divisions, m ∈ n.along b → b = a) ∧
    (∀ a ∈ n.divisions, ∀ m ∈ n.along a, sample.InTree n.origin m ∧ m.isAttached = false) ∧
    (∀ a ∈ [Axis.child, .attributes, .descendant, .descendantOrSelf, .followingSibling,
        .following, .self], (n.along a).Pairwise Node.Precedes) ∧
    (∀ a ∈ [Axis.parent, .ancestor, .ancestorOrSelf, .precedingSibling, .preceding],
        Reversed (n.along a)) :=
  ⟨sampleNode_mem, axes_divide_tree sampleNode_mem⟩

end Forest

end XPath
