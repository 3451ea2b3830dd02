import XPath.Proofs.Tree.AxisOrder

/-!
# The order of namespace nodes in scope

The namespace nodes in scope of an element are collected on the way to the root: first its own, then
those that it inherits from the element above it, and so on.  In document order it is the other way
around, the outermost element comes first.  So the list is in document order only if all its nodes
are of one element.
-/

namespace XPath

namespace Forest

variable {f : Forest} {n p x y : Node} {o : Origin}

/-! ## 1. Ancestors and their namespace nodes -/

/-- Of the nodes on the way to the root each is below all that are listed after it. -/
theorem pairwise_ancestorsOrSelf_subtree (hn : f.InTree o n) :
    n.ancestorsOrSelf.Pairwise fun a p => a ∈ p.subtree ∧ a ≠ p := by
  refine (reversed_ancestorsOrSelf hn).imp_of_mem ?_
  intro a p ha hp hpre
  have hat := inTree_of_mem_ancestorsOrSelf hn ha
  have hpt := inTree_of_mem_ancestorsOrSelf hn hp
  have hapath := (mem_subtree_iff_path hat hn).mp ((mem_ancestorsOrSelf_iff hat hn).mp ha)
  have hppath := (mem_subtree_iff_path hpt hn).mp ((mem_ancestorsOrSelf_iff hpt hn).mp hp)
  refine ⟨?_, (hpt.ne_of_precedes hpre).symm⟩
  -- both paths lead toward the node, so one continues the other
  rcases List.prefix_or_prefix_of_prefix hapath hppath with hap | hpa
  · have hsub := (mem_subtree_iff_path hat hpt).mpr hap
    exact absurd hpre (hat.not_precedes_of_mem_subtree hsub)
  · exact (mem_subtree_iff_path hpt hat).mpr hpa

theorem sublist_distinctPrefixes (seen : List String) (l : List Node) :
    (Node.distinctPrefixes seen l).Sublist l := by
  induction l generalizing seen with
  | nil => exact .slnil
  | cons n l ih =>
    rw [Node.distinctPrefixes]
    by_cases hseen : seen.contains n.declaredPrefix = true
    · rw [if_pos hseen]
      exact (ih seen).cons n
    · rw [if_neg hseen]
      exact (ih _).cons_cons n

/-- The namespace nodes in scope are some of those of the elements on the way to the root. -/
theorem sublist_namespacesInScope (n : Node) : n.namespacesInScope.Sublist
    ((n.ancestorsOrSelf.filter (·.kind == .element)).flatMap (·.namespaces)) := by
  unfold Node.namespacesInScope
  by_cases hk : (n.kind == .element) = true
  · rw [if_pos hk]
    exact sublist_distinctPrefixes [] _
  · rw [if_neg hk]
    exact List.nil_sublist _

theorem parent?_of_mem_namespaces (h : x ∈ n.namespaces) : x.parent? = some n := by
  rcases Node.mem_namespaces_iff.mp h with ⟨i, t, -, rfl⟩
  rfl

theorem inTree_of_mem_namespacesInScope (hn : f.InTree o n) (hx : x ∈ n.namespacesInScope) :
    f.InTree o x := by
  rcases List.mem_flatMap.mp ((sublist_namespacesInScope n).mem hx) with ⟨a, ha, hx⟩
  rcases Node.mem_namespaces_iff.mp hx with ⟨i, t, ht, rfl⟩
  exact (inTree_of_mem_ancestorsOrSelf hn (List.mem_filter.mp ha).1).below ht

/-- The namespace nodes of an element come before those of the elements below it. -/
theorem precedes_of_mem_namespaces (hp : f.InTree o p) (hn : f.InTree o n) (hsub : n ∈ p.subtree)
    (hne : n ≠ p) (ha : n.isAttached = false) (hx : x ∈ p.namespaces) (hy : y ∈ n.namespaces) :
    x.Precedes y := by
  have hatt := (isAttached_of_mem_namespaces hp.1 hx).2.2
  rcases Node.mem_namespaces_iff.mp hx with ⟨i, t, ht, rfl⟩
  rcases Node.mem_namespaces_iff.mp hy with ⟨j, u, hu, rfl⟩
  have hpre := precedes_of_isAttached hp.1 ht hatt hsub hne ha
  exact hn.precedes_of_before (hp.below ht) hpre (below_mem_subtree (Node.mem_subtree_self n) hu)

/-! ## 2. The order of the list -/

/-- The namespace nodes of one element are listed in document order, but before those of the
elements above it, which come first in document order. -/
theorem pairwise_namespacesInScope (hn : f.InTree o n) :
    n.namespacesInScope.Pairwise fun x y =>
      (x.parent? = y.parent? ∧ x.Precedes y) ∨ (x.parent? ≠ y.parent? ∧ y.Precedes x) := by
  refine List.Pairwise.sublist (sublist_namespacesInScope n) ?_
  have helement : ∀ a ∈ n.ancestorsOrSelf.filter (·.kind == .element),
      f.InTree o a ∧ a.isAttached = false := by
    intro a ha
    rcases List.mem_filter.mp ha with ⟨ha, hk⟩
    refine ⟨inTree_of_mem_ancestorsOrSelf hn ha, ?_⟩
    rw [Node.isAttached_eq, eq_of_beq hk]
    rfl
  -- two nodes are of one element, or the element of the second is above that of the first
  rw [List.pairwise_flatMap]
  refine ⟨fun a ha => ?_, ?_⟩
  · refine (pairwise_of_innerBefore (helement a ha).1.1 (Node.pairwise_namespaces a)).imp_of_mem ?_
    intro x y hx hy hpre
    rw [parent?_of_mem_namespaces hx, parent?_of_mem_namespaces hy]
    exact .inl ⟨rfl, hpre⟩
  · refine ((pairwise_ancestorsOrSelf_subtree hn).filter _).imp_of_mem ?_
    intro a p ha hp hap x hx y hy
    rw [parent?_of_mem_namespaces hx, parent?_of_mem_namespaces hy]
    rcases helement a ha with ⟨hat, hatt⟩
    refine .inr ⟨fun he => hap.2 (Option.some.inj he), ?_⟩
    exact precedes_of_mem_namespaces (helement p hp).1 hat hap.1 hap.2 hatt hy hx

/-- Namespace nodes in scope stand in document order if they are all of one element, and only
then. -/
theorem pairwise_namespacesInScope_iff (hn : f.InTree o n) :
    n.namespacesInScope.Pairwise Node.Precedes ↔
      ∀ x ∈ n.namespacesInScope, ∀ y ∈ n.namespacesInScope, x.parent? = y.parent? := by
  have hpair := pairwise_namespacesInScope hn
  refine ⟨?_, ?_⟩
  · intro hsorted
    have hsame : n.namespacesInScope.Pairwise fun x y => x.parent? = y.parent? := by
      refine (hsorted.and hpair).imp_of_mem ?_
      rintro x y hx hy ⟨hxy, ⟨he, -⟩ | ⟨-, hyx⟩⟩
      · exact he
      · have hxt := inTree_of_mem_namespacesInScope hn hx
        have hyt := inTree_of_mem_namespacesInScope hn hy
        exact absurd hyx (hxt.not_precedes hyt hxy)
    intro x hx y hy
    exact List.Pairwise.forall_of_forall_of_flip (R := fun x y : Node => x.parent? = y.parent?)
      (fun _ _ => rfl) hsame (hsame.imp Eq.symm) hx hy
  · intro hone
    refine hpair.imp_of_mem ?_
    rintro x y hx hy (⟨-, hpre⟩ | ⟨hne, -⟩)
    · exact hpre
    · exact absurd (hone x hx y hy) hne

end Forest

end XPath
