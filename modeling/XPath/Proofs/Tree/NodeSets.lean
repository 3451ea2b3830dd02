import XPath.Proofs.Tree.Ancestry
import XPath.Proofs.Tree.Sorting

/-!
# Lists of nodes as sets

A list in strictly increasing document order is determined by the set of its nodes.  So sorting
gives the one such list of a set: it does not depend on the order of the nodes or on how often they
occur, and a sorted list stays as it is.  Where the trees of a forest have no order between them,
sorting fails as soon as the nodes are of more than one tree.
-/

namespace XPath

/-! ## 1. The sorted list of a set -/

namespace Node

/-- The list has exactly the nodes with a property, in strictly increasing document order. -/
structure Lists (l : List Node) (p : Node → Prop) : Prop where
  sorted : l.Pairwise Precedes
  mem_iff : ∀ m, m ∈ l ↔ p m

section Lists

variable {f : Forest} {s p q : Node → Prop} {l r r' : List Node}

theorem Lists.congr (h : Lists r p) (hpq : ∀ m, p m ↔ q m) : Lists r q where
  sorted := h.sorted
  mem_iff m := (h.mem_iff m).trans (hpq m)

theorem Lists.nodup (hs : f.Comparable s) (hp : ∀ m, p m → s m) (h : Lists r p) : r.Nodup := by
  refine List.Pairwise.imp_of_mem ?_ h.sorted
  intro m n hm _ hpre he
  subst he
  exact hs.irrefl (hp m ((h.mem_iff m).mp hm)) hpre

/-- Only one list has the nodes of a set in document order. -/
theorem Lists.unique (hs : f.Comparable s) (hp : ∀ m, p m → s m) (h : Lists r p)
    (h' : Lists r' p) : r = r' := by
  have hperm : r.Perm r' := by
    rw [List.perm_ext_iff_of_nodup (h.nodup hs hp) (h'.nodup hs hp)]
    intro m
    rw [h.mem_iff, h'.mem_iff]
  refine List.Perm.eq_of_pairwise ?_ h.sorted h'.sorted hperm
  intro m n hm hn hmn hnm
  have hsm := hp m ((h.mem_iff m).mp hm)
  have hsn := hp n ((h'.mem_iff n).mp hn)
  exact absurd (hs.trans hsm hsn hsm hmn hnm) (hs.irrefl hsm)

theorem exists_sortDistinct (hs : f.Comparable s) (hl : ∀ m ∈ l, s m) :
    ∃ r, sortDistinct l = .ok r ∧ Lists r (· ∈ l) := by
  rcases sortDistinct_spec hs hl with ⟨r, hsort, hsorted, hmem⟩
  exact ⟨r, hsort, hsorted, hmem⟩

/-- Sorting the nodes that pass a test. -/
theorem exists_sortDistinct_filter (hs : f.Comparable s) (hl : ∀ m ∈ l, s m) {test : Node → Bool}
    (h : ∀ m ∈ l, (test m = true ↔ p m)) :
    ∃ r, sortDistinct (l.filter test) = .ok r ∧ Lists r fun m => m ∈ l ∧ p m := by
  have hfilter : ∀ m ∈ l.filter test, s m := fun m hm => hl m (List.mem_filter.mp hm).1
  rcases exists_sortDistinct hs hfilter with ⟨r, hsort, hlists⟩
  exact ⟨r, hsort, hlists.congr fun m => List.mem_filter.trans (and_congr_right (h m))⟩

/-- Sorting gives the list of the set of the nodes, and nothing else. -/
theorem sortDistinct_eq_ok_iff (hs : f.Comparable s) (hl : ∀ m ∈ l, s m) :
    sortDistinct l = .ok r ↔ Lists r (· ∈ l) := by
  rcases exists_sortDistinct hs hl with ⟨r', hsort, hlists⟩
  rw [hsort, Except.ok.injEq]
  refine ⟨?_, hlists.unique hs hl⟩
  intro he
  subst he
  exact hlists

/-- Lists of the same nodes are sorted to the same list. -/
theorem sortDistinct_congr (hs : f.Comparable s) (hl : ∀ m ∈ l, s m) {l' : List Node}
    (h : ∀ m, m ∈ l ↔ m ∈ l') : sortDistinct l = sortDistinct l' := by
  rcases exists_sortDistinct hs hl with ⟨r, hsort, hlists⟩
  have hl' : ∀ m ∈ l', s m := fun m hm => hl m ((h m).mpr hm)
  rw [hsort]
  exact ((sortDistinct_eq_ok_iff hs hl').mpr (hlists.congr h)).symm

end Lists

/-! ## 2. Trees without an order between them -/

section Unranked

variable {f : Forest} {m n : Node} {o : Origin} {l : List Node} {nodes : Array Node}

/-- There is no order between the nodes of different trees. -/
theorem compare_eq_error (hf : f.ranked = false) (hm : m ∈ f) (hn : n ∈ f)
    (ho : m.origin ≠ n.origin) : m.compare n = .error .noDocumentOrder := by
  have hroot : ¬ (m.root == n.root) = true := fun h =>
    ho (origin_eq_of_index hm hn ((root_same_iff hm hn).mp h))
  have hsame : ¬ (m == n) = true := fun h => ho (congrArg origin ((Forest.same_iff_eq hm hn).mp h))
  rw [compare, hm.1, hf, Bool.false_and, Bool.false_and, if_neg Bool.false_ne_true,
    compareByAncestry, if_neg hsame]
  rcases hm with ⟨-, root, -, hpm⟩
  rcases hn with ⟨-, root', -, hpn⟩
  rcases way_of_place m.origin hpm with ⟨way, hway, -⟩
  rcases way_of_place n.origin hpn with ⟨way', hway', -⟩
  rw [root_of_place m.origin hpm, root_of_place n.origin hpn] at hroot
  -- the ways part at their first nodes, which are the two roots
  show compareWays none (⟨m.origin, m.tree, m.above⟩ : Node).wayFromRoot
    (⟨n.origin, n.tree, n.above⟩ : Node).wayFromRoot = _
  rw [hway, hway', compareWays, if_neg hroot]

/-- A node of another tree is not inserted: it is compared with the last of the sorted nodes. -/
theorem insertDistinct_eq_error (hf : f.ranked = false) (hne : nodes ≠ #[])
    (hmem : ∀ m ∈ nodes, f.InTree o m) (hn : n ∈ f) (ho : n.origin ≠ o) :
    insertDistinct nodes n = .error .noDocumentOrder := by
  unfold insertDistinct
  cases hlast : nodes.back? with
  | none => exact absurd (Array.back?_eq_none_iff.mp hlast) hne
  | some last =>
    have hin := hmem last (Array.mem_of_back? hlast)
    have hdiffer : last.origin ≠ n.origin := fun he => ho (he.symm.trans hin.2)
    simp only [compare_eq_error hf hin.1 hn hdiffer]
    rfl

theorem foldlM_insertDistinct_eq_error (hf : f.ranked = false) (hne : nodes ≠ #[])
    (hmem : ∀ m ∈ nodes, f.InTree o m) (hsorted : Sorted nodes) (hl : ∀ m ∈ l, m ∈ f)
    (hex : ∃ m ∈ l, m.origin ≠ o) :
    l.foldlM insertDistinct nodes = .error .noDocumentOrder := by
  induction l generalizing nodes with
  | nil =>
    rcases hex with ⟨m, hm, -⟩
    cases hm
  | cons n l ih =>
    rw [List.foldlM_cons]
    have hn := hl n List.mem_cons_self
    by_cases ho : n.origin = o
    -- a node of the tree joins the sorted ones, and the other tree is still to come
    · rcases insertDistinct_spec (Forest.comparable_inTree o) hmem ⟨hn, ho⟩ hsorted
        with ⟨nodes', hins, hsorted', hmem'⟩
      rw [hins]
      refine ih ?_ ?_ hsorted' (fun m hm => hl m (List.mem_cons_of_mem n hm)) ?_
      · intro he
        have hin : n ∈ nodes' := (hmem' n).mpr (.inl rfl)
        rw [he] at hin
        exact Array.not_mem_empty n hin
      · intro m hm
        rcases (hmem' m).mp hm with rfl | hm
        · exact ⟨hn, ho⟩
        · exact hmem m hm
      · rcases hex with ⟨m, hm, hmo⟩
        rcases List.mem_cons.mp hm with rfl | hm
        · exact absurd ho hmo
        · exact ⟨m, hm, hmo⟩
    · rw [insertDistinct_eq_error hf hne hmem hn ho]
      rfl

/-- Nodes of two trees without an order between them are not sorted. -/
theorem sortDistinct_eq_error (hf : f.ranked = false) (hl : ∀ m ∈ l, m ∈ f)
    (hex : ∃ m ∈ l, ∃ n ∈ l, m.origin ≠ n.origin) :
    sortDistinct l = .error .noDocumentOrder := by
  match l with
  | [] =>
    rcases hex with ⟨m, hm, -⟩
    cases hm
  | [k] =>
    rcases hex with ⟨m, hm, n, hn, ho⟩
    rw [List.mem_singleton] at hm hn
    exact absurd (by rw [hm, hn]) ho
  | k :: k' :: l =>
    have hk := hl k List.mem_cons_self
    have hfirst : ∀ m ∈ #[k], f.InTree k.origin m := by
      intro m hm
      rw [Array.mem_singleton] at hm
      subst hm
      exact ⟨hk, rfl⟩
    have hsorted : Sorted #[k] := by
      intro i j hij hj
      simp only [List.size_toArray, List.length_singleton] at hj
      omega
    -- one of the two nodes is of another tree than the first node of the list
    have hother : ∃ m ∈ k' :: l, m.origin ≠ k.origin := by
      rcases hex with ⟨m, hm, n, hn, ho⟩
      by_cases hmo : m.origin = k.origin
      · have hno : n.origin ≠ k.origin := fun he => ho (hmo.trans he.symm)
        refine ⟨n, (List.mem_cons.mp hn).resolve_left fun he => hno (congrArg origin he), hno⟩
      · exact ⟨m, (List.mem_cons.mp hm).resolve_left fun he => hmo (congrArg origin he), hmo⟩
    have hrest := foldlM_insertDistinct_eq_error hf (by simp) hfirst hsorted
      (fun m hm => hl m (List.mem_cons_of_mem k hm)) hother
    show (List.foldlM insertDistinct #[k] (k' :: l)).map Array.toList = _
    rw [hrest]
    rfl

end Unranked

end Node

end XPath
