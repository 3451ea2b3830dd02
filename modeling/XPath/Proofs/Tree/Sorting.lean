import XPath.Proofs.Tree.DocumentOrder

/-!
# Sorting into document order

Nodes are sorted by inserting one after the other at the place that a binary search finds.  Between
the bounds of the search lies the place of the node: all before the lower bound precede it, and it
precedes all from the upper bound on.  So the sorted nodes stay in strictly increasing document
order, and as a set they are the nodes inserted so far.
-/

namespace XPath

/-! ## 1. The place of a node among sorted nodes -/

namespace Node

/-- The nodes stand in strictly increasing document order. -/
def Sorted (nodes : Array Node) : Prop :=
  ∀ i j (_ : i < j) (_ : j < nodes.size), nodes[i].Precedes nodes[j]

/-- All nodes before the place `lo` precede the node, which precedes those from `hi` on. -/
structure Between (nodes : Array Node) (n : Node) (lo hi : Nat) : Prop where
  below : ∀ i (_ : i < nodes.size), i < lo → nodes[i].Precedes n
  above : ∀ i (_ : i < nodes.size), hi ≤ i → n.Precedes nodes[i]

section Search

variable {f : Forest} {s : Node → Prop} {nodes : Array Node} {n : Node}

theorem Between.narrow_below (hs : f.Comparable s) (hmem : ∀ m ∈ nodes, s m) (hn : s n)
    (hsorted : Sorted nodes) {lo hi mid : Nat} (hb : Between nodes n lo hi)
    (hmid : mid < nodes.size) (h : nodes[mid].Precedes n) : Between nodes n (mid + 1) hi where
  above := hb.above
  below i hi' hlt := by
    by_cases he : i = mid
    · subst he
      exact h
    · have hpre : nodes[i].Precedes nodes[mid] := hsorted i mid (by omega) hmid
      exact hs.trans (hmem _ (Array.getElem_mem hi')) (hmem _ (Array.getElem_mem hmid)) hn hpre h

theorem Between.narrow_above (hs : f.Comparable s) (hmem : ∀ m ∈ nodes, s m) (hn : s n)
    (hsorted : Sorted nodes) {lo hi mid : Nat} (hb : Between nodes n lo hi)
    (hmid : mid < nodes.size) (h : n.Precedes nodes[mid]) : Between nodes n lo mid where
  below := hb.below
  above i hi' hle := by
    by_cases he : i = mid
    · subst he
      exact h
    · have hpre : nodes[mid].Precedes nodes[i] := hsorted mid i (by omega) hi'
      exact hs.trans hn (hmem _ (Array.getElem_mem hmid)) (hmem _ (Array.getElem_mem hi')) h hpre

/-- The search finds the place of the node, or the node itself. -/
theorem place?_spec (hs : f.Comparable s) (hmem : ∀ m ∈ nodes, s m) (hn : s n)
    (hsorted : Sorted nodes) {lo hi : Nat} (hle : lo ≤ hi) (hsize : hi ≤ nodes.size)
    (hb : Between nodes n lo hi) :
    (∃ i, place? nodes n lo hi hsize = .ok (some i) ∧ i ≤ nodes.size ∧ Between nodes n i i) ∨
      (place? nodes n lo hi hsize = .ok none ∧ n ∈ nodes) := by
  induction lo, hi, hsize using place?.induct nodes with
  | case1 lo hi hsize hlt ihlt ihgt =>
    rw [place?, dif_pos hlt]
    -- the node in the middle halves the range, on the side that the comparison tells
    have hmid : lo + (hi - lo) / 2 < nodes.size := by omega
    have hin : nodes[lo + (hi - lo) / 2] ∈ nodes := Array.getElem_mem hmid
    rcases hs.compare_cases (hmem _ hin) hn with h | ⟨h, he⟩ | ⟨h, hgt⟩
    · rw [h]
      exact ihlt (by omega) (hb.narrow_below hs hmem hn hsorted hmid h)
    · rw [h]
      exact .inr ⟨rfl, he ▸ hin⟩
    · rw [h]
      exact ihgt (by omega) (hb.narrow_above hs hmem hn hsorted hmid hgt)
  | case2 lo hi hsize hlt =>
    rw [place?, dif_neg hlt]
    -- an empty range is the place itself
    have he : lo = hi := by omega
    subst he
    exact .inl ⟨lo, rfl, hsize, hb⟩

end Search

/-! ## 2. Inserting and sorting -/

section Insert

variable {f : Forest} {s : Node → Prop} {nodes : Array Node} {l : List Node} {m n : Node}

theorem sorted_insertIdx (hsorted : Sorted nodes) {i : Nat} (hi : i ≤ nodes.size)
    (hb : Between nodes n i i) : Sorted (nodes.insertIdx i n hi) := by
  intro j k hjk hk
  have hsize := Array.size_insertIdx (a := n) hi
  rw [Array.getElem_insertIdx hi, Array.getElem_insertIdx hi]
  by_cases hj : j < i
  · rw [dif_pos hj]
    by_cases hki : k < i
    · rw [dif_pos hki]
      exact hsorted j k hjk (by omega)
    · rw [dif_neg hki]
      by_cases hke : k = i
      · rw [dif_pos hke]
        exact hb.below j (by omega) hj
      · rw [dif_neg hke]
        exact hsorted j (k - 1) (by omega) (by omega)
  · have hki : ¬ k < i := by omega
    have hke : ¬ k = i := by omega
    rw [dif_neg hj, dif_neg hki, dif_neg hke]
    by_cases hje : j = i
    · rw [dif_pos hje]
      exact hb.above (k - 1) (by omega) (by omega)
    · rw [dif_neg hje]
      exact hsorted (j - 1) (k - 1) (by omega) (by omega)

theorem sorted_push (hsorted : Sorted nodes) (h : ∀ m ∈ nodes, m.Precedes n) :
    Sorted (nodes.push n) := by
  have hb : Between nodes n nodes.size nodes.size :=
    ⟨fun i hi _ => h _ (Array.getElem_mem hi), fun i hi hle => by omega⟩
  have hins := sorted_insertIdx hsorted (Nat.le_refl nodes.size) hb
  rwa [Array.insertIdx_size_self] at hins

/-- The last of sorted nodes comes after all others. -/
theorem eq_back_or_precedes (hsorted : Sorted nodes) {last : Node} (hl : nodes.back? = some last)
    (hm : m ∈ nodes) : m = last ∨ m.Precedes last := by
  rcases Array.mem_iff_getElem.mp hm with ⟨i, hi, rfl⟩
  rw [Array.back?_eq_getElem?] at hl
  rcases Array.getElem?_eq_some_iff.mp hl with ⟨hlast, rfl⟩
  by_cases he : i = nodes.size - 1
  · exact .inl (by congr 1)
  · exact .inr (hsorted i _ (by omega) hlast)

theorem insertDistinct_spec (hs : f.Comparable s) (hmem : ∀ m ∈ nodes, s m) (hn : s n)
    (hsorted : Sorted nodes) : ∃ nodes', insertDistinct nodes n = .ok nodes' ∧ Sorted nodes' ∧
      ∀ m, m ∈ nodes' ↔ m = n ∨ m ∈ nodes := by
  unfold insertDistinct
  cases hlast : nodes.back? with
  | none =>
    have hempty : nodes = #[] := Array.back?_eq_none_iff.mp hlast
    subst hempty
    refine ⟨#[n], rfl, ?_, by simp⟩
    intro i j hij hj
    simp only [List.size_toArray, List.length_singleton] at hj
    omega
  | some last =>
    have hin : last ∈ nodes := Array.mem_of_back? hlast
    have present : n ∈ nodes → ∀ m, m ∈ nodes ↔ m = n ∨ m ∈ nodes :=
      fun h m => ⟨.inr, fun hm => hm.elim (fun he => he ▸ h) id⟩
    rcases hs.compare_cases (hmem last hin) hn with h | ⟨h, rfl⟩ | ⟨h, hgt⟩
    · refine ⟨nodes.push n, by simp only [show last.compare n = .ok .lt from h]; rfl, ?_,
        fun m => ?_⟩
      · apply sorted_push hsorted
        intro m hm
        rcases eq_back_or_precedes hsorted hlast hm with rfl | hpre
        · exact h
        · exact hs.trans (hmem m hm) (hmem last hin) hn hpre h
      · rw [Array.mem_push]
        exact or_comm
    · exact ⟨nodes, by simp only [h]; rfl, hsorted, present hin⟩
    · -- the last node is above the upper bound, since it comes after the node
      have hb : Between nodes n 0 (nodes.size - 1) := by
        refine ⟨fun i _ hlt => absurd hlt (Nat.not_lt_zero i), fun i hi hle => ?_⟩
        rcases eq_back_or_precedes hsorted hlast (Array.getElem_mem hi) with he | hpre
        · rw [he]
          exact hgt
        · rcases Array.mem_iff_getElem.mp hin with ⟨j, hj, rfl⟩
          have hji : j ≤ i := by omega
          by_cases he : j = i
          · subst he
            exact hgt
          · exact hs.trans hn (hmem _ hin) (hmem _ (Array.getElem_mem hi)) hgt
              (hsorted j i (by omega) hi)
      rcases place?_spec hs hmem hn hsorted (Nat.zero_le _) (Nat.sub_le ..) hb with
        ⟨i, hi, hle, hplace⟩ | ⟨hi, hin⟩
      · refine ⟨nodes.insertIdx i n hle, ?_, sorted_insertIdx hsorted hle hplace,
          fun m => Array.mem_insertIdx⟩
        simp only [h, hi, bind, Except.bind, Array.insertIdxIfInBounds, dif_pos hle]
        rfl
      · refine ⟨nodes, ?_, hsorted, present hin⟩
        simp only [h, hi, bind, Except.bind]
        rfl

theorem foldlM_insertDistinct_spec (hs : f.Comparable s) (hmem : ∀ m ∈ nodes, s m)
    (hl : ∀ m ∈ l, s m) (hsorted : Sorted nodes) :
    ∃ nodes', l.foldlM insertDistinct nodes = .ok nodes' ∧ Sorted nodes' ∧
      ∀ m, m ∈ nodes' ↔ m ∈ l ∨ m ∈ nodes := by
  induction l generalizing nodes with
  | nil => exact ⟨nodes, rfl, hsorted, fun m => by simp⟩
  | cons n l ih =>
    rcases insertDistinct_spec hs hmem (hl n List.mem_cons_self) hsorted
      with ⟨nodes', hins, hsorted', hmem'⟩
    have hall : ∀ m ∈ nodes', s m := by
      intro m hm
      rcases (hmem' m).mp hm with rfl | hm
      · exact hl m List.mem_cons_self
      · exact hmem m hm
    rcases ih hall (fun m hm => hl m (List.mem_cons_of_mem n hm)) hsorted'
      with ⟨nodes'', hfold, hsorted'', hmem''⟩
    refine ⟨nodes'', ?_, hsorted'', fun m => ?_⟩
    · rw [List.foldlM_cons, hins]
      exact hfold
    · rw [hmem'', hmem', List.mem_cons]
      exact ⟨by rintro (h | h | h) <;> simp [h], by rintro ((h | h) | h) <;> simp [h]⟩

theorem pairwise_of_sorted (h : Sorted nodes) : nodes.toList.Pairwise Precedes := by
  rw [List.pairwise_iff_getElem]
  intro i j _ hj hij
  exact h i j hij hj

/-- Sorting gives the same nodes in strictly increasing document order. -/
theorem sortDistinct_spec (hs : f.Comparable s) (hl : ∀ m ∈ l, s m) :
    ∃ r, sortDistinct l = .ok r ∧ r.Pairwise Precedes ∧ ∀ m, m ∈ r ↔ m ∈ l := by
  match l with
  | [] => exact ⟨[], rfl, .nil, fun _ => Iff.rfl⟩
  | [n] => exact ⟨[n], rfl, List.pairwise_singleton .., fun _ => Iff.rfl⟩
  | n :: n' :: l =>
    have hempty : Sorted #[] := fun _ _ _ hj => absurd hj (by simp)
    rcases foldlM_insertDistinct_spec hs (fun m hm => absurd hm (Array.not_mem_empty m)) hl hempty
      with ⟨nodes, hfold, hsorted, hmem⟩
    refine ⟨nodes.toList, ?_, pairwise_of_sorted hsorted, fun m => ?_⟩
    · show (List.foldlM insertDistinct #[] (n :: n' :: l)).map Array.toList = _
      rw [hfold]
      rfl
    · rw [Array.mem_toList_iff, hmem]
      simp

end Insert

/-! ## 3. Sorted nodes -/

section Ordered

variable {nodes : Array Node} {l : List Node} {n : Node}

theorem insertDistinct_of_precedes (h : ∀ m ∈ nodes, m.Precedes n) :
    insertDistinct nodes n = .ok (nodes.push n) := by
  unfold insertDistinct
  cases hlast : nodes.back? with
  | none =>
    rw [Array.back?_eq_none_iff.mp hlast]
    rfl
  | some last =>
    have hpre : last.compare n = .ok .lt := h last (Array.mem_of_back? hlast)
    simp only [hpre]
    rfl

theorem foldlM_insertDistinct_of_pairwise (h : (nodes.toList ++ l).Pairwise Precedes) :
    (l.foldlM insertDistinct nodes).map Array.toList = .ok (nodes.toList ++ l) := by
  induction l generalizing nodes with
  | nil =>
    rw [List.append_nil]
    rfl
  | cons n l ih =>
    have hlast : ∀ m ∈ nodes, m.Precedes n := fun m hm =>
      (List.pairwise_append.mp h).2.2 m (Array.mem_toList_iff.mpr hm) n List.mem_cons_self
    have hpush : (nodes.push n).toList ++ l = nodes.toList ++ n :: l := by
      rw [Array.toList_push, List.append_assoc, List.singleton_append]
    rw [List.foldlM_cons, insertDistinct_of_precedes hlast, ← hpush]
    apply ih
    rw [hpush]
    exact h

/-- Nodes in document order stay as they are.  This takes no search, and so no order between all of
the nodes: each one is compared with the last before it. -/
theorem sortDistinct_of_pairwise (h : l.Pairwise Precedes) : sortDistinct l = .ok l := by
  match l with
  | [] | [_] => rfl
  | n :: n' :: l => exact foldlM_insertDistinct_of_pairwise h

end Ordered

end Node

end XPath
