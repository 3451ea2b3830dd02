import XPath.Proofs.Tree.Order

/-!
# Document order is preorder

Comparing two nodes of a forest gives the order of their paths, and that of their trees where they
stand in different ones.  It follows that the comparison never fails on ranked trees, that it is a
strict total order, and that it lists every tree in preorder.
-/

namespace XPath

/-! ## 1. Comparing two nodes -/

namespace Node

variable {f : Forest} {m n p : Node}

/-- Where two ways part, the branches decide. -/
theorem compareWays_of_way {way way' : List Node} {bs cs : List Branch}
    (hm : Way p way bs m) (hn : Way p way' cs n) (hne : bs ≠ cs) :
    compareWays (some p) way way' = .ok (Branch.comparePaths bs cs) := by
  induction hm generalizing way' cs with
  | here p =>
    cases hn with
    | here _ => exact absurd rfl hne
    | down _ _ => rfl
  | @down p m b t way bs hb hm ih =>
    cases hn with
    | here _ => rfl
    | @down _ _ c u way' cs hc hn =>
      rw [compareWays]
      -- the ways go on together as long as the branches agree
      by_cases hbc : b = c
      · subst hbc
        rw [hb] at hc
        cases hc
        rw [if_pos ((below_same_iff p b b t t).mpr rfl), ih hn (fun he => hne (by rw [he])),
          Branch.comparePaths_cons, Branch.compare_self]
        rfl
      · rw [if_neg (fun he => hbc ((below_same_iff p b c t u).mp he))]
        show Except.ok (p.compareInner (p.below b t) (p.below c u)) = _
        rw [compareInner_below p hb hc]
        exact congrArg Except.ok (Branch.comparePaths_of_ne [] bs cs hbc).symm

/-- Below one root the paths decide. -/
theorem compareByAncestry_of_way {root : Node} {way way' : List Node} {bs cs : List Branch}
    (htop : root.above = []) (hm : Way root way bs m) (hn : Way root way' cs n) :
    m.compareByAncestry n = .ok (Branch.comparePaths m.path n.path) := by
  have hpath : root.path = [] := by
    rw [path, htop]
    rfl
  have hroot : root.wayFromRoot = [root] := by
    rw [wayFromRoot, ancestorsOrSelf, ancestors, htop]
    rfl
  have hmp : m.path = bs := by rw [hm.path_eq, hpath, List.nil_append]
  have hnp : n.path = cs := by rw [hn.path_eq, hpath, List.nil_append]
  have hsame : (m == n) = true ↔ bs = cs := by
    rw [same_iff, hmp, hnp]
    exact and_iff_right (hm.origin_eq.trans hn.origin_eq.symm)
  rw [compareByAncestry, hmp, hnp]
  by_cases he : bs = cs
  · rw [if_pos (hsame.mpr he), he, Branch.comparePaths_self]
  · rw [if_neg (mt hsame.mp he)]
    -- both ways start with the root, so the comparison has a last common node
    rw [hm.wayFromRoot_eq, hn.wayFromRoot_eq, hroot, List.singleton_append, List.singleton_append,
      compareWays, if_pos (same_self root)]
    exact compareWays_of_way hm hn he

/-- Nodes below one root are compared by their paths. -/
theorem compare_of_way {root : Node} {way way' : List Node} {bs cs : List Branch}
    (htop : root.above = []) (hm : Way root way bs m) (hn : Way root way' cs n) :
    m.compare n = .ok (Branch.comparePaths m.path n.path) := by
  have hroot : (m.root != n.root) = false := by
    rw [hm.root_eq, hn.root_eq, bne, same_self]
    rfl
  rw [compare, hroot, Bool.and_false, if_neg Bool.false_ne_true]
  exact compareByAncestry_of_way htop hm hn

/-- Within one tree the paths decide. -/
theorem compareByAncestry_eq (hm : m ∈ f) (hn : n ∈ f) (ho : m.origin = n.origin) :
    m.compareByAncestry n = .ok (Branch.comparePaths m.path n.path) := by
  rcases hm with ⟨-, root, hroot, hpm⟩
  rcases hn with ⟨-, root', hroot', hpn⟩
  rw [ho, hroot'] at hroot
  cases hroot
  rcases way_of_place m.origin hpm with ⟨way, -, hwm⟩
  rcases way_of_place n.origin hpn with ⟨way', -, hwn⟩
  rw [← ho] at hwn
  have hnode : (⟨m.origin, n.tree, n.above⟩ : Node) = n := by rw [ho]
  rw [hnode] at hwn
  exact compareByAncestry_of_way rfl hwm hwn

/-- The order of two nodes by their trees and then by their paths. -/
def comparePlaces : Node → Node → Ordering :=
  compareLex (compareOn fun n => n.origin.index) fun m n => Branch.comparePaths m.path n.path

instance : Std.TransCmp fun m n : Node => Branch.comparePaths m.path n.path where
  eq_swap := Std.OrientedCmp.eq_swap
  isLE_trans := Std.TransCmp.isLE_trans

instance : Std.TransCmp comparePlaces := inferInstanceAs (Std.TransCmp (compareLex _ _))

theorem comparePlaces_of_origin_eq (ho : m.origin = n.origin) :
    comparePlaces m n = Branch.comparePaths m.path n.path := by
  rw [comparePlaces, compareLex, compareOn, ho, Std.ReflOrd.compare_self]
  rfl

theorem origin_eq_of_index (hm : m ∈ f) (hn : n ∈ f) (h : m.origin.index = n.origin.index) :
    m.origin = n.origin := by
  have hr : m.origin.ranked = n.origin.ranked := hm.1.trans hn.1.symm
  cases hmo : m.origin
  cases hno : n.origin
  simp_all

theorem root_same_iff (hm : m ∈ f) (hn : n ∈ f) :
    (m.root == n.root) = true ↔ m.origin.index = n.origin.index := by
  have horigin := origin_eq_of_index hm hn
  rcases hm with ⟨-, root, -, hpm⟩
  rcases hn with ⟨-, root', -, hpn⟩
  rw [root_of_place m.origin hpm, root_of_place n.origin hpn]
  show (m.origin == n.origin && ([] : List Branch) == []) = true ↔ _
  rw [beq_self_eq_true, Bool.and_true, beq_iff_eq]
  exact ⟨fun h => by rw [h], horigin⟩

/-- Nodes of a forest that is ranked, or of one tree, are compared by their places. -/
theorem compare_eq (hm : m ∈ f) (hn : n ∈ f) (h : f.ranked = true ∨ m.origin = n.origin) :
    m.compare n = .ok (comparePlaces m n) := by
  unfold compare
  by_cases ho : m.origin.index = n.origin.index
  · have hsame := (root_same_iff hm hn).mpr ho
    rw [if_neg (by simp [bne, hsame]),
      compareByAncestry_eq hm hn (origin_eq_of_index hm hn ho),
      comparePlaces_of_origin_eq (origin_eq_of_index hm hn ho)]
  · have hranked : f.ranked = true := h.resolve_right fun he => ho (by rw [he])
    -- two trees have different roots, and their ranks decide
    have hdiffer : (m.root == n.root) = false := by
      rw [Bool.eq_false_iff, ne_eq, root_same_iff hm hn]
      exact ho
    rw [if_pos (by rw [hm.1, hn.1, hranked, bne, hdiffer]; rfl), comparePlaces, compareLex,
      compareOn]
    have hne : Ord.compare m.origin.index n.origin.index ≠ .eq :=
      fun he => ho (Std.LawfulEqOrd.eq_of_compare he)
    rw [ordering_then_of_ne hne]

theorem comparePlaces_eq_iff (hm : m ∈ f) (hn : n ∈ f) : comparePlaces m n = .eq ↔ m = n := by
  refine ⟨?_, ?_⟩
  · intro h
    rw [comparePlaces, compareLex_eq_eq, compareOn] at h
    have ho := origin_eq_of_index hm hn (Std.LawfulEqOrd.eq_of_compare h.1)
    exact Forest.eq_of_path hm hn ho (Std.LawfulEqCmp.eq_of_compare h.2)
  · intro he
    subst he
    exact Std.ReflCmp.compare_self

/-- The first node comes before the second in document order. -/
def Precedes (m n : Node) : Prop := m.compare n = .ok .lt

theorem precedes_iff (hm : m ∈ f) (hn : n ∈ f) (h : f.ranked = true ∨ m.origin = n.origin) :
    m.Precedes n ↔ comparePlaces m n = .lt := by
  rw [Precedes, compare_eq hm hn h, Except.ok.injEq]

end Node

/-! ## 2. Nodes with an order between them -/

/-- Nodes of a forest between any two of which there is a document order. -/
structure Forest.Comparable (f : Forest) (s : Node → Prop) : Prop where
  mem : ∀ m, s m → m ∈ f
  related : ∀ m n, s m → s n → f.ranked = true ∨ m.origin = n.origin

namespace Forest

variable {f : Forest} {s : Node → Prop} {l m n : Node}

theorem comparable_of_ranked (hf : f.ranked = true) : f.Comparable (· ∈ f) where
  mem _ hm := hm
  related _ _ _ _ := .inl hf

namespace Comparable

theorem precedes_iff (hs : f.Comparable s) (hm : s m) (hn : s n) :
    m.Precedes n ↔ Node.comparePlaces m n = .lt :=
  Node.precedes_iff (hs.mem m hm) (hs.mem n hn) (hs.related m n hm hn)

/-- The comparison tells which of the two nodes comes first, or that they are the same. -/
theorem compare_cases (hs : f.Comparable s) (hm : s m) (hn : s n) :
    m.Precedes n ∨ (m.compare n = .ok .eq ∧ m = n) ∨ (m.compare n = .ok .gt ∧ n.Precedes m) := by
  have hmn := Node.compare_eq (hs.mem m hm) (hs.mem n hn) (hs.related m n hm hn)
  cases h : Node.comparePlaces m n with
  | lt => exact .inl ((hs.precedes_iff hm hn).mpr h)
  | eq =>
    -- equal places in one forest are one node
    have he := (Node.comparePlaces_eq_iff (hs.mem m hm) (hs.mem n hn)).mp h
    exact .inr (.inl ⟨by rw [hmn, h], he⟩)
  | gt =>
    have hlt : n.Precedes m := (hs.precedes_iff hn hm).mpr (Std.OrientedCmp.lt_of_gt h)
    exact .inr (.inr ⟨by rw [hmn, h], hlt⟩)

theorem trans (hs : f.Comparable s) (hl : s l) (hm : s m) (hn : s n) (hlm : l.Precedes m)
    (hmn : m.Precedes n) : l.Precedes n := by
  rw [hs.precedes_iff hl hm] at hlm
  rw [hs.precedes_iff hm hn] at hmn
  rw [hs.precedes_iff hl hn]
  exact Std.TransCmp.lt_trans hlm hmn

theorem irrefl (hs : f.Comparable s) (hm : s m) : ¬ m.Precedes m := by
  intro h
  rw [hs.precedes_iff hm hm, (Node.comparePlaces_eq_iff (hs.mem m hm) (hs.mem m hm)).mpr rfl] at h
  cases h

end Comparable

end Forest

end XPath
