import XPath.Proofs.Tree.Preorder

/-!
# Ancestry

A node is in the subtree of its ancestors, and its path continues theirs.  Subtrees are intervals
of document order: what comes after a node and is not below it comes after all that is below it.
-/

namespace XPath

/-! ## 1. Paths that part -/

theorem Branch.comparePaths_append_left {p q : List Branch} (h : comparePaths p q = .lt)
    (hpre : ¬ p <+: q) (bs : List Branch) : comparePaths (p ++ bs) q = .lt := by
  induction p generalizing q with
  | nil => exact absurd List.nil_prefix hpre
  | cons b p ih =>
    cases q with
    | nil => cases h
    | cons c q =>
      rw [comparePaths_cons] at h
      rw [List.cons_append, comparePaths_cons]
      by_cases hbc : b = c
      · subst hbc
        rw [compare_self] at h ⊢
        exact ih h fun he => hpre (List.cons_prefix_cons.mpr ⟨rfl, he⟩)
      · cases hc : compare b c with
        | lt => rfl
        | eq => exact absurd (Std.LawfulEqCmp.eq_of_compare hc) hbc
        | gt => rw [hc] at h; cases h

namespace Forest

variable {f : Forest} {k m n p : Node}

/-! ## 2. Nodes of one tree -/

/-- The node is a node of the tree. -/
def InTree (f : Forest) (o : Origin) (n : Node) : Prop := n ∈ f ∧ n.origin = o

theorem InTree.below {o : Origin} (h : f.InTree o n) {b : Branch} {t : Tree}
    (hb : n.tree.below? b = some t) : f.InTree o (n.below b t) :=
  ⟨mem_below h.1 hb, h.2⟩

theorem InTree.subtree {o : Origin} (h : f.InTree o n) (hm : m ∈ n.subtree) : f.InTree o m :=
  ⟨Node.mem_forest_of_mem_subtree h.1 hm, (Node.origin_of_mem_subtree hm).trans h.2⟩

/-- What holds of the root, and goes from a node to those directly below it, holds of all nodes of
the tree. -/
theorem InTree.induction {o : Origin} {P : Node → Prop}
    (root : ∀ n, f.InTree o n → n.above = [] → P n)
    (below : ∀ p b t, f.InTree o p → p.tree.below? b = some t → P p → P (p.below b t))
    (h : f.InTree o n) : P n := by
  rcases h with ⟨⟨hr, root', hroot, hp⟩, ho⟩
  rcases n with ⟨o', t, above⟩
  subst ho
  change root'.Place t above at hp
  induction hp with
  | top => exact root _ ⟨⟨hr, root', hroot, .top⟩, rfl⟩ rfl
  | @inside q u b above hq hb ih =>
    exact below ⟨o', q, above⟩ b u ⟨⟨hr, root', hroot, hq⟩, rfl⟩ hb (ih hr hroot root below)

theorem parent?_eq_none (htop : n.above = []) : n.parent? = none := by
  rw [Node.parent?, htop]

/-- All nodes of a tree are in the subtree of its root. -/
theorem InTree.mem_subtree_root {o : Origin} (hn : f.InTree o n) (hroot : n.parent? = none)
    (hm : f.InTree o m) : m ∈ n.subtree :=
  (Node.mem_subtree_root_iff hn.1 hroot).mpr ⟨hm.1, hm.2.trans hn.2.symm⟩

theorem parent?_below (p : Node) (b : Branch) (t : Tree) : (p.below b t).parent? = some p := rfl

theorem below_ne_self (p : Node) (b : Branch) (t : Tree) : p.below b t ≠ p := by
  intro he
  have hlen := congrArg (fun n => n.path.length) he
  simp only [Node.path_below, List.length_append, List.length_singleton] at hlen
  omega

/-- Attached nodes have nothing below them. -/
theorem isAttached_of_below? (hp : p ∈ f) {b : Branch} {t : Tree}
    (hb : p.tree.below? b = some t) : p.isAttached = false := by
  rw [Node.isAttached_eq, Bool.eq_false_iff]
  intro hk
  rw [Tree.below?_eq_none (isWellFormed_of_mem hp) hk b] at hb
  cases hb

/-- Only children are not attached. -/
theorem eq_child_of_not_isAttached (hp : p ∈ f) {b : Branch} {t : Tree}
    (hb : p.tree.below? b = some t) (ha : (p.below b t).isAttached = false) :
    ∃ i, b = .child i := by
  rw [Node.isAttached_eq] at ha
  change t.info.kind.isAttached = false at ha
  cases b with
  | child i => exact ⟨i, rfl⟩
  | attributeNode i =>
    rw [Tree.kind_of_below?_attribute (isWellFormed_of_mem hp) hb] at ha
    cases ha
  | namespaceNode i =>
    rw [Tree.kind_of_below?_namespace (isWellFormed_of_mem hp) hb] at ha
    cases ha

theorem not_isAttached_child (hp : p ∈ f) {i : Nat} {t : Tree}
    (hb : p.tree.below? (.child i) = some t) : (p.below (.child i) t).isAttached = false := by
  rw [Node.isAttached_eq]
  exact Tree.isAttached_of_below?_child (isWellFormed_of_mem hp) hb

/-! ## 3. Subtrees -/

theorem subtree_of_isAttached (hn : n ∈ f) (ha : n.isAttached = true) : n.subtree = [n] := by
  have hinner : n.inner = [] := by
    rw [List.eq_nil_iff_forall_not_mem]
    intro m hm
    rcases Node.mem_inner_iff.mp hm with ⟨b, t, hb, rfl⟩
    rw [isAttached_of_below? hn hb] at ha
    cases ha
  rw [Node.subtree_eq, hinner]
  rfl

theorem mem_subtree_cases (h : m ∈ n.subtree) : m = n ∨ ∃ k ∈ n.inner, m ∈ k.subtree := by
  rw [Node.subtree_eq, List.mem_cons, List.mem_flatMap] at h
  exact h

theorem below_mem_subtree (h : p ∈ n.subtree) {b : Branch} {t : Tree}
    (hb : p.tree.below? b = some t) : p.below b t ∈ n.subtree := by
  rcases Node.mem_subtree_iff.mp h with ⟨way, bs, hw⟩
  exact Node.mem_subtree_iff.mpr ⟨_, _, hw.snoc hb⟩

theorem mem_subtree_trans (hk : k ∈ n.subtree) (hm : m ∈ k.subtree) : m ∈ n.subtree := by
  rcases Node.mem_subtree_iff.mp hk with ⟨way, bs, hw⟩
  rcases Node.mem_subtree_iff.mp hm with ⟨way', cs, hw'⟩
  exact Node.mem_subtree_iff.mpr ⟨_, _, hw.append hw'⟩

/-- A subtree that holds a node below `p`, and is not the subtree of that node, holds `p`. -/
theorem mem_subtree_of_below {b : Branch} {t : Tree} (h : p.below b t ∈ n.subtree)
    (hne : p.below b t ≠ n) : p ∈ n.subtree := by
  induction n using Node.subtree.induct with
  | case1 n ih =>
    rcases (mem_subtree_cases h).resolve_left hne with ⟨k, hk, hm⟩
    -- either the node is directly below `n`, or the search goes on in the subtree that holds it
    by_cases he : p.below b t = k
    · rcases Node.mem_inner_iff.mp hk with ⟨c, u, -, rfl⟩
      have hparent := congrArg Node.parent? he
      rw [parent?_below, parent?_below, Option.some.injEq] at hparent
      rw [hparent]
      exact Node.mem_subtree_self n
    · exact Node.mem_subtree_of_inner hk (ih k hk hm he)

/-- The subtree of a node holds the nodes whose path continues that of the node. -/
theorem mem_subtree_iff_path {o : Origin} (hn : f.InTree o n) (hm : f.InTree o m) :
    m ∈ n.subtree ↔ n.path <+: m.path := by
  refine ⟨?_, ?_⟩
  · intro h
    rcases Node.path_of_mem_subtree h with ⟨bs, hbs⟩
    exact ⟨bs, hbs.symm⟩
  · refine InTree.induction (P := fun m => n.path <+: m.path → m ∈ n.subtree) ?_ ?_ hm
    · intro m hm htop hpre
      have hmp : m.path = [] := by rw [Node.path, htop]; rfl
      rw [hmp, List.prefix_nil] at hpre
      rw [Forest.eq_of_path hm.1 hn.1 (hm.2.trans hn.2.symm) (hmp.trans hpre.symm)]
      exact Node.mem_subtree_self n
    · intro p b t hp hb ih hpre
      rw [Node.path_below, List.prefix_concat_iff] at hpre
      -- the prefix ends at the node itself, or it is one of the path of the parent
      rcases hpre with heq | hpre
      · have hpb := hp.below hb
        rw [Forest.eq_of_path hpb.1 hn.1 (hpb.2.trans hn.2.symm)
          ((Node.path_below p b t).trans heq.symm)]
        exact Node.mem_subtree_self n
      · exact below_mem_subtree (ih hpre) hb

/-! ## 4. Subtrees in document order -/

theorem comparable_inTree (o : Origin) : f.Comparable (f.InTree o) where
  mem _ hm := hm.1
  related _ _ hm hn := .inr (hm.2.trans hn.2.symm)

theorem InTree.precedes_iff {o : Origin} (hm : f.InTree o m) (hn : f.InTree o n) :
    m.Precedes n ↔ Branch.comparePaths m.path n.path = .lt := by
  have ho : m.origin = n.origin := hm.2.trans hn.2.symm
  rw [Node.precedes_iff hm.1 hn.1 (.inr ho), Node.comparePlaces_of_origin_eq ho]

theorem InTree.not_precedes {o : Origin} (hm : f.InTree o m) (hn : f.InTree o n)
    (h : m.Precedes n) : ¬ n.Precedes m := fun h' =>
  (comparable_inTree o).irrefl hm ((comparable_inTree o).trans hm hn hm h h')

theorem InTree.ne_of_precedes {o : Origin} (hm : f.InTree o m) (h : m.Precedes n) : m ≠ n := by
  intro he
  subst he
  exact (comparable_inTree o).irrefl hm h

theorem pairwise_subtree_precedes {o : Origin} (hn : f.InTree o n) :
    n.subtree.Pairwise Node.Precedes := by
  refine List.Pairwise.imp_of_mem ?_ (Node.pairwise_subtree n)
  intro x y hx hy h
  exact ((hn.subtree hx).precedes_iff (hn.subtree hy)).mpr h

theorem InTree.precedes_of_mem_subtree {o : Origin} (hn : f.InTree o n) (hm : m ∈ n.subtree)
    (hne : m ≠ n) : n.Precedes m := by
  have hpair := pairwise_subtree_precedes hn
  rw [Node.subtree_eq, List.pairwise_cons] at hpair
  rcases mem_subtree_cases hm with he | ⟨k, hk, hm⟩
  · exact absurd he hne
  · exact hpair.1 m (List.mem_flatMap.mpr ⟨k, hk, hm⟩)

theorem InTree.not_precedes_of_mem_subtree {o : Origin} (hn : f.InTree o n) (hm : m ∈ n.subtree) :
    ¬ m.Precedes n := by
  by_cases he : m = n
  · rw [he]
    exact (comparable_inTree o).irrefl hn
  · exact hn.not_precedes (hn.subtree hm) (hn.precedes_of_mem_subtree hm he)

/-- What comes after a node and is not below it comes after all below it. -/
theorem InTree.precedes_of_after {o : Origin} (hn : f.InTree o n) (hm : f.InTree o m)
    (h : n.Precedes m) (hnot : m ∉ n.subtree) (hk : k ∈ n.subtree) : k.Precedes m := by
  rw [hn.precedes_iff hm] at h
  rw [mem_subtree_iff_path hn hm] at hnot
  rw [(hn.subtree hk).precedes_iff hm]
  rcases Node.path_of_mem_subtree hk with ⟨bs, hbs⟩
  rw [hbs]
  exact Branch.comparePaths_append_left h hnot bs

/-- What comes before a node comes before all below it. -/
theorem InTree.precedes_of_before {o : Origin} (hn : f.InTree o n) (hm : f.InTree o m)
    (h : m.Precedes n) (hk : k ∈ n.subtree) : m.Precedes k := by
  by_cases he : k = n
  · rw [he]
    exact h
  · exact (comparable_inTree o).trans hm hn (hn.subtree hk) h (hn.precedes_of_mem_subtree hk he)

/-- Two nodes are in the subtree of one another only if they are the same. -/
theorem InTree.subtree_antisymm {o : Origin} (hn : f.InTree o n) (hm : m ∈ n.subtree)
    (hn' : n ∈ m.subtree) : m = n := by
  by_cases he : m = n
  · exact he
  · have hpre := hn.precedes_of_mem_subtree hm he
    have hpre' := (hn.subtree hm).precedes_of_mem_subtree hn' (Ne.symm he)
    exact absurd hpre' (hn.not_precedes (hn.subtree hm) hpre)

end Forest

/-! ## 5. Ancestors -/

/-- The node is the parent of the other node, or of one of its ancestors. -/
def Node.IsAncestor : Node → Node → Prop := Relation.TransGen fun p n => n.parent? = some p

namespace Forest

variable {f : Forest} {m n p : Node}

theorem ancestors_of_parent? (h : n.parent? = some p) : n.ancestors = p :: p.ancestors := by
  rcases n with ⟨o, t, above⟩
  cases above with
  | nil => cases h
  | cons a above => cases h; rfl

theorem ancestors_of_parent?_eq_none (h : n.parent? = none) : n.ancestors = [] := by
  rcases n with ⟨o, t, above⟩
  cases above with
  | nil => rfl
  | cons a above => cases h

/-- The subtrees that a node is in are its own and those of its ancestors. -/
theorem mem_ancestorsOrSelf_iff {o : Origin} (hm : f.InTree o m) (hn : f.InTree o n) :
    m ∈ n.ancestorsOrSelf ↔ n ∈ m.subtree := by
  refine InTree.induction (P := fun n => m ∈ n.ancestorsOrSelf ↔ n ∈ m.subtree) ?_ ?_ hn
  · intro n hn htop
    have hroot := parent?_eq_none htop
    rw [Node.ancestorsOrSelf, ancestors_of_parent?_eq_none hroot, List.mem_singleton]
    refine ⟨?_, ?_⟩
    · intro he
      subst he
      exact Node.mem_subtree_self m
    · intro h
      exact hn.subtree_antisymm (hn.mem_subtree_root hroot hm) h
  · intro p b t hp hb ih
    rw [Node.ancestorsOrSelf, List.mem_cons]
    show _ ∨ m ∈ p.ancestorsOrSelf ↔ _
    rw [ih, mem_subtree_iff_path hm hp, mem_subtree_iff_path hm (hp.below hb), Node.path_below,
      List.prefix_concat_iff, ← Node.path_below p b t]
    -- a node of the forest is determined by its path
    have ho : m.origin = (p.below b t).origin := hm.2.trans hp.2.symm
    refine or_congr ⟨fun he => congrArg Node.path he, fun hpath => ?_⟩ Iff.rfl
    exact Forest.eq_of_path hm.1 (hp.below hb).1 ho hpath

theorem mem_ancestors_iff_isAncestor : m ∈ n.ancestors ↔ m.IsAncestor n := by
  refine ⟨?_, ?_⟩
  · intro h
    rcases n with ⟨o, t, above⟩
    induction above generalizing t with
    | nil => cases h
    | cons a above ih =>
      rcases a with ⟨u, b⟩
      rcases List.mem_cons.mp h with rfl | h
      · exact .single rfl
      · exact .tail (ih u h) rfl
  · intro h
    induction h with
    | single h =>
      rw [ancestors_of_parent? h]
      exact List.mem_cons_self
    | tail _ h ih =>
      rw [ancestors_of_parent? h]
      exact List.mem_cons_of_mem _ ih

/-- The ancestors of a node are the other nodes whose subtree it is in. -/
theorem isAncestor_iff {o : Origin} (hm : f.InTree o m) (hn : f.InTree o n) :
    m.IsAncestor n ↔ n ∈ m.subtree ∧ n ≠ m := by
  rw [← mem_ancestors_iff_isAncestor, ← mem_ancestorsOrSelf_iff hm hn, Node.ancestorsOrSelf,
    List.mem_cons]
  refine ⟨?_, ?_⟩
  · intro h
    refine ⟨.inr h, ?_⟩
    intro he
    subst he
    have hparent : ∃ p, n.parent? = some p := by
      cases hp : n.parent? with
      | some p => exact ⟨p, rfl⟩
      | none =>
        rw [ancestors_of_parent?_eq_none hp] at h
        cases h
    rcases hparent with ⟨p, hp⟩
    rw [ancestors_of_parent? hp] at h
    rcases exists_below_of_parent? hn.1 hp with ⟨hpf, b, t, hb, rfl⟩
    have hpin : f.InTree o p := ⟨hpf, hn.2⟩
    have hsub := (mem_ancestorsOrSelf_iff hn hpin).mp h
    -- the node would be above its parent, and so its own parent
    have hself := below_mem_subtree (Node.mem_subtree_self p) hb
    exact below_ne_self p b t (hpin.subtree_antisymm hself hsub)
  · intro h
    rcases h with ⟨h | h, hne⟩
    · exact absurd h.symm hne
    · exact h

end Forest

end XPath
