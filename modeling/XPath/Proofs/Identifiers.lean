import Mathlib.Data.List.Basic
import XPath.Library.Documents
import XPath.Proofs.SetOperations
import XPath.Proofs.Text.Words
import XPath.Proofs.Tree.AxisOrder

/-!
# Identifiers

An argument names identifiers by its words.  The elements with one of them, and the attributes that
refer to one, are sets of nodes of the document; so the result for two arguments together is the
union of the results, and how often, in which order and in which texts the words stand does not
matter.
-/

namespace XPath

open XPath.Text

/-! ## 1. Attributes of a document -/

namespace Node

/-- The node has an ID attribute whose value is `w`, apart from white space at its ends. -/
def OwnsId (m : Node) (w : List Char) : Prop :=
  ∃ a ∈ m.attributes, a.isId = true ∧ IsTrimmed w a.stringValue.toList

/-- The node is an attribute with references to IDs, and `w` is one of them. -/
def RefersTo (m : Node) (w : List Char) : Prop :=
  m.kind = .attributeNode ∧ m.isIdref = true ∧ IsWord w m.stringValue.toList

end Node

namespace Forest

variable {f : Forest} {o : Origin} {a m n root : Node} {ids : List (List Char)}

theorem InTree.to_root (hn : f.InTree o n) : f.InTree o n.root ∧ n.root.parent? = none := by
  rcases n with ⟨o', t, above⟩
  rcases hn with ⟨⟨hranked, tree, htree, hplace⟩, ho⟩
  rw [Node.root_of_place o' hplace]
  exact ⟨⟨⟨hranked, tree, htree, .top⟩, ho⟩, rfl⟩

theorem not_isAttached_of_document (hkind : n.kind = .document) : n.isAttached = false := by
  rw [Node.isAttached_eq, hkind]
  rfl

theorem mem_attributesBelow_iff (hroot : f.InTree o root) (htop : root.parent? = none)
    (hkind : root.kind = .document) :
    a ∈ root.attributesBelow ↔ ∃ m, f.InTree o m ∧ a ∈ m.attributes := by
  have hself := not_isAttached_of_document hkind
  rw [Node.attributesBelow, List.mem_flatMap]
  refine ⟨?_, ?_⟩
  · intro h
    rcases h with ⟨m, hm, ha⟩
    exact ⟨m, hroot.subtree ((mem_descendantsOrSelf_iff hroot.1 hself).mp hm).1, ha⟩
  · intro h
    rcases h with ⟨m, hm, ha⟩
    rcases Node.mem_attributes_iff.mp ha with ⟨i, t, hb, -⟩
    -- the walk leaves out attributes and namespace nodes, which have no attributes
    have hattached := isAttached_of_below? hm.1 hb
    have hsubtree := hroot.mem_subtree_root htop hm
    exact ⟨m, (mem_descendantsOrSelf_iff hroot.1 hself).mpr ⟨hsubtree, hattached⟩, ha⟩

theorem mem_attributesBelow_iff_kind (hroot : f.InTree o root) (htop : root.parent? = none)
    (hkind : root.kind = .document) :
    a ∈ root.attributesBelow ↔ f.InTree o a ∧ a.kind = .attributeNode := by
  rw [mem_attributesBelow_iff hroot htop hkind]
  refine ⟨?_, ?_⟩
  · intro h
    rcases h with ⟨m, hm, ha⟩
    have hattribute := (mem_attributes_iff_parent hm).mp ha
    exact ⟨hattribute.1, hattribute.2.2⟩
  · intro h
    rcases h with ⟨ha, hka⟩
    -- the root is a document, so an attribute has a parent
    cases hp : a.parent? with
    | some p =>
      exact ⟨p, ha.parent hp, (mem_attributes_iff_parent (ha.parent hp)).mpr ⟨ha, hp, hka⟩⟩
    | none =>
      have he : a = root := hroot.subtree_antisymm (hroot.mem_subtree_root htop ha)
        (ha.mem_subtree_root hp hroot)
      rw [he, hkind] at hka
      cases hka

theorem mem_withId_iff (hroot : f.InTree o root) (htop : root.parent? = none)
    (hkind : root.kind = .document) :
    m ∈ root.withId ids ↔ f.InTree o m ∧ ∃ w ∈ ids, m.OwnsId w := by
  have hmem : m ∈ root.withId ids ↔ ∃ a ∈ root.attributesBelow,
      (a.isId = true ∧ trim a.stringValue.toList ∈ ids) ∧ a.parent? = some m := by
    simp only [Node.withId, List.mem_filterMap, List.mem_filter, Bool.and_eq_true,
      List.contains_iff_mem, and_assoc]
  rw [hmem]
  refine ⟨?_, ?_⟩
  · intro h
    rcases h with ⟨a, ha, ⟨hid, hw⟩, hp⟩
    have hattribute := (mem_attributesBelow_iff_kind hroot htop hkind).mp ha
    have hm := hattribute.1.parent hp
    refine ⟨hm, _, hw, a, ?_, hid, isTrimmed_trim _⟩
    exact (mem_attributes_iff_parent hm).mpr ⟨hattribute.1, hp, hattribute.2⟩
  · intro h
    rcases h with ⟨hm, w, hw, a, ha, hid, htrim⟩
    refine ⟨a, (mem_attributesBelow_iff hroot htop hkind).mpr ⟨m, hm, ha⟩, ⟨hid, ?_⟩, ?_⟩
    · rw [trim_eq_iff.mpr htrim]
      exact hw
    · exact ((mem_attributes_iff_parent hm).mp ha).2.1

theorem mem_withIdref_iff (hroot : f.InTree o root) (htop : root.parent? = none)
    (hkind : root.kind = .document) :
    m ∈ root.withIdref ids ↔ f.InTree o m ∧ ∃ w ∈ ids, m.RefersTo w := by
  have hmem : m ∈ root.withIdref ids ↔ m ∈ root.attributesBelow ∧
      m.isIdref = true ∧ ∃ w, IsWord w m.stringValue.toList ∧ w ∈ ids := by
    simp only [Node.withIdref, List.mem_filter, Bool.and_eq_true, List.any_eq_true,
      List.contains_iff_mem, mem_words_iff]
  rw [hmem, mem_attributesBelow_iff_kind hroot htop hkind]
  refine ⟨?_, ?_⟩
  · intro h
    rcases h with ⟨⟨hm, hk⟩, href, w, hword, hw⟩
    exact ⟨hm, w, hw, hk, href, hword⟩
  · intro h
    rcases h with ⟨hm, w, hw, hk, href, hword⟩
    exact ⟨⟨hm, hk⟩, href, w, hword, hw⟩

end Forest

/-! ## 2. Functions of the set of words -/

/-- The text of some item has the word. -/
def Sequence.HasWord (s : Sequence) (w : List Char) : Prop := ∃ i ∈ s, IsWord w i.text.toList

theorem Sequence.hasWord_append {s t : Sequence} {w : List Char} :
    (s ++ t : Sequence).HasWord w ↔ Sequence.HasWord s w ∨ Sequence.HasWord t w := by
  simp only [HasWord, List.mem_append, or_and_right, exists_or]

theorem Sequence.hasWord_cut {i j k : Item} {c : Char} (hc : isSpace c = true)
    (hi : i.text.toList = j.text.toList ++ c :: k.text.toList) {w : List Char} :
    Sequence.HasWord [i] w ↔ Sequence.HasWord [j, k] w := by
  simp only [HasWord, List.mem_cons, List.not_mem_nil, or_false,
    exists_eq_left, exists_eq_or_imp, hi, ← mem_words_iff, words_append_space _ _ hc,
    List.mem_append]

/-- A function finds, for the words of its argument, the nodes of a tree that go with one of them.
It is a homomorphism from sequences to sets of nodes that sees no more than the set of words. -/
structure Forest.FindsByWord (f : Forest) (o : Origin) (goesWith : Node → List Char → Prop)
    (found : Sequence → Result Sequence) : Prop where
  lists : ∀ s, ∃ r : List Node, found s = .ok (r.map Item.node) ∧
    Node.Lists r fun m => f.InTree o m ∧ ∃ w, Sequence.HasWord s w ∧ goesWith m w
  union : ∀ (s t : Sequence) (l r : List Node),
    found s = .ok (l.map Item.node) → found t = .ok (r.map Item.node) →
    ∃ u : List Node, SetOp.union.apply l r = .ok u ∧ found (s ++ t) = .ok (u.map Item.node)
  congr : ∀ s t : Sequence, (∀ w, Sequence.HasWord s w ↔ Sequence.HasWord t w) → found s = found t
  cut : ∀ (s t : Sequence) (i j k : Item) (c : Char), isSpace c = true →
    i.text.toList = j.text.toList ++ c :: k.text.toList →
    found (s ++ i :: t) = found (s ++ j :: k :: t)

section Search

variable {f : Forest} {o : Origin} {goesWith : Node → List Char → Prop}
  {found : Sequence → Result Sequence}

/-- To find the listed nodes is enough: a set has one list. -/
theorem Forest.findsByWord_of_lists
    (h : ∀ s, ∃ r : List Node, found s = .ok (r.map Item.node) ∧
      Node.Lists r fun m => f.InTree o m ∧ ∃ w, Sequence.HasWord s w ∧ goesWith m w) :
    f.FindsByWord o goesWith found := by
  have hcongr : ∀ s t : Sequence, (∀ w, Sequence.HasWord s w ↔ Sequence.HasWord t w) →
      found s = found t := by
    intro s t hwords
    rcases h s with ⟨l, hl, hlists⟩
    rcases h t with ⟨r, hr, hlists'⟩
    simp only [hwords] at hlists
    rw [hl, hr, hlists.unique (f.comparable_inTree o) (fun _ hm => hm.1) hlists']
  refine ⟨h, ?_, hcongr, ?_⟩
  · intro s t l r hs ht
    rcases h s with ⟨l', hl, hlists⟩
    rcases h t with ⟨r', hr, hlists'⟩
    rcases h (s ++ t) with ⟨u, hu, hunion⟩
    have hnodes : Function.Injective (List.map Item.node) :=
      List.map_injective_iff.mpr fun _ _ he => Item.node.inj he
    obtain rfl : l = l' := hnodes (Except.ok.inj (hs.symm.trans hl))
    obtain rfl : r = r' := hnodes (Except.ok.inj (ht.symm.trans hr))
    rcases SetOp.union.apply_spec (f.comparable_inTree o)
      (fun m hm => ((hlists.mem_iff m).mp hm).1) (fun m hm => ((hlists'.mem_iff m).mp hm).1)
      with ⟨u', hu', hunion'⟩
    -- the two lists have the same nodes, as each word is one of `s` or of `t`
    have hsame : u = u' := by
      apply hunion.unique (f.comparable_inTree o) (fun _ hm => hm.1)
      apply hunion'.congr
      intro m
      simp only [SetOp.Holds, hlists.mem_iff, hlists'.mem_iff, Sequence.hasWord_append,
        or_and_right, exists_or, ← and_or_left]
    exact ⟨u', hu', hsame ▸ hu⟩
  · intro s t i j k c hc hi
    apply hcongr
    intro w
    have hcut := Sequence.hasWord_cut hc hi (w := w)
    show (s ++ ([i] ++ t) : Sequence).HasWord w ↔ (s ++ ([j, k] ++ t) : Sequence).HasWord w
    simp only [Sequence.hasWord_append, hcut]

theorem findsByWord_searchDocument {search : Node → List (List Char) → List Node} {call : Call}
    {rest : List Sequence} {n : Node} (hdocument : n.root.kind = .document)
    (hnode : call.nodeArgument ([] :: rest) 1 = .ok (some n))
    (hsearch : ∀ ids m, m ∈ search n.root ids ↔ f.InTree o m ∧ ∃ w ∈ ids, goesWith m w) :
    f.FindsByWord o goesWith fun s => Library.searchDocument search call (s :: rest) := by
  apply Forest.findsByWord_of_lists
  intro s
  have hroot : n.documentRoot = .ok n.root := by
    rw [Node.documentRoot, hdocument]
    rfl
  have hwords : ∀ w, w ∈ Library.wordsArgument (s :: rest) 0 ↔ Sequence.HasWord s w := by
    intro w
    rw [Library.wordsArgument, List.mem_flatMap]
    simp only [mem_words_iff]
    rfl
  rcases Node.exists_sortDistinct (f.comparable_inTree o)
    (l := search n.root (Library.wordsArgument (s :: rest) 0))
    (fun m hm => ((hsearch _ m).mp hm).1) with ⟨r, hsort, hlists⟩
  refine ⟨r, ?_, ?_⟩
  · -- the reference node is the second argument or the context node, whatever the first one is
    have hnode' : call.nodeArgument (s :: rest) 1 = .ok (some n) := hnode
    rw [Library.searchDocument, hnode']
    show (do
      let root ← n.documentRoot
      if (Library.wordsArgument (s :: rest) 0).isEmpty then return []
      return (← Node.sortDistinct (search root (Library.wordsArgument (s :: rest) 0))).map
        Item.node) = _
    rw [hroot]
    show (if (Library.wordsArgument (s :: rest) 0).isEmpty then .ok [] else do
      return (← Node.sortDistinct (search n.root (Library.wordsArgument (s :: rest) 0))).map
        Item.node) = _
    cases hwanted : Library.wordsArgument (s :: rest) 0 with
    | nil =>
      -- no node goes with one of no words, so leaving early makes no difference
      have hnone : r = [] := by
        rw [List.eq_nil_iff_forall_not_mem]
        intro m hm
        rw [hlists.mem_iff, hsearch, hwanted] at hm
        rcases hm with ⟨-, w, hw, -⟩
        exact List.not_mem_nil hw
      rw [hnone]
      rfl
    | cons w ws =>
      rw [hwanted] at hsort
      rw [List.isEmpty_cons, if_neg Bool.false_ne_true, hsort]
      rfl
  · apply hlists.congr
    intro m
    rw [hsearch]
    simp only [hwords]

end Search

/-! ## 3. The two functions -/

/-- Elements are found by the IDs that they own, and attributes by the IDs that they refer to, in
the document that a node belongs to. -/
theorem ids_findByWord {f : Forest} {call : Call} {rest : List Sequence} {n : Node} (hn : n ∈ f)
    (hdocument : n.root.kind = .document)
    (hnode : call.nodeArgument ([] :: rest) 1 = .ok (some n)) :
    f.FindsByWord n.origin Node.OwnsId (fun s => Library.elementsWithId call (s :: rest)) ∧
      f.FindsByWord n.origin Node.RefersTo
        fun s => Library.attributesWithIdref call (s :: rest) := by
  have hin : f.InTree n.origin n := ⟨hn, rfl⟩
  rcases hin.to_root with ⟨hroot, htop⟩
  refine ⟨?_, ?_⟩
  · apply findsByWord_searchDocument hdocument hnode
    intro ids m
    exact Forest.mem_withId_iff hroot htop hdocument
  · apply findsByWord_searchDocument hdocument hnode
    intro ids m
    exact Forest.mem_withIdref_iff hroot htop hdocument

/-- A document with two elements. The outer one has two IDs and is referred to by the inner one. -/
def identifiedDocument : Tree :=
  .node { kind := .document } [] []
    [.node { kind := .element, name := some (.unqualified "a") }
      [.leaf { kind := .attributeNode, name := some (.unqualified "x"), value := " k ",
               isId := true },
       .leaf { kind := .attributeNode, name := some ⟨some "xml", "id", some Namespace.xml⟩,
               value := "l" }] []
      [.node { kind := .element, name := some (.unqualified "b") }
        [.leaf { kind := .attributeNode, name := some (.unqualified "y"), value := "m l",
                 isIdref := true }] [] []]]

def identifiedForest : Forest where
  ranked := true
  tree? := fun
    | 0 => some identifiedDocument
    | _ => none
  wellFormed := by
    intro i t h
    match i, h with
    | 0, h => cases h; rfl

/-- The outer element is found once by its two IDs, whether one text names them or two. -/
theorem ids_findByWord_sample :
    let n : Node := .ofTree ⟨0, true⟩ identifiedDocument
    let call : Call := ⟨.function "id", .initial .empty,
      .initial ⟨⟨.epoch, .midnight⟩, some .utc⟩ .utc, none, .codepoint⟩
    n ∈ identifiedForest ∧ n.root.kind = .document ∧
      call.nodeArgument [[], [.node n]] 1 = .ok (some n) ∧
      Library.elementsWithId call [[.atomic (.string "l k")], [.node n]] =
        Library.elementsWithId call [[.atomic (.string "l"), .atomic (.string "k")], [.node n]] ∧
      (Library.elementsWithId call [[.atomic (.string "l k")], [.node n]]).map List.length =
        .ok 1 := by
  intro n call
  have hn : n ∈ identifiedForest := ⟨rfl, _, rfl, .top⟩
  refine ⟨hn, rfl, rfl, ?_, ?_⟩
  · have hnode : call.nodeArgument ([] :: [[.node n]]) 1 = .ok (some n) := rfl
    have hfinds := (ids_findByWord hn rfl hnode).1
    exact hfinds.cut [] [] (.atomic (.string "l k")) (.atomic (.string "l")) (.atomic (.string "k"))
      ' ' rfl rfl
  · decide +kernel

end XPath
