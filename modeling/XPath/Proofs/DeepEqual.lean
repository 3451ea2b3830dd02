import Mathlib.Data.List.Nodup
import Mathlib.Data.Multiset.Basic
import XPath.Library.Sequences
import XPath.Proofs.Equality
import XPath.Proofs.Tree.Place

/-!
# Deep equality

Deep equality of sequences is an equivalence relation, although it treats its two sides differently:
the attributes of an element are looked for among those of the other one, but not the other way
round.  What makes it symmetric is that no two attributes of an element have one name, so that
looking for each of them finds as many different ones.

The proof gives each item a form, in which attributes have no order and comments and processing
instructions are left out.  Two items are deep-equal exactly if they have one form.
-/

namespace XPath

/-! ## 1. Plain trees -/

namespace Tree

def expandedName? (t : Tree) : Option ExpandedName := t.info.name.map QName.expanded

/-- No two attributes of a plain element have one name, no element or document is annotated, and the
annotation of an attribute is a value that has a place. -/
def isPlainNode (tz : TimeZone) (t : Tree) : Bool :=
  match t.info.kind with
  | .element => t.info.annotation.isNone && decide (t.attributes.map expandedName?).Nodup
  | .document => t.info.annotation.isNone
  | .attributeNode => t.info.annotation.all (·.isPlaced tz)
  | _ => true

mutual

def isPlain (tz : TimeZone) : Tree → Bool
  | node i a n c =>
    isPlainNode tz (node i a n c) && (arePlain tz a && arePlain tz n && arePlain tz c)

def arePlain (tz : TimeZone) : List Tree → Bool
  | [] => true
  | t :: r => isPlain tz t && arePlain tz r

end

variable {tz : TimeZone}

theorem arePlain_iff {l : List Tree} : arePlain tz l = true ↔ ∀ t ∈ l, t.isPlain tz = true := by
  induction l with
  | nil => simp [arePlain]
  | cons t r ih => rw [arePlain, Bool.and_eq_true, ih, List.forall_mem_cons]

theorem isPlain_iff {t : Tree} : t.isPlain tz = true ↔ t.isPlainNode tz = true ∧
    (∀ u ∈ t.attributes, u.isPlain tz = true) ∧ (∀ u ∈ t.namespaces, u.isPlain tz = true) ∧
      ∀ u ∈ t.children, u.isPlain tz = true := by
  cases t with
  | node i a n c =>
    simp only [isPlain, Bool.and_eq_true, arePlain_iff, and_assoc]
    rfl

theorem isPlain_of_below? {t u : Tree} (h : t.isPlain tz) {b : Branch} (hb : t.below? b = some u) :
    u.isPlain tz := by
  obtain ⟨-, ha, hn, hc⟩ := isPlain_iff.mp h
  cases b with
  | attributeNode i => exact ha u (List.mem_of_getElem? hb)
  | namespaceNode i => exact hn u (List.mem_of_getElem? hb)
  | child i => exact hc u (List.mem_of_getElem? hb)

theorem Place.isPlain {root t : Tree} {above : List (Tree × Branch)} (h : Place root t above)
    (hr : root.isPlain tz) : t.isPlain tz := by
  induction h with
  | top => exact hr
  | inside _ hb ih => exact isPlain_of_below? ih hb

end Tree

/-- Whether all trees of a forest are plain. -/
def Forest.IsPlain (tz : TimeZone) (f : Forest) : Prop :=
  ∀ i t, f.tree? i = some t → t.isPlain tz = true

theorem Forest.isPlain_of_mem {tz : TimeZone} {f : Forest} (hf : f.IsPlain tz) {n : Node}
    (h : n ∈ f) : n.tree.isPlain tz = true := by
  obtain ⟨-, root, hr, hp⟩ := h
  exact hp.isPlain (hf _ root hr)

/-! ## 2. Forms -/

/-- The name of an attribute with the keys of its typed value. -/
abbrev AttributeForm := Option ExpandedName × List EqualityKey

/-- What a node is compared by. -/
inductive NodeForm where
  | document (children : List NodeForm)
  | element (name : Option ExpandedName) (attributes : Multiset AttributeForm)
    (children : List NodeForm)
  | attributeNode (form : AttributeForm)
  | processingInstruction (name : Option ExpandedName) (value : String)
  | namespaceNode (name : Option ExpandedName) (value : String)
  | text (key : String)
  | comment (key : String)

def NodeForm.kind : NodeForm → NodeKind
  | document _ => .document
  | element _ _ _ => .element
  | attributeNode _ => .attributeNode
  | processingInstruction _ _ => .processingInstruction
  | namespaceNode _ _ => .namespaceNode
  | text _ => .text
  | comment _ => .comment

namespace DeepEquality

variable (d : DeepEquality)

def attributeForm (t : Tree) : AttributeForm :=
  (t.expandedName?, t.typedValue.map (Atomic.equalityKey d.collation d.timeZone))

mutual

def nodeForm : Tree → NodeForm
  | .node i a n c =>
    match i.kind with
    | .document => .document (childForms c)
    | .element =>
      .element (i.name.map QName.expanded) (a.map d.attributeForm : List _) (childForms c)
    | .attributeNode => .attributeNode (d.attributeForm (.node i a n c))
    | .processingInstruction => .processingInstruction (i.name.map QName.expanded) i.value
    | .namespaceNode => .namespaceNode (i.name.map QName.expanded) i.value
    | .text => .text (d.collation.key i.value)
    | .comment => .comment (d.collation.key i.value)

/-- The forms of the significant ones among a list of children. -/
def childForms : List Tree → List NodeForm
  | [] => []
  | t :: r => if isSignificant t then nodeForm t :: childForms r else childForms r

end

theorem kind_nodeForm (t : Tree) : (d.nodeForm t).kind = t.info.kind := by
  cases t with
  | node i a n c =>
    rw [nodeForm, Tree.info]
    cases i.kind <;> rfl

theorem childForms_eq (l : List Tree) :
    d.childForms l = (l.filter isSignificant).map d.nodeForm := by
  induction l with
  | nil => rfl
  | cons t r ih =>
    rw [childForms, List.filter_cons, ih]
    split <;> rfl

/-! ## 3. Equality by forms -/

/-- Two lists are equal item by item if they have the same list of forms. -/
theorem all_zip_iff {α β : Type} {r : α → α → Bool} {f : α → β} (l m : List α)
    (h : ∀ x ∈ l, ∀ y ∈ m, (r x y = true ↔ f x = f y)) :
    (l.length == m.length && (l.zip m).all fun (x, y) => r x y) = true ↔ l.map f = m.map f := by
  induction l generalizing m with
  | nil => cases m <;> simp
  | cons x l ih =>
    cases m with
    | nil => simp
    | cons y m =>
      have htail := ih m fun a ha b hb =>
        h a (List.mem_cons_of_mem x ha) b (List.mem_cons_of_mem y hb)
      have hhead := h x List.mem_cons_self y List.mem_cons_self
      simp only [List.length_cons, List.zip_cons_cons, List.all_cons, List.map_cons,
        List.cons.injEq, Bool.and_eq_true, beq_iff_eq, Nat.add_right_cancel_iff] at htail ⊢
      rw [← htail, ← hhead]
      tauto

variable {d} {t u : Tree}

theorem names_iff : names t u = true ↔ t.expandedName? = u.expandedName? := beq_iff_eq

/-- The typed value of an attribute is its annotation or an untyped value. -/
theorem isPlaced_of_mem_typedValue (ht : t.isPlain d.timeZone) (hk : t.info.kind = .attributeNode)
    {v : Atomic} (hv : v ∈ t.typedValue) : v.isPlaced d.timeZone = true := by
  have hnode := (Tree.isPlain_iff.mp ht).1
  unfold Tree.isPlainNode at hnode
  unfold Tree.typedValue at hv
  rw [hk] at hnode hv
  cases hann : t.info.annotation with
  | some w =>
    rw [hann] at hnode hv
    rw [List.mem_singleton.mp hv]
    exact hnode
  | none =>
    rw [hann] at hv
    rw [List.mem_singleton.mp hv]
    rfl

theorem attributes_iff (ht : t.isPlain d.timeZone) (hu : u.isPlain d.timeZone)
    (hkt : t.info.kind = .attributeNode) (hku : u.info.kind = .attributeNode) :
    d.attributes t u = true ↔ d.attributeForm t = d.attributeForm u := by
  have hvalues : d.valueLists t.typedValue u.typedValue = true ↔
      t.typedValue.map (Atomic.equalityKey d.collation d.timeZone) =
        u.typedValue.map (Atomic.equalityKey d.collation d.timeZone) :=
    all_zip_iff _ _ fun v hv w hw => Atomic.equal_iff d.collation d.timeZone
      (isPlaced_of_mem_typedValue ht hkt hv) (isPlaced_of_mem_typedValue hu hku hw)
  rw [attributes, Bool.and_eq_true, names_iff, hvalues, attributeForm, attributeForm, Prod.mk.injEq]

/-- Looking for each of the first attributes among as many others finds all of these, because the
first ones have different names. -/
theorem attributeLists_iff (ts us : List Tree)
    (ht : ∀ t ∈ ts, t.info.kind = .attributeNode ∧ t.isPlain d.timeZone)
    (hu : ∀ u ∈ us, u.info.kind = .attributeNode ∧ u.isPlain d.timeZone)
    (hnames : (ts.map Tree.expandedName?).Nodup) :
    d.attributeLists ts us = true ↔
      (↑(ts.map d.attributeForm) : Multiset AttributeForm) = ↑(us.map d.attributeForm) := by
  have hfound : (ts.all fun t => us.any (d.attributes t)) = true ↔
      ts.map d.attributeForm ⊆ us.map d.attributeForm := by
    rw [List.all_eq_true, List.subset_def, List.forall_mem_map]
    refine forall₂_congr fun t hmem => ?_
    rw [List.any_eq_true, List.mem_map]
    refine exists_congr fun u => and_congr_right fun hmem' => ?_
    rw [attributes_iff (ht t hmem).2 (hu u hmem').2 (ht t hmem).1 (hu u hmem').1, eq_comm]
  have hnodup : (ts.map d.attributeForm).Nodup := by
    apply List.Nodup.of_map Prod.fst
    rw [List.map_map]
    exact hnames
  rw [attributeLists, Bool.and_eq_true, beq_iff_eq, hfound, Multiset.coe_eq_coe]
  constructor
  · rintro ⟨hlength, hsubset⟩
    apply (List.subperm_of_subset hnodup hsubset).perm_of_length_le
    rw [List.length_map, List.length_map, hlength]
  · intro hperm
    have hlength := hperm.length_eq
    rw [List.length_map, List.length_map] at hlength
    exact ⟨hlength, hperm.subset⟩

mutual

theorem trees_iff : (t u : Tree) → t.isWellFormed → u.isWellFormed → t.isPlain d.timeZone →
    u.isPlain d.timeZone → (d.trees t u = true ↔ d.nodeForm t = d.nodeForm u)
  | .node i as ns cs, u, ht, hu, hpt, hpu => by
    by_cases hk : i.kind = u.info.kind
    · have hchildren := children_iff cs (u.children.filter isSignificant)
        (fun c hc => ⟨((Tree.isWellFormed_iff.mp ht).2.2.2 c hc).2,
          (Tree.isPlain_iff.mp hpt).2.2.2 c hc⟩)
        (fun c hc => ⟨((Tree.isWellFormed_iff.mp hu).2.2.2 c (List.mem_of_mem_filter hc)).2,
          (Tree.isPlain_iff.mp hpu).2.2.2 c (List.mem_of_mem_filter hc)⟩)
      rw [← childForms_eq] at hchildren
      cases u with
      | node j bs ms es =>
        have hnode := (Tree.isPlain_iff.mp hpt).1
        have hnode' := (Tree.isPlain_iff.mp hpu).1
        simp only [Tree.info] at hk
        simp only [Tree.isPlainNode, Tree.info, ← hk] at hnode hnode'
        simp only [trees, nodeForm, Tree.info, ← hk, beq_self_eq_true, Bool.true_and]
        cases hkind : i.kind with
        | document =>
          rw [NodeForm.document.injEq]
          exact hchildren
        | element =>
          simp only [hkind, Bool.and_eq_true, Option.isNone_iff_eq_none, decide_eq_true_eq]
            at hnode hnode'
          have hlists := attributeLists_iff (d := d) as bs
            (fun t hmem => ⟨((Tree.isWellFormed_iff.mp ht).2.1 t hmem).1,
              (Tree.isPlain_iff.mp hpt).2.1 t hmem⟩)
            (fun u hmem => ⟨((Tree.isWellFormed_iff.mp hu).2.1 u hmem).1,
              (Tree.isPlain_iff.mp hpu).2.1 u hmem⟩) hnode.2
          simp only [hnode.1, Bool.and_eq_true, NodeForm.element.injEq, names_iff, and_assoc]
          exact and_congr_right fun _ => and_congr hlists hchildren
        | attributeNode =>
          rw [NodeForm.attributeNode.injEq]
          exact attributes_iff hpt hpu hkind (hk.symm.trans hkind)
        | processingInstruction => simp [names_iff, Tree.expandedName?, Tree.info]
        | namespaceNode => simp [names_iff, Tree.expandedName?, Tree.info]
        | text => simp [Collation.equal_iff]
        | comment => simp [Collation.equal_iff]
    · refine iff_of_false (fun h => hk ?_) (fun h => hk ?_)
      · rw [trees, Bool.and_eq_true, beq_iff_eq] at h
        exact h.1
      · -- the kind of a node is told by the constructor of its form
        have hkinds := congrArg NodeForm.kind h
        rw [kind_nodeForm, kind_nodeForm] at hkinds
        exact hkinds

theorem children_iff : (ts us : List Tree) →
    (∀ t ∈ ts, t.isWellFormed ∧ t.isPlain d.timeZone) →
    (∀ u ∈ us, u.isWellFormed ∧ u.isPlain d.timeZone) →
    (d.children ts us = true ↔ d.childForms ts = us.map d.nodeForm)
  | [], us, _, _ => by
    cases us with
    | nil => simp [children, childForms]
    | cons u us => simp [children, childForms]
  | t :: ts, us, ht, hu => by
    obtain ⟨⟨hwf, hplain⟩, hts⟩ := List.forall_mem_cons.mp ht
    by_cases hs : isSignificant t = true
    · cases us with
      | nil => simp [children, childForms, hs]
      | cons u us => 
        obtain ⟨⟨huwf, huplain⟩, hus⟩ := List.forall_mem_cons.mp hu
        simp only [children, childForms, hs, if_true, Bool.and_eq_true, List.map_cons,
          List.cons.injEq, trees_iff t u hwf huwf hplain huplain, children_iff ts us hts hus]
    · simp only [children, childForms, hs, if_false, Bool.false_eq_true]
      exact children_iff ts us hts hu

end

end DeepEquality

/-! ## 4. The equivalence -/

/-- Whether an item is a placed value or a node of a forest of plain trees. -/
def Item.IsPlain (tz : TimeZone) : Item → Prop
  | atomic v => v.isPlaced tz = true
  | node n => ∃ f : Forest, f.IsPlain tz ∧ n ∈ f

namespace DeepEquality

variable (d : DeepEquality)

def itemForm : Item → EqualityKey ⊕ NodeForm
  | .atomic v => .inl (v.equalityKey d.collation d.timeZone)
  | .node n => .inr (d.nodeForm n.tree)

variable {d}

theorem items_iff {i j : Item} (hi : i.IsPlain d.timeZone) (hj : j.IsPlain d.timeZone) :
    d.items i j = true ↔ d.itemForm i = d.itemForm j := by
  cases i with
  | atomic v =>
    cases j with
    | atomic w =>
      rw [itemForm, itemForm, Sum.inl.injEq]
      exact Atomic.equal_iff d.collation d.timeZone hi hj
    | node n => constructor <;> (intro h; cases h)
  | node m =>
    cases j with
    | atomic w => constructor <;> (intro h; cases h)
    | node n =>
      obtain ⟨f, hf, hm⟩ := hi
      obtain ⟨g, hg, hn⟩ := hj
      rw [itemForm, itemForm, Sum.inr.injEq]
      exact trees_iff _ _ (Forest.isWellFormed_of_mem hm) (Forest.isWellFormed_of_mem hn)
        (Forest.isPlain_of_mem hf hm) (Forest.isPlain_of_mem hg hn)

variable (d) in
theorem sequences_iff {s t : Sequence} (hs : ∀ i ∈ s, i.IsPlain d.timeZone)
    (ht : ∀ i ∈ t, i.IsPlain d.timeZone) :
    d.sequences s t = true ↔ s.map d.itemForm = t.map d.itemForm :=
  all_zip_iff s t fun i hi j hj => items_iff (hs i hi) (ht j hj)

end DeepEquality

/-- A function of two sequences that always answers, and on the sequences with a property answers as
an equivalence relation. -/
structure DecidesEquivalence (P : Sequence → Prop) (f : Sequence → Sequence → Result Sequence) :
    Prop where
  answers : ∀ s t, ∃ b, f s t = .ok [.boolean b]
  refl : ∀ s, P s → f s s = .ok [.boolean true]
  symm : ∀ s t, P s → P t → f s t = f t s
  trans : ∀ s t u, P s → P t → P u → f s t = .ok [.boolean true] → f t u = .ok [.boolean true] →
    f s u = .ok [.boolean true]

theorem ok_boolean_iff {b : Bool} :
    (Except.ok [Item.boolean b] : Result Sequence) = .ok [.boolean true] ↔ b = true := by
  cases b with
  | true => simp
  | false => simp [Item.boolean]

namespace Library

variable (call : Call) (named : List Sequence)

/-- The collation is the default one, or one that a further argument names. -/
theorem deepEqual_eq {c : Collation} (hc : call.collationArgument ([] :: [] :: named) 2 = .ok c)
    (s t : Sequence) : deepEqual call (s :: t :: named) =
      .ok [.boolean (DeepEquality.sequences ⟨c, call.dynamic.timeZone⟩ s t)] := by
  have hc' : call.collationArgument (s :: t :: named) 2 = .ok c := hc
  rw [deepEqual, hc']
  rfl

/-- Under each collation and implicit time zone, deep equality is an equivalence relation on the
sequences of plain items. -/
theorem deepEqual_decidesEquivalence {c : Collation}
    (hc : call.collationArgument ([] :: [] :: named) 2 = .ok c) :
    DecidesEquivalence (fun s => ∀ i ∈ s, i.IsPlain call.dynamic.timeZone)
      fun s t => deepEqual call (s :: t :: named) := by
  have hiff := fun s t => DeepEquality.sequences_iff ⟨c, call.dynamic.timeZone⟩ (s := s) (t := t)
  constructor
  case answers => exact fun s t => ⟨_, deepEqual_eq call named hc s t⟩
  case refl =>
    intro s hs
    rw [deepEqual_eq call named hc, ok_boolean_iff, hiff s s hs hs]
  case symm =>
    intro s t hs ht
    rw [deepEqual_eq call named hc, deepEqual_eq call named hc]
    congr 3
    rw [Bool.eq_iff_iff, hiff s t hs ht, hiff t s ht hs, eq_comm]
  case trans =>
    intro s t u hs ht hu hst htu
    rw [deepEqual_eq call named hc, ok_boolean_iff] at hst htu ⊢
    rw [hiff s t hs ht] at hst
    rw [hiff t u ht hu] at htu
    rw [hiff s u hs hu, hst, htu]

/-! ### Elements with the same attributes in either order -/

def sampleAttribute (name value : String) : Tree :=
  .leaf { kind := .attributeNode, name := some (.unqualified name), value := value }

def sampleElement (attributes children : List Tree) : Tree :=
  .node { kind := .element, name := some (.unqualified "r") } attributes [] children

/-- The attributes stand in either order, and comments before the text, after it or nowhere. -/
def sampleTree? : Nat → Option Tree
  | 0 => some (sampleElement [sampleAttribute "x" "1", sampleAttribute "y" "2"]
      [.leaf { kind := .comment, value := "c" }, .leaf { kind := .text, value := "t" }])
  | 1 => some (sampleElement [sampleAttribute "y" "2", sampleAttribute "x" "1"]
      [.leaf { kind := .text, value := "t" }])
  | 2 => some (sampleElement [sampleAttribute "x" "1", sampleAttribute "y" "2"]
      [.leaf { kind := .text, value := "t" }, .leaf { kind := .comment, value := "d" }])
  | _ => none

def sampleForest : Forest where
  ranked := true
  tree? := sampleTree?
  wellFormed := by
    intro i t h
    match i, h with
    | 0, h => cases h; rfl
    | 1, h => cases h; rfl
    | 2, h => cases h; rfl

theorem sampleForest_isPlain : sampleForest.IsPlain .utc := by
  intro i t h
  match i, h with
  | 0, h => cases h; rfl
  | 1, h => cases h; rfl
  | 2, h => cases h; rfl

/-- One of the three elements, followed by a number. -/
def sampleSequence (i : Fin 3) (v : Atomic) : Sequence :=
  [.node (.ofTree ⟨i, true⟩ ((sampleTree? i).getD default)), .atomic v]

def sampleCall : Call where
  name := .function "deep-equal"
  static := .initial ⟨[]⟩
  dynamic := .initial ⟨.midnight .epoch, none⟩ .utc
  focus := none
  collation := .codepoint

theorem sampleSequence_isPlain (i : Fin 3) {v : Atomic} (hv : v.isPlaced .utc) :
    ∀ j ∈ sampleSequence i v, j.IsPlain .utc := by
  intro j hj
  rcases List.mem_pair.mp hj with rfl | rfl
  · refine ⟨sampleForest, sampleForest_isPlain, rfl, _, ?_, .top⟩
    match i with
    | 0 | 1 | 2 => rfl
  · exact hv

/-- The first element with 1 equals the second with 1.0, and that equals the third with 1. -/
theorem deepEqual_decidesEquivalence_sample :
    let equal := fun s t => deepEqual sampleCall [s, t]
    let first := sampleSequence 0 (.integer 1)
    let second := sampleSequence 1 (.decimal .one)
    let third := sampleSequence 2 (.integer 1)
    sampleCall.collationArgument [[], []] 2 = .ok .codepoint ∧
      equal first second = .ok [.boolean true] ∧ equal second third = .ok [.boolean true] ∧
      equal first third = .ok [.boolean true] ∧ equal second first = equal first second := by
  have hlaws := deepEqual_decidesEquivalence sampleCall [] (c := .codepoint) rfl
  have hfirst := sampleSequence_isPlain 0 (v := .integer 1) rfl
  have hsecond := sampleSequence_isPlain 1 (v := .decimal .one) rfl
  have hthird := sampleSequence_isPlain 2 (v := .integer 1) rfl
  have hst : deepEqual sampleCall
      [sampleSequence 0 (.integer 1), sampleSequence 1 (.decimal .one)] = .ok [.boolean true] := rfl
  have htu : deepEqual sampleCall
      [sampleSequence 1 (.decimal .one), sampleSequence 2 (.integer 1)] = .ok [.boolean true] := rfl
  exact ⟨rfl, hst, htu, hlaws.trans _ _ _ hfirst hsecond hthird hst htu,
    hlaws.symm _ _ hsecond hfirst⟩

end Library

end XPath
