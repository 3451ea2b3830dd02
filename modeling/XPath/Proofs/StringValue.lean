import XPath.Proofs.LibraryCalls
import XPath.Proofs.Path
import XPath.Proofs.Tree.Axes

/-!
# The text below a node

The string value of an element or a document is read off its tree by a recursion that looks into
elements and skips all other nodes but texts.  Walking through all descendants with a stack finds
the same texts in the same order, so a path to these texts gives the string value as well.
-/

namespace XPath

/-! ## 1. The texts of a tree -/

/-- What a child contributes to the texts of its parent. -/
def Tree.textsOfChild (t : Tree) : List String :=
  match t.info.kind with
  | .text => [t.info.value]
  | .element => t.texts
  | _ => []

theorem Tree.texts_eq_flatMap (t : Tree) : t.texts = t.children.flatMap textsOfChild := by
  have hall : ∀ l : List Tree, textsOfAll l = l.flatMap textsOfChild := by
    intro l
    induction l with
    | nil => rw [textsOfAll, List.flatMap_nil]
    | cons u l ih =>
      rw [textsOfAll, ih, List.flatMap_cons]
      rfl
  rcases t with ⟨info, attributes, namespaces, children⟩
  rw [texts, hall]
  rfl

mutual

/-- Whether only documents and elements have children, no document is among them, and no text has an
annotation. -/
def Tree.hasContent : Tree → Bool
  | node i _ _ c =>
    (c.isEmpty || i.kind == .document || i.kind == .element) &&
      (i.kind != .text || i.annotation.isNone) && c.all (·.info.kind != .document) &&
      haveContent c

/-- Whether all trees of a list are so. -/
def Tree.haveContent : List Tree → Bool
  | [] => true
  | t :: r => hasContent t && haveContent r

end

theorem Tree.haveContent_iff {l : List Tree} :
    haveContent l = true ↔ ∀ t ∈ l, t.hasContent = true := by
  induction l with
  | nil => simp [haveContent]
  | cons t r ih => rw [haveContent, Bool.and_eq_true, ih, List.forall_mem_cons]

theorem Tree.hasContent_iff {t : Tree} : t.hasContent = true ↔
    (t.children = [] ∨ t.info.kind = .document ∨ t.info.kind = .element) ∧
      (t.info.kind = .text → t.info.annotation = none) ∧
      ∀ u ∈ t.children, u.info.kind ≠ .document ∧ u.hasContent = true := by
  rcases t with ⟨i, a, n, c⟩
  show _ ↔ (c = [] ∨ i.kind = .document ∨ i.kind = .element) ∧
    (i.kind = .text → i.annotation = none) ∧
    ∀ u ∈ c, u.info.kind ≠ .document ∧ u.hasContent = true
  simp only [hasContent, Bool.and_eq_true, Bool.or_eq_true, List.isEmpty_iff, beq_iff_eq,
    bne_iff_ne, ne_eq, Option.isNone_iff_eq_none, List.all_eq_true, haveContent_iff, forall₂_and,
    or_assoc, and_assoc, ← imp_iff_not_or]

/-- Nothing is below attributes and namespace nodes, and they are no texts. -/
theorem Tree.hasContent_of_below? {t u : Tree} {b : Branch} (hw : t.isWellFormed)
    (h : t.hasContent = true) (hb : t.below? b = some u) : u.hasContent = true := by
  have hattached (hk : u.info.kind.isAttached = true) : u.hasContent = true := by
    have hchildren := ((isWellFormed_iff.mp (isWellFormed_of_below? hw hb)).1 hk).2.2
    refine hasContent_iff.mpr ⟨.inl hchildren, ?_, by simp [hchildren]⟩
    intro htext
    rw [htext] at hk
    cases hk
  cases b with
  | child i => exact ((hasContent_iff.mp h).2.2 u (List.mem_of_getElem? hb)).2
  | attributeNode i => exact hattached (by rw [kind_of_below?_attribute hw hb]; rfl)
  | namespaceNode i => exact hattached (by rw [kind_of_below?_namespace hw hb]; rfl)

/-- Whether all trees of a forest are so. -/
def Forest.HasContent (f : Forest) : Prop := ∀ i t, f.tree? i = some t → t.hasContent = true

theorem Forest.HasContent.of_mem {f : Forest} (hf : f.HasContent) {n : Node} (hn : n ∈ f) :
    n.tree.hasContent = true := by
  refine InTree.induction (P := fun n => n.tree.hasContent = true) ?_ ?_ ⟨hn, rfl⟩
  · intro n hn htop
    rcases hn with ⟨⟨-, root, hroot, hplace⟩, -⟩
    rw [htop] at hplace
    cases hplace
    exact hf _ _ hroot
  · intro p b t hp hb h
    exact Tree.hasContent_of_below? (isWellFormed_of_mem hp.1) h hb

/-! ## 2. The texts among the descendants -/

namespace Node

variable {f : Forest} {m n : Node}

/-- The texts among the descendants, in the order of the walk. -/
def textsBelow (n : Node) : List Node := n.found .descendant (.kind .text)

theorem textsBelow_eq (n : Node) : n.textsBelow = n.descendants.filter (·.kind == .text) := rfl

theorem mem_textsBelow_iff : m ∈ n.textsBelow ↔ m ∈ n.descendants ∧ m.kind = .text := by
  rw [textsBelow_eq, List.mem_filter, beq_iff_eq]

theorem stringValue_of_text (h : n.kind = .text) : n.stringValue = n.tree.info.value := by
  change n.tree.info.kind = .text at h
  rw [stringValue, Tree.stringValue, h]

/-- The walk finds the texts that the recursion finds. -/
theorem map_textsBelow (h : n.tree.hasContent = true) :
    n.textsBelow.map stringValue = n.tree.texts := by
  induction n using subtree.induct with
  | case1 n ih =>
    rw [textsBelow_eq, descendants_eq_flatMap, List.filter_flatMap, List.map_flatMap,
      Tree.texts_eq_flatMap, ← map_tree_children, List.flatMap_map, List.flatMap_def,
      List.flatMap_def, List.map_congr_left]
    intro m hm
    have hchild : m.tree ∈ n.tree.children := map_tree_children n ▸ List.mem_map_of_mem hm
    rcases (Tree.hasContent_iff.mp h).2.2 m.tree hchild with ⟨hdocument, hcontent⟩
    rw [descendantsOrSelf, Tree.textsOfChild]
    show _ = match m.kind with
      | .text => [m.tree.info.value]
      | .element => m.tree.texts
      | _ => []
    by_cases helement : m.kind = .element
    · rw [List.filter_cons_of_neg (by simp [helement]), helement, ← textsBelow_eq]
      exact ih m (List.mem_append_right _ hm) hcontent
    · -- nothing is below the child, so that it contributes something only if it is a text
      have hnone : m.tree.children = [] :=
        (Tree.hasContent_iff.mp hcontent).1.resolve_right (not_or.mpr ⟨hdocument, helement⟩)
      have hleaf : m.descendants = [] := by
        rw [descendants_eq_flatMap, children, hnone]
        rfl
      rw [hleaf]
      by_cases htext : m.kind = .text
      · rw [List.filter_cons_of_pos (by simp [htext]), htext, ← stringValue_of_text htext]
        rfl
      · rw [List.filter_cons_of_neg (by simp [htext])]
        split
        · contradiction
        · contradiction
        · rfl

theorem stringValue_eq_join (h : n.tree.hasContent = true)
    (hk : n.kind = .document ∨ n.kind = .element) :
    n.stringValue = String.join (n.textsBelow.map stringValue) := by
  rw [map_textsBelow h, stringValue, Tree.stringValue]
  change n.tree.info.kind = .document ∨ n.tree.info.kind = .element at hk
  rcases hk with hk | hk
  · rw [hk]
  · rw [hk]

theorem annotation_of_mem_textsBelow (hf : f.HasContent) (hn : n ∈ f) (hm : m ∈ n.textsBelow) :
    m.tree.info.annotation = none := by
  rcases mem_textsBelow_iff.mp hm with ⟨hm, hk⟩
  have hmf := (((Forest.mem_descendants_iff ⟨hn, rfl⟩).mp hm).1.1 : m ∈ n.subtree)
  exact (Tree.hasContent_iff.mp (hf.of_mem (mem_forest_of_mem_subtree hn hmf))).2.1 hk

/-- Attributes and namespace nodes are no texts. -/
theorem textsBelow_eq_filter (hn : n ∈ f) (hk : n.kind ≠ .text) :
    n.textsBelow = n.subtree.filter (·.kind == .text) := by
  have hattached (m : Node) : (!m.isAttached && m.kind == .text) = (m.kind == .text) := by
    rw [isAttached_eq]
    cases m.kind <;> rfl
  rw [textsBelow_eq, Forest.descendants_eq_filter hn, List.filter_filter, subtree_eq,
    List.filter_cons_of_neg (by simpa using hk)]
  exact List.filter_congr fun m _ => (Bool.and_comm _ _).trans (hattached m)

/-- What a node contributes to the string values of the nodes above it. -/
def contribution (n : Node) : String := if n.kind = .text then n.stringValue else ""

theorem join_contribution (l : List Node) : String.join (l.map contribution) =
    String.join ((l.filter (·.kind == .text)).map stringValue) := by
  induction l with
  | nil => rfl
  | cons n l ih =>
    rw [List.map_cons, String.join_cons, ih, contribution]
    by_cases h : n.kind = .text
    · rw [if_pos h, List.filter_cons_of_pos (by simpa using h), List.map_cons, String.join_cons]
    · rw [if_neg h, List.filter_cons_of_neg (by simpa using h), String.empty_append]

end Node

/-! ## 3. Two expressions for one text -/

/-- A call of a library function. -/
def Expr.callLibrary (localName : String) (args : List Expr) : Expr :=
  .call ⟨none, localName, some Namespace.functions⟩ args

/-- The texts below the context item, joined with nothing between them. -/
def Expr.joinTexts : Expr :=
  .callLibrary "string-join" [.path .relative [.axis .descendant (.kind .text) []],
    .literal (.string "")]

section Evaluation

variable {env : Environment} {scope : Scope} {n : Node}

theorem eval_string (hsig : env.static.signatures = Library.signatures)
    (hfun : env.functions = Library.functions) (hfocus : scope.contextItem = .ok (.node n)) :
    (Expr.callLibrary "string" [.contextItem]).eval env scope = .ok [.string n.stringValue] := by
  have hmem : Library.function "string" (.between 0 1) [Library.opt .item]
      (Library.one (.atomic .string)) Library.stringOf ∈ Library.table := by
    simp [Library.table, Library.accessorsTable]
  rw [Expr.callLibrary, Expr.eval, evalAll, Expr.eval, hfocus]
  exact env.call_eq hsig hfun hmem rfl rfl scope

theorem typedValue_of_text (hk : n.kind = .text) (ha : n.tree.info.annotation = none) :
    n.typedValue = [.untyped n.stringValue] := by
  change n.tree.info.kind = .text at hk
  rw [Node.typedValue, Tree.typedValue, ha, hk]
  rfl

/-- The values of texts become strings. -/
theorem convertEach_texts {l : List Node}
    (h : ∀ m ∈ l, m.kind = .text ∧ m.tree.info.annotation = none) :
    ParameterItem.convertEach (ParameterItem.convertTo .string) (l.map Item.node) =
      .ok (l.map fun m => .string m.stringValue) := by
  induction l with
  | nil => rfl
  | cons m l ih =>
    rcases h m List.mem_cons_self with ⟨hk, ha⟩
    have hl := ih fun k hk => h k (List.mem_cons_of_mem m hk)
    show (m.typedValue ++ Sequence.atomize (l.map Item.node)).mapM
      (fun v => (ParameterItem.convertTo .string v).map Item.atomic) = _
    rw [typedValue_of_text hk ha, List.singleton_append, List.mapM_cons]
    rw [ParameterItem.convertEach] at hl
    rw [hl]
    rfl

theorem intercalate_empty (l : List String) : "".intercalate l = String.join l := by
  induction l with
  | nil => rfl
  | cons s l ih =>
    cases l with
    | nil => simp
    | cons t l =>
      rw [String.intercalate_cons_cons, ih, String.append_empty, String.join_cons (s := s)]

theorem eval_joinTexts (hsig : env.static.signatures = Library.signatures)
    (hfun : env.functions = Library.functions) (hfocus : scope.contextItem = .ok (.node n))
    (htexts : ∀ m ∈ n.textsBelow, m.tree.info.annotation = none) :
    Expr.joinTexts.eval env scope =
      .ok [.string (String.join (n.textsBelow.map Node.stringValue))] := by
  let join := Library.function "string-join" (.exactly 2)
    [Library.many (.atomic .string), Library.one (.atomic .string)]
    (Library.one (.atomic .string)) Library.stringJoin
  have hmem : join ∈ Library.table := by simp [join, Library.table, Library.stringsTable]
  have hpath : (Expr.path .relative [.axis .descendant (.kind .text) []]).eval env scope =
      .ok (n.textsBelow.map Item.node) := by
    rw [Expr.eval, evalStep_axis env hfocus]
    show evalSteps env scope [] _ = _
    rw [evalSteps]
    rfl
  have hvalues := convertEach_texts fun m hm =>
    ⟨(Node.mem_textsBelow_iff.mp hm).2, htexts m hm⟩
  have hfirst : (Library.many (.atomic .string)).convert (n.textsBelow.map Item.node) =
      .ok (n.textsBelow.map fun m => .string m.stringValue) := by
    show (ParameterItem.convertEach (ParameterItem.convertTo .string) _ >>= _) = _
    rw [hvalues]
    rfl
  have hargs : join.signature.convertArguments [n.textsBelow.map Item.node, [.string ""]] =
      .ok [n.textsBelow.map fun m => .string m.stringValue, [.string ""]] := by
    rw [Signature.convertArguments, Signature.convertFrom]
    show (((Library.many (.atomic .string)).convert _).mapError _ >>= _) = _
    rw [hfirst]
    rfl
  rw [Expr.joinTexts, Expr.callLibrary, Expr.eval, evalAll, hpath, evalAll, Expr.eval, evalAll]
  refine (env.call_eq hsig hfun hmem rfl rfl scope).trans ?_
  show (join.signature.convertArguments [n.textsBelow.map Item.node, [.string ""]] >>= _) = _
  rw [hargs]
  show (.ok [.string ("".intercalate ((n.textsBelow.map fun m =>
    Item.string m.stringValue).map Item.text))] : Result Sequence) = _
  rw [intercalate_empty, List.map_map]
  rfl

/-- The string value of an element or a document is the values of the texts among its descendants,
put together in document order.  Of all nodes in its subtree, attributes and namespace nodes
included, only texts contribute something.  So `string(.)` and `string-join(descendant::text(), '')`
give the same. -/
theorem stringValue_eq_textsBelow {f : Forest} (hf : f.HasContent) (hn : n ∈ f)
    (hk : n.kind = .document ∨ n.kind = .element) :
    n.textsBelow.Pairwise Node.Precedes ∧
    n.stringValue = String.join (n.textsBelow.map Node.stringValue) ∧
    n.stringValue = String.join (n.subtree.map Node.contribution) ∧
    ∀ (env : Environment) (scope : Scope), env.static.signatures = Library.signatures →
      env.functions = Library.functions → scope.contextItem = .ok (.node n) →
      (Expr.callLibrary "string" [.contextItem]).eval env scope = .ok [.string n.stringValue] ∧
      Expr.joinTexts.eval env scope = .ok [.string n.stringValue] := by
  have hjoin := Node.stringValue_eq_join (hf.of_mem hn) hk
  have htext : n.kind ≠ .text := by
    rcases hk with hk | hk <;> simp [hk]
  refine ⟨Forest.pairwise_found ⟨hn, rfl⟩ (by decide), hjoin, ?_, ?_⟩
  · rw [Node.join_contribution, ← Node.textsBelow_eq_filter hn htext]
    exact hjoin
  · intro env scope hsig hfun hfocus
    refine ⟨eval_string hsig hfun hfocus, ?_⟩
    rw [eval_joinTexts hsig hfun hfocus fun m hm => Node.annotation_of_mem_textsBelow hf hn hm,
      ← hjoin]

end Evaluation

/-- An element with an attribute, a namespace node, a text and another element with a comment. -/
theorem stringValue_eq_textsBelow_sample :
    Forest.sample.HasContent ∧ Forest.sampleNode ∈ Forest.sample ∧
      Forest.sampleNode.kind = .element ∧
      String.join (Forest.sampleNode.textsBelow.map Node.stringValue) = "t" ∧
      ∀ (env : Environment) (scope : Scope), env.static.signatures = Library.signatures →
        env.functions = Library.functions →
        scope.contextItem = .ok (.node Forest.sampleNode) →
        Expr.joinTexts.eval env scope = .ok [.string "t"] := by
  have hcontent : Forest.sample.HasContent := by
    intro i t h
    match i, h with
    | 0, h => cases h; rfl
    | 1, h => cases h; rfl
  have hvalue : Forest.sampleNode.stringValue = "t" := rfl
  rcases stringValue_eq_textsBelow hcontent Forest.sampleNode_mem (.inr rfl) with
    ⟨-, hjoin, -, heval⟩
  rw [hvalue] at hjoin heval
  exact ⟨hcontent, Forest.sampleNode_mem, rfl, hjoin.symm,
    fun env scope hsig hfun hfocus => (heval env scope hsig hfun hfocus).2⟩

end XPath
