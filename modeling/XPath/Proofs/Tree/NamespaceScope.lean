import Mathlib.Data.List.Nodup
import XPath.Library.Names
import XPath.Proofs.Result

/-!
# Namespaces in scope

An element has a namespace in scope for a prefix from one of three sources: the nearest namespace
node for the prefix, the nearest element with the prefix in its name, and the prefix `xml` itself.
They are consulted in this order, and a namespace node with an empty URI, which takes the prefix
out of scope, is treated like one that is not there.  So a prefix that is undeclared stays bound
exactly if a name or `xml` binds it.
-/

namespace XPath

/-! ## 1. Lists of bindings -/

section Bindings

variable {α β : Type} [BEq α] [LawfulBEq α]

theorem lookup_map_pair (g : γ → α) (h : γ → β) (l : List γ) (k : α) :
    (l.map fun c => (g c, h c)).lookup k = (l.find? (g · == k)).map h := by
  induction l with
  | nil => rfl
  | cons c l ih =>
    rw [List.map_cons, List.lookup_cons, List.find?_cons, ih, BEq.comm]
    cases g c == k <;> rfl

theorem lookup_isSome_iff (l : List (α × β)) (k : α) :
    (l.lookup k).isSome = true ↔ k ∈ l.map (·.1) := by
  induction l with
  | nil => simp
  | cons b l ih =>
    rw [List.lookup_cons, List.map_cons, List.mem_cons, ← ih]
    by_cases hk : k = b.1
    · simp [hk]
    · simp [hk, beq_eq_false_iff_ne.mpr hk]

/-- Where every key is bound once, the other bindings do not matter. -/
theorem lookup_filter_of_nodup {l : List (α × β)} (hl : (l.map (·.1)).Nodup) (keep : β → Bool)
    (k : α) : (l.filter fun b => keep b.2).lookup k = (l.lookup k).filter keep := by
  induction l with
  | nil => rfl
  | cons b l ih =>
    rcases List.nodup_cons.mp hl with ⟨hb, hl⟩
    rw [List.filter_cons, List.lookup_cons]
    by_cases hk : k = b.1
    · -- no later binding has the key, so without this one there is none
      subst hk
      have hnone : l.lookup b.1 = none :=
        Option.not_isSome_iff_eq_none.mp (mt (lookup_isSome_iff l b.1).mp hb)
      have hrest := ih hl
      rw [hnone] at hrest
      rw [BEq.rfl]
      show _ = Option.filter keep (some b.2)
      rw [Option.filter_some]
      by_cases hkeep : keep b.2 = true
      · rw [if_pos hkeep, if_pos hkeep, List.lookup_cons_self]
      · rw [if_neg hkeep, if_neg hkeep, hrest]
        rfl
    · have hne : (k == b.1) = false := beq_eq_false_iff_ne.mpr hk
      rw [hne, ← ih hl]
      cases keep b.2 with
      | true => rw [if_pos rfl, List.lookup_cons, hne]
      | false => rfl

/-- Adds a binding, unless its key is bound. -/
def addMissing (bound : List (α × β)) (b : α × β) : List (α × β) :=
  if bound.any (·.1 == b.1) then bound else bound ++ [b]

theorem any_key_iff (bound : List (α × β)) (k : α) :
    bound.any (·.1 == k) = true ↔ k ∈ bound.map (·.1) := by
  simp

theorem lookup_addMissing (bound : List (α × β)) (b : α × β) (k : α) :
    (addMissing bound b).lookup k = (bound.lookup k).or ([b].lookup k) := by
  unfold addMissing
  by_cases hb : bound.any (·.1 == b.1) = true
  · rw [if_pos hb]
    by_cases hk : k = b.1
    · rw [hk, Option.or_of_isSome ((lookup_isSome_iff bound _).mpr ((any_key_iff bound _).mp hb))]
    · rw [List.lookup_cons, beq_eq_false_iff_ne.mpr hk]
      exact (Option.or_none).symm
  · rw [if_neg hb, List.lookup_append]

/-- The first binding of a key is the one that counts. -/
theorem lookup_foldl_addMissing (bound l : List (α × β)) (k : α) :
    (l.foldl addMissing bound).lookup k = (bound.lookup k).or (l.lookup k) := by
  induction l generalizing bound with
  | nil => exact (Option.or_none).symm
  | cons b l ih =>
    rw [List.foldl_cons, ih, lookup_addMissing, Option.or_assoc, ← List.lookup_append]
    rfl

theorem nodup_keys_foldl_addMissing {bound : List (α × β)} (h : (bound.map (·.1)).Nodup)
    (l : List (α × β)) : ((l.foldl addMissing bound).map (·.1)).Nodup := by
  induction l generalizing bound with
  | nil => exact h
  | cons b l ih =>
    refine ih ?_
    unfold addMissing
    by_cases hb : bound.any (·.1 == b.1) = true
    · rw [if_pos hb]
      exact h
    · rw [if_neg hb, List.map_append, List.map_singleton, ← List.concat_eq_append]
      exact h.concat fun hmem => hb ((any_key_iff bound b.1).mpr hmem)

end Bindings

namespace Node

variable {n : Node}

/-! ## 2. The nearest declaration and the nearest name -/

/-- The element and those around it, nearest first. -/
def elementsAround (n : Node) : List Node := n.ancestorsOrSelf.filter (·.kind == .element)

/-- The namespace node for a prefix that is on the nearest element that has one. -/
def nearestDeclaration? (n : Node) (p : String) : Option Node :=
  n.elementsAround.findSome? fun m => m.namespaces.find? (·.declaredPrefix == p)

/-- The prefix and the namespace of the name, unless there is no namespace or an empty one. -/
def nameBinding? (n : Node) : Option (String × String) :=
  n.name?.bind fun q => (q.namespaceUri.filter (· != "")).map fun uri => (q.pre.getD "", uri)

/-- The namespace that a prefix has by the names of elements: that of the nearest element with the
prefix and a namespace.  The prefix `xml` always has one. -/
def namespaceOfNames? (n : Node) (p : String) : Option String :=
  (n.elementsAround.findSome? fun m => (m.nameBinding?.filter (·.1 == p)).map (·.2)).or
    (if p = "xml" then some Namespace.xml else none)

/-- The namespace of a prefix where the nearest declaration decides, be it that the prefix has
none, and only without a declaration the names. -/
def effectiveNamespace? (n : Node) (p : String) : Option String :=
  match n.nearestDeclaration? p with
  | some m => if m.stringValue = "" then none else some m.stringValue
  | none => n.namespaceOfNames? p

/-- The namespace of a prefix where the names also decide if the nearest declaration is empty. -/
def boundNamespace? (n : Node) (p : String) : Option String :=
  match n.nearestDeclaration? p with
  | some m => if m.stringValue = "" then n.namespaceOfNames? p else some m.stringValue
  | none => n.namespaceOfNames? p

/-- The two differ for the prefixes that are undeclared, but bound by a name. -/
theorem boundNamespace?_eq_effective_iff (n : Node) (p : String) :
    n.boundNamespace? p = n.effectiveNamespace? p ↔
      ∀ m, n.nearestDeclaration? p = some m → m.stringValue = "" →
        n.namespaceOfNames? p = none := by
  unfold boundNamespace? effectiveNamespace?
  cases n.nearestDeclaration? p with
  | none => simp
  | some m => by_cases hm : m.stringValue = "" <;> simp [hm]

/-! ## 3. Namespace nodes in scope -/

/-- Only the first namespace node with a prefix is kept, and none with a prefix seen before. -/
theorem find?_distinctPrefixes (seen : List String) (l : List Node) (p : String) :
    (distinctPrefixes seen l).find? (·.declaredPrefix == p) =
      if p ∈ seen then none else l.find? (·.declaredPrefix == p) := by
  induction l generalizing seen with
  | nil => rw [distinctPrefixes, List.find?_nil, ite_self]
  | cons m l ih =>
    rw [distinctPrefixes]
    by_cases hm : m.declaredPrefix = p
    · -- the node is the one that is looked for, if it was not seen
      subst hm
      by_cases hseen : m.declaredPrefix ∈ seen <;> simp [hseen, ih]
    · have hne : (m.declaredPrefix == p) = false := beq_eq_false_iff_ne.mpr hm
      have hmem : p ∈ m.declaredPrefix :: seen ↔ p ∈ seen := by simp [Ne.symm hm]
      by_cases hseen : m.declaredPrefix ∈ seen <;> simp [hseen, ih, hne, Ne.symm hm]

theorem nodup_distinctPrefixes (seen : List String) (l : List Node) :
    ((distinctPrefixes seen l).map declaredPrefix).Nodup ∧
      ∀ m ∈ distinctPrefixes seen l, m.declaredPrefix ∉ seen := by
  induction l generalizing seen with
  | nil => exact ⟨List.nodup_nil, fun m hm => absurd hm List.not_mem_nil⟩
  | cons m l ih =>
    rw [distinctPrefixes]
    by_cases hseen : m.declaredPrefix ∈ seen
    · rw [if_pos (List.contains_iff_mem.mpr hseen)]
      exact ih seen
    · rw [if_neg (mt List.contains_iff_mem.mp hseen)]
      rcases ih (m.declaredPrefix :: seen) with ⟨hnodup, hnew⟩
      refine ⟨List.nodup_cons.mpr ⟨fun hmem => ?_, hnodup⟩, fun k hk => ?_⟩
      · rcases List.mem_map.mp hmem with ⟨k, hk, hkm⟩
        exact hnew k hk (hkm ▸ List.mem_cons_self)
      · rcases List.mem_cons.mp hk with rfl | hk
        · exact hseen
        · exact fun hmem => hnew k hk (List.mem_cons_of_mem _ hmem)

theorem namespacesInScope_of_element (h : n.kind = .element) :
    n.namespacesInScope = distinctPrefixes [] (n.elementsAround.flatMap (·.namespaces)) := by
  rw [namespacesInScope, if_pos (beq_iff_eq.mpr h)]
  rfl

/-- The namespace node in scope for a prefix is the nearest one. -/
theorem find?_namespacesInScope (h : n.kind = .element) (p : String) :
    n.namespacesInScope.find? (·.declaredPrefix == p) = n.nearestDeclaration? p := by
  rw [namespacesInScope_of_element h, find?_distinctPrefixes, if_neg List.not_mem_nil,
    List.find?_flatMap]
  rfl

/-! ## 4. The bindings in scope -/

/-- The bindings by namespace nodes. -/
def declaredBindings (n : Node) : List (String × String) :=
  (n.namespacesInScope.map fun m => (m.declaredPrefix, m.stringValue)).filter (·.2 != "")

theorem nodup_namespacesInScope (h : n.kind = .element) :
    ((n.namespacesInScope.map fun m => (m.declaredPrefix, m.stringValue)).map (·.1)).Nodup := by
  rw [List.map_map, namespacesInScope_of_element h]
  exact (nodup_distinctPrefixes [] _).1

theorem lookup_declaredBindings (h : n.kind = .element) (p : String) :
    n.declaredBindings.lookup p =
      ((n.nearestDeclaration? p).map stringValue).filter (· != "") := by
  rw [declaredBindings, lookup_filter_of_nodup (nodup_namespacesInScope h) (· != ""),
    lookup_map_pair, find?_namespacesInScope h]

/-- The bindings by names come after those by namespace nodes, and that of `xml` is the last. -/
theorem inScopeNamespaces_eq (n : Node) :
    n.inScopeNamespaces =
      (n.elementsAround.filterMap nameBinding? ++ [("xml", Namespace.xml)]).foldl addMissing
        n.declaredBindings := by
  rw [List.foldl_append, elementsAround, List.filterMap_filter, List.foldl_filterMap]
  unfold inScopeNamespaces
  refine congrArg (addMissing · ("xml", Namespace.xml)) ?_
  show List.foldl _ n.declaredBindings _ = _
  congr 1
  funext bound m
  -- only the names of elements bind prefixes
  cases hk : m.kind <;> try rfl
  rcases hq : m.name? with _ | ⟨p, l, _ | uri⟩
  · simp [nameBinding?, hq]
  · simp [nameBinding?, hq]
  · by_cases huri : uri = "" <;> simp [nameBinding?, hq, huri, addMissing, Option.filter_some]

theorem lookup_names (n : Node) (p : String) :
    (n.elementsAround.filterMap nameBinding? ++ [("xml", Namespace.xml)]).lookup p =
      n.namespaceOfNames? p := by
  rw [List.lookup_append, List.lookup_eq_findSome?, ← List.head?_filterMap,
    List.filterMap_filterMap, List.head?_filterMap, namespaceOfNames?]
  congr 1
  · congr 1
    funext m
    cases m.nameBinding? with
    | none => rfl
    | some b => by_cases hb : b.1 = p <;> simp [Option.filter, hb, BEq.comm (a := p)]
  · by_cases hp : p = "xml"
    · simp [hp]
    · rw [List.lookup_cons, beq_eq_false_iff_ne.mpr hp, if_neg hp]
      rfl

/-- Every prefix is bound at most once, and to the namespace that the nearest declaration or else
the names give it. -/
theorem inScopeNamespaces_spec (h : n.kind = .element) :
    (n.inScopeNamespaces.map (·.1)).Nodup ∧
      ∀ p, n.inScopeNamespaces.lookup p = n.boundNamespace? p := by
  rw [inScopeNamespaces_eq]
  refine ⟨nodup_keys_foldl_addMissing ?_ _, fun p => ?_⟩
  · exact (nodup_namespacesInScope h).sublist (List.filter_sublist.map _)
  · rw [lookup_foldl_addMissing, lookup_declaredBindings h, lookup_names, boundNamespace?]
    cases n.nearestDeclaration? p with
    | none => rfl
    | some m => by_cases hm : m.stringValue = "" <;> simp [hm, Option.filter_some]

end Node

/-! ## 5. The functions that look up a prefix -/

namespace Library

variable {n : Node}

theorem elementArgument_of_element (call : Call) (first : Sequence) (h : n.kind = .element) :
    elementArgument call [first, [.node n]] 1 = .ok n := by
  show (match (some n).filter (·.kind == .element) with
    | some n => Except.ok n
    | none => .error (call.typeError "expected an element node")) = _
  rw [Option.filter_some, if_pos (beq_iff_eq.mpr h)]

theorem namespaceUriForPrefix_of_element (call : Call) (first : Sequence) (h : n.kind = .element) :
    namespaceUriForPrefix call [first, [.node n]] =
      .ok (atomicResult ((n.boundNamespace? (Arguments.text [first] 0)).map Atomic.anyURI)) := by
  rw [namespaceUriForPrefix, elementArgument_of_element call first h,
    ← (Node.inScopeNamespaces_spec h).2]
  rfl

theorem resolveQName_of_element (call : Call) (first : Item) (h : n.kind = .element)
    (p? : Option String) (l : String) :
    splitName (String.ofList (Text.trim first.text.toList)) = .ok (p?, l) →
    resolveQName call [[first], [.node n]] =
      match p? with
      | none => .ok [.atomic (.qname ⟨none, l, n.boundNamespace? ""⟩)]
      | some p =>
        match n.boundNamespace? p with
        | some uri => .ok [.atomic (.qname ⟨some p, l, some uri⟩)]
        | none => .error (.of .FONS0004 ("no namespace bound to prefix '" ++ p ++ "'")) := by
  intro hname
  have htext : Arguments.text? [[first], [.node n]] 0 = some first.text := rfl
  simp only [resolveQName, htext, elementArgument_of_element call [first] h, hname,
    ← (Node.inScopeNamespaces_spec h).2]
  cases p? with
  | none => rfl
  | some p => rfl

end Library

/-! ## 6. What an empty declaration undoes -/

/-- A prefix is bound at most once: to the URI of the nearest namespace node for it, unless there is
none or it is empty, else to the namespace of the nearest name, and this is what the functions find.
An empty namespace node is to take the prefix out of scope; it does so exactly if no name on the
way to the root binds the prefix, and the prefix is not `xml`. -/
theorem inScopeNamespaces_undeclare_iff {n : Node} (h : n.kind = .element) :
    (n.inScopeNamespaces.map (·.1)).Nodup ∧
    (∀ p, n.inScopeNamespaces.lookup p = n.boundNamespace? p ∧
      (n.inScopeNamespaces.lookup p = n.effectiveNamespace? p ↔
        ∀ m, n.nearestDeclaration? p = some m → m.stringValue = "" →
          n.namespaceOfNames? p = none)) ∧
    (∀ call first, Library.namespaceUriForPrefix call [first, [.node n]] =
      .ok (Library.atomicResult
        ((n.boundNamespace? (Arguments.text [first] 0)).map Atomic.anyURI))) ∧
    (∀ call (first : Item) p? l,
      splitName (String.ofList (Text.trim first.text.toList)) = .ok (p?, l) →
      Library.resolveQName call [[first], [.node n]] =
        match p? with
        | none => .ok [.atomic (.qname ⟨none, l, n.boundNamespace? ""⟩)]
        | some p =>
          match n.boundNamespace? p with
          | some uri => .ok [.atomic (.qname ⟨some p, l, some uri⟩)]
          | none => .error (.of .FONS0004 ("no namespace bound to prefix '" ++ p ++ "'"))) := by
  rcases Node.inScopeNamespaces_spec h with ⟨hnodup, hlookup⟩
  refine ⟨hnodup, fun p => ⟨hlookup p, ?_⟩, fun call first => ?_, fun call first => ?_⟩
  · rw [hlookup]
    exact Node.boundNamespace?_eq_effective_iff n p
  · exact Library.namespaceUriForPrefix_of_element call first h
  · exact Library.resolveQName_of_element call first h

namespace Node

/-- The element `<b xmlns=""/>`, which is in no namespace. -/
def undeclaring : Tree :=
  .node { kind := .element, name := some (.unqualified "b") } []
    [.leaf { kind := .namespaceNode, name := some (.unqualified "") }] []

/-- An element `<a xmlns="urn:a">` around it, in a default namespace. -/
def declaring : Tree :=
  .node { kind := .element, name := some ⟨none, "a", some "urn:a"⟩ } []
    [.leaf { kind := .namespaceNode, name := some (.unqualified ""), value := "urn:a" }]
    [undeclaring]

def declaringNode : Node := ofTree ⟨0, true⟩ declaring

def undeclaringNode : Node := declaringNode.below (.child 0) undeclaring

end Node

theorem inScopeNamespaces_undeclare_iff_sample :
    Node.declaringNode.kind = .element ∧
      Node.declaringNode.inScopeNamespaces.lookup "" =
        Node.declaringNode.effectiveNamespace? "" := by
  refine ⟨rfl, ((inScopeNamespaces_undeclare_iff rfl).2.1 "").2.mpr fun m hm he => ?_⟩
  have huri : (Node.declaringNode.nearestDeclaration? "").map Node.stringValue = some "urn:a" := by
    decide
  rw [hm, Option.map_some, he] at huri
  exact absurd huri (by decide)

/-- The nearest declaration of the default namespace is that of the inner element, and it is empty;
yet the default namespace is that of the name of the outer element, for the functions as well. -/
theorem inScopeNamespaces_undeclared_by_name :
    let call : Call := ⟨.function "resolve-QName", .initial .empty,
      .initial ⟨⟨.epoch, .midnight⟩, some .utc⟩ .utc, none, .codepoint⟩
    let element : Sequence := [.node Node.undeclaringNode]
    (Node.undeclaringNode.nearestDeclaration? "").map Node.stringValue = some "" ∧
    Node.undeclaringNode.effectiveNamespace? "" = none ∧
    Node.undeclaringNode.inScopeNamespaces.lookup "" = some "urn:a" ∧
    Library.namespaceUriForPrefix call [[.atomic (.string "")], element] =
      .ok [.atomic (.anyURI "urn:a")] ∧
    Library.resolveQName call [[.atomic (.string "_")], element] =
      .ok [.atomic (.qname ⟨none, "_", some "urn:a"⟩)] := by
  intro call element
  refine ⟨by decide, by decide, by decide, rfl, ?_⟩
  have hbound : Node.undeclaringNode.boundNamespace? "" = some "urn:a" := by decide
  have hname : splitName (String.ofList (Text.trim "_".toList)) = .ok (none, "_") := by
    have htrim : Text.trim "_".toList = ['_'] := by decide
    have hsplit : Text.splitFirst? ':' ['_'] = none := by decide
    rw [htrim]
    simp [splitName, hsplit, isNCName]
  rw [← hbound]
  exact Library.resolveQName_of_element call _ rfl none "_" hname

end XPath
