import XPath.Tree.Node

/-!
# Axes

An axis leads from a node to a list of nodes. Forward axes give them in document order, reverse
axes nearest first.
-/

namespace XPath

inductive Axis where
  | child | descendant | attributes | self | descendantOrSelf | followingSibling | following
  | namespaces | parent | ancestor | precedingSibling | preceding | ancestorOrSelf
  deriving DecidableEq, Repr, Inhabited

namespace Axis

def all : List Axis :=
  [child, descendant, attributes, self, descendantOrSelf, followingSibling, following, namespaces,
   parent, ancestor, precedingSibling, preceding, ancestorOrSelf]

def name : Axis → String
  | child => "child"
  | descendant => "descendant"
  | attributes => "attribute"
  | self => "self"
  | descendantOrSelf => "descendant-or-self"
  | followingSibling => "following-sibling"
  | following => "following"
  | namespaces => "namespace"
  | parent => "parent"
  | ancestor => "ancestor"
  | precedingSibling => "preceding-sibling"
  | preceding => "preceding"
  | ancestorOrSelf => "ancestor-or-self"

def ofName? (s : String) : Option Axis := all.find? (·.name == s)

theorem ofName?_name (a : Axis) : ofName? a.name = some a := by cases a <;> decide

def isReverse : Axis → Bool
  | parent | ancestor | ancestorOrSelf | precedingSibling | preceding => true
  | _ => false

/-- The kind of node that name tests on the axis look for. -/
def principalKind : Axis → NodeKind
  | attributes => .attributeNode
  | namespaces => .namespaceNode
  | _ => .element

end Axis

namespace Node

theorem map_tree_children (n : Node) : n.children.map tree = n.tree.children := by
  apply List.ext_getElem
  · simp only [children, List.length_map, List.length_mapIdx]
  · intro i _ _
    simp only [children, List.getElem_map, List.getElem_mapIdx, below]

/-- Takes nodes off a stack and puts their children on it. -/
def walk : List Node → List Node
  | [] => []
  | n :: stack => n :: walk (n.children ++ stack)
termination_by stack => Tree.sizeOfAll (stack.map tree)
decreasing_by
  have h := Tree.size_eq n.tree
  rw [List.map_append, map_tree_children, Tree.sizeOfAll_append, List.map_cons, Tree.sizeOfAll]
  omega

/-- All nodes below the node, in document order. -/
def descendants (n : Node) : List Node := walk n.children

def descendantsOrSelf (n : Node) : List Node := n :: n.descendants

/-- Attributes and namespace nodes are not among the children of their parent. -/
def isAttached (n : Node) : Bool :=
  match n.kind with
  | .attributeNode | .namespaceNode => true
  | _ => false

/-- The children of the parent with the place of the node among them; none for attached nodes. -/
def siblings? (n : Node) : Option (List Node × Nat) :=
  if n.isAttached then none
  else do
    let p ← n.parent?
    let i ← p.children.findIdx? (· == n)
    return (p.children, i)

def followingSiblings (n : Node) : List Node :=
  match n.siblings? with
  | some (nodes, i) => nodes.drop (i + 1)
  | none => []

/-- The siblings before the node, nearest first. -/
def precedingSiblings (n : Node) : List Node :=
  match n.siblings? with
  | some (nodes, i) => (nodes.take i).reverse
  | none => []

/-- The siblings after the node and after its ancestors, nearest first, each with all below it. -/
def after (n : Node) : List Node :=
  n.ancestorsOrSelf.flatMap fun a => a.followingSiblings.flatMap descendantsOrSelf

/-- The siblings before the node and before its ancestors, nearest first, each with all below it. -/
def before (n : Node) : List Node :=
  n.ancestorsOrSelf.flatMap fun a =>
    a.precedingSiblings.flatMap fun s => s.descendantsOrSelf.reverse

/-- All that comes after the node apart from its descendants. After an attached node come the
descendants of its parent, and what follows that. -/
def following (n : Node) : List Node :=
  if n.isAttached then
    match n.parent? with
    | some p => p.descendants ++ p.after
    | none => []
  else n.after

/-- All that comes before the node apart from its ancestors, nearest first. An attached node is
preceded by what precedes its parent. -/
def preceding (n : Node) : List Node :=
  if n.isAttached then
    match n.parent? with
    | some p => p.before
    | none => []
  else n.before

def declaredPrefix (n : Node) : String := (n.name?.map (·.localName)).getD ""

/-- Keeps the first of the namespace nodes with each prefix. -/
def distinctPrefixes (seen : List String) : List Node → List Node
  | [] => []
  | n :: r =>
    if seen.contains n.declaredPrefix then distinctPrefixes seen r
    else n :: distinctPrefixes (n.declaredPrefix :: seen) r

/-- The namespace nodes in scope of an element, nearest first: the nearest declaration of each
prefix. -/
def namespacesInScope (n : Node) : List Node :=
  if n.kind == .element then
    distinctPrefixes []
      ((n.ancestorsOrSelf.filter (·.kind == .element)).flatMap (·.namespaces))
  else []

def along (n : Node) : Axis → List Node
  | .self => [n]
  | .child => n.children
  | .attributes => n.attributes
  | .namespaces => n.namespacesInScope
  | .parent => n.parent?.toList
  | .ancestor => n.ancestors
  | .ancestorOrSelf => n.ancestorsOrSelf
  | .descendant => n.descendants
  | .descendantOrSelf => n.descendantsOrSelf
  | .followingSibling => n.followingSiblings
  | .precedingSibling => n.precedingSiblings
  | .following => n.following
  | .preceding => n.preceding

/-- The namespaces in scope of an element, by prefix: those declared by namespace nodes, unless
undeclared, those of the names of the element and its ancestors, and the one of `xml`. -/
def inScopeNamespaces (n : Node) : List (String × String) :=
  let declared := (n.namespacesInScope.map fun m => (m.declaredPrefix, m.stringValue)).filter
    (·.2 != "")
  let add (bound : List (String × String)) (p uri : String) :=
    if bound.any (·.1 == p) then bound else bound ++ [(p, uri)]
  let named := n.ancestorsOrSelf.foldl (fun bound m =>
    match m.kind, m.name? with
    | .element, some ⟨p, _, some uri⟩ => if uri == "" then bound else add bound (p.getD "") uri
    | _, _ => bound) declared
  add named "xml" Namespace.xml

end Node

end XPath
