import XPath.Tree.Basic

/-!
# Nodes

A node is a subtree together with the way up to the root: the trees around it, innermost first,
each with the branch that leads from it toward the node. Two nodes are the same if they are at the
same place in the same tree.
-/

namespace XPath

/-- A way down from a node: to an attribute, a namespace node or a child, counted from zero. -/
inductive Branch where
  | attributeNode (i : Nat)
  | namespaceNode (i : Nat)
  | child (i : Nat)
  deriving DecidableEq, Repr, Inhabited

/-- Which tree a node belongs to. Ranked trees are ordered by their index; there is no order
between trees of which one is not ranked. -/
structure Origin where
  index : Nat
  ranked : Bool
  deriving DecidableEq, Repr, Inhabited

/-- A place in a tree. -/
structure Node where
  origin : Origin
  tree : Tree
  above : List (Tree × Branch)
  deriving Inhabited

namespace Node

/-- The root of a tree. -/
def ofTree (origin : Origin) (t : Tree) : Node := ⟨origin, t, []⟩

/-- The branches from the root down to the node. -/
def path (n : Node) : List Branch := (n.above.map (·.2)).reverse

/-- Identity of nodes. -/
instance : BEq Node := ⟨fun a b => a.origin == b.origin && a.path == b.path⟩

def kind (n : Node) : NodeKind := n.tree.info.kind

def name? (n : Node) : Option QName := n.tree.info.name

/-- The node that a branch leads to, given its subtree. -/
def below (n : Node) (b : Branch) (t : Tree) : Node := ⟨n.origin, t, (n.tree, b) :: n.above⟩

def parent? (n : Node) : Option Node :=
  match n.above with
  | [] => none
  | (t, _) :: above => some ⟨n.origin, t, above⟩

def children (n : Node) : List Node :=
  n.tree.children.mapIdx fun i t => n.below (.child i) t

def attributes (n : Node) : List Node :=
  n.tree.attributes.mapIdx fun i t => n.below (.attributeNode i) t

def namespaces (n : Node) : List Node :=
  n.tree.namespaces.mapIdx fun i t => n.below (.namespaceNode i) t

/-- The nodes around a place, nearest first. -/
def nodesAbove (origin : Origin) : List (Tree × Branch) → List Node
  | [] => []
  | (t, _) :: above => ⟨origin, t, above⟩ :: nodesAbove origin above

def ancestors (n : Node) : List Node := nodesAbove n.origin n.above

def ancestorsOrSelf (n : Node) : List Node := n :: n.ancestors

def root (n : Node) : Node := n.ancestors.getLastD n

def stringValue (n : Node) : String := n.tree.stringValue

def typedValue (n : Node) : List Atomic := n.tree.typedValue

/-- The base URI of the nearest node that has one. -/
def baseUri? (n : Node) : Option String :=
  n.ancestorsOrSelf.findSome? (·.tree.info.baseUri)

/-- Whether the node is an ID: by its type, or as an attribute `xml:id`. -/
def isId (n : Node) : Bool :=
  n.tree.info.isId ||
    (n.kind == .attributeNode &&
      n.name?.any fun q => q.localName == "id" && q.namespaceUri == some Namespace.xml)

def isIdref (n : Node) : Bool := n.tree.info.isIdref

/-- The URI of the nearest namespace node with a prefix. -/
def lookupNamespace? (n : Node) (p : String) : Option String :=
  n.ancestorsOrSelf.findSome? fun m =>
    (m.tree.namespaces.find? fun t => t.info.name.any (·.localName == p)).map (·.info.value)

end Node

end XPath
