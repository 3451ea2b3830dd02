import XPath.Value.Atomic

/-!
# Trees

A tree has a root with its properties, attributes, namespace nodes and children. Trees hold no
references: a node of a tree is a place in it (`XPath.Tree.Node`).
-/

namespace XPath

inductive NodeKind where
  | document | element | attributeNode | text | comment | processingInstruction | namespaceNode
  deriving DecidableEq, Repr, Inhabited

/-- The kind as an item type. -/
def NodeKind.display : NodeKind → String
  | document => "document-node()"
  | element => "element()"
  | attributeNode => "attribute()"
  | text => "text()"
  | comment => "comment()"
  | processingInstruction => "processing-instruction()"
  | namespaceNode => "namespace-node()"

/-- The properties of a node apart from its relatives. The name of a namespace node is its prefix,
that of a processing instruction its target. -/
structure NodeInfo where
  kind : NodeKind
  name : Option QName := none
  /-- The string value of a node that has no children. -/
  value : String := ""
  /-- The value that a schema gives the node. -/
  annotation : Option Atomic := none
  baseUri : Option String := none
  documentUri : Option String := none
  /-- Whether the node is an attribute of type xs:ID. -/
  isId : Bool := false
  /-- Whether the node is an attribute of type xs:IDREFS. -/
  isIdref : Bool := false
  deriving Inhabited

/-- A tree: the properties of its root, and its attributes, namespace nodes and children. -/
inductive Tree where
  | node (info : NodeInfo) (attributes namespaces children : List Tree)
  deriving Inhabited

namespace Tree

def info : Tree → NodeInfo
  | node i _ _ _ => i

def attributes : Tree → List Tree
  | node _ a _ _ => a

def namespaces : Tree → List Tree
  | node _ _ n _ => n

def children : Tree → List Tree
  | node _ _ _ c => c

def leaf (i : NodeInfo) : Tree := node i [] [] []

mutual

/-- The number of nodes of a tree, apart from attributes and namespace nodes. -/
def size : Tree → Nat
  | node _ _ _ c => sizeOfAll c + 1

def sizeOfAll : List Tree → Nat
  | [] => 0
  | t :: r => size t + sizeOfAll r

end

theorem size_eq (t : Tree) : t.size = sizeOfAll t.children + 1 := by
  cases t with
  | node i a n c => rw [size, children]

theorem sizeOfAll_append (l r : List Tree) : sizeOfAll (l ++ r) = sizeOfAll l + sizeOfAll r := by
  induction l with
  | nil => rw [List.nil_append, sizeOfAll, Nat.zero_add]
  | cons t l ih => rw [List.cons_append, sizeOfAll, sizeOfAll, ih, Nat.add_assoc]

mutual

/-- The texts below the root of a tree, in order: its text children, and the texts below its
element children. -/
def texts : Tree → List String
  | node _ _ _ c => textsOfAll c

/-- The texts that a list of children contributes. -/
def textsOfAll : List Tree → List String
  | [] => []
  | t :: r =>
    (match t.info.kind with
      | .text => [t.info.value]
      | .element => texts t
      | _ => []) ++ textsOfAll r

end

/-- The string value: the texts below an element or a document, the value of any other node. -/
def stringValue (t : Tree) : String :=
  match t.info.kind with
  | .element | .document => String.join t.texts
  | _ => t.info.value

/-- The typed value: the annotation if there is one, else the string value as a string or as an
untyped value. -/
def typedValue (t : Tree) : List Atomic :=
  match t.info.annotation with
  | some v => [v]
  | none =>
    match t.info.kind with
    | .comment | .processingInstruction | .namespaceNode => [.string t.stringValue]
    | _ => [.untyped t.stringValue]

end Tree

end XPath
