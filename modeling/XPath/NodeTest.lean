import XPath.Tree.Axis
import XPath.Value.AtomicType

/-!
# Node tests

A step of a path selects nodes on an axis by name or by kind.
-/

namespace XPath

/-- A test for a name. After binding, the namespace of `inNamespace` is a URI. -/
inductive NameTest where
  | name (q : QName)
  | any
  | inNamespace (uri : String)
  | withLocalName (localName : String)
  deriving DecidableEq, Repr, Inhabited

/-- The name in a test for elements or attributes. -/
inductive TestedName where
  | name (q : QName)
  | any
  deriving DecidableEq, Repr, Inhabited

inductive KindTest where
  | node
  | document
  | documentOf (child : KindTest)
  | text
  | comment
  | processingInstruction (target : Option String)
  | element (name : Option TestedName) (typeName : Option QName) (nillable : Bool)
  | attributeNode (name : Option TestedName) (typeName : Option QName)
  deriving DecidableEq, Repr, Inhabited

inductive NodeTest where
  | name (t : NameTest)
  | kind (t : KindTest)
  deriving DecidableEq, Repr, Inhabited

namespace Node

def hasName (n : Node) (q : QName) : Bool := n.name?.any (·.sameName q)

/-- Whether the type annotation of the node agrees with a type name. Nodes without annotation are
untyped; elements without annotation have no simple type. -/
def hasType (n : Node) (q : QName) : Bool :=
  q.namespaceUri == some Namespace.schema &&
    match q.localName with
    | "anyType" => true
    | "anySimpleType" | "anyAtomicType" =>
      n.kind == .attributeNode || n.tree.info.annotation.isSome
    | "untyped" => n.kind == .element && n.tree.info.annotation.isNone
    | "untypedAtomic" => n.tree.info.annotation.isNone
    | l =>
      match AtomicType.ofLocalName? l, n.tree.info.annotation with
      | some t, some v => v.type.derivesFrom t
      | _, _ => false

def passesName (n : Node) : Option TestedName → Bool
  | none | some .any => true
  | some (.name q) => n.hasName q

/-- Whether the node passes a kind test. A document with a test inside has exactly one element
child, which passes that test. -/
def passesKind (n : Node) : KindTest → Bool
  | .node => true
  | .text => n.kind == .text
  | .comment => n.kind == .comment
  | .processingInstruction target =>
    n.kind == .processingInstruction &&
      target.all fun t => n.name?.any (·.localName == t)
  | .document => n.kind == .document
  | .documentOf t =>
    n.kind == .document &&
      match n.children.filter (·.kind == .element) with
      | [only] => only.passesKind t
      | _ => false
  | .element name typeName _ =>
    n.kind == .element && n.passesName name && typeName.all n.hasType
  | .attributeNode name typeName =>
    n.kind == .attributeNode && n.passesName name && typeName.all n.hasType

def passesNameTest (n : Node) (t : NameTest) : Bool :=
  n.name?.any fun q =>
    match t with
    | .name p => q.sameName p
    | .any => true
    | .inNamespace uri => q.namespaceUri.getD "" == uri
    | .withLocalName l => q.localName == l

/-- Whether a node on an axis passes a test. Name tests want the principal kind of the axis. -/
def passes (n : Node) (axis : Axis) : NodeTest → Bool
  | .kind t => n.passesKind t
  | .name t => n.kind == axis.principalKind && n.passesNameTest t

end Node

namespace KindTest

/-- The test as an item type. Type names are not shown. -/
def display : KindTest → String
  | node => "node()"
  | text => "text()"
  | comment => "comment()"
  | processingInstruction none => "processing-instruction()"
  | processingInstruction (some t) => "processing-instruction(" ++ t ++ ")"
  | document => "document-node()"
  | documentOf t => "document-node(" ++ t.display ++ ")"
  | element (some (.name q)) _ _ => "element(" ++ q.lexical ++ ")"
  | element _ _ _ => "element()"
  | attributeNode (some (.name q)) _ => "attribute(" ++ q.lexical ++ ")"
  | attributeNode _ _ => "attribute()"

end KindTest

end XPath
