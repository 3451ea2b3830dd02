import XPath.Function.Call
import XPath.Unicode.Case

/-!
# Functions on nodes

Names, values, URIs, languages and roots of nodes.
-/

namespace XPath

open XPath.Text

namespace Node

/-- The name of a node for the name functions. A namespace node is named by its prefix; the one of
the default namespace has no name. -/
def nameForFunctions? (n : Node) : Option QName :=
  match n.kind with
  | .element | .attributeNode | .processingInstruction => n.name?
  | .namespaceNode =>
    (n.name?.filter (·.localName != "")).map fun q => QName.unqualified q.localName
  | _ => none

/-- Whether the node has an attribute `xsi:nil` that is true. -/
def isNilled (n : Node) : Bool :=
  n.attributes.any fun a =>
    a.name?.any
        (fun q => q.localName == "nil" && q.namespaceUri == some Namespace.schemaInstance) &&
      (trim a.stringValue.toList == "true".toList || trim a.stringValue.toList == "1".toList)

/-- The value of the nearest attribute `xml:lang`. -/
def language? (n : Node) : Option String :=
  n.ancestorsOrSelf.findSome? fun m =>
    (m.attributes.find? fun a =>
      a.name?.any fun q => q.localName == "lang" && q.namespaceUri == some Namespace.xml).map
        (·.stringValue)

end Node

/-- Whether a language is the one asked for or, after a hyphen, a variety of it. Case does not
matter. -/
def languageMatches (language wanted : String) : Bool :=
  match dropStart? (Unicode.lower wanted).toList (Unicode.lower language).toList with
  | some [] => true
  | some (c :: _) => c == '-'
  | none => false

namespace Library

def node? (args : List Sequence) (i : Nat) : Option Node :=
  (Arguments.get args i).head?.bind Item.node?

def atomicResult (v : Option Atomic) : Sequence := (v.map Item.atomic).toList

def nodeName : FunctionBody := fun _ args =>
  .ok (atomicResult (((node? args 0).bind Node.nameForFunctions?).map Atomic.qname))

def nilled : FunctionBody := fun _ args =>
  match node? args 0 with
  | some n => .ok (if n.kind == .element then [.boolean n.isNilled] else [])
  | none => .ok []

def stringOf : FunctionBody := fun call args => return [.string (← call.textArgument args 0)]

def dataOf : FunctionBody := fun _ args =>
  .ok ((Arguments.get args 0).atomize.map Item.atomic)

def baseUriOf : FunctionBody := fun call args => do
  return atomicResult (((← call.nodeArgument args 0).bind Node.baseUri?).map Atomic.anyURI)

def documentUriOf : FunctionBody := fun _ args =>
  .ok (atomicResult ((((node? args 0).filter (·.kind == .document)).bind
    (·.tree.info.documentUri)).map Atomic.anyURI))

def nameOf : FunctionBody := fun call args => do
  let q := (← call.nodeArgument args 0).bind Node.nameForFunctions?
  return [.string ((q.map QName.lexical).getD "")]

def localNameOf : FunctionBody := fun call args => do
  let q := (← call.nodeArgument args 0).bind Node.nameForFunctions?
  return [.string ((q.map (·.localName)).getD "")]

def namespaceUriOf : FunctionBody := fun call args => do
  let n ← call.nodeArgument args 0
  let named := n.filter fun n => n.kind == .element || n.kind == .attributeNode
  return [.atomic (.anyURI (((named.bind Node.name?).bind (·.namespaceUri)).getD ""))]

def hasLanguage : FunctionBody := fun call args => do
  match ← call.nodeArgument args 1 with
  | none => return [.boolean false]
  | some n => return [.boolean (n.language?.any fun l => languageMatches l (Arguments.text args 0))]

def rootOf : FunctionBody := fun call args => do
  return ((← call.nodeArgument args 0).map fun n => Item.node n.root).toList

end Library

end XPath
