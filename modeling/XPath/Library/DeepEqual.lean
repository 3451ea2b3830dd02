import XPath.Sequence

/-!
# Deep equality

Two sequences are deep-equal if their items are, one by one. Nodes are compared by kind, name,
attributes and children; comments and processing instructions among the children do not count, nor
does the order of attributes. Texts are compared under a collation.
-/

namespace XPath

/-- What deep equality depends on besides the items. -/
structure DeepEquality where
  collation : Collation
  timeZone : TimeZone

namespace DeepEquality

variable (d : DeepEquality)

/-- Equality of two values; a NaN is equal to a NaN. -/
def values (v w : Atomic) : Bool := v.equal w d.collation d.timeZone true

def valueLists (vs ws : List Atomic) : Bool :=
  vs.length == ws.length && (vs.zip ws).all fun (v, w) => d.values v w

def names (t u : Tree) : Bool := t.info.name.map QName.expanded == u.info.name.map QName.expanded

def attributes (t u : Tree) : Bool :=
  names t u && d.valueLists t.typedValue u.typedValue

/-- Whether two elements have as many attributes, and each of the first is equal to one of the
second. -/
def attributeLists (ts us : List Tree) : Bool :=
  ts.length == us.length && ts.all fun t => us.any (d.attributes t)

def isSignificant (t : Tree) : Bool :=
  t.info.kind != .comment && t.info.kind != .processingInstruction

mutual

def trees : Tree → Tree → Bool
  | .node i as ns cs, u =>
    i.kind == u.info.kind &&
      match i.kind with
      | .document => children cs (u.children.filter isSignificant)
      | .element =>
        names (.node i as ns cs) u && d.attributeLists as u.attributes &&
          match i.annotation, u.info.annotation with
          | some v, some w => d.values v w
          | _, _ => children cs (u.children.filter isSignificant)
      | .attributeNode => d.attributes (.node i as ns cs) u
      | .processingInstruction | .namespaceNode =>
        names (.node i as ns cs) u && i.value == u.info.value
      | .text | .comment => d.collation.equal i.value u.info.value

/-- Equality of the significant ones of a list of children with a list of trees. -/
def children : List Tree → List Tree → Bool
  | [], us => us.isEmpty
  | t :: ts, us =>
    if isSignificant t then
      match us with
      | [] => false
      | u :: us => trees t u && children ts us
    else children ts us

end

def items : Item → Item → Bool
  | .atomic v, .atomic w => d.values v w
  | .node m, .node n => d.trees m.tree n.tree
  | _, _ => false

def sequences (s t : Sequence) : Bool :=
  s.length == t.length && (s.zip t).all fun (i, j) => d.items i j

end DeepEquality

end XPath
