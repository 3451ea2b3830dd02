import XPath.Tree.Order
import XPath.Value.Compare

/-!
# Items and sequences

An item is a node or an atomic value, and the result of every expression is a sequence of items. An
item is not told apart from the sequence of it alone.
-/

namespace XPath

/-- A node or an atomic value. -/
inductive Item where
  | node (n : Node)
  | atomic (v : Atomic)
  deriving Inhabited

abbrev Sequence := List Item

namespace Item

/-- Identity of nodes and sameness of values. -/
instance : BEq Item where
  beq
    | node m, node n => m == n
    | atomic v, atomic w => v == w
    | _, _ => false

def node? : Item → Option Node
  | node n => some n
  | atomic _ => none

def atomic? : Item → Option Atomic
  | atomic v => some v
  | node _ => none

def isNode (i : Item) : Bool := i.node?.isSome

def text : Item → String
  | node n => n.stringValue
  | atomic v => v.text

def typedValue : Item → List Atomic
  | node n => n.typedValue
  | atomic v => [v]

def boolean (b : Bool) : Item := atomic (.boolean b)

def string (s : String) : Item := atomic (.string s)

def integer (i : Int) : Item := atomic (.integer i)

end Item

namespace Sequence

def truthOfAtomic (v : Atomic) : Result Bool :=
  match v with
  | .boolean b => .ok b
  | .string s | .untyped s | .anyURI s => .ok (s != "")
  | .numeric n => .ok (!(n.isZero || n.isNaN))
  | v => .error (.of .FORG0006 ("effective boolean value not defined for " ++ v.typeName))

/-- The effective boolean value: a sequence is true if it starts with a node, an atomic value by
its type. -/
def truth (s : Sequence) : Result Bool :=
  match s with
  | [] => .ok false
  | .node _ :: _ => .ok true
  | [.atomic v] => truthOfAtomic v
  | _ =>
    .error (.of .FORG0006
      "effective boolean value not defined for a sequence of two or more atomic values")

def atomize (s : Sequence) : List Atomic := s.flatMap Item.typedValue

theorem atomize_map_atomic (vs : List Atomic) : atomize (vs.map Item.atomic) = vs := by
  rw [atomize, List.flatMap_map]
  exact List.flatMap_singleton' vs

/-- The only item, if there is one; `what` names the sequence in the error that there are more. -/
def atMostOne (s : Sequence) (what : String) : Result (Option Item) :=
  match s with
  | [] => .ok none
  | [i] => .ok (some i)
  | _ => .error (.typeError (what ++ ": expected at most one item"))

def exactlyOne (s : Sequence) (what : String) : Result Item := do
  match ← atMostOne s what with
  | some i => return i
  | none => .error (.typeError (what ++ ": expected exactly one item, got none"))

/-- The nodes of a sequence that holds nothing else. -/
def nodes (s : Sequence) : Result (List Node) :=
  s.mapM fun i =>
    match i with
    | .node n => .ok n
    | .atomic _ => .error (.typeError "expected a sequence of nodes")

def sortDistinct (s : Sequence) : Result Sequence := do
  return (← Node.sortDistinct (← nodes s)).map Item.node

end Sequence

end XPath
