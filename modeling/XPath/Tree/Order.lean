import XPath.Error
import XPath.Tree.Node

/-!
# Document order

A node comes before its attributes, these before its namespace nodes, these before its children,
and all that is below a child before the next child. Two nodes of one tree are compared by the
ways that lead to them from the root. Ranked trees follow each other.
-/

namespace XPath

def Error.noDocumentOrder : Error :=
  .of .FOER0000 "document order requires adapter: nodes from different roots"

namespace Node

/-! ## Comparing two nodes -/

def wayFromRoot (n : Node) : List Node := n.ancestorsOrSelf.reverse

/-- The attributes, the namespace nodes and the children, in this order. -/
def inner (n : Node) : List Node := n.attributes ++ n.namespaces ++ n.children

/-- The order in which two nodes stand directly below a node. -/
def compareInner (p a b : Node) : Ordering :=
  match p.inner.findIdx? (· == a), p.inner.findIdx? (· == b) with
  | some i, some j => Ord.compare i j
  | _, _ => .eq

/-- Follows two ways up to where they part; `last?` is the last node on both. A way that ends
comes first. -/
def compareWays (last? : Option Node) : List Node → List Node → Result Ordering
  | [], _ :: _ => .ok .lt
  | _, [] => .ok .gt
  | a :: as, b :: bs =>
    if a == b then compareWays (some a) as bs
    else
      match last? with
      | some p => .ok (p.compareInner a b)
      | none => .error .noDocumentOrder

def compareByAncestry (a b : Node) : Result Ordering :=
  if a == b then .ok .eq else compareWays none a.wayFromRoot b.wayFromRoot

def compare (a b : Node) : Result Ordering :=
  if a.origin.ranked && b.origin.ranked && a.root != b.root then
    .ok (Ord.compare a.origin.index b.origin.index)
  else compareByAncestry a b

/-! ## Sorting nodes -/

/-- Where a node belongs among sorted nodes, between the places `lo` and `hi`; none if it is there
already. -/
def place? (sorted : Array Node) (n : Node) (lo hi : Nat) (h : hi ≤ sorted.size) :
    Result (Option Nat) :=
  if hlt : lo < hi then do
    match ← sorted[lo + (hi - lo) / 2].compare n with
    | .lt => place? sorted n (lo + (hi - lo) / 2 + 1) hi h
    | .gt => place? sorted n lo (lo + (hi - lo) / 2) (by omega)
    | .eq => return none
  else return some lo
termination_by hi - lo

/-- Inserts a node among sorted nodes, unless it is there already. A node that comes after them all
takes one comparison. -/
def insertDistinct (sorted : Array Node) (n : Node) : Result (Array Node) :=
  match sorted.back? with
  | none => .ok #[n]
  | some last => do
    match ← last.compare n with
    | .lt => return sorted.push n
    | .eq => return sorted
    | .gt =>
      match ← place? sorted n 0 (sorted.size - 1) (Nat.sub_le ..) with
      | some i => return sorted.insertIdxIfInBounds i n
      | none => return sorted

def sortDistinct (nodes : List Node) : Result (List Node) :=
  match nodes with
  | [] | [_] => .ok nodes
  | _ => (nodes.foldlM insertDistinct #[]).map Array.toList

end Node

end XPath
