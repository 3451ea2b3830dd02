import XPath.SequenceType
import XPath.Value.Arithmetic

/-!
# Expressions

The trees of XPath 2.0 expressions. Names are lexical until an expression is bound to a static
context; a bound expression has the same shape, with the namespaces of its names filled in.
-/

namespace XPath

open XPath.Number

inductive Literal where
  | integer (i : Int)
  | decimal (d : Decimal)
  | double (x : Float)
  | string (s : String)
  | boolean (b : Bool)
  | anyURI (s : String)
  | untyped (s : String)
  | empty
  deriving Inhabited

inductive NodeComparison where
  | is | precedes | follows
  deriving DecidableEq, Repr, Inhabited

inductive SetOp where
  | union | intersect | except
  deriving DecidableEq, Repr, Inhabited

/-- Whether one choice of the variables is enough, or all are asked for. -/
inductive Quantifier where
  | some | every
  deriving DecidableEq, Repr, Inhabited

/-- Where a path starts: at the root, at all nodes of the tree, or at the context item. -/
inductive PathStart where
  | root | rootDescendant | relative
  deriving DecidableEq, Repr, Inhabited

mutual

inductive Expr where
  | literal (l : Literal)
  | var (name : QName)
  | contextItem
  | call (name : QName) (args : List Expr)
  | sequence (items : List Expr)
  | range (first last : Expr)
  | arithmetic (op : ArithmeticOp) (left right : Expr)
  | and (left right : Expr)
  | or (left right : Expr)
  | signed (sign : Sign) (operand : Expr)
  | generalComparison (op : Comparison) (left right : Expr)
  | valueComparison (op : Comparison) (left right : Expr)
  | nodeComparison (op : NodeComparison) (left right : Expr)
  | path (start : PathStart) (steps : List Step)
  | filter (input : Expr) (predicates : List Expr)
  | ifThenElse (condition thenBranch elseBranch : Expr)
  | forEach (bindings : List Binding) (body : Expr)
  | letIn (bindings : List Binding) (body : Expr)
  | quantified (quantifier : Quantifier) (bindings : List Binding) (condition : Expr)
  | instanceOf (operand : Expr) (type : SequenceType)
  | treatAs (operand : Expr) (type : SequenceType)
  | castAs (operand : Expr) (target : CastTarget)
  | castableAs (operand : Expr) (target : CastTarget)
  | setOperation (op : SetOp) (left right : Expr)
  | typeswitch (operand : Expr) (cases : List Case) (boundName : Option QName) (otherwise : Expr)
  deriving Inhabited

/-- A step of a path: along an axis, or any expression. -/
inductive Step where
  | axis (axis : Axis) (test : NodeTest) (predicates : List Expr)
  | expr (e : Expr)
  deriving Inhabited

/-- A variable with the expression for its value or its range. -/
inductive Binding where
  | mk (name : QName) (value : Expr)
  deriving Inhabited

/-- A case of a typeswitch: it is taken for operands of its type, which its variable then holds. -/
inductive Case where
  | mk (boundName : Option QName) (type : SequenceType) (body : Expr)
  deriving Inhabited

end

namespace Literal

def value : Literal → Sequence
  | integer i => [.atomic (.integer i)]
  | decimal d => [.atomic (.decimal d)]
  | double x => [.atomic (.double x)]
  | string s => [.atomic (.string s)]
  | boolean b => [.atomic (.boolean b)]
  | anyURI s => [.atomic (.anyURI s)]
  | untyped s => [.atomic (.untyped s)]
  | empty => []

/-- Constants of one kind with the same value; a NaN differs from itself. -/
instance : BEq Literal where
  beq
    | integer i, integer j => i == j
    | decimal d, decimal e => d == e
    | double x, double y => x == y
    | string s, string t | anyURI s, anyURI t | untyped s, untyped t => s == t
    | boolean b, boolean c => b == c
    | empty, empty => true
    | _, _ => false

end Literal

/-! ## Sameness of expressions -/

mutual

/-- Whether two expressions are the same tree, with the same names and constants. -/
def Expr.same : Expr → Expr → Bool
  | .literal l, .literal m => l == m
  | .var n, .var m => n == m
  | .contextItem, .contextItem => true
  | .call n as, .call m bs => n == m && sameExprs as bs
  | .sequence as, .sequence bs => sameExprs as bs
  | .range a b, .range c d => a.same c && b.same d
  | .arithmetic o a b, .arithmetic p c d => o == p && a.same c && b.same d
  | .and a b, .and c d => a.same c && b.same d
  | .or a b, .or c d => a.same c && b.same d
  | .signed s a, .signed t b => s == t && a.same b
  | .generalComparison o a b, .generalComparison p c d => o == p && a.same c && b.same d
  | .valueComparison o a b, .valueComparison p c d => o == p && a.same c && b.same d
  | .nodeComparison o a b, .nodeComparison p c d => o == p && a.same c && b.same d
  | .path s as, .path t bs => s == t && sameSteps as bs
  | .filter a ps, .filter b qs => a.same b && sameExprs ps qs
  | .ifThenElse a b c, .ifThenElse d e f => a.same d && b.same e && c.same f
  | .forEach as a, .forEach bs b => sameBindings as bs && a.same b
  | .letIn as a, .letIn bs b => sameBindings as bs && a.same b
  | .quantified q as a, .quantified r bs b => q == r && sameBindings as bs && a.same b
  | .instanceOf a t, .instanceOf b u => a.same b && t == u
  | .treatAs a t, .treatAs b u => a.same b && t == u
  | .castAs a t, .castAs b u => a.same b && t == u
  | .castableAs a t, .castableAs b u => a.same b && t == u
  | .setOperation o a b, .setOperation p c d => o == p && a.same c && b.same d
  | .typeswitch a cs v d, .typeswitch b ds w e => a.same b && sameCases cs ds && v == w && d.same e
  | _, _ => false

def sameExprs : List Expr → List Expr → Bool
  | [], [] => true
  | a :: as, b :: bs => a.same b && sameExprs as bs
  | _, _ => false

def sameSteps : List Step → List Step → Bool
  | [], [] => true
  | .axis a t ps :: as, .axis b u qs :: bs => a == b && t == u && sameExprs ps qs && sameSteps as bs
  | .expr a :: as, .expr b :: bs => a.same b && sameSteps as bs
  | _, _ => false

def sameBindings : List Binding → List Binding → Bool
  | [], [] => true
  | .mk n a :: as, .mk m b :: bs => n == m && a.same b && sameBindings as bs
  | _, _ => false

def sameCases : List Case → List Case → Bool
  | [], [] => true
  | .mk v t a :: as, .mk w u b :: bs => v == w && t == u && a.same b && sameCases as bs
  | _, _ => false

end

instance : BEq Expr := ⟨Expr.same⟩

end XPath
