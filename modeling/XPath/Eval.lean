import XPath.Expr
import XPath.Function.Arguments
import XPath.Function.Call

/-!
# Evaluation

A bound expression evaluates to a sequence or to an error, given an environment, which stays the
same throughout, and a scope: the focus and the local variables. Evaluation is a recursion on the
expression.
-/

namespace XPath

structure Environment where
  static : StaticContext
  dynamic : DynamicContext
  functions : Functions
  collation : Collation

/-- The focus and the local variables, innermost first. -/
structure Scope where
  focus : Option Focus
  locals : List (ExpandedName × Sequence)

namespace Scope

def bind (s : Scope) (name : QName) (value : Sequence) : Scope :=
  { s with locals := (name.expanded, value) :: s.locals }

def withFocus (s : Scope) (f : Focus) : Scope := { s with focus := some f }

def contextItem (s : Scope) : Result Item :=
  match s.focus with
  | some f => .ok f.item
  | none => .error .noContextItem

end Scope

/-! ## Operands -/

namespace Operand

/-- The only value of an operand, if there is one; `message` says that there are more. -/
def single (message : String) (s : Sequence) : Result (Option Atomic) :=
  match s.atomize with
  | [] => .ok none
  | [v] => .ok (some v)
  | _ => .error (.typeError message)

/-- The value of an operand of a sign or an arithmetic operator; an untyped one is read as a
double. -/
def ofArithmetic (what : String) (s : Sequence) : Result (Option Atomic) := do
  match ← single (what ++ " operand must be a single atomic value") s with
  | some (.untyped t) => return some (← Atomic.cast (.untyped t) .double none)
  | v => return v

/-- The value of an operand of a value comparison; an untyped one is a string. -/
def ofComparison (s : Sequence) : Result (Option Atomic) := do
  match ← single "value comparison operand must be a single atomic value" s with
  | some (.untyped t) => return some (.string t)
  | v => return v

/-- The value of an operand of a range; an untyped one is read as an integer. -/
def ofRange (s : Sequence) : Result (Option Int) := do
  let v ← match ← single "range operand must be a single atomic value" s with
    | some (.untyped t) => pure (some (← Atomic.cast (.untyped t) .integer none))
    | v => pure v
  match v with
  | none => return none
  | some (.numeric (.integer i)) => return some i
  | some v => .error (.typeError ("range bound must be xs:integer, got " ++ v.typeName))

def ofNodeComparison (s : Sequence) : Result (Option Node) := do
  match ← Sequence.atMostOne s "node comparison" with
  | none => return none
  | some (.node n) => return some n
  | some (.atomic _) => .error (.typeError "node comparison operand is not a node")

def ofSetOperation (op : SetOp) (s : Sequence) : Result (List Node) :=
  let name := match op with
    | .union => "Union"
    | .intersect => "Intersect"
    | .except => "Except"
  s.mapM fun
    | .node n => .ok n
    | .atomic v =>
      .error (.typeError (name ++ " operand contains an atomic value of type " ++ v.typeName))

end Operand

/-! ## Operators on values -/

def integerRange (first last : Int) : Sequence :=
  (List.range (last + 1 - first).toNat).map fun (k : Nat) => .integer (first + k)

def NodeComparison.apply (op : NodeComparison) (m n : Node) : Result Bool :=
  match op with
  | .is => .ok (m == n)
  | .precedes => (m.compare n).map (·.isLT)
  | .follows => (m.compare n).map (·.isGT)

/-- The nodes of the result, in document order and each once. -/
def SetOp.apply (op : SetOp) (ms ns : List Node) : Result (List Node) :=
  Node.sortDistinct
    (match op with
    | .union => ms ++ ns
    | .intersect => ms.filter ns.contains
    | .except => ms.filter (!ns.contains ·))

/-- Whether the value of a predicate selects the item at a position: a number selects its
position, any other value by its effective boolean value. -/
def selects (value : Sequence) (position : Nat) : Result Bool :=
  match value with
  | [.atomic (.numeric n)] => do
    return (← n.compare (.integer position)) == some .eq
  | _ => Sequence.truth value

def itemAt (s : Sequence) (position : Int) : Sequence :=
  if position ≥ 1 then s[(position - 1).toNat]?.toList else []

/-- Puts the nodes that a step gives in document order, each once. Values stay as they are, but
they may not be mixed with nodes. -/
def stepResult (s : Sequence) : Result Sequence :=
  if s.all Item.isNode then Sequence.sortDistinct s
  else if s.any Item.isNode then
    .error (.of .XPTY0018 "path step result mixes nodes and atomic values")
  else .ok s

def documentOfContext (item : Item) : Result Node :=
  match item with
  | .atomic _ => .error (.of .XPDY0050 "'/' requires the context item to be a node")
  | .node n =>
    if n.root.kind == .document then .ok n.root
    else .error (.of .XPDY0050 "root of the context node is not a document node")

def stepOrigin (item : Item) : Result Node :=
  match item with
  | .node n => .ok n
  | .atomic v =>
    .error (.of .XPTY0020 ("axis step requires a node context item, got " ++ v.typeName))

def CastTarget.atomicType (t : CastTarget) : Result AtomicType :=
  match AtomicType.ofName? t.type.expanded with
  | some a => .ok a
  | none => .error (.unknownType t.type)

/-- Casts the only value of a sequence; an empty sequence stays empty if it may. -/
def castSequence (s : Sequence) (type : AtomicType) (optional : Bool) (scope : Namespaces) :
    Result Sequence := do
  match s.atomize with
  | [v] => return [.atomic (← v.cast type (some scope))]
  | [] =>
    if optional then return []
    else .error (.typeError ("cannot cast empty sequence to " ++ type.display))
  | _ => .error (.typeError "cast operand must be a single atomic value")

def castableSequence (s : Sequence) (type : AtomicType) (optional : Bool) (scope : Namespaces) :
    Bool :=
  match s.atomize with
  | [v] => v.castable type (some scope)
  | [] => optional
  | _ => false

namespace Environment

variable (env : Environment)

def lookup (scope : Scope) (q : QName) : Result Sequence :=
  match scope.locals.lookup q.expanded with
  | some value => .ok value
  | none =>
    match env.dynamic.value? q.expanded with
    | some value => .ok value
    | none =>
      if (env.static.variableType? q.expanded).isSome then
        .error (.of .XPDY0002 ("no value supplied for variable $" ++ q.expanded.display))
      else .error (.undeclaredVariable q.expanded)

/-- Calls a function: its arguments are converted by its signature, if there is one. -/
def call (scope : Scope) (q : QName) (args : List Sequence) : Result Sequence := do
  let converted ← match env.static.signatures.forCall q.expanded args.length with
    | .ok signature => signature.convertArguments args
    | .error _ => .ok args
  let (_, body) ← env.functions.mostSpecific q.expanded args.length
  body ⟨q.expanded, env.static, env.dynamic, scope.focus, env.collation⟩ converted

end Environment

/-! ## Expressions -/

def forEachFocus {α : Type} (s : Sequence) (f : Focus → Result α) : Result (List α) :=
  (s.zipIdx 1).mapM fun (item, i) => f ⟨item, i, s.length⟩

mutual

/-- The value of an expression. The first step of a relative path is taken in the scope of the path,
and what it gives keeps its order. -/
def Expr.eval (env : Environment) (scope : Scope) : Expr → Result Sequence
  | .literal l => .ok l.value
  | .var q => env.lookup scope q
  | .contextItem => return [← scope.contextItem]
  | .call q args => do env.call scope q (← evalAll env scope args)
  | .sequence items => return (← evalAll env scope items).flatten
  | .range a b => do
    match ← Operand.ofRange (← a.eval env scope), ← Operand.ofRange (← b.eval env scope) with
    | some first, some last => return integerRange first last
    | _, _ => return []
  | .and a b => do
    if ← Sequence.truth (← a.eval env scope) then
      return [.boolean (← Sequence.truth (← b.eval env scope))]
    else return [.boolean false]
  | .or a b => do
    if ← Sequence.truth (← a.eval env scope) then return [.boolean true]
    else return [.boolean (← Sequence.truth (← b.eval env scope))]
  | .arithmetic op a b => do
    let v ← Operand.ofArithmetic "arithmetic" (← a.eval env scope)
    let w ← Operand.ofArithmetic "arithmetic" (← b.eval env scope)
    match v, w with
    | some v, some w => return [.atomic (← Atomic.arithmetic op v w env.dynamic.timeZone)]
    | _, _ => return []
  | .signed sign a => do
    match ← Operand.ofArithmetic "unary" (← a.eval env scope) with
    | some v => return [.atomic (← Atomic.signed sign v)]
    | none => return []
  | .generalComparison op a b => do
    let vs := (← a.eval env scope).atomize
    let ws := (← b.eval env scope).atomize
    return [.boolean (← Atomic.compareSome op vs ws env.collation env.dynamic.timeZone)]
  | .valueComparison op a b => do
    let v ← Operand.ofComparison (← a.eval env scope)
    let w ← Operand.ofComparison (← b.eval env scope)
    match v, w with
    | some v, some w =>
      return [.boolean (← Atomic.compare op v w env.collation env.dynamic.timeZone)]
    | _, _ => return []
  | .nodeComparison op a b => do
    let m ← Operand.ofNodeComparison (← a.eval env scope)
    let n ← Operand.ofNodeComparison (← b.eval env scope)
    match m, n with
    | some m, some n => return [.boolean (← op.apply m n)]
    | _, _ => return []
  | .path .relative [] => .ok []
  | .path .relative (step :: r) => do evalSteps env scope r (← evalStep env scope step)
  | .path .root steps => do
    let root ← documentOfContext (← scope.contextItem)
    evalSteps env scope steps [.node root]
  | .path .rootDescendant steps => do
    let root ← documentOfContext (← scope.contextItem)
    evalSteps env scope steps (root.descendantsOrSelf.map Item.node)
  | .filter a ps => do evalPredicates env scope ps (← a.eval env scope)
  | .ifThenElse a b c => do
    if ← Sequence.truth (← a.eval env scope) then b.eval env scope else c.eval env scope
  | .forEach bs e => evalFor env scope bs fun inner => e.eval env inner
  | .letIn bs e => evalLet env scope bs fun inner => e.eval env inner
  | .quantified q bs e => do
    return [.boolean (← evalQuantified env scope q bs fun inner => do
      Sequence.truth (← e.eval env inner))]
  | .instanceOf e t => return [.boolean (t.hasSequence (← e.eval env scope))]
  | .treatAs e t => do
    let s ← e.eval env scope
    if t.hasSequence s then return s
    else .error (.of .XPDY0050 ("treat as " ++ t.display ++ ": value does not match"))
  | .castAs e t => do
    let type ← t.atomicType
    castSequence (← e.eval env scope) type t.optional env.static.namespaces
  | .castableAs e t => do
    let type ← t.atomicType
    let s ← e.eval env scope
    return [.boolean (castableSequence s type t.optional env.static.namespaces)]
  | .setOperation op a b => do
    let s ← a.eval env scope
    let t ← b.eval env scope
    let ms ← Operand.ofSetOperation op s
    let ns ← Operand.ofSetOperation op t
    return (← op.apply ms ns).map Item.node
  | .typeswitch e cases v d => do
    let value ← e.eval env scope
    evalCases env scope value cases fun _ =>
      match v with
      | some q => d.eval env (scope.bind q value)
      | none => d.eval env scope

def evalAll (env : Environment) (scope : Scope) : List Expr → Result (List Sequence)
  | [] => .ok []
  | e :: r => return (← e.eval env scope) :: (← evalAll env scope r)

/-- Filters a sequence by each predicate in turn. A predicate is evaluated with each item of the
sequence that is left in focus; a constant integer takes the item at its position. -/
def evalPredicates (env : Environment) (scope : Scope) : List Expr → Sequence → Result Sequence
  | [], s => .ok s
  | .literal (.integer i) :: ps, s => evalPredicates env scope ps (itemAt s i)
  | p :: ps, s => do
    let kept ← forEachFocus s fun f => do
      return if ← selects (← p.eval env (scope.withFocus f)) f.position then [f.item] else []
    evalPredicates env scope ps kept.flatten

/-- Takes the steps of a path one after the other, each from every node that the one before has
led to. -/
def evalSteps (env : Environment) (scope : Scope) : List Step → Sequence → Result Sequence
  | [], s => .ok s
  | step :: r, s => do
    let results ← forEachFocus s fun f =>
      if f.item.isNode then evalStep env (scope.withFocus f) step
      else
        .error (.of .XPTY0019 "path step applied to a sequence containing atomic values")
    evalSteps env scope r (← stepResult results.flatten)

/-- Takes a step from the context item. Predicates count along the axis; then the nodes of a reverse
axis are put in document order. -/
def evalStep (env : Environment) (scope : Scope) : Step → Result Sequence
  | .expr e => e.eval env scope
  | .axis axis test ps => do
    let origin ← stepOrigin (← scope.contextItem)
    let candidates := (origin.along axis).filter (·.passes axis test)
    let selected ← evalPredicates env scope ps (candidates.map Item.node)
    return if axis.isReverse then selected.reverse else selected

/-- Evaluates for each choice of the variables, the last of which varies fastest. -/
def evalFor (env : Environment) (scope : Scope) :
    List Binding → (Scope → Result Sequence) → Result Sequence
  | [], body => body scope
  | .mk q e :: r, body => do
    let results ← (← e.eval env scope).mapM fun item => evalFor env (scope.bind q [item]) r body
    return results.flatten

def evalLet (env : Environment) (scope : Scope) :
    List Binding → (Scope → Result Sequence) → Result Sequence
  | [], body => body scope
  | .mk q e :: r, body => do evalLet env (scope.bind q (← e.eval env scope)) r body

/-- Whether some choice of the variables, or every one, meets a condition. The choices are tried in
order, up to the first that decides. -/
def evalQuantified (env : Environment) (scope : Scope) (q : Quantifier) :
    List Binding → (Scope → Result Bool) → Result Bool
  | [], condition => condition scope
  | .mk v e :: r, condition => do
    let s ← e.eval env scope
    match q with
    | .some => s.anyM fun item => evalQuantified env (scope.bind v [item]) q r condition
    | .every => s.allM fun item => evalQuantified env (scope.bind v [item]) q r condition

def evalCases (env : Environment) (scope : Scope) (value : Sequence) :
    List Case → (Unit → Result Sequence) → Result Sequence
  | [], otherwise => otherwise ()
  | .mk v t e :: r, otherwise =>
    if t.hasSequence value then
      match v with
      | some q => e.eval env (scope.bind q value)
      | none => e.eval env scope
    else evalCases env scope value r otherwise

end

end XPath
