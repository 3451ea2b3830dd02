import XPath.Context
import XPath.Expr

/-!
# Binding

Binding an expression to a static context finds the namespaces of its names, and makes sure that
its variables are declared, that its functions take as many arguments as they are given, and that
its types are known. The bound expression has the shape of the expression.
-/

namespace XPath

/-- What a name stands for; the namespace of a name without prefix depends on it. -/
inductive NameRole where
  | element | attributeNode | var | function | type
  deriving DecidableEq, Repr

namespace StaticContext

variable (c : StaticContext)

def namespaceOf (p : String) : Result String :=
  match c.namespaces.resolve? p with
  | some uri => .ok uri
  | none => .error (.unboundPrefix p)

def namespaceOfRole : NameRole → Option String
  | .element | .type => c.namespaces.defaultElement
  | .function => c.functionNamespace
  | .attributeNode | .var => none

/-- A name with its namespace: that of its prefix, else the one that it already has, else the one
of its role. -/
def bindName (role : NameRole) (q : QName) : Result QName :=
  match q.pre? with
  | some p => return { q with namespaceUri := some (← c.namespaceOf p) }
  | none =>
    if q.namespaceUri.isSome then .ok q
    else .ok { q with namespaceUri := c.namespaceOfRole role }

/-! ## Types and tests -/

/-- Binds the name of a type annotation. Besides the atomic types there are three others. -/
def bindAnnotation (q : QName) : Result QName := do
  let bound ← c.bindName .type q
  let known := bound.namespaceUri == some Namespace.schema &&
    (["anyType", "untyped", "anySimpleType"].contains bound.localName ||
      (AtomicType.ofLocalName? bound.localName).isSome)
  if known then return bound else .error (.unknownType bound)

def bindAtomicType (q : QName) : Result (QName × AtomicType) := do
  let bound ← c.bindName .type q
  match AtomicType.ofName? bound.expanded with
  | some t => return (bound, t)
  | none => .error (.unknownType bound)

def bindCastTarget (t : CastTarget) : Result CastTarget := do
  let (bound, type) ← c.bindAtomicType t.type
  if type.isCastTarget then return ⟨bound, t.optional⟩ else .error (.unknownType bound)

def bindTestedName (role : NameRole) : Option TestedName → Result (Option TestedName)
  | some (.name q) => return some (.name (← c.bindName role q))
  | n => .ok n

def bindTestedType : Option QName → Result (Option QName)
  | some q => return some (← c.bindAnnotation q)
  | none => .ok none

def bindKindTest : KindTest → Result KindTest
  | .documentOf t => return .documentOf (← bindKindTest t)
  | .element name type nillable => do
    return .element (← c.bindTestedName .element name) (← c.bindTestedType type) nillable
  | .attributeNode name type => do
    return .attributeNode (← c.bindTestedName .attributeNode name) (← c.bindTestedType type)
  | t => .ok t

def roleOfAxis : Axis → NameRole
  | .attributes => .attributeNode
  | _ => .element

def bindNodeTest (axis : Axis) : NodeTest → Result NodeTest
  | .name (.name q) => return .name (.name (← c.bindName (roleOfAxis axis) q))
  | .name (.inNamespace p) => return .name (.inNamespace (← c.namespaceOf p))
  | .name t => .ok (.name t)
  | .kind t => return .kind (← c.bindKindTest t)

def bindSequenceType : SequenceType → Result SequenceType
  | .items (.kind t) o => return .items (.kind (← c.bindKindTest t)) o
  | .items (.atomic q) o => return .items (.atomic (← c.bindAtomicType q).1) o
  | t => .ok t

/-! ## Expressions -/

def bindVariable (locals : List ExpandedName) (q : QName) : Result QName := do
  let bound ← c.bindName .var q
  if locals.contains bound.expanded || (c.variableType? bound.expanded).isSome then return bound
  else .error (.undeclaredVariable bound.expanded)

/-- Binds a variable that an expression may introduce, and adds it to the local variables. -/
def bindOptionalVariable (locals : List ExpandedName) :
    Option QName → Result (Option QName × List ExpandedName)
  | none => .ok (none, locals)
  | some q => do
    let bound ← c.bindName .var q
    return (some bound, bound.expanded :: locals)

mutual

/-- Binds an expression where the given local variables are in scope. -/
def bindExpr (locals : List ExpandedName) : Expr → Result Expr
  | .literal l => .ok (.literal l)
  | .contextItem => .ok .contextItem
  | .var q => return .var (← c.bindVariable locals q)
  | .call q args => do
    let bound ← c.bindName .function q
    let _ ← c.signatures.forCall bound.expanded args.length
    return .call bound (← bindExprs locals args)
  | .sequence items => return .sequence (← bindExprs locals items)
  | .range a b => return .range (← bindExpr locals a) (← bindExpr locals b)
  | .arithmetic o a b => return .arithmetic o (← bindExpr locals a) (← bindExpr locals b)
  | .and a b => return .and (← bindExpr locals a) (← bindExpr locals b)
  | .or a b => return .or (← bindExpr locals a) (← bindExpr locals b)
  | .signed s a => return .signed s (← bindExpr locals a)
  | .generalComparison o a b =>
    return .generalComparison o (← bindExpr locals a) (← bindExpr locals b)
  | .valueComparison o a b =>
    return .valueComparison o (← bindExpr locals a) (← bindExpr locals b)
  | .nodeComparison o a b =>
    return .nodeComparison o (← bindExpr locals a) (← bindExpr locals b)
  | .path start steps => return .path start (← bindSteps locals steps)
  | .filter a ps => return .filter (← bindExpr locals a) (← bindExprs locals ps)
  | .ifThenElse a b d =>
    return .ifThenElse (← bindExpr locals a) (← bindExpr locals b) (← bindExpr locals d)
  | .forEach bs e => do
    let (bound, inner) ← bindBindings locals bs
    return .forEach bound (← bindExpr inner e)
  | .letIn bs e => do
    let (bound, inner) ← bindBindings locals bs
    return .letIn bound (← bindExpr inner e)
  | .quantified q bs e => do
    let (bound, inner) ← bindBindings locals bs
    return .quantified q bound (← bindExpr inner e)
  | .instanceOf e t => return .instanceOf (← bindExpr locals e) (← c.bindSequenceType t)
  | .treatAs e t => return .treatAs (← bindExpr locals e) (← c.bindSequenceType t)
  | .castAs e t => return .castAs (← bindExpr locals e) (← c.bindCastTarget t)
  | .castableAs e t => return .castableAs (← bindExpr locals e) (← c.bindCastTarget t)
  | .setOperation o a b => return .setOperation o (← bindExpr locals a) (← bindExpr locals b)
  | .typeswitch e cases v d => do
    let operand ← bindExpr locals e
    let bound ← bindCases locals cases
    let (boundName, inner) ← c.bindOptionalVariable locals v
    return .typeswitch operand bound boundName (← bindExpr inner d)

def bindExprs (locals : List ExpandedName) : List Expr → Result (List Expr)
  | [] => .ok []
  | e :: r => return (← bindExpr locals e) :: (← bindExprs locals r)

def bindSteps (locals : List ExpandedName) : List Step → Result (List Step)
  | [] => .ok []
  | .axis a t ps :: r => do
    let bound : Step := .axis a (← c.bindNodeTest a t) (← bindExprs locals ps)
    return bound :: (← bindSteps locals r)
  | .expr e :: r => return .expr (← bindExpr locals e) :: (← bindSteps locals r)

/-- Binds variables with their expressions, and adds them to the local variables. The expressions
may use the variables before them. -/
def bindBindings (locals : List ExpandedName) :
    List Binding → Result (List Binding × List ExpandedName)
  | [] => .ok ([], locals)
  | .mk q e :: r => do
    let value ← bindExpr locals e
    let bound ← c.bindName .var q
    let (rest, inner) ← bindBindings (bound.expanded :: locals) r
    return (.mk bound value :: rest, inner)

def bindCases (locals : List ExpandedName) : List Case → Result (List Case)
  | [] => .ok []
  | .mk v t e :: r => do
    let type ← c.bindSequenceType t
    let (boundName, inner) ← c.bindOptionalVariable locals v
    let body ← bindExpr inner e
    return .mk boundName type body :: (← bindCases locals r)

end

def bindVariableTypes : Result StaticContext := do
  let bound ← c.variableTypes.mapM fun (name, type) => return (name, ← c.bindSequenceType type)
  return { c with variableTypes := bound }

end StaticContext

end XPath
