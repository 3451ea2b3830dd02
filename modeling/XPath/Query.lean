import XPath.Bind
import XPath.Eval
import XPath.Library.Table

/-!
# Queries

A query is an expression that is bound to a static context. It can be evaluated in any number of
dynamic contexts.
-/

namespace XPath

/-- A bound expression, with the context that it is bound to. -/
structure Query where
  expr : Expr
  context : StaticContext

def Error.variableType (name : ExpandedName) (e : Error) : Error :=
  .typeError ("variable $" ++ name.display ++ ": " ++ e.message)

namespace Query

def ofExpr (e : Expr) (c : StaticContext) : Result Query := do
  let bound ← c.bindExpr [] e
  return ⟨bound, ← c.bindVariableTypes⟩

/-- The collation of an evaluation: that of the dynamic context, else that of the static one. -/
def defaultCollation (c : StaticContext) (d : DynamicContext) : Result Collation :=
  match d.defaultCollation.orElse fun _ => c.defaultCollation with
  | none => .ok d.collations.codepoint
  | some u =>
    match d.collations.get? u with
    | some collation => .ok collation
    | none => .error (.of .FOCH0002 ("default collation not available: " ++ u))

/-- Fails if a variable has a value that does not have its declared type. -/
def checkVariables (c : StaticContext) (d : DynamicContext) : Result Unit :=
  c.variableTypes.forM fun (name, type) =>
    match d.value? name with
    | some value => (type.check value).mapError (Error.variableType name)
    | none => .ok ()

def environment (q : Query) (d : DynamicContext) (functions : Functions) : Result Environment :=
  return ⟨q.context, d, functions, ← defaultCollation q.context d⟩

/-- The scope in which an evaluation starts: the context item is in focus, alone. -/
def initialScope (d : DynamicContext) : Scope :=
  ⟨d.contextItem.map fun item => ⟨item, 1, 1⟩, []⟩

def evaluate (q : Query) (d : DynamicContext) (functions : Functions) : Result Sequence := do
  let env ← q.environment d functions
  checkVariables q.context d
  q.expr.eval env (initialScope d)

/-- The text of the first item of the value of a query; it is empty if there is none. -/
def evaluateToString (q : Query) (d : DynamicContext) (functions : Functions) : Result String := do
  return ((← q.evaluate d functions).head?.map Item.text).getD ""

end Query

/-- Binds an expression to the initial context with all variables of the dynamic context declared,
and evaluates it. -/
def Expr.evaluate (e : Expr) (d : DynamicContext) (functions : Functions) : Result Sequence := do
  let c := d.variableValues.foldl (fun c v => c.declare v.1 .any) (.initial Library.signatures)
  (← Query.ofExpr e c).evaluate d functions

end XPath
