import XPath.Function.Call
import XPath.Value.Arithmetic

/-!
# Aggregates

The sum, the average, and the greatest and the least of a sequence of values. Untyped values count
as doubles. Numbers are added to numbers only, durations to durations of their type.
-/

namespace XPath

inductive Summable where
  | number | yearMonth | dayTime
  deriving DecidableEq, Repr

def Error.aggregate (function : String) (v : Atomic) : Error :=
  .of .FORG0006 (function ++ ": unsupported or mixed value type " ++ v.typeName)

namespace Aggregate

/-- The values of a sequence, with doubles for those that are untyped. -/
def input (s : Sequence) : Result (List Atomic) :=
  s.atomize.mapM fun v => if v.type == .untypedAtomic then v.cast .double none else .ok v

def summable? : Atomic → Option Summable
  | .numeric _ => some .number
  | .yearMonthDuration _ => some .yearMonth
  | .dayTimeDuration _ => some .dayTime
  | _ => none

/-- Fails unless the values can be added, and are of one kind. -/
def checkSummable (function : String) (values : List Atomic) : Result Unit :=
  match values with
  | [] => .ok ()
  | v :: r =>
    match summable? v, r.find? fun w => summable? w != summable? v with
    | none, _ => .error (.aggregate function v)
    | _, some w => .error (.aggregate function w)
    | some _, none => .ok ()

def total (values : List Atomic) (tz : TimeZone) : Result (Option Atomic) :=
  match values with
  | [] => .ok none
  | v :: r => (r.foldlM (fun sum w => Atomic.arithmetic .add sum w tz) v).map some

def unifyNumbers (values : List Atomic) : Result (List Atomic) :=
  match values.mapM Atomic.numeric? with
  | none => .ok values
  | some numbers =>
    let rank := (numbers.map Numeric.rank).foldl max 0
    numbers.mapM fun n => (n.promote rank).map Atomic.numeric

def unifyStrings (values : List Atomic) : List Atomic :=
  if values.any (·.type == .string) then
    values.map fun
      | .anyURI s => .string s
      | v => v
  else values

/-- Values that do not compare cannot be aggregated. -/
def orAggregate {α : Type} (function : String) (v : Atomic) (r : Result α) : Result α :=
  r.mapError fun e => if e.errorCode == .XPTY0004 then .aggregate function v else e

def better (function : String) (op : Comparison) (c : Collation) (tz : TimeZone) (best v : Atomic) :
    Result Atomic :=
  if v.numeric?.any Numeric.isNaN then .ok v
  else do
    return if ← orAggregate function v (Atomic.compare op v best c tz) then v else best

/-- The first of the values in the order of `op`, or a NaN if there is one. -/
def extreme (function : String) (op : Comparison) (values : List Atomic) (c : Collation)
    (tz : TimeZone) : Result (Option Atomic) := do
  match unifyStrings (← unifyNumbers values) with
  | [] => return none
  | v :: r =>
    let _ ← orAggregate function v (Atomic.compare .lt v v c tz)
    return some (← r.foldlM (better function op c tz) v)

end Aggregate

namespace Library

def sumOf : FunctionBody := fun call args => do
  let values ← Aggregate.input (Arguments.get args 0)
  Aggregate.checkSummable "fn:sum" values
  match ← Aggregate.total values call.dynamic.timeZone with
  | some v => return [.atomic v]
  | none => return args.getD 1 [.integer 0]

def averageOf : FunctionBody := fun call args => do
  let values ← Aggregate.input (Arguments.get args 0)
  Aggregate.checkSummable "fn:avg" values
  match ← Aggregate.total values call.dynamic.timeZone with
  | none => return []
  | some v =>
    return [.atomic (← Atomic.arithmetic .div v (.integer values.length) call.dynamic.timeZone)]

def extreme (function : String) (op : Comparison) : FunctionBody := fun call args => do
  let c ← call.collationArgument args 1
  let values ← Aggregate.input (Arguments.get args 0)
  return ((← Aggregate.extreme function op values c call.dynamic.timeZone).map Item.atomic).toList

def greatest : FunctionBody := extreme "fn:max" .gt

def least : FunctionBody := extreme "fn:min" .lt

end Library

end XPath
