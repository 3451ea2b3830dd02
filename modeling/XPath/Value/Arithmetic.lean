import XPath.Value.Cast

/-!
# Arithmetic

The operators on numbers work at the common type of their operands; integers divide as decimals.
Durations are added, scaled and divided, and move dates and times.
-/

namespace XPath

open XPath.Number

inductive ArithmeticOp where
  | add | sub | mul | div | idiv | mod
  deriving DecidableEq, Repr, Inhabited

inductive Sign where
  | plus | minus
  deriving DecidableEq, Repr, Inhabited

/-- The name of an operator in messages. -/
def ArithmeticOp.name : ArithmeticOp → String
  | add => "Add"
  | sub => "Sub"
  | mul => "Mul"
  | div => "Div"
  | idiv => "IDiv"
  | mod => "Mod"

def Sign.name : Sign → String
  | plus => "Plus"
  | minus => "Minus"

/-- A number was divided by zero. -/
def Error.divisionByZero : Error := .of .FOAR0001 "division by zero"

def Error.numericOverflow : Error := .of .FOAR0002 "numeric overflow"

namespace Numeric

/-- A result that has to fit its type. -/
def orOverflow {α : Type} : Option α → Result α
  | some a => .ok a
  | none => .error .numericOverflow

/-- The operators on doubles; `idiv` is not one of them. -/
def onDoubles (op : ArithmeticOp) (x y : Float) : Float :=
  match op with
  | .add => x + y
  | .sub => x - y
  | .mul => x * y
  | .div => x / y
  | _ => remainder x y

/-- The operators on integers; `div` and `idiv` are not among them. -/
def onIntegers (op : ArithmeticOp) (i j : Int) : Result Int :=
  match op with
  | .add => .ok (i + j)
  | .sub => .ok (i - j)
  | .mul => .ok (i * j)
  | .mod => if j == 0 then .error .divisionByZero else .ok (i.tmod j)
  | _ => .error .numericOverflow

/-- The operators on decimals; `idiv` is not one of them. -/
def onDecimals (op : ArithmeticOp) (d e : Decimal) : Result Decimal :=
  let result : Result Decimal :=
    match op with
    | .add => orOverflow (d.add? e)
    | .sub => orOverflow (d.sub? e)
    | .mul => orOverflow (d.mul? e)
    | .div => if e.isZero then .error .divisionByZero else orOverflow (d.div? e)
    | .mod => if e.isZero then .error .divisionByZero else orOverflow (d.rem? e)
    | .idiv => .error .numericOverflow
  result.map Decimal.normalize

/-- The quotient without its fraction. -/
def truncatedQuotient (a b : Numeric) : Result Int :=
  if b.isZero then .error .divisionByZero
  else match a, b with
    | integer i, integer j => .ok (i.tdiv j)
    | decimal d, decimal e => (orOverflow (d.div? e)).map (·.truncate)
    | a, b =>
      let x := a.toDouble
      let y := b.toDouble
      if x.isNaN || y.isNaN || x.isInf then
        .error (.of .FOAR0002 "idiv operand is NaN or infinite")
      else orOverflow (truncate? (x / y))

/-- The two operands at the type in which the operator works. -/
def operands (op : ArithmeticOp) (a b : Numeric) : Result (Numeric × Numeric) :=
  match op, a, b with
  | .div, integer _, integer _ => do return (← a.promote 1, ← b.promote 1)
  | _, a, b => unify a b

def arithmetic (op : ArithmeticOp) (a b : Numeric) : Result Numeric := do
  let (x, y) ← operands op a b
  if op == .idiv then (truncatedQuotient x y).map integer
  else match x, y with
    | integer i, integer j => (onIntegers op i j).map integer
    | decimal d, decimal e => (onDecimals op d e).map decimal
    | float f, float g => .ok (float (onDoubles op f.toFloat g.toFloat).toFloat32)
    | double f, double g => .ok (double (onDoubles op f g))
    | _, _ => .error .numericOverflow

def negate : Numeric → Numeric
  | integer i => integer (-i)
  | decimal d => decimal d.neg
  | float x => float (-x)
  | double x => double (-x)

def abs : Numeric → Numeric
  | integer i => integer i.natAbs
  | decimal d => decimal d.abs
  | float x => float x.abs
  | double x => double x.abs

end Numeric

namespace Atomic

def noOperator (op : ArithmeticOp) (a b : Atomic) : Error :=
  .typeError
    ("operator " ++ op.name ++ " is not defined for " ++ a.typeName ++ " and " ++ b.typeName)

/-- The sum of a value and a duration in either order, or of two durations. -/
def addDuration? (a b : Atomic) : Option (Result Atomic) :=
  match a, b with
  | yearMonthDuration d, yearMonthDuration e => some ((d.add e).map yearMonthDuration)
  | dayTimeDuration d, dayTimeDuration e => some ((d.add e).map dayTimeDuration)
  | dateTime t, yearMonthDuration d | yearMonthDuration d, dateTime t =>
    some ((t.addYearMonth d).map dateTime)
  | dateTime t, dayTimeDuration d | dayTimeDuration d, dateTime t =>
    some ((t.addDayTime d).map dateTime)
  | date t, yearMonthDuration d | yearMonthDuration d, date t =>
    some ((t.addYearMonth d).map date)
  | date t, dayTimeDuration d | dayTimeDuration d, date t => some ((t.addDayTime d).map date)
  | time t, dayTimeDuration d | dayTimeDuration d, time t => some ((t.addDayTime d).map time)
  | _, _ => none

/-- The difference of a value and a duration, or of two values of one type. -/
def subtract? (a b : Atomic) (tz : TimeZone) : Option (Result Atomic) :=
  match a, b with
  | yearMonthDuration d, yearMonthDuration e => some ((d.sub e).map yearMonthDuration)
  | dayTimeDuration d, dayTimeDuration e => some ((d.sub e).map dayTimeDuration)
  | dateTime t, yearMonthDuration d => some ((t.addYearMonth d.neg).map dateTime)
  | dateTime t, dayTimeDuration d => some ((t.addDayTime d.neg).map dateTime)
  | date t, yearMonthDuration d => some ((t.addYearMonth d.neg).map date)
  | date t, dayTimeDuration d => some ((t.addDayTime d.neg).map date)
  | time t, dayTimeDuration d => some ((t.addDayTime d.neg).map time)
  | dateTime t, dateTime u => some ((t.difference u tz).map dayTimeDuration)
  | date t, date u => some ((t.difference u tz).map dayTimeDuration)
  | time t, time u => some ((t.difference u tz).map dayTimeDuration)
  | _, _ => none

/-- The product of a duration and a number in either order. -/
def scale? (a b : Atomic) : Option (Result Atomic) :=
  match a, b with
  | yearMonthDuration d, numeric n | numeric n, yearMonthDuration d =>
    some ((d.times n.toDouble).map yearMonthDuration)
  | dayTimeDuration d, numeric n | numeric n, dayTimeDuration d =>
    some ((d.times n.toDouble).map dayTimeDuration)
  | _, _ => none

/-- The quotient of a duration by a number or by a duration of its type. -/
def divide? (a b : Atomic) : Option (Result Atomic) :=
  match a, b with
  | yearMonthDuration d, yearMonthDuration e => some ((d.ratio e).map decimal)
  | dayTimeDuration d, dayTimeDuration e => some ((d.ratio e).map decimal)
  | yearMonthDuration d, numeric n => some ((d.divide n.toDouble).map yearMonthDuration)
  | dayTimeDuration d, numeric n => some ((d.divide n.toDouble).map dayTimeDuration)
  | _, _ => none

/-- Applies an operator to two values that are not both numbers. -/
def temporal? (op : ArithmeticOp) (a b : Atomic) (tz : TimeZone) : Option (Result Atomic) :=
  match op with
  | .add => addDuration? a b
  | .sub => subtract? a b tz
  | .mul => scale? a b
  | .div => divide? a b
  | _ => none

def arithmetic (op : ArithmeticOp) (a b : Atomic) (tz : TimeZone) : Result Atomic :=
  match a, b with
  | numeric m, numeric n => (m.arithmetic op n).map numeric
  | a, b => (temporal? op a b tz).getD (.error (noOperator op a b))

def signed (sign : Sign) (v : Atomic) : Result Atomic :=
  match v with
  | numeric n => .ok (numeric (if sign == .minus then n.negate else n))
  | v => .error (.typeError ("unary " ++ sign.name ++ " is not defined for " ++ v.typeName))

end Atomic

end XPath
