import XPath.Collation
import XPath.Value.Cast

/-!
# Comparing values

Numbers compare as numbers, strings by a collation, and the ordered types by their own order. Some
types know equality only, and values of unrelated types do not compare. Dates and times without
time zone are placed in an implicit one.
-/

namespace XPath

open XPath.Number

inductive Comparison where
  | eq | ne | lt | le | gt | ge
  deriving DecidableEq, Repr, Inhabited

namespace Comparison

def name : Comparison → String
  | eq => "Eq"
  | ne => "Ne"
  | lt => "Lt"
  | le => "Le"
  | gt => "Gt"
  | ge => "Ge"

/-- Whether the operator holds of two values in the given order. Of values that are not ordered,
only `ne` holds. -/
def holds (op : Comparison) : Option Ordering → Bool
  | none => op == ne
  | some o =>
    match op with
    | eq => o.isEq
    | ne => o.isNe
    | lt => o.isLT
    | le => o.isLE
    | gt => o.isGT
    | ge => o.isGE

end Comparison

namespace Atomic

def incomparable (op : Comparison) (a b : Atomic) : Error :=
  .typeError ("cannot compare " ++ a.typeName ++ " with " ++ b.typeName ++ " using " ++ op.name)

/-- The months and seconds of a duration of any type. -/
def durationParts? : Atomic → Option (Int × Decimal)
  | yearMonthDuration d => some (d.months, .zero)
  | dayTimeDuration d => some (0, d.seconds)
  | duration d => some (d.months, d.seconds)
  | _ => none

def compareInstants (a b : Result Calendar.LocalTime) : Result Ordering := do
  return Ord.compare (← a).total (← b).total

/-- Whether the operator holds, where equality is all that the types know. -/
def compareEquality (op : Comparison) (a b : Atomic) (equal : Bool) : Result Bool :=
  match op with
  | .eq => .ok equal
  | .ne => .ok !equal
  | _ => .error (incomparable op a b)

def compare (op : Comparison) (a b : Atomic) (c : Collation) (tz : TimeZone) : Result Bool :=
  match a, b with
  | numeric m, numeric n => (m.compare n).map op.holds
  | boolean x, boolean y => .ok (op.holds (some (Ord.compare x y)))
  | dateTime v, dateTime w =>
    (compareInstants (v.toUtc tz) (w.toUtc tz)).map fun o => op.holds (some o)
  | date v, date w => (compareInstants (v.toUtc tz) (w.toUtc tz)).map fun o => op.holds (some o)
  | time v, time w => (compareInstants (v.toUtc tz) (w.toUtc tz)).map fun o => op.holds (some o)
  | yearMonthDuration d, yearMonthDuration e =>
    .ok (op.holds (some (Ord.compare d.months e.months)))
  | dayTimeDuration d, dayTimeDuration e => .ok (op.holds (some (d.seconds.compare e.seconds)))
  | gregorian v, gregorian w =>
    if v.kind == w.kind then do
      compareEquality op a b (← compareInstants (v.toUtc tz) (w.toUtc tz)).isEq
    else .error (incomparable op a b)
  | qname p, qname q => compareEquality op a b (p.expanded == q.expanded)
  | hexBinary x, hexBinary y | base64Binary x, base64Binary y => compareEquality op a b (x == y)
  | a, b =>
    match a.stringLike?, b.stringLike? with
    | some s, some t => .ok (op.holds (some (c.compare s t)))
    | _, _ =>
      match a.durationParts?, b.durationParts? with
      | some (m, s), some (n, t) => compareEquality op a b (m == n && s == t)
      | _, _ => .error (incomparable op a b)

/-- Equality without errors: values that do not compare are not equal. Whether two NaN are equal
is the caller's choice. -/
def equal (a b : Atomic) (c : Collation) (tz : TimeZone) (nanEqual : Bool) : Bool :=
  let compared := match compare .eq a b c tz with
    | .ok r => r
    | .error _ => false
  match a, b with
  | numeric m, numeric n => if m.isNaN && n.isNaN then nanEqual else compared
  | _, _ => compared

/-- What an untyped operand of a general comparison is read as: a string beside strings, a double
beside numbers, else a value of the other operand's type. -/
def promoteUntyped (v other : Atomic) : Result Atomic :=
  match v with
  | untyped s =>
    match other with
    | untyped _ | string _ | anyURI _ => .ok (string s)
    | numeric _ => v.cast .double none
    | other => v.cast other.type none
  | v => .ok v

def comparePromoted (op : Comparison) (a b : Atomic) (c : Collation) (tz : TimeZone) :
    Result Bool := do
  let x ← promoteUntyped a b
  let y ← promoteUntyped b a
  compare op x y c tz

/-- Whether some value of the first list compares with some value of the second. The pairs are
tried in order, up to the first that holds or fails. -/
def compareSome (op : Comparison) (as bs : List Atomic) (c : Collation) (tz : TimeZone) :
    Result Bool :=
  as.anyM fun a => bs.anyM fun b => comparePromoted op a b c tz

end Atomic

end XPath
