import XPath.Error
import XPath.Number.Decimal

/-!
# Numeric values

A numeric value has one of four types. Two of them meet at the wider type: integers become
decimals, decimals become floats, floats become doubles.
-/

namespace XPath

open XPath.Number XPath.Text

inductive Numeric where
  | integer (i : Int)
  | decimal (d : Decimal)
  | float (x : Float32)
  | double (x : Float)
  deriving Inhabited

def Error.decimalRange : Error := .of .FOAR0002 "integer value exceeds decimal range"

namespace Numeric

/-- The place of the type in the order of promotion. -/
def rank : Numeric → Nat
  | integer _ => 0
  | decimal _ => 1
  | float _ => 2
  | double _ => 3

def toDouble : Numeric → Float
  | integer i => doubleOfInt i
  | decimal d => d.toDouble
  | float x => x.toFloat
  | double x => x

def toSingle : Numeric → Float32
  | integer i => singleOfInt i
  | decimal d => d.toDouble.toFloat32
  | float x => x
  | double x => x.toFloat32

/-- The number with one type up, if it is below the rank. -/
def promote (n : Numeric) (rank : Nat) : Result Numeric :=
  if n.rank ≥ rank then .ok n
  else match rank, n with
    | 1, integer i =>
      match Decimal.ofInt? i with
      | some d => .ok (decimal d)
      | none => .error .decimalRange
    | 2, n => .ok (float n.toSingle)
    | 3, n => .ok (double n.toDouble)
    | _, n => .ok n

/-- Both numbers with the wider of their two types. -/
def unify (a b : Numeric) : Result (Numeric × Numeric) := do
  let rank := max a.rank b.rank
  return (← a.promote rank, ← b.promote rank)

def isNaN : Numeric → Bool
  | float x => x.isNaN
  | double x => x.isNaN
  | _ => false

def isZero : Numeric → Bool
  | integer i => i == 0
  | decimal d => d.isZero
  | float x => x == 0
  | double x => x == 0

/-- The order of two numbers of one binary format; a NaN is not ordered. -/
def compareFloating {α : Type} [LT α] [DecidableLT α] [BEq α] (x y : α) : Option Ordering :=
  if x < y then some .lt else if x == y then some .eq else if y < x then some .gt else none

/-- The order of two numbers at their common type. -/
def compare (a b : Numeric) : Result (Option Ordering) := do
  match ← unify a b with
  | (integer x, integer y) => return some (Ord.compare x y)
  | (decimal x, decimal y) => return some (x.compare y)
  | (float x, float y) => return compareFloating x y
  | (double x, double y) => return compareFloating x y
  | _ => return none

def text : Numeric → String
  | integer i => toString i
  | decimal d => d.text
  | float x => singleText x
  | double x => doubleText x

/-- Numbers of one type that compare equal; a NaN differs from itself. -/
instance : BEq Numeric where
  beq
    | integer i, integer j => i == j
    | decimal d, decimal e => d == e
    | float x, float y => x == y
    | double x, double y => x == y
    | _, _ => false

/-! ## Lexical forms -/

/-- Reads `[+-]?[0-9]+` between white space. -/
def parseInteger? (s : String) : Option Int :=
  let (negative, digits) := takeSign (trim s.toList)
  if digits.isEmpty || !digits.all isDigit then none
  else some (if negative then -(digitsValue digits : Int) else digitsValue digits)

/-- Reads `[+-]?([0-9]+([.][0-9]*)?|[.][0-9]+)` between white space. -/
def parseDecimal (s : String) : Result Decimal :=
  let (negative, body) := takeSign (trim s.toList)
  let (whole, fraction) := (splitFirst? '.' body).getD (body, [])
  if (whole.isEmpty && fraction.isEmpty) || !whole.all isDigit || !fraction.all isDigit then
    .error (.invalidLexical "xs:decimal" s)
  else
    let literal := (if negative then ['-'] else []) ++ (if whole.isEmpty then ['0'] else whole) ++
      '.' :: (if fraction.isEmpty then ['0'] else fraction)
    match Decimal.ofLiteral? literal with
    | some d => .ok d
    | none => .error (.of .FOCA0001 ("xs:decimal out of range: '" ++ s ++ "'"))

end Numeric

end XPath
