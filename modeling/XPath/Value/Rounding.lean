import XPath.Value.Arithmetic

/-!
# Rounding

Numbers are rounded within their type: down, up, to the nearest whole number with halves upwards,
or to a number of places with halves to the even neighbour. A negative number of places rounds to
tens, hundreds and so on.
-/

namespace XPath

open XPath.Number

namespace Numeric

def floor : Numeric → Numeric
  | integer i => integer i
  | decimal d => decimal d.floor
  | float x => float x.floor
  | double x => double x.floor

def ceiling : Numeric → Numeric
  | integer i => integer i
  | decimal d => decimal d.ceil
  | float x => float x.ceil
  | double x => double x.ceil

/-- The nearest whole number, a half toward positive infinity. -/
def roundHalfUp : Numeric → Numeric
  | integer i => integer i
  | decimal d => decimal d.roundHalfUp.normalize
  | float x => float (Number.roundHalfUp x.toFloat).toFloat32
  | double x => double (Number.roundHalfUp x)

/-- The nearest multiple of `10 ^ digits`, a half to the even one. Of a power of ten with more
digits than the integer, zero is the nearest multiple. -/
def roundIntegerHalfEven (i : Int) (digits : Nat) : Int :=
  if digits > (toString i.natAbs).length then 0
  else
    let magnitude := divHalfEven i.natAbs (10 ^ digits) * 10 ^ digits
    if i < 0 then -(magnitude : Int) else magnitude

def maxDigits : Nat := 2 ^ 32 - 1

/-- The decimal rounded to `places`, if the calculation stays in range. -/
def roundDecimalHalfEven? (d : Decimal) (places : Int) : Option Decimal :=
  if places ≥ 0 then some (d.roundHalfEven (min places.toNat 28)).normalize
  else if places.natAbs > 28 then some .zero
  else do
    let unit ← Decimal.ofInt? (10 ^ places.natAbs)
    let count ← d.div? unit
    let rounded ← (count.roundHalfEven 0).mul? unit
    return rounded.normalize

/-- The double rounded to `places` by way of a decimal; one that has no decimal stays. A zero keeps
the sign. -/
def roundDoubleHalfEven (x : Float) (places : Int) : Float :=
  if !x.isFinite || x == 0 then x
  else
    let rounded := (Decimal.ofDouble? x).bind fun d => roundDecimalHalfEven? d places
    match rounded with
    | none => x
    | some d => if d.isZero then withSignOf 0 x else d.toDouble

/-- The number rounded to `places`, a half to the even neighbour. -/
def roundHalfEven (n : Numeric) (places : Int) : Numeric :=
  match n with
  | integer i =>
    if places < 0 then integer (roundIntegerHalfEven i (min places.natAbs maxDigits)) else n
  | decimal d => decimal ((roundDecimalHalfEven? d places).getD d)
  | float x => float (roundDoubleHalfEven x.toFloat places).toFloat32
  | double x => double (roundDoubleHalfEven x places)

end Numeric

end XPath
