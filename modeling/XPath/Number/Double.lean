import XPath.Text.Space
import XPath.Number.Shortest

/-!
# xs:float and xs:double

Values of xs:double and xs:float are the core types `Float` and `Float32`. This module reads and
writes them exactly, takes them apart, and adds the operations that core lacks.
-/

namespace XPath.Number

open XPath.Text

/-! ## Exact views -/

def viewDouble (x : Float) : Binary := BinaryFormat.double.decode x.toBits.toNat

def viewSingle (x : Float32) : Binary := BinaryFormat.single.decode x.toBits.toNat

def doubleOfRatio (negative : Bool) (num den : Nat) : Float :=
  Float.ofBits (UInt64.ofNat (BinaryFormat.double.ofRatio negative num den))

def singleOfRatio (negative : Bool) (num den : Nat) : Float32 :=
  Float32.ofBits (UInt32.ofNat (BinaryFormat.single.ofRatio negative num den))

def doubleOfInt (i : Int) : Float := doubleOfRatio (i < 0) i.natAbs 1

def singleOfInt (i : Int) : Float32 := singleOfRatio (i < 0) i.natAbs 1

def infinity : Float := doubleOfRatio false (2 ^ 1024) 1

def notANumber : Float := Float.ofBits 0x7FF8000000000000

def truncate? (x : Float) : Option Int :=
  match viewDouble x with
  | .finite negative m (.ofNat n) =>
    some (if negative then -(m * 2 ^ n : Nat) else (m * 2 ^ n : Nat))
  | .finite negative m (.negSucc n) =>
    let t := m / 2 ^ (n + 1)
    some (if negative then -(t : Int) else t)
  | _ => none

def isNegative (x : Float) : Bool := x.toBits.toNat / 2 ^ 63 == 1

def withSignOf (x y : Float) : Float :=
  if isNegative x == isNegative y then x else -x

/-- The remainder of a division truncated toward zero. It is exact and has the sign of `a`. -/
def remainder (a b : Float) : Float :=
  match viewDouble a, viewDouble b with
  | .finite negative m q, .finite _ m' q' =>
    if m' == 0 then notANumber
    else
      let low := min q q'
      let r := (m * 2 ^ (q - low).toNat) % (m' * 2 ^ (q' - low).toNat)
      match low with
      | .ofNat n => doubleOfRatio negative (r * 2 ^ n) 1
      | .negSucc n => doubleOfRatio negative r (2 ^ (n + 1))
  | .finite .., .infinite _ => a
  | _, _ => notANumber

/-- The nearest whole number, a half upwards; a zero result keeps the sign of `x`. -/
def roundHalfUp (x : Float) : Float :=
  if !x.isFinite || x == 0 then x
  else
    let low := x.floor
    let r := if x - low ≥ 0.5 then low + 1 else low
    if r == 0 then withSignOf r x else r

/-! ## Text -/

/-- The canonical text of a number in a binary format. `plain` says that it is written in
positional notation. -/
def binaryText (f : BinaryFormat) (plain : Bool) : Binary → String
  | .nan => "NaN"
  | .infinite negative => if negative then "-INF" else "INF"
  | .finite negative m q =>
    let sign := if negative then "-" else ""
    if m == 0 then sign ++ "0"
    else
      let s := shortest f m q
      sign ++ (if plain then s.positional else s.exponential)

/-- Numbers of at least a millionth and below a million are written in positional notation. -/
def isPlain (x : Float) : Bool :=
  let a := x.abs
  doubleOfRatio false 1 1000000 ≤ a && a < doubleOfRatio false 1000000 1

def doubleText (x : Float) : String := binaryText .double (isPlain x) (viewDouble x)

def singleText (x : Float32) : String := binaryText .single (isPlain x.toFloat) (viewSingle x)

/-- The parts of a decimal floating-point literal: sign, digits as a whole number, exponent. -/
structure FloatLiteral where
  negative : Bool
  digits : Nat
  exponent : Int
  deriving DecidableEq, Repr

/-- Cuts off a leading sign; `true` stands for minus. -/
def takeSign : List Char → Bool × List Char
  | '+' :: r => (false, r)
  | '-' :: r => (true, r)
  | s => (false, s)

/-- Reads `[+-]?([0-9]+([.][0-9]*)?|[.][0-9]+)([eE][+-]?[0-9]+)?`. -/
def FloatLiteral.parse? (s : List Char) : Option FloatLiteral :=
  let (negative, body) := takeSign s
  let mantissa := body.takeWhile fun c => c != 'e' && c != 'E'
  let (whole, fraction) := (splitFirst? '.' mantissa).getD (mantissa, [])
  let exponent? : Option Int :=
    match body.drop mantissa.length with
    | [] => some 0
    | _ :: e =>
      let (down, ds) := takeSign e
      if ds.isEmpty || !ds.all isDigit then none
      else some (if down then -(digitsValue ds : Int) else digitsValue ds)
  if (whole.isEmpty && fraction.isEmpty) || !whole.all isDigit || !fraction.all isDigit then none
  else exponent?.map fun e => ⟨negative, digitsValue (whole ++ fraction), e - fraction.length⟩

def parseDouble? (s : String) : Option Float :=
  let t := trim s.toList
  if t == "INF".toList then some infinity
  else if t == "-INF".toList then some (-infinity)
  else if t == "NaN".toList then some notANumber
  else (FloatLiteral.parse? t).map fun l =>
    Float.ofBits (UInt64.ofNat (BinaryFormat.double.ofScientific l.negative l.digits l.exponent))

def parseSingle? (s : String) : Option Float32 :=
  let t := trim s.toList
  if t == "INF".toList then some infinity.toFloat32
  else if t == "-INF".toList then some (-infinity).toFloat32
  else if t == "NaN".toList then some notANumber.toFloat32
  else (FloatLiteral.parse? t).map fun l =>
    Float32.ofBits (UInt32.ofNat (BinaryFormat.single.ofScientific l.negative l.digits l.exponent))

end XPath.Number
