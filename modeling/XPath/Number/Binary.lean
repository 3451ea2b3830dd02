import XPath.Number.Rounding
import XPath.Number.Word

/-!
# Binary floating-point formats

A binary format is given by its precision and the width of its exponent field. A bit pattern
stands for a sign, a significand and an exponent, and every quotient of natural numbers has one
nearest bit pattern.
-/

namespace XPath.Number

/-- A binary interchange format: the number of significand digits, and of exponent bits. -/
structure BinaryFormat where
  precision : Nat
  exponentBits : Nat
  deriving DecidableEq, Repr

/-- What a bit pattern stands for; a finite value is `m * 2 ^ q` with its sign. -/
inductive Binary where
  | nan
  | infinite (negative : Bool)
  | finite (negative : Bool) (m : Nat) (q : Int)
  deriving DecidableEq, Repr

namespace BinaryFormat

/-- The 64-bit format of xs:double. -/
def double : BinaryFormat := ⟨53, 11⟩

/-- The 32-bit format of xs:float. -/
def single : BinaryFormat := ⟨24, 8⟩

variable (f : BinaryFormat)

/-- The weight of the exponent field's lowest bit: all bits below hold the significand. -/
def hidden : Nat := 2 ^ (f.precision - 1)

/-- The exponent of the last digit of the smallest numbers. -/
def minExponent : Int := 3 - 2 ^ (f.exponentBits - 1) - f.precision

/-- The magnitude bits of infinity: an exponent field of ones, no significand. -/
def infinityBits : Nat := (2 ^ f.exponentBits - 1) * f.hidden

def signBit (negative : Bool) : Nat :=
  if negative then 2 ^ f.exponentBits * f.hidden else 0

def decode (bits : Nat) : Binary :=
  let negative := bits / (2 ^ f.exponentBits * f.hidden) % 2 == 1
  let field := bits / f.hidden % 2 ^ f.exponentBits
  let fraction := bits % f.hidden
  if field == 2 ^ f.exponentBits - 1 then
    if fraction == 0 then .infinite negative else .nan
  else if field == 0 then .finite negative fraction f.minExponent
  else .finite negative (f.hidden + fraction) (f.minExponent + (field - 1 : Nat))

def scaleDown (num den : Nat) (q : Int) : Nat × Nat :=
  match q with
  | .ofNat n => (num, den * 2 ^ n)
  | .negSucc n => (num * 2 ^ (n + 1), den)

/-- The magnitude bits nearest to `num / den`, ties to even. The exponent is the one that leaves
`precision` digits before the point, or the smallest one; a carry out of the significand runs into
the exponent field, and what is too large becomes infinity. -/
def magnitudeOfRatio (num den : Nat) : Nat :=
  if num == 0 then 0
  else
    let q₁ := max f.minExponent ((num.log2 : Int) - den.log2 - f.precision)
    let (n₁, d₁) := scaleDown num den q₁
    let q := if n₁ / d₁ ≥ 2 ^ f.precision then q₁ + 1 else q₁
    let (n, d) := scaleDown num den q
    min f.infinityBits ((q - f.minExponent).toNat * f.hidden + divHalfEven n d)

def ofRatio (negative : Bool) (num den : Nat) : Nat :=
  f.signBit negative + f.magnitudeOfRatio num den

/-- The bit pattern nearest to `m * 10 ^ e` with a sign. Numbers far outside of the range are
settled by their number of digits, before any power of ten is formed. -/
def ofScientific (negative : Bool) (m : Nat) (e : Int) : Nat :=
  let digits : Int := (toString m).length
  if m == 0 || digits + e < -400 then f.signBit negative
  else if digits + e > 400 then f.signBit negative + f.infinityBits
  else match e with
    | .ofNat n => f.ofRatio negative (m * 10 ^ n) 1
    | .negSucc n => f.ofRatio negative m (10 ^ (n + 1))

end BinaryFormat

end XPath.Number
