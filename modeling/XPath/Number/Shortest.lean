import XPath.Number.Binary

/-!
# Shortest decimal digits of a binary number

Among the decimal numbers that round to a given binary number, the shortest has the fewest
digits, and of those it is the nearest. It lies on a grid of multiples of a power of ten: the
coarsest grid with a point among the numbers that round to the given one.
-/

namespace XPath.Number

/-- A positive decimal number `digits * 10 ^ exponent`. -/
structure Scientific where
  digits : Nat
  exponent : Int
  deriving DecidableEq, Repr

/-- The numbers that round to one binary number, with that number: all are quotients by `den`, and
`closed` says whether the two ends belong to them. -/
structure RoundingInterval where
  low : Nat
  value : Nat
  high : Nat
  den : Nat
  closed : Bool
  deriving DecidableEq, Repr

namespace RoundingInterval

/-- The numbers that round to `m * 2 ^ q`. The lower neighbour is nearer where `m` is the smallest
significand of its exponent. -/
def ofFinite (f : BinaryFormat) (m : Nat) (q : Int) : RoundingInterval :=
  let below := if m == f.hidden && q > f.minExponent then 1 else 2
  let (num, den) := BinaryFormat.scaleDown 1 4 (-q)
  -- `num / den` is a quarter of the unit `2 ^ q`
  { low := (4 * m - below) * num, value := 4 * m * num, high := (4 * m + 2) * num,
    den := den, closed := m % 2 == 0 }

def inUnits (i : RoundingInterval) (k : Int) : RoundingInterval :=
  match k with
  | .ofNat n => { i with den := i.den * 10 ^ n }
  | .negSucc n =>
    let p := 10 ^ (n + 1)
    { i with low := i.low * p, value := i.value * p, high := i.high * p }

def contains (i : RoundingInterval) (c : Nat) : Bool :=
  let x := c * i.den
  if i.closed then i.low ≤ x && x ≤ i.high else i.low < x && x < i.high

def nearest? (i : RoundingInterval) : Option Nat :=
  let c := i.value / i.den
  match i.contains c, i.contains (c + 1) with
  | true, true => some (if 2 * (i.value % i.den) ≥ i.den then c + 1 else c)
  | true, false => some c
  | false, true => some (c + 1)
  | false, false => none

/-- The first hit on the grids of `10 ^ k`, `10 ^ (k - 1)`, and so on. -/
def search (i : RoundingInterval) : Nat → Int → Option Scientific
  | 0, _ => none
  | fuel + 1, k =>
    match (i.inUnits k).nearest? with
    | some c => some ⟨c, k⟩
    | none => search i fuel (k - 1)

end RoundingInterval

/-- The fewest decimal digits that round to `m * 2 ^ q`, for a positive `m`. The search starts
above the number, and thirty grids reach below the gap between any two numbers of the formats. -/
def shortest (f : BinaryFormat) (m : Nat) (q : Int) : Scientific :=
  let i := RoundingInterval.ofFinite f m q
  let top := ((m.log2 : Int) + q) * 30103 / 100000 + 2
  (i.search 30 top).getD ⟨0, 0⟩

namespace Scientific

def digitText (x : Scientific) : String := toString x.digits

/-- Positional notation, such as `1200` or `0.0125`. -/
def positional (x : Scientific) : String :=
  let d := x.digitText
  match x.exponent with
  | .ofNat n => d ++ String.ofList (List.replicate n '0')
  | .negSucc n =>
    let places := n + 1
    let cs := d.toList
    if places < cs.length then
      String.ofList (cs.take (cs.length - places)) ++ "." ++
        String.ofList (cs.drop (cs.length - places))
    else "0." ++ String.ofList (List.replicate (places - cs.length) '0') ++ d

/-- Exponent notation with one digit before the point and at least one after it, such as
`1.0E20`. -/
def exponential (x : Scientific) : String :=
  let cs := x.digitText.toList
  let e := x.exponent + (cs.length - 1 : Nat)
  let tail := if cs.length ≤ 1 then "0" else String.ofList (cs.drop 1)
  String.ofList (cs.take 1) ++ "." ++ tail ++ "E" ++ toString e

end Scientific

end XPath.Number
