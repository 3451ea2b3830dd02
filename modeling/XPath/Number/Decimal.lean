import XPath.Text.Space
import XPath.Number.Double

/-!
# xs:decimal

A decimal is a sign, a coefficient below `2 ^ 96` and a scale of at most 28: the number of digits
after the point. Addition, multiplication and division give the nearest decimal, ties to an even
coefficient, with as many digits after the point as the exact result needs and the coefficient
leaves room for.
-/

namespace XPath.Number

open XPath.Text

/-- A decimal number: `coefficient / 10 ^ scale` with a sign. Zero may carry either sign. -/
structure Decimal where
  negative : Bool
  coefficient : Nat
  scale : Nat
  coefficient_lt : coefficient < 2 ^ 96
  scale_le : scale ≤ 28

namespace Decimal

/-! ## Construction and view -/

def ofParts? (negative : Bool) (coefficient scale : Nat) : Option Decimal :=
  if h : coefficient < 2 ^ 96 ∧ scale ≤ 28 then some ⟨negative, coefficient, scale, h.1, h.2⟩
  else none

def zero : Decimal := ⟨false, 0, 0, by decide, by decide⟩

def one : Decimal := ⟨false, 1, 0, by decide, by decide⟩

instance : Inhabited Decimal := ⟨zero⟩

/-- A natural number below `2 ^ 96` as a decimal; larger ones are cut to their low digits. -/
def ofNat (n : Nat) : Decimal := ⟨false, n % 2 ^ 96, 0, Nat.mod_lt _ (by decide), by decide⟩

def signed (d : Decimal) : Int := if d.negative then -d.coefficient else d.coefficient

/-- The coefficient that `d` has at a scale not below its own. -/
def signedAt (d : Decimal) (scale : Nat) : Int := d.signed * 10 ^ (scale - d.scale)

def isZero (d : Decimal) : Bool := d.coefficient == 0

/-- An integer as a decimal, if it has at most 96 bits. -/
def ofInt? (i : Int) : Option Decimal := ofParts? (i < 0) i.natAbs 0

def compare (a b : Decimal) : Ordering :=
  let s := max a.scale b.scale
  Ord.compare (a.signedAt s) (b.signedAt s)

/-- Two decimals are equal when they stand for one number. -/
instance : BEq Decimal := ⟨fun a b => a.compare b == .eq⟩

/-- Drops the zeros at the end of the fraction. The number of steps is at most the scale. -/
def stripZeros : Nat → Nat → Nat × Nat
  | c, 0 => (c, 0)
  | c, s + 1 => if c % 10 == 0 then stripZeros (c / 10) s else (c, s + 1)

theorem stripZeros_fst_le (c s : Nat) : (stripZeros c s).1 ≤ c := by
  induction s generalizing c with
  | zero => exact Nat.le_refl c
  | succ s ih =>
    simp only [stripZeros]
    split
    · exact Nat.le_trans (ih _) (Nat.div_le_self c 10)
    · exact Nat.le_refl c

theorem stripZeros_snd_le (c s : Nat) : (stripZeros c s).2 ≤ s := by
  induction s generalizing c with
  | zero => exact Nat.le_refl 0
  | succ s ih =>
    simp only [stripZeros]
    split
    · exact Nat.le_succ_of_le (ih _)
    · exact Nat.le_refl _

/-- The same number with the smallest scale; zero becomes the plain zero. -/
def normalize (d : Decimal) : Decimal :=
  if d.isZero then zero
  else
    { negative := d.negative
      coefficient := (stripZeros d.coefficient d.scale).1
      scale := (stripZeros d.coefficient d.scale).2
      coefficient_lt := Nat.lt_of_le_of_lt (stripZeros_fst_le _ _) d.coefficient_lt
      scale_le := Nat.le_trans (stripZeros_snd_le _ _) d.scale_le }

/-- The other sign, also of zero. -/
def neg (d : Decimal) : Decimal := { d with negative := !d.negative }

def abs (d : Decimal) : Decimal := { d with negative := false }

/-! ## Arithmetic -/

/-- The decimal nearest to `num / den` with the largest scale, up to `maxScale`, whose rounded
coefficient fits. There is none if even the rounded whole number is too large. -/
def nearest? (negative : Bool) (num den : Nat) : Nat → Option Decimal
  | 0 => ofParts? negative (divHalfEven num den) 0
  | s + 1 =>
    match ofParts? negative (divHalfEven (num * 10 ^ (s + 1)) den) (s + 1) with
    | some d => some d
    | none => nearest? negative num den s

/-- A zero result has no sign. -/
def unsignZero (d : Decimal) : Decimal :=
  { d with negative := d.negative && d.coefficient != 0 }

def add? (a b : Decimal) : Option Decimal :=
  if a.isZero then some b
  else if b.isZero then some a
  else
    let s := max a.scale b.scale
    let sum := a.signedAt s + b.signedAt s
    nearest? (sum < 0) sum.natAbs (10 ^ s) s

def sub? (a b : Decimal) : Option Decimal :=
  if b.isZero then some (if a.isZero then b else a)
  else a.add? b.neg

def mul? (a b : Decimal) : Option Decimal :=
  if a.isZero || b.isZero then some zero
  else
    let s := a.scale + b.scale
    (nearest? (a.negative != b.negative) (a.coefficient * b.coefficient) (10 ^ s) (min 28 s)).map
      unsignZero

/-- The quotient. A whole coefficient at the difference of the scales is kept as it is, with zeros
appended where that difference is negative; any other quotient is rounded at the largest scale
that fits and loses its final zeros. -/
def div? (a b : Decimal) : Option Decimal :=
  if b.isZero then none
  else if a.isZero then some zero
  else
    let negative := a.negative != b.negative
    if a.coefficient % b.coefficient == 0 then
      ofParts? negative (a.coefficient / b.coefficient * 10 ^ (b.scale - a.scale))
        (a.scale - b.scale)
    else
      (nearest? negative (a.coefficient * 10 ^ b.scale) (b.coefficient * 10 ^ a.scale) 28).map
        normalize

/-- The remainder of the truncated division; it has the sign of `a`. -/
def rem? (a b : Decimal) : Option Decimal :=
  if b.isZero then none
  else
    match a.abs.compare b.abs with
    | .lt => some (if a.isZero then zero else a)
    | .eq => some zero
    | .gt =>
      let s := max a.scale b.scale
      let r := (a.signedAt s).natAbs % (b.signedAt s).natAbs
      (ofParts? a.negative r s).map unsignZero

/-! ## Whole numbers -/

def truncate (d : Decimal) : Int :=
  let q : Nat := d.coefficient / 10 ^ d.scale
  if d.negative then -(q : Int) else q

def isWhole (d : Decimal) : Bool := d.coefficient % 10 ^ d.scale == 0

/-- The decimal with the given whole number as its value; its coefficient is no larger than that
of `d`, or one more. -/
def wholeOf (d : Decimal) (i : Int) : Decimal :=
  if d.scale == 0 then d else (ofInt? i).getD d

def floor (d : Decimal) : Decimal :=
  d.wholeOf (if d.negative && !d.isWhole then d.truncate - 1 else d.truncate)

def ceil (d : Decimal) : Decimal :=
  d.wholeOf (if !d.negative && !d.isWhole then d.truncate + 1 else d.truncate)

/-- Keeps at most `places` digits after the point; `round` divides the coefficient by the power of
ten that goes. -/
def roundWith (round : Nat → Nat → Nat) (d : Decimal) (places : Nat) : Decimal :=
  if d.scale ≤ places then d
  else (ofParts? d.negative (round d.coefficient (10 ^ (d.scale - places))) places).getD d

/-- Rounds to `places` digits, a half to the even neighbour. -/
def roundHalfEven (d : Decimal) (places : Nat) : Decimal :=
  d.roundWith divHalfEven places

/-- The nearest whole number, a half toward positive infinity. -/
def roundHalfUp (d : Decimal) : Decimal :=
  let halfDown num den := if 2 * (num % den) > den then num / den + 1 else num / den
  d.roundWith (if d.negative then halfDown else divHalfUp) 0

/-! ## Text -/

/-- The digits with a point before the last `scale` of them; at least one digit before the point. -/
def digitText (coefficient scale : Nat) : String :=
  let digits := (padded (scale + 1) coefficient).toList
  if scale == 0 then String.ofList digits
  else String.ofList (digits.take (digits.length - scale)) ++ "." ++
    String.ofList (digits.drop (digits.length - scale))

/-- The canonical text: no zeros at the end of the fraction, no point in a whole number, no sign
on zero. -/
def text (d : Decimal) : String :=
  let n := d.normalize
  (if n.negative then "-" else "") ++ digitText n.coefficient n.scale

/-- Rounds up by the first digit that finds no room. A coefficient that grows out of range loses
its last digit. -/
def roundDigit (negative : Bool) (coefficient scale digit : Nat) : Option Decimal :=
  if digit < 5 then ofParts? negative coefficient scale
  else if coefficient + 1 < 2 ^ 96 then ofParts? negative (coefficient + 1) scale
  else if scale == 0 then none
  else ofParts? negative ((coefficient + 5) / 10) (scale - 1)

/-- The fraction digits of a literal, after the whole part `c`. When the scale or the coefficient
is full, the next digit rounds and the rest is not looked at. -/
def readFraction (negative : Bool) : List Char → Nat → Nat → Option Decimal
  | [], c, s => ofParts? negative c s
  | x :: r, c, s =>
    if x == '_' then
      if s ≥ 28 then ofParts? negative c s else readFraction negative r c s
    else if !isDigit x then none
    else
      let digit := x.toNat - '0'.toNat
      if s ≥ 28 || 10 * c + digit ≥ 2 ^ 96 then roundDigit negative c s digit
      else readFraction negative r (10 * c + digit) (s + 1)

/-- The digits before the point; `seen` says that there was one. -/
def readWhole (negative : Bool) : List Char → Bool → Nat → Option Decimal
  | [], seen, c => if seen then ofParts? negative c 0 else none
  | x :: r, seen, c =>
    if x == '.' then
      match r with
      | [] => if seen then ofParts? negative c 0 else none
      | y :: _ => if seen || isDigit y then readFraction negative r c 0 else none
    else if x == '_' then if seen then readWhole negative r seen c else none
    else if !isDigit x then none
    else
      let n := 10 * c + (x.toNat - '0'.toNat)
      if n ≥ 2 ^ 96 then none else readWhole negative r true n

/-- Reads a literal with an optional sign, digits and a point. Digits may be grouped by `_`;
fraction digits that find no room are rounded, a half upwards. -/
def ofLiteral? (s : List Char) : Option Decimal :=
  let (negative, body) := takeSign s
  (readWhole negative body false 0).map unsignZero

/-- The number multiplied by ten to a power, if the digits and the scale have room. -/
def shift? (d : Decimal) (power : Int) : Option Decimal :=
  if power ≤ d.scale then
    if d.scale - power ≤ 28 then ofParts? d.negative d.coefficient (d.scale - power).toNat else none
  else if power ≤ 28 then
    ofParts? d.negative (d.coefficient * 10 ^ (power - d.scale).toNat) 0
  else none

def readExponent? (s : List Char) : Option Int :=
  let (negative, digits) := takeSign s
  if digits.isEmpty || !digits.all isDigit then none
  else
    let n := digits.foldl (fun n c => 10 * n + (c.toNat - '0'.toNat)) 0
    some (if negative then -n else n)

/-- Reads a literal, or a literal with an exponent behind the letter `e`. -/
def ofScientific? (s : List Char) : Option Decimal :=
  match ofLiteral? s with
  | some d => some d
  | none =>
    match s.dropWhile (fun c => c != 'e' && c != 'E') with
    | [] => none
    | _ :: exponent => do
      let d ← ofLiteral? (s.takeWhile fun c => c != 'e' && c != 'E')
      d.shift? (← readExponent? exponent)

/-! ## Conversion from and to binary numbers -/

/-- The decimal as a double. A whole coefficient goes to the nearest double; a fraction is the sum
of its integral and fractional parts, rounded at the scale of the decimal. -/
def toDouble (d : Decimal) : Float :=
  if d.scale == 0 then doubleOfInt d.signed
  else
    let unit := 10 ^ d.scale
    let fraction := doubleOfInt (d.coefficient % unit : Nat) / doubleOfInt unit
    let integral := doubleOfInt (d.coefficient / unit : Nat)
    let magnitude :=
      if fraction == 0 then integral
      else
        let power := tenTo d.scale
        ((integral + fraction) * power).round / power
    if d.negative then -magnitude else magnitude
where
  /-- `10 ^ n` in double arithmetic, by repeated squaring. -/
  tenTo (n : Nat) : Float := go n 10 1 6
  /-- Squares `base` once for each binary digit of `n`, of which there are at most `fuel`. -/
  go (n : Nat) (base acc : Float) : Nat → Float
    | 0 => acc
    | fuel + 1 =>
      let acc := if n % 2 == 1 then acc * base else acc
      if n / 2 == 0 then acc else go (n / 2) (base * base) acc fuel

/-- A coefficient with a power of ten, as `m * 10 ^ p10`. -/
structure Scaled where
  m : Nat
  p10 : Int

/-- Applies `n` factors of a fifth: an even coefficient is halved, an odd one is multiplied by
five while that fits 96 bits, and halved with loss otherwise. -/
def applyHalves : Nat → Scaled → Scaled
  | 0, x => x
  | n + 1, x =>
    if x.m % 2 == 0 then applyHalves n ⟨x.m / 2, x.p10 + 1⟩
    else if x.m * 5 < 2 ^ 96 then applyHalves n ⟨x.m * 5, x.p10⟩
    else applyHalves n ⟨x.m / 2, x.p10 + 1⟩

/-- Applies `n` divisions by five: the coefficient is doubled while that fits 96 bits, and divided
with loss otherwise. -/
def applyFifths : Nat → Scaled → Scaled
  | 0, x => x
  | n + 1, x =>
    if x.m < 2 ^ 95 then applyFifths n ⟨x.m * 2, x.p10 - 1⟩
    else applyFifths n ⟨x.m / 5, x.p10⟩

/-- Brings a positive exponent down to zero, if the coefficient stays in range. -/
def absorbTens : Nat → Scaled → Option Scaled
  | 0, x => some x
  | n + 1, x => if x.m * 10 < 2 ^ 96 then absorbTens n ⟨x.m * 10, x.p10 - 1⟩ else none

/-- Drops digits until the scale is at most 28. -/
def dropDigits : Nat → Scaled → Scaled
  | 0, x => x
  | n + 1, x =>
    if x.p10 < -28 then
      let q := x.m / 10
      if q == 0 then ⟨0, 0⟩
      else dropDigits n ⟨if x.m % 10 ≥ 5 then q + 1 else q, x.p10 + 1⟩
    else x

/-- Drops fraction digits beyond the precision that a double guarantees. -/
def dropExcess : Nat → Scaled → Scaled
  | 0, x => x
  | n + 1, x =>
    if x.p10 < 0 && x.m ≥ 2 ^ 53 then
      let q := x.m / 10
      dropExcess n ⟨if x.m % 10 ≥ 5 then q + 1 else q, x.p10 + 1⟩
    else x

/-- A finite double as a decimal with its fifteen or sixteen guaranteed digits; none if it is out
of range. -/
def ofDouble? (x : Float) : Option Decimal :=
  match viewDouble x with
  | .finite negative 0 _ => some { zero with negative := negative }
  | .finite negative m q =>
    let start : Scaled := ⟨m, q⟩
    let scaled := match q with
      | .ofNat n => applyFifths n start
      | .negSucc n => applyHalves (n + 1) start
    (if scaled.p10 > 0 then absorbTens scaled.p10.toNat scaled
      else some (dropExcess 30 (dropDigits 1200 scaled))).bind fun y =>
      let (c, s) := stripZeros y.m (-y.p10).toNat
      ofParts? negative c s
  | _ => none

end Decimal

end XPath.Number
