import XPath.Text.Space

/-!
# Punycode

A label of a domain name with characters beyond ASCII is written in ASCII: first its ASCII
characters, then for each other character, in ascending order, how far it is from the one before.
The distances are numbers to the base 36 with digits of varying weight, whose end can be told from
their digits.
-/

namespace XPath.Uri.Punycode

open XPath.Text

def digit (n : Nat) : Char :=
  if n < 26 then Char.ofNat (0x61 + n) else Char.ofNat (0x30 + n - 26)

def digitValue? (c : Char) : Option Nat :=
  if 'a' ≤ c && c ≤ 'z' then some (c.toNat - 0x61)
  else if 'A' ≤ c && c ≤ 'Z' then some (c.toNat - 0x41)
  else if isDigit c then some (c.toNat - 0x30 + 26)
  else none

/-- A digit below the threshold of its place is the last one of its number. -/
def threshold (place bias : Nat) : Nat :=
  min 26 (max 1 (36 * (place + 1) - bias))

theorem one_le_threshold (place bias : Nat) : 1 ≤ threshold place bias := by
  unfold threshold; omega

/-- Divides by 35 until the number is at most 455, and counts the divisions. -/
def reduceDelta (n count : Nat) : Nat × Nat :=
  if 455 < n then reduceDelta (n / 35) (count + 1) else (n, count)
termination_by n
decreasing_by omega

/-- The bias after a distance, when `count` characters have been written. -/
def adapt (delta count : Nat) (first : Bool) : Nat :=
  let d := if first then delta / 700 else delta / 2
  let (n, k) := reduceDelta (d + d / count) 0
  36 * k + 36 * n / (n + 38)

/-! ## Writing -/

/-- The digits of a distance from a place on. -/
def writeNumber (bias place n : Nat) : List Char :=
  let t := threshold place bias
  if n < t then [digit n]
  else digit (t + (n - t) % (36 - t)) :: writeNumber bias (place + 1) ((n - t) / (36 - t))
termination_by n
decreasing_by
  have h1 := one_le_threshold place bias
  have h2 := Nat.div_le_self (n - threshold place bias) (36 - threshold place bias)
  omega

structure Writer where
  out : List Char
  delta : Nat
  bias : Nat
  /-- The number of characters that have been written. -/
  count : Nat

/-- Passes a character of the label, while characters with code point `m` are written. -/
def Writer.pass (basic m : Nat) (w : Writer) (c : Char) : Writer :=
  if c.toNat < m then { w with delta := w.delta + 1 }
  else if c.toNat == m then
    { out := w.out ++ writeNumber w.bias 0 w.delta, delta := 0,
      bias := adapt w.delta (w.count + 1) (w.count == basic), count := w.count + 1 }
  else w

/-- Writes the characters with each of the code points, which ascend; those below `n` have been
written. -/
def writeRest (label : List Char) (basic : Nat) : List Nat → Nat → Writer → Writer
  | [], _, w => w
  | m :: r, n, w =>
    let w := { w with delta := w.delta + (m - n) * (w.count + 1) }
    let w := label.foldl (Writer.pass basic m) w
    writeRest label basic r (m + 1) { w with delta := w.delta + 1 }

def encode (label : List Char) : List Char :=
  let basic := label.filter fun c => c.toNat < 0x80
  let others := ((label.map Char.toNat).filter (0x80 ≤ ·)).eraseDups.mergeSort
  let front := if basic.isEmpty then [] else basic ++ ['-']
  front ++ (writeRest label basic.length others 0x80 ⟨[], 0, 72, basic.length⟩).out

/-! ## Reading -/

/-- Reads the digits of a distance from a place on: the sum so far grows by each digit times its
weight. -/
def readNumber (bias : Nat) : List Char → Nat → Nat → Nat → Option (Nat × List Char)
  | [], _, _, _ => none
  | c :: r, place, weight, sum =>
    match digitValue? c with
    | none => none
    | some d =>
      let sum := sum + d * weight
      if d < threshold place bias then some (sum, r)
      else readNumber bias r (place + 1) (weight * (36 - threshold place bias)) sum

def readRest : Nat → List Char → Nat → Nat → Nat → List Char → Option (List Char)
  | 0, _, _, _, _, _ => none
  | _ + 1, [], _, _, _, out => some out
  | fuel + 1, s, n, i, bias, out => do
    let (j, r) ← readNumber bias s 0 1 i
    let count := out.length + 1
    let bias := adapt (j - i) count (i == 0)
    let m := n + j / count
    let place := j % count
    if 0x110000 ≤ m || (0xD800 ≤ m && m ≤ 0xDFFF) then none
    else readRest fuel r m (place + 1) bias (out.take place ++ Char.ofNat m :: out.drop place)

def decode? (s : List Char) : Option (List Char) :=
  let (basic, rest) := (splitLast? '-' s).getD ([], s)
  if basic.all fun c => c.toNat < 0x80 then readRest (rest.length + 1) rest 0x80 0 72 basic
  else none

end XPath.Uri.Punycode
