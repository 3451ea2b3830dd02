/-!
# Base 64

Three bytes are written as four characters of a 64-letter alphabet; one or two bytes at the end
are filled up with `=`. Reading accepts the written form only: no missing padding, and no bits set
that the last byte does not use.
-/

namespace XPath.Text

def base64Letter (n : Nat) : Char :=
  if n < 26 then Char.ofNat (0x41 + n)
  else if n < 52 then Char.ofNat (0x61 + (n - 26))
  else if n < 62 then Char.ofNat (0x30 + (n - 52))
  else if n == 62 then '+' else '/'

def base64Value? (c : Char) : Option Nat :=
  if 'A' ≤ c && c ≤ 'Z' then some (c.toNat - 0x41)
  else if 'a' ≤ c && c ≤ 'z' then some (c.toNat - 0x61 + 26)
  else if '0' ≤ c && c ≤ '9' then some (c.toNat - 0x30 + 52)
  else if c == '+' then some 62
  else if c == '/' then some 63
  else none

def base64Letters : List UInt8 → List Char
  | [] => []
  | [a] =>
    let n := a.toNat * 16
    [base64Letter (n / 64), base64Letter (n % 64), '=', '=']
  | [a, b] =>
    let n := (a.toNat * 256 + b.toNat) * 4
    [base64Letter (n / 4096), base64Letter (n / 64 % 64), base64Letter (n % 64), '=']
  | a :: b :: c :: r =>
    let n := (a.toNat * 256 + b.toNat) * 256 + c.toNat
    base64Letter (n / 262144) :: base64Letter (n / 4096 % 64) :: base64Letter (n / 64 % 64) ::
      base64Letter (n % 64) :: base64Letters r

def base64Text (bytes : List UInt8) : String := String.ofList (base64Letters bytes)

/-- The bytes that a last group of four characters writes: a padded one holds one or two. -/
def base64Padded? (a b c : Char) : Option (List UInt8) := do
  let x ← base64Value? a
  let y ← base64Value? b
  if c == '=' then
    if y % 16 == 0 then some [UInt8.ofNat (x * 4 + y / 16)] else none
  else
    let z ← base64Value? c
    if z % 4 == 0 then
      let n := (x * 64 + y) * 16 + z / 4
      some [UInt8.ofNat (n / 256), UInt8.ofNat (n % 256)]
    else none

def base64Bytes? : List Char → Option (List UInt8)
  | [] => some []
  | a :: b :: c :: d :: r =>
    if d == '=' then
      if r.isEmpty then base64Padded? a b c else none
    else do
      let x ← base64Value? a
      let y ← base64Value? b
      let z ← base64Value? c
      let w ← base64Value? d
      let n := ((x * 64 + y) * 64 + z) * 64 + w
      let bytes ← base64Bytes? r
      some (UInt8.ofNat (n / 65536) :: UInt8.ofNat (n / 256 % 256) :: UInt8.ofNat (n % 256) ::
        bytes)
  | _ => none

end XPath.Text
