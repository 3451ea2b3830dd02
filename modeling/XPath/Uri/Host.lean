import XPath.Number.Word
import XPath.Text.Percent
import XPath.Unicode.Normal
import XPath.Uri.Punycode

/-!
# Hosts

The host of a URI is a domain name, or a number of 32 or 128 bits that stands for an address. A
host is read from several spellings and written in one.
-/

namespace XPath.Uri

open XPath.Text XPath.Unicode

/-! ## Addresses of 32 bits -/

/-- The number that a part of an address writes: in octal after `0`, in hexadecimal after `0x`. -/
def addressPart? (s : List Char) : Option Nat :=
  let read (base : Nat) (digits : List Char) : Option Nat :=
    digits.foldlM (fun n c =>
      ((hexValue? c).filter (· < base)).map fun d => base * n + d) 0
  match s with
  | [] => none
  | '0' :: 'x' :: r | '0' :: 'X' :: r => read 16 r
  | '0' :: c :: r => read 8 (c :: r)
  | r => read 10 r

def endsInNumber (labels : List (List Char)) : Bool :=
  let last := match labels.reverse with
    | [] :: l :: _ => l
    | l :: _ => l
    | [] => []
  (!last.isEmpty && last.all isDigit) || (addressPart? last).isSome

/-- The address that up to four parts write. The last part stands for all bytes that the others
leave over. -/
def ipv4? (labels : List (List Char)) : Option Nat := do
  let parts := if labels.getLast? == some [] then labels.dropLast else labels
  if 4 < parts.length then none
  let numbers ← parts.mapM addressPart?
  let last ← numbers.getLast?
  let front := numbers.dropLast
  if 256 ^ (4 - front.length) ≤ last || front.any (255 < ·) then none
  return front.foldl (fun total n => total * 256 + n) 0 * 256 ^ (4 - front.length) + last

def ipv4Text (n : Nat) : String :=
  ".".intercalate ([3, 2, 1, 0].map fun i => toString (n / 256 ^ i % 256))

/-! ## Addresses of 128 bits -/

def piece? (s : List Char) : Option Nat :=
  if s.isEmpty || 4 < s.length then none
  else s.foldlM (fun n c => (hexValue? c).map fun d => 16 * n + d) 0

/-- Four decimal bytes as two pieces. -/
def quad? (s : List Char) : Option (List Nat) :=
  let byte? (t : List Char) : Option Nat :=
    let isPadded := t.head? == some '0' && 1 < t.length
    if t.isEmpty || !t.all isDigit || isPadded || 3 < t.length then none
    else some (digitsValue t)
  match (pieces (· == '.') s).map byte? with
  | [some a, some b, some c, some d] =>
    if a < 256 && b < 256 && c < 256 && d < 256 then some [256 * a + b, 256 * c + d] else none
  | _ => none

/-- The pieces between colons; the last one may be four decimal bytes. -/
def pieceList? (s : List Char) (atEnd : Bool) : Option (List Nat) :=
  if s.isEmpty then some []
  else
    let parts := pieces (· == ':') s
    let front := parts.dropLast.mapM piece?
    let last := parts.getLastD []
    match front with
    | none => none
    | some front =>
      if atEnd && last.contains '.' then (quad? last).map (front ++ ·)
      else (piece? last).map fun n => front ++ [n]

def splitColons? : List Char → Option (List Char × List Char)
  | ':' :: ':' :: r => some ([], r)
  | c :: r => (splitColons? r).map fun p => (c :: p.1, p.2)
  | [] => none

/-- The eight pieces of an address. Two colons in a row stand for the zeros that are missing. -/
def ipv6? (s : List Char) : Option (List Nat) :=
  match splitColons? s with
  | some (a, b) => do
    let left ← pieceList? a false
    let right ← pieceList? b true
    if 7 < left.length + right.length then none
    else return left ++ List.replicate (8 - left.length - right.length) 0 ++ right
  | none => (pieceList? s true).filter (·.length == 8)

def pieceText (n : Nat) : String := String.ofList (Nat.toDigits 16 n)

/-- The length of the run of zeros that starts at each piece. -/
def zeroRuns : List Nat → List Nat
  | [] => []
  | n :: r =>
    let rest := zeroRuns r
    (if n == 0 then rest.headD 0 + 1 else 0) :: rest

/-- The text of an address: the first of the longest runs of at least two zeros is left out. -/
def ipv6Text (l : List Nat) : String :=
  let runs := zeroRuns l
  let longest := runs.foldl max 0
  let join (l : List Nat) : String := ":".intercalate (l.map pieceText)
  match (if longest < 2 then none else runs.idxOf? longest) with
  | some i => join (l.take i) ++ "::" ++ join (l.drop (i + longest))
  | none => join l

/-! ## Domain names -/

def percentDecode : List Char → List UInt8
  | '%' :: a :: b :: r =>
    match hexValue? a, hexValue? b with
    | some h, some l => UInt8.ofNat (16 * h + l) :: percentDecode r
    | _, _ => '%'.toUInt8 :: percentDecode (a :: b :: r)
  | c :: r => String.utf8EncodeChar c ++ percentDecode r
  | [] => []

/-- Characters without meaning in a domain name. -/
def isIgnored (c : Char) : Bool :=
  c == '\u00AD' || c == '\u200B' || c == '\u2060' || c == '\uFEFF' ||
    ('\uFE00' ≤ c && c ≤ '\uFE0F')

/-- Full stops that other scripts write between labels. -/
def isLabelSeparator (c : Char) : Bool :=
  c == '.' || c == '\u3002' || c == '\uFF0E' || c == '\uFF61'

/-- The form in which spellings of a domain name agree. -/
def mapDomain (s : List Char) : String :=
  let dotted := (s.filter fun c => !isIgnored c).map fun c => if isLabelSeparator c then '.' else c
  let compose := NormalForm.normalize .nfkc
  let small := (compose (String.ofList dotted)).toList.flatMap (mapChar lowerMap)
  compose (String.ofList small)

def isForbidden (c : Char) : Bool :=
  c.toNat ≤ 0x20 || c.toNat == 0x7F || "%#/:<>?@[\\]^|".toList.contains c ||
    (0x80 ≤ c.toNat &&
      match category c with
      | .Cc | .Cf | .Cs | .Co | .Cn | .Zs | .Zl | .Zp => c != '\u200C' && c != '\u200D'
      | _ => c == '\uFFFD')

/-- Whether a label may be used: none of its characters is forbidden, and no mark comes first. -/
def isLabel (s : List Char) : Bool :=
  !s.any isForbidden &&
    match s.head?.map category with
    | some .Mn | some .Mc | some .Me => false
    | _ => true

def labelText? (s : List Char) : Option (List Char) :=
  match s with
  | 'x' :: 'n' :: '-' :: '-' :: r => do
    let l ← Punycode.decode? r
    if isLabel l && l.any (fun c => 0x80 ≤ c.toNat) && (mapDomain l).toList == l then return s
    else none
  | _ =>
    if !isLabel s then none
    else if s.all fun c => c.toNat < 0x80 then some s
    else some ("xn--".toList ++ Punycode.encode s)

/-- The text of a domain name, or of the address that it turns out to be. -/
def domain? (s : List Char) : Option String := do
  let bytes := percentDecode s
  let decoded ← String.fromUTF8? ⟨bytes.toArray⟩
  let labels ← (pieces (· == '.') (mapDomain decoded.toList).toList).mapM labelText?
  if labels.all (·.isEmpty) && labels.length ≤ 1 then none
  else if endsInNumber labels then (ipv4? labels).map ipv4Text
  else return ".".intercalate (labels.map String.ofList)

/-! ## Hosts -/

/-- Characters that are kept in the host of a URI whose scheme has no rules for hosts. -/
def isHostChar (c : Char) : Bool := 0x20 ≤ c.toNat && c.toNat < 0x7F

/-- The text of a host. Outside of special schemes it is not looked at closely. -/
def host? (special : Bool) (s : List Char) : Option String :=
  match s with
  | '[' :: r =>
    if r.getLast? == some ']' then (ipv6? r.dropLast).map fun l => "[" ++ ipv6Text l ++ "]"
    else none
  | _ =>
    if special then domain? s
    else if s.any fun c => c == '\x00' || " #/:<>?@[\\]^|".toList.contains c then none
    else some (escape isHostChar (String.ofList s))

end XPath.Uri
