import Std.Data.HashMap
import XPath.Unicode.Case
import XPath.Unicode.DecompositionTable

/-!
# Normalization forms

A text is decomposed, its marks are put into canonical order, and for the composed forms it is
composed again. The compatibility forms also decompose characters that are mere variants.
-/

namespace XPath.Unicode

open XPath.Text

/-! ## Tables -/

def canonicalMap : CharMap := .ofList (readMappings canonicalRuns)

def compatibilityMap : CharMap := .ofList (readMappings compatibilityRuns)

def combiningClasses : RunTable Nat :=
  .ofRuns ((tableWords combiningClassRuns).map fun w =>
    let (n, k) := (splitFirst? '*' w).getD (w, [])
    (digitsValue n, digitsValue k))

/-- The canonical combining class; zero for a character that starts a sequence. -/
def combiningClass (c : Char) : Nat := (combiningClasses.get? c.toNat).getD 0

/-- The characters that pairs compose to. A pair does not compose if its character is excluded, or
if one of the two characters in front is a mark. -/
def compositionMap : Std.HashMap (Nat × Nat) Nat :=
  let excluded := (tableWords compositionExclusions).map hexNumber
  let entries := (readMappings canonicalRuns).filterMap fun (source, targets) =>
    match targets with
    | [a, b] =>
      if combiningClass (Char.ofNat source) != 0 || combiningClass (Char.ofNat a) != 0 ||
        excluded.contains source then none
      else some ((a, b), source)
    | _ => none
  .ofList entries

/-! ## Hangul -/

namespace Hangul

/-- The first syllable, leading consonant, vowel, and the place before the first trailing
consonant. -/
def syllable : Nat := 0xAC00
def leading : Nat := 0x1100
def vowel : Nat := 0x1161
def trailing : Nat := 0x11A7

/-- The parts of a syllable. -/
def decompose? (c : Char) : Option (List Char) :=
  let n := c.toNat
  if syllable ≤ n && n < syllable + 11172 then
    let i := n - syllable
    let front := [Char.ofNat (leading + i / 588), Char.ofNat (vowel + i % 588 / 28)]
    some (if i % 28 == 0 then front else front ++ [Char.ofNat (trailing + i % 28)])
  else none

/-- The syllable of a consonant and a vowel, or of a syllable and a trailing consonant. -/
def compose? (a b : Char) : Option Char :=
  let m := a.toNat
  let n := b.toNat
  if leading ≤ m && m < leading + 19 && vowel ≤ n && n < vowel + 21 then
    some (Char.ofNat (syllable + ((m - leading) * 21 + (n - vowel)) * 28))
  else if syllable ≤ m && m < syllable + 11172 && (m - syllable) % 28 == 0 && trailing < n &&
      n < trailing + 28 then
    some (Char.ofNat (m + (n - trailing)))
  else none

end Hangul

/-! ## Decomposition and composition -/

/-- The decomposition of a character in at most `depth` steps. No character needs more than four. -/
def decomposeChar (compatibility : Bool) : Nat → Char → List Char
  | 0, c => [c]
  | depth + 1, c =>
    match Hangul.decompose? c with
    | some parts => parts
    | none =>
      let targets? := match canonicalMap[c.toNat]? with
        | some t => some t
        | none => if compatibility then compatibilityMap[c.toNat]? else none
      match targets? with
      | some targets => targets.flatMap fun t => decomposeChar compatibility depth (Char.ofNat t)
      | none => [c]

/-- Puts a mark before the first character that does not have to precede it. -/
def insertMark (c : Char) : List Char → List Char
  | [] => [c]
  | d :: r =>
    if combiningClass d != 0 && combiningClass d < combiningClass c then d :: insertMark c r
    else c :: d :: r

def orderMarks (s : List Char) : List Char :=
  s.foldr (fun c r => if combiningClass c == 0 then c :: r else insertMark c r) []

def decompose (compatibility : Bool) (s : String) : List Char :=
  orderMarks (s.toList.flatMap (decomposeChar compatibility 8))

def composePair? (a b : Char) : Option Char :=
  match Hangul.compose? a b with
  | some c => some c
  | none => compositionMap[(a.toNat, b.toNat)]?.map Char.ofNat

/-- Composes `starter` with what follows it; `marks` are the marks in between, in reverse order. A
mark is blocked by one before it with the same or a higher class. -/
def composeFrom (starter : Char) (marks : List Char) : List Char → List Char
  | [] => starter :: marks.reverse
  | c :: r =>
    let k := combiningClass c
    let free := match marks with
      | [] => true
      | m :: _ => combiningClass m < k
    match (if free then composePair? starter c else none) with
    | some p => composeFrom p marks r
    | none =>
      if k == 0 then starter :: (marks.reverse ++ composeFrom c [] r)
      else composeFrom starter (c :: marks) r

def compose (s : List Char) : List Char :=
  let marks := s.takeWhile (combiningClass · != 0)
  match s.drop marks.length with
  | [] => marks
  | c :: r => marks ++ composeFrom c [] r

inductive NormalForm where
  | nfc | nfd | nfkc | nfkd
  deriving DecidableEq, Repr

namespace NormalForm

def ofName? : String → Option NormalForm
  | "NFC" => some nfc
  | "NFD" => some nfd
  | "NFKC" => some nfkc
  | "NFKD" => some nfkd
  | _ => none

def normalize : NormalForm → String → String
  | nfc, s => String.ofList (compose (decompose false s))
  | nfd, s => String.ofList (decompose false s)
  | nfkc, s => String.ofList (compose (decompose true s))
  | nfkd, s => String.ofList (decompose true s)

end NormalForm

def withoutMarks (s : String) : String :=
  String.ofList ((decompose false s).filter (combiningClass · == 0))

end XPath.Unicode
