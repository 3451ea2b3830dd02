import Std.Data.HashMap
import XPath.Unicode.CaseTable
import XPath.Unicode.Property

/-!
# Letter case

Full case mapping may turn one character into several; the Greek sigma has a lower-case form of
its own at the end of a word. Simple case folding maps the characters that differ in case only to
one image, and so gives the case variants of a character.
-/

namespace XPath.Unicode

abbrev CharMap := Std.HashMap Nat (List Nat)

def upperMap : CharMap := .ofList (readMappings upperRuns)

def lowerMap : CharMap := .ofList (readMappings lowerRuns)

/-- The images of simple case folding that differ from their source. -/
def foldMap : CharMap := .ofList (readMappings foldRuns)

/-- The sources of each image of simple case folding. -/
def unfoldMap : CharMap :=
  (readMappings foldRuns).foldl (fun m (source, targets) =>
    targets.foldl (fun m t => m.insert t (source :: m.getD t [])) m) {}

def mapChar (m : CharMap) (c : Char) : List Char :=
  match m[c.toNat]? with
  | some targets => targets.map Char.ofNat
  | none => [c]

def upper (s : String) : String := String.ofList (s.toList.flatMap (mapChar upperMap))

/-- Whether a cased character comes first, apart from characters that case does not apply to. -/
def startsCased (s : List Char) : Bool :=
  match s.dropWhile isCaseIgnorable with
  | c :: _ => isCased c
  | [] => false

/-- The lower case of a text, given what stands before it in reverse order. -/
def lowerAfter : List Char → List Char → List Char
  | _, [] => []
  | before, c :: r =>
    (if c == 'Σ' then [if startsCased before && !startsCased r then 'ς' else 'σ']
      else mapChar lowerMap c) ++ lowerAfter (c :: before) r

def lower (s : String) : String := String.ofList (lowerAfter [] s.toList)

def fold (c : Char) : Nat := ((foldMap[c.toNat]?.bind List.head?).getD c.toNat)

/-- The characters that differ from `c` at most in case. -/
def caseVariants (c : Char) : List Char :=
  let f := fold c
  (f :: unfoldMap.getD f []).map Char.ofNat

end XPath.Unicode
