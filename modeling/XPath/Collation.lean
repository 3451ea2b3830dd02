import XPath.Error
import XPath.Unicode.Normal

/-!
# Collations

A collation maps a text to a key; two texts compare as their keys do by code points. There are
four built-in collations, which ignore case, accents, both, or nothing. Collations are named by
URIs, and a host may add some.
-/

namespace XPath

/-- The URI of the collation that compares texts as they are. -/
def codepointUri : String := "http://www.w3.org/2005/xpath-functions/collation/codepoint"

/-- A collation. The code point URI always names the comparison of the texts themselves. -/
structure Collation where
  uri : String
  /-- The text that stands for another in comparisons. -/
  key : String → String
  key_eq_of_codepoint : uri = codepointUri → ∀ s, key s = s

namespace Collation

def codepoint : Collation where
  uri := codepointUri
  key s := s
  key_eq_of_codepoint _ _ := rfl

def simpleCase : Collation where
  uri := "urn:xpath2-engine:collation:simple-case"
  key := Unicode.lower
  key_eq_of_codepoint h := absurd h (by decide)

def simpleAccent : Collation where
  uri := "urn:xpath2-engine:collation:simple-accent"
  key := Unicode.withoutMarks
  key_eq_of_codepoint h := absurd h (by decide)

def simpleCaseAccent : Collation where
  uri := "urn:xpath2-engine:collation:simple-case-accent"
  key s := Unicode.lower (Unicode.withoutMarks s)
  key_eq_of_codepoint h := absurd h (by decide)

instance : Inhabited Collation := ⟨codepoint⟩

/-- The order of the keys by code points. -/
def compare (c : Collation) (s t : String) : Ordering :=
  compareOfLessAndEq (c.key s).toList (c.key t).toList

def equal (c : Collation) (s t : String) : Bool := c.compare s t == .eq

end Collation

/-- The collations that are known. -/
structure Collations where
  known : List Collation

namespace Collations

/-- Adds a collation, which takes the place of one with its URI. -/
def insert (r : Collations) (c : Collation) : Collations := ⟨c :: r.known⟩

def builtIn : Collations :=
  [.codepoint, .simpleCase, .simpleAccent, .simpleCaseAccent].foldl insert ⟨[]⟩

def get? (r : Collations) (uri : String) : Option Collation := r.known.find? (·.uri == uri)

def get (r : Collations) (uri : String) : Result Collation :=
  match r.get? uri with
  | some c => .ok c
  | none => .error (.of .FOCH0002 ("unsupported collation: " ++ uri))

/-- The collation of the code point URI, which is always there. -/
def codepoint (r : Collations) : Collation := (r.get? codepointUri).getD .codepoint

theorem get?_insert (r : Collations) (c : Collation) (uri : String) :
    (r.insert c).get? uri = if c.uri = uri then some c else r.get? uri := by
  by_cases h : c.uri = uri
  · rw [if_pos h, get?, insert, List.find?_cons_of_pos (by simpa using h)]
  · rw [if_neg h, get?, insert, List.find?_cons_of_neg (by simpa using h), get?]

end Collations

end XPath
