/-!
# White space and splitting

Lexical forms are read as lists of characters. This module says which characters are white space,
removes it from the ends of a text, cuts a text into words, and cuts it once at a separator.
-/

namespace XPath.Text

/-- The characters with the Unicode property White_Space. -/
def isSpace (c : Char) : Bool :=
  let n := c.toNat
  (9 ≤ n && n ≤ 13) || n == 0x20 || n == 0x85 || n == 0xA0 || n == 0x1680 ||
    (0x2000 ≤ n && n ≤ 0x200A) || n == 0x2028 || n == 0x2029 || n == 0x202F || n == 0x205F ||
    n == 0x3000

/-- The four white space characters of XML. -/
def isXmlSpace (c : Char) : Bool :=
  c == ' ' || c == '\t' || c == '\n' || c == '\r'

def trim (s : List Char) : List Char :=
  ((s.dropWhile isSpace).reverse.dropWhile isSpace).reverse

/-- The pieces between separators; a separator at an end, or two in a row, leave an empty piece. -/
def pieces (sep : Char → Bool) : List Char → List (List Char)
  | [] => [[]]
  | c :: r =>
    if sep c then [] :: pieces sep r
    else match pieces sep r with
      | [] => [[c]]
      | w :: ws => (c :: w) :: ws

def wordsBy (sep : Char → Bool) (s : List Char) : List (List Char) :=
  (pieces sep s).filter (!·.isEmpty)

/-- The words of a text: its maximal runs of characters that are not white space. -/
def words (s : List Char) : List (List Char) :=
  wordsBy isSpace s

/-- The words of a text with one blank between them. -/
def collapse (s : String) : String :=
  " ".intercalate ((words s.toList).map String.ofList)

/-- What stands before and after the first `sep`, if there is one. -/
def splitFirst? (sep : Char) : List Char → Option (List Char × List Char)
  | [] => none
  | c :: r =>
    if c == sep then some ([], r)
    else (splitFirst? sep r).map fun p => (c :: p.1, p.2)

def splitLast? (sep : Char) (s : List Char) : Option (List Char × List Char) :=
  (splitFirst? sep s.reverse).map fun p => (p.2.reverse, p.1.reverse)

def dropStart? : List Char → List Char → Option (List Char)
  | [], s => some s
  | _ :: _, [] => none
  | p :: ps, c :: cs => if p == c then dropStart? ps cs else none

def isDigit (c : Char) : Bool :=
  '0' ≤ c && c ≤ '9'

def digitsValue (s : List Char) : Nat :=
  s.foldl (fun n c => 10 * n + (c.toNat - '0'.toNat)) 0

/-- A number in decimal, with zeros in front up to `width` digits. -/
def padded (width n : Nat) : String :=
  let s := toString n
  String.ofList (List.replicate (width - s.length) '0') ++ s

theorem splitFirst?_eq_some {sep : Char} {s a b : List Char} (h : splitFirst? sep s = some (a, b)) :
    s = a ++ sep :: b ∧ sep ∉ a := by
  induction s generalizing a with
  | nil => simp [splitFirst?] at h
  | cons c r ih =>
    by_cases hc : c = sep
    · simp [splitFirst?, hc] at h
      obtain ⟨rfl, rfl⟩ := h
      simp [hc]
    · simp only [splitFirst?, beq_iff_eq, hc, if_false, Option.map_eq_some_iff] at h
      obtain ⟨⟨a', b'⟩, h', he⟩ := h
      obtain ⟨rfl, rfl⟩ := Prod.mk.inj he
      obtain ⟨rfl, hn⟩ := ih h'
      simp [hn, Ne.symm hc]

end XPath.Text
