import XPath.Regex.Match

/-!
# Replacing and splitting

The matches in a text cut it into pieces: those that match, and those between them. Replacing puts
an expansion into the place of each match, splitting keeps what stands between them. An expansion
is made after a template, in which groups are referred to by number.
-/

namespace XPath.Regex

open XPath.Text

/-! ## Templates -/

/-- A piece of a template: text, or what a group holds. -/
inductive TemplatePiece where
  | text (s : List Char)
  | group (n : Nat)
  deriving DecidableEq, Repr, Inhabited

abbrev Template := List TemplatePiece

namespace Template

def consChar (c : Char) : Template → Template
  | .text s :: t => .text (c :: s) :: t
  | t => .text [c] :: t

/-- Goes on with the number of a group: a digit belongs to it as long as there are that many
groups. The rest is what follows the number. -/
def groupNumber (groups : Nat) : Nat → List Char → Nat × List Char
  | n, [] => (n, [])
  | n, c :: r =>
    if isDigit c then
      let m := 10 * n + (c.toNat - '0'.toNat)
      if m ≤ groups then groupNumber groups m r else (n, c :: r)
    else (n, c :: r)

theorem groupNumber_rest_le (groups n : Nat) (s : List Char) :
    (groupNumber groups n s).2.length ≤ s.length := by
  induction s generalizing n with
  | nil => simp [groupNumber]
  | cons c r ih =>
    simp only [groupNumber]
    split
    · split
      · exact Nat.le_succ_of_le (ih _)
      · exact Nat.le_refl _
    · exact Nat.le_refl _

/-- Reads a template for a pattern with a number of groups. A dollar sign and digits stand for what
a group holds; both the dollar sign and the backslash stand for themselves after a backslash. There
is no other use of the two. -/
def read? (groups : Nat) : List Char → Option Template
  | [] => some []
  | '\\' :: c :: r =>
    if c == '$' || c == '\\' then (read? groups r).map (consChar c) else none
  | ['\\'] => none
  | '$' :: c :: r =>
    if isDigit c then
      (read? groups (groupNumber groups (c.toNat - '0'.toNat) r).2).map
        (.group (groupNumber groups (c.toNat - '0'.toNat) r).1 :: ·)
    else none
  | ['$'] => none
  | c :: r => (read? groups r).map (consChar c)
termination_by s => s.length
decreasing_by
  · simp only [List.length_cons]; omega
  · have h := groupNumber_rest_le groups (c.toNat - '0'.toNat) r
    simp only [List.length_cons]; omega
  · simp only [List.length_cons]; omega

/-- What a template makes of a match. A group that holds nothing gives no text. -/
def expand (t : Template) (text : List Char) (m : Match) : List Char :=
  t.flatMap fun
    | .text s => s
    | .group n => ((m.group? n).map fun s => s.of text).getD []

end Template

/-! ## Cutting a text -/

/-- The text from an index on, with an expansion in the place of each match. -/
def spliceFrom (text : List Char) (expand : Match → List Char) : Nat → List Match → List Char
  | last, [] => text.drop last
  | last, m :: r =>
    Span.of ⟨last, m.span.start⟩ text ++ expand m ++ spliceFrom text expand m.span.stop r

/-- The pieces of a text between spans, from an index on. -/
def splitFrom (text : List Char) : Nat → List Span → List (List Char)
  | last, [] => [text.drop last]
  | last, s :: r => Span.of ⟨last, s.start⟩ text :: splitFrom text s.stop r

end XPath.Regex
