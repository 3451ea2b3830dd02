import XPath.Text.Space

/-!
# Words

A word of a text is a run of characters other than white space that ends, on either side, at white
space or with the text.  White space separates the words before it from those behind it, so how the
words are distributed over several texts makes no difference.  A text is trimmed to its part from
the first to the last character that is not white space.
-/

namespace XPath.Text

variable {s t w : List Char} {c : Char}

/-! ## 1. Words -/

/-- `w` is one of the words of the text `s`. -/
structure IsWord (w s : List Char) : Prop where
  ne_nil : w ≠ []
  solid : ∀ c ∈ w, isSpace c = false
  stands : ∃ a b, s = a ++ w ++ b ∧ (∀ c, a.getLast? = some c → isSpace c = true) ∧
    ∀ c, b.head? = some c → isSpace c = true

theorem pieces_eq_splitOnP (sep : Char → Bool) (s : List Char) : pieces sep s = s.splitOnP sep := by
  induction s with
  | nil => rw [pieces, List.splitOnP_nil]
  | cons c s ih =>
    rw [pieces, List.splitOnP_cons_eq_if_modifyHead, ih]
    split
    · rfl
    · rcases List.exists_cons_of_ne_nil (List.splitOnP_ne_nil sep s) with ⟨p, ps, hsplit⟩
      rw [hsplit]
      rfl

theorem wordsBy_append_cons {sep : Char → Bool} (s t : List Char) (hc : sep c = true) :
    wordsBy sep (s ++ c :: t) = wordsBy sep s ++ wordsBy sep t := by
  rw [wordsBy, pieces_eq_splitOnP, List.splitOnP_append_cons s t hc, List.filter_append,
    ← pieces_eq_splitOnP, ← pieces_eq_splitOnP]
  rfl

/-- White space separates the words before it from those behind it. -/
theorem words_append_space (s t : List Char) (hc : isSpace c = true) :
    words (s ++ c :: t) = words s ++ words t := wordsBy_append_cons s t hc

theorem words_of_solid (hne : w ≠ []) (h : ∀ c ∈ w, isSpace c = false) : words w = [w] := by
  rw [words, wordsBy, pieces_eq_splitOnP, List.splitOnP_eq_singleton h]
  simp [hne]

theorem IsWord.append_right (h : IsWord w s) (hc : isSpace c = true) (t : List Char) :
    IsWord w (s ++ c :: t) := by
  rcases h.stands with ⟨a, b, rfl, ha, hb⟩
  refine ⟨h.ne_nil, h.solid, a, b ++ c :: t, by simp, ha, ?_⟩
  intro d hd
  cases b with
  | nil =>
    cases hd
    exact hc
  | cons e b => exact hb d hd

theorem IsWord.append_left (h : IsWord w t) (hc : isSpace c = true) (s : List Char) :
    IsWord w (s ++ c :: t) := by
  rcases h.stands with ⟨a, b, rfl, ha, hb⟩
  refine ⟨h.ne_nil, h.solid, s ++ c :: a, b, by simp, ?_, hb⟩
  intro d hd
  rw [List.getLast?_append] at hd
  cases a with
  | nil =>
    cases hd
    exact hc
  | cons e a => exact ha d (by simpa using hd)

theorem isWord_of_mem_words {s w : List Char} (h : w ∈ words s) : IsWord w s := by
  by_cases hsolid : ∀ c ∈ s, isSpace c = false
  · cases s with
    | nil => simp [words, wordsBy, pieces] at h
    | cons c s =>
      rw [words_of_solid (by simp) hsolid, List.mem_singleton] at h
      subst h
      exact ⟨by simp, hsolid, [], [], by simp, by simp, by simp⟩
  · have hspace : ∃ c ∈ s, isSpace c = true := by simpa using hsolid
    rcases hspace with ⟨c, hmem, hc⟩
    -- a text with white space in it is cut there, and both parts are shorter
    rcases List.append_of_mem hmem with ⟨a, b, rfl⟩
    rw [words_append_space a b hc, List.mem_append] at h
    rcases h with h | h
    · exact (isWord_of_mem_words h).append_right hc b
    · exact (isWord_of_mem_words h).append_left hc a
termination_by s.length

theorem mem_words_iff : w ∈ words s ↔ IsWord w s := by
  refine ⟨isWord_of_mem_words, ?_⟩
  intro h
  rcases h.stands with ⟨a, b, rfl, ha, hb⟩
  have hword : w ∈ words w := by
    rw [words_of_solid h.ne_nil h.solid]
    exact List.mem_singleton_self w
  -- the white space on the right ends the word, then that on the left
  have hleft : w ∈ words (a ++ w) := by
    rcases List.eq_nil_or_concat a with rfl | ⟨a', c, rfl⟩
    · exact hword
    · rw [List.concat_eq_append] at ha ⊢
      rw [List.append_assoc, List.singleton_append, words_append_space a' w (ha c (by simp))]
      exact List.mem_append_right _ hword
  cases b with
  | nil => rwa [List.append_nil]
  | cons c b =>
    rw [words_append_space (a ++ w) b (hb c rfl)]
    exact List.mem_append_left _ hleft

/-! ## 2. White space at the ends -/

/-- `w` is the text `s` without the white space at its ends. -/
structure IsTrimmed (w s : List Char) : Prop where
  around : ∃ a b, s = a ++ w ++ b ∧ (∀ c ∈ a, isSpace c = true) ∧ ∀ c ∈ b, isSpace c = true
  first : ∀ c, w.head? = some c → isSpace c = false
  last : ∀ c, w.getLast? = some c → isSpace c = false

theorem not_isSpace_head?_dropWhile (s : List Char) (c : Char)
    (h : (s.dropWhile isSpace).head? = some c) : isSpace c = false := by
  have hhead := List.head?_dropWhile_not isSpace s
  rwa [h] at hhead

/-- What is left after the first step of trimming is followed by what the second step takes away. -/
theorem dropWhile_eq_append (p : Char → Bool) (s : List Char) : s.dropWhile p =
    ((s.dropWhile p).reverse.dropWhile p).reverse ++
      ((s.dropWhile p).reverse.takeWhile p).reverse := by
  rw [← List.reverse_append, List.takeWhile_append_dropWhile, List.reverse_reverse]

theorem exists_around (p : Char → Bool) (s : List Char) :
    ∃ a b, s = a ++ ((s.dropWhile p).reverse.dropWhile p).reverse ++ b ∧
      (∀ c ∈ a, p c = true) ∧ ∀ c ∈ b, p c = true := by
  refine ⟨s.takeWhile p, ((s.dropWhile p).reverse.takeWhile p).reverse, ?_, ?_, ?_⟩
  · rw [List.append_assoc, ← dropWhile_eq_append, List.takeWhile_append_dropWhile]
  · exact List.all_eq_true.mp List.all_takeWhile
  · intro c hc
    exact List.all_eq_true.mp List.all_takeWhile c (List.mem_reverse.mp hc)

theorem isTrimmed_trim (s : List Char) : IsTrimmed (trim s) s := by
  have hrest := dropWhile_eq_append isSpace s
  change s.dropWhile isSpace = trim s ++ _ at hrest
  refine ⟨exists_around isSpace s, ?_, ?_⟩
  · intro c hc
    apply not_isSpace_head?_dropWhile s
    rw [hrest, List.head?_append, hc]
    rfl
  · intro c hc
    apply not_isSpace_head?_dropWhile (s.dropWhile isSpace).reverse
    rw [← List.getLast?_reverse]
    exact hc

theorem dropWhile_eq_self (h : ∀ c, s.head? = some c → isSpace c = false) :
    s.dropWhile isSpace = s := by
  cases s with
  | nil => rfl
  | cons c s => rw [List.dropWhile_cons_of_neg (by simp [h c rfl])]

theorem trim_eq_iff : trim s = w ↔ IsTrimmed w s := by
  refine ⟨?_, ?_⟩
  · intro h
    subst h
    exact isTrimmed_trim s
  · intro h
    rcases h.around with ⟨a, b, rfl, ha, hb⟩
    rw [trim, List.append_assoc, List.dropWhile_append_of_pos ha]
    cases w with
    | nil =>
      -- there is nothing but white space
      have hnone : b.dropWhile isSpace = [] := by
        rw [← List.append_nil b, List.dropWhile_append_of_pos hb]
        rfl
      rw [List.nil_append, hnone]
      rfl
    | cons c w =>
      have hfirst : ((c :: w) ++ b).dropWhile isSpace = (c :: w) ++ b :=
        dropWhile_eq_self h.first
      have hlast : (c :: w).reverse.dropWhile isSpace = (c :: w).reverse := by
        apply dropWhile_eq_self
        rw [List.head?_reverse]
        exact h.last
      have hspaces : ∀ d ∈ b.reverse, isSpace d = true := fun d hd => hb d (List.mem_reverse.mp hd)
      rw [hfirst, List.reverse_append, List.dropWhile_append_of_pos hspaces, hlast,
        List.reverse_reverse]

theorem trim_of_ends (hfirst : ∀ c, s.head? = some c → isSpace c = false)
    (hlast : ∀ c, s.getLast? = some c → isSpace c = false) : trim s = s :=
  trim_eq_iff.mpr ⟨⟨[], [], by simp, by simp, by simp⟩, hfirst, hlast⟩

theorem trim_trim (s : List Char) : trim (trim s) = trim s :=
  trim_of_ends (isTrimmed_trim s).first (isTrimmed_trim s).last

end XPath.Text
