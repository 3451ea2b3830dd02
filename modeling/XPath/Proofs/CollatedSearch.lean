import XPath.Library.Strings
import XPath.Proofs.Equality
import XPath.Proofs.Text.Utf8

/-!
# Searching under a collation

A search that tries every piece of a text, place after place and the shortest piece first, says what
is to be found.  The program's searches find just that, and so does a search for the bytes of a text
under the code point collation.
-/

namespace XPath

namespace Collation

variable {c : Collation} {s t : List Char}

/-! ## 1. The pieces of a text -/

/-- A text that is cut in three. -/
structure Cut where
  before : List Char
  piece : List Char
  after : List Char

namespace Cut

variable {k l : Cut}

def text (k : Cut) : List Char := k.before ++ k.piece ++ k.after

/-- From which byte of the text up to which the piece stands. -/
def byteRange (k : Cut) : Nat × Nat :=
  ((Text.utf8 k.before).length, (Text.utf8 k.before).length + (Text.utf8 k.piece).length)

/-- Whether a piece starts before another, or where it starts and is shorter. -/
def Earlier (k l : Cut) : Prop :=
  k.before.length < l.before.length ∨
    k.before = l.before ∧ k.piece.length < l.piece.length

end Cut

/-- All pieces of a text, those that start first before others, and the shorter ones first. -/
def cuts (s : List Char) : List Cut :=
  (splits s).flatMap fun p => (splits p.2).map fun q => ⟨p.1, q.1, q.2⟩

theorem mem_splits {p : List Char × List Char} : p ∈ splits s ↔ p.1 ++ p.2 = s := by
  induction s generalizing p with
  | nil => simp [splits, Prod.ext_iff]
  | cons x s ih =>
    obtain ⟨a, b⟩ := p
    cases a with
    | nil => simp [splits]
    | cons y a => simp [splits, ih, and_comm, eq_comm]

theorem mem_suffixes {b : List Char} : b ∈ suffixes s ↔ ∃ a, a ++ b = s := by
  induction s with
  | nil => simp [suffixes]
  | cons x s ih =>
    rw [suffixes, List.mem_cons, ih]
    constructor
    · rintro (rfl | ⟨a, rfl⟩)
      · exact ⟨[], rfl⟩
      · exact ⟨x :: a, rfl⟩
    · rintro ⟨a, h⟩
      cases a with
      | nil => exact .inl h
      | cons y a => exact .inr ⟨a, (List.cons.inj h).2⟩

theorem mem_cuts {k : Cut} : k ∈ cuts s ↔ k.text = s := by
  obtain ⟨a, m, b⟩ := k
  simp [cuts, mem_splits, Cut.text]

theorem splits_pairwise : (splits s).Pairwise fun p q => p.1.length < q.1.length := by
  induction s with
  | nil => simp [splits]
  | cons x s ih =>
    rw [splits, List.pairwise_cons, List.pairwise_map]
    constructor
    · intro p hp
      obtain ⟨q, -, rfl⟩ := List.mem_map.mp hp
      simp
    · refine ih.imp ?_
      intro p q h
      simpa using h

theorem cuts_pairwise : (cuts s).Pairwise Cut.Earlier := by
  rw [cuts, List.pairwise_flatMap]
  constructor
  · intro p _
    rw [List.pairwise_map]
    exact splits_pairwise.imp fun h => .inr ⟨rfl, h⟩
  · refine splits_pairwise.imp ?_
    intro p q h k hk l hl
    obtain ⟨_, -, rfl⟩ := List.mem_map.mp hk
    obtain ⟨_, -, rfl⟩ := List.mem_map.mp hl
    exact .inl h

/-! ## 2. What is to be found -/

/-- Whether a piece of text is equal to `t`. -/
def isMatch (c : Collation) (t m : List Char) : Bool := c.equal (String.ofList m) (String.ofList t)

/-- The first piece of a text that is equal to `t`. -/
def scan? (c : Collation) (t s : List Char) : Option Cut :=
  (cuts s).find? fun k => c.isMatch t k.piece

/-- A piece that is equal to `t`, where every other such piece of the text comes later. -/
structure FirstMatch (c : Collation) (t s : List Char) (k : Cut) : Prop where
  text : k.text = s
  isMatch : c.isMatch t k.piece = true
  first : ∀ l : Cut, l.text = s → c.isMatch t l.piece = true →
    k = l ∨ k.Earlier l

theorem firstMatch_of_scan? {k : Cut} (h : c.scan? t s = some k) : c.FirstMatch t s k := by
  obtain ⟨hk, earlier, later, hcuts, hnone⟩ := List.find?_eq_some_iff_append.mp h
  have hpairs := cuts_pairwise (s := s)
  rw [hcuts, List.pairwise_append, List.pairwise_cons] at hpairs
  refine ⟨mem_cuts.mp (by simp [hcuts]), hk, ?_⟩
  intro l hl hmatch
  -- what comes before the piece in the list is no match, and what comes behind it is later
  rw [← mem_cuts, hcuts, List.mem_append, List.mem_cons] at hl
  obtain hl | rfl | hl := hl
  · have := hnone l hl
    simp [hmatch] at this
  · exact .inl rfl
  · exact .inr (hpairs.2.1.1 l hl)

namespace FirstMatch

variable {k l : Cut}

theorem before_le (h : c.FirstMatch t s k) (hl : l.text = s)
    (hmatch : c.isMatch t l.piece = true) :
    k.before.length ≤ l.before.length := by
  obtain rfl | hlt | ⟨hb, -⟩ := h.first l hl hmatch
  · exact le_rfl
  · exact hlt.le
  · rw [hb]

theorem piece_le (h : c.FirstMatch t s k) (hl : l.text = s)
    (hmatch : c.isMatch t l.piece = true)
    (hb : k.before = l.before) : k.piece.length ≤ l.piece.length := by
  obtain rfl | hlt | ⟨-, hlt⟩ := h.first l hl hmatch
  · exact le_rfl
  · rw [hb] at hlt
    exact absurd hlt (lt_irrefl _)
  · exact hlt.le

end FirstMatch

theorem ne_of_scan?_eq_none (h : c.scan? t s = none) {k : Cut} (hk : k.text = s) :
    c.isMatch t k.piece = false := by
  rw [scan?, List.find?_eq_none] at h
  simpa using h k (mem_cuts.mpr hk)

/-! ## 3. The searches of the program -/

/-- Under the code point URI pieces match as they are. -/
theorem isMatch_iff_of_codepoint (h : c.uri = codepointUri) {m : List Char} :
    c.isMatch t m = true ↔ m = t := by
  rw [isMatch, equal_iff, c.key_eq_of_codepoint h, c.key_eq_of_codepoint h]
  exact String.ofList_inj

theorem codepoint_isMatch_iff {m : List Char} : codepoint.isMatch t m = true ↔ m = t :=
  isMatch_iff_of_codepoint rfl

theorem hasKey_eq : c.hasKey s (c.key (String.ofList t)) = c.isMatch t s := by
  rw [Bool.eq_iff_iff, isMatch, equal_iff, hasKey, beq_iff_eq]

theorem dropStart?_eq_find?_splits :
    Text.dropStart? t s = ((splits s).find? fun p => p.1 == t).map (·.2) := by
  induction t generalizing s with
  | nil => cases s <;> rfl
  | cons y t ih =>
    cases s with
    | nil => rfl
    | cons x s =>
      rw [Text.dropStart?, splits, List.find?_cons_of_neg (by simp), List.find?_map]
      by_cases hxy : y = x
      · subst hxy
        simp [ih, Function.comp_def]
      · have hne (p : List Char × List Char) : (x :: p.1 == y :: t) = false := by
          simp [Ne.symm hxy]
        simp [hxy, Function.comp_def, hne]

theorem afterPrefix?_eq : c.afterPrefix? t s =
    ((splits s).find? fun p => c.isMatch t p.1).map (·.2) := by
  unfold afterPrefix?
  split
  case isTrue hc =>
    rw [dropStart?_eq_find?_splits]
    congr 2
    funext p
    rw [Bool.eq_iff_iff, isMatch_iff_of_codepoint (beq_iff_eq.mp hc), beq_iff_eq]
  case isFalse => simp only [hasKey_eq]

/-- The program's search is the one through all pieces. -/
theorem find?_eq_scan? : c.find? t s = (c.scan? t s).map fun k => (k.before, k.after) := by
  induction s with
  | nil => simp [find?, afterPrefix?_eq, scan?, cuts, splits]
  | cons x s ih =>
    -- the pieces that start at `x` come first, and the others are those of `s`
    have hcuts : cuts (x :: s) = ((splits (x :: s)).map fun q => ⟨[], q.1, q.2⟩) ++
        (cuts s).map fun k => ⟨x :: k.before, k.piece, k.after⟩ := by
      rw [cuts, splits, List.flatMap_cons, List.flatMap_map, cuts, List.map_flatMap]
      simp [splits, Function.comp_def]
    rw [find?, afterPrefix?_eq, ih, scan?, scan?, hcuts, List.find?_append, List.find?_map,
      List.find?_map]
    simp only [Function.comp_def]
    cases (splits (x :: s)).find? _ <;> simp [Function.comp_def]

theorem occursIn_iff : c.occursIn t s = true ↔
    ∃ a m b, a ++ m ++ b = s ∧ c.isMatch t m = true := by
  rw [occursIn, find?_eq_scan?, Option.isSome_map, scan?, List.find?_isSome]
  constructor
  · rintro ⟨⟨a, m, b⟩, hk, hm⟩
    exact ⟨a, m, b, mem_cuts.mp hk, hm⟩
  · rintro ⟨a, m, b, hs, hm⟩
    exact ⟨⟨a, m, b⟩, mem_cuts.mpr hs, hm⟩

theorem startsWith_iff : c.startsWith s t = true ↔
    ∃ m b, m ++ b = s ∧ c.isMatch t m = true := by
  rw [startsWith, afterPrefix?_eq, Option.isSome_map, List.find?_isSome]
  simp only [mem_splits, Prod.exists]

theorem endsWith_iff : c.endsWith s t = true ↔
    ∃ a m, a ++ m = s ∧ c.isMatch t m = true := by
  unfold endsWith
  split
  case isTrue hc =>
    simp only [isMatch_iff_of_codepoint (beq_iff_eq.mp hc), List.isSuffixOf_iff_suffix]
    constructor
    · rintro ⟨a, rfl⟩
      exact ⟨a, t, rfl, rfl⟩
    · rintro ⟨a, m, rfl, rfl⟩
      exact ⟨a, rfl⟩
  case isFalse =>
    simp only [hasKey_eq, List.any_eq_true, mem_suffixes]
    constructor
    · rintro ⟨m, ⟨a, h⟩, hm⟩
      exact ⟨a, m, h, hm⟩
    · rintro ⟨a, m, h, hm⟩
      exact ⟨m, ⟨a, h⟩, hm⟩

/-- The code point search may look for bytes: it finds the piece that the search through all pieces
finds, at the same place. -/
theorem byteRange?_utf8 (ht : t ≠ []) : Text.byteRange? (Text.utf8 s) (Text.utf8 t) =
    (codepoint.scan? t s).map Cut.byteRange := by
  rw [Text.byteRange?]
  cases hscan : codepoint.scan? t s with
  | none =>
    rw [Option.map_none, Option.map_eq_none_iff, Option.eq_none_iff_forall_ne_some]
    rintro ⟨p, q⟩ hdrop
    obtain ⟨⟨_, hbytes, heq⟩, -⟩ := List.dropInfix?_eq_some_iff.mp hdrop
    obtain rfl := beq_iff_eq.mp heq
    obtain ⟨a, b, hs, -, -⟩ := Text.exists_append_of_utf8_eq ht hbytes
    have hno := ne_of_scan?_eq_none hscan (k := ⟨a, t, b⟩) hs.symm
    rw [codepoint_isMatch_iff.mpr rfl] at hno
    cases hno
  | some k =>
    obtain ⟨a, m, b⟩ := k
    have hfirst := firstMatch_of_scan? hscan
    have hs := hfirst.text
    obtain rfl : m = t := codepoint_isMatch_iff.mp hfirst.isMatch
    have hdrop : (Text.utf8 s).dropInfix? (Text.utf8 m) = some (Text.utf8 a, Text.utf8 b) := by
      rw [List.dropInfix?_eq_some_iff]
      refine ⟨⟨Text.utf8 m, by simp [← hs, Cut.text], BEq.rfl⟩, ?_⟩
      -- where the bytes occur, the characters do, and there is no earlier such place
      intro p m' q hbytes heq
      obtain rfl := beq_iff_eq.mp heq
      obtain ⟨a', b', hs', rfl, -⟩ := Text.exists_append_of_utf8_eq ht hbytes
      have hle : a.length ≤ a'.length :=
        hfirst.before_le (l := ⟨a', m, b'⟩) hs'.symm hfirst.isMatch
      have ha : a <+: s := ⟨m ++ b, by simpa [Cut.text] using hs⟩
      have ha' : a' <+: s := ⟨m ++ b', by simpa using hs'.symm⟩
      obtain ⟨r, rfl⟩ := List.prefix_of_prefix_length_le ha ha' hle
      simp
    rw [hdrop]
    rfl

end Collation

/-! ## 4. The functions -/

namespace Library

open Collation

/-- The answers of the five functions that look for one text in another. -/
structure SearchAnswers where
  contains : Bool
  startsWith : Bool
  endsWith : Bool
  before : List Char
  after : List Char

/-- What the answers say about the pieces of `s` that are equal to `t`. -/
structure SearchAnswers.Exact (r : SearchAnswers) (c : Collation) (s t : List Char) : Prop where
  contains_iff : r.contains = true ↔ ∃ a m b, a ++ m ++ b = s ∧ c.isMatch t m = true
  startsWith_iff : r.startsWith = true ↔ ∃ m b, m ++ b = s ∧ c.isMatch t m = true
  endsWith_iff : r.endsWith = true ↔ ∃ a m, a ++ m = s ∧ c.isMatch t m = true
  contains_of_startsWith : r.startsWith = true → r.contains = true
  contains_of_endsWith : r.endsWith = true → r.contains = true
  found : r.contains = true → ∃ m, r.before ++ m ++ r.after = s ∧ c.isMatch t m = true ∧
    (∀ a m' b, a ++ m' ++ b = s → c.isMatch t m' = true → r.before.length ≤ a.length) ∧
    ∀ m' b, r.before ++ m' ++ b = s → c.isMatch t m' = true → m.length ≤ m'.length
  notFound : r.contains = false → r.before = [] ∧ r.after = []

/-- The answers of the program under a collation, for a `t` that is not empty. -/
def searchAnswers (c : Collation) (s t : List Char) : SearchAnswers where
  contains := c.occursIn t s
  startsWith := c.startsWith s t
  endsWith := c.endsWith s t
  before := ((c.find? t s).map (·.1)).getD []
  after := ((c.find? t s).map (·.2)).getD []

theorem searchAnswers_exact (c : Collation) (s t : List Char) :
    (searchAnswers c s t).Exact c s t where
  contains_iff := occursIn_iff
  startsWith_iff := startsWith_iff
  endsWith_iff := endsWith_iff
  contains_of_startsWith := by
    intro h
    obtain ⟨m, b, hs, hm⟩ := startsWith_iff.mp h
    exact occursIn_iff.mpr ⟨[], m, b, hs, hm⟩
  contains_of_endsWith := by
    intro h
    obtain ⟨a, m, hs, hm⟩ := endsWith_iff.mp h
    exact occursIn_iff.mpr ⟨a, m, [], by simpa using hs, hm⟩
  found := by
    intro h
    have hsome : (c.scan? t s).isSome := by
      simpa [searchAnswers, occursIn, find?_eq_scan?] using h
    obtain ⟨k, hk⟩ := Option.isSome_iff_exists.mp hsome
    have hfirst := firstMatch_of_scan? hk
    simp only [searchAnswers, find?_eq_scan?, hk, Option.map_some, Option.getD_some]
    refine ⟨k.piece, hfirst.text, hfirst.isMatch, ?_, ?_⟩
    · intro a m b hs hm
      exact hfirst.before_le (l := ⟨a, m, b⟩) hs hm
    · intro m b hs hm
      exact hfirst.piece_le (l := ⟨k.before, m, b⟩) hs hm rfl
  notFound := by
    intro h
    have hnone : c.find? t s = none := by
      rwa [← Option.not_isSome_iff_eq_none, Bool.not_eq_true]
    simp [searchAnswers, hnone]

/-- **Searching is exact.**  Under whichever collation, the functions that look for a text in
another answer as the pieces of the other demand; the search behind them is the one through all
pieces, which under the code point collation may as well go by bytes. -/
theorem search_exact {call : Call} {args : List Sequence} {c : Collation} {s t : List Char}
    (hc : call.collationArgument args 2 = .ok c) (hs : (Arguments.text args 0).toList = s)
    (ht : (Arguments.text args 1).toList = t) (hne : t ≠ []) :
    (∃ r : SearchAnswers, r.Exact c s t ∧
      containsText call args = .ok [.boolean r.contains] ∧
      startsWithText call args = .ok [.boolean r.startsWith] ∧
      endsWithText call args = .ok [.boolean r.endsWith] ∧
      substringBefore call args = .ok [.string (String.ofList r.before)] ∧
      substringAfter call args = .ok [.string (String.ofList r.after)]) ∧
    c.find? t s = (c.scan? t s).map (fun k => (k.before, k.after)) ∧
    Text.byteRange? (Text.utf8 s) (Text.utf8 t) = (codepoint.scan? t s).map Cut.byteRange := by
  have hempty : t.isEmpty = false := by simpa using hne
  refine ⟨⟨searchAnswers c s t, searchAnswers_exact c s t, ?_, ?_, ?_, ?_, ?_⟩,
    find?_eq_scan?, byteRange?_utf8 hne⟩
  all_goals
    subst hs ht
    simp only [containsText, startsWithText, endsWithText, substringBefore, substringAfter,
      underCollation, hc, hempty]
    rfl

theorem search_exact_sample :
    let call : Call := ⟨.function "contains", .initial .empty,
      .initial ⟨⟨.epoch, .midnight⟩, some .utc⟩ .utc, none, .codepoint⟩
    let args : List Sequence :=
      [[.string "motor car"], [.string "car"], [.string Collation.simpleCase.uri]]
    call.collationArgument args 2 = .ok .simpleCase ∧ "car".toList ≠ [] ∧
      containsText call args = .ok [.boolean true] ∧
      endsWithText call args = .ok [.boolean true] := by
  intro call args
  have hc : call.collationArgument args 2 = .ok .simpleCase := rfl
  have hne : "car".toList ≠ [] := by decide
  obtain ⟨⟨r, hr, hcontains, -, hends, -⟩, -⟩ := search_exact hc rfl rfl hne
  have hend : r.endsWith = true :=
    hr.endsWith_iff.mpr ⟨"motor ".toList, "car".toList, by decide, (equal_iff _ _ _).mpr rfl⟩
  rw [hcontains, hends, hend, hr.contains_of_endsWith hend]
  exact ⟨hc, hne, rfl, rfl⟩

end Library

end XPath
