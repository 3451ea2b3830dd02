import XPath.Number.Decimal
import XPath.Proofs.Text.Digits

/-!
# Decimals and their texts

A decimal in normal form, which has the smallest scale, is read back from its text.  The reader
keeps all digits, since they are those of a coefficient that fits.
-/

namespace XPath.Number.Decimal

open XPath.Text

/-! ## 1. Normal form -/

theorem stripZeros_spec (c s : Nat) : (stripZeros c s).1 * 10 ^ (s - (stripZeros c s).2) = c ∧
    ((stripZeros c s).2 = 0 ∨ (stripZeros c s).1 % 10 ≠ 0) := by
  induction s generalizing c with
  | zero => simp [stripZeros]
  | succ s ih =>
    rw [stripZeros]
    by_cases h : c % 10 = 0
    · obtain ⟨hvalue, hnormal⟩ := ih (c / 10)
      have hle := stripZeros_snd_le (c / 10) s
      rw [if_pos (by simpa using h)]
      refine ⟨?_, hnormal⟩
      rw [Nat.succ_sub hle, Nat.pow_succ, ← Nat.mul_assoc, hvalue]
      omega
    · rw [if_neg (by simpa using h)]
      simp [h]

theorem stripZeros_eq_self {c s : Nat} (h : s = 0 ∨ c % 10 ≠ 0) : stripZeros c s = (c, s) := by
  cases s with
  | zero => rfl
  | succ s =>
    have hc : c % 10 ≠ 0 := h.resolve_left (Nat.succ_ne_zero s)
    simp [stripZeros, hc]

/-- Whether a decimal has the smallest scale, and no sign if it is zero. -/
structure IsNormal (d : Decimal) : Prop where
  scale : d.scale = 0 ∨ d.coefficient % 10 ≠ 0
  sign : d.coefficient = 0 → d.negative = false

theorem isNormal_normalize (d : Decimal) : d.normalize.IsNormal := by
  unfold normalize
  split
  · exact ⟨.inl rfl, fun _ => rfl⟩
  · rename_i h
    obtain ⟨hvalue, hnormal⟩ := stripZeros_spec d.coefficient d.scale
    refine ⟨hnormal, fun h0 => ?_⟩
    change (stripZeros d.coefficient d.scale).1 = 0 at h0
    rw [h0, Nat.zero_mul] at hvalue
    exact absurd hvalue.symm (by simpa [isZero] using h)

theorem IsNormal.normalize_eq {d : Decimal} (h : d.IsNormal) : d.normalize = d := by
  obtain ⟨negative, c, s, hc, hs⟩ := d
  have hscale : s = 0 ∨ c % 10 ≠ 0 := h.scale
  have hsign : c = 0 → negative = false := h.sign
  unfold normalize
  by_cases h0 : c = 0
  · have hs0 : s = 0 := by omega
    subst h0 hs0
    rw [hsign rfl]
    rfl
  · rw [if_neg (by simpa [isZero] using h0)]
    simp only [stripZeros_eq_self hscale]

theorem isZero_normalize (d : Decimal) : d.normalize.isZero = d.isZero := by
  unfold normalize
  split
  · rename_i h
    rw [h]
    rfl
  · rename_i h
    obtain ⟨hvalue, -⟩ := stripZeros_spec d.coefficient d.scale
    rw [Bool.not_eq_true] at h
    rw [h]
    simp only [isZero, beq_eq_false_iff_ne] at h ⊢
    intro h0
    rw [h0, Nat.zero_mul] at hvalue
    exact h hvalue.symm

theorem negative_normalize {d : Decimal} (h0 : d.isZero = false) :
    d.normalize.negative = d.negative := by
  unfold normalize
  rw [if_neg (by rw [h0]; exact Bool.false_ne_true)]

theorem IsNormal.abs {d : Decimal} (h : d.IsNormal) : d.abs.IsNormal := ⟨h.scale, fun _ => rfl⟩

/-! ## 2. Reading digits -/

variable {negative : Bool}

/-- The number `c` with the digits `s` behind it. -/
def followedBy (c : Nat) (s : List Char) : Nat := Nat.ofDigitChars 10 s c

theorem followedBy_cons (c : Nat) (x : Char) (s : List Char) :
    followedBy c (x :: s) = followedBy (10 * c + (x.toNat - '0'.toNat)) s := by
  simp only [followedBy, Nat.ofDigitChars, List.foldl_cons]

theorem followedBy_append (c : Nat) (s t : List Char) :
    followedBy c (s ++ t) = followedBy (followedBy c s) t :=
  Nat.ofDigitChars_append c

theorem le_followedBy (c : Nat) (s : List Char) : c ≤ followedBy c s := by
  induction s generalizing c with
  | nil => exact Nat.le_refl c
  | cons x s ih =>
    have := ih (10 * c + (x.toNat - '0'.toNat))
    rw [followedBy_cons]
    omega

theorem ne_of_isDigit {x : Char} (h : isDigit x = true) :
    x ≠ '.' ∧ x ≠ '_' ∧ x ≠ '-' ∧ x ≠ '+' := by
  refine ⟨?_, ?_, ?_, ?_⟩ <;> (rintro rfl; exact absurd h (by decide))

/-- The digits of a number that fits are all read. -/
theorem readWhole_append {s : List Char} (hs : IsDigits s) (r : List Char) (seen : Bool) {c : Nat}
    (h : followedBy c s < 2 ^ 96) :
    readWhole negative (s ++ r) seen c =
      readWhole negative r (seen || !s.isEmpty) (followedBy c s) := by
  induction s generalizing seen c with
  | nil => simp [followedBy]
  | cons x s ih =>
    have hx := hs x List.mem_cons_self
    obtain ⟨hpoint, hunder, -, -⟩ := ne_of_isDigit hx
    rw [followedBy_cons] at h ⊢
    have hfits := (le_followedBy _ _).trans_lt h
    rw [List.cons_append, readWhole.eq_def]
    simp only [beq_iff_eq, hpoint, hunder, if_false, hx, Bool.not_true, Bool.false_eq_true,
      ge_iff_le, Nat.not_le.mpr hfits]
    rw [ih (fun y hy => hs y (List.mem_cons_of_mem x hy)) true h]
    simp

theorem readFraction_eq {s : List Char} (hs : IsDigits s) {c k : Nat} (hk : k + s.length ≤ 28)
    (h : followedBy c s < 2 ^ 96) :
    readFraction negative s c k = ofParts? negative (followedBy c s) (k + s.length) := by
  induction s generalizing c k with
  | nil => simp [readFraction, followedBy]
  | cons x s ih =>
    have hx := hs x List.mem_cons_self
    obtain ⟨-, hunder, -, -⟩ := ne_of_isDigit hx
    rw [followedBy_cons] at h ⊢
    have hfits := (le_followedBy _ _).trans_lt h
    rw [List.length_cons] at hk
    rw [readFraction]
    simp only [beq_iff_eq, hunder, if_false, hx, Bool.not_true, Bool.false_eq_true, ge_iff_le,
      Nat.not_le.mpr hfits, show ¬ 28 ≤ k by omega, decide_false, Bool.or_self]
    rw [ih (fun y hy => hs y (List.mem_cons_of_mem x hy)) (by omega) h, List.length_cons,
      Nat.add_right_comm, Nat.add_assoc]

theorem negative_of_ofParts? {c s : Nat} {d : Decimal}
    (h : ofParts? negative c s = some d) : d.negative = negative := by
  unfold ofParts? at h
  split at h
  · obtain rfl := Option.some.inj h
    rfl
  · cases h

theorem negative_of_roundDigit {c s x : Nat} {d : Decimal}
    (h : roundDigit negative c s x = some d) : d.negative = negative := by
  unfold roundDigit at h
  split at h
  · exact negative_of_ofParts? h
  · split at h
    · exact negative_of_ofParts? h
    · split at h
      · cases h
      · exact negative_of_ofParts? h

theorem negative_of_readFraction {s : List Char} {c k : Nat} {d : Decimal}
    (h : readFraction negative s c k = some d) : d.negative = negative := by
  induction s generalizing c k with
  | nil => exact negative_of_ofParts? h
  | cons x s ih =>
    rw [readFraction] at h
    split at h
    · split at h
      · exact negative_of_ofParts? h
      · exact ih h
    · split at h
      · cases h
      · dsimp only at h
        split at h
        · exact negative_of_roundDigit h
        · exact ih h

theorem negative_of_readWhole {s : List Char} {seen : Bool} {c : Nat} {d : Decimal}
    (h : readWhole negative s seen c = some d) : d.negative = negative := by
  induction s generalizing seen c with
  | nil =>
    rw [readWhole] at h
    exact negative_of_ofParts? (Option.ite_none_right_eq_some.mp h).2
  | cons x s ih =>
    rw [readWhole.eq_def] at h
    dsimp only at h
    split at h
    · split at h
      · exact negative_of_ofParts? (Option.ite_none_right_eq_some.mp h).2
      · exact negative_of_readFraction (Option.ite_none_right_eq_some.mp h).2
    · split at h
      · exact ih (Option.ite_none_right_eq_some.mp h).2
      · split at h
        · cases h
        · exact ih (Option.ite_none_left_eq_some.mp h).2

theorem takeSign_cons {x : Char} (hx : isDigit x = true) (s : List Char) :
    takeSign (x :: s) = (false, x :: s) := by
  obtain ⟨-, -, hminus, hplus⟩ := ne_of_isDigit hx
  unfold takeSign
  split
  · rename_i h
    exact absurd (List.cons.inj h).1 hplus
  · rename_i h
    exact absurd (List.cons.inj h).1 hminus
  · rfl

/-- A literal that begins with a digit has no sign. -/
theorem positive_of_ofLiteral? {x : Char} (hx : isDigit x = true) {s : List Char} {d : Decimal}
    (h : ofLiteral? (x :: s) = some d) : d.negative = false := by
  simp only [ofLiteral?, takeSign_cons hx] at h
  obtain ⟨r, hr, rfl⟩ := Option.map_eq_some_iff.mp h
  simp only [unsignZero, negative_of_readWhole hr, Bool.false_and]

/-! ## 3. The text of a number -/

/-- The digits of a number in front of its point and behind it. -/
theorem digitText_spec (c s : Nat) : ∃ whole fraction, IsDigits whole ∧ IsDigits fraction ∧
    whole ≠ [] ∧ fraction.length = s ∧ followedBy 0 (whole ++ fraction) = c ∧
      (digitText c s).toList = whole ++ if s = 0 then [] else '.' :: fraction := by
  have hdigits := isDigits_padded (s + 1) c
  have hlen := length_padded (s + 1) c
  have hvalue := digitsValue_padded (s + 1) c
  unfold digitText
  generalize (padded (s + 1) c).toList = l at *
  refine ⟨l.take (l.length - s), l.drop (l.length - s), ?_, ?_, ?_, ?_, ?_, ?_⟩
  · exact fun x hx => hdigits x (List.mem_of_mem_take hx)
  · exact fun x hx => hdigits x (List.mem_of_mem_drop hx)
  · apply List.ne_nil_of_length_pos
    rw [List.length_take]
    omega
  · rw [List.length_drop]
    omega
  · rw [List.take_append_drop]
    exact hvalue
  · by_cases h0 : s = 0
    · simp [h0]
    · simp [h0]

theorem readWhole_digitText {c s : Nat} (hc : c < 2 ^ 96) (hs : s ≤ 28) :
    readWhole negative (digitText c s).toList false 0 = ofParts? negative c s := by
  obtain ⟨whole, fraction, hwhole, hfraction, hne, hlen, hvalue, htext⟩ := digitText_spec c s
  rw [followedBy_append] at hvalue
  have hfits : followedBy 0 whole < 2 ^ 96 := (le_followedBy _ fraction).trans_lt (hvalue ▸ hc)
  have hseen : (false || !whole.isEmpty) = true := by simpa using hne
  rw [htext, readWhole_append hwhole _ false hfits, hseen]
  by_cases h0 : s = 0
  · rw [if_pos h0]
    obtain rfl := List.eq_nil_of_length_eq_zero (hlen.trans h0)
    rw [h0, ← hvalue]
    rfl
  · rw [if_neg h0]
    obtain ⟨y, f, rfl⟩ := List.exists_cons_of_length_pos (by omega : 0 < fraction.length)
    rw [readWhole]
    simp only [Bool.true_or, beq_self_eq_true, if_true]
    rw [readFraction_eq hfraction (by omega) (hvalue ▸ hc), hvalue, hlen, Nat.zero_add]

theorem takeSign_digitText (c s : Nat) :
    takeSign (digitText c s).toList = (false, (digitText c s).toList) := by
  obtain ⟨whole, fraction, hwhole, -, hne, -, -, htext⟩ := digitText_spec c s
  obtain ⟨x, w, rfl⟩ := List.exists_cons_of_ne_nil hne
  rw [htext, List.cons_append]
  exact takeSign_cons (hwhole x List.mem_cons_self) _

theorem writtenWith_digitText (c s : Nat) : WrittenWith ['.'] (digitText c s).toList := by
  obtain ⟨whole, fraction, hwhole, hfraction, -, -, -, htext⟩ := digitText_spec c s
  rw [htext]
  split
  · rw [List.append_nil]
    exact hwhole.writtenWith
  · simp [hwhole.writtenWith, hfraction.writtenWith]

/-- The text of a number other than zero begins with its sign. -/
theorem text_of_negative {d : Decimal} (hd : d.negative = true) (h0 : d.isZero = false) :
    d.text.toList = '-' :: (digitText d.normalize.coefficient d.normalize.scale).toList := by
  have hsign : d.normalize.negative = true := (negative_normalize h0).trans hd
  simp only [text, hsign, if_true, String.toList_append]
  rfl

theorem writtenWith_text (d : Decimal) : WrittenWith ['-', '.'] d.text.toList := by
  have hdigits := (writtenWith_digitText d.normalize.coefficient d.normalize.scale).mono
    (m := ['-', '.']) (by decide)
  rw [text, String.toList_append, writtenWith_append]
  constructor
  · cases d.normalize.negative
    · exact writtenWith_nil
    · exact writtenWith_cons.mpr ⟨.inr List.mem_cons_self, writtenWith_nil⟩
  · exact hdigits

theorem text_of_positive {d : Decimal} (hd : d.negative = false) :
    d.text.toList = (digitText d.normalize.coefficient d.normalize.scale).toList := by
  have hsign : d.normalize.negative = false := by
    unfold normalize
    split
    · rfl
    · exact hd
  simp only [text, hsign, Bool.false_eq_true, if_false, String.empty_append]

/-- A decimal is read back from its text in normal form. -/
theorem ofLiteral?_text (d : Decimal) : ofLiteral? d.text.toList = some d.normalize := by
  have hsign := d.isNormal_normalize.sign
  have hsign' : (d.normalize.negative && d.normalize.coefficient != 0) = d.normalize.negative := by
    by_cases h0 : d.normalize.coefficient = 0
    · rw [hsign h0]
      rfl
    · simp [h0]
  have hc := d.normalize.coefficient_lt
  have hs := d.normalize.scale_le
  have htake : takeSign d.text.toList =
      (d.normalize.negative, (digitText d.normalize.coefficient d.normalize.scale).toList) := by
    simp only [text]
    cases d.normalize.negative
    · rw [if_neg Bool.false_ne_true, String.empty_append]
      exact takeSign_digitText _ _
    · rw [if_pos rfl, String.toList_append]
      rfl
  simp only [ofLiteral?, htake, readWhole_digitText hc hs, ofParts?, hc, hs, and_self, dif_pos,
    Option.map_some, unsignZero, hsign']

end XPath.Number.Decimal
