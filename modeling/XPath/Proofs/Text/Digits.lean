import Mathlib.Data.List.Basic
import Mathlib.Tactic.IntervalCases
import XPath.Number.Word
import XPath.Proofs.Text.Words

/-!
# Digits and separators

What the readers of lexical forms find in a text that was put together from numbers in decimal and
separators: a number is read back from its digits, a text is cut where it was joined, and a text
without white space is left as it is.
-/

namespace XPath.Text

/-! ## 1. Digits -/

/-- Whether a text is made of decimal digits. -/
def IsDigits (s : List Char) : Prop := ∀ c ∈ s, isDigit c = true

theorem isDigit_eq (c : Char) : isDigit c = c.isDigit := rfl

theorem isDigit_bounds {c : Char} (h : isDigit c = true) : 48 ≤ c.toNat ∧ c.toNat ≤ 57 := by
  simpa [isDigit_eq, Char.isDigit, UInt32.le_iff_toNat_le] using h

theorem digit_le_nine {c : Char} (h : isDigit c = true) : c.toNat - '0'.toNat ≤ 9 := by
  have hbounds := isDigit_bounds h
  have hzero : '0'.toNat = 48 := rfl
  omega

theorem isDigits_toDigits (n : Nat) : IsDigits (Nat.toDigits 10 n) :=
  fun _ hc => Nat.isDigit_of_mem_toDigits (by decide) (by decide) hc

theorem toDigits_ne_nil (n : Nat) : Nat.toDigits 10 n ≠ [] :=
  List.ne_nil_of_length_pos Nat.length_toDigits_pos

theorem IsDigits.append {a b : List Char} (ha : IsDigits a) (hb : IsDigits b) :
    IsDigits (a ++ b) := by
  intro c hc
  obtain hc | hc := List.mem_append.mp hc
  · exact ha c hc
  · exact hb c hc

theorem isDigits_zeros (n : Nat) : IsDigits (List.replicate n '0') := by
  intro c hc
  obtain rfl := (List.mem_replicate.mp hc).2
  decide

theorem IsDigits.all {s : List Char} (h : IsDigits s) : s.all isDigit = true :=
  List.all_eq_true.mpr h

theorem IsDigits.not_mem {s : List Char} (h : IsDigits s) {c : Char} (hc : isDigit c = false) :
    c ∉ s := by
  intro hm
  rw [h c hm] at hc
  contradiction

/-- The digits in front of another character are what the reader of a number takes. -/
theorem IsDigits.takeWhile_append {s r : List Char} (h : IsDigits s)
    (hr : ∀ c ∈ r.head?, isDigit c = false) : (s ++ r).takeWhile isDigit = s := by
  rw [List.takeWhile_append_of_pos h]
  cases r with
  | nil => simp
  | cons c r => simp [hr c rfl]

theorem digitsValue_append (a b : List Char) :
    digitsValue (a ++ b) = 10 ^ b.length * digitsValue a + digitsValue b := by
  change Nat.ofDigitChars 10 (a ++ b) 0 = _
  rw [Nat.ofDigitChars_append, Nat.ofDigitChars_eq_ofDigitChars_zero]
  rfl

theorem digitsValue_concat (s : List Char) (c : Char) :
    digitsValue (s ++ [c]) = 10 * digitsValue s + (c.toNat - '0'.toNat) := by
  simp [digitsValue]

theorem digitsValue_le_append (a b : List Char) : digitsValue a ≤ digitsValue (a ++ b) := by
  rw [digitsValue_append]
  exact (Nat.le_mul_of_pos_left _ (Nat.pow_pos (by decide))).trans (Nat.le_add_right _ _)

theorem digitsValue_zeros (n : Nat) : digitsValue (List.replicate n '0') = 0 := by
  change Nat.ofDigitChars 10 (List.replicate n '0') 0 = 0
  rw [Nat.ofDigitChars_replicate_zero, Nat.mul_zero]

theorem digitsValue_toDigits (n : Nat) : digitsValue (Nat.toDigits 10 n) = n :=
  Nat.ofDigitChars_ten_toDigits

/-- A text is what is left without the zeros at its end, and these zeros. -/
theorem exists_zeros (s : List Char) :
    ∃ n, s = (s.reverse.dropWhile (· == '0')).reverse ++ List.replicate n '0' := by
  have hzeros : s.reverse.takeWhile (· == '0') =
      List.replicate (s.reverse.takeWhile (· == '0')).length '0' := by
    rw [List.eq_replicate_iff]
    refine ⟨rfl, fun c hc => ?_⟩
    simpa using List.all_eq_true.mp List.all_takeWhile c hc
  refine ⟨(s.reverse.takeWhile (· == '0')).length, ?_⟩
  rw [← List.reverse_replicate, ← hzeros, ← List.reverse_append, List.takeWhile_append_dropWhile,
    List.reverse_reverse]

/-! ## 2. Numbers in decimal -/

theorem toList_toString (n : Nat) : (toString n).toList = Nat.toDigits 10 n := by
  rw [Nat.toString_eq_ofList_toDigits, String.toList_ofList]

theorem toList_toString_natCast (n : Nat) : (toString (n : Int)).toList = Nat.toDigits 10 n :=
  toList_toString n

theorem toList_toString_neg {n : Int} (h : n < 0) :
    (toString n).toList = '-' :: Nat.toDigits 10 n.natAbs := by
  obtain ⟨k, rfl⟩ := Int.eq_negSucc_of_lt_zero h
  change ("-" ++ toString (k + 1)).toList = _
  rw [String.toList_append, toList_toString]
  rfl

theorem toList_padded (w n : Nat) : (padded w n).toList =
    List.replicate (w - (Nat.toDigits 10 n).length) '0' ++ Nat.toDigits 10 n := by
  rw [padded, String.toList_append, String.toList_ofList, ← String.length_toList, toList_toString]

theorem isDigits_padded (w n : Nat) : IsDigits (padded w n).toList := by
  rw [toList_padded]
  exact (isDigits_zeros _).append (isDigits_toDigits n)

theorem digitsValue_padded (w n : Nat) : digitsValue (padded w n).toList = n := by
  rw [toList_padded, digitsValue_append, digitsValue_zeros, digitsValue_toDigits, Nat.mul_zero,
    Nat.zero_add]

theorem length_padded (w n : Nat) :
    (padded w n).toList.length = max w (Nat.toDigits 10 n).length := by
  rw [toList_padded, List.length_append, List.length_replicate]
  omega

theorem length_padded_of_lt {w n : Nat} (hw : 0 < w) (h : n < 10 ^ w) :
    (padded w n).toList.length = w := by
  have := (Nat.length_toDigits_le_iff (by decide) hw).mpr h
  rw [length_padded]
  omega

/-- The digits of a positive number begin with none that is zero. -/
theorem head?_toDigits_ne {n : Nat} (h : 0 < n) : (Nat.toDigits 10 n).head? ≠ some '0' := by
  induction n using Nat.strongRecOn with
  | ind n ih =>
    rw [Nat.toDigits_eq_if (by decide)]
    split
    · rename_i h10
      interval_cases n <;> decide
    · rw [List.head?_append_of_ne_nil _ (toDigits_ne_nil _)]
      exact ih (n / 10) (by omega) (by omega)

/-- Zeros stand in front only up to the width. -/
theorem head?_padded {w n : Nat} (hw : 0 < w) (h : w < (padded w n).toList.length) :
    (padded w n).toList.head? ≠ some '0' := by
  rw [length_padded] at h
  rw [toList_padded, show w - (Nat.toDigits 10 n).length = 0 by omega]
  apply head?_toDigits_ne
  apply Nat.pos_of_ne_zero
  rintro rfl
  change w < max w 1 at h
  omega

/-! ## 3. Separators -/

theorem splitFirst?_append {sep : Char} {a b : List Char} (h : sep ∉ a) :
    splitFirst? sep (a ++ sep :: b) = some (a, b) := by
  induction a with
  | nil => simp [splitFirst?]
  | cons c a ih =>
    obtain ⟨hc, ha⟩ := not_or.mp (mt List.mem_cons.mpr h)
    simp [splitFirst?, Ne.symm hc, ih ha]

theorem splitFirst?_eq_none {sep : Char} {s : List Char} (h : sep ∉ s) :
    splitFirst? sep s = none := by
  induction s with
  | nil => rfl
  | cons c s ih =>
    obtain ⟨hc, hs⟩ := not_or.mp (mt List.mem_cons.mpr h)
    simp [splitFirst?, Ne.symm hc, ih hs]

theorem splitLast?_append {sep : Char} {a b : List Char} (h : sep ∉ b) :
    splitLast? sep (a ++ sep :: b) = some (a, b) := by
  rw [splitLast?, List.reverse_append, List.reverse_cons, List.append_assoc, List.singleton_append,
    splitFirst?_append (by simpa using h)]
  simp

/-! ## 4. Marks and white space -/

/-- Whether a text is made of decimal digits and the given marks. -/
def WrittenWith (marks s : List Char) : Prop := ∀ c ∈ s, isDigit c = true ∨ c ∈ marks

variable {marks : List Char}

theorem IsDigits.writtenWith {s : List Char} (h : IsDigits s) : WrittenWith marks s :=
  fun c hc => .inl (h c hc)

@[simp] theorem writtenWith_nil : WrittenWith marks [] := by
  simp [WrittenWith]

@[simp] theorem writtenWith_cons {c : Char} {s : List Char} :
    WrittenWith marks (c :: s) ↔ (isDigit c = true ∨ c ∈ marks) ∧ WrittenWith marks s :=
  List.forall_mem_cons

@[simp] theorem writtenWith_append {a b : List Char} :
    WrittenWith marks (a ++ b) ↔ WrittenWith marks a ∧ WrittenWith marks b :=
  List.forall_mem_append

@[simp] theorem writtenWith_padded (w n : Nat) : WrittenWith marks (padded w n).toList :=
  (isDigits_padded w n).writtenWith

theorem WrittenWith.mono {l m s : List Char} (h : WrittenWith l s) (hlm : l ⊆ m) :
    WrittenWith m s := fun c hc => (h c hc).imp_right (@hlm c)

theorem WrittenWith.not_mem {s : List Char} (h : WrittenWith marks s) {c : Char}
    (hc : isDigit c = false ∧ c ∉ marks) : c ∉ s := by
  intro hm
  obtain hd | hd := h c hm
  · rw [hc.1] at hd
    contradiction
  · exact hc.2 hd

theorem trim_eq_self {s : List Char} (h : ∀ c ∈ s, isSpace c = false) : trim s = s := by
  apply trim_of_ends
  · exact fun c hc => h c (List.mem_of_head? hc)
  · exact fun c hc => h c (List.mem_of_getLast? hc)

theorem isSpace_of_isDigit {c : Char} (h : isDigit c = true) : isSpace c = false := by
  have := isDigit_bounds h
  simp only [isSpace, Bool.or_eq_false_iff, Bool.and_eq_false_iff, beq_eq_false_iff_ne,
    decide_eq_false_iff_not]
  omega

theorem WrittenWith.trim {s : List Char} (h : WrittenWith marks s)
    (hmarks : ∀ c ∈ marks, isSpace c = false) : trim s = s := by
  apply trim_eq_self
  intro c hc
  obtain hd | hd := h c hc
  · exact isSpace_of_isDigit hd
  · exact hmarks c hd

end XPath.Text
