import XPath.Value.Numeric
import XPath.Proofs.Number.Reading
import XPath.Proofs.Time.DurationGrammar

/-!
# Numerals

The lexical forms of integers and decimals, as a sign and what follows it.  The readers accept these
forms and no other texts.  A decimal is read at least as exactly as a number of its type can be, so
that the canonical text of a number gives the number back.
-/

namespace XPath.Numeric

open XPath.Number XPath.Number.Decimal XPath.Text
open XPath.DurationParts (Numeral)

variable {s : String}

/-! ## 1. Forms -/

/-- What stands in front of the digits: `[+-]?`. -/
inductive LeadingSign where
  | absent
  | plus
  | minus

def LeadingSign.text : LeadingSign → List Char
  | absent => []
  | plus => ['+']
  | minus => ['-']

def LeadingSign.negative : LeadingSign → Bool
  | minus => true
  | _ => false

/-- A text `[+-]?[0-9]+`. -/
structure IntegerForm where
  sign : LeadingSign
  numeral : Numeral

def IntegerForm.text (f : IntegerForm) : List Char := f.sign.text ++ f.numeral.digits

def IntegerForm.value (f : IntegerForm) : Int :=
  if f.sign.negative then -f.numeral.value else f.numeral.value

/-- A text `[0-9]+([.][0-9]*)?|[.][0-9]+`. -/
inductive DecimalBody where
  | whole (n : Numeral)
  | point (n : Numeral) (fraction : List Char) (isDigits : IsDigits fraction)
  | fraction (n : Numeral)

namespace DecimalBody

def text : DecimalBody → List Char
  | whole n => n.digits
  | point n f _ => n.digits ++ '.' :: f
  | fraction n => '.' :: n.digits

/-- The digits in front of the point. -/
def front : DecimalBody → List Char
  | whole n | point n _ _ => n.digits
  | fraction _ => []

/-- The digits behind the point. -/
def back : DecimalBody → List Char
  | whole _ => []
  | point _ f _ => f
  | fraction n => n.digits

def value (b : DecimalBody) : ℚ := digitsValue (b.front ++ b.back) / 10 ^ b.back.length

end DecimalBody

/-- A text `[+-]?([0-9]+([.][0-9]*)?|[.][0-9]+)`. -/
structure DecimalForm where
  sign : LeadingSign
  body : DecimalBody

def DecimalForm.text (f : DecimalForm) : List Char := f.sign.text ++ f.body.text

def DecimalForm.value (f : DecimalForm) : ℚ := factor f.sign.negative * f.body.value

/-! ## 2. Signs and points -/

theorem takeSign_text (sign : LeadingSign) {body : List Char}
    (h : ∀ c ∈ body.head?, c ≠ '+' ∧ c ≠ '-') :
    takeSign (sign.text ++ body) = (sign.negative, body) := by
  cases sign with
  | absent =>
    cases body with
    | nil => rfl
    | cons c body =>
      obtain ⟨hplus, hminus⟩ := h c rfl
      simp [LeadingSign.text, LeadingSign.negative, takeSign, hplus, hminus]
  | plus => rfl
  | minus => rfl

theorem exists_sign {t body : List Char} {negative : Bool} (h : takeSign t = (negative, body)) :
    ∃ sign : LeadingSign, t = sign.text ++ body ∧ sign.negative = negative := by
  unfold takeSign at h
  split at h
  · obtain ⟨rfl, rfl⟩ := Prod.mk.inj h
    exact ⟨.plus, rfl, rfl⟩
  · obtain ⟨rfl, rfl⟩ := Prod.mk.inj h
    exact ⟨.minus, rfl, rfl⟩
  · obtain ⟨rfl, rfl⟩ := Prod.mk.inj h
    exact ⟨.absent, rfl, rfl⟩

theorem head?_numeral (n : Numeral) : ∀ c ∈ n.digits.head?, c ≠ '+' ∧ c ≠ '-' := by
  intro c hc
  obtain ⟨-, -, hminus, hplus⟩ := ne_of_isDigit (n.isDigits c (List.mem_of_mem_head? hc))
  exact ⟨hplus, hminus⟩

namespace DecimalBody

variable (b : DecimalBody)

theorem head?_text : ∀ c ∈ b.text.head?, c ≠ '+' ∧ c ≠ '-' := by
  cases b with
  | whole n => exact head?_numeral n
  | point n f hf =>
    intro c hc
    rw [text, List.head?_append_of_ne_nil _ n.nonempty] at hc
    exact head?_numeral n c hc
  | fraction n =>
    rintro c ⟨⟩
    decide

theorem writtenWith_text : WrittenWith ['.'] b.text := by
  cases b with
  | whole n => exact n.isDigits.writtenWith
  | point n f hf => simp [text, n.isDigits.writtenWith, hf.writtenWith]
  | fraction n => simp [text, n.isDigits.writtenWith]

theorem isDigits_front : IsDigits b.front := by
  cases b with
  | whole n => exact n.isDigits
  | point n f hf => exact n.isDigits
  | fraction n => simp [front, IsDigits]

theorem isDigits_back : IsDigits b.back := by
  cases b with
  | whole n => simp [back, IsDigits]
  | point n f hf => exact hf
  | fraction n => exact n.isDigits

theorem front_or_back : b.front ≠ [] ∨ b.back ≠ [] := by
  cases b with
  | whole n => exact .inl n.nonempty
  | point n f hf => exact .inl n.nonempty
  | fraction n => exact .inr n.nonempty

/-- A text without a point counts as one with nothing behind it. -/
theorem split_text : (splitFirst? '.' b.text).getD (b.text, []) = (b.front, b.back) := by
  cases b with
  | whole n =>
    rw [text, splitFirst?_eq_none (n.isDigits.not_mem (by decide))]
    rfl
  | point n f hf =>
    rw [text, splitFirst?_append (n.isDigits.not_mem (by decide))]
    rfl
  | fraction n => rfl

end DecimalBody

theorem exists_body {t w f : List Char} (hsplit : (splitFirst? '.' t).getD (t, []) = (w, f))
    (hne : w ≠ [] ∨ f ≠ []) (hw : IsDigits w) (hf : IsDigits f) :
    ∃ b : DecimalBody, t = b.text := by
  cases hpoint : splitFirst? '.' t with
  | none =>
    rw [hpoint] at hsplit
    obtain ⟨rfl, rfl⟩ := Prod.mk.inj hsplit
    exact ⟨.whole ⟨t, hne.resolve_right (by simp), hw⟩, rfl⟩
  | some p =>
    rw [hpoint] at hsplit
    obtain rfl : p = (w, f) := hsplit
    obtain ⟨rfl, -⟩ := splitFirst?_eq_some hpoint
    by_cases hw0 : w = []
    · subst hw0
      exact ⟨.fraction ⟨f, hne.resolve_left (by simp), hf⟩, rfl⟩
    · exact ⟨.point ⟨w, hw0, hw⟩ f hf, rfl⟩

/-! ## 3. Integers -/

theorem parseInteger?_eq_some_iff {i : Int} :
    parseInteger? s = some i ↔ ∃ f : IntegerForm, trim s.toList = f.text ∧ f.value = i := by
  unfold parseInteger?
  constructor
  · intro h
    rcases hsign : takeSign (trim s.toList) with ⟨negative, digits⟩
    rw [hsign] at h
    obtain ⟨hdigits, hi⟩ := Option.ite_none_left_eq_some.mp h
    simp only [Bool.or_eq_true, List.isEmpty_iff, Bool.not_eq_true', not_or,
      Bool.not_eq_false, List.all_eq_true] at hdigits
    obtain ⟨sign, htext, rfl⟩ := exists_sign hsign
    exact ⟨⟨sign, digits, hdigits.1, hdigits.2⟩, htext, Option.some.inj hi⟩
  · rintro ⟨⟨sign, n⟩, htext, rfl⟩
    rw [htext, IntegerForm.text, takeSign_text sign (head?_numeral n)]
    simp [n.nonempty, n.isDigits.all, IntegerForm.value, DurationParts.Numeral.value]

/-- The canonical digits of a number. -/
def numeralOf (n : Nat) : Numeral := ⟨Nat.toDigits 10 n, toDigits_ne_nil n, isDigits_toDigits n⟩

theorem parseInteger?_text (i : Int) : parseInteger? (integer i).text = some i := by
  have hvalue (n : Nat) : (numeralOf n).value = n := digitsValue_toDigits n
  rw [parseInteger?_eq_some_iff, Numeric.text]
  rcases lt_or_ge i 0 with hneg | hpos
  · refine ⟨⟨.minus, numeralOf i.natAbs⟩, ?_, ?_⟩
    · have hwritten : WrittenWith ['-'] ('-' :: Nat.toDigits 10 i.natAbs) :=
        writtenWith_cons.mpr ⟨.inr List.mem_cons_self, (isDigits_toDigits _).writtenWith⟩
      rw [toList_toString_neg hneg, hwritten.trim (by simp [isSpace])]
      rfl
    · simp only [IntegerForm.value, LeadingSign.negative, hvalue, if_true]
      omega
  · obtain ⟨n, rfl⟩ := Int.eq_ofNat_of_zero_le hpos
    refine ⟨⟨.absent, numeralOf n⟩, ?_, ?_⟩
    · have hdigits (c : Char) (hc : c ∈ Nat.toDigits 10 n) : isSpace c = false :=
        isSpace_of_isDigit (isDigits_toDigits n c hc)
      rw [toList_toString_natCast, trim_eq_self hdigits]
      rfl
    · simp only [IntegerForm.value, LeadingSign.negative, hvalue, Bool.false_eq_true, if_false]

/-! ## 4. Decimals -/

/-- The digits, or a zero if there are none. -/
def fill (digits : List Char) : List Char := if digits.isEmpty then ['0'] else digits

theorem fill_ne_nil (digits : List Char) : fill digits ≠ [] := by
  unfold fill
  split
  · simp
  · rename_i h
    simpa using h

theorem isDigits_fill {digits : List Char} (h : IsDigits digits) : IsDigits (fill digits) := by
  unfold fill
  split
  · exact isDigits_zeros 1
  · exact h

/-- Zeros that are put in for missing digits do not change the number. -/
theorem value_fill (w f : List Char) :
    (followedBy 0 (fill w ++ fill f) : ℚ) / 10 ^ (fill f).length =
      digitsValue (w ++ f) / 10 ^ f.length := by
  have hfront (r : List Char) : followedBy 0 (fill w ++ r) = followedBy 0 (w ++ r) := by
    cases w with
    | nil => rfl
    | cons x w => rfl
  rw [hfront]
  cases f with
  | cons x f => rfl
  | nil =>
    have hzero : followedBy 0 (w ++ ['0']) = 10 * followedBy 0 w := by
      rw [followedBy_append, followedBy_cons]
      rfl
    rw [List.append_nil]
    change (followedBy 0 (w ++ ['0']) : ℚ) / 10 ^ 1 = followedBy 0 w / 10 ^ 0
    rw [hzero]
    push_cast
    field_simp

theorem isReading_body (b : DecimalBody) :
    IsReading (ofLiteral? (fill b.front ++ '.' :: fill b.back)) b.value := by
  rw [DecimalBody.value, ← value_fill]
  exact isReading_ofLiteral?_fraction (isDigits_fill b.isDigits_front) (fill_ne_nil _)
    (isDigits_fill b.isDigits_back) (fill_ne_nil _)

/-- The text is put together again from the parts of its body, with zeros for missing digits. -/
theorem parseDecimal_of_text {f : DecimalForm} (h : trim s.toList = f.text) :
    parseDecimal s =
      match (ofLiteral? (fill f.body.front ++ '.' :: fill f.body.back)).map
        (withSign f.sign.negative) with
      | some d => .ok d
      | none => .error (.of .FOCA0001 ("xs:decimal out of range: '" ++ s ++ "'")) := by
  obtain ⟨sign, b⟩ := f
  have hvalid : ¬ ((b.front.isEmpty && b.back.isEmpty) || !b.front.all isDigit ||
      !b.back.all isDigit) = true := by
    simpa [b.isDigits_front.all, b.isDigits_back.all, imp_iff_not_or] using b.front_or_back
  obtain ⟨x, w, hfront⟩ := List.exists_cons_of_ne_nil (fill_ne_nil b.front)
  have hx : isDigit x = true := isDigits_fill b.isDigits_front x (hfront ▸ List.mem_cons_self)
  have hsign := ofLiteral?_sign sign.negative hx (w ++ '.' :: fill b.back)
  rw [← List.cons_append, ← hfront, ← List.append_assoc] at hsign
  unfold parseDecimal
  rw [h, DecimalForm.text, takeSign_text sign b.head?_text]
  dsimp only
  rw [b.split_text]
  dsimp only
  rw [if_neg hvalid, ← hsign]
  rfl

theorem DecimalBody.value_nonneg (b : DecimalBody) : 0 ≤ b.value := by
  unfold value
  positivity

/-- A form is refused only if its number is closer to one out of range, and otherwise read as
exactly as a decimal can be. -/
theorem parseDecimal_of_form {f : DecimalForm} (h : trim s.toList = f.text) :
    ((∃ e, parseDecimal s = .error e ∧ e.errorCode = .FOCA0001) ∧
      2 ^ 96 - 1 / 2 ≤ |f.value|) ∨
    ∃ d, parseDecimal s = .ok d ∧ |f.value| < 2 ^ 96 - 1 / 2 ∧ |d.value - f.value| ≤ 1 / 2 ∧
      (IsValue f.value → d.value = f.value) := by
  have hread := isReading_body f.body
  have habs : |f.value| = f.body.value := by
    rw [DecimalForm.value, abs_factor_mul, abs_of_nonneg f.body.value_nonneg]
  rw [parseDecimal_of_text h, habs]
  cases hr : ofLiteral? (fill f.body.front ++ '.' :: fill f.body.back) with
  | none => exact .inl ⟨⟨_, rfl, Error.errorCode_of _ _⟩, hread.eq_none_iff.mp hr⟩
  | some d =>
    rw [hr] at hread
    refine .inr ⟨withSign f.sign.negative d, rfl, ?_, ?_, ?_⟩
    · rw [← not_le, ← hread.eq_none_iff]
      exact Option.some_ne_none d
    · rw [value_withSign, DecimalForm.value, ← mul_sub, abs_factor_mul]
      exact hread.near d rfl
    · intro hvalue
      rw [value_withSign, DecimalForm.value, hread.exact d rfl hvalue.of_factor_mul]

theorem parseDecimal_of_no_form (h : ∀ f : DecimalForm, trim s.toList ≠ f.text) :
    parseDecimal s = .error (.invalidLexical "xs:decimal" s) := by
  rcases hsign : takeSign (trim s.toList) with ⟨negative, body⟩
  rcases hsplit : (splitFirst? '.' body).getD (body, []) with ⟨w, f⟩
  unfold parseDecimal
  rw [hsign]
  dsimp only
  rw [hsplit]
  refine if_pos ?_
  by_contra hvalid
  simp only [Bool.or_eq_true, Bool.and_eq_true, List.isEmpty_iff, Bool.not_eq_true', not_or,
    not_and_or, Bool.not_eq_false, List.all_eq_true] at hvalid
  obtain ⟨⟨hne, hw⟩, hf⟩ := hvalid
  obtain ⟨sign, htext, -⟩ := exists_sign hsign
  obtain ⟨b, rfl⟩ := exists_body hsplit hne hw hf
  exact h ⟨sign, b⟩ htext

/-- The canonical text of a decimal is one of the forms, also with its largest digits. -/
theorem exists_form (d : Decimal) :
    ∃ f : DecimalForm, d.text.toList = f.text ∧ f.value = d.value := by
  obtain ⟨w, f, hw, hf, hw0, hlen, hvalue, htext⟩ :=
    digitText_spec d.normalize.coefficient d.normalize.scale
  obtain ⟨sign, hsign, hnegative⟩ : ∃ sign : LeadingSign,
      (if d.normalize.negative then "-" else "").toList = sign.text ∧
        sign.negative = d.normalize.negative := by
    cases d.normalize.negative
    · exact ⟨.absent, rfl, rfl⟩
    · exact ⟨.minus, rfl, rfl⟩
  have hform (b : DecimalBody) (hfront : b.front = w) (hback : b.back = f) :
      (DecimalForm.mk sign b).value = d.value := by
    rw [DecimalForm.value, DecimalBody.value, hfront, hback, hnegative, ← value_normalize d,
      value_eq, hlen, ← hvalue]
    rfl
  have htoList : d.text.toList =
      sign.text ++ (w ++ if d.normalize.scale = 0 then [] else '.' :: f) := by
    rw [Decimal.text, String.toList_append, hsign, htext]
  rw [htoList]
  split
  · rename_i hscale
    obtain rfl := List.eq_nil_of_length_eq_zero (hlen.trans hscale)
    refine ⟨⟨sign, .whole ⟨w, hw0, hw⟩⟩, ?_, hform _ rfl rfl⟩
    rw [List.append_nil]
    rfl
  · exact ⟨⟨sign, .point ⟨w, hw0, hw⟩ f hf⟩, rfl, hform _ rfl rfl⟩

theorem abs_value_lt (d : Decimal) : |d.value| < 2 ^ 96 - 1 / 2 := by
  rw [value_eq, abs_factor_mul, abs_of_nonneg (by positivity), ← not_le,
    ← (isReading_ofParts? d.coefficient_lt d.scale_le).eq_none_iff,
    ofParts?_eq d.coefficient_lt d.scale_le]
  exact Option.some_ne_none _

theorem parseDecimal_text (d : Decimal) :
    ∃ e, parseDecimal (decimal d).text = .ok e ∧ e.value = d.value := by
  obtain ⟨f, htext, hvalue⟩ := exists_form d
  have htrim : trim (decimal d).text.toList = f.text :=
    ((writtenWith_text d).trim (by simp [isSpace])).trans htext
  rcases parseDecimal_of_form htrim with ⟨-, hlarge⟩ | ⟨e, he, -, -, hexact⟩
  · rw [hvalue] at hlarge
    exact absurd (abs_value_lt d) (not_lt.mpr hlarge)
  · exact ⟨e, he, (hexact ⟨d, hvalue.symm⟩).trans hvalue⟩

theorem parseDecimal_invalid_iff : (∃ e, parseDecimal s = .error e ∧ e.errorCode = .FORG0001) ↔
    ¬ ∃ f : DecimalForm, trim s.toList = f.text := by
  constructor
  · rintro ⟨e, he, hinvalid⟩ ⟨f, hf⟩
    rcases parseDecimal_of_form hf with ⟨⟨e', he', hrange⟩, -⟩ | ⟨d, hd, -⟩
    · obtain rfl := Except.error.inj (he.symm.trans he')
      cases hinvalid.symm.trans hrange
    · cases he.symm.trans hd
  · intro h
    exact ⟨_, parseDecimal_of_no_form (not_exists.mp h), Error.errorCode_of _ _⟩

theorem errorCode_of_parseDecimal {e : Error} (h : parseDecimal s = .error e) :
    e.errorCode = .FORG0001 ∨ e.errorCode = .FOCA0001 := by
  by_cases hform : ∃ f : DecimalForm, trim s.toList = f.text
  · obtain ⟨f, hf⟩ := hform
    rcases parseDecimal_of_form hf with ⟨⟨e', he', hrange⟩, -⟩ | ⟨d, hd, -⟩
    · obtain rfl := Except.error.inj (h.symm.trans he')
      exact .inr hrange
    · cases h.symm.trans hd
  · have hinvalid := parseDecimal_of_no_form (not_exists.mp hform)
    obtain rfl := Except.error.inj (h.symm.trans hinvalid)
    exact .inl (Error.errorCode_of _ _)

/-- The readers of integers and decimals accept the forms of their types and no others, and they
read all numbers back from their canonical texts. -/
theorem reads_numerals :
    (∀ s i, parseInteger? s = some i ↔
      ∃ f : IntegerForm, trim s.toList = f.text ∧ f.value = i) ∧
    (∀ s, (∃ e, parseDecimal s = .error e ∧ e.errorCode = .FORG0001) ↔
      ¬ ∃ f : DecimalForm, trim s.toList = f.text) ∧
    (∀ s e, parseDecimal s = .error e → e.errorCode = .FORG0001 ∨ e.errorCode = .FOCA0001) ∧
    (∀ i : Int, parseInteger? (integer i).text = some i) ∧
    ∀ d : Decimal, ∃ e, parseDecimal (decimal d).text = .ok e ∧ e.value = d.value :=
  ⟨fun _ _ => parseInteger?_eq_some_iff, fun _ => parseDecimal_invalid_iff,
    fun _ _ => errorCode_of_parseDecimal, parseInteger?_text, parseDecimal_text⟩

end XPath.Numeric
