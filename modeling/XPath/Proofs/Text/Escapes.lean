import Mathlib.Data.List.Basic
import XPath.Proofs.Text.Utf8
import XPath.Uri.Host

/-!
# Percent escapes

A text is escaped one character after another, so joined texts are escaped to joined texts.  Where
the percent sign is escaped like any other character that may not stand, the text is got back from
its escapes.  Where the percent sign may stand, and the digits behind it too, escaping leaves alone
what has been escaped before.
-/

namespace XPath.Text

variable {keep : Char → Bool} {s t : List Char}

/-! ## 1. The form of an escaped text -/

/-- The digits that escapes are written with. -/
def upperHexDigits : List Char := "0123456789ABCDEF".toList

/-- Whether a text is made of characters that may stand and of percent signs with two hexadecimal
digits behind them. -/
inductive IsEscaped (keep : Char → Bool) : List Char → Prop
  | nil : IsEscaped keep []
  | kept {c : Char} {s : List Char} : keep c = true → IsEscaped keep s → IsEscaped keep (c :: s)
  | triple {h l : Char} {s : List Char} : h ∈ upperHexDigits → l ∈ upperHexDigits →
      IsEscaped keep s → IsEscaped keep ('%' :: h :: l :: s)

theorem hexDigit_mem {n : Nat} (h : n < 16) : hexDigit n ∈ upperHexDigits := by
  have key : ∀ k : Fin 16, hexDigit k ∈ upperHexDigits := by decide
  exact key ⟨n, h⟩

theorem IsEscaped.append (hs : IsEscaped keep s) (ht : IsEscaped keep t) :
    IsEscaped keep (s ++ t) := by
  induction hs with
  | nil => exact ht
  | kept hc _ ih => exact .kept hc ih
  | triple hh hl _ ih => exact .triple hh hl ih

theorem isEscaped_flatMap {α : Type} {l : List α} {f : α → List Char}
    (h : ∀ x ∈ l, IsEscaped keep (f x)) : IsEscaped keep (l.flatMap f) := by
  induction l with
  | nil => exact .nil
  | cons x l ih =>
    rw [List.flatMap_cons]
    exact (h x List.mem_cons_self).append (ih fun y hy => h y (List.mem_cons_of_mem x hy))

theorem isEscaped_escapeByte (keep : Char → Bool) (b : UInt8) : IsEscaped keep (escapeByte b) := by
  have hb := b.toNat_lt
  exact .triple (hexDigit_mem (by omega)) (hexDigit_mem (by omega)) .nil

theorem isEscaped_escapeChar (keep : Char → Bool) (c : Char) :
    IsEscaped keep (escapeChar keep c) := by
  unfold escapeChar
  by_cases hc : keep c = true
  · rw [if_pos hc]
    exact .kept hc .nil
  · rw [if_neg hc]
    exact isEscaped_flatMap fun b _ => isEscaped_escapeByte keep b

theorem isEscaped_escape (keep : Char → Bool) (s : String) :
    IsEscaped keep (escape keep s).toList := by
  rw [escape, String.toList_ofList]
  exact isEscaped_flatMap fun c _ => isEscaped_escapeChar keep c

/-! ## 2. Getting the text back -/

/-- The text that is written with percent escapes, if their bytes are those of a text. -/
def unescape? (s : String) : Option String :=
  String.fromUTF8? ⟨(Uri.percentDecode s.toList).toArray⟩

theorem percentDecode_escapeByte (b : UInt8) (r : List Char) :
    Uri.percentDecode (escapeByte b ++ r) = b :: Uri.percentDecode r := by
  have hb := b.toNat_lt
  have hh : hexValue? (hexDigit (b.toNat / 16)) = some (b.toNat / 16) :=
    hexValue?_hexDigit (by omega)
  have hl : hexValue? (hexDigit (b.toNat % 16)) = some (b.toNat % 16) :=
    hexValue?_hexDigit (by omega)
  have hsum : 16 * (b.toNat / 16) + b.toNat % 16 = b.toNat := by omega
  simp only [escapeByte, hexPair, List.cons_append, List.nil_append, Uri.percentDecode, hh, hl,
    hsum, UInt8.ofNat_toNat]

theorem percentDecode_bytes (l : List UInt8) (r : List Char) :
    Uri.percentDecode (l.flatMap escapeByte ++ r) = l ++ Uri.percentDecode r := by
  induction l with
  | nil => rfl
  | cons b l ih =>
    rw [List.flatMap_cons, List.append_assoc, percentDecode_escapeByte, ih, List.cons_append]

theorem percentDecode_cons {c : Char} (hc : c ≠ '%') (r : List Char) :
    Uri.percentDecode (c :: r) = String.utf8EncodeChar c ++ Uri.percentDecode r := by
  rw [Uri.percentDecode.eq_def]
  split
  · rename_i h
    exact absurd (List.cons.inj h).1 hc
  · rename_i h
    cases h
    rfl
  · rename_i h
    cases h

/-- A percent sign that may not stand is escaped, so that none is mistaken for an escape. -/
theorem percentDecode_escape (h : keep '%' = false) (s : String) :
    Uri.percentDecode (escape keep s).toList = utf8 s.toList := by
  rw [escape, String.toList_ofList]
  induction s.toList with
  | nil => rfl
  | cons c s ih =>
    rw [List.flatMap_cons, utf8_cons, escapeChar]
    by_cases hc : keep c = true
    · have hne : c ≠ '%' := by
        rintro rfl
        rw [h] at hc
        cases hc
      rw [if_pos hc, List.singleton_append, percentDecode_cons hne, ih]
    · rw [if_neg hc, percentDecode_bytes, ih]

theorem fromUTF8?_utf8 (s : String) : String.fromUTF8? ⟨(utf8 s.toList).toArray⟩ = some s := by
  have hbytes : (⟨(utf8 s.toList).toArray⟩ : ByteArray) = s.toByteArray := by
    rw [← String.utf8Encode_toList, List.utf8Encode, ← utf8]
    apply ByteArray.ext
    apply Array.toList_inj.mp
    simp
  rw [hbytes, String.fromUTF8?, dif_pos s.isValidUTF8]
  rfl

theorem unescape?_escape (h : keep '%' = false) (s : String) :
    unescape? (escape keep s) = some s := by
  rw [unescape?, percentDecode_escape h, fromUTF8?_utf8]

/-! ## 3. Texts with nothing to escape -/

/-- Whether what escapes are written with may stand. -/
structure KeepsEscapes (keep : Char → Bool) : Prop where
  percent : keep '%' = true
  digits : ∀ c ∈ upperHexDigits, keep c = true

theorem IsEscaped.forall_keep (hk : KeepsEscapes keep) (h : IsEscaped keep s) :
    ∀ c ∈ s, keep c = true := by
  induction h with
  | nil => simp
  | kept hc _ ih => exact List.forall_mem_cons.mpr ⟨hc, ih⟩
  | triple hh hl _ ih =>
    simp only [List.forall_mem_cons]
    exact ⟨hk.percent, hk.digits _ hh, hk.digits _ hl, ih⟩

theorem escape_of_forall_keep {s : String} (h : ∀ c ∈ s.toList, keep c = true) :
    escape keep s = s := by
  have hself : s.toList.flatMap (escapeChar keep) = s.toList.flatMap fun c => [c] := by
    rw [List.flatMap_def, List.flatMap_def, List.map_congr_left]
    intro c hc
    rw [escapeChar, if_pos (h c hc)]
  rw [escape, hself, List.flatMap_singleton', String.ofList_toList]

/-! ## 4. The three rules -/

/-- Whether a function is an encoding of texts that leaves unreserved characters as they are. -/
structure IsUriEncoding (f : String → String) : Prop where
  decoded : ∀ s, unescape? (f s) = some s
  injective : Function.Injective f
  escaped : ∀ s, IsEscaped isUnreserved (f s).toList
  append : ∀ s t, f (s ++ t) = f s ++ f t

/-- Whether a function brings texts into the form in which all characters may stand. -/
structure IsUriNormalization (f : String → String) (keep : Char → Bool) : Prop where
  normal : ∀ s, ∀ c ∈ (f s).toList, keep c = true
  fixed : ∀ s, f s = s ↔ ∀ c ∈ s.toList, keep c = true
  idempotent : ∀ s, f (f s) = f s
  append : ∀ s t, f (s ++ t) = f s ++ f t

theorem KeepsEscapes.isUriNormalization (hk : KeepsEscapes keep) :
    IsUriNormalization (escape keep) keep := by
  have hnormal (s : String) : ∀ c ∈ (escape keep s).toList, keep c = true :=
    (isEscaped_escape keep s).forall_keep hk
  refine ⟨hnormal, fun s => ⟨?_, escape_of_forall_keep⟩, fun s => ?_, escape_append keep⟩
  · intro h
    rw [← h]
    exact hnormal s
  · exact escape_of_forall_keep (hnormal s)

theorem isUriEncoding_encodeForUri : IsUriEncoding encodeForUri := by
  have hdecoded (s : String) : unescape? (encodeForUri s) = some s :=
    unescape?_escape (by decide) s
  refine ⟨hdecoded, ?_, isEscaped_escape isUnreserved, escape_append isUnreserved⟩
  intro s t h
  have hs := hdecoded s
  rw [h, hdecoded t] at hs
  exact (Option.some.inj hs).symm

/-- What is escaped for use as a part of a URI can be got back, so nothing is lost; what is escaped
to be a URI, or to be printable, is as it has to be and is not escaped again.  All three go along
with joining texts. -/
theorem uriEscapes_lawful : IsUriEncoding encodeForUri ∧
    IsUriNormalization iriToUri isUriChar ∧ IsUriNormalization escapeHtmlUri isPrintable := by
  have huri : KeepsEscapes isUriChar := ⟨rfl, List.all_eq_true.mp rfl⟩
  have hprintable : KeepsEscapes isPrintable := ⟨rfl, List.all_eq_true.mp rfl⟩
  exact ⟨isUriEncoding_encodeForUri, huri.isUriNormalization, hprintable.isUriNormalization⟩

/-- A percent sign in the text is escaped for use as a part of a URI, and left alone otherwise. -/
example : encodeForUri "5%20é" = "5%2520%C3%A9" ∧ iriToUri "5%20é" = "5%20%C3%A9" := by decide

end XPath.Text
