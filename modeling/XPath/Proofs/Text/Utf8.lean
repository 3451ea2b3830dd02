import Mathlib.Data.List.Basic

/-!
# Searching in UTF-8

No character has bytes that another could be mistaken to begin in.  So the bytes of a text occur in
those of another only where its characters do.
-/

namespace XPath.Text

/-- The bytes of a text. -/
def utf8 (s : List Char) : List UInt8 := s.flatMap String.utf8EncodeChar

/-- From which byte up to which a list of bytes first occurs in another. -/
def byteRange? (haystack needle : List UInt8) : Option (Nat × Nat) :=
  (haystack.dropInfix? needle).map fun p => (p.1.length, p.1.length + needle.length)

@[simp] theorem utf8_nil : utf8 [] = [] := rfl

@[simp] theorem utf8_cons (x : Char) (s : List Char) :
    utf8 (x :: s) = String.utf8EncodeChar x ++ utf8 s := rfl

@[simp] theorem utf8_append (s t : List Char) : utf8 (s ++ t) = utf8 s ++ utf8 t :=
  List.flatMap_append

theorem isPrefix_of_utf8_append_eq {s t : List Char} {q : List UInt8}
    (h : utf8 t ++ q = utf8 s) : t <+: s := by
  apply List.isPrefix_of_utf8Encode_append_eq_utf8Encode q.toByteArray
  rw [List.utf8Encode, List.utf8Encode, ← utf8, ← utf8, ← h]
  apply ByteArray.ext
  apply Array.toList_inj.mp
  simp

theorem exists_utf8_cons {y : Char} {t : List Char} :
    ∃ b r, utf8 (y :: t) = b :: r ∧ b.IsUTF8FirstByte := by
  obtain ⟨b, r, hy⟩ := List.exists_cons_of_ne_nil (String.utf8EncodeChar_ne_nil (c := y))
  have hlt : 0 < (String.utf8EncodeChar y).length := by simp [hy]
  have hfirst : (String.utf8EncodeChar y)[0].IsUTF8FirstByte :=
    UInt8.isUTF8FirstByte_getElem_utf8EncodeChar.mpr rfl
  refine ⟨b, r ++ utf8 t, by simp [hy], ?_⟩
  simpa [hy] using hfirst

theorem eq_nil_of_utf8EncodeChar_eq {x : Char} {b : UInt8} {p r : List UInt8}
    (hb : b.IsUTF8FirstByte) (hx : String.utf8EncodeChar x = p ++ b :: r) : p = [] := by
  have hlt : p.length < (String.utf8EncodeChar x).length := by simp [hx]
  have hat : (String.utf8EncodeChar x)[p.length] = b := by simp [hx]
  rw [← hat, UInt8.isUTF8FirstByte_getElem_utf8EncodeChar] at hb
  exact List.length_eq_zero_iff.mp hb

/-- Where the bytes of a text occur, the text does. -/
theorem exists_append_of_utf8_eq {s t : List Char} {p q : List UInt8} (ht : t ≠ [])
    (h : utf8 s = p ++ utf8 t ++ q) : ∃ a b, s = a ++ t ++ b ∧ p = utf8 a ∧ q = utf8 b := by
  obtain ⟨y, t, rfl⟩ := List.exists_cons_of_ne_nil ht
  obtain ⟨b, r, hbytes, hb⟩ := exists_utf8_cons (y := y) (t := t)
  induction s generalizing p with
  | nil => simp [hbytes] at h
  | cons x s ih =>
    rw [utf8_cons, List.append_assoc] at h
    obtain ⟨p', rfl, hrest⟩ | ⟨tail, hx, hrest⟩ := List.append_eq_append_iff.mp h
    · obtain ⟨a, b, rfl, rfl, rfl⟩ := ih (by simpa using hrest)
      exact ⟨x :: a, b, by simp, by simp, rfl⟩
    · cases tail with
      | nil =>
        obtain ⟨a, b, rfl, ha, rfl⟩ := ih (p := []) (by simpa using hrest.symm)
        exact ⟨x :: a, b, by simp, by simp [← ha, hx], rfl⟩
      | cons b' tail =>
        -- the bytes begin within those of `x`, so they begin with the first of them
        obtain rfl : b = b' := by
          rw [hbytes] at hrest
          exact (List.cons.inj hrest).1
        obtain rfl := eq_nil_of_utf8EncodeChar_eq hb hx
        have hstart : utf8 (y :: t) ++ q = utf8 (x :: s) := h.symm
        obtain ⟨b, hs⟩ := isPrefix_of_utf8_append_eq hstart
        refine ⟨[], b, hs.symm, rfl, ?_⟩
        rw [← hs, utf8_append] at hstart
        exact List.append_cancel_left hstart

end XPath.Text
