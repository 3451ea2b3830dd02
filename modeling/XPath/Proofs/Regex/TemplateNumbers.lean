import XPath.Proofs.Text.Digits
import XPath.Regex.Replacement

/-!
# Numbers of groups

Of the digits behind a dollar sign in a template, as many as possible are the number of a group, and
the rest is text.  The reader finds this number.  It stops at the first number that is too great, so
that those that it computes on the way have a limit.
-/

namespace XPath.Regex.Template

open XPath.Text

variable {groups : Nat} {digits rest s : List Char} {c : Char}

/-! ## 1. The longest number -/

/-- Whether digits may be the number of a reference: a single digit always, more of them if there
are that many groups. -/
structure IsNumber (groups : Nat) (digits : List Char) : Prop where
  ne_nil : digits ≠ []
  isDigits : IsDigits digits
  single_or_le : digits.length = 1 ∨ digitsValue digits ≤ groups

/-- Whether `digits` is the longest number that `digits ++ rest` begins with. -/
structure IsLongestNumber (groups : Nat) (digits rest : List Char) : Prop where
  isNumber : IsNumber groups digits
  longest : ∀ p, p <+: digits ++ rest → IsNumber groups p → p.length ≤ digits.length

theorem isNumber_single (groups : Nat) (h : isDigit c = true) : IsNumber groups [c] :=
  ⟨List.cons_ne_nil c [], List.forall_mem_singleton.mpr h, .inl rfl⟩

theorem IsNumber.exists_cons (h : IsNumber groups digits) :
    ∃ c more, digits = c :: more ∧ isDigit c = true := by
  obtain ⟨c, more, rfl⟩ := List.exists_cons_of_ne_nil h.ne_nil
  exact ⟨c, more, rfl, h.isDigits c List.mem_cons_self⟩

theorem IsNumber.of_append {more : List Char} (h : IsNumber groups (digits ++ more))
    (hdigits : digits ≠ []) : IsNumber groups digits := by
  refine ⟨hdigits, fun c hc => h.isDigits c (List.mem_append_left more hc), ?_⟩
  rcases h.single_or_le with hsingle | hle
  · have hpos := List.length_pos_iff.mpr hdigits
    rw [List.length_append] at hsingle
    exact .inl (by omega)
  · exact .inr ((digitsValue_le_append digits more).trans hle)

theorem isNumber_concat (h : IsNumber groups digits) (hc : isDigit c = true) :
    IsNumber groups (digits ++ [c]) ↔
      10 * digitsValue digits + (c.toNat - '0'.toNat) ≤ groups := by
  rw [← digitsValue_concat]
  constructor
  · intro hmore
    have hpos := List.length_pos_iff.mpr h.ne_nil
    refine hmore.single_or_le.resolve_left ?_
    rw [List.length_append, List.length_singleton]
    omega
  · intro hle
    exact ⟨by simp, h.isDigits.append (isNumber_single groups hc).isDigits, .inr hle⟩

/-- A number to which the next character cannot belong is the longest one. -/
theorem IsNumber.isLongest (h : IsNumber groups digits)
    (hstop : ∀ c ∈ rest.head?, ¬ IsNumber groups (digits ++ [c])) :
    IsLongestNumber groups digits rest := by
  refine ⟨h, fun p hp hnumber => ?_⟩
  by_contra hlonger
  obtain ⟨more, rfl⟩ := List.prefix_of_prefix_length_le (List.prefix_append digits rest) hp
    (by omega)
  obtain ⟨after, hafter⟩ := hp
  rw [List.append_assoc, List.append_cancel_left_eq] at hafter
  cases more with
  | nil => simp at hlonger
  | cons c more =>
    -- the longer number would have this start in common with the text
    apply hstop c (by rw [← hafter]; rfl)
    rw [List.append_cons] at hnumber
    exact hnumber.of_append (by simp)

theorem IsLongestNumber.unique {digits' rest' : List Char} (h : IsLongestNumber groups digits rest)
    (h' : IsLongestNumber groups digits' rest') (heq : digits ++ rest = digits' ++ rest') :
    digits = digits' ∧ rest = rest' := by
  apply List.append_inj heq
  apply Nat.le_antisymm
  · exact h'.longest digits (heq ▸ List.prefix_append digits rest) h.isNumber
  · exact h.longest digits' (heq ▸ List.prefix_append digits' rest') h'.isNumber

/-- The reader goes on with a number until it is the longest one. -/
theorem exists_groupNumber (h : IsNumber groups digits) (s : List Char) :
    ∃ more rest, s = more ++ rest ∧
      groupNumber groups (digitsValue digits) s = (digitsValue (digits ++ more), rest) ∧
      IsLongestNumber groups (digits ++ more) rest := by
  induction s generalizing digits with
  | nil =>
    refine ⟨[], [], rfl, by rw [groupNumber, List.append_nil], ?_⟩
    rw [List.append_nil]
    exact h.isLongest (by simp)
  | cons c s ih =>
    rw [groupNumber]
    by_cases hc : isDigit c = true
    · by_cases hle : 10 * digitsValue digits + (c.toNat - '0'.toNat) ≤ groups
      · obtain ⟨more, rest, hs, hnumber, hlongest⟩ := ih ((isNumber_concat h hc).mpr hle)
        rw [digitsValue_concat] at hnumber
        rw [← List.append_cons] at hnumber hlongest
        refine ⟨c :: more, rest, by rw [hs, List.cons_append], ?_, hlongest⟩
        simp only [if_pos hc, if_pos hle, hnumber]
      · refine ⟨[], c :: s, rfl, by simp only [if_pos hc, if_neg hle, List.append_nil], ?_⟩
        rw [List.append_nil]
        apply h.isLongest
        rintro d ⟨⟩
        rwa [isNumber_concat h hc]
    · refine ⟨[], c :: s, rfl, by simp only [if_neg hc, List.append_nil], ?_⟩
      rw [List.append_nil]
      apply h.isLongest
      rintro d ⟨⟩ hnumber
      exact hc (hnumber.isDigits c (by simp))

theorem groupNumber_of_isLongest (hc : isDigit c = true)
    (h : IsLongestNumber groups (c :: digits) rest) :
    groupNumber groups (c.toNat - '0'.toNat) (digits ++ rest) =
      (digitsValue (c :: digits), rest) := by
  obtain ⟨more, rest', hs, hnumber, hlongest⟩ :=
    exists_groupNumber (isNumber_single groups hc) (digits ++ rest)
  obtain ⟨hdigits, rfl⟩ := hlongest.unique h (by simp [hs])
  rw [hdigits] at hnumber
  simpa [digitsValue] using hnumber

/-! ## 2. Limited numbers -/

variable {limit : Nat} {n : Fin (limit + 1)}

/-- A number with one more digit, if that is not above the limit. -/
def withDigit? (n : Fin (limit + 1)) (c : Char) : Option (Fin (limit + 1)) :=
  if h : 10 * n.val + (c.toNat - '0'.toNat) < limit + 1 then some ⟨_, h⟩ else none

theorem withDigit?_eq_some_iff {m : Fin (limit + 1)} :
    withDigit? n c = some m ↔ m.val = 10 * n.val + (c.toNat - '0'.toNat) := by
  unfold withDigit?
  split
  · rw [Option.some.injEq, Fin.ext_iff, eq_comm]
  · have hm := m.isLt
    simp only [reduceCtorEq, false_iff]
    omega

theorem withDigit?_eq_none_iff :
    withDigit? n c = none ↔ limit < 10 * n.val + (c.toNat - '0'.toNat) := by
  unfold withDigit?
  split
  · simp only [reduceCtorEq, false_iff]
    omega
  · simp only [true_iff]
    omega

/-- Goes on with the number of a group as `groupNumber` does, in numbers up to a limit.  There is no
answer if a number is above the limit. -/
def groupNumberUpTo? (limit groups : Nat) (n : Fin (limit + 1)) :
    List Char → Option (Fin (limit + 1) × List Char)
  | [] => some (n, [])
  | c :: r =>
    if isDigit c then
      (withDigit? n c).bind fun m =>
        if m.val ≤ groups then groupNumberUpTo? limit groups m r else some (n, c :: r)
    else some (n, c :: r)

theorem groupNumberUpTo?_rest_le {m : Fin (limit + 1)}
    (h : groupNumberUpTo? limit groups n s = some (m, rest)) : rest.length ≤ s.length := by
  induction s generalizing n with
  | nil =>
    rw [groupNumberUpTo?] at h
    cases h
    exact Nat.le_refl _
  | cons c s ih =>
    rw [groupNumberUpTo?] at h
    split at h
    · obtain ⟨k, -, hk⟩ := Option.bind_eq_some_iff.mp h
      split at hk
      · exact Nat.le_succ_of_le (ih hk)
      · cases hk
        exact Nat.le_refl _
    · cases h
      exact Nat.le_refl _

/-- A limit that has room for one digit more than each number that goes on is kept. -/
theorem exists_groupNumberUpTo? (hlimit : max (10 * groups + 9) 99 ≤ limit)
    (hn : n.val ≤ max groups 9) (s : List Char) :
    ∃ m, groupNumberUpTo? limit groups n s = some (m, (groupNumber groups n.val s).2) ∧
      m.val = (groupNumber groups n.val s).1 := by
  induction s generalizing n with
  | nil => exact ⟨n, rfl, rfl⟩
  | cons c s ih =>
    rw [groupNumberUpTo?, groupNumber]
    by_cases hc : isDigit c = true
    · have hdigit := digit_le_nine hc
      have hfit : 10 * n.val + (c.toNat - '0'.toNat) < limit + 1 := by omega
      simp only [if_pos hc, withDigit?, dif_pos hfit, Option.bind_some]
      by_cases hle : 10 * n.val + (c.toNat - '0'.toNat) ≤ groups
      · simp only [if_pos hle]
        exact ih (hle.trans (Nat.le_max_left _ _))
      · simp only [if_neg hle]
        exact ⟨n, rfl, rfl⟩
    · simp only [if_neg hc]
      exact ⟨n, rfl, rfl⟩

/-- The number that begins with a digit, in numbers up to a limit. -/
def numberUpTo? (limit groups : Nat) (c : Char) (r : List Char) :
    Option (Fin (limit + 1) × List Char) :=
  (withDigit? 0 c).bind fun n => groupNumberUpTo? limit groups n r

theorem numberUpTo?_rest_le {m : Fin (limit + 1)}
    (h : numberUpTo? limit groups c s = some (m, rest)) : rest.length ≤ s.length := by
  obtain ⟨n, -, hn⟩ := Option.bind_eq_some_iff.mp h
  exact groupNumberUpTo?_rest_le hn

theorem exists_numberUpTo? (hlimit : max (10 * groups + 9) 99 ≤ limit) (hc : isDigit c = true)
    (s : List Char) :
    ∃ m, numberUpTo? limit groups c s =
        some (m, (groupNumber groups (c.toNat - '0'.toNat) s).2) ∧
      m.val = (groupNumber groups (c.toNat - '0'.toNat) s).1 := by
  have hdigit := digit_le_nine hc
  have hfirst : withDigit? 0 c = some (⟨c.toNat - '0'.toNat, by omega⟩ : Fin (limit + 1)) := by
    rw [withDigit?_eq_some_iff, Fin.val_zero, Nat.mul_zero, Nat.zero_add]
  rw [numberUpTo?, hfirst, Option.bind_some]
  exact exists_groupNumberUpTo? hlimit (hdigit.trans (Nat.le_max_right _ _)) s

/-- A nine behind a number that goes on is tried as a part of it, and does not fit. -/
theorem groupNumberUpTo?_nine {more : List Char} (hn : n.val = digitsValue digits)
    (hmore : IsDigits more) (hle : more = [] ∨ digitsValue (digits ++ more) ≤ groups)
    (hlimit : limit < 10 * digitsValue (digits ++ more) + 9) :
    groupNumberUpTo? limit groups n (more ++ ['9']) = none := by
  induction more generalizing n digits with
  | nil =>
    rw [List.append_nil, ← hn] at hlimit
    have hnine : withDigit? n '9' = none := withDigit?_eq_none_iff.mpr hlimit
    rw [List.nil_append, groupNumberUpTo?, if_pos (by decide), hnine, Option.bind_none]
  | cons c more ih =>
    have hgroups := hle.resolve_left (List.cons_ne_nil c more)
    rw [List.append_cons] at hgroups hlimit
    rw [List.cons_append, groupNumberUpTo?, if_pos (hmore c List.mem_cons_self)]
    cases hm : withDigit? n c with
    | none => rfl
    | some m =>
      have hvalue : m.val = digitsValue (digits ++ [c]) := by
        rw [withDigit?_eq_some_iff.mp hm, hn, digitsValue_concat]
      have hgoes : m.val ≤ groups := hvalue ▸ (digitsValue_le_append _ more).trans hgroups
      rw [Option.bind_some, if_pos hgoes]
      exact ih hvalue (fun d hd => hmore d (List.mem_cons_of_mem c hd)) (.inr hgroups) hlimit

/-- There are digits with which the limit is reached: those of the number of groups, or a nine. -/
theorem exists_reaching (groups : Nat) : ∃ c more, IsDigits (c :: more) ∧
    (more = [] ∨ digitsValue (c :: more) ≤ groups) ∧
    10 * digitsValue (c :: more) + 9 = max (10 * groups + 9) 99 := by
  by_cases hfew : groups ≤ 9
  · refine ⟨'9', [], List.forall_mem_singleton.mpr (by decide), .inl rfl, ?_⟩
    have hvalue : digitsValue ['9'] = 9 := rfl
    omega
  · obtain ⟨c, more, hdigits⟩ := List.exists_cons_of_ne_nil (toDigits_ne_nil groups)
    have hvalue : digitsValue (c :: more) = groups := by rw [← hdigits, digitsValue_toDigits]
    refine ⟨c, more, hdigits ▸ isDigits_toDigits groups, .inr hvalue.le, ?_⟩
    omega

theorem exists_numberUpTo?_eq_none (hlimit : limit < max (10 * groups + 9) 99) :
    ∃ c s, isDigit c = true ∧ numberUpTo? limit groups c s = none := by
  obtain ⟨c, more, hdigits, hle, hreaching⟩ := exists_reaching groups
  obtain ⟨hc, hmore⟩ := List.forall_mem_cons.mp hdigits
  refine ⟨c, more ++ ['9'], hc, ?_⟩
  rw [numberUpTo?]
  cases hfirst : withDigit? (0 : Fin (limit + 1)) c with
  | none => rfl
  | some first =>
    have hvalue : first.val = digitsValue [c] := withDigit?_eq_some_iff.mp hfirst
    exact groupNumberUpTo?_nine hvalue hmore hle (hreaching ▸ hlimit)

end XPath.Regex.Template
