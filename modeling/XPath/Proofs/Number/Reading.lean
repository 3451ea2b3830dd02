import Mathlib.Tactic.Linarith
import XPath.Proofs.Number.Nearest
import XPath.Proofs.Number.Text

/-!
# Reading decimals

A numeral may have more digits than a decimal has room for.  The reader then rounds by the first
digit that finds no room.  So it is off by no more than a half, it misses no number that is a
decimal, and it refuses a number exactly if it is closer to the first number out of range.
-/

namespace XPath.Number.Decimal

open XPath.Text

/-- Whether a number is that of a decimal. -/
def IsValue (x : ℚ) : Prop := ∃ d : Decimal, d.value = x

/-- Whether `r` is what rounding gives for a number that is not negative: nothing if the number is
out of range, the number itself if there is such a decimal, and otherwise a decimal no further away
than `ε`. -/
structure Approximates (r : Option Decimal) (x ε : ℚ) : Prop where
  eq_none_iff : r = none ↔ 2 ^ 96 - 1 / 2 ≤ x
  near : ∀ d, r = some d → |d.value - x| ≤ ε
  exact : ∀ d, r = some d → IsValue x → d.value = x

/-- Whether `r` is what reading a numeral gives.  A number so large that there is no room for a
digit behind its point is rounded to a whole number. -/
structure IsReading (r : Option Decimal) (x : ℚ) : Prop extends Approximates r x (1 / 2) where
  whole : ∀ d, r = some d → 2 ^ 95 ≤ x → d.value = ⌊x + 1 / 2⌋

theorem IsValue.exists_eq {x : ℚ} (h : IsValue x) (hx : 0 ≤ x) :
    ∃ c s : Nat, c < 2 ^ 96 ∧ s ≤ 28 ∧ x = c / 10 ^ s := by
  obtain ⟨d, rfl⟩ := h
  refine ⟨d.coefficient, d.scale, d.coefficient_lt, d.scale_le, ?_⟩
  rw [← abs_of_nonneg hx, ← value_abs, value_eq]
  exact one_mul _

theorem isValue_div {c s : Nat} (hc : c < 2 ^ 96) (hs : s ≤ 28) : IsValue (c / 10 ^ s) :=
  ⟨⟨false, c, s, hc, hs⟩, by rw [value_eq]; exact one_mul _⟩

variable {c k v : Nat} {x t : ℚ}

theorem exists_ofParts? (hc : c < 2 ^ 96) (hk : k ≤ 28) :
    ∃ d, ofParts? false c k = some d ∧ d.value = c / 10 ^ k :=
  ⟨_, ofParts?_eq hc hk, by rw [value_eq]; exact one_mul _⟩

/-- A number with digits behind the point is far below the largest decimals. -/
theorem lt_of_scale (hx : x < (2 ^ 96 : ℚ) / 10 ^ k) (hk : k ≠ 0) : x < 2 ^ 95 := by
  have hpow : (10 : ℚ) ≤ 10 ^ k := le_self_pow₀ (by norm_num) hk
  have hle : (2 ^ 96 : ℚ) / 10 ^ k ≤ 2 ^ 96 / 10 := div_le_div_of_nonneg_left (by norm_num)
    (by norm_num) hpow
  linarith

theorem natCast_eq_floor {n : Nat} (hle : n ≤ x) (hlt : x < n + 1) : (n : ℚ) = ⌊x⌋ := by
  have h : ⌊x⌋ = n := Int.floor_eq_iff.mpr ⟨by exact_mod_cast hle, by exact_mod_cast hlt⟩
  rw [h, Int.cast_natCast]

theorem isReading_ofParts? (hc : c < 2 ^ 96) (hk : k ≤ 28) :
    IsReading (ofParts? false c k) (c / 10 ^ k) := by
  obtain ⟨d, hd, hvalue⟩ := exists_ofParts? hc hk
  have hcq : (c : ℚ) ≤ 2 ^ 96 - 1 := by
    have h : (c : ℚ) + 1 ≤ 2 ^ 96 := by exact_mod_cast hc
    linarith
  have hle : (c : ℚ) / 10 ^ k ≤ c := div_le_self (by positivity) (one_le_pow₀ (by norm_num))
  rw [hd]
  refine ⟨⟨?_, ?_, ?_⟩, ?_⟩
  · exact iff_of_false (Option.some_ne_none d) (by linarith)
  · rintro _ ⟨⟩
    rw [hvalue, sub_self, abs_zero]
    norm_num
  · rintro _ ⟨⟩ -
    exact hvalue
  · rintro _ ⟨⟩ hlarge
    by_cases hk0 : k = 0
    · subst hk0
      rw [hvalue, pow_zero, div_one]
      exact natCast_eq_floor (by linarith) (by linarith)
    · refine absurd hlarge (not_le.mpr (lt_of_scale ?_ hk0))
      exact div_lt_div_of_pos_right (by exact_mod_cast hc) (by positivity)

/-! ## 1. The digit that finds no room -/

/-- The coefficient is kept or is one larger; if that is out of range, the last digit behind the
point goes. -/
theorem roundDigit_cases (hc : c < 2 ^ 96) (hk : k ≤ 28) :
    (v < 5 ∧ ∃ d, roundDigit false c k v = some d ∧ d.value = c / 10 ^ k) ∨
    (5 ≤ v ∧ ∃ d, roundDigit false c k v = some d ∧ c + 1 < 2 ^ 96 ∧
      d.value = (c + 1) / 10 ^ k) ∨
    (5 ≤ v ∧ c + 1 = 2 ^ 96 ∧ k = 0 ∧ roundDigit false c k v = none) ∨
    (5 ≤ v ∧ k ≠ 0 ∧ ∃ d, roundDigit false c k v = some d ∧ d.value = (c + 5) / 10 ^ k) := by
  unfold roundDigit
  by_cases hv : v < 5
  · rw [if_pos hv]
    exact .inl ⟨hv, exists_ofParts? hc hk⟩
  · have hv5 : 5 ≤ v := not_lt.mp hv
    rw [if_neg hv]
    by_cases hnext : c + 1 < 2 ^ 96
    · rw [if_pos hnext]
      obtain ⟨d, hd, hvalue⟩ := exists_ofParts? hnext hk
      exact .inr (.inl ⟨hv5, d, hd, hnext, by simpa using hvalue⟩)
    · have hlast : c + 1 = 2 ^ 96 := by omega
      rw [if_neg hnext]
      cases k with
      | zero => exact .inr (.inr (.inl ⟨hv5, hlast, rfl, rfl⟩))
      | succ k =>
        -- the sum is a multiple of ten, so nothing else is lost
        have hten : (c + 5) / 10 * 10 = c + 5 := by omega
        obtain ⟨d, hd, hvalue⟩ := exists_ofParts? (c := (c + 5) / 10) (k := k) (by omega) (by omega)
        refine .inr (.inr (.inr ⟨hv5, Nat.succ_ne_zero k, d, hd, ?_⟩))
        have htenq : (((c + 5) / 10 : ℕ) : ℚ) * 10 = c + 5 := by exact_mod_cast hten
        rw [hvalue, ← htenq, pow_succ, mul_div_mul_right _ _ (by norm_num)]

/-- A decimal has no digits where another of its size finds no room for them. -/
theorem eq_zero_of_isValue (hfull : k = 28 ∨ 2 ^ 96 ≤ 10 * c + v) (hv : (v : ℚ) / 10 ≤ t)
    (h1 : t < 1) (h : IsValue ((c + t) / 10 ^ k)) : t = 0 := by
  have h0 : 0 ≤ t := le_trans (by positivity) hv
  obtain ⟨m, s, hm, hs, hx⟩ := h.exists_eq (by positivity)
  rw [div_eq_div_iff (by positivity) (by positivity)] at hx
  -- with fewer digits behind the point it has none to add to `c`, with more it would be too large
  rcases le_or_gt s k with hsk | hks
  · obtain ⟨j, rfl⟩ := Nat.exists_eq_add_of_le hsk
    have hwhole : (c : ℚ) + t = (m * 10 ^ j : ℕ) := by
      rw [pow_add, mul_comm (10 ^ s) (10 ^ j), ← mul_assoc] at hx
      push_cast
      exact mul_right_cancel₀ (by positivity) hx
    have hlo : c ≤ m * 10 ^ j := by
      have h : (c : ℚ) ≤ (m * 10 ^ j : ℕ) := by linarith
      exact_mod_cast h
    have hhi : m * 10 ^ j < c + 1 := by
      have h : ((m * 10 ^ j : ℕ) : ℚ) < c + 1 := by linarith
      exact_mod_cast h
    rw [show m * 10 ^ j = c by omega] at hwhole
    linarith
  · obtain ⟨j, rfl⟩ := Nat.exists_eq_add_of_lt hks
    have hroom : 2 ^ 96 ≤ 10 * c + v := hfull.resolve_left (by omega)
    have hmq : (m : ℚ) = (c + t) * 10 ^ (j + 1) := by
      rw [add_assoc, pow_add, mul_comm (10 ^ k : ℚ), ← mul_assoc] at hx
      exact (mul_right_cancel₀ (by positivity) hx).symm
    have hten : (10 : ℚ) ≤ 10 ^ (j + 1) := le_self_pow₀ (by norm_num) (Nat.succ_ne_zero j)
    have hle : (c + t) * 10 ≤ m := by
      rw [hmq]
      exact mul_le_mul_of_nonneg_left hten (by positivity)
    have hroomq : (2 : ℚ) ^ 96 ≤ 10 * c + v := by exact_mod_cast hroom
    have hmlt : (m : ℚ) < 2 ^ 96 := by exact_mod_cast hm
    linarith

/-- Rounding from `c` and a fraction `t` of its last digit to `c + e`. -/
theorem isReading_some {d : Decimal} {e : ℚ} (hc : c < 2 ^ 96)
    (hfull : k = 28 ∨ 2 ^ 96 ≤ 10 * c + v) (hlo : (v : ℚ) / 10 ≤ t) (h1 : t < 1)
    (hd : d.value = (c + e) / 10 ^ k) (hx : (c + t) / 10 ^ k < (2 ^ 96 - 1 / 2 : ℚ))
    (hnear : |e - t| ≤ 1 / 2 * 10 ^ k) (hexact : t = 0 → e = 0)
    (hwhole : k = 0 → (c + e : ℚ) = ⌊c + t + 1 / 2⌋) :
    IsReading (some d) ((c + t) / 10 ^ k) := by
  have hpow : (0 : ℚ) < 10 ^ k := by positivity
  refine ⟨⟨iff_of_false (Option.some_ne_none d) (not_le.mpr hx), ?_, ?_⟩, ?_⟩
  · rintro _ ⟨⟩
    rw [hd, ← sub_div, add_sub_add_left_eq_sub, abs_div, abs_of_pos hpow, div_le_iff₀ hpow]
    exact hnear
  · rintro _ ⟨⟩ hvalue
    have ht := eq_zero_of_isValue hfull hlo h1 hvalue
    rw [hd, hexact ht, ht]
  · rintro _ ⟨⟩ hlarge
    have hk : k = 0 := by
      by_contra hk
      refine absurd hlarge (not_le.mpr (lt_of_scale ?_ hk))
      have hcq : (c : ℚ) + 1 ≤ 2 ^ 96 := by exact_mod_cast hc
      exact div_lt_div_of_pos_right (by linarith) hpow
    rw [hd, hk, pow_zero, div_one, div_one]
    exact hwhole hk

theorem isReading_roundDigit (hc : c < 2 ^ 96) (hk : k ≤ 28) (hv9 : v ≤ 9)
    (hfull : k = 28 ∨ 2 ^ 96 ≤ 10 * c + v) (hlo : (v : ℚ) / 10 ≤ t) (hhi : t < (v + 1) / 10) :
    IsReading (roundDigit false c k v) ((c + t) / 10 ^ k) := by
  have hcq : (c : ℚ) + 1 ≤ 2 ^ 96 := by exact_mod_cast hc
  have hvq : (v : ℚ) ≤ 9 := by exact_mod_cast hv9
  have h0 : 0 ≤ t := le_trans (by positivity) hlo
  have h1 : t < 1 := by linarith
  have hpow : (1 : ℚ) ≤ 10 ^ k := one_le_pow₀ (by norm_num)
  have hle : (c + t) / 10 ^ k ≤ c + t := div_le_self (by positivity) hpow
  have hhalf (hv : 5 ≤ v) : 1 / 2 ≤ t := by
    have h : (5 : ℚ) ≤ v := by exact_mod_cast hv
    linarith
  rcases roundDigit_cases (v := v) hc hk with
    ⟨hv, d, hd, hvalue⟩ | ⟨hv, d, hd, hnext, hvalue⟩ | ⟨hv, hlast, rfl, hd⟩ |
      ⟨hv, hk0, d, hd, hvalue⟩
  · have hsmall : t < 1 / 2 := by
      have h : (v : ℚ) + 1 ≤ 5 := by exact_mod_cast hv
      linarith
    rw [hd]
    refine isReading_some (e := 0) hc hfull hlo h1 (by rw [hvalue, add_zero]) (by linarith) ?_
      (fun _ => rfl) ?_
    · rw [zero_sub, abs_neg, abs_of_nonneg h0]
      linarith
    · rintro -
      rw [add_zero]
      exact natCast_eq_floor (by linarith) (by linarith)
  · have hnextq : (c : ℚ) + 1 + 1 ≤ 2 ^ 96 := by exact_mod_cast hnext
    have := hhalf hv
    rw [hd]
    refine isReading_some (e := 1) hc hfull hlo h1 hvalue (by linarith) ?_ (by intro; linarith) ?_
    · rw [abs_of_pos (by linarith)]
      linarith
    · rintro -
      rw [← Nat.cast_succ]
      exact natCast_eq_floor (by push_cast; linarith) (by push_cast; linarith)
  · have hlastq : (c : ℚ) + 1 = 2 ^ 96 := by exact_mod_cast hlast
    have := hhalf hv
    rw [hd, pow_zero, div_one]
    exact ⟨⟨iff_of_true rfl (by linarith), by simp, by simp⟩, by simp⟩
  · have hten : (10 : ℚ) ≤ 10 ^ k := le_self_pow₀ (by norm_num) hk0
    have := hhalf hv
    have hx : (c + t) / 10 ^ k < (2 : ℚ) ^ 95 :=
      lt_of_scale (div_lt_div_of_pos_right (by linarith) (by positivity)) hk0
    rw [hd]
    refine isReading_some (e := 5) hc hfull hlo h1 hvalue (by linarith) ?_ (by intro; linarith)
      (fun h => absurd h hk0)
    rw [abs_of_pos (by linarith)]
    linarith

/-! ## 2. Numerals -/

theorem followedBy_bounds {s : List Char} (hs : IsDigits s) (c : Nat) :
    c * 10 ^ s.length ≤ followedBy c s ∧ followedBy c s < (c + 1) * 10 ^ s.length := by
  induction s generalizing c with
  | nil => simp [followedBy]
  | cons x s ih =>
    have hdigit := digit_le_nine (hs x List.mem_cons_self)
    obtain ⟨hle, hlt⟩ := ih (fun y hy => hs y (List.mem_cons_of_mem x hy))
      (10 * c + (x.toNat - '0'.toNat))
    rw [followedBy_cons, List.length_cons, Nat.pow_succ, Nat.mul_comm _ 10, ← Nat.mul_assoc,
      ← Nat.mul_assoc]
    exact ⟨le_trans (Nat.mul_le_mul_right _ (by omega)) hle,
      lt_of_lt_of_le hlt (Nat.mul_le_mul_right _ (by omega))⟩

theorem followedBy_add (b c : Nat) (s : List Char) :
    followedBy (b + c) s = b * 10 ^ s.length + followedBy c s := by
  induction s generalizing b c with
  | nil => simp [followedBy]
  | cons x s ih =>
    rw [followedBy_cons, followedBy_cons, Nat.mul_add, Nat.add_assoc, ih, List.length_cons,
      Nat.pow_succ]
    ring

theorem isReading_readFraction {f : List Char} (hf : IsDigits f) (hc : c < 2 ^ 96) (hk : k ≤ 28) :
    IsReading (readFraction false f c k) (followedBy c f / 10 ^ (k + f.length)) := by
  -- on the digits: the number stays the same while they are appended to the coefficient
  induction f generalizing c k with
  | nil => exact isReading_ofParts? hc hk
  | cons y f ih =>
    have hy := hf y List.mem_cons_self
    obtain ⟨-, hunder, -, -⟩ := ne_of_isDigit hy
    have hrest : IsDigits f := fun z hz => hf z (List.mem_cons_of_mem y hz)
    have hdigit := digit_le_nine hy
    rw [readFraction, followedBy_cons, List.length_cons]
    simp only [beq_iff_eq, hunder, if_false, hy, Bool.not_true, Bool.false_eq_true]
    generalize hv : y.toNat - '0'.toNat = v
    split
    case isTrue hfull =>
      obtain ⟨hlo, hhi⟩ := followedBy_bounds hrest v
      have hlen : (0 : ℚ) < 10 ^ f.length := by positivity
      have hx : (followedBy (10 * c + v) f : ℚ) / 10 ^ (k + (f.length + 1)) =
          (c + (followedBy v f : ℚ) / 10 ^ f.length / 10) / 10 ^ k := by
        rw [followedBy_add, pow_add, pow_succ]
        push_cast
        field_simp
      rw [hx]
      refine isReading_roundDigit hc hk (by omega) ?_ ?_ ?_
      · simp only [Bool.or_eq_true, decide_eq_true_eq] at hfull
        omega
      · have hloq : (v : ℚ) * 10 ^ f.length ≤ followedBy v f := by exact_mod_cast hlo
        exact div_le_div_of_nonneg_right ((le_div_iff₀ hlen).mpr hloq) (by norm_num)
      · have hhiq : (followedBy v f : ℚ) < (v + 1) * 10 ^ f.length := by exact_mod_cast hhi
        exact div_lt_div_of_pos_right ((div_lt_iff₀ hlen).mpr hhiq) (by norm_num)
    case isFalse hroom =>
      simp only [Bool.or_eq_true, decide_eq_true_eq] at hroom
      have hread := ih hrest (c := 10 * c + v) (k := k + 1) (by omega) (by omega)
      rwa [Nat.add_assoc, Nat.add_comm 1] at hread

theorem readWhole_eq_none {s : List Char} (hs : IsDigits s) (r : List Char) {negative seen : Bool}
    (hc : c < 2 ^ 96) (h : 2 ^ 96 ≤ followedBy c s) :
    readWhole negative (s ++ r) seen c = none := by
  induction s generalizing seen c with
  | nil => exact absurd h (not_le.mpr hc)
  | cons x s ih =>
    have hx := hs x List.mem_cons_self
    obtain ⟨hpoint, hunder, -, -⟩ := ne_of_isDigit hx
    rw [followedBy_cons] at h
    rw [List.cons_append, readWhole.eq_def]
    simp only [beq_iff_eq, hpoint, hunder, if_false, hx, Bool.not_true, Bool.false_eq_true]
    split
    case isTrue => rfl
    case isFalse hroom =>
      exact ih (fun y hy => hs y (List.mem_cons_of_mem x hy)) (not_le.mp hroom) h

theorem IsReading.map_unsignZero {r : Option Decimal} (h : IsReading r x) :
    IsReading (r.map unsignZero) x := by
  have hvalue (d : Decimal) (hd : r.map unsignZero = some d) :
      ∃ e, r = some e ∧ d.value = e.value := by
    obtain ⟨e, he, rfl⟩ := Option.map_eq_some_iff.mp hd
    exact ⟨e, he, e.value_unsignZero⟩
  refine ⟨⟨Option.map_eq_none_iff.trans h.eq_none_iff, ?_, ?_⟩, ?_⟩
  all_goals
    intro d hd
    obtain ⟨e, he, hde⟩ := hvalue d hd
    rw [hde]
  · exact h.near e he
  · exact h.exact e he
  · exact h.whole e he

/-- Digits that are too many leave nothing to read, whatever comes behind them. -/
theorem isReading_ofLiteral?_append {w r : List Char} (hw : IsDigits w) (hw0 : w ≠ [])
    (hx : followedBy 0 w ≤ x)
    (hr : followedBy 0 w < 2 ^ 96 → IsReading (readWhole false r true (followedBy 0 w)) x) :
    IsReading (ofLiteral? (w ++ r)) x := by
  obtain ⟨y, w, rfl⟩ := List.exists_cons_of_ne_nil hw0
  unfold ofLiteral?
  rw [List.cons_append, takeSign_cons (hw y List.mem_cons_self), ← List.cons_append]
  apply IsReading.map_unsignZero
  rcases lt_or_ge (followedBy 0 (y :: w)) (2 ^ 96) with hfits | hlarge
  · rw [readWhole_append hw r false hfits]
    exact hr hfits
  · have hlargeq : (2 : ℚ) ^ 96 ≤ followedBy 0 (y :: w) := by exact_mod_cast hlarge
    rw [readWhole_eq_none hw r (by decide) hlarge]
    exact ⟨⟨iff_of_true rfl (by linarith), by simp, by simp⟩, by simp⟩

theorem isReading_ofLiteral? {w : List Char} (hw : IsDigits w) (hw0 : w ≠ []) :
    IsReading (ofLiteral? w) (followedBy 0 w) := by
  have h := isReading_ofLiteral?_append (r := []) hw hw0 le_rfl fun hfits => by
    have hparts := isReading_ofParts? hfits (Nat.zero_le 28)
    rw [pow_zero, div_one] at hparts
    exact hparts
  rwa [List.append_nil] at h

theorem isReading_ofLiteral?_fraction {w f : List Char} (hw : IsDigits w) (hw0 : w ≠ [])
    (hf : IsDigits f) (hf0 : f ≠ []) :
    IsReading (ofLiteral? (w ++ '.' :: f)) (followedBy 0 (w ++ f) / 10 ^ f.length) := by
  rw [followedBy_append]
  apply isReading_ofLiteral?_append hw hw0
  · rw [le_div_iff₀ (by positivity)]
    exact_mod_cast (followedBy_bounds hf (followedBy 0 w)).1
  · intro hfits
    obtain ⟨y, f, rfl⟩ := List.exists_cons_of_ne_nil hf0
    have h := isReading_readFraction hf hfits (Nat.zero_le 28)
    rwa [Nat.zero_add] at h

/-! ## 3. Signs -/

variable {negative : Bool}

theorem ofParts?_true : ofParts? true c k = (ofParts? false c k).map neg := by
  unfold ofParts?
  split <;> rfl

theorem roundDigit_true : roundDigit true c k v = (roundDigit false c k v).map neg := by
  simp only [roundDigit, apply_ite (Option.map neg), ofParts?_true, Option.map_none]

theorem readFraction_true (r : List Char) :
    readFraction true r c k = (readFraction false r c k).map neg := by
  induction r generalizing c k with
  | nil => exact ofParts?_true
  | cons x r ih =>
    simp only [readFraction, apply_ite (Option.map neg), ih, ofParts?_true, roundDigit_true,
      Option.map_none]

/-- The reader carries the sign along and does not look at it. -/
theorem readWhole_true (r : List Char) (seen : Bool) :
    readWhole true r seen c = (readWhole false r seen c).map neg := by
  induction r generalizing seen c with
  | nil => simp only [readWhole, apply_ite (Option.map neg), ofParts?_true, Option.map_none]
  | cons x r ih =>
    rw [readWhole.eq_def, readWhole.eq_def false]
    cases r <;> simp only [apply_ite (Option.map neg), ih, ofParts?_true, readFraction_true,
      Option.map_none]

/-- The decimal behind a sign. -/
def withSign (negative : Bool) (d : Decimal) : Decimal := if negative then d.neg.unsignZero else d

theorem value_withSign (d : Decimal) : (withSign negative d).value = factor negative * d.value := by
  cases negative with
  | false => exact (one_mul _).symm
  | true =>
    rw [withSign, if_pos rfl, value_unsignZero, value_neg]
    exact neg_eq_neg_one_mul _

theorem unsignZero_neg (d : Decimal) : d.unsignZero.neg.unsignZero = d.neg.unsignZero := by
  simp only [unsignZero, neg, Decimal.mk.injEq, and_true]
  cases d.negative <;> cases d.coefficient != 0 <;> rfl

theorem ofLiteral?_sign (negative : Bool) {y : Char} (hy : isDigit y = true) (r : List Char) :
    ofLiteral? ((if negative then ['-'] else []) ++ y :: r) =
      (ofLiteral? (y :: r)).map (withSign negative) := by
  cases negative with
  | false => exact Option.map_id'.symm
  | true =>
    have hminus : takeSign ('-' :: y :: r) = (true, y :: r) := rfl
    have hsign : withSign true ∘ unsignZero = unsignZero ∘ neg := funext unsignZero_neg
    simp only [if_true, List.singleton_append, ofLiteral?, hminus, takeSign_cons hy,
      readWhole_true, Option.map_map, hsign]

theorem IsValue.of_factor_mul (h : IsValue (factor negative * x)) : IsValue x := by
  obtain ⟨d, hd⟩ := h
  refine ⟨withSign negative d, ?_⟩
  rw [value_withSign, hd]
  cases negative <;> simp [factor]

/-! ## 4. A whole number and a numeral -/

theorem IsValue.of_natCast_add {n : Nat} (h : IsValue (n + x)) (hx : 0 ≤ x) : IsValue x := by
  obtain ⟨c, s, hc, hs, hsum⟩ := h.exists_eq (by positivity)
  have hpow : (0 : ℚ) < 10 ^ s := by positivity
  rw [eq_div_iff hpow.ne'] at hsum
  have hle : n * 10 ^ s ≤ c := by
    have h : (n : ℚ) * 10 ^ s ≤ c := by
      rw [← hsum]
      exact mul_le_mul_of_nonneg_right (by linarith) hpow.le
    exact_mod_cast h
  have hrest : x = ((c - n * 10 ^ s : ℕ) : ℚ) / 10 ^ s := by
    rw [eq_div_iff hpow.ne', Nat.cast_sub hle, ← hsum]
    push_cast
    ring
  rw [hrest]
  exact isValue_div (lt_of_le_of_lt (Nat.sub_le _ _) hc) hs

/-- What is rounded out of range has no nearest decimal with digits behind the point either. -/
theorem nearest?_eq_none {num den : Nat} (hden : 0 < den) (h : 2 ^ 96 ≤ divHalfEven num den)
    (negative : Bool) (s : Nat) : nearest? negative num den s = none := by
  have hlarge (k : Nat) : ¬ divHalfEven (num * 10 ^ (k + 1)) den < 2 ^ 96 := by
    have hlo := (abs_le.mp (isNearest_divHalfEven num hden).near).1
    have hten : (10 : ℚ) ≤ 10 ^ (k + 1) := le_self_pow₀ (by norm_num) (Nat.succ_ne_zero k)
    have hq : (2 : ℚ) ^ 96 ≤ divHalfEven num den := by exact_mod_cast h
    have hle : ((2 ^ 96 : ℤ) : ℚ) * 1 ≤ ((num * 10 ^ (k + 1) : ℕ) : ℚ) / den := by
      push_cast at hlo ⊢
      rw [mul_div_right_comm]
      nlinarith
    exact_mod_cast not_lt.mpr ((isNearest_divHalfEven _ hden).le_of_le one_pos hle)
  induction s with
  | zero =>
    rw [nearest?, ofParts?, dif_neg]
    exact fun hparts => absurd h (not_le.mpr hparts.1)
  | succ s ih =>
    rw [nearest?, ofParts?, dif_neg (fun hparts => hlarge s hparts.1)]
    exact ih

theorem exists_nearest?_of_isValue {num s : Nat} (hs : s ≤ 28)
    (h : IsValue ((num : ℚ) / 10 ^ s)) :
    ∃ d, nearest? false num (10 ^ s) s = some d ∧ d.value = num / 10 ^ s := by
  obtain ⟨c, t, hc, -, hx⟩ := h.exists_eq (by positivity)
  have hcross : num * 10 ^ t = c * 10 ^ s := by
    rw [div_eq_div_iff (by positivity) (by positivity)] at hx
    exact_mod_cast hx
  have hden : 0 < 10 ^ s := Nat.pow_pos (by decide)
  rcases le_or_gt t s with hts | hst
  · obtain ⟨d, hd, hvalue⟩ := exists_nearest? false hden hcross hts hs hc
    exact ⟨d, hd, by rw [hvalue, hx]; exact one_mul _⟩
  · -- the coefficient at the scale is no larger than at the one of the decimal
    obtain ⟨j, rfl⟩ := Nat.exists_eq_add_of_lt hst
    have hnum : num * 10 ^ (j + 1) = c := by
      rw [Nat.add_assoc, Nat.pow_add, Nat.mul_comm (10 ^ s), ← Nat.mul_assoc] at hcross
      exact Nat.eq_of_mul_eq_mul_right hden hcross
    have hfits : num < 2 ^ 96 :=
      lt_of_le_of_lt (Nat.le_mul_of_pos_right num (Nat.pow_pos (by decide))) (hnum ▸ hc)
    obtain ⟨d, hd, hvalue⟩ := exists_nearest? false hden rfl le_rfl hs hfits
    exact ⟨d, hd, by rw [hvalue]; exact one_mul _⟩

/-- Digits behind the point only bring the rounded number closer. -/
theorem near_of_scale (num k : Nat) {den : Nat} (hden : 0 < den) :
    |(divHalfEven (num * 10 ^ k) den : ℚ) / 10 ^ k - num / den| ≤ 1 / 2 := by
  have hpow : (1 : ℚ) ≤ 10 ^ k := one_le_pow₀ (by norm_num)
  have hnear := (isNearest_divHalfEven (num * 10 ^ k) hden).near
  have hdiff : (divHalfEven (num * 10 ^ k) den : ℚ) / 10 ^ k - num / den =
      -(((num * 10 ^ k : ℕ) : ℚ) / den - (divHalfEven (num * 10 ^ k) den : ℕ)) / 10 ^ k := by
    push_cast
    field_simp
    ring
  rw [hdiff, abs_div, abs_neg, abs_of_pos (by positivity : (0 : ℚ) < 10 ^ k)]
  refine (div_le_self (abs_nonneg _) hpow).trans ?_
  simpa using hnear

theorem approximates_nearest? (num : Nat) {s : Nat} (hs : s ≤ 28) :
    Approximates (nearest? false num (10 ^ s) s) (num / 10 ^ s) (1 / 2) := by
  have hden : 0 < 10 ^ s := Nat.pow_pos (by decide)
  obtain ⟨hnear, heven⟩ := isNearest_divHalfEven num hden
  push_cast at hnear heven
  rw [mul_one] at hnear heven
  obtain ⟨hlo, hhi⟩ := abs_le.mp hnear
  rcases lt_or_ge (divHalfEven num (10 ^ s)) (2 ^ 96) with hfits | hlarge
  · obtain ⟨k, hk, hfits', hnearest, -⟩ := nearest?_spec false hfits hs
    obtain ⟨d, hd, hvalue⟩ := exists_ofParts? hfits' (hk.trans hs)
    refine ⟨iff_of_false ?_ ?_, ?_, ?_⟩
    · rw [hnearest, hd]
      exact Option.some_ne_none d
    · intro hge
      -- the largest decimal is odd, so the number in the middle goes to the one out of range
      have hfitsq : (divHalfEven num (10 ^ s) : ℚ) + 1 ≤ 2 ^ 96 := by exact_mod_cast hfits
      have hlast : (divHalfEven num (10 ^ s) : ℚ) = (2 ^ 96 - 1 : ℕ) := by
        push_cast
        linarith
      have hodd := heven (by rw [abs_of_nonneg (by linarith)]; push_cast at hlast; linarith)
      rw [Nat.cast_inj.mp hlast] at hodd
      exact absurd hodd (by decide)
    · intro e he
      rw [hnearest, hd] at he
      obtain rfl := Option.some.inj he
      rw [hvalue]
      simpa using near_of_scale num k hden
    · intro e he hx
      obtain ⟨d', hd', hvalue'⟩ := exists_nearest?_of_isValue hs hx
      rw [hd'] at he
      rw [← Option.some.inj he, hvalue']
  · rw [nearest?_eq_none hden hlarge]
    have hlargeq : (2 : ℚ) ^ 96 ≤ divHalfEven num (10 ^ s) := by exact_mod_cast hlarge
    exact ⟨iff_of_true rfl (by linarith), by simp, by simp⟩

theorem approximates_self {d : Decimal} (hd : d.negative = false) :
    Approximates (some d) d.value (1 / 2) := by
  obtain ⟨negative, c, s, hc, hs⟩ := d
  obtain rfl : negative = false := hd
  have h := (isReading_ofParts? hc hs).toApproximates
  rw [ofParts?_eq hc hs] at h
  rw [value_eq]
  simpa [factor] using h

/-- A sum is rounded once. -/
theorem approximates_add? {a b : Decimal} (ha : a.negative = false) (hb : b.negative = false) :
    Approximates (a.add? b) (a.value + b.value) (1 / 2) := by
  unfold add?
  split
  · rename_i ha0
    rw [value_of_isZero ha0, zero_add]
    exact approximates_self hb
  · split
    · rename_i hb0
      rw [value_of_isZero hb0, add_zero]
      exact approximates_self ha
    · dsimp only
      have hs : max a.scale b.scale ≤ 28 := max_le a.scale_le b.scale_le
      have hsum := signedAt_add_eq a b
      obtain ⟨i, hi⟩ : ∃ i : Nat, a.signedAt (max a.scale b.scale) +
          b.signedAt (max a.scale b.scale) = i := by
        refine Int.eq_ofNat_of_zero_le (add_nonneg ?_ ?_)
        · simp only [signedAt, signed, ha, Bool.false_eq_true, if_false]
          positivity
        · simp only [signedAt, signed, hb, Bool.false_eq_true, if_false]
          positivity
      rw [hi] at hsum ⊢
      generalize max a.scale b.scale = s at *
      have hvalue : a.value + b.value = i / 10 ^ s := by
        rw [eq_div_iff (by positivity), ← hsum, Int.cast_natCast]
      rw [hvalue]
      have hsign : decide ((i : ℤ) < 0) = false := by simp
      rw [hsign, Int.natAbs_natCast]
      exact approximates_nearest? i hs

variable {n : Nat} {r : Option Decimal}

/-- Only a number from a half below a whole number on is rounded to it. -/
theorem sub_half_le_floor_iff {b : Nat} :
    (b : ℚ) - 1 / 2 ≤ n + ⌊x + 1 / 2⌋ ↔ (b : ℚ) - 1 / 2 ≤ n + x := by
  have hle := Int.floor_le (x + 1 / 2)
  have hlt := Int.lt_floor_add_one (x + 1 / 2)
  have hwhole (h : (b : ℚ) < n + ⌊x + 1 / 2⌋ + 1) : (b : ℚ) ≤ n + ⌊x + 1 / 2⌋ := by
    have hint : (b : ℤ) < n + ⌊x + 1 / 2⌋ + 1 := by exact_mod_cast h
    exact_mod_cast Int.lt_add_one_iff.mp hint
  constructor
  · intro h
    have := hwhole (by linarith)
    linarith
  · intro h
    have := hwhole (by linarith)
    linarith

/-- A numeral is rounded when it is read, and once more when a whole number is added. -/
theorem IsReading.approximates_sum (h : IsReading r x) (hx : 0 ≤ x) (hn : n < 2 ^ 64)
    (hr : ∀ d, r = some d → d.negative = false) :
    Approximates (r.bind (ofNat n).add?) (n + x) 1 := by
  have hnq : (n : ℚ) < 2 ^ 64 := by exact_mod_cast hn
  have hn0 : (0 : ℚ) ≤ n := by positivity
  cases hrd : r with
  | none =>
    have hlarge := h.eq_none_iff.mp hrd
    exact ⟨iff_of_true rfl (by linarith), by simp, by simp⟩
  | some d =>
    have hvalue : (ofNat n).value = n := by
      rw [ofNat_eq (by omega), value_eq]
      simp [factor]
    have hsum := approximates_add? (a := ofNat n) (b := d) rfl (hr d hrd)
    rw [hvalue] at hsum
    have hnear := h.near d hrd
    rw [Option.bind_some]
    refine ⟨hsum.eq_none_iff.trans ?_, ?_, ?_⟩
    · rcases lt_or_ge x (2 ^ 95) with hsmall | hlarge
      · have := (abs_le.mp hnear).2
        exact iff_of_false (by linarith) (by linarith)
      · -- the numeral was rounded to a whole number, so that nothing more is lost
        rw [h.whole d hrd hlarge]
        exact_mod_cast sub_half_le_floor_iff (x := x) (b := 2 ^ 96) (n := n)
    · intro e he
      have htwo : e.value - (n + x) = (e.value - (n + d.value)) + (d.value - x) := by ring
      rw [htwo]
      refine (abs_add_le _ _).trans ?_
      have := hsum.near e he
      linarith
    · intro e he hsumValue
      have hd := h.exact d hrd (hsumValue.of_natCast_add hx)
      rw [hd] at hsum
      exact hsum.exact e he hsumValue

end XPath.Number.Decimal
