/-!
# Words

Whole numbers are not bounded here. Where one is kept in a signed word, it has to fit, or what
does not fit wraps around.
-/

-- A library that knows powers in every monoid reads `b ^ n` as its own operation; only this one
-- reduces in the kernel by fast arithmetic, so it is preferred wherever powers are reasoned about.
attribute [instance (high + 1), default_instance (high + 1)] instPowNat

namespace XPath.Number

/-- Whether a number fits a signed word of so many bits. -/
def fits (bits : Nat) (i : Int) : Bool := -(2 ^ bits / 2 : Nat) ≤ i && i < (2 ^ bits / 2 : Nat)

/-- What a signed word of so many bits makes of a number. -/
def wrap (bits : Nat) (i : Int) : Int := i.bmod (2 ^ bits)

variable {bits : Nat} {i : Int}

theorem fits_iff : fits bits i = true ↔ -(2 ^ bits / 2 : Nat) ≤ i ∧ i < (2 ^ bits / 2 : Nat) := by
  rw [fits, Bool.and_eq_true, decide_eq_true_eq, decide_eq_true_eq]

theorem fits_of_natAbs_lt (h : i.natAbs < 2 ^ bits / 2) : fits bits i = true := by
  rw [fits_iff]
  omega

theorem two_mul_half (h : bits ≠ 0) : 2 * (2 ^ bits / 2) = 2 ^ bits := by
  obtain ⟨n, rfl⟩ := Nat.exists_eq_succ_of_ne_zero h
  exact Nat.mul_div_cancel' (Nat.dvd_mul_left 2 (2 ^ n))

theorem fits_wrap (h : bits ≠ 0) (i : Int) : fits bits (wrap bits i) = true := by
  have hhalf := two_mul_half h
  have hpos : 0 < 2 ^ bits := Nat.pow_pos (by decide)
  have hle := Int.le_bmod (x := i) hpos
  have hlt := Int.bmod_lt (x := i) hpos
  rw [fits_iff, wrap]
  omega

/-- A number that fits is kept. -/
theorem wrap_of_fits (h : bits ≠ 0) (hi : fits bits i = true) : wrap bits i = i := by
  have hhalf := two_mul_half h
  have hbounds := fits_iff.mp hi
  exact Int.bmod_eq_of_le (by omega) (by omega)

end XPath.Number
