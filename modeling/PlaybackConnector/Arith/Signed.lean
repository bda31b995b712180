import Mathlib

/-!
# Signed 32-bit computation

A signed computation has a result unless it overflows (`checked32`). A quotient is rounded to the
nearest integer, a half away from zero (`roundedQuotient`), which is Mathlib's `round` of the exact
quotient where that is not negative.
-/

namespace PlaybackConnector

/-- The value of a signed 32-bit integer. -/
def IsInt32 (value : Int) : Prop := -2 ^ 31 ≤ value ∧ value < 2 ^ 31

instance (value : Int) : Decidable (IsInt32 value) := inferInstanceAs (Decidable (_ ∧ _))

/-- The result of a signed 32-bit computation, if it does not overflow. -/
def checked32 (value : Int) : Option Int := if IsInt32 value then some value else none

def add32 (a b : Int) : Option Int := checked32 (a + b)

def sub32 (a b : Int) : Option Int := checked32 (a - b)

/-- An unsigned 32-bit integer as a signed one. -/
def toInt32 (value : Nat) : Int := (value : Int).bmod (2 ^ 32)

/-- The quotient, rounded to the nearest integer, a half away from zero. -/
def roundedQuotient (numerator denominator : Int) : Int :=
  (numerator * denominator).sign *
    ((2 * numerator.natAbs + denominator.natAbs) / (2 * denominator.natAbs) : Nat)

section
variable {a b numerator denominator : Int}

theorem add32_eq (h : IsInt32 (a + b)) : add32 a b = some (a + b) := if_pos h

theorem sub32_eq (h : IsInt32 (a - b)) : sub32 a b = some (a - b) := if_pos h

theorem sub32_overflow (h : 2 ^ 31 ≤ a - b) : sub32 a b = none :=
  if_neg fun hfits => not_lt.2 h hfits.2

theorem toInt32_eq {value : Nat} (h : value < 2 ^ 31) : toInt32 value = value :=
  Int.bmod_eq_of_le (by omega) (by omega)

theorem roundedQuotient_eq_ediv (hnumerator : 0 ≤ numerator) (hdenominator : 0 < denominator) :
    roundedQuotient numerator denominator = (2 * numerator + denominator) / (2 * denominator) := by
  obtain ⟨d, rfl⟩ := Int.eq_ofNat_of_zero_le hdenominator.le
  obtain ⟨n, rfl⟩ := Int.eq_ofNat_of_zero_le hnumerator
  rcases Nat.eq_zero_or_pos n with rfl | hn
  · have hsmall : (d : Int) / (2 * d) = 0 := Int.ediv_eq_zero_of_lt (by omega) (by omega)
    simp [roundedQuotient, hsmall]
  · rw [roundedQuotient, Int.sign_eq_one_of_pos (by positivity), one_mul]
    rfl

/-- A quotient that is not negative is rounded to the nearest integer. -/
theorem roundedQuotient_eq_round (hnumerator : 0 ≤ numerator) (hdenominator : 0 < denominator) :
    roundedQuotient numerator denominator = round ((numerator : ℚ) / denominator) := by
  rw [roundedQuotient_eq_ediv hnumerator hdenominator]
  obtain ⟨d, rfl⟩ := Int.eq_ofNat_of_zero_le hdenominator.le
  have hfloor : ⌊(2 : ℚ) * ((numerator : ℚ) / ((d : Int) : ℚ))⌋ = 2 * numerator / d := by
    have hquotient := Rat.floor_intCast_div_natCast (2 * numerator) d
    push_cast at hquotient ⊢
    rw [← hquotient, mul_div_assoc]
  have hdiv : (2 * numerator + (d : Int)) / (2 * d) = (2 * numerator / d + 1) / 2 := by
    rw [mul_comm 2 (d : Int), ← Int.ediv_ediv_of_nonneg hdenominator.le,
      Int.add_ediv_of_dvd_right (dvd_refl _), Int.ediv_self hdenominator.ne']
  rw [round_eq_div, hfloor, hdiv]

theorem roundedQuotient_nonpos (hnumerator : numerator ≤ 0) (hdenominator : 0 < denominator) :
    roundedQuotient numerator denominator ≤ 0 := by
  have hsign : (numerator * denominator).sign ≤ 0 := by
    rcases hnumerator.lt_or_eq with hneg | rfl
    · rw [Int.sign_eq_neg_one_of_neg (mul_neg_of_neg_of_pos hneg hdenominator)]
      decide
    · simp
  exact mul_nonpos_of_nonpos_of_nonneg hsign (Int.natCast_nonneg _)

theorem round_nonpos (hnumerator : numerator ≤ 0) (hdenominator : 0 < denominator) :
    round ((numerator : ℚ) / denominator) ≤ 0 := by
  have hn : (numerator : ℚ) ≤ 0 := by exact_mod_cast hnumerator
  have hd : (0 : ℚ) < denominator := by exact_mod_cast hdenominator
  have hquotient : (numerator : ℚ) / denominator ≤ 0 := div_nonpos_of_nonpos_of_nonneg hn hd.le
  have hlt : round ((numerator : ℚ) / denominator) < 1 := by
    rw [round_eq, Int.floor_lt]
    norm_num
    linarith
  omega

end

end PlaybackConnector
