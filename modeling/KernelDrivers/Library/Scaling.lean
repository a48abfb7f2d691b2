import Mathlib.Algebra.Order.Group.Nat

/-!
# Scaling with truncation

A level between 0 and a scale is mapped onto a range by one multiplication and
one division.  The product may be reduced by a modulus on the way.
-/

namespace KernelDrivers.Library

/-- `level / scale` of the range, rounded down. -/
def scaled (range scale level : Nat) : Nat :=
  level * range / scale

variable {range scale level other modulus : Nat}

theorem scaled_mono (below : level ≤ other) :
    scaled range scale level ≤ scaled range scale other := by
  apply Nat.div_le_div_right
  exact Nat.mul_le_mul_right range below

theorem scaled_top (positive : 0 < scale) :
    scaled range scale scale = range :=
  Nat.mul_div_cancel_left range positive

theorem scaled_le (inside : level ≤ scale) :
    scaled range scale level ≤ range := by
  apply Nat.div_le_of_le_mul
  exact Nat.mul_le_mul_right range inside

theorem mul_div_le (inside : level ≤ scale) :
    level * (range / scale) ≤ range := by
  have whole : scale * (range / scale) ≤ range := Nat.mul_div_le range scale
  exact (Nat.mul_le_mul_right _ inside).trans whole

/-- A product that is reduced loses at least one whole unit of the result. -/
theorem mod_div_lt (positive : 0 < scale) (small : scale ≤ modulus)
    (wraps : modulus ≤ level * range) :
    level * range % modulus / scale < scaled range scale level := by
  have reduced : level * range % modulus + modulus ≤ level * range := by
    have split := Nat.mod_add_div (level * range) modulus
    have nonzero : 0 < level * range / modulus :=
      Nat.div_pos wraps (positive.trans_le small)
    have once : modulus ≤ modulus * (level * range / modulus) :=
      Nat.le_mul_of_pos_right modulus nonzero
    omega
  have unit : level * range % modulus / scale + 1 =
      (level * range % modulus + scale) / scale :=
    (Nat.add_div_right _ positive).symm
  rw [Nat.lt_iff_add_one_le, unit]
  apply Nat.div_le_div_right
  omega

/-- The reduction shows in the result exactly where the product is too large
for the modulus. -/
theorem mod_div_eq_iff (positive : 0 < scale) (small : scale ≤ modulus) :
    level * range % modulus / scale = scaled range scale level ↔
      level * range < modulus := by
  constructor
  · intro same
    by_contra wraps
    have lost := mod_div_lt positive small (Nat.le_of_not_lt wraps)
    omega
  · intro fits
    rw [Nat.mod_eq_of_lt fits, scaled]

end KernelDrivers.Library
