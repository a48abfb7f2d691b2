import Mathlib.Tactic.Linarith
import Mathlib.Tactic.Ring

/-!
# A rectangle of pixels in a memory of lines

Lines follow each other at a fixed distance, and a rectangle is cut out of
them.  Its pixels are addressed one by one, and the first bytes of each pixel
are used.
-/

namespace KernelDrivers.Library

/-- `left` and `top` are the corner of the rectangle, in pixels and lines. -/
structure Raster where
  width : Nat
  height : Nat
  left : Nat
  top : Nat
  size : Nat
  stride : Nat

namespace Raster

variable (raster : Raster)

def address (x y : Nat) : Nat :=
  (raster.left + x) * raster.size + (raster.top + y) * raster.stride

/-- A line of the rectangle lies within one line of the memory. -/
def LineFits : Prop :=
  (raster.left + raster.width) * raster.size ≤ raster.stride

/-- The first `used` bytes of every pixel lie below the limit. -/
def Within (used limit : Nat) : Prop :=
  ∀ x y, x < raster.width → y < raster.height →
    raster.address x y + used ≤ limit

/-- What the rectangle takes up without gaps. -/
def packed : Nat :=
  raster.width * raster.height * raster.size

variable {raster}

theorem address_mono {x y x' y' : Nat} (right : x ≤ x') (down : y ≤ y') :
    raster.address x y ≤ raster.address x' y' := by
  apply Nat.add_le_add
  · apply Nat.mul_le_mul_right
    omega
  · apply Nat.mul_le_mul_right
    omega

theorem within_iff_last {used limit columns lines : Nat}
    (width : raster.width = columns + 1) (height : raster.height = lines + 1) :
    raster.Within used limit ↔ raster.address columns lines + used ≤ limit := by
  constructor
  · intro within
    apply within <;> omega
  · intro last x y right down
    have before : raster.address x y ≤ raster.address columns lines :=
      address_mono (by omega) (by omega)
    omega

theorem address_add_size_le (fits : raster.LineFits) {x : Nat}
    (right : x < raster.width) (y : Nat) :
    raster.address x y + raster.size ≤
      (raster.top + y + 1) * raster.stride := by
  have line : (raster.left + x + 1) * raster.size ≤ raster.stride := by
    refine Nat.le_trans ?_ fits
    apply Nat.mul_le_mul_right
    omega
  rw [address, Nat.succ_mul (raster.top + y)]
  rw [Nat.succ_mul (raster.left + x)] at line
  omega

theorem within_memory (fits : raster.LineFits) {memory : Nat}
    (lines : (raster.top + raster.height) * raster.stride ≤ memory) :
    raster.Within raster.size memory := by
  intro x y right down
  have below : (raster.top + y + 1) * raster.stride ≤
      (raster.top + raster.height) * raster.stride := by
    apply Nat.mul_le_mul_right
    omega
  exact (address_add_size_le fits right y).trans (below.trans lines)

/-- A rectangle is within its packed size exactly if it begins the memory and
the gaps between its lines are no more than its last pixel leaves unused. -/
theorem within_packed_iff (fits : raster.LineFits) {used : Nat}
    (some : 0 < used) (part : used ≤ raster.size)
    (wide : 0 < raster.width) (high : 0 < raster.height) :
    raster.Within used raster.packed ↔
      raster.left = 0 ∧ raster.top = 0 ∧
        (raster.height - 1) * (raster.stride - raster.width * raster.size) ≤
          raster.size - used := by
  obtain ⟨columns, width⟩ := Nat.exists_eq_succ_of_ne_zero wide.ne'
  obtain ⟨lines, height⟩ := Nat.exists_eq_succ_of_ne_zero high.ne'
  obtain ⟨gap, stride⟩ := Nat.exists_eq_add_of_le fits
  rw [within_iff_last width height, address, packed, width, height,
    Nat.succ_sub_one]
  rw [width] at stride
  constructor
  · intro last
    rw [stride] at last
    have excess : raster.left * raster.size + raster.top * raster.size +
        lines * gap + used ≤ raster.size := by
      have rest : 0 ≤ raster.top * raster.left * raster.size +
          raster.top * columns * raster.size +
          lines * raster.left * raster.size + raster.top * gap :=
        Nat.zero_le _
      linarith
    have left : raster.left = 0 := by
      by_contra shifted
      have whole : raster.size ≤ raster.left * raster.size :=
        Nat.le_mul_of_pos_left _ (Nat.pos_of_ne_zero shifted)
      omega
    have top : raster.top = 0 := by
      by_contra shifted
      have whole : raster.size ≤ raster.top * raster.size :=
        Nat.le_mul_of_pos_left _ (Nat.pos_of_ne_zero shifted)
      omega
    refine ⟨left, top, ?_⟩
    rw [left, Nat.zero_add] at stride
    rw [stride, Nat.add_sub_cancel_left]
    omega
  · rintro ⟨left, top, gaps⟩
    rw [left, Nat.zero_add] at stride
    rw [stride, Nat.add_sub_cancel_left] at gaps
    have room : lines * gap + used ≤ raster.size := by omega
    rw [left, top, stride, Nat.zero_add, Nat.zero_add]
    linarith

end Raster

end KernelDrivers.Library
