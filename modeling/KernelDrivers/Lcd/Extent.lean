import KernelDrivers.Lcd.Fill
import KernelDrivers.Library.Raster

/-!
# The extent of the pattern

The length of the mapping is computed from the resolution, and the offsets of
the pixels from the length of a line and from the panning.  The two agree for a
frame buffer without padding that is not panned.
-/

namespace KernelDrivers.Lcd

open KernelDrivers.Library

/-- What the kernel may report.  The visible pixels are among the virtual ones,
these lie in the lines, and the lines in the memory. -/
structure Geometry where
  vinfo : FbVarScreeninfo
  finfo : FbFixScreeninfo
  depth : vinfo.bitsPerPixel ∈ ([16, 24, 32] : List (BitVec 32))
  columns : vinfo.xoffset.toNat + vinfo.xres.toNat ≤ vinfo.xresVirtual.toNat
  rows : vinfo.yoffset.toNat + vinfo.yres.toNat ≤ vinfo.yresVirtual.toNat
  line : vinfo.xresVirtual.toNat * vinfo.bitsPerPixel.toNat / 8 ≤
    finfo.lineLength.toNat
  memory : vinfo.yresVirtual.toNat * finfo.lineLength.toNat ≤
    finfo.smemLen.toNat

def raster (vinfo : FbVarScreeninfo) (finfo : FbFixScreeninfo) : Raster :=
  { width := vinfo.xres.toNat
    height := vinfo.yres.toNat
    left := vinfo.xoffset.toNat
    top := vinfo.yoffset.toNat
    size := vinfo.bitsPerPixel.toNat / 8
    stride := finfo.lineLength.toNat }

/-- The product without a limit. -/
def exactBits (vinfo : FbVarScreeninfo) : Nat :=
  vinfo.xres.toNat * vinfo.yres.toNat * vinfo.bitsPerPixel.toNat

/-- The pattern stays in the mapping, and nothing wraps. -/
structure FillSafe (chip : Chip) (vinfo : FbVarScreeninfo)
    (finfo : FbFixScreeninfo) : Prop where
  inside : ∀ screen,
    main chip true (some finfo) (some vinfo) = .ok screen →
      ∀ store ∈ screen.stores,
        0 ≤ store.offset ∧ store.offset < screen.screensize
  size : (screenbits vinfo).toNat = exactBits vinfo
  offset : ∀ x y : BitVec 32, x < vinfo.xres → y < vinfo.yres →
    (locationWord vinfo finfo x y).toNat =
      (raster vinfo finfo).address x.toNat y.toNat

/-- Nothing is visible, or the picture begins the memory and its lines are not
padded.  Of a pixel of 24 bits the last byte is not stored, and so two lines
may be one byte apart. -/
def FillFits (vinfo : FbVarScreeninfo) (finfo : FbFixScreeninfo) : Prop :=
  vinfo.xres = 0 ∨ vinfo.yres = 0 ∨
    exactBits vinfo < 2 ^ 32 ∧ vinfo.xoffset = 0 ∧ vinfo.yoffset = 0 ∧
      (vinfo.yres.toNat - 1) * (finfo.lineLength.toNat -
          vinfo.xres.toNat * (vinfo.bitsPerPixel.toNat / 8)) ≤
        vinfo.bitsPerPixel.toNat / 8 - stored vinfo

variable {chip : Chip} {vinfo : FbVarScreeninfo} {finfo : FbFixScreeninfo}

theorem screenbits_exact_iff :
    (screenbits vinfo).toNat = exactBits vinfo ↔ exactBits vinfo < 2 ^ 32 := by
  have word : (screenbits vinfo).toNat = exactBits vinfo % 2 ^ 32 := by
    rw [screenbits, exactBits, BitVec.toNat_mul, BitVec.toNat_mul,
      Nat.mod_mul_mod]
  constructor
  · intro exact
    rw [← exact]
    exact (screenbits vinfo).isLt
  · intro small
    rw [word, Nat.mod_eq_of_lt small]

theorem locationWord_eq (x y : BitVec 32) :
    locationWord vinfo finfo x y =
      BitVec.ofNat 32 ((raster vinfo finfo).address x.toNat y.toNat) := by
  apply BitVec.eq_of_toNat_eq
  have eighth : (8 : BitVec 32).toNat = 8 := rfl
  rw [locationWord, BitVec.toNat_add, BitVec.toNat_mul, BitVec.toNat_mul,
    BitVec.toNat_add, BitVec.toNat_add, BitVec.toNat_udiv, BitVec.toNat_ofNat,
    Nat.mod_mul_mod, Nat.mod_mul_mod, ← Nat.add_mod, Raster.address, raster,
    eighth, Nat.add_comm x.toNat, Nat.add_comm y.toNat]

/-- A `long` of 32 bits is negative where the word is too large for it. -/
theorem setWidth_toInt (chip : Chip) (word : BitVec 32) :
    (word.setWidth chip.longBits).toInt = word.toNat ∨
      (word.setWidth chip.longBits).toInt < 0 ∧ 2 ^ 31 ≤ word.toNat := by
  have bound := word.isLt
  have bits : chip.longBits = 32 ∨ chip.longBits = 64 := by
    cases chip with
    | rk3288 => exact .inl rfl
    | rk3399 => exact .inr rfl
  generalize chip.longBits = long at bits
  rcases bits with rfl | rfl
  · rw [BitVec.setWidth_eq, BitVec.toInt_eq_toNat_cond]
    split <;> omega
  · left
    have same : (word.setWidth 64).toNat = word.toNat := by
      rw [BitVec.toNat_setWidth]
      omega
    have positive : 2 * (word.setWidth 64).toNat < 2 ^ 64 := by
      omega
    rw [BitVec.toInt_eq_toNat_of_lt positive, same]

theorem screensize_toInt (chip : Chip) (vinfo : FbVarScreeninfo) :
    (screensize chip vinfo).toInt = ((screenbits vinfo).toNat / 8 : Nat) := by
  have bound := (screenbits vinfo).isLt
  have eighth : (screenbits vinfo / 8).toNat = (screenbits vinfo).toNat / 8 :=
    BitVec.toNat_udiv
  rcases setWidth_toInt chip (screenbits vinfo / 8) with same | ⟨_, large⟩
  · rw [screensize, same, eighth]
  · omega

/-- What the stores are compared with, where nothing wraps. -/
theorem stores_inside_iff (chip : Chip)
    (offset : ∀ x y : BitVec 32, x < vinfo.xres → y < vinfo.yres →
      (locationWord vinfo finfo x y).toNat =
        (raster vinfo finfo).address x.toNat y.toNat) :
    (∀ screen, main chip true (some finfo) (some vinfo) = .ok screen →
      ∀ store ∈ screen.stores,
        0 ≤ store.offset ∧ store.offset < screen.screensize) ↔
      (raster vinfo finfo).Within (stored vinfo)
        ((screenbits vinfo).toNat / 8) := by
  have some := stored_pos vinfo
  have bound := (screenbits vinfo).isLt
  have size := screensize_toInt chip vinfo
  constructor
  · intro inside x y right down
    have columns : x < 2 ^ 32 := Nat.lt_trans right vinfo.xres.isLt
    have rows : y < 2 ^ 32 := Nat.lt_trans down vinfo.yres.isLt
    have column : (BitVec.ofNat 32 x).toNat = x := by
      rw [BitVec.toNat_ofNat, Nat.mod_eq_of_lt columns]
    have row : (BitVec.ofNat 32 y).toNat = y := by
      rw [BitVec.toNat_ofNat, Nat.mod_eq_of_lt rows]
    have right : BitVec.ofNat 32 x < vinfo.xres := by
      rw [BitVec.lt_def, column]
      exact right
    have down : BitVec.ofNat 32 y < vinfo.yres := by
      rw [BitVec.lt_def, row]
      exact down
    have exact := offset _ _ right down
    rw [column, row] at exact
    have byte (index : Nat) (used : index < stored vinfo) :
        0 ≤ (location chip vinfo finfo (.ofNat 32 x) (.ofNat 32 y)).toInt +
            index ∧
          (location chip vinfo finfo (.ofNat 32 x) (.ofNat 32 y)).toInt +
            index < (screensize chip vinfo).toInt := by
      obtain ⟨store, member, same⟩ := (exists_store_iff chip vinfo finfo _).mpr
        ⟨.ofNat 32 x, .ofNat 32 y, right, down, index, used, rfl⟩
      rw [← same]
      exact inside _ rfl store member
    have first := byte 0 (by omega)
    have last := byte (stored vinfo - 1) (by omega)
    rcases setWidth_toInt chip
      (locationWord vinfo finfo (.ofNat 32 x) (.ofNat 32 y)) with
      same | negative
    · rw [location, same, size] at last
      omega
    · rw [location] at first
      omega
  · rintro within screen ⟨⟩ store member
    obtain ⟨x, y, right, down, index, used, same⟩ :=
      (exists_store_iff chip vinfo finfo _).mp ⟨store, member, rfl⟩
    have exact := offset x y right down
    have pixel := within x.toNat y.toNat right down
    have mapped : 0 ≤ store.offset ∧
        store.offset < (screensize chip vinfo).toInt := by
      rw [same, size, location]
      rcases setWidth_toInt chip (locationWord vinfo finfo x y) with
        word | ⟨_, large⟩
      · rw [word]
        omega
      · omega
    exact mapped

namespace Geometry

variable (geometry : Geometry)

theorem size_mul : geometry.vinfo.bitsPerPixel.toNat =
    geometry.vinfo.bitsPerPixel.toNat / 8 * 8 := by
  have depth := geometry.depth
  simp only [List.mem_cons, List.not_mem_nil, or_false] at depth
  rcases depth with depth | depth | depth <;> rw [depth] <;> rfl

theorem stored_le : stored geometry.vinfo ≤
    geometry.vinfo.bitsPerPixel.toNat / 8 := by
  have depth := geometry.depth
  simp only [List.mem_cons, List.not_mem_nil, or_false] at depth
  rcases depth with depth | depth | depth <;>
    rw [stored, depth] <;> decide

theorem lineFits : (raster geometry.vinfo geometry.finfo).LineFits := by
  have line := geometry.line
  rw [geometry.size_mul, ← Nat.mul_assoc,
    Nat.mul_div_cancel _ (by decide : 0 < 8)] at line
  exact (Nat.mul_le_mul_right _ geometry.columns).trans line

theorem within_smem : (raster geometry.vinfo geometry.finfo).Within
    (geometry.vinfo.bitsPerPixel.toNat / 8) geometry.finfo.smemLen.toNat := by
  apply Raster.within_memory geometry.lineFits
  exact (Nat.mul_le_mul_right _ geometry.rows).trans geometry.memory

theorem locationWord_toNat {x y : BitVec 32} (right : x < geometry.vinfo.xres)
    (down : y < geometry.vinfo.yres) :
    (locationWord geometry.vinfo geometry.finfo x y).toNat =
      (raster geometry.vinfo geometry.finfo).address x.toNat y.toNat := by
  have pixel := geometry.within_smem x.toNat y.toNat right down
  have bound := geometry.finfo.smemLen.isLt
  rw [locationWord_eq, BitVec.toNat_ofNat]
  apply Nat.mod_eq_of_lt
  omega

theorem packed_eq : (raster geometry.vinfo geometry.finfo).packed =
    exactBits geometry.vinfo / 8 := by
  rw [exactBits, geometry.size_mul, ← Nat.mul_assoc,
    Nat.mul_div_cancel _ (by decide : 0 < 8)]
  rfl

end Geometry

/-- The pattern is safe exactly for a picture of less than 2 ^ 32 bits that
begins the memory, without padding. -/
theorem fillSafe_iff (chip : Chip) (geometry : Geometry) :
    FillSafe chip geometry.vinfo geometry.finfo ↔
      FillFits geometry.vinfo geometry.finfo := by
  have offset : ∀ x y : BitVec 32, x < geometry.vinfo.xres →
      y < geometry.vinfo.yres →
        (locationWord geometry.vinfo geometry.finfo x y).toNat =
          (raster geometry.vinfo geometry.finfo).address x.toNat y.toNat := by
    intro x y right down
    exact geometry.locationWord_toNat right down
  have stores := stores_inside_iff chip offset
  have used := stored_pos geometry.vinfo
  have nonzero {word : BitVec 32} (visible : word ≠ 0) : 0 < word.toNat := by
    apply Nat.pos_of_ne_zero
    intro zero
    exact visible (BitVec.eq_of_toNat_eq zero)
  constructor
  · intro safe
    by_cases columns : geometry.vinfo.xres = 0
    · exact .inl columns
    by_cases rows : geometry.vinfo.yres = 0
    · exact .inr (.inl rows)
    have within := stores.mp safe.inside
    rw [safe.size, ← geometry.packed_eq] at within
    obtain ⟨left, top, gaps⟩ := (Raster.within_packed_iff geometry.lineFits
      used geometry.stored_le (nonzero columns) (nonzero rows)).mp within
    refine .inr (.inr ⟨screenbits_exact_iff.mp safe.size, ?_, ?_, gaps⟩)
    · exact BitVec.eq_of_toNat_eq left
    · exact BitVec.eq_of_toNat_eq top
  · intro fits
    have small : exactBits geometry.vinfo < 2 ^ 32 := by
      rcases fits with columns | rows | ⟨small, _⟩
      · have none : exactBits geometry.vinfo = 0 := by
          simp [exactBits, columns]
        omega
      · have none : exactBits geometry.vinfo = 0 := by
          simp [exactBits, rows]
        omega
      · exact small
    have size := screenbits_exact_iff.mpr small
    refine ⟨stores.mpr ?_, size, offset⟩
    rw [size, ← geometry.packed_eq]
    intro x y right down
    have wide := Nat.zero_lt_of_lt right
    have high := Nat.zero_lt_of_lt down
    rcases fits with columns | rows | ⟨_, left, top, gaps⟩
    · rw [raster, columns] at wide
      exact absurd wide (Nat.lt_irrefl 0)
    · rw [raster, rows] at high
      exact absurd high (Nat.lt_irrefl 0)
    · refine (Raster.within_packed_iff geometry.lineFits used
        geometry.stored_le wide high).mpr ⟨?_, ?_, gaps⟩ x y right down
      · exact congrArg BitVec.toNat left
      · exact congrArg BitVec.toNat top

/-- A panel of 1366 columns whose lines are padded to 1376. -/
def padded : Geometry :=
  { vinfo :=
      { xres := 1366
        yres := 768
        xresVirtual := 1366
        yresVirtual := 768
        xoffset := 0
        yoffset := 0
        bitsPerPixel := 32 }
    finfo :=
      { smemLen := 4227072
        lineLength := 5504 }
    depth := by decide
    columns := by decide
    rows := by decide
    line := by decide
    memory := by decide }

/-- The last pixel is stored 30 KiB behind the end of the mapping. -/
theorem not_fillSafe_padded :
    ¬FillSafe .rk3288 padded.vinfo padded.finfo := by
  intro safe
  obtain ⟨store, member, last⟩ :=
    (exists_store_iff .rk3288 padded.vinfo padded.finfo _).mpr
      ⟨1365, 767, by decide, by decide, 0, by decide, rfl⟩
  have mapped := (safe.inside _ rfl store member).2
  rw [last] at mapped
  exact absurd mapped (by decide)

end KernelDrivers.Lcd
