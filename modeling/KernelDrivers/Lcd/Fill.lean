import KernelDrivers.Library.ForLoop

/-!
# The LCD test

`lcd_test.c` maps a frame buffer and stores a pattern into it, pixel by pixel.
The same file is built for both chips.  An `int` is a word in two's complement,
and compared with an unsigned one it is unsigned.
-/

namespace KernelDrivers.Lcd

open KernelDrivers.Library

inductive Chip where
  | rk3288
  | rk3399
  deriving DecidableEq

def Chip.longBits : Chip → Nat
  | rk3288 => 32
  | rk3399 => 64

structure FbVarScreeninfo where
  xres : BitVec 32
  yres : BitVec 32
  xresVirtual : BitVec 32
  yresVirtual : BitVec 32
  xoffset : BitVec 32
  yoffset : BitVec 32
  bitsPerPixel : BitVec 32

structure FbFixScreeninfo where
  smemLen : BitVec 32
  lineLength : BitVec 32

/-- A byte that is stored at `fbp + offset`. -/
structure Store where
  offset : Int
  byte : BitVec 8
  deriving DecidableEq

variable (chip : Chip) (vinfo : FbVarScreeninfo) (finfo : FbFixScreeninfo)

/-- The product of which `screensize` is an eighth. -/
def screenbits : BitVec 32 :=
  vinfo.xres * vinfo.yres * vinfo.bitsPerPixel

def screensize : BitVec chip.longBits :=
  (screenbits vinfo / 8).setWidth chip.longBits

/-- What is assigned to `location`, unsigned. -/
def locationWord (x y : BitVec 32) : BitVec 32 :=
  (x + vinfo.xoffset) * (vinfo.bitsPerPixel / 8) +
    (y + vinfo.yoffset) * finfo.lineLength

def location (x y : BitVec 32) : BitVec chip.longBits :=
  (locationWord vinfo finfo x y).setWidth chip.longBits

/-- The four bytes of a pixel of 32 bits. -/
def argb (x y : BitVec 32) : List (BitVec 8) :=
  [100, (15 + (x - 100).sdiv 2).setWidth 8,
    (200 - (y - 100).sdiv 5).setWidth 8, 0]

/-- The `unsigned short` of any other pixel, its low byte first. -/
def rgb565 (x y : BitVec 32) : List (BitVec 8) :=
  let b : BitVec 32 := 10
  let g := (x - 100).sdiv 6
  let r := 31 - (y - 100).sdiv 16
  let t : BitVec 16 := (r <<< 11 ||| g <<< 5 ||| b).setWidth 16
  [t.setWidth 8, (t >>> 8).setWidth 8]

def pixelBytes (x y : BitVec 32) : List (BitVec 8) :=
  if vinfo.bitsPerPixel = 32 then argb x y else rgb565 x y

/-- The body of the loops. -/
def pixel (x y : BitVec 32) : List Store :=
  (pixelBytes vinfo x y).zipIdx.map fun (byte, index) =>
    { offset := (location chip vinfo finfo x y).toInt + index, byte }

def fill : List Store :=
  forLoop vinfo.yres (fun y =>
    forLoop vinfo.xres (fun x => pixel chip vinfo finfo x y) 0) 0

/-- The length that is mapped, and the stores into the mapping. -/
structure Screen where
  screensize : Int
  stores : List Store

/-- `main`, or the code and the message it exits with.  The last test of the
source compares a pointer with 0, and no pointer is less. -/
def main (opened : Bool) (finfo : Option FbFixScreeninfo)
    (vinfo : Option FbVarScreeninfo) : Except (Nat × String) Screen :=
  if opened = false then
    .error (1, "Error: cannot open framebuffer device")
  else
    match finfo with
    | none => .error (2, "Error reading fixed information")
    | some finfo =>
        match vinfo with
        | none => .error (3, "Error reading variable information")
        | some vinfo =>
            .ok {
              screensize := (screensize chip vinfo).toInt
              stores := fill chip vinfo finfo }

/-- How many bytes of a pixel are stored. -/
def stored : Nat :=
  if vinfo.bitsPerPixel = 32 then 4 else 2

theorem stored_pos : 0 < stored vinfo := by
  unfold stored
  split <;> decide

variable {vinfo} in
theorem length_pixelBytes (x y : BitVec 32) :
    (pixelBytes vinfo x y).length = stored vinfo := by
  unfold pixelBytes stored
  split <;> rfl

theorem exists_store_iff (offset : Int) :
    (∃ store ∈ fill chip vinfo finfo, store.offset = offset) ↔
      ∃ x y : BitVec 32, x < vinfo.xres ∧ y < vinfo.yres ∧
        ∃ index < stored vinfo,
          offset = (location chip vinfo finfo x y).toInt + (index : Nat) := by
  constructor
  · rintro ⟨store, member, rfl⟩
    obtain ⟨y, down, line⟩ := mem_forLoop.mp member
    obtain ⟨x, right, bytes⟩ := mem_forLoop.mp line
    obtain ⟨⟨byte, index⟩, listed, rfl⟩ := List.mem_map.mp bytes
    have inside := List.snd_lt_of_mem_zipIdx listed
    rw [length_pixelBytes] at inside
    refine ⟨x, y, right, down, index, ?_, rfl⟩
    simpa using inside
  · rintro ⟨x, y, right, down, index, inside, rfl⟩
    rw [← length_pixelBytes x y] at inside
    refine ⟨⟨_, (pixelBytes vinfo x y)[index]⟩, ?_, rfl⟩
    refine mem_forLoop.mpr ⟨y, down, mem_forLoop.mpr ⟨x, right, ?_⟩⟩
    apply List.mem_map.mpr
    refine ⟨((pixelBytes vinfo x y)[index], index), ?_, rfl⟩
    exact List.mem_zipIdx_iff_getElem?.mpr (List.getElem?_eq_getElem inside)

end KernelDrivers.Lcd
