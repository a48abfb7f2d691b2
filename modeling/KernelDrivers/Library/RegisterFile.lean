import Mathlib.Logic.Function.Basic

/-!
# Register files

A device's registers, of `w` bits each, by address.  Both read-modify-write
operations of the drivers are here: one ORs its value unmasked, the other
masks it first.
-/

namespace KernelDrivers.Library

abbrev RegisterFile (w : Nat) := Nat → BitVec w

namespace RegisterFile

variable {w : Nat}

def write (regs : RegisterFile w) (reg : Nat) (value : BitVec w) :
    RegisterFile w :=
  Function.update regs reg value

/-- One bit of one register. -/
def bit (regs : RegisterFile w) (reg index : Nat) : Bool :=
  (regs reg).getLsbD index

/-- `reg = (reg & ~mask) | value`. -/
def setBits (regs : RegisterFile w) (reg : Nat) (mask value : BitVec w) :
    RegisterFile w :=
  regs.write reg ((regs reg &&& ~~~mask) ||| value)

/-- `reg = (reg & ~mask) | (value & mask)`. -/
def updateBits (regs : RegisterFile w) (reg : Nat) (mask value : BitVec w) :
    RegisterFile w :=
  regs.setBits reg mask (value &&& mask)

/-- Whole registers, one after the other. -/
def writeAll (regs : RegisterFile w) (values : List (Nat × BitVec w)) :
    RegisterFile w :=
  values.foldl (fun regs pair => regs.write pair.1 pair.2) regs

variable {regs : RegisterFile w} {reg other index : Nat}
variable {mask value : BitVec w}

@[simp] theorem write_same : regs.write reg value reg = value := by
  simp [write]

theorem write_other (different : other ≠ reg) :
    regs.write reg value other = regs other := by
  simp [write, different]

theorem writeAll_other {values : List (Nat × BitVec w)}
    (outside : other ∉ values.map Prod.fst) :
    regs.writeAll values other = regs other := by
  induction values generalizing regs with
  | nil => rfl
  | cons pair values induction =>
      rw [List.map_cons, List.mem_cons, not_or] at outside
      have later : (regs.write pair.1 pair.2).writeAll values other =
          regs.write pair.1 pair.2 other := induction outside.2
      exact later.trans (write_other outside.1)

theorem setBits_other (different : other ≠ reg) :
    regs.setBits reg mask value other = regs other :=
  write_other different

theorem updateBits_other (different : other ≠ reg) :
    regs.updateBits reg mask value other = regs other :=
  write_other different

theorem bit_setBits :
    (regs.setBits reg mask value).bit other index =
      if other = reg then
        (regs.bit reg index && !mask.getLsbD index) || value.getLsbD index
      else regs.bit other index := by
  by_cases same : other = reg
  · subst same
    by_cases inside : index < w
    · simp [bit, setBits, inside]
    · have outside : w ≤ index := by omega
      simp [bit, setBits, BitVec.getLsbD_of_ge _ _ outside]
  · rw [if_neg same, bit, setBits_other same, bit]

theorem bit_updateBits :
    (regs.updateBits reg mask value).bit other index =
      if other = reg ∧ mask.getLsbD index = true then value.getLsbD index
      else regs.bit other index := by
  rw [updateBits, bit_setBits, BitVec.getLsbD_and]
  by_cases same : other = reg
  · subst same
    cases mask.getLsbD index <;> simp
  · simp [same]

/-- An update leaves the bits alone that a test tells from those under the
mask. -/
theorem bit_updateBits_outside (isField : Nat → Nat → Bool)
    (known : ∀ index < w, mask.getLsbD index = true →
      isField reg index = true)
    (outside : isField other index = false) :
    (regs.updateBits reg mask value).bit other index =
      regs.bit other index := by
  rw [bit_updateBits, if_neg]
  intro inside
  have field := known index (BitVec.lt_of_getLsbD inside.2) inside.2
  rw [← inside.1, outside] at field
  cases field

theorem bit_congr {regs' : RegisterFile w} (same : regs reg = regs' reg) :
    regs.bit reg index = regs'.bit reg index := by
  rw [bit, same, bit]

theorem bit_updateBits_self :
    (regs.updateBits reg mask mask).bit reg index =
      if mask.getLsbD index = true then true else regs.bit reg index := by
  rw [bit_updateBits]
  by_cases masked : mask.getLsbD index = true <;> simp [masked]

theorem bit_updateBits_zero :
    (regs.updateBits reg mask 0).bit reg index =
      if mask.getLsbD index = true then false else regs.bit reg index := by
  rw [bit_updateBits]
  by_cases masked : mask.getLsbD index = true <;> simp [masked]

theorem field_congr {regs' : RegisterFile w}
    (same : ∀ index, mask.getLsbD index = true →
      regs.bit reg index = regs'.bit reg index) :
    regs reg &&& mask = regs' reg &&& mask := by
  apply BitVec.eq_of_getLsbD_eq
  intro index _
  rw [BitVec.getLsbD_and, BitVec.getLsbD_and]
  cases inside : mask.getLsbD index with
  | false => rw [Bool.and_false, Bool.and_false]
  | true =>
      rw [Bool.and_true, Bool.and_true]
      exact same index inside

theorem field_setBits : regs.setBits reg mask value reg &&& mask =
    value &&& mask := by
  apply BitVec.eq_of_getLsbD_eq
  intro index inside
  simp only [setBits, write_same, BitVec.getLsbD_and, BitVec.getLsbD_or,
    BitVec.getLsbD_not]
  cases mask.getLsbD index <;> simp

theorem field_updateBits : regs.updateBits reg mask value reg &&& mask =
    value &&& mask := by
  rw [updateBits, field_setBits, BitVec.and_assoc, BitVec.and_self]

theorem field_updateBits_within {field : BitVec w}
    (within : mask &&& field = field) :
    regs.updateBits reg mask value reg &&& field = value &&& field := by
  rw [← within, ← BitVec.and_assoc, field_updateBits, BitVec.and_assoc]

theorem updateBits_same (same : value &&& mask = regs reg &&& mask) :
    regs.updateBits reg mask value = regs := by
  funext other
  by_cases target : other = reg
  · subst target
    apply BitVec.eq_of_getLsbD_eq
    intro index inside
    have bits := congrArg (fun bits => bits.getLsbD index) same
    simp only [BitVec.getLsbD_and] at bits
    change (regs.updateBits other mask value).bit other index =
      regs.bit other index
    rw [bit_updateBits]
    split
    · rename_i masked
      rw [masked.2, Bool.and_true, Bool.and_true] at bits
      exact bits
    · rfl
  · exact updateBits_other target

theorem field_updateBits_disjoint {field : BitVec w}
    (disjoint : field &&& mask = 0) :
    regs.updateBits reg mask value reg &&& field = regs reg &&& field := by
  apply BitVec.eq_of_getLsbD_eq
  intro index inside
  have apart := congrArg (fun bits => bits.getLsbD index) disjoint
  simp only [BitVec.getLsbD_and] at apart
  simp only [updateBits, setBits, write_same, BitVec.getLsbD_and,
    BitVec.getLsbD_or, BitVec.getLsbD_not]
  cases inField : field.getLsbD index <;> simp_all

end RegisterFile

end KernelDrivers.Library
