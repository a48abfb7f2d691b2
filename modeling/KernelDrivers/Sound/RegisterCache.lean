import KernelDrivers.Library.RegisterFile
import KernelDrivers.Library.Transition

/-!
# The register cache of the ES8323

The chip is never read back; `es8323_reg` stands for what it holds.  A write
updates that array before the transfer, with the value as it is given, while the
chip receives a byte at an address of eight bits.
-/

namespace KernelDrivers.Sound

open KernelDrivers.Library

/-- `ARRAY_SIZE(es8323_reg)`. -/
abbrev es8323RegSize : Nat := 56

/-- `es8323_reg` as it is initialized. -/
def es8323Reg : List (BitVec 16) :=
  [0x06, 0x1c, 0xc3, 0xfc, 0xc0, 0x00, 0x00, 0x7c,
   0x80, 0x00, 0x00, 0x06, 0x00, 0x06, 0x30, 0x30,
   0xc0, 0xc0, 0x38, 0xb0, 0x32, 0x06, 0x00, 0x00,
   0x06, 0x30, 0xc0, 0xc0, 0x08, 0x06, 0x1f, 0xf7,
   0xfd, 0xff, 0x1f, 0xf7, 0xfd, 0xff, 0x00, 0x38,
   0x38, 0x38, 0x38, 0x38, 0x38, 0x00, 0x00, 0x00,
   0x00, 0x00, 0x00, 0x00, 0x00, 0x00, 0x00, 0x00]

/-- The array and the registers of the chip. -/
structure CachedCodec where
  cache : RegisterFile 16
  hardware : RegisterFile 8

/-- `-EIO`. -/
abbrev eio : Int := -5

/-- `es8323_read_reg_cache`. -/
def es8323ReadRegCache (codec : CachedCodec) (reg : BitVec 32) : BitVec 32 :=
  if reg.toNat ≥ es8323RegSize then -1
  else (codec.cache reg.toNat).setWidth 32

/-- A call of `es8323_write` and what `hw_write` returns in it. -/
structure RegWrite where
  reg : BitVec 32
  value : BitVec 32
  transfer : Int

/-- `data[0]`: the address that is sent. -/
def RegWrite.address (call : RegWrite) : Nat :=
  (call.reg.setWidth 8).toNat

/-- `data[1]`: the byte that is sent. -/
def RegWrite.data (call : RegWrite) : BitVec 8 :=
  call.value.setWidth 8

/-- `es8323_write`.  The chip takes the byte over if both bytes arrive. -/
def es8323Write (codec : CachedCodec) (call : RegWrite) : Int × CachedCodec :=
  let cache :=
    if call.reg.toNat < es8323RegSize then
      codec.cache.write call.reg.toNat (call.value.setWidth 16)
    else codec.cache
  let ret := call.transfer
  let hardware :=
    if ret = 2 then codec.hardware.write call.address call.data
    else codec.hardware
  (if ret = 2 then 0 else if ret < 0 then ret else eio, { cache, hardware })

/-- What is read from the cache is what the chip holds. -/
def CachedCodec.Coherent (codec : CachedCodec) : Prop :=
  ∀ reg : BitVec 32, reg.toNat < es8323RegSize →
    es8323ReadRegCache codec reg = (codec.hardware reg.toNat).setWidth 32

/-- The call reports whether the chip was updated, and the cache follows. -/
def WriteCoherent (codec : CachedCodec) (call : RegWrite) : Prop :=
  let result := es8323Write codec call
  (result.1 = 0 ↔ call.transfer = 2) ∧
    result.2.hardware = (if result.1 = 0 then
      codec.hardware.write call.address call.data else codec.hardware) ∧
    result.2.Coherent

/-- A cached register is written either with a byte that arrives, or with the
one that it holds; the address of any other register is not truncated to that
of a cached one, unless the byte is there already or does not arrive. -/
def WriteSafe (codec : CachedCodec) (call : RegWrite) : Prop :=
  if call.reg.toNat < es8323RegSize then
    call.value.setWidth 16 = (if call.transfer = 2 then call.data
      else codec.hardware call.reg.toNat).setWidth 16
  else
    call.transfer = 2 → call.address < es8323RegSize →
      call.data = codec.hardware call.address

instance (codec : CachedCodec) (call : RegWrite) :
    Decidable (WriteSafe codec call) := by
  unfold WriteSafe
  infer_instance

def writeStep (codec : CachedCodec) (call : RegWrite) : Option CachedCodec :=
  some (es8323Write codec call).2

theorem CachedCodec.coherent_iff {codec : CachedCodec} :
    codec.Coherent ↔ ∀ reg < es8323RegSize,
      codec.cache reg = (codec.hardware reg).setWidth 16 := by
  constructor
  · intro coherent reg inside
    have small : reg < 2 ^ 32 := Nat.lt_trans inside (by decide)
    have address : (BitVec.ofNat 32 reg).toNat = reg := Nat.mod_eq_of_lt small
    have same := coherent (BitVec.ofNat 32 reg) (by rw [address]; exact inside)
    rw [es8323ReadRegCache, address, if_neg (by omega)] at same
    apply BitVec.eq_of_toNat_eq
    have values := congrArg BitVec.toNat same
    simp only [BitVec.toNat_setWidth] at values ⊢
    omega
  · intro same reg inside
    rw [es8323ReadRegCache, if_neg (by omega), same reg.toNat inside]
    apply BitVec.eq_of_toNat_eq
    simp only [BitVec.toNat_setWidth]
    omega

theorem RegWrite.address_of_cached {call : RegWrite}
    (cached : call.reg.toNat < es8323RegSize) :
    call.address = call.reg.toNat := by
  have small : call.reg.toNat < 2 ^ 8 := Nat.lt_trans cached (by decide)
  rw [address, BitVec.toNat_setWidth, Nat.mod_eq_of_lt small]

theorem es8323Write_ret (codec : CachedCodec) (call : RegWrite) :
    (es8323Write codec call).1 = 0 ↔ call.transfer = 2 := by
  unfold es8323Write
  dsimp only
  split
  · simp_all
  · split
    · constructor <;> intro zero <;> omega
    · constructor
      · intro zero
        exact absurd zero (by decide)
      · intro arrived
        contradiction

theorem es8323Write_hardware (codec : CachedCodec) (call : RegWrite) :
    (es8323Write codec call).2.hardware = if call.transfer = 2 then
      codec.hardware.write call.address call.data else codec.hardware := rfl

theorem es8323Write_cache (codec : CachedCodec) (call : RegWrite) :
    (es8323Write codec call).2.cache = if call.reg.toNat < es8323RegSize then
      codec.cache.write call.reg.toNat (call.value.setWidth 16)
      else codec.cache := rfl

/-- One call keeps the cache coherent exactly if it is safe. -/
theorem coherent_write_iff {codec : CachedCodec} (coherent : codec.Coherent)
    (call : RegWrite) :
    (es8323Write codec call).2.Coherent ↔ WriteSafe codec call := by
  rw [CachedCodec.coherent_iff] at coherent ⊢
  rw [es8323Write_hardware, es8323Write_cache, WriteSafe]
  by_cases cached : call.reg.toNat < es8323RegSize
  · rw [if_pos cached, if_pos cached, call.address_of_cached cached]
    constructor
    · intro all
      have own := all call.reg.toNat cached
      rw [RegisterFile.write_same] at own
      rw [own]
      split
      · rw [RegisterFile.write_same]
      · rfl
    · intro own reg inside
      by_cases same : reg = call.reg.toNat
      · rw [same, RegisterFile.write_same, own]
        split
        · rw [RegisterFile.write_same]
        · rfl
      · rw [RegisterFile.write_other same, coherent reg inside]
        split
        · rw [RegisterFile.write_other same]
        · rfl
  · rw [if_neg cached, if_neg cached]
    constructor
    · intro all arrived inside
      have own := all call.address inside
      rw [if_pos arrived, RegisterFile.write_same, coherent _ inside] at own
      apply BitVec.eq_of_toNat_eq
      have values := congrArg BitVec.toNat own
      simp only [BitVec.toNat_setWidth] at values
      omega
    · intro own reg inside
      rw [coherent reg inside]
      split
      · rename_i arrived
        by_cases same : reg = call.address
        · rw [same, RegisterFile.write_same, own arrived (same ▸ inside)]
        · rw [RegisterFile.write_other same]
      · rfl

/-- The cache stays coherent along exactly those calls that are all safe. -/
theorem cache_coherent_iff (codec : CachedCodec) (coherent : codec.Coherent)
    (calls : List RegWrite) :
    Along writeStep WriteCoherent codec calls ↔
      Along writeStep WriteSafe codec calls := by
  refine along_congr coherent ?_ ?_
  · intro state call next _ sound taken
    cases taken
    exact sound.2.2
  · intro state call coherent
    have reported := es8323Write_ret state call
    have updated := es8323Write_hardware state call
    rw [← coherent_write_iff coherent call]
    constructor
    · intro sound
      exact sound.2.2
    · intro kept
      refine ⟨reported, ?_, kept⟩
      simp only [reported]
      exact updated

/-- The codec after power on. -/
def es8323Initial : CachedCodec :=
  { cache := fun reg => es8323Reg.getD reg 0
    hardware := fun reg => (es8323Reg.getD reg 0).setWidth 8 }

theorem es8323Initial_coherent : es8323Initial.Coherent := by
  apply CachedCodec.coherent_iff.mpr
  decide

/-- A write that arrives and one that does not but repeats the register. -/
theorem cache_coherent_repeated :
    Along writeStep WriteCoherent es8323Initial
      [⟨0x02, 0xf0, 2⟩, ⟨0x02, 0xf0, -5⟩] :=
  (cache_coherent_iff es8323Initial es8323Initial_coherent _).mpr (by decide)

/-- A transfer that fails leaves the cache ahead of the chip. -/
theorem not_cache_coherent_failed :
    es8323Initial.Coherent ∧
      ¬Along writeStep WriteCoherent es8323Initial [⟨0x02, 0xf0, -5⟩] := by
  refine ⟨es8323Initial_coherent, ?_⟩
  intro along
  have after := along [] _ [] _ rfl .nil
  have kept := (coherent_write_iff es8323Initial_coherent _).mp after.2.2
  exact absurd kept (by decide)

end KernelDrivers.Sound
