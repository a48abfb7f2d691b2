import KernelDrivers.Sound.Clock
import KernelDrivers.Sound.Es8316Link
import KernelDrivers.Sound.SetFmt

/-!
# The clock dividers of the controller

`rockchip_i2s_set_clkdiv` shifts its argument into one or two fields of CKR
without a look at its size.
-/

namespace KernelDrivers.Sound

open KernelDrivers.Library

/-- A field of CKR, of 8 bits. -/
def ckrField (regs : Controller) (shift : Nat) : BitVec 8 :=
  (regs i2sCkr).extractLsb' shift 8

/-- `I2S_CKR_TSD_SHIFT`, `I2S_CKR_RSD_SHIFT` and `I2S_CKR_MDIV_SHIFT`. -/
abbrev tsdShift : Nat := 0
abbrev rsdShift : Nat := 8
abbrev mdivShift : Nat := 16

/-- The fields that a divider id names. -/
def dividerFields (divId : Int) : List Nat :=
  if divId = rockchipDivBclk then [tsdShift, rsdShift]
  else if divId = rockchipDivMclk then [mdivShift]
  else []

theorem dividerFields_bclk :
    dividerFields rockchipDivBclk = [tsdShift, rsdShift] := rfl

theorem dividerFields_mclk : dividerFields rockchipDivMclk = [mdivShift] := rfl

def isInField (shift index : Nat) : Bool :=
  shift ≤ index ∧ index < shift + 8

/-- The named fields hold the divider, and all else is what it was. -/
structure DivStored (before after : Controller) (fields : List Nat)
    (div : Int) : Prop where
  stored : ∀ shift ∈ fields, ((ckrField after shift).toNat : Int) = div
  kept : ∀ index, (∀ shift ∈ fields, isInField shift index = false) →
    after.bit i2sCkr index = before.bit i2sCkr index

/-- Either the divider is stored as it is or the call fails. -/
def ClkdivExact (regs : Controller) (divId : Int) (div : BitVec 32) : Prop :=
  let set := rockchipI2sSetClkdiv regs divId div
  (set.1 = 0 ∧ dividerFields divId ≠ [] ∧
    DivStored regs set.2 (dividerFields divId) div.toInt) ∨ set.1 < 0

/-- The dividers for a rate, and the rate that they give. -/
structure DividersExact (before after : Controller) (rate : Nat) : Prop where
  tsd : (ckrField after tsdShift).toNat = (pllOut rate).1 / 4 / rate - 1
  rsd : (ckrField after rsdShift).toNat = (pllOut rate).1 / 4 / rate - 1
  mdiv : (ckrField after mdivShift).toNat = 3
  kept : ∀ index, isInField tsdShift index = false →
    isInField rsdShift index = false → isInField mdivShift index = false →
    after.bit i2sCkr index = before.bit i2sCkr index
  frame : (pllOut rate).1 = rate * (((ckrField after mdivShift).toNat + 1) *
    ((ckrField after tsdShift).toNat + 1))

/-- What the machine driver of the ES8323 leaves in CKR as a clock master. -/
def Es8323Exact (card : Card) (fmt : BitVec 32) (rate : Nat) (clkRet : Int) :
    Prop :=
  fmt &&& daifmtMasterMask = daifmtCbsCfs → ∀ after,
    rk3288HwParams card fmt rate clkRet = some (0, after) →
      DividersExact card.regs after.regs rate

def Es8316Exact (link : Es8316Link) (fmt : BitVec 32) (rate : Nat)
    (clkRet : Int) : Prop :=
  fmt &&& daifmtMasterMask = daifmtCbsCfs → ∀ after,
    es8316HwParams link fmt rate clkRet = (0, after) →
      DividersExact link.regs after.regs rate

/-- The inputs for which a supported rate is programmed exactly.  The mode bit
is the one other bit of CKR that a request writes. -/
structure DividersFit (regs : Controller) (rate : Nat) : Prop where
  rate : rate ≠ 8000
  master : regs.bit i2sCkr 27 = false

theorem ckrField_bit (regs : Controller) (shift : Nat) {index : Nat}
    (inside : index < 8) :
    (ckrField regs shift).getLsbD index = regs.bit i2sCkr (shift + index) := by
  rw [ckrField, BitVec.getLsbD_extractLsb', RegisterFile.bit]
  simp [inside]

theorem ckrField_congr {before after : Controller} {shift : Nat}
    (same : ∀ index, isInField shift index = true →
      after.bit i2sCkr index = before.bit i2sCkr index) :
    ckrField after shift = ckrField before shift := by
  apply BitVec.eq_of_getLsbD_eq
  intro index inside
  rw [ckrField_bit after shift inside, ckrField_bit before shift inside]
  apply same
  simp [isInField, inside]

/-- A divider call leaves the bits outside the fields that it names alone. -/
theorem rockchipI2sSetClkdiv_outside (regs : Controller) {divId : Int}
    (div : BitVec 32) {index : Nat}
    (outside : ∀ shift ∈ dividerFields divId,
      isInField shift index = false) :
    (rockchipI2sSetClkdiv regs divId div).2.bit i2sCkr index =
      regs.bit i2sCkr index := by
  let isNamed (_ index : Nat) : Bool :=
    (dividerFields divId).any fun shift => isInField shift index
  have apart : isNamed i2sCkr index = false := by
    apply List.any_eq_false.mpr
    intro shift member
    rw [outside shift member]
    exact Bool.false_ne_true
  unfold rockchipI2sSetClkdiv
  split
  · rename_i bclk
    subst bclk
    exact RegisterFile.bit_updateBits_outside isNamed (by decide) apart
  · split
    · rename_i mclk
      subst mclk
      exact RegisterFile.bit_updateBits_outside isNamed (by decide) apart
    · rfl

theorem ckrField_updateBits (regs : Controller) {mask : BitVec 32}
    (value : BitVec 32) {shift : Nat}
    (covers : ∀ index, index < 8 → mask.getLsbD (shift + index) = true) :
    ckrField (regs.updateBits i2sCkr mask value) shift =
      value.extractLsb' shift 8 := by
  apply BitVec.eq_of_getLsbD_eq
  intro index inside
  rw [ckrField_bit _ _ inside, RegisterFile.bit_updateBits,
    if_pos ⟨rfl, covers index inside⟩, BitVec.getLsbD_extractLsb']
  simp only [inside, decide_true, Bool.true_and]

theorem tsd_bclk (regs : Controller) (div : BitVec 32) :
    ckrField (rockchipI2sSetClkdiv regs rockchipDivBclk div).2 tsdShift =
      div.extractLsb' 0 8 := by
  rw [rockchipI2sSetClkdiv, if_pos rfl, ckrField_updateBits _ _ (by decide)]
  apply BitVec.eq_of_getLsbD_eq
  intro index inside
  simp [inside]

/-- RSD gets the low byte too, mixed with the bits that TSD has no room
for. -/
theorem rsd_bclk (regs : Controller) (div : BitVec 32) :
    ckrField (rockchipI2sSetClkdiv regs rockchipDivBclk div).2 rsdShift =
      div.extractLsb' 8 8 ||| div.extractLsb' 0 8 := by
  rw [rockchipI2sSetClkdiv, if_pos rfl, ckrField_updateBits _ _ (by decide)]
  apply BitVec.eq_of_getLsbD_eq
  intro index inside
  have low : index < 32 := by omega
  have high : 8 + index < 32 := by omega
  have above : ¬8 + index < 8 := by omega
  simp [rsdShift, inside, low, high, above]

theorem mdiv_mclk (regs : Controller) (div : BitVec 32) :
    ckrField (rockchipI2sSetClkdiv regs rockchipDivMclk div).2 mdivShift =
      div.extractLsb' 0 8 := by
  rw [rockchipI2sSetClkdiv, if_neg (by decide), if_pos rfl,
    ckrField_updateBits _ _ (by decide)]
  apply BitVec.eq_of_getLsbD_eq
  intro index inside
  have low : index < 32 := by omega
  have high : 16 + index < 32 := by omega
  simp [mdivShift, inside, low, high]

theorem lowByte_toNat (div : BitVec 32) :
    (div.extractLsb' 0 8).toNat = div.toNat % 256 := by
  rw [BitVec.extractLsb'_toNat, Nat.shiftRight_zero]

theorem secondByte_of_fits {div : BitVec 32} (fits : div.toNat < 256) :
    div.extractLsb' 8 8 = 0#8 := by
  apply BitVec.eq_of_toNat_eq
  rw [BitVec.extractLsb'_toNat, Nat.shiftRight_eq_div_pow,
    Nat.div_eq_of_lt fits]
  rfl

/-- Where a divider fits, every field that its id names holds it. -/
theorem ckrField_stored (regs : Controller) {divId : Int} {div : BitVec 32}
    (fits : div.toNat < 256) :
    ∀ shift ∈ dividerFields divId,
      (ckrField (rockchipI2sSetClkdiv regs divId div).2 shift).toNat =
        div.toNat := by
  have low : (div.extractLsb' 0 8).toNat = div.toNat := by
    rw [lowByte_toNat, Nat.mod_eq_of_lt fits]
  intro shift member
  rw [dividerFields] at member
  split at member
  · rename_i bclk
    subst bclk
    simp only [List.mem_cons, List.not_mem_nil, or_false] at member
    rcases member with tsd | rsd
    · rw [tsd, tsd_bclk, low]
    · rw [rsd, rsd_bclk, secondByte_of_fits fits, BitVec.zero_or, low]
  · split at member
    · rename_i mclk
      subst mclk
      rw [List.mem_singleton] at member
      rw [member, mdiv_mclk, low]
    · cases member

theorem rockchipI2sSetClkdiv_ret (regs : Controller) (divId : Int)
    (div : BitVec 32) :
    (rockchipI2sSetClkdiv regs divId div).1 =
      if dividerFields divId = [] then einval else 0 := by
  unfold rockchipI2sSetClkdiv dividerFields
  split
  · rfl
  · split <;> rfl

/-- A divider that is not refused is stored exactly if it fits into a byte. -/
theorem clkdivExact_iff (regs : Controller) (divId : Int) (div : BitVec 32) :
    ClkdivExact regs divId div ↔
      (dividerFields divId ≠ [] → 0 ≤ div.toInt ∧ div.toInt ≤ 255) := by
  have ret := rockchipI2sSetClkdiv_ret regs divId div
  constructor
  · rintro (⟨-, named, stored, -⟩ | failed) _
    · obtain ⟨shift, member⟩ := List.exists_mem_of_ne_nil _ named
      have value := stored shift member
      have byte :=
        (ckrField (rockchipI2sSetClkdiv regs divId div).2 shift).isLt
      omega
    · rename_i named
      rw [ret, if_neg named] at failed
      exact absurd failed (Int.lt_irrefl 0)
  · intro condition
    by_cases unknown : dividerFields divId = []
    · right
      rw [ret, if_pos unknown]
      decide
    · left
      obtain ⟨nonneg, small⟩ := condition unknown
      have value : div.toInt = div.toNat := by
        have cases := BitVec.toInt_eq_toNat_cond div
        have bound := div.isLt
        split at cases <;> omega
      have fits : div.toNat < 256 := by omega
      refine ⟨?_, unknown, ?_, ?_⟩
      · rw [ret, if_neg unknown]
      · intro shift member
        rw [ckrField_stored regs fits shift member, value]
      · intro index outside
        exact rockchipI2sSetClkdiv_outside regs div outside

theorem pll_supported {rate : Nat} (supported : (pllOut rate).2 = 0)
    (other : rate ≠ 8000) :
    0 < (pllOut rate).1 / 4 / rate ∧ (pllOut rate).1 / 4 / rate ≤ 256 ∧
      (pllOut rate).1 =
        rate * ((3 + 1) * ((pllOut rate).1 / 4 / rate - 1 + 1)) := by
  rw [pllOut_iff] at supported
  simp only [rates12288, rates11289, List.mem_cons, List.not_mem_nil,
    or_false] at supported
  rcases supported with
    (rfl | rfl | rfl | rfl | rfl) | (rfl | rfl | rfl)
  · exact absurd rfl other
  · decide
  · decide
  · decide
  · decide
  · decide
  · decide
  · decide

theorem pred_toNat {count : Nat} (positive : 0 < count)
    (small : count ≤ 256) :
    (BitVec.ofInt 32 ((count : Int) - 1)).toNat = count - 1 := by
  rw [BitVec.toNat_ofInt]
  omega

theorem setClocks_bit (regs : Controller) {fmt : BitVec 32} (rate : Nat)
    {index : Nat} (tsd : isInField tsdShift index = false)
    (rsd : isInField rsdShift index = false)
    (mdiv : isInField mdivShift index = false) :
    (setClocks regs fmt rate).bit i2sCkr index = regs.bit i2sCkr index := by
  have bclk : ∀ shift ∈ dividerFields rockchipDivBclk,
      isInField shift index = false := by
    simp [dividerFields_bclk, tsd, rsd]
  have mclk : ∀ shift ∈ dividerFields rockchipDivMclk,
      isInField shift index = false := by
    simp [dividerFields_mclk, mdiv]
  unfold setClocks
  split
  · rw [rockchipI2sSetClkdiv_outside _ _ mclk,
      rockchipI2sSetClkdiv_outside _ _ bclk]
  · rfl

theorem isInField_low {shift index : Nat}
    (low : shift ∈ [tsdShift, rsdShift])
    (inside : isInField shift index = true) :
    isInField mdivShift index = false := by
  simp only [tsdShift, rsdShift, List.mem_cons, List.not_mem_nil,
    or_false] at low
  simp only [isInField, decide_eq_true_eq] at inside
  simp only [isInField, mdivShift, decide_eq_false_iff_not]
  rcases low with rfl | rfl <;> omega

theorem setClocks_fields (regs : Controller) {fmt : BitVec 32} {rate : Nat}
    (slave : fmt &&& daifmtMasterMask = daifmtCbsCfs)
    (supported : (pllOut rate).2 = 0) (other : rate ≠ 8000) :
    (ckrField (setClocks regs fmt rate) tsdShift).toNat =
        (pllOut rate).1 / 4 / rate - 1 ∧
      (ckrField (setClocks regs fmt rate) rsdShift).toNat =
        (pllOut rate).1 / 4 / rate - 1 ∧
      (ckrField (setClocks regs fmt rate) mdivShift).toNat = 3 := by
  obtain ⟨positive, small, -⟩ := pll_supported supported other
  have value := pred_toNat positive small
  rw [setClocks, if_pos slave]
  dsimp only
  generalize BitVec.ofInt 32 _ = div at value ⊢
  have fits : div.toNat < 256 := by omega
  have behind : ∀ shift ∈ [tsdShift, rsdShift], ∀ regs : Controller,
      ckrField (rockchipI2sSetClkdiv regs rockchipDivMclk 3).2 shift =
        ckrField regs shift := by
    intro shift member regs
    apply ckrField_congr
    intro index inside
    apply rockchipI2sSetClkdiv_outside
    rw [dividerFields_mclk]
    intro other mclk
    rw [List.mem_singleton.mp mclk]
    exact isInField_low member inside
  have bclk : ∀ shift ∈ [tsdShift, rsdShift], (ckrField
      (rockchipI2sSetClkdiv regs rockchipDivBclk div).2 shift).toNat =
        div.toNat :=
    @ckrField_stored regs rockchipDivBclk div fits
  refine ⟨?_, ?_, ?_⟩
  · rw [behind _ (by simp), bclk _ (by simp), value]
  · rw [behind _ (by simp), bclk _ (by simp), value]
  · apply ckrField_stored
    · decide
    · exact List.mem_singleton.mpr rfl

/-- The dividers of a supported rate are exact unless it is 8000, whose divider
383 does not fit. -/
theorem setClocks_exact_iff (before regs : Controller) {fmt : BitVec 32}
    {rate : Nat} (slave : fmt &&& daifmtMasterMask = daifmtCbsCfs)
    (supported : (pllOut rate).2 = 0) :
    DividersExact before (setClocks regs fmt rate) rate ↔
      rate ≠ 8000 ∧ ∀ index, isInField tsdShift index = false →
        isInField rsdShift index = false → isInField mdivShift index = false →
        regs.bit i2sCkr index = before.bit i2sCkr index := by
  constructor
  · intro exact
    constructor
    · intro low
      have tsd := exact.tsd
      subst low
      have byte := (ckrField (setClocks regs fmt 8000) tsdShift).isLt
      have wide : (pllOut 8000).1 / 4 / 8000 - 1 = 383 := by
        decide
      omega
    · intro index tsd rsd mdiv
      rw [← setClocks_bit regs rate tsd rsd mdiv]
      exact exact.kept index tsd rsd mdiv
  · rintro ⟨other, same⟩
    obtain ⟨tsd, rsd, mdiv⟩ := setClocks_fields regs slave supported other
    obtain ⟨-, -, frame⟩ := pll_supported supported other
    refine ⟨tsd, rsd, mdiv, ?_, ?_⟩
    · intro index outTsd outRsd outMdiv
      rw [setClocks_bit regs rate outTsd outRsd outMdiv]
      exact same index outTsd outRsd outMdiv
    · rw [mdiv, tsd]
      exact frame

theorem dividersExact_iff (regs : Controller) {fmt : BitVec 32} {rate : Nat}
    (slave : fmt &&& daifmtMasterMask = daifmtCbsCfs)
    (supported : (pllOut rate).2 = 0) :
    DividersExact regs
        (setClocks (rockchipI2sSetFmt regs fmt).2 fmt rate) rate ↔
      DividersFit regs rate := by
  have mode : ∀ index, (rockchipI2sSetFmt regs fmt).2.bit i2sCkr index =
      if index = 27 then false else regs.bit i2sCkr index := by
    have known : fmt &&& daifmtMasterMask ∈ [daifmtCbmCfm, daifmtCbsCfs] := by
      rw [slave]
      decide
    have controller : isMaster fmt = false := by
      rw [isMaster, slave]
      decide
    intro index
    rw [rockchipI2sSetFmt_ckr regs known, controller]
  rw [setClocks_exact_iff regs _ slave supported]
  constructor
  · rintro ⟨other, same⟩
    refine ⟨other, ?_⟩
    rw [← same 27 (by decide) (by decide) (by decide), mode, if_pos rfl]
  · rintro ⟨other, master⟩
    refine ⟨other, ?_⟩
    intro index _ _ _
    rw [mode]
    split
    · rename_i same
      rw [same, master]
    · rfl

theorem es8323Exact_iff (card : Card) (fmt : BitVec 32) (rate : Nat)
    (clkRet : Int) :
    Es8323Exact card fmt rate clkRet ↔
      (fmt &&& daifmtMasterMask = daifmtCbsCfs → CodecAccepts fmt →
        rate ∈ rates12288 ∨ rate ∈ rates11289 →
          DividersFit card.regs rate) := by
  unfold Es8323Exact
  apply imp_congr_right
  intro slave
  rw [← pllOut_iff]
  rcases rk3288HwParams_spec slave card rate clkRet with
    ⟨refuses, refused⟩ | ⟨accepts, zero, crash⟩ |
      ⟨accepts, positive, after, set, -, -, regs⟩
  · constructor
    · intro _ accepts
      exact absurd accepts refuses
    · intro _ after result
      rw [refused] at result
      cases result
  · constructor
    · intro _ _ supported
      rw [zero] at supported
      exact absurd supported (by decide)
    · intro _ after result
      rw [crash] at result
      cases result
  · rw [set]
    constructor
    · intro exact _ supported
      have reached := exact after (by rw [supported])
      rw [regs, dividersExact_iff card.regs slave supported] at reached
      exact reached
    · intro condition after' result
      rw [Option.some.injEq, Prod.mk.injEq] at result
      rw [← result.2, regs, dividersExact_iff card.regs slave result.1]
      exact condition accepts result.1

theorem es8316Exact_iff (link : Es8316Link) (fmt : BitVec 32) (rate : Nat)
    (clkRet : Int) :
    Es8316Exact link fmt rate clkRet ↔
      (fmt &&& daifmtMasterMask = daifmtCbsCfs → Es8316Accepts fmt →
        rate ∈ rates12288 ∨ rate ∈ rates11289 →
          DividersFit link.regs rate) := by
  unfold Es8316Exact
  apply imp_congr_right
  intro slave
  rw [← pllOut_iff]
  have negative : einval ≠ 0 := by decide
  rcases es8316HwParams_spec link fmt rate clkRet with
    ⟨refuses, refused⟩ | ⟨-, unsupported, failed, -⟩ |
      ⟨accepts, supported, done, regs⟩
  · constructor
    · intro _ accepts
      exact absurd accepts refuses
    · intro _ after result
      exact absurd (congrArg Prod.fst (refused.symm.trans result)) negative
  · constructor
    · intro _ _ supported
      exact absurd supported unsupported
    · intro _ after result
      rw [result] at failed
      exact absurd failed.symm negative
  · rw [← dividersExact_iff link.regs slave supported, ← regs]
    constructor
    · intro exact _ _
      exact exact _ (Prod.ext done rfl)
    · intro condition after result
      have reached := condition accepts supported
      rw [result] at reached
      exact reached

/-- Requests program the dividers exactly unless the rate is 8000 or the mode
changes, and a divider call exactly stores what fits into a byte. -/
theorem dividers_exact_iff (card : Card) (link : Es8316Link)
    (fmt : BitVec 32) (rate : Nat) (clkRet : Int) (regs : Controller)
    (divId : Int) (div : BitVec 32) :
    (Es8323Exact card fmt rate clkRet ↔
      (fmt &&& daifmtMasterMask = daifmtCbsCfs → CodecAccepts fmt →
        rate ∈ rates12288 ∨ rate ∈ rates11289 →
          DividersFit card.regs rate)) ∧
    (Es8316Exact link fmt rate clkRet ↔
      (fmt &&& daifmtMasterMask = daifmtCbsCfs → Es8316Accepts fmt →
        rate ∈ rates12288 ∨ rate ∈ rates11289 →
          DividersFit link.regs rate)) ∧
    (ClkdivExact regs divId div ↔
      (divId = rockchipDivBclk ∨ divId = rockchipDivMclk →
        0 ≤ div.toInt ∧ div.toInt ≤ 255)) := by
  refine ⟨es8323Exact_iff card fmt rate clkRet,
    es8316Exact_iff link fmt rate clkRet, ?_⟩
  have named : dividerFields divId ≠ [] ↔
      divId = rockchipDivBclk ∨ divId = rockchipDivMclk := by
    unfold dividerFields
    split
    · rename_i bclk
      simp [bclk]
    · split
      · rename_i mclk
        simp [mclk]
      · rename_i notBclk notMclk
        simp [notBclk, notMclk]
  rw [clkdivExact_iff, named]

/-- The divider 383 of 8000 is stored as 127 in both fields. -/
theorem not_dividers_exact_8000 :
    ¬Es8323Exact sampleCard (daifmtI2s ||| daifmtNbNf ||| daifmtCbsCfs) 8000
        0 ∧
      ¬ClkdivExact (fun _ => 0) rockchipDivBclk 383 ∧
      (rockchipI2sSetClkdiv (fun _ => 0) rockchipDivBclk 383).2 i2sCkr =
        0x7f7f := by
  have accepts : CodecAccepts (daifmtI2s ||| daifmtNbNf ||| daifmtCbsCfs) :=
    ⟨by decide, by decide, by decide⟩
  refine ⟨?_, ?_, by decide⟩
  · rw [es8323Exact_iff]
    intro condition
    exact (condition (by decide) accepts (by decide)).rate rfl
  · rw [clkdivExact_iff]
    intro condition
    exact absurd (condition (by decide)).2 (by decide)

end KernelDrivers.Sound
