import KernelDrivers.Sound.Es8316Link
import KernelDrivers.Sound.Es8323Params

/-!
# The stream parameters of the ES8316

`es8316_pcm_hw_params` merges the columns of a table row into variables that it
never writes, and updates the interface registers under the mask of the bits
that it means to keep.
-/

namespace KernelDrivers.Sound

open KernelDrivers.Library

abbrev es8316ClkmgrAdcosr : Nat := 0x03
abbrev es8316ClkmgrAdcdiv1 : Nat := 0x04
abbrev es8316ClkmgrAdcdiv2 : Nat := 0x05
abbrev es8316ClkmgrDacdiv1 : Nat := 0x06
abbrev es8316ClkmgrDacdiv2 : Nat := 0x07
abbrev es8316SdpMsBckdiv : Nat := 0x09

/-- `_coeff_div`. -/
structure Es8316CoeffDiv where
  mclk : Nat
  rate : Nat
  div : BitVec 8
  lrckH : BitVec 8
  lrckL : BitVec 8
  sr : BitVec 8
  osr : BitVec 8
  deriving DecidableEq

/-- `coeff_div` with all its columns. -/
def es8316CoeffRows : List Es8316CoeffDiv :=
  [ ⟨12288000, 8000, 6, 0x06, 0x00, 21, 32⟩,
    ⟨11289600, 8000, 6, 0x05, 0x83, 20, 29⟩,
    ⟨18432000, 8000, 9, 0x09, 0x00, 27, 32⟩,
    ⟨16934400, 8000, 8, 0x08, 0x44, 25, 33⟩,
    ⟨12000000, 8000, 7, 0x05, 0xdc, 21, 25⟩,
    ⟨19200000, 8000, 12, 0x09, 0x60, 27, 25⟩,
    ⟨11289600, 11025, 4, 0x04, 0x00, 16, 32⟩,
    ⟨16934400, 11025, 6, 0x06, 0x00, 21, 32⟩,
    ⟨12000000, 11025, 4, 0x04, 0x40, 17, 34⟩,
    ⟨12288000, 16000, 3, 0x03, 0x00, 12, 32⟩,
    ⟨18432000, 16000, 5, 0x04, 0x80, 18, 25⟩,
    ⟨12000000, 16000, 3, 0x02, 0xee, 12, 31⟩,
    ⟨19200000, 16000, 6, 0x04, 0xb0, 18, 25⟩,
    ⟨11289600, 22050, 2, 0x02, 0x00, 8, 32⟩,
    ⟨16934400, 22050, 3, 0x03, 0x00, 12, 32⟩,
    ⟨12000000, 22050, 2, 0x02, 0x20, 8, 34⟩,
    ⟨12288000, 32000, 1, 0x01, 0x80, 6, 48⟩,
    ⟨18432000, 32000, 2, 0x02, 0x40, 9, 32⟩,
    ⟨12000000, 32000, 1, 0x01, 0x77, 6, 31⟩,
    ⟨19200000, 32000, 3, 0x02, 0x58, 10, 25⟩,
    ⟨11289600, 44100, 1, 0x01, 0x00, 4, 32⟩,
    ⟨16934400, 44100, 1, 0x01, 0x80, 6, 32⟩,
    ⟨12000000, 44100, 1, 0x01, 0x10, 4, 34⟩,
    ⟨12288000, 48000, 1, 0x01, 0x00, 4, 32⟩,
    ⟨18432000, 48000, 1, 0x01, 0x80, 6, 32⟩,
    ⟨12000000, 48000, 1, 0x00, 0xfa, 4, 31⟩,
    ⟨19200000, 48000, 2, 0x01, 0x90, 6, 25⟩,
    ⟨11289600, 88200, 1, 0x00, 0x80, 2, 32⟩,
    ⟨16934400, 88200, 1, 0x00, 0xc0, 3, 48⟩,
    ⟨12000000, 88200, 1, 0x00, 0x88, 2, 34⟩,
    ⟨12288000, 96000, 1, 0x00, 0x80, 2, 32⟩,
    ⟨18432000, 96000, 1, 0x00, 0xc0, 3, 48⟩,
    ⟨12000000, 96000, 1, 0x00, 0x7d, 1, 31⟩,
    ⟨19200000, 96000, 1, 0x00, 0xc8, 3, 25⟩ ]

theorem es8316CoeffRows_keys :
    es8316CoeffRows.map (fun row => (row.mclk, row.rate)) = es8316CoeffDiv :=
  rfl

/-- The clock registers hold the columns of the row. -/
structure Es8316RowHeld (regs : Codec) (row : Es8316CoeffDiv) : Prop where
  osr : regs es8316ClkmgrAdcosr &&& 0x3f = row.osr
  adcDiv : regs es8316ClkmgrAdcdiv1 >>> 4 = row.div
  adcLrckH : regs es8316ClkmgrAdcdiv1 &&& 0x0f = row.lrckH
  adcLrckL : regs es8316ClkmgrAdcdiv2 = row.lrckL
  dacDiv : regs es8316ClkmgrDacdiv1 >>> 4 = row.div
  dacLrckH : regs es8316ClkmgrDacdiv1 &&& 0x0f = row.lrckH
  dacLrckL : regs es8316ClkmgrDacdiv2 = row.lrckL
  bclk : regs es8316SdpMsBckdiv &&& 0x1f = row.sr

/-- Both interface registers hold the word length, and the clock registers a
row for the rate on the clock as it is divided. -/
structure Es8316Set (regs : Codec) (sysclk rate : Nat) (half : Bool)
    (format : PcmFormat) : Prop where
  adcWord : codeLength ((regs es8316SdpAdcfmt).extractLsb' 2 3) =
    format.wordLength
  dacWord : codeLength ((regs es8316SdpDacfmt).extractLsb' 2 3) =
    format.wordLength
  row : ∃ row ∈ es8316CoeffRows, row.rate = rate ∧
    row.mclk = (if half then sysclk / 2 else sysclk) ∧ Es8316RowHeld regs row

/-- The bits that the parameters are about. -/
def isParamBit (reg index : Nat) : Bool :=
  (reg = es8316SdpAdcfmt ∧ 2 ≤ index ∧ index < 5) ∨
    (reg = es8316SdpDacfmt ∧ 2 ≤ index ∧ index < 5) ∨
    (reg = es8316Clksw ∧ index = mclkDiv) ∨
    (reg = es8316ClkmgrAdcosr ∧ index < 6) ∨
    (reg = es8316SdpMsBckdiv ∧ index < 5) ∨
    reg ∈ [es8316ClkmgrAdcdiv1, es8316ClkmgrAdcdiv2, es8316ClkmgrDacdiv1,
      es8316ClkmgrDacdiv2]

structure Es8316TakesEffect (chip : Es8316Chip) (rate : Nat)
    (format : PcmFormat) : Prop where
  done : (es8316PcmHwParams chip rate format).1 = 0 →
    Es8316Set (es8316PcmHwParams chip rate format).2.regs chip.sysclk rate
        ((es8316PcmHwParams chip rate format).2.regs.bit es8316Clksw mclkDiv)
        format ∧
      ∀ reg index, isParamBit reg index = false →
        (es8316PcmHwParams chip rate format).2.regs.bit reg index =
          chip.regs.bit reg index
  failed : (es8316PcmHwParams chip rate format).1 ≠ 0 →
    (es8316PcmHwParams chip rate format).2.regs = chip.regs

private theorem sdp_masked (format : PcmFormat) (value : BitVec 8) :
    ((value &&& 0xe3) ||| (bitSize format).1) &&& 0xe3 = value &&& 0xe3 := by
  cases format <;> (revert value; decide)

/-- The bit of the clock switch that halves the clock. -/
def isMclkDiv (reg index : Nat) : Bool :=
  reg = es8316Clksw ∧ index = mclkDiv

private theorem mclkdiv_bit (half : Bool) (value : BitVec 8) :
    (if half then (value &&& 0x7f) ||| 0x80 else value &&& 0x7f).getLsbD
      mclkDiv = half := by
  revert half value
  decide

/-- One bit of one register is all that a successful call changes. -/
theorem es8316PcmHwParams_spec (chip : Es8316Chip) (rate : Nat)
    (format : PcmFormat) :
    (∃ half, es8316ChooseCoeff chip.sysclk rate = some half ∧
      (es8316PcmHwParams chip rate format).1 = 0 ∧
      (∀ reg index, ¬(reg = es8316Clksw ∧ index = mclkDiv) →
        (es8316PcmHwParams chip rate format).2.regs.bit reg index =
          chip.regs.bit reg index) ∧
      (es8316PcmHwParams chip rate format).2.regs.bit es8316Clksw mclkDiv =
        half) ∨
    (es8316ChooseCoeff chip.sysclk rate = none ∧
      es8316PcmHwParams chip rate format = (einval, chip)) := by
  rw [es8316PcmHwParams]
  cases es8316ChooseCoeff chip.sysclk rate with
  | none => exact .inr ⟨rfl, rfl⟩
  | some half =>
      refine .inl ⟨half, rfl, rfl, ?_, ?_⟩
      · intro reg index other
        have mask : ∀ index < 8, (0x80 : BitVec 8).getLsbD index = true →
            isMclkDiv es8316Clksw index = true := by
          decide
        have outside : isMclkDiv reg index = false := by
          rw [isMclkDiv, decide_eq_false other]
        dsimp only
        rw [RegisterFile.updateBits_same (sdp_masked format _),
          RegisterFile.updateBits_same (sdp_masked format _),
          RegisterFile.bit_updateBits_outside isMclkDiv mask outside]
      · dsimp only
        rw [RegisterFile.bit_updateBits, if_pos ⟨rfl, by decide⟩]
        exact mclkdiv_bit half (chip.regs es8316Clksw)

/-- What is set does not depend on the clock switch register. -/
theorem es8316Set_of_same {before after : Codec} {sysclk rate : Nat}
    {half : Bool} {format : PcmFormat}
    (same : ∀ reg ≠ es8316Clksw, after reg = before reg)
    (set : Es8316Set before sysclk rate half format) :
    Es8316Set after sysclk rate half format := by
  obtain ⟨row, member, rateEq, clock, held⟩ := set.row
  have osr := same es8316ClkmgrAdcosr (by decide)
  have adcdiv1 := same es8316ClkmgrAdcdiv1 (by decide)
  have adcdiv2 := same es8316ClkmgrAdcdiv2 (by decide)
  have dacdiv1 := same es8316ClkmgrDacdiv1 (by decide)
  have dacdiv2 := same es8316ClkmgrDacdiv2 (by decide)
  have bckdiv := same es8316SdpMsBckdiv (by decide)
  refine ⟨?_, ?_, row, member, rateEq, clock, ?_⟩
  · rw [same es8316SdpAdcfmt (by decide)]
    exact set.adcWord
  · rw [same es8316SdpDacfmt (by decide)]
    exact set.dacWord
  · constructor
    · rw [osr]
      exact held.osr
    · rw [adcdiv1]
      exact held.adcDiv
    · rw [adcdiv1]
      exact held.adcLrckH
    · rw [adcdiv2]
      exact held.adcLrckL
    · rw [dacdiv1]
      exact held.dacDiv
    · rw [dacdiv1]
      exact held.dacLrckH
    · rw [dacdiv2]
      exact held.dacLrckL
    · rw [bckdiv]
      exact held.bclk

/-- The call takes effect exactly where it is refused, or where all but the
clock switch was set already. -/
theorem es8316TakesEffect_iff (chip : Es8316Chip) (rate : Nat)
    (format : PcmFormat) :
    (format.wordLength.isSome = true →
      Es8316TakesEffect chip rate format) ↔
    (format.wordLength.isSome = true →
      ∀ half, es8316ChooseCoeff chip.sysclk rate = some half →
        Es8316Set chip.regs chip.sysclk rate half format) := by
  apply imp_congr_right
  intro _
  rcases es8316PcmHwParams_spec chip rate format with
    ⟨half, chosen, ret, kept, switch⟩ | ⟨refused, unchanged⟩
  · have same : ∀ reg ≠ es8316Clksw,
        (es8316PcmHwParams chip rate format).2.regs reg = chip.regs reg := by
      intro reg other
      apply BitVec.eq_of_getLsbD_eq
      intro index _
      exact kept reg index fun target => other target.1
    constructor
    · intro effect half' chosen'
      rw [chosen] at chosen'
      cases chosen'
      obtain ⟨set, -⟩ := effect.done ret
      rw [switch] at set
      exact es8316Set_of_same (fun reg other => (same reg other).symm) set
    · intro already
      refine ⟨?_, ?_⟩
      · intro _
        rw [switch]
        refine ⟨es8316Set_of_same same (already half chosen), ?_⟩
        intro reg index outside
        apply kept
        rintro ⟨rfl, rfl⟩
        exact absurd outside (by decide)
      · intro failed
        exact absurd ret failed
  · constructor
    · intro _ half chosen
      rw [refused] at chosen
      cases chosen
    · intro _
      refine ⟨?_, ?_⟩
      · intro success
        have negative : einval ≠ 0 := by decide
        rw [unchanged] at success
        exact absurd success negative
      · intro _
        rw [unchanged]

/-- A codec whose registers are clear, on the clock of the card. -/
def sampleChip : Es8316Chip :=
  { regs := fun _ => 0
    sysclk := 11289600
    sysclkConstraints := constraints112896
    pwrCount := 1 }

theorem not_es8316TakesEffect_clear :
    ¬Es8316TakesEffect sampleChip 44100 .s16Le := by
  intro effect
  have set := (effect.done (by decide)).1
  exact absurd set.adcWord (by decide)

end KernelDrivers.Sound
