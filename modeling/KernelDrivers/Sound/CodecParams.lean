import KernelDrivers.Sound.Agreement

/-!
# The codec's part of the stream parameters

`es8323_set_dai_sysclk` and `es8323_pcm_hw_params`: the codec derives its
sample rate from the clock that it was told about.
-/

namespace KernelDrivers.Sound

open KernelDrivers.Library

abbrev es8323AdcControl5 : Nat := 0x0d
abbrev es8323DacControl2 : Nat := 0x18

def constraints12288 : List Nat :=
  [8000, 12000, 16000, 24000, 24000, 32000, 48000, 96000]

def constraints112896 : List Nat := [8000, 11025, 22050, 44100]

def constraints12 : List Nat :=
  [8000, 11025, 12000, 16000, 22050, 24000, 32000, 44100, 48000, 48000, 88235,
   96000]

/-- The fields of `es8323_chip` that are about the clock. -/
structure Es8323Chip where
  sysclk : Nat
  sysclkConstraints : List Nat
  deriving DecidableEq

/-- `es8323_set_dai_sysclk`: a frequency that is not listed changes nothing,
and every path returns 0. -/
def es8323SetDaiSysclk (chip : Es8323Chip) (freq : Nat) : Int × Es8323Chip :=
  if freq ∈ [11289600, 18432000, 22579200, 36864000] then
    (0, { sysclk := freq, sysclkConstraints := constraints112896 })
  else if freq ∈ [12288000, 16934400, 24576000, 33868800] then
    (0, { sysclk := freq, sysclkConstraints := constraints12288 })
  else if freq ∈ [12000000, 24000000] then
    (0, { sysclk := freq, sysclkConstraints := constraints12 })
  else (0, chip)

structure CoeffDiv where
  mclk : Nat
  rate : Nat
  fs : Nat
  sr : BitVec 4
  usb : BitVec 1
  deriving DecidableEq

def coeffDiv : List CoeffDiv :=
  [ ⟨12288000, 8000, 1536, 0xa, 0x0⟩,
    ⟨11289600, 8000, 1408, 0x9, 0x0⟩,
    ⟨18432000, 8000, 2304, 0xc, 0x0⟩,
    ⟨16934400, 8000, 2112, 0xb, 0x0⟩,
    ⟨12000000, 8000, 1500, 0xb, 0x1⟩,
    ⟨11289600, 11025, 1024, 0x7, 0x0⟩,
    ⟨16934400, 11025, 1536, 0xa, 0x0⟩,
    ⟨12000000, 11025, 1088, 0x9, 0x1⟩,
    ⟨12288000, 16000, 768, 0x6, 0x0⟩,
    ⟨18432000, 16000, 1152, 0x8, 0x0⟩,
    ⟨12000000, 16000, 750, 0x7, 0x1⟩,
    ⟨11289600, 22050, 512, 0x4, 0x0⟩,
    ⟨16934400, 22050, 768, 0x6, 0x0⟩,
    ⟨12000000, 22050, 544, 0x6, 0x1⟩,
    ⟨12288000, 32000, 384, 0x3, 0x0⟩,
    ⟨18432000, 32000, 576, 0x5, 0x0⟩,
    ⟨12000000, 32000, 375, 0x4, 0x1⟩,
    ⟨11289600, 44100, 256, 0x2, 0x0⟩,
    ⟨16934400, 44100, 384, 0x3, 0x0⟩,
    ⟨12000000, 44100, 272, 0x3, 0x1⟩,
    ⟨12288000, 48000, 256, 0x2, 0x0⟩,
    ⟨18432000, 48000, 384, 0x3, 0x0⟩,
    ⟨12000000, 48000, 250, 0x2, 0x1⟩,
    ⟨11289600, 88200, 128, 0x0, 0x0⟩,
    ⟨16934400, 88200, 192, 0x1, 0x0⟩,
    ⟨12000000, 88200, 136, 0x1, 0x1⟩,
    ⟨12288000, 96000, 128, 0x0, 0x0⟩,
    ⟨18432000, 96000, 192, 0x1, 0x0⟩,
    ⟨12000000, 96000, 125, 0x0, 0x1⟩ ]

/-- `get_coeff`: the first row that fits, in place of its index. -/
def getCoeff (mclk rate : Nat) : Option CoeffDiv :=
  coeffDiv.find? fun row => row.rate = rate ∧ row.mclk = mclk

/-- `sr | usb << 4`. -/
def CoeffDiv.code (row : CoeffDiv) : BitVec 8 :=
  row.sr.setWidth 8 ||| row.usb.setWidth 8 <<< 4

/-- The row that `es8323_pcm_hw_params` settles on, and whether it halves the
master clock for it. -/
def chooseCoeff (sysclk rate : Nat) : Option (CoeffDiv × Bool) :=
  match getCoeff sysclk rate with
  | some row => some (row, false)
  | none => (getCoeff (sysclk / 2) rate).map fun row => (row, true)

/-- `snd_pcm_format_t`; the switch over it has no default. -/
inductive PcmFormat where
  | s16Le
  | s20_3Le
  | s24Le
  | s32Le
  | other
  deriving DecidableEq

/-- What the switch ORs into `adciface` and `daciface`. -/
def bitSize : PcmFormat → BitVec 8 × BitVec 8
  | .s16Le => (0x0c, 0x18)
  | .s20_3Le => (0x04, 0x08)
  | .s24Le => (0x00, 0x00)
  | .s32Le => (0x10, 0x20)
  | .other => (0x00, 0x00)

def es8323PcmHwParams (chip : Es8323Chip) (codec : Codec) (rate : Nat)
    (format : PcmFormat) : Int × Codec :=
  let srate := codec es8323Iface &&& 0x80
  let adciface := codec es8323AdcIface &&& 0xe3
  let daciface := codec es8323DacIface &&& 0xc7
  match chooseCoeff chip.sysclk rate with
  | none => (einval, codec)
  | some (row, half) =>
      let srate := if half then srate ||| 0x40 else srate
      let adciface := adciface ||| (bitSize format).1
      let daciface := daciface ||| (bitSize format).2
      let codec := codec.write es8323DacIface daciface
      let codec := codec.write es8323AdcIface adciface
      let codec := codec.write es8323Iface srate
      let codec := codec.write es8323AdcControl5 row.code
      (0, codec.write es8323DacControl2 row.code)

theorem getCoeff_row {mclk rate : Nat} {row : CoeffDiv}
    (found : getCoeff mclk rate = some row) :
    row.mclk = mclk ∧ row.rate = rate := by
  have fits := List.find?_some found
  simp only [decide_eq_true_eq] at fits
  exact ⟨fits.2, fits.1⟩

theorem chooseCoeff_row {sysclk rate : Nat} {row : CoeffDiv} {half : Bool}
    (chosen : chooseCoeff sysclk rate = some (row, half)) :
    row.rate = rate ∧ row.mclk = if half then sysclk / 2 else sysclk := by
  rw [chooseCoeff] at chosen
  cases first : getCoeff sysclk rate with
  | some found =>
      rw [first] at chosen
      cases chosen
      obtain ⟨clock, same⟩ := getCoeff_row first
      exact ⟨same, clock⟩
  | none =>
      rw [first] at chosen
      obtain ⟨found, second, pair⟩ := Option.map_eq_some_iff.mp chosen
      cases pair
      obtain ⟨clock, same⟩ := getCoeff_row second
      exact ⟨same, clock⟩

/-- The code of the word length in either interface register. -/
def wordCode : PcmFormat → BitVec 3
  | .s16Le => 3
  | .s20_3Le => 1
  | .s24Le => 0
  | .s32Le => 4
  | .other => 0

private theorem srate_bits (half : Bool) (value : BitVec 8) :
    let srate := value &&& 0x80
    let srate := if half then srate ||| 0x40 else srate
    srate.getLsbD 7 = value.getLsbD 7 ∧ srate.getLsbD 6 = half ∧
      srate.getLsbD 5 = false := by
  revert half value
  decide

private theorem adc_bits (format : PcmFormat) (value : BitVec 8) :
    let iface := (value &&& 0xe3) ||| (bitSize format).1
    iface.extractLsb' 0 2 = value.extractLsb' 0 2 ∧
      iface.getLsbD 5 = value.getLsbD 5 ∧
      iface.extractLsb' 2 3 = wordCode format := by
  cases format <;> (revert value; decide)

private theorem dac_bits (format : PcmFormat) (value : BitVec 8) :
    let iface := (value &&& 0xc7) ||| (bitSize format).2
    iface.extractLsb' 1 2 = value.extractLsb' 1 2 ∧
      iface.getLsbD 6 = value.getLsbD 6 ∧
      iface.extractLsb' 3 3 = wordCode format := by
  cases format <;> (revert value; decide)

/-- The fields that the parameters are about, and those that they are not
about.  The inversion of the bit clock is lost. -/
structure ParamFields (before after : Codec) (row : CoeffDiv) (half : Bool)
    (format : PcmFormat) : Prop where
  master : after.bit es8323Iface 7 = before.bit es8323Iface 7
  bitClock : after.bit es8323Iface 5 = false
  half : after.bit es8323Iface 6 = half
  adc : adcField after = adcField before
  adcFrame : after.bit es8323AdcIface 5 = before.bit es8323AdcIface 5
  adcWord : (after es8323AdcIface).extractLsb' 2 3 = wordCode format
  dac : dacField after = dacField before
  dacFrame : after.bit es8323DacIface 6 = before.bit es8323DacIface 6
  dacWord : (after es8323DacIface).extractLsb' 3 3 = wordCode format
  adcRate : after es8323AdcControl5 = row.code
  dacRate : after es8323DacControl2 = row.code

theorem es8323PcmHwParams_spec (chip : Es8323Chip) (codec : Codec) (rate : Nat)
    (format : PcmFormat) :
    (∃ row half after, chooseCoeff chip.sysclk rate = some (row, half) ∧
      es8323PcmHwParams chip codec rate format = (0, after) ∧
      ParamFields codec after row half format) ∨
    (chooseCoeff chip.sysclk rate = none ∧
      es8323PcmHwParams chip codec rate format = (einval, codec)) := by
  rw [es8323PcmHwParams]
  cases chosen : chooseCoeff chip.sysclk rate with
  | none => exact .inr ⟨rfl, rfl⟩
  | some pair =>
      obtain ⟨row, half⟩ := pair
      obtain ⟨master, halved, bitClock⟩ := srate_bits half (codec es8323Iface)
      obtain ⟨adc, adcFrame, adcWord⟩ := adc_bits format (codec es8323AdcIface)
      obtain ⟨dac, dacFrame, dacWord⟩ := dac_bits format (codec es8323DacIface)
      exact .inl ⟨row, half, _, rfl, rfl, master, bitClock, halved, adc,
        adcFrame, adcWord, dac, dacFrame, dacWord, rfl, rfl⟩

end KernelDrivers.Sound
