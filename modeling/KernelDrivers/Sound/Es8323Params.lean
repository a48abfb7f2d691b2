import KernelDrivers.Sound.CodecParams

/-!
# Consistent stream parameters of the ES8323

`es8323_pcm_hw_params` takes the rate from one row of the table, and the word
length from a switch that does not know every format.
-/

namespace KernelDrivers.Sound

open KernelDrivers.Library

def HasRow (mclk rate : Nat) : Prop :=
  ∃ row ∈ coeffDiv, row.mclk = mclk ∧ row.rate = rate

/-- The word length of a format that the codec has a code for. -/
def PcmFormat.wordLength : PcmFormat → Option Nat
  | .s16Le => some 16
  | .s20_3Le => some 20
  | .s24Le => some 24
  | .s32Le => some 32
  | .other => none

/-- The word length that the field of an interface register stands for. -/
def codeLength (code : BitVec 3) : Option Nat :=
  if code = 0 then some 24
  else if code = 1 then some 20
  else if code = 3 then some 16
  else if code = 4 then some 32
  else none

/-- `sr` and `usb` of the row, in a rate register. -/
structure RateHeld (value : BitVec 8) (row : CoeffDiv) : Prop where
  sr : value.extractLsb' 0 4 = row.sr
  usb : value.extractLsb' 4 1 = row.usb

/-- Both directions run at the rate, by one row, and on the word length. -/
structure ParamsProgrammed (codec : Codec) (sysclk rate : Nat)
    (format : PcmFormat) : Prop where
  row : ∃ row ∈ coeffDiv, row.rate = rate ∧
    row.mclk = (if codec.bit es8323Iface 6 then sysclk / 2 else sysclk) ∧
    RateHeld (codec es8323AdcControl5) row ∧
    RateHeld (codec es8323DacControl2) row
  word : ∃ length, format.wordLength = some length ∧
    codeLength ((codec es8323AdcIface).extractLsb' 2 3) = some length ∧
    codeLength ((codec es8323DacIface).extractLsb' 3 3) = some length

structure ParamsConsistent (chip : Es8323Chip) (codec : Codec) (rate : Nat)
    (format : PcmFormat) : Prop where
  fails : (es8323PcmHwParams chip codec rate format).1 < 0 ↔
    ¬(HasRow chip.sysclk rate ∨ HasRow (chip.sysclk / 2) rate) ∨
      format.wordLength = none
  untouched : (es8323PcmHwParams chip codec rate format).1 < 0 →
    (es8323PcmHwParams chip codec rate format).2 = codec
  programmed : 0 ≤ (es8323PcmHwParams chip codec rate format).1 →
    ParamsProgrammed (es8323PcmHwParams chip codec rate format).2 chip.sysclk
      rate format

theorem getCoeff_mem {mclk rate : Nat} {row : CoeffDiv}
    (found : getCoeff mclk rate = some row) : row ∈ coeffDiv :=
  List.mem_of_find?_eq_some found

theorem getCoeff_none_iff (mclk rate : Nat) :
    getCoeff mclk rate = none ↔ ¬HasRow mclk rate := by
  rw [getCoeff, List.find?_eq_none]
  simp only [HasRow, decide_eq_true_eq]
  constructor
  · rintro none ⟨row, member, clock, same⟩
    exact none row member ⟨same, clock⟩
  · rintro missing row member ⟨same, clock⟩
    exact missing ⟨row, member, clock, same⟩

theorem chooseCoeff_none_iff (sysclk rate : Nat) :
    chooseCoeff sysclk rate = none ↔
      ¬(HasRow sysclk rate ∨ HasRow (sysclk / 2) rate) := by
  rw [not_or, ← getCoeff_none_iff, ← getCoeff_none_iff, chooseCoeff]
  cases getCoeff sysclk rate with
  | some row => simp
  | none => simp

theorem chooseCoeff_mem {sysclk rate : Nat} {row : CoeffDiv} {half : Bool}
    (chosen : chooseCoeff sysclk rate = some (row, half)) :
    row ∈ coeffDiv := by
  rw [chooseCoeff] at chosen
  cases first : getCoeff sysclk rate with
  | some found =>
      rw [first] at chosen
      cases chosen
      exact getCoeff_mem first
  | none =>
      rw [first] at chosen
      obtain ⟨found, second, pair⟩ := Option.map_eq_some_iff.mp chosen
      cases pair
      exact getCoeff_mem second

theorem rateHeld_code (row : CoeffDiv) : RateHeld row.code row := by
  have fields : ∀ (sr : BitVec 4) (usb : BitVec 1),
      (sr.setWidth 8 ||| usb.setWidth 8 <<< 4).extractLsb' 0 4 = sr ∧
        (sr.setWidth 8 ||| usb.setWidth 8 <<< 4).extractLsb' 4 1 = usb := by
    decide
  obtain ⟨sr, usb⟩ := fields row.sr row.usb
  exact ⟨sr, usb⟩

theorem codeLength_wordCode {format : PcmFormat} {length : Nat}
    (known : format.wordLength = some length) :
    codeLength (wordCode format) = some length := by
  cases format <;> cases known <;> rfl

/-- The fields that a successful call leaves are those of one row. -/
theorem paramsProgrammed_of_fields {before after : Codec} {sysclk rate : Nat}
    {row : CoeffDiv} {half : Bool} {format : PcmFormat} {length : Nat}
    (chosen : chooseCoeff sysclk rate = some (row, half))
    (fields : ParamFields before after row half format)
    (known : format.wordLength = some length) :
    ParamsProgrammed after sysclk rate format := by
  obtain ⟨same, clock⟩ := chooseCoeff_row chosen
  refine ⟨⟨row, chooseCoeff_mem chosen, same, ?_, ?_, ?_⟩,
    ⟨length, known, ?_, ?_⟩⟩
  · rw [fields.half]
    exact clock
  · rw [fields.adcRate]
    exact rateHeld_code row
  · rw [fields.dacRate]
    exact rateHeld_code row
  · rw [fields.adcWord]
    exact codeLength_wordCode known
  · rw [fields.dacWord]
    exact codeLength_wordCode known

/-- The call is consistent unless there is a row for the rate and no code for
the format: that is a success too. -/
theorem paramsConsistent_iff (chip : Es8323Chip) (codec : Codec) (rate : Nat)
    (format : PcmFormat) :
    ParamsConsistent chip codec rate format ↔
      (HasRow chip.sysclk rate ∨ HasRow (chip.sysclk / 2) rate →
        format.wordLength.isSome = true) := by
  have refused_iff := chooseCoeff_none_iff chip.sysclk rate
  rcases es8323PcmHwParams_spec chip codec rate format with
    ⟨row, half, after, chosen, set, fields⟩ | ⟨refused, unchanged⟩
  · have present : HasRow chip.sysclk rate ∨
        HasRow (chip.sysclk / 2) rate := by
      by_contra missing
      rw [chosen] at refused_iff
      cases refused_iff.mpr missing
    constructor
    · intro consistent _
      have success : 0 ≤ (es8323PcmHwParams chip codec rate format).1 :=
        Int.le_of_eq (congrArg Prod.fst set).symm
      obtain ⟨length, known, -⟩ := (consistent.programmed success).word
      rw [known]
      rfl
    · intro condition
      obtain ⟨length, known⟩ :=
        Option.isSome_iff_exists.mp (condition present)
      have success : ¬((0, after) : Int × Codec).1 < 0 := Int.lt_irrefl 0
      refine ⟨?_, ?_, ?_⟩
      · rw [set, known]
        simp [present]
      · intro failed
        rw [set] at failed
        exact absurd failed success
      · intro _
        rw [set]
        exact paramsProgrammed_of_fields chosen fields known
  · have missing := refused_iff.mp refused
    have negative : ((einval, codec) : Int × Codec).1 < 0 :=
      (by decide : einval < 0)
    constructor
    · intro _ row
      exact absurd row missing
    · intro _
      refine ⟨?_, ?_, ?_⟩
      · rw [unchanged]
        exact ⟨fun _ => .inl missing, fun _ => negative⟩
      · intro _
        rw [unchanged]
      · intro success
        rw [unchanged] at success
        exact absurd negative (Int.not_lt.mpr success)

/-- 8-bit samples are taken for samples of 24 bits. -/
theorem not_paramsConsistent_other :
    ¬ParamsConsistent { sysclk := 11289600, sysclkConstraints := [] }
      (fun _ => 0) 44100 .other := by
  intro consistent
  obtain ⟨length, known, -⟩ := (consistent.programmed (by decide)).word
  cases known

end KernelDrivers.Sound
