import KernelDrivers.Sound.HwParams

/-!
# Agreement of codec and controller

After `rk3288_hw_params` one end is master, but the codec takes over the
format only where it is I2S.
-/

namespace KernelDrivers.Sound

open KernelDrivers.Library

inductive Format where
  | i2s
  | rightJ
  | leftJ
  | dspA
  | dspB
  deriving DecidableEq

/-- How the format fields of the codec are read.  The driver relies on one of
the codes. -/
structure CodecFormat where
  format : BitVec 2 → Option Format
  normal : format 0 = some .i2s

def requested (fmt : BitVec 32) : Option Format :=
  let format := fmt &&& daifmtFormatMask
  if format = daifmtI2s then some .i2s
  else if format = daifmtRightJ then some .rightJ
  else if format = daifmtLeftJ then some .leftJ
  else if format = daifmtDspA then some .dspA
  else if format = daifmtDspB then some .dspB
  else none

def adcField (codec : Codec) : BitVec 2 :=
  (codec es8323AdcIface).extractLsb' 0 2

def dacField (codec : Codec) : BitVec 2 :=
  (codec es8323DacIface).extractLsb' 1 2

def ibmField (regs : Controller) (reg : Nat) : BitVec 2 :=
  (regs reg).extractLsb' 9 2

/-- `I2S_TXCR_IBM_NORMAL`, `_LSJM` and `_RSJM`. -/
def ibmFormat (field : BitVec 2) : Option Format :=
  if field = 0 then some .i2s
  else if field = 1 then some .leftJ
  else if field = 2 then some .rightJ
  else none

/-- One end is master, and all four fields denote the format. -/
structure Agree (encoding : CodecFormat) (codec : Codec) (regs : Controller)
    (format : Format) : Prop where
  master : codec.bit es8323Iface 7 = true ↔ regs.bit i2sCkr 27 = true
  adc : encoding.format (adcField codec) = some format
  dac : encoding.format (dacField codec) = some format
  tx : ibmFormat (ibmField regs i2sTxcr) = some format
  rx : ibmFormat (ibmField regs i2sRxcr) = some format

/-- Where the parameters are set both ends agree on what was asked for. -/
def LinkAgrees (encoding : CodecFormat) (codec : Codec) (regs : Controller)
    (fmt : BitVec 32) (rate : Nat) : Prop :=
  ∀ codec' regs', hwParams codec regs fmt rate = some (0, codec', regs') →
    ∃ format, requested fmt = some format ∧ Agree encoding codec' regs' format

/-- The format words and rates that are not refused. -/
structure Accepted (fmt : BitVec 32) (rate : Nat) : Prop where
  master : fmt &&& daifmtMasterMask ∈ [daifmtCbmCfm, daifmtCbsCfs]
  format : (requested fmt).isSome
  inversion : fmt &&& daifmtInvMask ∈
    [daifmtNbNf, daifmtIbIf, daifmtIbNf, daifmtNbIf]
  rate : rate ∈ rates12288 ∨ rate ∈ rates11289

/-- Either the format is I2S, or it is one that the controller knows and the
codec is already set to. -/
def AlreadySet (encoding : CodecFormat) (codec : Codec) (fmt : BitVec 32) :
    Prop :=
  requested fmt = some .i2s ∨
    ((requested fmt = some .leftJ ∨ requested fmt = some .rightJ) ∧
      encoding.format (adcField codec) = requested fmt ∧
      encoding.format (dacField codec) = requested fmt)

def isMaster (fmt : BitVec 32) : Bool :=
  fmt &&& daifmtMasterMask = daifmtCbmCfm

def bitClockInverted (fmt : BitVec 32) : Bool :=
  fmt &&& daifmtInvMask ∈ [daifmtIbIf, daifmtIbNf]

def frameInverted (fmt : BitVec 32) : Bool :=
  fmt &&& daifmtInvMask ∈ [daifmtIbIf, daifmtNbIf]

/-- The format words that the codec accepts. -/
structure CodecAccepts (fmt : BitVec 32) : Prop where
  master : fmt &&& daifmtMasterMask ∈ [daifmtCbmCfm, daifmtCbsCfs]
  format : (requested fmt).isSome = true
  inversion : fmt &&& daifmtInvMask ∈
    [daifmtNbNf, daifmtIbIf, daifmtIbNf, daifmtNbIf]

theorem setMaster_spec (fmt : BitVec 32) (bits : Iface) :
    (fmt &&& daifmtMasterMask ∈ [daifmtCbmCfm, daifmtCbsCfs] ∧
      setMaster fmt bits = some { bits with
        iface := if isMaster fmt then bits.iface ||| 0x80
          else bits.iface &&& 0x7f }) ∨
    (fmt &&& daifmtMasterMask ∉ [daifmtCbmCfm, daifmtCbsCfs] ∧
      setMaster fmt bits = none) := by
  unfold setMaster isMaster
  dsimp only
  generalize fmt &&& daifmtMasterMask = master
  by_cases known : master ∈ [daifmtCbmCfm, daifmtCbsCfs]
  · left
    refine ⟨known, ?_⟩
    simp only [List.mem_cons, List.not_mem_nil, or_false] at known
    rcases known with rfl | rfl <;> rfl
  · right
    refine ⟨known, ?_⟩
    simp only [List.mem_cons, List.not_mem_nil, or_false, not_or] at known
    rw [if_neg known.1, if_neg known.2]

theorem setFormat_spec (fmt : BitVec 32) (bits : Iface) :
    ((requested fmt).isSome = true ∧
      setFormat fmt bits = some (if requested fmt = some .i2s then { bits with
        adciface := bits.adciface &&& 0xfc
        daciface := bits.daciface &&& 0xf9 } else bits)) ∨
    (¬(requested fmt).isSome = true ∧ setFormat fmt bits = none) := by
  unfold setFormat requested
  dsimp only
  split
  · exact .inl ⟨rfl, rfl⟩
  · split
    · exact .inl ⟨rfl, rfl⟩
    · split
      · exact .inl ⟨rfl, rfl⟩
      · split
        · exact .inl ⟨rfl, rfl⟩
        · split
          · exact .inl ⟨rfl, rfl⟩
          · exact .inr ⟨Bool.false_ne_true, rfl⟩

theorem setInversion_spec (fmt : BitVec 32) (bits : Iface) :
    (fmt &&& daifmtInvMask ∈
        [daifmtNbNf, daifmtIbIf, daifmtIbNf, daifmtNbIf] ∧
      setInversion fmt bits = some
        { iface := if bitClockInverted fmt then bits.iface ||| 0x20
            else bits.iface &&& 0xdf
          adciface := if frameInverted fmt then bits.adciface ||| 0x20
            else bits.adciface &&& 0xdf
          daciface := if frameInverted fmt then bits.daciface ||| 0x40
            else bits.daciface &&& 0xbf }) ∨
    (fmt &&& daifmtInvMask ∉
        [daifmtNbNf, daifmtIbIf, daifmtIbNf, daifmtNbIf] ∧
      setInversion fmt bits = none) := by
  unfold setInversion bitClockInverted frameInverted
  dsimp only
  generalize fmt &&& daifmtInvMask = inv
  by_cases known : inv ∈ [daifmtNbNf, daifmtIbIf, daifmtIbNf, daifmtNbIf]
  · left
    refine ⟨known, ?_⟩
    simp only [List.mem_cons, List.not_mem_nil, or_false] at known
    rcases known with rfl | rfl | rfl | rfl <;> rfl
  · right
    refine ⟨known, ?_⟩
    simp only [List.mem_cons, List.not_mem_nil, or_false, not_or] at known
    rw [if_neg known.1, if_neg known.2.1, if_neg known.2.2.1,
      if_neg known.2.2.2]

/-- What an accepted word leaves of the three registers. -/
def Iface.set (fmt : BitVec 32) (bits : Iface) : Iface :=
  let iface := if isMaster fmt then bits.iface ||| 0x80 else bits.iface &&& 0x7f
  let adciface := if requested fmt = some .i2s then bits.adciface &&& 0xfc
    else bits.adciface
  let daciface := if requested fmt = some .i2s then bits.daciface &&& 0xf9
    else bits.daciface
  { iface := if bitClockInverted fmt then iface ||| 0x20 else iface &&& 0xdf
    adciface := if frameInverted fmt then adciface ||| 0x20
      else adciface &&& 0xdf
    daciface := if frameInverted fmt then daciface ||| 0x40
      else daciface &&& 0xbf }

def ifaceOf (codec : Codec) : Iface :=
  { iface := codec es8323Iface
    adciface := codec es8323AdcIface
    daciface := codec es8323DacIface }

/-- `es8323_set_dai_fmt` sets all three registers or none. -/
theorem es8323SetDaiFmt_spec (codec : Codec) (fmt : BitVec 32) :
    (CodecAccepts fmt ∧ ∃ set, es8323SetDaiFmt codec fmt = (0, set) ∧
      ifaceOf set = (ifaceOf codec).set fmt ∧
      ∀ reg ∉ [es8323Iface, es8323AdcIface, es8323DacIface],
        set reg = codec reg) ∨
    (¬CodecAccepts fmt ∧ es8323SetDaiFmt codec fmt = (einval, codec)) := by
  rw [es8323SetDaiFmt]
  dsimp only
  rcases setMaster_spec fmt (ifaceOf codec) with ⟨master, set⟩ | ⟨unknown, none⟩
  · rw [ifaceOf] at set
    rw [set, Option.bind_some]
    generalize first : Iface.mk _ _ _ = bits
    rcases setFormat_spec fmt bits with ⟨format, set⟩ | ⟨unknown, none⟩
    · rw [set, Option.bind_some]
      generalize second :
        (if requested fmt = some .i2s then _ else bits : Iface) = bits
      rcases setInversion_spec fmt bits with
        ⟨inversion, set⟩ | ⟨unknown, none⟩
      · rw [set]
        refine .inl ⟨⟨master, format, inversion⟩, _, rfl, ?_, ?_⟩
        · rw [← second, ← first]
          by_cases normal : requested fmt = some .i2s
          · simp only [Iface.set, if_pos normal]
            rfl
          · simp only [Iface.set, if_neg normal]
            rfl
        · intro reg other
          simp only [List.mem_cons, List.not_mem_nil, or_false, not_or] at other
          rw [RegisterFile.write_other other.2.2,
            RegisterFile.write_other other.2.1, RegisterFile.write_other other.1]
      · exact .inr ⟨fun accepts => unknown accepts.inversion, by rw [none]⟩
    · exact .inr ⟨fun accepts => unknown accepts.format, by
        rw [none, Option.bind_none]⟩
  · rw [ifaceOf] at none
    exact .inr ⟨fun accepts => unknown accepts.master, by
      rw [none, Option.bind_none, Option.bind_none]⟩

private theorem iface_bits (master inverted : Bool) (value : BitVec 8) :
    let iface := if master then value ||| 0x80 else value &&& 0x7f
    let iface := if inverted then iface ||| 0x20 else iface &&& 0xdf
    iface.getLsbD 7 = master ∧ iface.getLsbD 5 = inverted ∧
      iface.getLsbD 6 = value.getLsbD 6 := by
  revert master inverted value
  decide

private theorem adciface_bits (normal inverted : Bool) (value : BitVec 8) :
    let iface := if normal then value &&& 0xfc else value
    let iface := if inverted then iface ||| 0x20 else iface &&& 0xdf
    iface.extractLsb' 0 2 = (if normal then 0 else value.extractLsb' 0 2) ∧
      iface.getLsbD 5 = inverted ∧
      iface.extractLsb' 2 3 = value.extractLsb' 2 3 := by
  revert normal inverted value
  decide

private theorem daciface_bits (normal inverted : Bool) (value : BitVec 8) :
    let iface := if normal then value &&& 0xf9 else value
    let iface := if inverted then iface ||| 0x40 else iface &&& 0xbf
    iface.extractLsb' 1 2 = (if normal then 0 else value.extractLsb' 1 2) ∧
      iface.getLsbD 6 = inverted ∧
      iface.extractLsb' 3 3 = value.extractLsb' 3 3 := by
  revert normal inverted value
  decide

/-- The fields that a format word is about, and those that it is not about. -/
structure FormatFields (before after : Codec) (fmt : BitVec 32) : Prop where
  master : after.bit es8323Iface 7 = isMaster fmt
  bitClock : after.bit es8323Iface 5 = bitClockInverted fmt
  half : after.bit es8323Iface 6 = before.bit es8323Iface 6
  adc : adcField after =
    if requested fmt = some .i2s then 0 else adcField before
  adcFrame : after.bit es8323AdcIface 5 = frameInverted fmt
  adcWord : (after es8323AdcIface).extractLsb' 2 3 =
    (before es8323AdcIface).extractLsb' 2 3
  dac : dacField after =
    if requested fmt = some .i2s then 0 else dacField before
  dacFrame : after.bit es8323DacIface 6 = frameInverted fmt
  dacWord : (after es8323DacIface).extractLsb' 3 3 =
    (before es8323DacIface).extractLsb' 3 3

theorem formatFields_of_set {before after : Codec} {fmt : BitVec 32}
    (set : ifaceOf after = (ifaceOf before).set fmt) :
    FormatFields before after fmt := by
  obtain ⟨master, bitClock, half⟩ :=
    iface_bits (isMaster fmt) (bitClockInverted fmt) (before es8323Iface)
  obtain ⟨adc, adcFrame, adcWord⟩ :=
    adciface_bits (decide (requested fmt = some .i2s)) (frameInverted fmt)
      (before es8323AdcIface)
  obtain ⟨dac, dacFrame, dacWord⟩ :=
    daciface_bits (decide (requested fmt = some .i2s)) (frameInverted fmt)
      (before es8323DacIface)
  simp only [decide_eq_true_eq] at adc adcFrame adcWord dac dacFrame dacWord
  obtain ⟨iface, adciface, daciface⟩ := Iface.mk.inj set
  refine ⟨?_, ?_, ?_, ?_, ?_, ?_, ?_, ?_, ?_⟩
  · rw [RegisterFile.bit, iface]
    exact master
  · rw [RegisterFile.bit, iface]
    exact bitClock
  · rw [RegisterFile.bit, iface]
    exact half
  · rw [adcField, adciface]
    exact adc
  · rw [RegisterFile.bit, adciface]
    exact adcFrame
  · rw [adciface]
    exact adcWord
  · rw [dacField, daciface]
    exact dac
  · rw [RegisterFile.bit, daciface]
    exact dacFrame
  · rw [daciface]
    exact dacWord

private theorem extract_ibm (value : BitVec 32) :
    (value &&& i2sIbmMask).extractLsb' 9 2 = value.extractLsb' 9 2 := by
  have mask : ∀ index, index < 2 → i2sIbmMask.getLsbD (9 + index) = true := by
    decide
  apply BitVec.eq_of_getLsbD_eq
  intro index inside
  rw [BitVec.getLsbD_extractLsb', BitVec.getLsbD_extractLsb',
    BitVec.getLsbD_and, mask index inside, Bool.and_true]

/-- The format that the controller's field denotes afterwards, from the code
that was written if there was one. -/
theorem ibmField_congr {regs regs' : Controller} {reg : Nat}
    (same : regs reg &&& i2sIbmMask = regs' reg &&& i2sIbmMask) :
    ibmField regs reg = ibmField regs' reg := by
  rw [ibmField, ← extract_ibm, same, extract_ibm, ibmField]

theorem ibmField_updateBits (regs : Controller) (reg : Nat)
    (value : BitVec 32) :
    ibmField (regs.updateBits reg i2sIbmMask value) reg =
      value.extractLsb' 9 2 := by
  rw [ibmField, ← extract_ibm, RegisterFile.field_updateBits, extract_ibm]

theorem ibmField_other (regs : Controller) {reg other : Nat}
    (different : reg ≠ other) (mask value : BitVec 32) :
    ibmField (regs.updateBits other mask value) reg = ibmField regs reg := by
  rw [ibmField, RegisterFile.updateBits_other different, ibmField]

/-- The formats that the controller has a code for. -/
def Format.hasIbm : Format → Bool
  | .i2s | .leftJ | .rightJ => true
  | .dspA | .dspB => false

theorem ibmFormat_hasIbm {field : BitVec 2} {format : Format}
    (denotes : ibmFormat field = some format) : format.hasIbm = true := by
  revert denotes
  unfold ibmFormat
  split
  · rintro ⟨⟩
    rfl
  · split
    · rintro ⟨⟩
      rfl
    · split
      · rintro ⟨⟩
        rfl
      · rintro ⟨⟩

/-- The format bits that ask for a format. -/
def Format.word : Format → BitVec 32
  | .i2s => daifmtI2s
  | .rightJ => daifmtRightJ
  | .leftJ => daifmtLeftJ
  | .dspA => daifmtDspA
  | .dspB => daifmtDspB

theorem requested_word {fmt : BitVec 32} {format : Format}
    (asked : requested fmt = some format) :
    fmt &&& daifmtFormatMask = format.word := by
  unfold requested at asked
  grind [Format.word]

theorem ibmValue_spec {fmt : BitVec 32} {format : Format}
    (asked : requested fmt = some format) :
    (format.hasIbm = true ∧ ∃ value, ibmValue fmt = some value ∧
      ibmFormat (value.extractLsb' 9 2) = some format) ∨
    (format.hasIbm = false ∧ ibmValue fmt = none) := by
  rw [ibmValue, requested_word asked]
  cases format with
  | i2s => exact .inl ⟨rfl, _, rfl, by decide⟩
  | leftJ => exact .inl ⟨rfl, _, rfl, by decide⟩
  | rightJ => exact .inl ⟨rfl, _, rfl, by decide⟩
  | dspA => exact .inr ⟨rfl, rfl⟩
  | dspB => exact .inr ⟨rfl, rfl⟩

theorem mssValue_spec {fmt : BitVec 32}
    (master : fmt &&& daifmtMasterMask ∈ [daifmtCbmCfm, daifmtCbsCfs]) :
    ∃ value, mssValue fmt = some value ∧ value.getLsbD 27 =
      decide (fmt &&& daifmtMasterMask = daifmtCbmCfm) := by
  revert master
  unfold mssValue
  dsimp only
  generalize fmt &&& daifmtMasterMask = word
  intro master
  simp only [List.mem_cons, List.not_mem_nil, or_false] at master
  rcases master with rfl | rfl
  · exact ⟨_, rfl, by decide⟩
  · exact ⟨_, rfl, by decide⟩

/-- What `rockchip_i2s_set_fmt` does with a word that the codec accepted. -/
theorem rockchipI2sSetFmt_spec (regs : Controller) {fmt : BitVec 32}
    {format : Format} (asked : requested fmt = some format)
    (master : fmt &&& daifmtMasterMask ∈ [daifmtCbmCfm, daifmtCbsCfs]) :
    ∃ set, rockchipI2sSetFmt regs fmt = (0, set) ∧
      set.bit i2sCkr 27 =
        decide (fmt &&& daifmtMasterMask = daifmtCbmCfm) ∧
      (format.hasIbm = true →
        ibmFormat (ibmField set i2sTxcr) = some format ∧
          ibmFormat (ibmField set i2sRxcr) = some format) := by
  obtain ⟨mss, mssSet, bit⟩ := mssValue_spec master
  have slave : (regs.updateBits i2sCkr i2sCkrMssMask mss).bit i2sCkr 27 =
      decide (fmt &&& daifmtMasterMask = daifmtCbmCfm) := by
    rw [RegisterFile.bit_updateBits, if_pos ⟨rfl, by decide⟩, bit]
  rw [rockchipI2sSetFmt, mssSet]
  rcases ibmValue_spec asked with
    ⟨known, ibm, ibmSet, denotes⟩ | ⟨unknown, noIbm⟩
  · rw [ibmSet]
    refine ⟨_, rfl, ?_, ?_⟩
    · rw [RegisterFile.bit_updateBits, if_neg (by decide),
        RegisterFile.bit_updateBits, if_neg (by decide), slave]
    · intro _
      constructor
      · rw [ibmField_other _ (by decide), ibmField_updateBits, denotes]
      · rw [ibmField_updateBits, denotes]
  · rw [noIbm]
    refine ⟨_, rfl, slave, ?_⟩
    intro known
    rw [unknown] at known
    cases known

theorem rockchipI2sSetFmt_ret (regs : Controller) (fmt : BitVec 32) :
    (rockchipI2sSetFmt regs fmt).1 = 0 := by
  unfold rockchipI2sSetFmt
  split
  · rfl
  · dsimp only
    split <;> rfl

theorem rockchipI2sSetClkdiv_kept (regs : Controller) (divId : Int)
    (div : BitVec 32) :
    (rockchipI2sSetClkdiv regs divId div).2.bit i2sCkr 27 =
        regs.bit i2sCkr 27 ∧
      ∀ reg ≠ i2sCkr, (rockchipI2sSetClkdiv regs divId div).2 reg =
        regs reg := by
  unfold rockchipI2sSetClkdiv
  split
  · refine ⟨?_, ?_⟩
    · rw [RegisterFile.bit_updateBits, if_neg (by decide)]
    · intro reg other
      exact RegisterFile.updateBits_other other
  · split
    · refine ⟨?_, ?_⟩
      · rw [RegisterFile.bit_updateBits, if_neg (by decide)]
      · intro reg other
        exact RegisterFile.updateBits_other other
    · exact ⟨rfl, fun _ _ => rfl⟩

theorem pllOut_iff (rate : Nat) :
    (pllOut rate).2 = 0 ↔ rate ∈ rates12288 ∨ rate ∈ rates11289 := by
  unfold pllOut
  split
  · rename_i member
    simp [member]
  · rename_i other
    split
    · rename_i member
      simp [member]
    · rename_i neither
      simp [other, neither]

/-- What the machine driver does to the controller after the format is set. -/
def setClocks (regs : Controller) (fmt : BitVec 32) (rate : Nat) :
    Controller :=
  if fmt &&& daifmtMasterMask = daifmtCbsCfs then
    let div := BitVec.ofInt 32 ((((pllOut rate).1 / 4 / rate : Nat) : Int) - 1)
    let regs := (rockchipI2sSetClkdiv regs rockchipDivBclk div).2
    (rockchipI2sSetClkdiv regs rockchipDivMclk 3).2
  else regs

theorem setClocks_kept (regs : Controller) (fmt : BitVec 32) (rate : Nat) :
    (setClocks regs fmt rate).bit i2sCkr 27 = regs.bit i2sCkr 27 ∧
      ∀ reg ≠ i2sCkr, setClocks regs fmt rate reg = regs reg := by
  unfold setClocks
  split
  · dsimp only
    constructor
    · rw [(rockchipI2sSetClkdiv_kept _ _ _).1,
        (rockchipI2sSetClkdiv_kept _ _ _).1]
    · intro reg other
      rw [(rockchipI2sSetClkdiv_kept _ _ _).2 reg other,
        (rockchipI2sSetClkdiv_kept _ _ _).2 reg other]
  · exact ⟨rfl, fun _ _ => rfl⟩

theorem hwParams_eq (codec : Codec) (regs : Controller) (fmt : BitVec 32)
    (rate : Nat) :
    hwParams codec regs fmt rate =
      if (es8323SetDaiFmt codec fmt).1 < 0 then
        some ((es8323SetDaiFmt codec fmt).1, (es8323SetDaiFmt codec fmt).2,
          regs)
      else if rate = 0 then none
      else some ((pllOut rate).2, (es8323SetDaiFmt codec fmt).2,
        setClocks (rockchipI2sSetFmt regs fmt).2 fmt rate) := by
  rw [hwParams]
  simp only [rockchipI2sSetFmt_ret, Int.lt_irrefl, if_false]
  rfl

/-- The parameters are set exactly for the accepted words and rates. -/
theorem hwParams_accepted {fmt : BitVec 32} {rate : Nat}
    (accepted : Accepted fmt rate) (codec : Codec) (regs : Controller) :
    ∃ codec' regs' format, hwParams codec regs fmt rate =
        some (0, codec', regs') ∧
      requested fmt = some format ∧
      (codec'.bit es8323Iface 7 = true ↔ regs'.bit i2sCkr 27 = true) ∧
      adcField codec' = (if format = .i2s then 0 else adcField codec) ∧
      dacField codec' = (if format = .i2s then 0 else dacField codec) ∧
      (format.hasIbm = true →
        ibmFormat (ibmField regs' i2sTxcr) = some format ∧
          ibmFormat (ibmField regs' i2sRxcr) = some format) := by
  obtain ⟨format, asked⟩ := Option.isSome_iff_exists.mp accepted.format
  have accepts : CodecAccepts fmt :=
    ⟨accepted.master, accepted.format, accepted.inversion⟩
  rcases es8323SetDaiFmt_spec codec fmt with
    ⟨-, codec', codecSet, set, -⟩ | ⟨refuses, -⟩
  · obtain ⟨master, -, -, adc, -, -, dac, -, -⟩ := formatFields_of_set set
    obtain ⟨set, cpuSet, slave, fields⟩ :=
      rockchipI2sSetFmt_spec regs asked accepted.master
    obtain ⟨clockBit, clockOther⟩ := setClocks_kept set fmt rate
    have positive : rate ≠ 0 := by
      rintro rfl
      exact absurd accepted.rate (by decide)
    have field : ∀ reg ≠ i2sCkr,
        ibmField (setClocks set fmt rate) reg = ibmField set reg := by
      intro reg other
      rw [ibmField, clockOther reg other, ibmField]
    refine ⟨codec', setClocks set fmt rate, format, ?_, asked, ?_, ?_, ?_, ?_⟩
    · rw [hwParams_eq, codecSet, cpuSet, (pllOut_iff rate).mpr accepted.rate]
      simp only
      rw [if_neg (by decide), if_neg positive]
    · rw [clockBit, master, slave, isMaster]
    · rw [adc, asked]
      simp
    · rw [dac, asked]
      simp
    · intro known
      rw [field _ (by decide), field _ (by decide)]
      exact fields known
  · exact absurd accepts refuses

theorem accepted_of_hwParams {codec codec' : Codec} {regs regs' : Controller}
    {fmt : BitVec 32} {rate : Nat}
    (set : hwParams codec regs fmt rate = some (0, codec', regs')) :
    Accepted fmt rate := by
  rw [hwParams_eq] at set
  rcases es8323SetDaiFmt_spec codec fmt with
    ⟨accepts, codec', codecSet, -⟩ | ⟨-, refused⟩
  · have done : ¬((0, codec') : Int × Codec).1 < 0 := Int.lt_irrefl 0
    rw [codecSet, if_neg done] at set
    simp only [Option.ite_none_left_eq_some, Option.some.injEq,
      Prod.mk.injEq] at set
    exact ⟨accepts.master, accepts.format, accepts.inversion,
      (pllOut_iff rate).mp set.2.1⟩
  · have negative : ((einval, codec) : Int × Codec).1 < 0 :=
      (by decide : einval < 0)
    rw [refused, if_pos negative] at set
    cases set

/-- The ends agree exactly where the request is refused, or is for I2S, or is
for a format that the codec was already set to. -/
theorem linkAgrees_iff (encoding : CodecFormat) (codec : Codec)
    (regs : Controller) (fmt : BitVec 32) (rate : Nat) :
    LinkAgrees encoding codec regs fmt rate ↔
      (Accepted fmt rate → AlreadySet encoding codec fmt) := by
  constructor
  · intro agrees accepted
    obtain ⟨codec', regs', format, set, asked, master, adc, dac, fields⟩ :=
      hwParams_accepted accepted codec regs
    obtain ⟨format', asked', agree⟩ := agrees codec' regs' set
    have same := Option.some.inj (asked.symm.trans asked')
    subst same
    have known := ibmFormat_hasIbm agree.tx
    have adcAgrees := agree.adc
    have dacAgrees := agree.dac
    rw [adc] at adcAgrees
    rw [dac] at dacAgrees
    rw [AlreadySet, asked]
    cases format with
    | i2s => exact .inl rfl
    | leftJ => exact .inr ⟨.inl rfl, adcAgrees, dacAgrees⟩
    | rightJ => exact .inr ⟨.inr rfl, adcAgrees, dacAgrees⟩
    | dspA => cases known
    | dspB => cases known
  · intro already codec' regs' set
    have accepted := accepted_of_hwParams set
    obtain ⟨codec'', regs'', format, set', asked, master, adc, dac, fields⟩ :=
      hwParams_accepted accepted codec regs
    rw [set'] at set
    cases set
    refine ⟨format, asked, ?_⟩
    have condition := already accepted
    rw [AlreadySet, asked] at condition
    rcases condition with normal | ⟨justified, adcSet, dacSet⟩
    · cases normal
      obtain ⟨tx, rx⟩ := fields rfl
      refine ⟨master, ?_, ?_, tx, rx⟩
      · rw [adc]
        exact encoding.normal
      · rw [dac]
        exact encoding.normal
    · have known : format.hasIbm = true ∧ format ≠ .i2s := by
        rcases justified with same | same <;> cases same <;> decide
      obtain ⟨tx, rx⟩ := fields known.1
      refine ⟨master, ?_, ?_, tx, rx⟩
      · rw [adc, if_neg known.2]
        exact adcSet
      · rw [dac, if_neg known.2]
        exact dacSet

/-- Code 1 is left justified and code 2 right justified. -/
def sampleEncoding : CodecFormat where
  format field := ibmFormat field
  normal := rfl

/-- A left justified link leaves the codec on I2S. -/
theorem not_linkAgrees_leftJ :
    ¬LinkAgrees sampleEncoding (fun _ => 0) (fun _ => 0)
      (daifmtLeftJ ||| daifmtNbNf ||| daifmtCbsCfs) 48000 := by
  intro agrees
  have accepted : Accepted (daifmtLeftJ ||| daifmtNbNf ||| daifmtCbsCfs)
      48000 :=
    ⟨by decide, by decide, by decide, by decide⟩
  obtain ⟨codec', regs', format, set, asked, -, adc, -, -⟩ :=
    hwParams_accepted accepted (fun _ => 0) (fun _ => 0)
  obtain ⟨format', asked', agree⟩ := agrees codec' regs' set
  have leftJ : requested (daifmtLeftJ ||| daifmtNbNf ||| daifmtCbsCfs) =
      some .leftJ := by
    decide
  rw [leftJ] at asked asked'
  cases asked
  cases asked'
  have denotes := agree.adc
  rw [adc] at denotes
  revert denotes
  decide

end KernelDrivers.Sound
