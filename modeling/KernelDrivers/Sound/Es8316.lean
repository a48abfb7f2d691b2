import KernelDrivers.Sound.CodecParams

/-!
# The ES8316 codec

The stream operations of `es8316.c`.  Both directions share the clock switch
register and the power-down register; `pwr_count` counts the streams.  Register
writes succeed.
-/

namespace KernelDrivers.Sound

open KernelDrivers.Library

abbrev es8316Reset : Nat := 0x00
abbrev es8316Clksw : Nat := 0x01
abbrev es8316SdpAdcfmt : Nat := 0x0a
abbrev es8316SdpDacfmt : Nat := 0x0b
abbrev es8316SysPdn : Nat := 0x0d
abbrev es8316SysLp1 : Nat := 0x0e
abbrev es8316SysLp2 : Nat := 0x0f
abbrev es8316HpmixSwitch : Nat := 0x14
abbrev es8316HpmixPdn : Nat := 0x15
abbrev es8316HpmixVol : Nat := 0x16
abbrev es8316CphpOuten : Nat := 0x17
abbrev es8316CphpPdn1 : Nat := 0x19
abbrev es8316CphpPdn2 : Nat := 0x1a
abbrev es8316CphpLdoctl : Nat := 0x1b
abbrev es8316AdcPdnLinsel : Nat := 0x22
abbrev es8316DacPdn : Nat := 0x2f

abbrev clkmgrMclkDivMask : BitVec 8 := 0x1 <<< 7
abbrev clkmgrMclkDivNml : BitVec 8 := 0x0 <<< 7
abbrev clkmgrAdcMclkMask : BitVec 8 := 0x1 <<< 3
abbrev clkmgrAdcMclkEn : BitVec 8 := 0x1 <<< 3
abbrev clkmgrAdcMclkDis : BitVec 8 := 0x0 <<< 3
abbrev clkmgrDacMclkMask : BitVec 8 := 0x1 <<< 2
abbrev clkmgrDacMclkEn : BitVec 8 := 0x1 <<< 2
abbrev clkmgrAdcAnalogMask : BitVec 8 := 0x1 <<< 1
abbrev clkmgrAdcAnalogEn : BitVec 8 := 0x1 <<< 1
abbrev clkmgrAdcAnalogDis : BitVec 8 := 0x0 <<< 1
abbrev clkmgrDacAnalogMask : BitVec 8 := 0x1 <<< 0
abbrev clkmgrDacAnalogEn : BitVec 8 := 0x1 <<< 0
abbrev clkmgrDacAnalogDis : BitVec 8 := 0x0 <<< 0

structure Es8316Chip where
  regs : Codec
  sysclk : Nat
  sysclkConstraints : List Nat
  pwrCount : BitVec 32

def es8316SetDaiSysclk (chip : Es8316Chip) (freq : Nat) : Int × Es8316Chip :=
  if freq ∈ [11289600, 18432000, 22579200, 36864000] then
    (0, { chip with sysclk := freq, sysclkConstraints := constraints112896 })
  else if freq ∈ [12288000, 19200000, 16934400, 24576000, 33868800] then
    (0, { chip with sysclk := freq, sysclkConstraints := constraints12288 })
  else if freq ∈ [12000000, 24000000] then
    (0, { chip with sysclk := freq, sysclkConstraints := constraints12 })
  else (einval, chip)

/-- `mclk` and `rate` of `coeff_div`; the other columns only go into variables
that are not used. -/
def es8316CoeffDiv : List (Nat × Nat) :=
  [ (12288000, 8000), (11289600, 8000), (18432000, 8000), (16934400, 8000),
    (12000000, 8000), (19200000, 8000),
    (11289600, 11025), (16934400, 11025), (12000000, 11025),
    (12288000, 16000), (18432000, 16000), (12000000, 16000), (19200000, 16000),
    (11289600, 22050), (16934400, 22050), (12000000, 22050),
    (12288000, 32000), (18432000, 32000), (12000000, 32000), (19200000, 32000),
    (11289600, 44100), (16934400, 44100), (12000000, 44100),
    (12288000, 48000), (18432000, 48000), (12000000, 48000), (19200000, 48000),
    (11289600, 88200), (16934400, 88200), (12000000, 88200),
    (12288000, 96000), (18432000, 96000), (12000000, 96000),
    (19200000, 96000) ]

/-- Whether the master clock is halved, or nothing if no row fits. -/
def es8316ChooseCoeff (sysclk rate : Nat) : Option Bool :=
  if (sysclk, rate) ∈ es8316CoeffDiv then some false
  else if (sysclk / 2, rate) ∈ es8316CoeffDiv then some true
  else none

/-- The writes of `es8316_pcm_startup` for either direction. -/
def startupStream (regs : Codec) : Stream → Codec
  | .playback =>
      let regs := regs.writeAll
        [ (es8316SysLp1, 0x3f), (es8316SysLp2, 0x1f),
          (es8316HpmixSwitch, 0x88), (es8316HpmixPdn, 0x00),
          (es8316HpmixVol, 0xbb), (es8316CphpPdn2, 0x10),
          (es8316CphpLdoctl, 0x30), (es8316CphpPdn1, 0x02),
          (es8316DacPdn, 0x00), (es8316CphpOuten, 0x66) ]
      regs.updateBits es8316Clksw (clkmgrDacMclkMask ||| clkmgrDacAnalogMask)
        (clkmgrDacMclkEn ||| clkmgrDacAnalogEn)
  | .capture =>
      let regs := regs.updateBits es8316AdcPdnLinsel 0xc0 0x20
      regs.updateBits es8316Clksw (clkmgrAdcMclkMask ||| clkmgrAdcAnalogMask)
        (clkmgrAdcMclkEn ||| clkmgrAdcAnalogEn)

/-- `es8316_pcm_startup`: the clock is looked at last. -/
def es8316PcmStartup (chip : Es8316Chip) (stream : Stream) :
    Int × Es8316Chip :=
  let regs := chip.regs.write es8316Reset 0xc0
  let regs := regs.write es8316SysPdn 0x00
  let regs := regs.updateBits es8316Clksw
    (clkmgrMclkDivMask ||| clkmgrDacMclkMask)
    (clkmgrMclkDivNml ||| clkmgrDacMclkEn)
  let chip := { chip with
    regs := startupStream regs stream
    pwrCount := chip.pwrCount + 1 }
  if chip.sysclk = 0 then (einval, chip) else (0, chip)

/-- The writes of `es8316_pcm_shutdown` for either direction. -/
def shutdownStream (regs : Codec) : Stream → Codec
  | .playback =>
      let regs := regs.writeAll
        [ (es8316CphpOuten, 0x00), (es8316DacPdn, 0x11),
          (es8316CphpLdoctl, 0x03), (es8316CphpPdn2, 0x22),
          (es8316CphpPdn1, 0x06), (es8316HpmixSwitch, 0x00),
          (es8316HpmixPdn, 0x33), (es8316HpmixVol, 0x00),
          (es8316SysPdn, 0x00), (es8316SysLp1, 0xff), (es8316SysLp2, 0xff) ]
      regs.updateBits es8316Clksw clkmgrDacAnalogMask clkmgrDacAnalogDis
  | .capture =>
      let regs := regs.write es8316AdcPdnLinsel 0xc0
      regs.updateBits es8316Clksw (clkmgrAdcMclkMask ||| clkmgrAdcAnalogMask)
        (clkmgrAdcMclkDis ||| clkmgrAdcAnalogDis)

def es8316PcmShutdown (chip : Es8316Chip) (stream : Stream) : Es8316Chip :=
  let regs := shutdownStream chip.regs stream
  let pwrCount := chip.pwrCount - 1
  if pwrCount ≠ 0 then { chip with regs, pwrCount }
  else
    let regs := regs.write es8316SysPdn 0x3f
    { chip with regs := regs.write es8316Clksw 0xf3, pwrCount }

def es8316PcmHwParams (chip : Es8316Chip) (rate : Nat) (format : PcmFormat) :
    Int × Es8316Chip :=
  let mclkdiv := chip.regs es8316Clksw &&& 0x7f
  let adciface := chip.regs es8316SdpAdcfmt &&& 0xe3
  let daciface := chip.regs es8316SdpDacfmt &&& 0xe3
  match es8316ChooseCoeff chip.sysclk rate with
  | none => (einval, chip)
  | some half =>
      let mclkdiv := if half then mclkdiv ||| 0x80 else mclkdiv
      let adciface := adciface ||| (bitSize format).1
      let daciface := daciface ||| (bitSize format).1
      let regs := chip.regs.updateBits es8316SdpDacfmt 0xe3 daciface
      let regs := regs.updateBits es8316SdpAdcfmt 0xe3 adciface
      let regs := regs.updateBits es8316Clksw 0x80 mclkdiv
      (0, { chip with regs })

abbrev mclkDiv : Nat := 7
abbrev dacMclk : Nat := 2

/-- The bits that one direction has to itself. -/
def ownClocks : Stream → List Nat
  | .playback => [0]
  | .capture => [3, 1]

/-- The registers that one direction has to itself. -/
def ownRegs : Stream → List Nat
  | .playback =>
      [ es8316SysLp1, es8316SysLp2, es8316HpmixSwitch, es8316HpmixPdn,
        es8316HpmixVol, es8316CphpPdn2, es8316CphpLdoctl, es8316CphpPdn1,
        es8316DacPdn, es8316CphpOuten ]
  | .capture => [es8316AdcPdnLinsel]

theorem startupStream_other (regs : Codec) {stream : Stream} {reg : Nat}
    (clocks : reg ≠ es8316Clksw) (foreign : reg ∉ ownRegs stream) :
    startupStream regs stream reg = regs reg := by
  cases stream with
  | playback =>
      rw [startupStream, RegisterFile.updateBits_other clocks]
      exact RegisterFile.writeAll_other foreign
  | capture =>
      rw [startupStream, RegisterFile.updateBits_other clocks]
      exact RegisterFile.updateBits_other (mt List.mem_singleton.mpr foreign)

theorem startupStream_bit (regs : Codec) (stream : Stream) {index : Nat}
    (inside : index < 8) :
    (startupStream regs stream).bit es8316Clksw index =
      if index ∈ ownClocks stream ∨ (stream = .playback ∧ index = dacMclk) then
        true
      else regs.bit es8316Clksw index := by
  cases stream with
  | playback =>
      have mask : ∀ index < 8,
          (clkmgrDacMclkMask ||| clkmgrDacAnalogMask).getLsbD index = true ↔
            index ∈ ownClocks .playback ∨
              (Stream.playback = .playback ∧ index = dacMclk) := by
        decide
      rw [startupStream, RegisterFile.bit_updateBits_self,
        RegisterFile.bit_congr (RegisterFile.writeAll_other (by decide))]
      simp only [mask index inside]
  | capture =>
      have mask : ∀ index < 8,
          (clkmgrAdcMclkMask ||| clkmgrAdcAnalogMask).getLsbD index = true ↔
            index ∈ ownClocks .capture ∨
              (Stream.capture = .playback ∧ index = dacMclk) := by
        decide
      rw [startupStream, RegisterFile.bit_updateBits_self,
        RegisterFile.bit_congr (RegisterFile.updateBits_other (by decide))]
      simp only [mask index inside]

/-- What both directions write before their own registers. -/
def startupCommon (regs : Codec) : Codec :=
  ((regs.write es8316Reset 0xc0).write es8316SysPdn 0x00).updateBits es8316Clksw
    (clkmgrMclkDivMask ||| clkmgrDacMclkMask)
    (clkmgrMclkDivNml ||| clkmgrDacMclkEn)

theorem startup_eq (chip : Es8316Chip) (stream : Stream) :
    es8316PcmStartup chip stream =
      (if chip.sysclk = 0 then einval else 0, { chip with
        regs := startupStream (startupCommon chip.regs) stream
        pwrCount := chip.pwrCount + 1 }) := by
  unfold es8316PcmStartup
  dsimp only
  split <;> rfl

/-- A startup clears the divider, and enables the clock of the DAC and the
stream's own clocks. -/
theorem startup_bit (regs : Codec) (stream : Stream) {index : Nat}
    (inside : index < 8) :
    (startupStream (startupCommon regs) stream).bit es8316Clksw index =
      if index = mclkDiv then false
      else if index = dacMclk ∨ index ∈ ownClocks stream then true
      else regs.bit es8316Clksw index := by
  have mask : ∀ index < 8,
      (clkmgrMclkDivMask ||| clkmgrDacMclkMask).getLsbD index =
        decide (index = mclkDiv ∨ index = dacMclk) := by
    decide
  have value : ∀ index < 8,
      (clkmgrMclkDivNml ||| clkmgrDacMclkEn).getLsbD index =
        decide (index = dacMclk) := by
    decide
  have apart : ∀ index ∈ ownClocks stream, index ≠ mclkDiv := by
    cases stream <;> decide
  have written : ((regs.write es8316Reset 0xc0).write es8316SysPdn 0x00).bit
      es8316Clksw index = regs.bit es8316Clksw index := rfl
  rw [startupStream_bit _ _ inside, startupCommon, RegisterFile.bit_updateBits,
    mask index inside, value index inside, written]
  have separate : mclkDiv ≠ dacMclk := by decide
  by_cases divider : index = mclkDiv
  · subst divider
    have foreign : mclkDiv ∉ ownClocks stream := fun own => apart _ own rfl
    simp [foreign, separate]
  · by_cases own : index ∈ ownClocks stream
    · simp [own, divider]
    · by_cases dac : index = dacMclk <;> simp [own, dac, divider, separate.symm]

theorem startup_sysPdn (regs : Codec) (stream : Stream) :
    startupStream (startupCommon regs) stream es8316SysPdn = 0 := by
  rw [startupStream_other _ (by decide) (by cases stream <;> decide)]
  rfl

theorem startup_other (regs : Codec) {stream : Stream} {reg : Nat}
    (foreign : reg ∈ ownRegs stream.other) :
    startupStream (startupCommon regs) stream reg = regs reg := by
  have apart : ∀ reg ∈ ownRegs stream.other,
      reg ∉ [es8316Reset, es8316Clksw, es8316SysPdn] ++ ownRegs stream := by
    cases stream <;> decide
  have outside := apart reg foreign
  simp only [List.mem_append, List.mem_cons, List.not_mem_nil, or_false, not_or]
    at outside
  rw [startupStream_other _ outside.1.2.1 outside.2, startupCommon,
    RegisterFile.updateBits_other outside.1.2.1,
    RegisterFile.write_other outside.1.2.2, RegisterFile.write_other outside.1.1]

theorem shutdownStream_other (regs : Codec) {stream : Stream} {reg : Nat}
    (clocks : reg ≠ es8316Clksw) (power : reg ≠ es8316SysPdn)
    (foreign : reg ∉ ownRegs stream) :
    shutdownStream regs stream reg = regs reg := by
  cases stream with
  | playback =>
      rw [shutdownStream, RegisterFile.updateBits_other clocks]
      apply RegisterFile.writeAll_other
      intro written
      have known : ∀ other ∈ [es8316CphpOuten, es8316DacPdn, es8316CphpLdoctl,
          es8316CphpPdn2, es8316CphpPdn1, es8316HpmixSwitch, es8316HpmixPdn,
          es8316HpmixVol, es8316SysPdn, es8316SysLp1, es8316SysLp2],
          other = es8316SysPdn ∨ other ∈ ownRegs .playback := by
        decide
      rcases known reg written with same | own
      · exact power same
      · exact foreign own
  | capture =>
      rw [shutdownStream, RegisterFile.updateBits_other clocks]
      exact RegisterFile.write_other (mt List.mem_singleton.mpr foreign)

theorem shutdownStream_sysPdn (regs : Codec) (stream : Stream)
    (powered : regs es8316SysPdn = 0) :
    shutdownStream regs stream es8316SysPdn = 0 := by
  cases stream with
  | playback => rfl
  | capture => exact powered

theorem shutdownStream_bit (regs : Codec) (stream : Stream) {index : Nat}
    (inside : index < 8) :
    (shutdownStream regs stream).bit es8316Clksw index =
      if index ∈ ownClocks stream then false
      else regs.bit es8316Clksw index := by
  cases stream with
  | playback =>
      have mask : ∀ index < 8, clkmgrDacAnalogMask.getLsbD index = true ↔
          index ∈ ownClocks .playback := by
        decide
      have none : clkmgrDacAnalogDis = 0 := rfl
      rw [shutdownStream, none, RegisterFile.bit_updateBits_zero,
        RegisterFile.bit_congr (RegisterFile.writeAll_other (by decide))]
      simp only [mask index inside]
  | capture =>
      have mask : ∀ index < 8,
          (clkmgrAdcMclkMask ||| clkmgrAdcAnalogMask).getLsbD index = true ↔
            index ∈ ownClocks .capture := by
        decide
      have none : clkmgrAdcMclkDis ||| clkmgrAdcAnalogDis = 0 := rfl
      rw [shutdownStream, none, RegisterFile.bit_updateBits_zero,
        RegisterFile.bit_congr (RegisterFile.write_other (by decide))]
      simp only [mask index inside]

theorem shutdown_running (chip : Es8316Chip) (stream : Stream)
    (more : chip.pwrCount - 1 ≠ 0) :
    es8316PcmShutdown chip stream = { chip with
      regs := shutdownStream chip.regs stream
      pwrCount := chip.pwrCount - 1 } := by
  rw [es8316PcmShutdown]
  exact if_pos more

theorem shutdown_last (chip : Es8316Chip) (stream : Stream)
    (last : chip.pwrCount - 1 = 0) :
    (es8316PcmShutdown chip stream).pwrCount = 0 ∧
      (es8316PcmShutdown chip stream).regs es8316SysPdn = 0x3f ∧
      (es8316PcmShutdown chip stream).regs es8316Clksw = 0xf3 := by
  rw [es8316PcmShutdown, last, if_neg (by simp)]
  exact ⟨rfl, rfl, rfl⟩

theorem setDaiSysclk_kept (chip : Es8316Chip) (freq : Nat) :
    (es8316SetDaiSysclk chip freq).2.regs = chip.regs ∧
      (es8316SetDaiSysclk chip freq).2.pwrCount = chip.pwrCount := by
  unfold es8316SetDaiSysclk
  split
  · exact ⟨rfl, rfl⟩
  · split
    · exact ⟨rfl, rfl⟩
    · split <;> exact ⟨rfl, rfl⟩

/-- The parameters of a stream only change the formats and the divider. -/
theorem hwParams_kept (chip : Es8316Chip) (rate : Nat) (format : PcmFormat) :
    (es8316PcmHwParams chip rate format).2.pwrCount = chip.pwrCount ∧
      (es8316PcmHwParams chip rate format).2.sysclk = chip.sysclk ∧
      (∀ reg ∉ [es8316Clksw, es8316SdpAdcfmt, es8316SdpDacfmt],
        (es8316PcmHwParams chip rate format).2.regs reg = chip.regs reg) ∧
      ∀ index < 8, index ≠ mclkDiv →
        (es8316PcmHwParams chip rate format).2.regs.bit es8316Clksw index =
          chip.regs.bit es8316Clksw index := by
  rw [es8316PcmHwParams]
  cases es8316ChooseCoeff chip.sysclk rate with
  | none => exact ⟨rfl, rfl, fun _ _ => rfl, fun _ _ _ => rfl⟩
  | some half =>
      refine ⟨rfl, rfl, ?_, ?_⟩
      · intro reg outside
        simp only [List.mem_cons, List.not_mem_nil, or_false, not_or] at outside
        dsimp only
        rw [RegisterFile.updateBits_other outside.1,
          RegisterFile.updateBits_other outside.2.1,
          RegisterFile.updateBits_other outside.2.2]
      · intro index inside other
        have mask : ∀ index < 8, index ≠ mclkDiv →
            (0x80 : BitVec 8).getLsbD index = false := by
          decide
        dsimp only
        rw [RegisterFile.bit_updateBits, mask index inside other,
          if_neg (by simp),
          RegisterFile.bit_congr (RegisterFile.updateBits_other (by decide)),
          RegisterFile.bit_congr (RegisterFile.updateBits_other (by decide))]

end KernelDrivers.Sound
