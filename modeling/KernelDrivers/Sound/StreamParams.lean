import KernelDrivers.Library.Purge
import KernelDrivers.Sound.SetFmt
import KernelDrivers.Sound.Trigger

/-!
# What the controller holds after any calls

The calls of the controller share three registers: the parameters and the
format are both in TXCR and RXCR, and the parameters and the triggers both
update DMACR.
-/

namespace KernelDrivers.Sound

open KernelDrivers.Library

/-- The formats that the switch over `params_format` names. -/
inductive I2sFormat where
  | s8
  | s16Le
  | s20_3Le
  | s24Le
  | s24_3Le
  | s32Le
  | other
  deriving DecidableEq

abbrev i2sTxcrVdwMask : BitVec 32 := 0x1f <<< 0
abbrev i2sTxcrCsrMask : BitVec 32 := 3 <<< 15
abbrev i2sRxcrVdwMask : BitVec 32 := 0x1f <<< 0
abbrev i2sDmacrTdlMask : BitVec 32 := 0x1f <<< 0
abbrev i2sDmacrRdlMask : BitVec 32 := 0x1f <<< 16

def i2sTxcrVdw (x : BitVec 32) : BitVec 32 := (x - 1) <<< 0
def i2sDmacrTdl (x : BitVec 32) : BitVec 32 := x <<< 0
def i2sDmacrRdl (x : BitVec 32) : BitVec 32 := (x - 1) <<< 16

/-- The first switch. -/
def vdwValue : I2sFormat → Option (BitVec 32)
  | .s8 => some (i2sTxcrVdw 8)
  | .s16Le => some (i2sTxcrVdw 16)
  | .s20_3Le => some (i2sTxcrVdw 20)
  | .s24Le => some (i2sTxcrVdw 24)
  | .s24_3Le => some (i2sTxcrVdw 24)
  | .s32Le => some (i2sTxcrVdw 32)
  | .other => none

/-- The second switch: `I2S_TXCR_CHN_8` down to `I2S_TXCR_CHN_2`. -/
def chnValue (channels : BitVec 32) : Option (BitVec 32) :=
  if channels = 8 then some (3 <<< 15)
  else if channels = 6 then some (2 <<< 15)
  else if channels = 4 then some (1 <<< 15)
  else if channels = 2 then some (0 <<< 15)
  else none

/-- `rockchip_i2s_hw_params`. -/
def rockchipI2sHwParams (regs : Controller) (stream : Stream)
    (format : I2sFormat) (channels : BitVec 32) : Int × Controller :=
  match vdwValue format with
  | none => (einval, regs)
  | some vdw =>
      match chnValue channels with
      | none => (einval, regs)
      | some chn =>
          let val := vdw ||| chn
          let regs :=
            if stream = .playback then
              regs.updateBits i2sTxcr (i2sTxcrVdwMask ||| i2sTxcrCsrMask) val
            else regs.updateBits i2sRxcr i2sRxcrVdwMask val
          (0, regs.updateBits i2sDmacr (i2sDmacrTdlMask ||| i2sDmacrRdlMask)
            (i2sDmacrTdl 16 ||| i2sDmacrRdl 16))

inductive DaiCall where
  | hwParams (stream : Stream) (format : I2sFormat) (channels : BitVec 32)
  | setFmt (fmt : BitVec 32)
  | setClkdiv (divId : Int) (div : BitVec 32)
  | trigger (stream : Stream) (cmd : Int)

/-- The controller after the call.  The writes are logged by triggers only. -/
def call (clr : ClrReads) (i2s : I2s) : DaiCall → Option I2s
  | .hwParams stream format channels =>
      some { i2s with
        regs := (rockchipI2sHwParams i2s.regs stream format channels).2 }
  | .setFmt fmt => some { i2s with regs := (rockchipI2sSetFmt i2s.regs fmt).2 }
  | .setClkdiv divId div =>
      some { i2s with regs := (rockchipI2sSetClkdiv i2s.regs divId div).2 }
  | .trigger stream cmd => step clr i2s (stream, cmd)

/-- The bits of one sample on the bus. -/
def I2sFormat.bits : I2sFormat → Option Nat
  | .s8 => some 8
  | .s16Le => some 16
  | .s20_3Le => some 20
  | .s24Le => some 24
  | .s24_3Le => some 24
  | .s32Le => some 32
  | .other => none

/-- The parameters are ones that the call does not refuse. -/
def acceptsParams (format : I2sFormat) (channels : BitVec 32) : Bool :=
  format ≠ .other ∧
    (channels = 2 ∨ channels = 4 ∨ channels = 6 ∨ channels = 8)

def DaiCall.widthOf (stream : Stream) : DaiCall → Option Nat
  | .hwParams other format channels =>
      if other = stream ∧ acceptsParams format channels then format.bits
      else none
  | _ => none

def DaiCall.channelsOf : DaiCall → Option Nat
  | .hwParams stream format channels =>
      if stream = .playback ∧ acceptsParams format channels then
        some channels.toNat
      else none
  | _ => none

def DaiCall.levelsOf : DaiCall → Option (Nat × Nat)
  | .hwParams _ format channels =>
      if acceptsParams format channels then some (16, 16) else none
  | _ => none

/-- The format of a word that the controller supports. -/
def DaiCall.formatOf : DaiCall → Option (Option Format)
  | .setFmt fmt =>
      if fmt &&& daifmtMasterMask = daifmtCbmCfm ∨
          fmt &&& daifmtMasterMask = daifmtCbsCfs then
        ((requested fmt).filter Format.hasIbm).map some
      else none
  | _ => none

def DaiCall.enableOf (stream : Stream) : DaiCall → Option Bool
  | .trigger other cmd => effective stream (other, cmd)
  | _ => none

/-- The register of a stream. -/
def controlReg : Stream → Nat
  | .playback => i2sTxcr
  | .capture => i2sRxcr

def sampleWidth (regs : Controller) (stream : Stream) : Nat :=
  (regs (controlReg stream) &&& i2sTxcrVdwMask).toNat + 1

def sentChannels (regs : Controller) : Nat :=
  2 * ((regs i2sTxcr &&& i2sTxcrCsrMask) >>> 15).toNat + 2

def dmaLevels (regs : Controller) : Nat × Nat :=
  ((regs i2sDmacr &&& i2sDmacrTdlMask).toNat,
    ((regs i2sDmacr &&& i2sDmacrRdlMask) >>> 16).toNat + 1)

def busFormat (regs : Controller) (stream : Stream) : Option Format :=
  ibmFormat (ibmField regs (controlReg stream))

/-- The fields that the parameters of a stream are put in. -/
def isStreamBit (stream : Stream) (reg index : Nat) : Bool :=
  (reg = controlReg stream ∧
      (index < 5 ∨ stream = .playback ∧ (index = 15 ∨ index = 16))) ∨
    (reg = i2sDmacr ∧ (index < 5 ∨ (16 ≤ index ∧ index < 21)))

def isDivBit (reg index : Nat) : Bool :=
  reg = i2sCkr ∧ index < 24

def isTriggerBit (stream : Stream) (reg index : Nat) : Bool :=
  reg = i2sClr ∨ reg = i2sXfer ∨ (reg = i2sDmacr ∧ index = deShift stream)

def DaiCall.writes : DaiCall → Nat → Nat → Bool
  | .hwParams stream _ _ => isStreamBit stream
  | .setFmt _ => isFmtBit
  | .setClkdiv _ _ => isDivBit
  | .trigger stream _ => isTriggerBit stream

/-- The mask of the update in the register of the stream. -/
def paramMask : Stream → BitVec 32
  | .playback => i2sTxcrVdwMask ||| i2sTxcrCsrMask
  | .capture => i2sRxcrVdwMask

/-- Either the parameters are refused, or both updates are made. -/
theorem rockchipI2sHwParams_cases (regs : Controller) (stream : Stream)
    (format : I2sFormat) (channels : BitVec 32) :
    (acceptsParams format channels = false ∧
      rockchipI2sHwParams regs stream format channels = (einval, regs)) ∨
    (acceptsParams format channels = true ∧ ∃ vdw chn,
      vdwValue format = some vdw ∧ chnValue channels = some chn ∧
      rockchipI2sHwParams regs stream format channels = (0,
        (regs.updateBits (controlReg stream) (paramMask stream)
          (vdw ||| chn)).updateBits i2sDmacr
            (i2sDmacrTdlMask ||| i2sDmacrRdlMask)
            (i2sDmacrTdl 16 ||| i2sDmacrRdl 16))) := by
  cases format with
  | other => exact .inl ⟨rfl, rfl⟩
  | s8 | s16Le | s20_3Le | s24Le | s24_3Le | s32Le =>
      by_cases known :
          channels = 2 ∨ channels = 4 ∨ channels = 6 ∨ channels = 8
      · right
        obtain ⟨chn, found⟩ : ∃ chn, chnValue channels = some chn := by
          rcases known with rfl | rfl | rfl | rfl <;> exact ⟨_, rfl⟩
        refine ⟨decide_eq_true ⟨by decide, known⟩, _, chn, rfl, found, ?_⟩
        rw [rockchipI2sHwParams, found]
        cases stream <;> rfl
      · left
        have refused : chnValue channels = none := by
          simp only [not_or] at known
          obtain ⟨two, four, six, eight⟩ := known
          rw [chnValue, if_neg eight, if_neg six, if_neg four, if_neg two]
        refine ⟨decide_eq_false fun both => known both.2, ?_⟩
        rw [rockchipI2sHwParams, refused]
        rfl

theorem params_codes {format : I2sFormat} {channels vdw chn : BitVec 32}
    (width : vdwValue format = some vdw)
    (count : chnValue channels = some chn) :
    format.bits = some (((vdw ||| chn) &&& i2sTxcrVdwMask).toNat + 1) ∧
      channels.toNat =
        2 * (((vdw ||| chn) &&& i2sTxcrCsrMask) >>> 15).toNat + 2 := by
  unfold chnValue at count
  split_ifs at count with eight six four two
  all_goals
    subst channels
    cases count
    cases format <;> cases width <;> exact ⟨rfl, rfl⟩

/-- What the registers say after parameters that are accepted. -/
structure ParamsSet (regs : Controller) (stream : Stream) (format : I2sFormat)
    (channels : BitVec 32) : Prop where
  width : format.bits = some (sampleWidth regs stream)
  sent : stream = .playback → sentChannels regs = channels.toNat
  levels : dmaLevels regs = (16, 16)

theorem rockchipI2sHwParams_spec (regs : Controller) (stream : Stream)
    (format : I2sFormat) (channels : BitVec 32) :
    (acceptsParams format channels = false ∧
      rockchipI2sHwParams regs stream format channels = (einval, regs)) ∨
    (acceptsParams format channels = true ∧
      (rockchipI2sHwParams regs stream format channels).1 = 0 ∧
      ParamsSet (rockchipI2sHwParams regs stream format channels).2 stream
        format channels) := by
  rcases rockchipI2sHwParams_cases regs stream format channels with
    refused | ⟨accepted, vdw, chn, width, count, done⟩
  · exact .inl refused
  · right
    obtain ⟨bits, number⟩ := params_codes width count
    have apart : controlReg stream ≠ i2sDmacr := by
      cases stream <;> decide
    have within : paramMask stream &&& i2sTxcrVdwMask = i2sTxcrVdwMask := by
      cases stream <;> decide
    rw [done]
    refine ⟨accepted, rfl, ?_, ?_, ?_⟩ <;> dsimp only
    · rw [bits, sampleWidth, RegisterFile.updateBits_other apart,
        RegisterFile.field_updateBits_within within]
    · intro playback
      subst playback
      have field : regs.updateBits i2sTxcr (paramMask .playback) (vdw ||| chn)
            i2sTxcr &&& i2sTxcrCsrMask = (vdw ||| chn) &&& i2sTxcrCsrMask :=
        RegisterFile.field_updateBits_within (by decide)
      have other : i2sTxcr ≠ i2sDmacr := by
        decide
      rw [number, sentChannels, RegisterFile.updateBits_other other, ← field]
      rfl
    · rw [dmaLevels, RegisterFile.field_updateBits_within (by decide),
        RegisterFile.field_updateBits_within (by decide)]
      rfl

private theorem hwParams_outside (regs : Controller) {stream : Stream}
    (format : I2sFormat) (channels : BitVec 32) {reg index : Nat}
    (outside : isStreamBit stream reg index = false) :
    (rockchipI2sHwParams regs stream format channels).2.bit reg index =
      regs.bit reg index := by
  have own : ∀ index < 32, (paramMask stream).getLsbD index = true →
      isStreamBit stream (controlReg stream) index = true := by
    cases stream <;> decide
  have levels : ∀ index < 32,
      (i2sDmacrTdlMask ||| i2sDmacrRdlMask).getLsbD index = true →
      isStreamBit stream i2sDmacr index = true := by
    cases stream <;> decide
  rcases rockchipI2sHwParams_cases regs stream format channels with
    ⟨-, refused⟩ | ⟨-, vdw, chn, -, -, done⟩
  · rw [refused]
  · rw [done, RegisterFile.bit_updateBits_outside _ levels outside,
      RegisterFile.bit_updateBits_outside _ own outside]

private theorem setClkdiv_outside (regs : Controller) (divId : Int)
    (div : BitVec 32) {reg index : Nat}
    (outside : isDivBit reg index = false) :
    (rockchipI2sSetClkdiv regs divId div).2.bit reg index =
      regs.bit reg index := by
  have bclk : ∀ index < 32, ((0xff <<< 0) ||| (0xff <<< 8) :
      BitVec 32).getLsbD index = true → isDivBit i2sCkr index = true := by
    decide
  have mclk : ∀ index < 32, (0xff <<< 16 : BitVec 32).getLsbD index = true →
      isDivBit i2sCkr index = true := by
    decide
  unfold rockchipI2sSetClkdiv
  split_ifs
  · exact RegisterFile.bit_updateBits_outside _ bclk outside
  · exact RegisterFile.bit_updateBits_outside _ mclk outside
  · rfl

private theorem trigger_outside {clr : ClrReads} {i2s next : I2s}
    {stream : Stream} {cmd : Int}
    (taken : step clr i2s (stream, cmd) = some next) {reg index : Nat}
    (outside : isTriggerBit stream reg index = false) :
    next.regs.bit reg index = i2s.regs.bit reg index := by
  obtain ⟨stored, transfers, dma⟩ : reg ≠ i2sClr ∧ reg ≠ i2sXfer ∧
      ¬(reg = i2sDmacr ∧ index = deShift stream) := by
    simpa [isTriggerBit] using outside
  rcases trigger_cases clr i2s (stream, cmd) with
    ⟨on, switched, -, done, effect⟩ | ⟨-, refused⟩
  · rw [step, done, Option.map_some] at taken
    cases taken
    rw [effect.bit reg index stored, if_neg dma,
      if_neg fun own => transfers own.1]
  · rw [step, refused, Option.map_some] at taken
    cases taken
    rfl

theorem call_outside {clr : ClrReads} {i2s next : I2s} {daiCall : DaiCall}
    (taken : call clr i2s daiCall = some next) {reg index : Nat}
    (outside : daiCall.writes reg index = false) :
    next.regs.bit reg index = i2s.regs.bit reg index := by
  cases daiCall with
  | hwParams stream format channels =>
      cases taken
      exact hwParams_outside i2s.regs format channels outside
  | setFmt fmt =>
      cases taken
      exact rockchipI2sSetFmt_outside i2s.regs fmt outside
  | setClkdiv divId div =>
      cases taken
      exact setClkdiv_outside i2s.regs divId div outside
  | trigger stream cmd => exact trigger_outside taken outside

theorem call_field {clr : ClrReads} {i2s next : I2s} {daiCall : DaiCall}
    (taken : call clr i2s daiCall = some next) {reg : Nat} {mask : BitVec 32}
    (outside : ∀ index < 32, mask.getLsbD index = true →
      daiCall.writes reg index = false) :
    next.regs reg &&& mask = i2s.regs reg &&& mask := by
  apply RegisterFile.field_congr
  intro index inside
  exact call_outside taken
    (outside index (BitVec.lt_of_getLsbD inside) inside)

section Call

variable {clr : ClrReads} {i2s next : I2s} {daiCall : DaiCall}

theorem sampleWidth_call (taken : call clr i2s daiCall = some next)
    (stream : Stream) :
    sampleWidth next.regs stream =
      (daiCall.widthOf stream).getD (sampleWidth i2s.regs stream) := by
  have kept (outside : ∀ index < 32, i2sTxcrVdwMask.getLsbD index = true →
        daiCall.writes (controlReg stream) index = false) :
      sampleWidth next.regs stream = sampleWidth i2s.regs stream := by
    rw [sampleWidth, call_field taken outside, sampleWidth]
  cases daiCall with
  | hwParams other format channels =>
      by_cases own : other = stream
      · subst own
        cases taken
        rcases rockchipI2sHwParams_spec i2s.regs other format channels with
          ⟨refused, same⟩ | ⟨accepted, -, set⟩
        · rw [same]
          simp [DaiCall.widthOf, refused]
        · rw [DaiCall.widthOf, if_pos ⟨rfl, accepted⟩, set.width,
            Option.getD_some]
      · rw [DaiCall.widthOf, if_neg fun both => own both.1, Option.getD_none]
        apply kept
        change ∀ index < 32, _ → isStreamBit other _ index = false
        cases other <;> cases stream <;> first | decide | exact absurd rfl own
  | setFmt fmt =>
      apply kept
      change ∀ index < 32, _ → isFmtBit _ index = false
      cases stream <;> decide
  | setClkdiv divId div =>
      apply kept
      change ∀ index < 32, _ → isDivBit _ index = false
      cases stream <;> decide
  | trigger other cmd =>
      apply kept
      change ∀ index < 32, _ → isTriggerBit other _ index = false
      cases other <;> cases stream <;> decide

theorem sentChannels_call (taken : call clr i2s daiCall = some next) :
    sentChannels next.regs =
      daiCall.channelsOf.getD (sentChannels i2s.regs) := by
  have kept (outside : ∀ index < 32, i2sTxcrCsrMask.getLsbD index = true →
        daiCall.writes i2sTxcr index = false) :
      sentChannels next.regs = sentChannels i2s.regs := by
    rw [sentChannels, call_field taken outside, sentChannels]
  cases daiCall with
  | hwParams stream format channels =>
      cases stream with
      | playback =>
          cases taken
          rcases rockchipI2sHwParams_spec i2s.regs .playback format channels
            with ⟨refused, same⟩ | ⟨accepted, -, set⟩
          · rw [same]
            simp [DaiCall.channelsOf, refused]
          · rw [DaiCall.channelsOf, if_pos ⟨rfl, accepted⟩, set.sent rfl,
              Option.getD_some]
      | capture =>
          apply kept
          change ∀ index < 32, _ → isStreamBit .capture _ index = false
          decide
  | setFmt fmt =>
      apply kept
      change ∀ index < 32, _ → isFmtBit _ index = false
      decide
  | setClkdiv divId div =>
      apply kept
      change ∀ index < 32, _ → isDivBit _ index = false
      decide
  | trigger stream cmd =>
      apply kept
      change ∀ index < 32, _ → isTriggerBit stream _ index = false
      cases stream <;> decide

theorem dmaLevels_call (taken : call clr i2s daiCall = some next) :
    dmaLevels next.regs = daiCall.levelsOf.getD (dmaLevels i2s.regs) := by
  have kept (outside : ∀ index < 32,
        (i2sDmacrTdlMask ||| i2sDmacrRdlMask).getLsbD index = true →
          daiCall.writes i2sDmacr index = false) :
      dmaLevels next.regs = dmaLevels i2s.regs := by
    have tdl : next.regs i2sDmacr &&& i2sDmacrTdlMask =
        i2s.regs i2sDmacr &&& i2sDmacrTdlMask := by
      apply call_field taken
      intro index small inside
      apply outside index small
      rw [BitVec.getLsbD_or, inside, Bool.true_or]
    have rdl : next.regs i2sDmacr &&& i2sDmacrRdlMask =
        i2s.regs i2sDmacr &&& i2sDmacrRdlMask := by
      apply call_field taken
      intro index small inside
      apply outside index small
      rw [BitVec.getLsbD_or, inside, Bool.or_true]
    rw [dmaLevels, tdl, rdl, dmaLevels]
  cases daiCall with
  | hwParams stream format channels =>
      cases taken
      rcases rockchipI2sHwParams_spec i2s.regs stream format channels with
        ⟨refused, same⟩ | ⟨accepted, -, set⟩
      · rw [same]
        simp [DaiCall.levelsOf, refused]
      · rw [DaiCall.levelsOf, if_pos accepted, set.levels, Option.getD_some]
  | setFmt fmt =>
      apply kept
      change ∀ index < 32, _ → isFmtBit _ index = false
      decide
  | setClkdiv divId div =>
      apply kept
      change ∀ index < 32, _ → isDivBit _ index = false
      decide
  | trigger stream cmd =>
      apply kept
      change ∀ index < 32, _ → isTriggerBit stream _ index = false
      cases stream <;> decide

/-- The enable bit of a stream is under the mask of no other call. -/
theorem enabled_call (taken : call clr i2s daiCall = some next)
    (stream : Stream) :
    next.regs.bit i2sDmacr (deShift stream) =
      (daiCall.enableOf stream).getD
        (i2s.regs.bit i2sDmacr (deShift stream)) := by
  cases daiCall with
  | hwParams other format channels =>
      apply call_outside taken
      change isStreamBit other _ _ = false
      cases other <;> cases stream <;> decide
  | setFmt fmt =>
      apply call_outside taken
      change isFmtBit _ _ = false
      cases stream <;> decide
  | setClkdiv divId div =>
      apply call_outside taken
      change isDivBit _ _ = false
      cases stream <;> decide
  | trigger other cmd =>
      rw [call, step] at taken
      rcases trigger_cases clr i2s (other, cmd) with
        ⟨on, switched, means, done, effect⟩ | ⟨none, refused⟩
      · rw [done, Option.map_some] at taken
        cases taken
        by_cases own : other = stream
        · subst own
          rw [effect.dma_own, DaiCall.enableOf, means, Option.getD_some]
        · have foreign : effective stream (other, cmd) = none :=
            if_neg own
          rw [DaiCall.enableOf, foreign, Option.getD_none, effect.dma_other]
          intro same
          exact own (deShift_injective same).symm
      · rw [refused, Option.map_some] at taken
        cases taken
        rw [DaiCall.enableOf, none stream, Option.getD_none]

/-- A word names a format exactly where the controller supports it. -/
private theorem formatOf_cases (fmt : BitVec 32) :
    (FmtSupported fmt ∧
      DaiCall.formatOf (.setFmt fmt) = some (requested fmt)) ∨
    (¬FmtSupported fmt ∧ DaiCall.formatOf (.setFmt fmt) = none) := by
  have listed : fmt &&& daifmtMasterMask ∈ [daifmtCbmCfm, daifmtCbsCfs] ↔
      fmt &&& daifmtMasterMask = daifmtCbmCfm ∨
        fmt &&& daifmtMasterMask = daifmtCbsCfs := by
    rw [List.mem_cons, List.mem_singleton]
  by_cases master : fmt &&& daifmtMasterMask = daifmtCbmCfm ∨
      fmt &&& daifmtMasterMask = daifmtCbsCfs
  · rw [DaiCall.formatOf, if_pos master]
    cases asked : requested fmt with
    | none =>
        refine .inr ⟨?_, rfl⟩
        intro supported
        obtain ⟨format, known, -⟩ := supported.format
        rw [asked] at known
        cases known
    | some format =>
        cases known : format.hasIbm with
        | true =>
            refine .inl ⟨⟨listed.mpr master, format, asked, known⟩, ?_⟩
            simp [Option.filter, known]
        | false =>
            refine .inr ⟨?_, by simp [Option.filter, known]⟩
            intro supported
            obtain ⟨other, same, hasIbm⟩ := supported.format
            rw [asked] at same
            cases same
            rw [known] at hasIbm
            cases hasIbm
  · refine .inr ⟨fun supported => master (listed.mp supported.master), ?_⟩
    rw [DaiCall.formatOf, if_neg master]

/-- A word that is not supported can change the mode, but no format. -/
private theorem busFormat_unsupported (regs : Controller) {fmt : BitVec 32}
    (unsupported : ¬FmtSupported fmt) (stream : Stream) :
    busFormat (rockchipI2sSetFmt regs fmt).2 stream =
      busFormat regs stream := by
  by_cases master : fmt &&& daifmtMasterMask ∈ [daifmtCbmCfm, daifmtCbsCfs]
  · obtain ⟨mss, mode, -⟩ := mssValue_spec master
    have unknown : ibmValue fmt = none := by
      apply ibmValue_none
      intro known
      exact unsupported ⟨master, known⟩
    have apart : controlReg stream ≠ i2sCkr := by
      cases stream <;> decide
    rw [rockchipI2sSetFmt, mode]
    dsimp only
    rw [unknown, busFormat, ibmField_other regs apart, busFormat]
  · rw [rockchipI2sSetFmt, mssValue_none master]

theorem busFormat_call (taken : call clr i2s daiCall = some next)
    (stream : Stream) :
    busFormat next.regs stream =
      daiCall.formatOf.getD (busFormat i2s.regs stream) := by
  have kept (outside : ∀ index < 32, i2sIbmMask.getLsbD index = true →
        daiCall.writes (controlReg stream) index = false) :
      busFormat next.regs stream = busFormat i2s.regs stream := by
    rw [busFormat, ibmField_congr (call_field taken outside), busFormat]
  cases daiCall with
  | hwParams other format channels =>
      apply kept
      change ∀ index < 32, _ → isStreamBit other _ index = false
      cases other <;> cases stream <;> decide
  | setFmt fmt =>
      cases taken
      rcases formatOf_cases fmt with
        ⟨supported, asked⟩ | ⟨unsupported, none⟩
      · obtain ⟨-, holds⟩ := rockchipI2sSetFmt_supported i2s.regs supported
        rw [asked, Option.getD_some]
        cases stream with
        | playback => exact holds.tx
        | capture => exact holds.rx
      · rw [none, Option.getD_none]
        exact busFormat_unsupported i2s.regs unsupported stream
  | setClkdiv divId div =>
      apply kept
      change ∀ index < 32, _ → isDivBit _ index = false
      cases stream <;> decide
  | trigger other cmd =>
      apply kept
      change ∀ index < 32, _ → isTriggerBit other _ index = false
      cases other <;> cases stream <;> decide

theorem rxcr_channels_call (taken : call clr i2s daiCall = some next) :
    next.regs i2sRxcr &&& i2sTxcrCsrMask =
      i2s.regs i2sRxcr &&& i2sTxcrCsrMask := by
  apply call_field taken
  cases daiCall with
  | hwParams stream format channels =>
      change ∀ index < 32, _ → isStreamBit stream _ index = false
      cases stream <;> decide
  | setFmt fmt =>
      change ∀ index < 32, _ → isFmtBit _ index = false
      decide
  | setClkdiv divId div =>
      change ∀ index < 32, _ → isDivBit _ index = false
      decide
  | trigger stream cmd =>
      change ∀ index < 32, _ → isTriggerBit stream _ index = false
      cases stream <;> decide

end Call

/-- Every field is what it was last set to by the call that it belongs to. -/
structure HoldsLast (calls : List DaiCall) (before after : I2s) : Prop where
  width : ∀ stream, sampleWidth after.regs stream =
    (lastWritten (DaiCall.widthOf stream) calls).getD
      (sampleWidth before.regs stream)
  sent : sentChannels after.regs =
    (lastWritten DaiCall.channelsOf calls).getD (sentChannels before.regs)
  received : after.regs i2sRxcr &&& i2sTxcrCsrMask =
    before.regs i2sRxcr &&& i2sTxcrCsrMask
  levels : dmaLevels after.regs =
    (lastWritten DaiCall.levelsOf calls).getD (dmaLevels before.regs)
  format : ∀ stream, busFormat after.regs stream =
    (lastWritten DaiCall.formatOf calls).getD (busFormat before.regs stream)
  enabled : ∀ stream, after.regs.bit i2sDmacr (deShift stream) =
    (lastWritten (DaiCall.enableOf stream) calls).getD
      (before.regs.bit i2sDmacr (deShift stream))

/-- In any order of calls on both streams, refused ones among them, none
disturbs what another one set. -/
theorem calls_hold_last {clr : ClrReads} {start final : I2s}
    {calls : List DaiCall}
    (run : Run (call clr) (fun _ _ => True) start calls final) :
    HoldsLast calls start final where
  width stream := by
    apply run.lastWritten_eq fun i2s : I2s => sampleWidth i2s.regs stream
    intro i2s daiCall next taken
    exact sampleWidth_call taken stream
  sent := by
    apply run.lastWritten_eq fun i2s : I2s => sentChannels i2s.regs
    intro i2s daiCall next taken
    exact sentChannels_call taken
  received := by
    induction run with
    | nil => rfl
    | snoc _ _ taken induction =>
        exact (rxcr_channels_call taken).trans induction
  levels := by
    apply run.lastWritten_eq fun i2s : I2s => dmaLevels i2s.regs
    intro i2s daiCall next taken
    exact dmaLevels_call taken
  format stream := by
    apply run.lastWritten_eq fun i2s : I2s => busFormat i2s.regs stream
    intro i2s daiCall next taken
    exact busFormat_call taken stream
  enabled stream := by
    apply run.lastWritten_eq fun i2s : I2s =>
      i2s.regs.bit i2sDmacr (deShift stream)
    intro i2s daiCall next taken
    exact enabled_call taken stream

/-- A call for 24 bits in six channels, and one that is refused after it,
around a trigger. -/
theorem calls_hold_last_six :
    ∃ final, Run (call fun _ => 0) (fun _ _ => True)
        { regs := fun _ => 0, start := fun _ => false, reads := 0,
          writes := [], waits := [] }
        [.hwParams .playback .s24Le 6, .setFmt 0x4003,
          .trigger .playback triggerStart, .hwParams .capture .s16Le 2,
          .hwParams .playback .s32Le 3] final ∧
      sampleWidth final.regs .playback = 24 ∧
      sentChannels final.regs = 6 ∧
      busFormat final.regs .capture = some .leftJ ∧
      final.regs.bit i2sDmacr (deShift .playback) = true := by
  have ends : (execute (call fun _ => 0) (fun _ _ => True)
      { regs := fun _ => 0, start := fun _ => false, reads := 0,
        writes := [], waits := [] }
      [.hwParams .playback .s24Le 6, .setFmt 0x4003,
        .trigger .playback triggerStart, .hwParams .capture .s16Le 2,
        .hwParams .playback .s32Le 3]).any (fun _ => true) = true := by
    decide
  obtain ⟨final, run, -⟩ := Run.exists_of_execute ends
  have holds := calls_hold_last run
  exact ⟨final, run, holds.width .playback, holds.sent, holds.format .capture,
    holds.enabled .playback⟩

end KernelDrivers.Sound
