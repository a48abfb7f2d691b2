import KernelDrivers.Sound.Agreement
import KernelDrivers.Sound.Es8316

/-!
# The machine driver of the ES8316

`rk3288_hw_params` of this card returns at once where the rate is unsupported.
-/

namespace KernelDrivers.Sound

open KernelDrivers.Library

/-- `ES8316_IFACE`, `ES8316_ADC_IFACE` and `ES8316_DAC_IFACE`. -/
abbrev es8316Iface : Nat := 0x09
abbrev es8316AdcIface : Nat := es8316SdpAdcfmt
abbrev es8316DacIface : Nat := es8316SdpDacfmt

/-- The second switch: the format code of both data interfaces. -/
def es8316SetFormat (fmt : BitVec 32) (bits : Iface) : Option Iface :=
  let format := fmt &&& daifmtFormatMask
  if format = daifmtI2s then
    some { bits with
      adciface := bits.adciface &&& 0xfc
      daciface := bits.daciface &&& 0xfc }
  else if format = daifmtRightJ then none
  else if format = daifmtLeftJ then
    some { bits with
      adciface := (bits.adciface &&& 0xfc) ||| 0x01
      daciface := (bits.daciface &&& 0xfc) ||| 0x01 }
  else if format = daifmtDspA then
    some { bits with
      adciface := (bits.adciface &&& 0xdc) ||| 0x03
      daciface := (bits.daciface &&& 0xdc) ||| 0x03 }
  else if format = daifmtDspB then
    some { bits with
      adciface := (bits.adciface &&& 0xdc) ||| 0x23
      daciface := (bits.daciface &&& 0xdc) ||| 0x23 }
  else none

/-- The third switch: clock inversion. -/
def es8316SetInversion (fmt : BitVec 32) (bits : Iface) : Option Iface :=
  let inv := fmt &&& daifmtInvMask
  if inv = daifmtNbNf then
    some { iface := bits.iface &&& 0xdf
           adciface := bits.adciface &&& 0xdf
           daciface := bits.daciface &&& 0xdf }
  else if inv = daifmtIbIf then
    some { iface := bits.iface ||| 0x20
           adciface := bits.adciface ||| 0x20
           daciface := bits.daciface ||| 0x20 }
  else if inv = daifmtIbNf then
    some { iface := bits.iface ||| 0x20
           adciface := bits.adciface &&& 0xdf
           daciface := bits.daciface &&& 0xdf }
  else if inv = daifmtNbIf then
    some { iface := bits.iface &&& 0xdf
           adciface := bits.adciface ||| 0x20
           daciface := bits.daciface ||| 0x20 }
  else none

/-- The first switch is the one of the ES8323. -/
def es8316SetDaiFmt (codec : Codec) (fmt : BitVec 32) : Int × Codec :=
  let bits : Iface := { iface := codec es8316Iface
                        adciface := codec es8316AdcIface
                        daciface := codec es8316DacIface }
  match ((setMaster fmt bits).bind (es8316SetFormat fmt)).bind
      (es8316SetInversion fmt) with
  | none => (einval, codec)
  | some bits =>
      let codec := codec.write es8316Iface bits.iface
      let codec := codec.write es8316AdcIface bits.adciface
      (0, codec.write es8316DacIface bits.daciface)

structure Es8316Link where
  chip : Es8316Chip
  regs : Controller
  clk : Nat

/-- `pll_out` after the switch, unless its default returns. -/
def es8316PllOut (rate : Nat) : Option Nat :=
  if rate ∈ rates12288 then some 12288000
  else if rate ∈ rates11289 then some 11289600
  else none

/-- `rk3288_hw_params`, where `clk_set_rate` returns `clkRet`. -/
def es8316HwParams (link : Es8316Link) (fmt : BitVec 32) (rate : Nat)
    (clkRet : Int) : Int × Es8316Link :=
  let codecSet := es8316SetDaiFmt link.chip.regs fmt
  let link := { link with chip := { link.chip with regs := codecSet.2 } }
  if codecSet.1 < 0 then (codecSet.1, link)
  else
    let cpuSet := rockchipI2sSetFmt link.regs fmt
    let link := { link with regs := cpuSet.2 }
    if cpuSet.1 < 0 then (cpuSet.1, link)
    else
      match es8316PllOut rate with
      | none => (einval, link)
      | some pllOut =>
          if fmt &&& daifmtMasterMask = daifmtCbsCfs then
            let clk := if clkRet = 0 then pllOut else link.clk
            let div := BitVec.ofInt 32 (((pllOut / 4 / rate : Nat) : Int) - 1)
            let regs := (rockchipI2sSetClkdiv link.regs rockchipDivBclk div).2
            let regs := (rockchipI2sSetClkdiv regs rockchipDivMclk 3).2
            (0, { link with regs, clk })
          else (0, link)

/-- The format words that the codec accepts. -/
structure Es8316Accepts (fmt : BitVec 32) : Prop where
  master : fmt &&& daifmtMasterMask ∈ [daifmtCbmCfm, daifmtCbsCfs]
  format : fmt &&& daifmtFormatMask ∈
    [daifmtI2s, daifmtLeftJ, daifmtDspA, daifmtDspB]
  inversion : fmt &&& daifmtInvMask ∈
    [daifmtNbNf, daifmtIbIf, daifmtIbNf, daifmtNbIf]

theorem es8316SetFormat_isSome (fmt : BitVec 32) (bits : Iface) :
    (es8316SetFormat fmt bits).isSome = true ↔ fmt &&& daifmtFormatMask ∈
      [daifmtI2s, daifmtLeftJ, daifmtDspA, daifmtDspB] := by
  unfold es8316SetFormat
  dsimp only
  generalize fmt &&& daifmtFormatMask = format
  by_cases known : format ∈ [daifmtI2s, daifmtLeftJ, daifmtDspA, daifmtDspB]
  · refine ⟨fun _ => known, fun _ => ?_⟩
    simp only [List.mem_cons, List.not_mem_nil, or_false] at known
    rcases known with rfl | rfl | rfl | rfl <;> rfl
  · refine ⟨fun some => ?_, fun member => absurd member known⟩
    simp only [List.mem_cons, List.not_mem_nil, or_false, not_or] at known
    rw [if_neg known.1, if_neg known.2.1, if_neg known.2.2.1,
      if_neg known.2.2.2, ite_self] at some
    cases some

theorem es8316SetInversion_isSome (fmt : BitVec 32) (bits : Iface) :
    (es8316SetInversion fmt bits).isSome = true ↔ fmt &&& daifmtInvMask ∈
      [daifmtNbNf, daifmtIbIf, daifmtIbNf, daifmtNbIf] := by
  unfold es8316SetInversion
  dsimp only
  generalize fmt &&& daifmtInvMask = inv
  by_cases known : inv ∈ [daifmtNbNf, daifmtIbIf, daifmtIbNf, daifmtNbIf]
  · refine ⟨fun _ => known, fun _ => ?_⟩
    simp only [List.mem_cons, List.not_mem_nil, or_false] at known
    rcases known with rfl | rfl | rfl | rfl <;> rfl
  · refine ⟨fun some => ?_, fun member => absurd member known⟩
    simp only [List.mem_cons, List.not_mem_nil, or_false, not_or] at known
    rw [if_neg known.1, if_neg known.2.1, if_neg known.2.2.1,
      if_neg known.2.2.2] at some
    cases some

/-- `es8316_set_dai_fmt` refuses a word before it writes anything. -/
theorem es8316SetDaiFmt_spec (codec : Codec) (fmt : BitVec 32) :
    (Es8316Accepts fmt ∧ (es8316SetDaiFmt codec fmt).1 = 0) ∨
    (¬Es8316Accepts fmt ∧ es8316SetDaiFmt codec fmt = (einval, codec)) := by
  rw [es8316SetDaiFmt]
  dsimp only
  generalize Iface.mk _ _ _ = bits
  rcases setMaster_spec fmt bits with ⟨master, set⟩ | ⟨unknown, none⟩
  · rw [set, Option.bind_some]
    generalize ({ bits with iface := _ } : Iface) = bits
    have format := es8316SetFormat_isSome fmt bits
    cases set : es8316SetFormat fmt bits with
    | none =>
        rw [set] at format
        refine .inr ⟨fun accepts => ?_, rfl⟩
        exact absurd (format.mpr accepts.format) (by decide)
    | some bits' =>
        rw [set] at format
        rw [Option.bind_some]
        have inversion := es8316SetInversion_isSome fmt bits'
        cases set : es8316SetInversion fmt bits' with
        | none =>
            rw [set] at inversion
            refine .inr ⟨fun accepts => ?_, rfl⟩
            exact absurd (inversion.mpr accepts.inversion) (by decide)
        | some bits'' =>
            rw [set] at inversion
            exact .inl ⟨⟨master, format.mp rfl, inversion.mp rfl⟩, rfl⟩
  · rw [none]
    exact .inr ⟨fun accepts => unknown accepts.master, rfl⟩

theorem es8316PllOut_eq (rate : Nat) :
    es8316PllOut rate =
      if (pllOut rate).2 = 0 then some (pllOut rate).1 else none := by
  unfold es8316PllOut pllOut
  split
  · rfl
  · split <;> rfl

/-- The word is refused, or the controller's format is set; the dividers are
set too if the rate is supported. -/
theorem es8316HwParams_spec (link : Es8316Link) (fmt : BitVec 32) (rate : Nat)
    (clkRet : Int) :
    (¬Es8316Accepts fmt ∧
      es8316HwParams link fmt rate clkRet = (einval, link)) ∨
    (Es8316Accepts fmt ∧ (pllOut rate).2 ≠ 0 ∧
      (es8316HwParams link fmt rate clkRet).1 = einval ∧
      (es8316HwParams link fmt rate clkRet).2.regs =
        (rockchipI2sSetFmt link.regs fmt).2) ∨
    (Es8316Accepts fmt ∧ (pllOut rate).2 = 0 ∧
      (es8316HwParams link fmt rate clkRet).1 = 0 ∧
      (es8316HwParams link fmt rate clkRet).2.regs =
        setClocks (rockchipI2sSetFmt link.regs fmt).2 fmt rate) := by
  have cpu := rockchipI2sSetFmt_ret link.regs fmt
  unfold es8316HwParams
  rcases es8316SetDaiFmt_spec link.chip.regs fmt with
    ⟨accepts, set⟩ | ⟨refuses, refused⟩
  · right
    by_cases supported : (pllOut rate).2 = 0
    · refine .inr ⟨accepts, supported, ?_⟩
      have pll : es8316PllOut rate = some (pllOut rate).1 := by
        rw [es8316PllOut_eq, if_pos supported]
      simp only [set, cpu, pll, Int.lt_irrefl, if_false]
      rw [setClocks]
      split <;> exact ⟨rfl, rfl⟩
    · refine .inl ⟨accepts, supported, ?_⟩
      have pll : es8316PllOut rate = none := by
        rw [es8316PllOut_eq, if_neg supported]
      simp only [set, cpu, pll, Int.lt_irrefl, if_false, and_self]
  · left
    have negative : einval < 0 := by decide
    simp only [refused, negative, if_true, and_true]
    exact refuses

end KernelDrivers.Sound
