import KernelDrivers.Sound.I2s

/-!
# The parameters of the audio link

`rk3288_hw_params` of the machine driver sets the same format on the codec and
on the controller.  Register writes succeed.
-/

namespace KernelDrivers.Sound

open KernelDrivers.Library

abbrev Codec := RegisterFile 8

abbrev Controller := RegisterFile 32

abbrev daifmtI2s : BitVec 32 := 1
abbrev daifmtRightJ : BitVec 32 := 2
abbrev daifmtLeftJ : BitVec 32 := 3
abbrev daifmtDspA : BitVec 32 := 4
abbrev daifmtDspB : BitVec 32 := 5

abbrev daifmtNbNf : BitVec 32 := 0x100
abbrev daifmtNbIf : BitVec 32 := 0x200
abbrev daifmtIbNf : BitVec 32 := 0x300
abbrev daifmtIbIf : BitVec 32 := 0x400

abbrev daifmtCbmCfm : BitVec 32 := 0x1000
abbrev daifmtCbsCfs : BitVec 32 := 0x4000

abbrev daifmtFormatMask : BitVec 32 := 0x000f
abbrev daifmtInvMask : BitVec 32 := 0x0f00
abbrev daifmtMasterMask : BitVec 32 := 0xf000

abbrev es8323Iface : Nat := 0x08
abbrev es8323AdcIface : Nat := 0x0c
abbrev es8323DacIface : Nat := 0x17

/-- The three interface registers as `es8323_set_dai_fmt` holds them. -/
structure Iface where
  iface : BitVec 8
  adciface : BitVec 8
  daciface : BitVec 8

/-- The first switch: master or slave. -/
def setMaster (fmt : BitVec 32) (bits : Iface) : Option Iface :=
  let master := fmt &&& daifmtMasterMask
  if master = daifmtCbmCfm then
    some { bits with iface := bits.iface ||| 0x80 }
  else if master = daifmtCbsCfs then
    some { bits with iface := bits.iface &&& 0x7f }
  else none

/-- The second switch: only one format changes the registers. -/
def setFormat (fmt : BitVec 32) (bits : Iface) : Option Iface :=
  let format := fmt &&& daifmtFormatMask
  if format = daifmtI2s then
    some { bits with
      adciface := bits.adciface &&& 0xfc
      daciface := bits.daciface &&& 0xf9 }
  else if format = daifmtRightJ then some bits
  else if format = daifmtLeftJ then some bits
  else if format = daifmtDspA then some bits
  else if format = daifmtDspB then some bits
  else none

/-- The third switch: clock inversion. -/
def setInversion (fmt : BitVec 32) (bits : Iface) : Option Iface :=
  let inv := fmt &&& daifmtInvMask
  if inv = daifmtNbNf then
    some { iface := bits.iface &&& 0xdf
           adciface := bits.adciface &&& 0xdf
           daciface := bits.daciface &&& 0xbf }
  else if inv = daifmtIbIf then
    some { iface := bits.iface ||| 0x20
           adciface := bits.adciface ||| 0x20
           daciface := bits.daciface ||| 0x40 }
  else if inv = daifmtIbNf then
    some { iface := bits.iface ||| 0x20
           adciface := bits.adciface &&& 0xdf
           daciface := bits.daciface &&& 0xbf }
  else if inv = daifmtNbIf then
    some { iface := bits.iface &&& 0xdf
           adciface := bits.adciface ||| 0x20
           daciface := bits.daciface ||| 0x40 }
  else none

def es8323SetDaiFmt (codec : Codec) (fmt : BitVec 32) : Int × Codec :=
  let bits : Iface := { iface := codec es8323Iface
                        adciface := codec es8323AdcIface
                        daciface := codec es8323DacIface }
  match ((setMaster fmt bits).bind (setFormat fmt)).bind (setInversion fmt) with
  | none => (einval, codec)
  | some bits =>
      let codec := codec.write es8323Iface bits.iface
      let codec := codec.write es8323AdcIface bits.adciface
      (0, codec.write es8323DacIface bits.daciface)

abbrev i2sCkrMssMask : BitVec 32 := 1 <<< 27
abbrev i2sCkrMssMaster : BitVec 32 := 0 <<< 27
abbrev i2sCkrMssSlave : BitVec 32 := 1 <<< 27
abbrev i2sIbmMask : BitVec 32 := 3 <<< 9
abbrev i2sIbmNormal : BitVec 32 := 0 <<< 9
abbrev i2sIbmLsjm : BitVec 32 := 1 <<< 9
abbrev i2sIbmRsjm : BitVec 32 := 2 <<< 9

/-- The field value that either format switch chooses. -/
def ibmValue (fmt : BitVec 32) : Option (BitVec 32) :=
  let format := fmt &&& daifmtFormatMask
  if format = daifmtRightJ then some i2sIbmRsjm
  else if format = daifmtLeftJ then some i2sIbmLsjm
  else if format = daifmtI2s then some i2sIbmNormal
  else none

def mssValue (fmt : BitVec 32) : Option (BitVec 32) :=
  let master := fmt &&& daifmtMasterMask
  if master = daifmtCbsCfs then some i2sCkrMssMaster
  else if master = daifmtCbmCfm then some i2sCkrMssSlave
  else none

/-- `rockchip_i2s_set_fmt`: every path ends in `return 0`. -/
def rockchipI2sSetFmt (regs : Controller) (fmt : BitVec 32) :
    Int × Controller :=
  match mssValue fmt with
  | none => (0, regs)
  | some val =>
      let regs := regs.updateBits i2sCkr i2sCkrMssMask val
      match ibmValue fmt with
      | none => (0, regs)
      | some val =>
          let regs := regs.updateBits i2sTxcr i2sIbmMask val
          (0, regs.updateBits i2sRxcr i2sIbmMask val)

abbrev rockchipDivMclk : Int := 0
abbrev rockchipDivBclk : Int := 1

def rockchipI2sSetClkdiv (regs : Controller) (divId : Int) (div : BitVec 32) :
    Int × Controller :=
  if divId = rockchipDivBclk then
    (0, regs.updateBits i2sCkr ((0xff <<< 0) ||| (0xff <<< 8))
      ((div <<< 0) ||| (div <<< 8)))
  else if divId = rockchipDivMclk then
    (0, regs.updateBits i2sCkr (0xff <<< 16) (div <<< 16))
  else (einval, regs)

def rates12288 : List Nat := [8000, 16000, 24000, 32000, 48000]

def rates11289 : List Nat := [11025, 22050, 44100]

/-- `pll_out` and `ret` after the switch over the rate. -/
def pllOut (rate : Nat) : Nat × Int :=
  if rate ∈ rates12288 then (12288000, 0)
  else if rate ∈ rates11289 then (11289600, 0)
  else (0, -1)

/-- `rk3288_hw_params`.  A rate of 0 is a division by zero. -/
def hwParams (codec : Codec) (regs : Controller) (fmt : BitVec 32)
    (rate : Nat) : Option (Int × Codec × Controller) :=
  let codecSet := es8323SetDaiFmt codec fmt
  if codecSet.1 < 0 then some (codecSet.1, codecSet.2, regs)
  else
    let cpuSet := rockchipI2sSetFmt regs fmt
    if cpuSet.1 < 0 then some (cpuSet.1, codecSet.2, cpuSet.2)
    else if rate = 0 then none
    else
      let pll := pllOut rate
      let regs :=
        if fmt &&& daifmtMasterMask = daifmtCbsCfs then
          let div := BitVec.ofInt 32 (((pll.1 / 4 / rate : Nat) : Int) - 1)
          let regs := (rockchipI2sSetClkdiv cpuSet.2 rockchipDivBclk div).2
          (rockchipI2sSetClkdiv regs rockchipDivMclk 3).2
        else cpuSet.2
      some (pll.2, codecSet.2, regs)

end KernelDrivers.Sound
