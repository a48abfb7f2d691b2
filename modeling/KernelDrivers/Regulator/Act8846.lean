import KernelDrivers.Library.RegisterFile
import KernelDrivers.Regulator.VoltageMap
import Mathlib.Algebra.GroupWithZero.Nat

/-!
# The ACT8846 regulators

The operations of `act8846_dcdc_ops` and `act8846_ldo_ops` on the registers of
the chip, with a regmap that is a byte store.  The LDO address tables end one
entry before the last LDO; an index outside its table is `none`.
-/

namespace KernelDrivers.Act8846

open KernelDrivers.Library KernelDrivers.Regulator

scoped instance neZeroBucks : NeZero 4 := ⟨by decide⟩

scoped instance neZeroLdos : NeZero 9 := ⟨by decide⟩

/-- The registers behind the regmap. -/
abbrev Chip := RegisterFile 8

def buckVoltageMap : List Int :=
  [600, 625, 650, 675, 700, 725, 750, 775, 800, 825, 850, 875, 900, 925, 950,
    975, 1000, 1025, 1050, 1075, 1100, 1125, 1150, 1175, 1200, 1250, 1300,
    1350, 1400, 1450, 1500, 1550, 1600, 1650, 1700, 1750, 1800, 1850, 1900,
    1950, 2000, 2050, 2100, 2150, 2200, 2250, 2300, 2350, 2400, 2500, 2600,
    2700, 2800, 2900, 3000, 3100, 3200, 3300, 3400, 3500, 3600, 3700, 3800,
    3900]

def ldoVoltageMap : List Int :=
  [600, 625, 650, 675, 700, 725, 750, 775, 800, 825, 850, 875, 900, 925, 950,
    975, 1000, 1025, 1050, 1075, 1100, 1125, 1150, 1175, 1200, 1250, 1300,
    1350, 1400, 1450, 1500, 1550, 1600, 1650, 1700, 1750, 1800, 1850, 1900,
    1950, 2000, 2050, 2100, 2150, 2200, 2250, 2300, 2350, 2400, 2500, 2600,
    2700, 2800, 2900, 3000, 3100, 3200, 3300, 3400, 3500, 3600, 3700, 3800,
    3900]

def ldoSetVolBaseAddr : List Nat :=
  [0x50, 0x58, 0x60, 0x68, 0x70, 0x80, 0x90, 0xa0]

def ldoContrBaseAddr : List Nat :=
  [0x51, 0x59, 0x61, 0x69, 0x71, 0x81, 0x91, 0xa1]

def buckSetVolBaseAddr : List Nat :=
  [0x10, 0x20, 0x30, 0x40]

def buckContrBaseAddr : List Nat :=
  [0x12, 0x22, 0x32, 0x42]

abbrev volMinIdx : Nat := 0x00
abbrev volMaxIdx : Nat := 0x3f
abbrev buckVolMask : Nat := 0x3f
abbrev ldoVolMask : Nat := 0x3f

/-- `-EINVAL`. -/
abbrev einval : Int := -22

abbrev modeNormal : Nat := 0x2
abbrev modeStandby : Nat := 0x8

/-- `min_vol < vol_map[VOL_MIN_IDX] || min_vol > vol_map[VOL_MAX_IDX]`. -/
def outOfRange (volMap : List Int) (minVol : Int) : Prop :=
  minVol < volMap.getD volMinIdx 0 ∨ minVol > volMap.getD volMaxIdx 0

instance (volMap : List Int) (minVol : Int) :
    Decidable (outOfRange volMap minVol) :=
  inferInstanceAs (Decidable (_ ∨ _))

/-- A voltage above the maximum is only warned about. -/
def dcdcSetVoltage (chip : Chip) (buck : Fin 4) (minUV _maxUV : Int) :
    Option (Int × Chip) :=
  let minVol := minUV.tdiv 1000
  if outOfRange buckVoltageMap minVol then some (einval, chip)
  else
    let val := firstAtLeast buckVoltageMap volMaxIdx minVol
    match buckSetVolBaseAddr[buck.val]? with
    | none => none
    | some reg =>
        some (0, chip.updateBits reg (BitVec.ofNat 8 buckVolMask)
          (BitVec.ofNat 8 val))

def dcdcGetVoltage (chip : Chip) (buck : Fin 4) : Option Int :=
  match buckSetVolBaseAddr[buck.val]? with
  | none => none
  | some reg =>
      microvolts buckVoltageMap
        (chip reg &&& BitVec.ofNat 8 buckVolMask).toNat

def ldoSetVoltage (chip : Chip) (ldo : Fin 9) (minUV maxUV : Int) :
    Option (Int × Chip) :=
  let minVol := minUV.tdiv 1000
  let maxVol := maxUV.tdiv 1000
  if outOfRange ldoVoltageMap minVol then some (einval, chip)
  else
    let val := firstAtLeast ldoVoltageMap volMaxIdx minVol
    if ldoVoltageMap.getD val 0 > maxVol then some (einval, chip)
    else
      match ldoSetVolBaseAddr[ldo.val]? with
      | none => none
      | some reg =>
          some (0, chip.updateBits reg (BitVec.ofNat 8 ldoVolMask)
            (BitVec.ofNat 8 val))

/-- The register is read into `val`, and the table is indexed by `reg`, which
holds whatever the stack held. -/
def ldoGetVoltage (_chip : Chip) (ldo : Fin 9) (reg : BitVec 32) :
    Option Int :=
  match ldoSetVolBaseAddr[ldo.val]? with
  | none => none
  | some _ =>
      microvolts ldoVoltageMap (reg &&& BitVec.ofNat 32 ldoVolMask).toNat

def isEnabledAt (chip : Chip) (reg : Nat) : Int :=
  let val := chip reg &&& ~~~0x7f
  if val &&& 0x80 ≠ 0 then 1 else 0

def enableAt (chip : Chip) (reg : Nat) : Chip :=
  chip.updateBits reg 0x80 0x80

def disableAt (chip : Chip) (reg : Nat) : Chip :=
  chip.updateBits reg 0x80 0

def getModeAt (mask : BitVec 8) (chip : Chip) (reg : Nat) : Nat :=
  if chip reg &&& mask = mask then modeNormal else modeStandby

def setModeAt (mode : Nat) (chip : Chip) (reg : Nat) : Int × Chip :=
  if mode = modeStandby then (0, chip.updateBits reg 0x80 0)
  else if mode = modeNormal then (0, chip.updateBits reg 0x80 0x80)
  else (einval, chip)

def dcdcIsEnabled (chip : Chip) (buck : Fin 4) : Option Int :=
  buckContrBaseAddr[buck.val]?.map (isEnabledAt chip)

def dcdcEnable (chip : Chip) (buck : Fin 4) : Option Chip :=
  buckContrBaseAddr[buck.val]?.map (enableAt chip)

def dcdcDisable (chip : Chip) (buck : Fin 4) : Option Chip :=
  buckContrBaseAddr[buck.val]?.map (disableAt chip)

def dcdcGetMode (chip : Chip) (buck : Fin 4) : Option Nat :=
  buckContrBaseAddr[buck.val]?.map (getModeAt 0x08 chip)

def dcdcSetMode (chip : Chip) (buck : Fin 4) (mode : Nat) :
    Option (Int × Chip) :=
  buckContrBaseAddr[buck.val]?.map (setModeAt mode chip)

def ldoIsEnabled (chip : Chip) (ldo : Fin 9) : Option Int :=
  ldoContrBaseAddr[ldo.val]?.map (isEnabledAt chip)

def ldoEnable (chip : Chip) (ldo : Fin 9) : Option Chip :=
  ldoContrBaseAddr[ldo.val]?.map (enableAt chip)

def ldoDisable (chip : Chip) (ldo : Fin 9) : Option Chip :=
  ldoContrBaseAddr[ldo.val]?.map (disableAt chip)

def ldoGetMode (chip : Chip) (ldo : Fin 9) : Option Nat :=
  ldoContrBaseAddr[ldo.val]?.map (getModeAt 0x80 chip)

def ldoSetMode (chip : Chip) (ldo : Fin 9) (mode : Nat) :
    Option (Int × Chip) :=
  ldoContrBaseAddr[ldo.val]?.map (setModeAt mode chip)

/-- The entries of `regulators`. -/
inductive Regulator where
  | dcdc (buck : Fin 4)
  | ldo (ldo : Fin 9)
  deriving DecidableEq

/-- `get_voltage`, with what an uninitialised variable holds. -/
def getVoltage (chip : Chip) (stack : BitVec 32) : Regulator → Option Int
  | .dcdc buck => dcdcGetVoltage chip buck
  | .ldo ldo => ldoGetVoltage chip ldo stack

def setVoltage (chip : Chip) (regulator : Regulator) (minUV maxUV : Int) :
    Option (Int × Chip) :=
  match regulator with
  | .dcdc buck => dcdcSetVoltage chip buck minUV maxUV
  | .ldo ldo => ldoSetVoltage chip ldo minUV maxUV

def isEnabled (chip : Chip) : Regulator → Option Int
  | .dcdc buck => dcdcIsEnabled chip buck
  | .ldo ldo => ldoIsEnabled chip ldo

def getMode (chip : Chip) : Regulator → Option Nat
  | .dcdc buck => dcdcGetMode chip buck
  | .ldo ldo => ldoGetMode chip ldo

end KernelDrivers.Act8846
