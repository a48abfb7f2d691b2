import KernelDrivers.Library.RegisterFile
import KernelDrivers.Regulator.VoltageMap
import Mathlib.Algebra.GroupWithZero.Nat

/-!
# The RK818 regulators

The operations of `rk818_dcdc_ops` and `rk818_ldo_ops` on the registers of the
chip, with i2c transfers that succeed.  A table index outside its table is
`none`: the C code then reads whatever lies behind the table.
-/

namespace KernelDrivers.Rk818

open KernelDrivers.Library KernelDrivers.Regulator

scoped instance neZeroBucks : NeZero 4 := ⟨by decide⟩

scoped instance neZeroLdos : NeZero 10 := ⟨by decide⟩

/-- The registers of the chip. -/
abbrev Chip := RegisterFile 8

abbrev dcdcEnReg : Nat := 0x23
abbrev ldoEnReg : Nat := 0x24
abbrev sleepSetOffReg1 : Nat := 0x25
abbrev sleepSetOffReg2 : Nat := 0x26

def buckSetVolBaseAddr : Fin 4 → Nat
  | 0 => 0x2f
  | 1 => 0x33
  | 2 => 0x36
  | 3 => 0x38

def buckSetSlpVolBaseAddr : Fin 4 → Nat
  | 0 => 0x30
  | 1 => 0x34
  | 2 => 0x36
  | 3 => 0x39

def ldoSetVolBaseAddr : List Nat :=
  [0x3b, 0x3d, 0x3f, 0x41, 0x43, 0x45, 0x47, 0x49, 0x54]

def ldoSetSlpVolBaseAddr : List Nat :=
  [0x3c, 0x3e, 0x40, 0x42, 0x44, 0x46, 0x48, 0x4a, 0x55]

def buck4VoltageMap : List Int :=
  [1800, 1900, 2000, 2100, 2200, 2300, 2400, 2500, 2600, 2700, 2800, 2900,
    3000, 3100, 3200, 3300, 3400, 3500, 3600]

def ldoVoltageMap : List Int :=
  [1800, 1900, 2000, 2100, 2200, 2300, 2400, 2500, 2600, 2700, 2800, 2900,
    3000, 3100, 3200, 3300, 3400]

def ldo3VoltageMap : List Int :=
  [800, 900, 1000, 1100, 1200, 1300, 1400, 1500, 1600, 1700, 1800, 1900,
    2000, 2100, 2200, 2500]

def ldo6VoltageMap : List Int :=
  [800, 900, 1000, 1100, 1200, 1300, 1400, 1500, 1600, 1700, 1800, 1900,
    2000, 2100, 2200, 2300, 2400, 2500]

abbrev buckVolMask : BitVec 8 := 0x3f
abbrev ldoVolMask : BitVec 8 := 0x3f
abbrev ldo9VolMask : BitVec 8 := 0x1f

/-- `-EINVAL`. -/
abbrev einval : Int := -22

/-- `1 << index` as a register value. -/
abbrev flag (index : Nat) : BitVec 8 :=
  BitVec.twoPow 8 index

def ldoIsEnabled (chip : Chip) (ldo : Fin 10) : Int :=
  if ldo = 8 then
    if chip.bit dcdcEnReg 5 then 1 else 0
  else if chip.bit ldoEnReg ldo then 1 else 0

def ldoEnable (chip : Chip) (ldo : Fin 10) : Chip :=
  if ldo = 8 then chip.setBits dcdcEnReg (flag 5) (flag 5)
  else if ldo = 9 then chip.setBits dcdcEnReg (flag 6) (flag 6)
  else chip.setBits ldoEnReg (flag ldo) (flag ldo)

def ldoDisable (chip : Chip) (ldo : Fin 10) : Chip :=
  if ldo = 8 then chip.setBits dcdcEnReg (flag 5) (flag 0)
  else if ldo = 9 then chip.setBits dcdcEnReg (flag 6) (flag 0)
  else chip.setBits ldoEnReg (flag ldo) 0

def ldoSuspendEnable (chip : Chip) (ldo : Fin 10) : Chip :=
  if ldo = 8 then chip.setBits sleepSetOffReg1 (flag 5) 0
  else if ldo = 9 then chip.setBits sleepSetOffReg1 (flag 6) 0
  else chip.setBits sleepSetOffReg2 (flag ldo) 0

def ldoSuspendDisable (chip : Chip) (ldo : Fin 10) : Chip :=
  if ldo = 8 then chip.setBits sleepSetOffReg1 (flag 5) (flag 5)
  else if ldo = 9 then chip.setBits sleepSetOffReg1 (flag 6) (flag 6)
  else chip.setBits sleepSetOffReg2 (flag ldo) (flag ldo)

/-- The map of an LDO, with `num`, the index of its last entry. -/
def ldoVolMap (ldo : Fin 10) : List Int × Nat :=
  if ldo = 2 then (ldo3VoltageMap, 15)
  else if ldo = 5 ∨ ldo = 6 then (ldo6VoltageMap, 17)
  else (ldoVoltageMap, 16)

/-- `min_vol < vol_map[0] || min_vol > vol_map[num]`. -/
def ldoOutOfRange (ldo : Fin 10) (minVol : Int) : Prop :=
  minVol < (ldoVolMap ldo).1.headD 0 ∨
    minVol > (ldoVolMap ldo).1.getD (ldoVolMap ldo).2 0

instance (ldo : Fin 10) (minVol : Int) : Decidable (ldoOutOfRange ldo minVol) :=
  inferInstanceAs (Decidable (_ ∨ _))

def ldoMask (ldo : Fin 10) : BitVec 8 :=
  if ldo = 8 then ldo9VolMask else ldoVolMask

/-- The common body of the two voltage setters, which differ in the address
table. -/
def ldoSetVoltageIn (table : List Nat) (chip : Chip) (ldo : Fin 10)
    (uV : Int) : Option (Int × Chip) :=
  let minVol := uV.tdiv 1000
  if ldoOutOfRange ldo minVol then some (einval, chip)
  else
    let val := firstAtLeast (ldoVolMap ldo).1 (ldoVolMap ldo).2 minVol
    match table[ldo.val]? with
    | none => none
    | some reg => some (0, chip.setBits reg (ldoMask ldo) (BitVec.ofNat 8 val))

def ldoSetVoltage (chip : Chip) (ldo : Fin 10) (minUV _maxUV : Int) :
    Option (Int × Chip) :=
  ldoSetVoltageIn ldoSetVolBaseAddr chip ldo minUV

def ldoSetSleepVoltage (chip : Chip) (ldo : Fin 10) (uV : Int) :
    Option (Int × Chip) :=
  ldoSetVoltageIn ldoSetSlpVolBaseAddr chip ldo uV

def ldoGetVoltage (chip : Chip) (ldo : Fin 10) : Option Int :=
  if ldo = 9 then
    microvolts buck4VoltageMap
      (chip (buckSetVolBaseAddr 3) &&& buckVolMask).toNat
  else
    match ldoSetVolBaseAddr[ldo.val]? with
    | none => none
    | some reg =>
        microvolts (ldoVolMap ldo).1 (chip reg &&& ldoMask ldo).toNat

def dcdcIsEnabled (chip : Chip) (buck : Fin 4) : Int :=
  if chip.bit dcdcEnReg buck then 1 else 0

def dcdcEnable (chip : Chip) (buck : Fin 4) : Chip :=
  chip.setBits dcdcEnReg (flag buck) (flag buck)

def dcdcDisable (chip : Chip) (buck : Fin 4) : Chip :=
  chip.setBits dcdcEnReg (flag buck) 0

def dcdcListVoltage (buck : Fin 4) (selector : Nat) : Int :=
  if selector > 0x3f then einval
  else
    match buck with
    | 0 => 712500 + selector * 12500
    | 1 => 712500 + selector * 12500
    | 3 => 1800000 + selector * 100000
    | 2 => 1200000

def dcdcGetVoltage (chip : Chip) (buck : Fin 4) : Int :=
  dcdcListVoltage buck (chip (buckSetVolBaseAddr buck) &&& buckVolMask).toNat

/-- The selector before the maximum is checked, or none. -/
def dcdcVsel (minUV : Int) (buck : Fin 4) : Option Nat :=
  if buck = 0 ∨ buck = 1 then
    if minUV < 712500 then some 0
    else if minUV ≤ 1500000 then some ((minUV - 712500).tdiv 12500).toNat
    else none
  else if buck = 3 then
    if minUV < 1800000 then some 0
    else if minUV ≤ 3300000 then some ((minUV - 1800000).tdiv 100000).toNat
    else none
  else some 0

def dcdcSelectMinVoltage (minUV maxUV : Int) (buck : Fin 4) : Int :=
  match dcdcVsel minUV buck with
  | none => einval
  | some vsel =>
      if dcdcListVoltage buck vsel > maxUV then einval else vsel

/-- The value, negative when it is an error, is cut to the register's width. -/
def dcdcSetVoltage (chip : Chip) (buck : Fin 4) (minUV maxUV : Int) :
    Int × Chip :=
  let reg := buckSetVolBaseAddr buck
  let val := BitVec.ofInt 8 (dcdcSelectMinVoltage minUV maxUV buck)
  if buck = 2 then (0, chip)
  else
    let chip := if buck = 3 then chip.setBits reg buckVolMask val else chip
    (0, chip.setBits reg buckVolMask val)

def dcdcSetSleepVoltage (chip : Chip) (buck : Fin 4) (uV : Int) : Int × Chip :=
  if buck = 2 then (0, chip)
  else
    (0, chip.setBits (buckSetSlpVolBaseAddr buck) buckVolMask
      (BitVec.ofInt 8 (dcdcSelectMinVoltage uV uV buck)))

/-- `REGULATOR_MODE_FAST` and `REGULATOR_MODE_NORMAL`. -/
abbrev modeFast : Nat := 0x1
abbrev modeNormal : Nat := 0x2

/-- The common body of the two mode setters, which differ in the register. -/
def dcdcSetModeIn (reg : Nat) (chip : Chip) (mode : Nat) : Int × Chip :=
  if mode = modeFast then (0, chip.setBits reg 0x80 0x80)
  else if mode = modeNormal then (0, chip.setBits reg 0x80 0)
  else (einval, chip)

def dcdcSetMode (chip : Chip) (buck : Fin 4) (mode : Nat) : Int × Chip :=
  dcdcSetModeIn (buckSetVolBaseAddr buck) chip mode

def dcdcSetSuspendMode (chip : Chip) (buck : Fin 4) (mode : Nat) :
    Int × Chip :=
  dcdcSetModeIn (buckSetVolBaseAddr buck + 0x01) chip mode

def dcdcSuspendEnable (chip : Chip) (buck : Fin 4) : Chip :=
  chip.setBits sleepSetOffReg1 (flag buck) 0

def dcdcSuspendDisable (chip : Chip) (buck : Fin 4) : Chip :=
  chip.setBits sleepSetOffReg1 (flag buck) (flag buck)

/-- The entries of `regulators`. -/
inductive Regulator where
  | dcdc (buck : Fin 4)
  | ldo (ldo : Fin 10)
  deriving DecidableEq

def isEnabled (chip : Chip) : Regulator → Int
  | .dcdc buck => dcdcIsEnabled chip buck
  | .ldo ldo => ldoIsEnabled chip ldo

def getVoltage (chip : Chip) : Regulator → Option Int
  | .dcdc buck => some (dcdcGetVoltage chip buck)
  | .ldo ldo => ldoGetVoltage chip ldo

def setVoltage (chip : Chip) (regulator : Regulator) (minUV maxUV : Int) :
    Option (Int × Chip) :=
  match regulator with
  | .dcdc buck => some (dcdcSetVoltage chip buck minUV maxUV)
  | .ldo ldo => ldoSetVoltage chip ldo minUV maxUV

end KernelDrivers.Rk818
