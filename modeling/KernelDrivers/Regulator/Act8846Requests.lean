import KernelDrivers.Library.Purge
import KernelDrivers.Regulator.Act8846Mode
import KernelDrivers.Regulator.Act8846Voltage

/-!
# What the ACT8846 answers after any requests

The operations of both tables on all regulators, in any order.  A buck reads
the voltage of the last request that it accepted, and every rail is on or off
as it was last switched or put in a mode.
-/

namespace KernelDrivers.Act8846

open KernelDrivers.Library KernelDrivers.Regulator

/-- `act8846_dcdc_set_sleep_voltage`. -/
def dcdcSetSleepVoltage (chip : Chip) (buck : Fin 4) (uV : Int) :
    Option (Int × Chip) :=
  let minVol := uV.tdiv 1000
  if outOfRange buckVoltageMap minVol then some (einval, chip)
  else
    let val := firstAtLeast buckVoltageMap volMaxIdx minVol
    match buckSetVolBaseAddr[buck.val]? with
    | none => none
    | some reg =>
        some (0, chip.updateBits (reg + 0x01) (BitVec.ofNat 8 buckVolMask)
          (BitVec.ofNat 8 val))

/-- The operations that write. -/
inductive Adjustment where
  | setVoltage (regulator : Regulator) (minUV maxUV : Int)
  | setSuspendVoltage (buck : Fin 4) (uV : Int)
  | enable (regulator : Regulator)
  | disable (regulator : Regulator)
  | setMode (regulator : Regulator) (mode : Nat)

/-- The registers after the operation, unless a table was left. -/
def Adjustment.run (chip : Chip) : Adjustment → Option Chip
  | .setVoltage regulator minUV maxUV =>
      (Act8846.setVoltage chip regulator minUV maxUV).map Prod.snd
  | .setSuspendVoltage buck uV =>
      (dcdcSetSleepVoltage chip buck uV).map Prod.snd
  | .enable (.dcdc buck) => dcdcEnable chip buck
  | .enable (.ldo ldo) => ldoEnable chip ldo
  | .disable (.dcdc buck) => dcdcDisable chip buck
  | .disable (.ldo ldo) => ldoDisable chip ldo
  | .setMode (.dcdc buck) mode => (dcdcSetMode chip buck mode).map Prod.snd
  | .setMode (.ldo ldo) mode => (ldoSetMode chip ldo mode).map Prod.snd

/-- What a buck reads after a request for a voltage that the map reaches: the
least entry that is not below it. -/
def granted (minVol : Int) : Option Int :=
  (buckVoltageMap.find? fun vol => decide (minVol ≤ vol)).map (1000 * ·)

/-- The voltage that the operation gives to a buck. -/
def Adjustment.voltageOf (buck : Fin 4) : Adjustment → Option (Option Int)
  | .setVoltage (.dcdc other) minUV _ =>
      if other = buck ∧ 600 ≤ minUV.tdiv 1000 ∧ minUV.tdiv 1000 ≤ 3900 then
        some (granted (minUV.tdiv 1000))
      else none
  | _ => none

/-- How the operation switches a regulator, by either of the two ways. -/
def Adjustment.switchOf (regulator : Regulator) : Adjustment → Option (Option Int)
  | .enable other => if other = regulator then some (some 1) else none
  | .disable other => if other = regulator then some (some 0) else none
  | .setMode other mode =>
      if other = regulator ∧ mode = modeNormal then some (some 1)
      else if other = regulator ∧ mode = modeStandby then some (some 0)
      else none
  | _ => none

private inductive Cell where
  | voltage
  | sleep
  | control
  deriving DecidableEq

/-- Where the tables put the registers of a regulator. -/
private def address : Regulator → Cell → Option Nat
  | .dcdc buck, .voltage => buckSetVolBaseAddr[buck.val]?
  | .dcdc buck, .sleep => (buckSetVolBaseAddr[buck.val]?).map (· + 0x01)
  | .dcdc buck, .control => buckContrBaseAddr[buck.val]?
  | .ldo ldo, .voltage => ldoSetVolBaseAddr[ldo.val]?
  | .ldo _, .sleep => none
  | .ldo ldo, .control => ldoContrBaseAddr[ldo.val]?

private def regulators : List Regulator :=
  (List.finRange 4).map .dcdc ++ (List.finRange 9).map .ldo

private theorem mem_regulators (regulator : Regulator) :
    regulator ∈ regulators := by
  cases regulator <;> simp [regulators]

private theorem address_apart :
    ∀ regulator ∈ regulators, ∀ other ∈ regulators,
      ∀ cell ∈ [Cell.voltage, .sleep, .control],
        ∀ cell' ∈ [Cell.voltage, .sleep, .control],
          (address regulator cell).isSome →
            address regulator cell = address other cell' →
            regulator = other ∧ cell = cell' := by
  decide +kernel

private theorem address_injective {regulator other : Regulator}
    {cell cell' : Cell} {reg : Nat} (found : address regulator cell = some reg)
    (found' : address other cell' = some reg) :
    regulator = other ∧ cell = cell' := by
  have listed : ∀ cell : Cell, cell ∈ [Cell.voltage, .sleep, .control] := by
    intro cell
    cases cell <;> simp
  apply address_apart regulator (mem_regulators _) other (mem_regulators _)
    cell (listed cell) cell' (listed cell')
  · rw [found, Option.isSome_some]
  · rw [found, found']

private def Adjustment.target : Adjustment → Regulator × Cell
  | .setVoltage regulator _ _ => (regulator, .voltage)
  | .setSuspendVoltage buck _ => (.dcdc buck, .sleep)
  | .enable regulator => (regulator, .control)
  | .disable regulator => (regulator, .control)
  | .setMode regulator _ => (regulator, .control)

private theorem update_of_table {found : Option Nat} {chip next : Chip}
    {mask value : BitVec 8}
    (taken : (found.map fun reg => chip.updateBits reg mask value) =
      some next) :
    ∃ reg, found = some reg ∧ next = chip.updateBits reg mask value := by
  cases found with
  | none => cases taken
  | some reg =>
      cases taken
      exact ⟨reg, rfl, rfl⟩

private theorem setModeAt_cases {found : Option Nat} {chip next : Chip}
    {mode : Nat}
    (taken : (found.map (setModeAt mode chip)).map Prod.snd = some next) :
    ∃ reg, found = some reg ∧
      next = if mode = modeStandby then chip.updateBits reg 0x80 0
        else if mode = modeNormal then chip.updateBits reg 0x80 0x80
        else chip := by
  cases found with
  | none => cases taken
  | some reg =>
      cases taken
      refine ⟨reg, rfl, ?_⟩
      unfold setModeAt
      split
      · rfl
      · split <;> rfl

private theorem setVoltage_cases {found : Option Nat} {chip next : Chip}
    {rejected : Prop} [Decidable rejected] {mask value : BitVec 8}
    (taken : (if rejected then some (einval, chip)
      else match found with
        | none => none
        | some reg => some ((0 : Int), chip.updateBits reg mask value)).map
          Prod.snd = some next) :
    (rejected ∧ next = chip) ∨
      ¬rejected ∧ ∃ reg, found = some reg ∧
        next = chip.updateBits reg mask value := by
  split at taken
  · rename_i refused
    cases taken
    exact .inl ⟨refused, rfl⟩
  · rename_i accepted
    cases found with
    | none => cases taken
    | some reg =>
        cases taken
        exact .inr ⟨accepted, reg, rfl, rfl⟩

private theorem ldoSetVoltage_cases {chip next : Chip} {ldo : Fin 9}
    {minUV maxUV : Int}
    (taken : (ldoSetVoltage chip ldo minUV maxUV).map Prod.snd = some next) :
    next = chip ∨ ∃ reg mask value, ldoSetVolBaseAddr[ldo.val]? = some reg ∧
      next = chip.updateBits reg mask value := by
  unfold ldoSetVoltage at taken
  dsimp only at taken
  split at taken
  · cases taken
    exact .inl rfl
  · rcases setVoltage_cases taken with ⟨-, same⟩ | ⟨-, reg, found, after⟩
    · exact .inl same
    · exact .inr ⟨reg, _, _, found, after⟩

private theorem enable_cases {chip next : Chip} {regulator : Regulator}
    (taken : Adjustment.run chip (.enable regulator) = some next) :
    ∃ reg, address regulator .control = some reg ∧
      next = chip.updateBits reg 0x80 0x80 := by
  cases regulator <;> exact update_of_table taken

private theorem disable_cases {chip next : Chip} {regulator : Regulator}
    (taken : Adjustment.run chip (.disable regulator) = some next) :
    ∃ reg, address regulator .control = some reg ∧
      next = chip.updateBits reg 0x80 0 := by
  cases regulator <;> exact update_of_table taken

private theorem setMode_cases {chip next : Chip} {regulator : Regulator}
    {mode : Nat}
    (taken : Adjustment.run chip (.setMode regulator mode) = some next) :
    ∃ reg, address regulator .control = some reg ∧
      next = if mode = modeStandby then chip.updateBits reg 0x80 0
        else if mode = modeNormal then chip.updateBits reg 0x80 0x80
        else chip := by
  cases regulator <;> exact setModeAt_cases taken

/-- An operation that is taken writes its register, if any. -/
private theorem run_cases {chip next : Chip} {operation : Adjustment}
    (taken : operation.run chip = some next) :
    next = chip ∨ ∃ reg mask value,
      address operation.target.1 operation.target.2 = some reg ∧
        next = chip.updateBits reg mask value := by
  cases operation with
  | setVoltage regulator minUV maxUV =>
      cases regulator with
      | dcdc buck =>
          rcases setVoltage_cases taken with ⟨-, same⟩ | ⟨-, reg, found, after⟩
          · exact .inl same
          · exact .inr ⟨reg, _, _, found, after⟩
      | ldo ldo => exact ldoSetVoltage_cases taken
  | setSuspendVoltage buck uV =>
      simp only [Adjustment.run, dcdcSetSleepVoltage] at taken
      split at taken
      · cases taken
        exact .inl rfl
      · cases found : buckSetVolBaseAddr[buck.val]? with
        | none =>
            rw [found] at taken
            cases taken
        | some reg =>
            rw [found] at taken
            cases taken
            right
            refine ⟨reg + 0x01, _, _, ?_, rfl⟩
            simp [Adjustment.target, address, found]
  | enable regulator =>
      obtain ⟨reg, found, after⟩ := enable_cases taken
      exact .inr ⟨reg, _, _, found, after⟩
  | disable regulator =>
      obtain ⟨reg, found, after⟩ := disable_cases taken
      exact .inr ⟨reg, _, _, found, after⟩
  | setMode regulator mode =>
      obtain ⟨reg, found, after⟩ := setMode_cases taken
      split at after
      · exact .inr ⟨reg, _, _, found, after⟩
      · split at after
        · exact .inr ⟨reg, _, _, found, after⟩
        · exact .inl after

private theorem run_other {chip next : Chip} {operation : Adjustment}
    (taken : operation.run chip = some next) {regulator : Regulator}
    {cell : Cell} {reg : Nat} (found : address regulator cell = some reg)
    (elsewhere : operation.target ≠ (regulator, cell)) :
    next reg = chip reg := by
  rcases run_cases taken with same | ⟨target, mask, value, own, after⟩
  · rw [same]
  · rw [after]
    apply RegisterFile.updateBits_other
    intro same
    subst same
    obtain ⟨first, second⟩ := address_injective own found
    exact elsewhere (Prod.ext first second)

private theorem microvolts_found (minVol : Int) :
    microvolts buckVoltageMap (firstAtLeast buckVoltageMap volMaxIdx minVol) =
      granted minVol := by
  have whole : buckVoltageMap.take (volMaxIdx + 1) = buckVoltageMap := rfl
  rw [microvolts, granted, firstAtLeast, whole,
    List.find?_eq_getElem?_findIdx]

private theorem dcdcGetVoltage_found {chip : Chip} {buck : Fin 4} {reg : Nat}
    (found : buckSetVolBaseAddr[buck.val]? = some reg) :
    dcdcGetVoltage chip buck = microvolts buckVoltageMap
      (chip reg &&& BitVec.ofNat 8 buckVolMask).toNat := by
  rw [dcdcGetVoltage, found]

private theorem found_small {minVol : Int}
    (inRange : ¬outOfRange buckVoltageMap minVol) :
    firstAtLeast buckVoltageMap volMaxIdx minVol < 64 := by
  have inside := (firstAtLeast_spec buckVoltageMap_length
    buckVoltageMap_ascending (enough inRange)).1
  exact Nat.lt_succ_of_le inside

theorem dcdcGetVoltage_step {chip next : Chip} {operation : Adjustment}
    (taken : operation.run chip = some next) (buck : Fin 4) :
    dcdcGetVoltage next buck =
      (operation.voltageOf buck).getD (dcdcGetVoltage chip buck) := by
  have found : buckSetVolBaseAddr[buck.val]? =
      some buckSetVolBaseAddr[buck.val] := List.getElem?_eq_getElem buck.isLt
  by_cases mine : operation.target = (.dcdc buck, .voltage)
  · cases operation with
    | setVoltage regulator minUV maxUV =>
        cases mine
        have accepted : (600 ≤ minUV.tdiv 1000 ∧ minUV.tdiv 1000 ≤ 3900) ↔
            ¬outOfRange buckVoltageMap (minUV.tdiv 1000) := by
          rw [outOfRange_iff]
          omega
        rcases setVoltage_cases taken with
          ⟨refused, same⟩ | ⟨inRange, reg, own, after⟩
        · rw [same, Adjustment.voltageOf, if_neg]
          · rfl
          · rintro ⟨-, bounds⟩
            exact accepted.mp bounds refused
        · have kept := selector_field ⟨_, found_small inRange⟩
          rw [Adjustment.voltageOf, if_pos ⟨rfl, accepted.mpr inRange⟩,
            Option.getD_some, dcdcGetVoltage_found own, after,
            RegisterFile.field_updateBits, kept, microvolts_found]
    | setSuspendVoltage buck' uV => cases mine
    | enable regulator => cases mine
    | disable regulator => cases mine
    | setMode regulator mode => cases mine
  · have unasked : operation.voltageOf buck = none := by
      cases operation with
      | setVoltage regulator minUV maxUV =>
          cases regulator with
          | dcdc other =>
              rw [Adjustment.voltageOf, if_neg]
              rintro ⟨same, -⟩
              exact mine (by rw [same]; rfl)
          | ldo ldo => rfl
      | setSuspendVoltage buck' uV => rfl
      | enable regulator => rfl
      | disable regulator => rfl
      | setMode regulator mode => rfl
    have own : address (.dcdc buck) .voltage =
        some buckSetVolBaseAddr[buck.val] := found
    rw [unasked, Option.getD_none, dcdcGetVoltage_found found,
      dcdcGetVoltage_found found, run_other taken own mine]

private theorem isEnabled_address (chip : Chip) (regulator : Regulator) :
    isEnabled chip regulator =
      (address regulator .control).map (isEnabledAt chip) := by
  cases regulator <;> rfl

private theorem isEnabledAt_write (value : BitVec 8) :
    ((value &&& ~~~0x80 ||| 0x80 &&& 0x80) &&& ~~~0x7f &&& 0x80 ≠ 0) ∧
      ¬((value &&& ~~~0x80 ||| 0 &&& 0x80) &&& ~~~0x7f &&& 0x80 ≠ 0) := by
  revert value
  decide

private theorem isEnabledAt_on (chip : Chip) (reg : Nat) :
    isEnabledAt (chip.updateBits reg 0x80 0x80) reg = 1 := by
  have bits := (isEnabledAt_write (chip reg)).1
  rw [isEnabledAt, RegisterFile.updateBits, RegisterFile.setBits,
    RegisterFile.write_same]
  exact if_pos bits

private theorem isEnabledAt_off (chip : Chip) (reg : Nat) :
    isEnabledAt (chip.updateBits reg 0x80 0) reg = 0 := by
  have bits := (isEnabledAt_write (chip reg)).2
  rw [isEnabledAt, RegisterFile.updateBits, RegisterFile.setBits,
    RegisterFile.write_same]
  exact if_neg bits

theorem isEnabled_step {chip next : Chip} {operation : Adjustment}
    (taken : operation.run chip = some next) (regulator : Regulator) :
    isEnabled next regulator =
      (operation.switchOf regulator).getD (isEnabled chip regulator) := by
  by_cases mine : operation.target = (regulator, .control)
  · cases operation with
    | setVoltage other minUV maxUV => cases mine
    | setSuspendVoltage buck uV => cases mine
    | enable other =>
        cases mine
        obtain ⟨reg, found, after⟩ := enable_cases taken
        rw [isEnabled_address, found, Option.map_some, after, isEnabledAt_on,
          Adjustment.switchOf, if_pos rfl, Option.getD_some]
    | disable other =>
        cases mine
        obtain ⟨reg, found, after⟩ := disable_cases taken
        rw [isEnabled_address, found, Option.map_some, after, isEnabledAt_off,
          Adjustment.switchOf, if_pos rfl, Option.getD_some]
    | setMode other mode =>
        cases mine
        obtain ⟨reg, found, after⟩ := setMode_cases taken
        rw [isEnabled_address, isEnabled_address, found, Option.map_some,
          Option.map_some, after]
        by_cases standby : mode = modeStandby
        · subst standby
          have codes : modeStandby ≠ modeNormal := by decide
          rw [if_pos rfl, isEnabledAt_off]
          simp [Adjustment.switchOf, codes]
        · rw [if_neg standby]
          by_cases normal : mode = modeNormal
          · subst normal
            rw [if_pos rfl, isEnabledAt_on]
            simp [Adjustment.switchOf]
          · simp [Adjustment.switchOf, standby, normal]
  · have unswitched : operation.switchOf regulator = none := by
      cases operation with
      | setVoltage other minUV maxUV => rfl
      | setSuspendVoltage buck uV => rfl
      | enable other | disable other =>
          apply if_neg
          rintro rfl
          exact mine rfl
      | setMode other mode =>
          have different : other ≠ regulator := by
            rintro rfl
            exact mine rfl
          simp [Adjustment.switchOf, different]
    rw [unswitched, Option.getD_none, isEnabled_address, isEnabled_address]
    cases found : address regulator .control with
    | none => rfl
    | some reg =>
        have kept := run_other taken found mine
        rw [Option.map_some, Option.map_some, isEnabledAt, isEnabledAt, kept]

/-- The operations on the chip, one after the other. -/
def operate (chip : Chip) (operation : Adjustment) : Option Chip :=
  operation.run chip

/-- Whatever operations were taken on whichever regulators, a buck reads the
least voltage of the map that covers the last request for it that the map
reaches, and every regulator is on or off as it was last enabled, disabled or
put in one of the two modes. -/
theorem answers_last {start final : Chip} {operations : List Adjustment}
    (run : Run operate (fun _ _ => True) start operations final) :
    (∀ buck, dcdcGetVoltage final buck =
      (lastWritten (Adjustment.voltageOf buck) operations).getD
        (dcdcGetVoltage start buck)) ∧
    (∀ regulator, isEnabled final regulator =
      (lastWritten (Adjustment.switchOf regulator) operations).getD
        (isEnabled start regulator)) := by
  constructor
  · intro buck
    apply run.lastWritten_eq fun chip => dcdcGetVoltage chip buck
    intro chip operation next taken
    exact dcdcGetVoltage_step taken buck
  · intro regulator
    apply run.lastWritten_eq fun chip => isEnabled chip regulator
    intro chip operation next taken
    exact isEnabled_step taken regulator

/-- A request for 1.01 V, then others, the last of which is out of range. -/
theorem answers_last_buck2 :
    ∃ final, Run operate (fun _ _ => True) (fun _ => 0)
        [.setVoltage (.dcdc 1) 1010000 1100000, .enable (.ldo 3),
          .setVoltage (.dcdc 2) 3300000 3300000, .setMode (.ldo 3) modeStandby,
          .setVoltage (.dcdc 1) 4000000 4000000] final ∧
      dcdcGetVoltage final 1 = some 1025000 ∧
      isEnabled final (.ldo 3) = some 0 := by
  have ends : (execute operate (fun _ _ => True) (fun _ => 0)
      [.setVoltage (.dcdc 1) 1010000 1100000, .enable (.ldo 3),
        .setVoltage (.dcdc 2) 3300000 3300000, .setMode (.ldo 3) modeStandby,
        .setVoltage (.dcdc 1) 4000000 4000000]).any (fun _ => true) = true := by
    decide
  obtain ⟨final, run, -⟩ := Run.exists_of_execute ends
  obtain ⟨voltages, switches⟩ := answers_last run
  exact ⟨final, run, voltages 1, switches (.ldo 3)⟩

end KernelDrivers.Act8846
