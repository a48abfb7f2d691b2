import KernelDrivers.Library.Transition
import KernelDrivers.Regulator.Act8846

/-!
# On/off state and mode of the ACT8846

The control registers against an abstract setting for each rail.  The mode
setter of the bucks writes the enable bit, and the LDOs have one bit for both.
-/

namespace KernelDrivers.Act8846

open KernelDrivers.Library

/-- The regulators that have a control register. -/
inductive Rail where
  | dcdc (buck : Fin 4)
  | ldo (ldo : Fin 8)
  deriving DecidableEq

def Rail.regulator : Rail → Regulator
  | dcdc buck => .dcdc buck
  | ldo index => .ldo index.castSucc

structure Setting where
  enabled : Bool
  normal : Bool

abbrev Settings := Rail → Setting

inductive Request where
  | switch (on : Bool)
  | setMode (normal : Bool)
  deriving DecidableEq

structure Call where
  rail : Rail
  request : Request
  deriving DecidableEq

/-- What a request makes of a setting. -/
def Request.apply (setting : Setting) : Request → Setting
  | .switch on => { setting with enabled := on }
  | .setMode normal => { setting with normal := normal }

def Call.apply (call : Call) (settings : Settings) : Settings :=
  Function.update settings call.rail
    (call.request.apply (settings call.rail))

def modeCode (normal : Bool) : Nat :=
  if normal then modeNormal else modeStandby

/-- One call of an operation. -/
def Call.run (call : Call) (chip : Chip) : Option Chip :=
  match call.rail, call.request with
  | .dcdc buck, .switch true => dcdcEnable chip buck
  | .dcdc buck, .switch false => dcdcDisable chip buck
  | .dcdc buck, .setMode normal =>
      (dcdcSetMode chip buck (modeCode normal)).map Prod.snd
  | .ldo ldo, .switch true => ldoEnable chip ldo.castSucc
  | .ldo ldo, .switch false => ldoDisable chip ldo.castSucc
  | .ldo ldo, .setMode normal =>
      (ldoSetMode chip ldo.castSucc (modeCode normal)).map Prod.snd

/-- A call takes effect on the chip and on the settings. -/
def step (state : Chip × Settings) (call : Call) : Option (Chip × Settings) :=
  (call.run state.1).map fun chip => (chip, call.apply state.2)

/-- `is_enabled` and `get_mode` answer for every rail what is set. -/
def Represents (chip : Chip) (settings : Settings) : Prop :=
  ∀ rail, isEnabled chip rail.regulator =
      some (if (settings rail).enabled then 1 else 0) ∧
    getMode chip rail.regulator = some (modeCode (settings rail).normal)

def InStep (state : Chip × Settings) : Prop :=
  Represents state.1 state.2

/-- The settings that the registers hold before the first call. -/
def settings (chip : Chip) : Settings := fun rail =>
  { enabled := isEnabled chip rail.regulator = some 1
    normal := getMode chip rail.regulator = some modeNormal }

/-- After the call the registers represent the settings. -/
def Independent (state : Chip × Settings) (call : Call) : Prop :=
  ∀ next, step state call = some next → InStep next

def controlReg : Rail → Nat
  | .dcdc buck => buckContrBaseAddr.getD buck 0
  | .ldo ldo => ldoContrBaseAddr.getD ldo 0

/-- The bit that `get_mode` reads. -/
def modeBit : Rail → Nat
  | .dcdc _ => 3
  | .ldo _ => 7

/-- The bit that a request writes to the control register. -/
def Request.value : Request → Bool
  | .switch on => on
  | .setMode normal => normal

/-- The enable bit and the mode bit stay in step: the mode of a buck is set
to what both bits are already, and so is the one bit of an LDO. -/
def Call.Sound (call : Call) (chip : Chip) : Prop :=
  match call.rail, call.request with
  | .dcdc _, .switch _ => True
  | .dcdc buck, .setMode normal =>
      chip.bit (controlReg (.dcdc buck)) 7 = normal ∧
        chip.bit (controlReg (.dcdc buck)) 3 = normal
  | .ldo ldo, request =>
      chip.bit (controlReg (.ldo ldo)) 7 = request.value

private theorem buckContrBaseAddr_eq (buck : Fin 4) :
    buckContrBaseAddr[buck.val]? = some (controlReg (.dcdc buck)) := by
  revert buck
  decide

private theorem ldoContrBaseAddr_eq (ldo : Fin 8) :
    ldoContrBaseAddr[ldo.castSucc.val]? = some (controlReg (.ldo ldo)) := by
  revert ldo
  decide

theorem controlReg_injective (first second : Rail)
    (same : controlReg first = controlReg second) : first = second := by
  obtain buck | ldo := first
  · obtain buck' | ldo' := second
    · revert buck buck'
      decide
    · revert buck ldo'
      decide
  · obtain buck' | ldo' := second
    · revert ldo buck'
      decide
    · revert ldo ldo'
      decide

private theorem enable_bit (value : BitVec 8) :
    (if value &&& ~~~0x7f &&& 0x80 ≠ 0 then (1 : Int) else 0) =
      if value.getLsbD 7 then 1 else 0 := by
  revert value
  decide

private theorem mode_bit (value : BitVec 8) :
    (value &&& 0x08 = 0x08 ↔ value.getLsbD 3 = true) ∧
      (value &&& 0x80 = 0x80 ↔ value.getLsbD 7 = true) := by
  revert value
  decide

theorem isEnabled_eq (chip : Chip) (rail : Rail) :
    isEnabled chip rail.regulator =
      some (if chip.bit (controlReg rail) 7 then 1 else 0) := by
  cases rail with
  | dcdc buck =>
      rw [Rail.regulator, isEnabled, dcdcIsEnabled, buckContrBaseAddr_eq,
        Option.map_some]
      exact congrArg some (enable_bit _)
  | ldo ldo =>
      rw [Rail.regulator, isEnabled, ldoIsEnabled, ldoContrBaseAddr_eq,
        Option.map_some]
      exact congrArg some (enable_bit _)

theorem getMode_eq (chip : Chip) (rail : Rail) :
    getMode chip rail.regulator =
      some (modeCode (chip.bit (controlReg rail) (modeBit rail))) := by
  cases rail with
  | dcdc buck =>
      have read := (mode_bit (chip (controlReg (.dcdc buck)))).1
      rw [Rail.regulator, getMode, dcdcGetMode, buckContrBaseAddr_eq,
        Option.map_some, getModeAt, modeCode]
      exact congrArg some (if_congr read rfl rfl)
  | ldo ldo =>
      have read := (mode_bit (chip (controlReg (.ldo ldo)))).2
      rw [Rail.regulator, getMode, ldoGetMode, ldoContrBaseAddr_eq,
        Option.map_some, getModeAt, modeCode]
      exact congrArg some (if_congr read rfl rfl)

private theorem request_writes {found : Option Nat} {reg : Nat}
    (address : found = some reg) (request : Request) (chip : Chip) :
    (match request with
      | .switch true => found.map (enableAt chip)
      | .switch false => found.map (disableAt chip)
      | .setMode normal =>
          (found.map (setModeAt (modeCode normal) chip)).map Prod.snd) =
      some (chip.updateBits reg 0x80 (if request.value then 0x80 else 0)) := by
  subst address
  cases request with
  | switch on => cases on <;> rfl
  | setMode normal => cases normal <;> rfl

theorem Call.run_eq (call : Call) (chip : Chip) :
    call.run chip = some (chip.updateBits (controlReg call.rail) 0x80
      (if call.request.value then 0x80 else 0)) := by
  obtain ⟨buck | ldo, request⟩ := call
  · rw [← request_writes (buckContrBaseAddr_eq buck) request chip]
    cases request with
    | switch on => cases on <;> rfl
    | setMode normal => rfl
  · rw [← request_writes (ldoContrBaseAddr_eq ldo) request chip]
    cases request with
    | switch on => cases on <;> rfl
    | setMode normal => rfl

private theorem bit_run (chip : Chip) (reg other index : Nat) (value : Bool) :
    (chip.updateBits reg 0x80 (if value then 0x80 else 0)).bit other index =
      if other = reg ∧ index = 7 then value else chip.bit other index := by
  have mask : (0x80 : BitVec 8).getLsbD index = decide (index = 7) := by
    have power : (0x80 : BitVec 8) = BitVec.twoPow 8 7 := rfl
    rw [power, BitVec.getLsbD_twoPow]
    simp [eq_comm]
  rw [RegisterFile.bit_updateBits, mask]
  by_cases there : other = reg ∧ index = 7
  · obtain ⟨same, last⟩ := there
    subst last
    cases value <;> simp [same]
  · have elsewhere : ¬(other = reg ∧ decide (index = 7) = true) := by
      simpa using there
    rw [if_neg there, if_neg elsewhere]

theorem represents_iff (chip : Chip) (settings : Settings) :
    Represents chip settings ↔ ∀ rail,
      chip.bit (controlReg rail) 7 = (settings rail).enabled ∧
        chip.bit (controlReg rail) (modeBit rail) =
          (settings rail).normal := by
  apply forall_congr'
  intro rail
  rw [isEnabled_eq, getMode_eq]
  apply and_congr
  · cases chip.bit (controlReg rail) 7 <;>
      cases (settings rail).enabled <;> decide
  · cases chip.bit (controlReg rail) (modeBit rail) <;>
      cases (settings rail).normal <;> decide

theorem represents_settings (chip : Chip) :
    Represents chip (settings chip) := by
  rw [represents_iff]
  intro rail
  simp only [settings, isEnabled_eq, getMode_eq]
  constructor
  · cases chip.bit (controlReg rail) 7 <;> rfl
  · cases chip.bit (controlReg rail) (modeBit rail) <;> rfl

/-- The call leaves the registers in step with the settings exactly if it is
sound. -/
theorem Represents.independent_iff {chip : Chip} {settings : Settings}
    (represents : Represents chip settings) (call : Call) :
    Independent (chip, settings) call ↔ call.Sound chip := by
  rw [represents_iff] at represents
  have after : Independent (chip, settings) call ↔
      Represents (chip.updateBits (controlReg call.rail) 0x80
        (if call.request.value then 0x80 else 0)) (call.apply settings) := by
    simp [Independent, InStep, step, call.run_eq]
  have other : ∀ rail, rail ≠ call.rail → controlReg rail ≠
      controlReg call.rail := fun rail different same =>
    different (controlReg_injective _ _ same)
  have kept : ∀ rail, rail ≠ call.rail →
      call.apply settings rail = settings rail := by
    intro rail different
    simp [Call.apply, different]
  have own : Independent (chip, settings) call ↔
      call.request.value = (call.apply settings call.rail).enabled ∧
        (if modeBit call.rail = 7 then call.request.value
          else chip.bit (controlReg call.rail) (modeBit call.rail)) =
          (call.apply settings call.rail).normal := by
    rw [after, represents_iff]
    constructor
    · intro all
      have mine := all call.rail
      simp only [bit_run, true_and, if_true] at mine
      exact mine
    · intro mine rail
      by_cases same : rail = call.rail
      · rw [same]
        simp only [bit_run, true_and, if_true]
        exact mine
      · simp only [bit_run, other rail same, kept rail same, false_and,
          if_false]
        exact represents rail
  rw [own]
  obtain ⟨rail, request⟩ := call
  obtain ⟨enabled, normal⟩ := represents rail
  cases rail with
  | dcdc buck =>
      cases request with
      | switch on =>
          simp [Call.apply, Request.apply, Request.value, Call.Sound, ← normal,
            modeBit]
      | setMode normal =>
          simp [Call.apply, Request.apply, Request.value, Call.Sound,
            ← enabled, modeBit, eq_comm]
  | ldo ldo =>
      have same := enabled.symm.trans normal
      cases request with
      | switch on =>
          simp [Call.apply, Request.apply, Request.value, Call.Sound, ← normal,
            modeBit, eq_comm]
      | setMode normal =>
          simp [Call.apply, Request.apply, Request.value, Call.Sound,
            ← enabled, modeBit, eq_comm]

/-- On/off state and mode are independent along exactly those sequences whose
calls are all sound. -/
theorem independent_iff_sound (chip : Chip) (calls : List Call) :
    Along step Independent (chip, settings chip) calls ↔
      Along step (fun state call => call.Sound state.1) (chip, settings chip)
        calls := by
  have initial : InStep (chip, settings chip) := represents_settings chip
  refine along_congr initial ?_ ?_
  · intro state call next represents independent taken
    exact independent next taken
  · intro state call represents
    exact represents.independent_iff call

/-- Standby switches a running buck off. -/
theorem not_independent_standby :
    ¬Along step Independent (fun _ => 0x80, settings fun _ => 0x80)
      [⟨.dcdc 0, .setMode false⟩] := by
  intro independent
  have after := independent [] _ [] _ rfl .nil _ rfl (.dcdc 0)
  exact absurd after.1 (by decide)

end KernelDrivers.Act8846
