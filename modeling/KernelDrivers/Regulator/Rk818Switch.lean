import KernelDrivers.Regulator.Rk818
import Mathlib.Data.List.Induction

/-!
# Switching the RK818 regulators on and off

The enable registers against an abstract map that holds one switch for each
regulator.  Two disable paths set a bit of another regulator, and one
`is_enabled` reads a bit that no operation writes.
-/

namespace KernelDrivers.Rk818

open KernelDrivers.Library

/-- One switch for each regulator. -/
abbrev Switches := Regulator → Bool

/-- A call of `enable` or `disable`. -/
structure Request where
  regulator : Regulator
  on : Bool
  deriving DecidableEq

def Request.apply (request : Request) (switches : Switches) : Switches :=
  Function.update switches request.regulator request.on

def requestAll (switches : Switches) (requests : List Request) : Switches :=
  requests.foldl (fun switches request => request.apply switches) switches

def Request.call (request : Request) (chip : Chip) : Chip :=
  match request.regulator, request.on with
  | .dcdc buck, true => dcdcEnable chip buck
  | .dcdc buck, false => dcdcDisable chip buck
  | .ldo ldo, true => ldoEnable chip ldo
  | .ldo ldo, false => ldoDisable chip ldo

def callAll (chip : Chip) (requests : List Request) : Chip :=
  requests.foldl (fun chip request => request.call chip) chip

/-- What `is_enabled` says of every regulator. -/
def switches (chip : Chip) : Switches :=
  fun regulator => isEnabled chip regulator = 1

/-- Every `is_enabled` returns 1 exactly for the switches that are on. -/
def Represents (chip : Chip) (map : Switches) : Prop :=
  ∀ regulator, isEnabled chip regulator = 1 ↔ map regulator = true

theorem represents_switches (chip : Chip) :
    Represents chip (switches chip) := by
  intro regulator
  simp [switches]

/-- The request does not touch the bit of DCDC1 and does not concern the
switch that is never read. -/
def Request.Sound (request : Request) (chip : Chip) : Prop :=
  request ≠ ⟨.ldo 9, true⟩ ∧
    (request = ⟨.ldo 8, false⟩ ∨ request = ⟨.ldo 9, false⟩ →
      chip.bit dcdcEnReg 0 = true)

/-- The bit that `is_enabled` reads. -/
def enableBit : Regulator → Nat × Nat
  | .dcdc buck => (dcdcEnReg, buck)
  | .ldo ldo => if ldo = 8 then (dcdcEnReg, 5) else (ldoEnReg, ldo)

theorem isEnabled_iff (chip : Chip) (regulator : Regulator) :
    isEnabled chip regulator = 1 ↔
      chip.bit (enableBit regulator).1 (enableBit regulator).2 = true := by
  cases regulator with
  | dcdc buck =>
      simp only [isEnabled, dcdcIsEnabled, enableBit]
      split <;> simp_all
  | ldo ldo =>
      by_cases boost : ldo = 8
      · simp only [isEnabled, ldoIsEnabled, enableBit, boost, if_true]
        split <;> simp_all
      · simp only [isEnabled, ldoIsEnabled, enableBit, boost, if_false]
        split <;> simp_all

theorem isEnabled_switch (chip : Chip) : isEnabled chip (.ldo 9) ≠ 1 := by
  intro enabled
  rw [isEnabled_iff] at enabled
  have outside : chip.bit ldoEnReg 9 = false :=
    BitVec.getLsbD_of_ge _ _ (by decide)
  have same : (enableBit (.ldo 9)) = (ldoEnReg, 9) := rfl
  rw [same, outside] at enabled
  cases enabled

/-- The register a request writes, the bits it clears and those it sets. -/
def Request.reg (request : Request) : Nat :=
  match request.regulator with
  | .dcdc _ => dcdcEnReg
  | .ldo ldo => if ldo = 8 ∨ ldo = 9 then dcdcEnReg else ldoEnReg

def Request.mask (request : Request) : BitVec 8 :=
  match request.regulator with
  | .dcdc buck => flag buck
  | .ldo ldo => if ldo = 8 then flag 5 else if ldo = 9 then flag 6 else flag ldo

def Request.value (request : Request) : BitVec 8 :=
  match request.regulator, request.on with
  | _, true => request.mask
  | .dcdc _, false => 0
  | .ldo ldo, false => if ldo = 8 ∨ ldo = 9 then flag 0 else 0

theorem Request.call_eq (request : Request) (chip : Chip) :
    request.call chip =
      chip.setBits request.reg request.mask request.value := by
  obtain ⟨regulator, on⟩ := request
  cases regulator with
  | dcdc buck => cases on <;> rfl
  | ldo ldo =>
      by_cases boost : ldo = 8
      · subst boost
        cases on <;> rfl
      · by_cases last : ldo = 9
        · subst last
          cases on <;> rfl
        · cases on <;>
            simp [call, ldoEnable, ldoDisable, reg, mask, value, boost, last]

private theorem own_bit (request : Request)
    (known : request.regulator ≠ .ldo 9) :
    request.reg = (enableBit request.regulator).1 ∧
      request.mask.getLsbD (enableBit request.regulator).2 = true ∧
      request.value.getLsbD (enableBit request.regulator).2 = request.on := by
  obtain ⟨buck | ldo, on⟩ := request
  · revert buck on
    decide
  · revert ldo on
    decide

/-- The only bit of another regulator that a request sets is that of DCDC1,
and the two disable paths of LDO9 and LDO10 set it. -/
private theorem other_bit (request : Request) (regulator : Regulator)
    (different : regulator ≠ request.regulator)
    (same : (enableBit regulator).1 = request.reg) :
    request.mask.getLsbD (enableBit regulator).2 = false ∧
      (request.value.getLsbD (enableBit regulator).2 = true →
        enableBit regulator = (dcdcEnReg, 0) ∧
          (request = ⟨.ldo 8, false⟩ ∨ request = ⟨.ldo 9, false⟩)) := by
  obtain ⟨buck | ldo, on⟩ := request
  · cases regulator with
    | dcdc buck' =>
        revert buck on buck'
        decide
    | ldo ldo' =>
        revert buck on ldo'
        decide
  · cases regulator with
    | dcdc buck' =>
        revert ldo on buck'
        decide
    | ldo ldo' =>
        revert ldo on ldo'
        decide

private theorem own_enabled {request : Request} {chip : Chip}
    (known : request.regulator ≠ .ldo 9) :
    isEnabled (request.call chip) request.regulator = 1 ↔
      request.on = true := by
  obtain ⟨same, masked, set⟩ := own_bit request known
  rw [isEnabled_iff, request.call_eq, RegisterFile.bit_setBits,
    if_pos same.symm, masked, set]
  simp

private theorem other_enabled {request : Request} {chip : Chip}
    (sound : request.Sound chip) {regulator : Regulator}
    (different : regulator ≠ request.regulator) :
    isEnabled (request.call chip) regulator = 1 ↔
      isEnabled chip regulator = 1 := by
  rw [isEnabled_iff, isEnabled_iff, request.call_eq, RegisterFile.bit_setBits]
  by_cases same : (enableBit regulator).1 = request.reg
  · obtain ⟨kept, stray⟩ := other_bit request regulator different same
    rw [if_pos same, kept, ← same]
    cases set : request.value.getLsbD (enableBit regulator).2 with
    | false => simp
    | true =>
        obtain ⟨first, disables⟩ := stray set
        rw [first]
        simp [sound.2 disables]
  · rw [if_neg same]

theorem Represents.call {chip : Chip} {map : Switches}
    (represents : Represents chip map) {request : Request}
    (sound : request.Sound chip) :
    Represents (request.call chip) (request.apply map) := by
  intro regulator
  by_cases own : regulator = request.regulator
  · subst own
    have moved : request.apply map request.regulator = request.on := by
      simp [Request.apply]
    rw [moved]
    by_cases known : request.regulator = .ldo 9
    · have off : request.on = false := by
        cases on : request.on with
        | false => rfl
        | true =>
            exact absurd (by rw [← known, ← on]) sound.1
      rw [known, off]
      simp [isEnabled_switch]
    · exact own_enabled known
  · have kept : request.apply map regulator = map regulator := by
      simp [Request.apply, own]
    rw [kept, other_enabled sound own]
    exact represents regulator

/-- After a request that is not sound the registers no longer represent the
map: the last LDO never reads as enabled, and DCDC1 comes on by itself. -/
theorem Represents.sound {chip : Chip} {map : Switches}
    (represents : Represents chip map) {request : Request}
    (still : Represents (request.call chip) (request.apply map)) :
    request.Sound chip := by
  constructor
  · rintro rfl
    have on : isEnabled (Request.call ⟨.ldo 9, true⟩ chip) (.ldo 9) = 1 := by
      rw [still]
      simp [Request.apply]
    exact isEnabled_switch _ on
  · intro disables
    have stray : (request.call chip).bit dcdcEnReg 0 = true := by
      rcases disables with rfl | rfl
      · simp [Request.call_eq, Request.reg, Request.value,
          RegisterFile.bit_setBits]
      · simp [Request.call_eq, Request.reg, Request.value,
          RegisterFile.bit_setBits]
    have kept : request.apply map (.dcdc 0) = map (.dcdc 0) := by
      rcases disables with rfl | rfl <;> simp [Request.apply]
    have before := (isEnabled_iff _ _).symm.trans (represents (.dcdc 0))
    have after := (isEnabled_iff _ _).symm.trans (still (.dcdc 0))
    rw [kept] at after
    exact before.mpr (after.mp stray)

/-- Whatever was requested so far, the registers represent the map. -/
def Refines (chip : Chip) (requests : List Request) : Prop :=
  ∀ earlier later, requests = earlier ++ later →
    Represents (callAll chip earlier) (requestAll (switches chip) earlier)

/-- Every request of the sequence is sound where it is made. -/
def AllSound (chip : Chip) (requests : List Request) : Prop :=
  ∀ earlier request later, requests = earlier ++ request :: later →
    request.Sound (callAll chip earlier)

private theorem callAll_snoc (chip : Chip) (earlier : List Request)
    (request : Request) :
    callAll chip (earlier ++ [request]) =
      request.call (callAll chip earlier) := by
  simp [callAll]

private theorem requestAll_snoc (map : Switches) (earlier : List Request)
    (request : Request) :
    requestAll map (earlier ++ [request]) =
      request.apply (requestAll map earlier) := by
  simp [requestAll]

private theorem represents_of_sound {chip : Chip} {requests : List Request}
    (sound : AllSound chip requests) :
    Represents (callAll chip requests)
      (requestAll (switches chip) requests) := by
  induction requests using List.reverseRecOn with
  | nil => exact represents_switches chip
  | append_singleton earlier last induction =>
      have earlierSound : AllSound chip earlier := by
        intro before request after split
        exact sound before request (after ++ [last]) (by simp [split])
      rw [callAll_snoc, requestAll_snoc]
      exact (induction earlierSound).call (sound earlier last [] (by simp))

/-- The enable registers refine the abstract map along exactly those sequences
that never enable LDO10 and disable LDO9 or LDO10 only while DCDC1 is on. -/
theorem refines_iff_allSound (chip : Chip) (requests : List Request) :
    Refines chip requests ↔ AllSound chip requests := by
  constructor
  · intro refines earlier request later split
    have before := refines earlier (request :: later) split
    have after := refines (earlier ++ [request]) later (by simp [split])
    rw [callAll_snoc, requestAll_snoc] at after
    exact before.sound after
  · intro sound earlier later split
    apply represents_of_sound
    intro before request after inside
    exact sound before request (after ++ later) (by simp [split, inside])

/-- Switching LDO9 off switches DCDC1 on. -/
theorem not_refines_ldo9_disable :
    ¬Refines (fun _ => 0) [⟨.ldo 8, false⟩] := by
  intro refines
  have after := refines [⟨.ldo 8, false⟩] [] rfl (.dcdc 0)
  revert after
  decide

end KernelDrivers.Rk818
