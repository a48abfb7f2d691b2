import KernelDrivers.Library.Purge
import KernelDrivers.Regulator.Rk818Frame

/-!
# What an RK818 regulator sees of the others

Over a run of framed operations a regulator is switched as its own operations
left it.  It reads the voltage that they left as well, but for LDO10, which
reads the register of DCDC4.
-/

namespace KernelDrivers.Rk818

open KernelDrivers.Library KernelDrivers.Regulator

/-- One operation of the framework on the chip. -/
def step (chip : Chip) (operation : Operation) : Option Chip :=
  operation.run chip

instance : ∀ chip operation, Decidable (FrameCondition chip operation)
  | _, .dcdc _ (.setVoltage _ _) => inferInstanceAs (Decidable (_ ∨ _))
  | _, .dcdc _ (.setSuspendVoltage _) => inferInstanceAs (Decidable (_ ∨ _))
  | _, .dcdc buck (.setSuspendMode _) =>
      inferInstanceAs (Decidable (buck = 2 → _ ∧ _))
  | _, .dcdc _ (.setMode _) => isTrue trivial
  | _, .dcdc _ .suspendEnable => isTrue trivial
  | _, .dcdc _ .suspendDisable => isTrue trivial
  | _, .dcdc _ .enable => isTrue trivial
  | _, .dcdc _ .disable => isTrue trivial
  | _, .ldo channel (.setVoltage _ _) =>
      inferInstanceAs (Decidable (channel = 9 → _))
  | _, .ldo channel (.setSuspendVoltage _) =>
      inferInstanceAs (Decidable (channel = 9 → _))
  | _, .ldo channel .disable =>
      inferInstanceAs (Decidable (channel = 8 ∨ channel = 9 → _))
  | _, .ldo _ .suspendEnable => isTrue trivial
  | _, .ldo _ .suspendDisable => isTrue trivial
  | _, .ldo _ .enable => isTrue trivial

/-- The regulator in whose register `get_voltage` finds the voltage. -/
def voltageSource (regulator : Regulator) : Regulator :=
  if regulator = .ldo 9 then .dcdc 3 else regulator

/-- The voltage registers, then the two switch registers and their bit. -/
private def fields : Regulator → List Nat × List Nat × Nat
  | .dcdc buck =>
      ([buckSetVolBaseAddr buck, buckSetSlpVolBaseAddr buck],
        [dcdcEnReg, sleepSetOffReg1], buck)
  | .ldo ldo =>
      ((ldoSetVolBaseAddr[ldo.val]?).toList ++
          (ldoSetSlpVolBaseAddr[ldo.val]?).toList,
        if ldo = 8 then ([dcdcEnReg, sleepSetOffReg1], 5)
        else if ldo = 9 then ([dcdcEnReg, sleepSetOffReg1], 6)
        else ([ldoEnReg, sleepSetOffReg2], ldo))

private theorem fields_of_owns {regulator : Regulator} {reg index : Nat}
    (owns : Owns regulator reg index) :
    reg ∈ (fields regulator).1 ∨
      (reg ∈ (fields regulator).2.1 ∧ index = (fields regulator).2.2) := by
  cases regulator with
  | dcdc buck =>
      rcases owns with ⟨voltage, -⟩ | ⟨switch, bit⟩
      · left
        simpa [fields] using voltage
      · right
        exact ⟨by simpa [fields] using switch, bit⟩
  | ldo ldo =>
      rcases owns with ⟨voltage, -⟩ | switch
      · left
        simpa [fields] using voltage
      · right
        unfold fields
        split at switch
        · rename_i boost
          simpa [boost] using switch
        · split at switch
          · rename_i last
            simpa [last] using switch
          · rename_i boost last
            simpa [boost, last] using switch

private def regulators : List Regulator :=
  (List.finRange 4).map .dcdc ++ (List.finRange 10).map .ldo

private theorem mem_regulators (regulator : Regulator) :
    regulator ∈ regulators := by
  cases regulator <;> simp [regulators]

private theorem fields_apart :
    ∀ regulator ∈ regulators, ∀ other ∈ regulators,
      (∀ reg ∈ (fields regulator).1, reg ∈ (fields other).1 →
          regulator = other) ∧
        (∀ reg ∈ (fields regulator).1, reg ∉ (fields other).2.1) ∧
        (∀ reg ∈ (fields regulator).2.1, reg ∈ (fields other).2.1 →
          (fields regulator).2.2 = (fields other).2.2 →
          regulator = other) := by
  decide +kernel

theorem owner_unique {regulator other : Regulator} {reg index : Nat}
    (owns : Owns regulator reg index) (owns' : Owns other reg index) :
    regulator = other := by
  have apart := fields_apart regulator (mem_regulators regulator) other
    (mem_regulators other)
  have apart' := fields_apart other (mem_regulators other) regulator
    (mem_regulators regulator)
  rcases fields_of_owns owns with voltage | ⟨switch, bit⟩
  · rcases fields_of_owns owns' with voltage' | ⟨switch', -⟩
    · exact apart.1 reg voltage voltage'
    · exact absurd switch' (apart.2.1 reg voltage)
  · rcases fields_of_owns owns' with voltage' | ⟨switch', bit'⟩
    · exact absurd switch (apart'.2.1 reg voltage')
    · exact apart.2.2 reg switch switch' (bit.symm.trans bit')

section Alike

variable {Own : Regulator → Nat → Nat → Prop} {observer : Regulator}
variable {chip other : Chip}

private theorem dcdcSetModeIn_alike (alike : AlikeOn Own observer chip other)
    (reg mode : Nat) :
    AlikeOn Own observer (dcdcSetModeIn reg chip mode).2
      (dcdcSetModeIn reg other mode).2 := by
  unfold dcdcSetModeIn
  split
  · exact alike.setBits _ _ _
  · split
    · exact alike.setBits _ _ _
    · exact alike

private theorem dcdcSetVoltage_alike (alike : AlikeOn Own observer chip other)
    (buck : Fin 4) (minUV maxUV : Int) :
    AlikeOn Own observer (dcdcSetVoltage chip buck minUV maxUV).2
      (dcdcSetVoltage other buck minUV maxUV).2 := by
  unfold dcdcSetVoltage
  dsimp only
  split
  · exact alike
  · apply AlikeOn.setBits
    split
    · exact alike.setBits _ _ _
    · exact alike

private theorem dcdcSetSleepVoltage_alike
    (alike : AlikeOn Own observer chip other) (buck : Fin 4) (uV : Int) :
    AlikeOn Own observer (dcdcSetSleepVoltage chip buck uV).2
      (dcdcSetSleepVoltage other buck uV).2 := by
  unfold dcdcSetSleepVoltage
  split
  · exact alike
  · exact alike.setBits _ _ _

private theorem ldoSetVoltageIn_alike
    (alike : AlikeOn Own observer chip other) {table : List Nat}
    {ldo : Fin 10} {uV : Int} {next : Chip}
    (taken : (ldoSetVoltageIn table chip ldo uV).map Prod.snd = some next) :
    ∃ next', (ldoSetVoltageIn table other ldo uV).map Prod.snd = some next' ∧
      AlikeOn Own observer next next' := by
  unfold ldoSetVoltageIn at taken ⊢
  dsimp only at taken ⊢
  split at taken
  · rename_i rejected
    cases taken
    rw [if_pos rejected]
    exact ⟨other, rfl, alike⟩
  · rename_i inRange
    rw [if_neg inRange]
    cases address : table[ldo.val]? with
    | none =>
        rw [address] at taken
        cases taken
    | some reg =>
        rw [address] at taken
        cases taken
        exact ⟨_, rfl, alike.setBits _ _ _⟩

/-- The four switches of an LDO: one write, to the register and the bit that
the LDO has. -/
private theorem ldoSwitch_alike (alike : AlikeOn Own observer chip other)
    (boost last : Prop) [Decidable boost] [Decidable last]
    (shared own : Nat) (first second third : BitVec 8 × BitVec 8) :
    AlikeOn Own observer
      (if boost then chip.setBits shared first.1 first.2
        else if last then chip.setBits shared second.1 second.2
        else chip.setBits own third.1 third.2)
      (if boost then other.setBits shared first.1 first.2
        else if last then other.setBits shared second.1 second.2
        else other.setBits own third.1 third.2) := by
  split
  · exact alike.setBits _ _ _
  · split
    · exact alike.setBits _ _ _
    · exact alike.setBits _ _ _

theorem step_alike (alike : AlikeOn Own observer chip other)
    {operation : Operation} {next : Chip}
    (taken : step chip operation = some next) :
    ∃ next', step other operation = some next' ∧
      AlikeOn Own observer next next' := by
  cases operation with
  | dcdc buck operation =>
      cases operation with
      | setVoltage minUV maxUV =>
          cases taken
          exact ⟨_, rfl, dcdcSetVoltage_alike alike buck minUV maxUV⟩
      | setSuspendVoltage uV =>
          cases taken
          exact ⟨_, rfl, dcdcSetSleepVoltage_alike alike buck uV⟩
      | setMode mode =>
          cases taken
          exact ⟨_, rfl, dcdcSetModeIn_alike alike _ mode⟩
      | setSuspendMode mode =>
          cases taken
          exact ⟨_, rfl, dcdcSetModeIn_alike alike _ mode⟩
      | suspendEnable | suspendDisable | enable | disable =>
          cases taken
          exact ⟨_, rfl, alike.setBits _ _ _⟩
  | ldo channel operation =>
      cases operation with
      | setVoltage minUV maxUV => exact ldoSetVoltageIn_alike alike taken
      | setSuspendVoltage uV => exact ldoSetVoltageIn_alike alike taken
      | suspendEnable =>
          cases taken
          exact ⟨_, rfl, ldoSwitch_alike alike (channel = 8) (channel = 9)
            sleepSetOffReg1 sleepSetOffReg2 (flag 5, 0) (flag 6, 0)
            (flag channel, 0)⟩
      | suspendDisable =>
          cases taken
          exact ⟨_, rfl, ldoSwitch_alike alike (channel = 8) (channel = 9)
            sleepSetOffReg1 sleepSetOffReg2 (flag 5, flag 5)
            (flag 6, flag 6) (flag channel, flag channel)⟩
      | enable =>
          cases taken
          exact ⟨_, rfl, ldoSwitch_alike alike (channel = 8) (channel = 9)
            dcdcEnReg ldoEnReg (flag 5, flag 5) (flag 6, flag 6)
            (flag channel, flag channel)⟩
      | disable =>
          cases taken
          exact ⟨_, rfl, ldoSwitch_alike alike (channel = 8) (channel = 9)
            dcdcEnReg ldoEnReg (flag 5, flag 0) (flag 6, flag 0)
            (flag channel, 0)⟩

end Alike

theorem unwinds : Unwinds step FrameCondition Operation.regulator
    (AlikeOn Owns) := by
  apply unwinds_of_framed
  · intro observer other reg index owns owns'
    exact owner_unique owns owns'
  · intro chip operation next allowed taken
    have framed : Framed chip operation := by
      cases operation with
      | dcdc buck operation =>
          exact (dcdc_framed_iff chip buck operation).mpr allowed
      | ldo channel operation =>
          exact (ldo_framed_iff chip channel operation).mpr allowed
    obtain ⟨after, run, kept⟩ := framed
    cases taken.symm.trans run
    exact kept
  · intro chip other operation next alike taken
    exact step_alike alike taken

theorem isEnabled_congr {chip other : Chip} {regulator : Regulator}
    (alike : AlikeOn Owns regulator chip other) :
    isEnabled chip regulator = isEnabled other regulator := by
  cases regulator with
  | dcdc buck =>
      have bit := alike dcdcEnReg buck (.inr ⟨.inl rfl, rfl⟩)
      simp only [isEnabled, dcdcIsEnabled, bit]
  | ldo ldo =>
      simp only [isEnabled, ldoIsEnabled]
      by_cases boost : ldo = 8
      · have owned : Owns (.ldo ldo) dcdcEnReg 5 := by
          right
          rw [if_pos boost]
          exact ⟨.inl rfl, rfl⟩
        rw [if_pos boost, if_pos boost, alike dcdcEnReg 5 owned]
      · rw [if_neg boost, if_neg boost]
        by_cases last : ldo = 9
        · -- The register has no tenth bit.
          have beyond : ∀ chip : Chip, chip.bit ldoEnReg ldo = false := by
            intro chip
            subst last
            exact BitVec.getLsbD_of_ge _ _ (by decide)
          rw [beyond, beyond]
        · have owned : Owns (.ldo ldo) ldoEnReg ldo := by
            right
            rw [if_neg boost, if_neg last]
            exact ⟨.inl rfl, rfl⟩
          rw [alike ldoEnReg ldo owned]

private theorem buckVolMask_owned (buck : Fin 4) (index : Nat)
    (inside : buckVolMask.getLsbD index = true) :
    Owns (.dcdc buck) (buckSetVolBaseAddr buck) index := by
  have small : ∀ index : Fin 8, buckVolMask.getLsbD index = true →
      index.val < 6 := by decide
  have within := small ⟨index, BitVec.lt_of_getLsbD inside⟩ inside
  exact .inl ⟨.inl rfl, .inl within⟩

theorem getVoltage_congr {chip other : Chip} {regulator : Regulator}
    (alike : AlikeOn Owns (voltageSource regulator) chip other) :
    getVoltage chip regulator = getVoltage other regulator := by
  cases regulator with
  | dcdc buck =>
      have field := alike.field (buckVolMask_owned buck)
      simp only [getVoltage, dcdcGetVoltage, field]
  | ldo ldo =>
      simp only [getVoltage, ldoGetVoltage]
      by_cases last : ldo = 9
      · subst last
        have field := alike.field (buckVolMask_owned 3)
        rw [if_pos rfl, if_pos rfl, field]
      · have own : voltageSource (.ldo ldo) = .ldo ldo := by
          simp [voltageSource, last]
        rw [own] at alike
        rw [if_neg last, if_neg last]
        cases address : ldoSetVolBaseAddr[ldo.val]? with
        | none => rfl
        | some reg =>
            have field : chip reg &&& ldoMask ldo = other reg &&& ldoMask ldo :=
              alike.field fun index inside => .inl ⟨.inl address, inside⟩
            simp only [field]

/-- Over a run of framed operations a regulator is on or off as its own
operations, taken alone, leave it, and its voltage reads as the operations of
its source leave it. -/
theorem isolated {start final : Chip} {operations : List Operation}
    (run : Run step FrameCondition start operations final)
    (regulator : Regulator) :
    (∃ alone, Run step (fun _ _ => True) start
        (purge Operation.regulator regulator operations) alone ∧
      isEnabled final regulator = isEnabled alone regulator) ∧
    (∃ alone, Run step (fun _ _ => True) start
        (purge Operation.regulator (voltageSource regulator) operations)
        alone ∧
      getVoltage final regulator = getVoltage alone regulator) := by
  constructor
  · obtain ⟨alone, own, alike⟩ := unwinds.run_purge run regulator
    exact ⟨alone, own, isEnabled_congr alike⟩
  · obtain ⟨alone, own, alike⟩ :=
      unwinds.run_purge run (voltageSource regulator)
    exact ⟨alone, own, getVoltage_congr alike⟩

/-- LDO10 reads the 2 V of DCDC4, among operations on four regulators. -/
theorem isolated_ldo10 :
    ∃ final alone, Run step FrameCondition (fun _ => 0)
        [.dcdc 3 (.setVoltage 2000000 2000000), .ldo 9 .enable,
          .dcdc 0 .enable, .ldo 8 .disable] final ∧
      Run step (fun _ _ => True) (fun _ => 0)
        [.dcdc 3 (.setVoltage 2000000 2000000)] alone ∧
      getVoltage final (.ldo 9) = getVoltage alone (.ldo 9) ∧
      getVoltage final (.ldo 9) = some 2000000 := by
  have ends : (execute step FrameCondition (fun _ => 0)
      [.dcdc 3 (.setVoltage 2000000 2000000), .ldo 9 .enable,
        .dcdc 0 .enable, .ldo 8 .disable]).any
      (fun final => getVoltage final (.ldo 9) = some 2000000) = true := by
    decide
  obtain ⟨final, run, reads⟩ := Run.exists_of_execute ends
  obtain ⟨alone, own, same⟩ := (isolated run (.ldo 9)).2
  exact ⟨final, alone, run, own, same, of_decide_eq_true reads⟩

end KernelDrivers.Rk818
