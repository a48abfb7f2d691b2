import KernelDrivers.Regulator.Act8846

/-!
# ACT8846 voltage requests

When a voltage request is either rejected without a trace, or leaves a voltage
in the requested window to be read back.
-/

namespace KernelDrivers.Act8846

open KernelDrivers.Library KernelDrivers.Regulator

/-- `set_voltage` stays inside its tables.  If it returns 0 the voltage read
back lies in the window, whatever the stack holds, and otherwise it returns an
error and leaves the registers alone. -/
def Honoured (chip : Chip) (regulator : Regulator) (minUV maxUV : Int) :
    Prop :=
  ∃ ret after, setVoltage chip regulator minUV maxUV = some (ret, after) ∧
    ((ret = 0 ∧ ∀ stack, ∃ voltage,
        getVoltage after stack regulator = some voltage ∧
          minUV ≤ voltage ∧ voltage ≤ maxUV) ∨
      (ret < 0 ∧ after = chip))

/-- Every entry that is large enough is too large. -/
def NoneFits (volMap : List Int) (minVol maxVol : Int) : Prop :=
  ∀ vol ∈ volMap, minVol ≤ vol → maxVol < vol

/-- The windows for which a request is honoured. -/
def Honourable (minUV maxUV : Int) : Regulator → Prop
  | .dcdc _ => outOfRange buckVoltageMap (minUV.tdiv 1000) ∨
      Requestable buckVoltageMap minUV maxUV
  | .ldo ldo => outOfRange ldoVoltageMap (minUV.tdiv 1000) ∨
      NoneFits ldoVoltageMap (minUV.tdiv 1000) (maxUV.tdiv 1000) ∨
      (ldo ≠ 8 ∧ minUV = 600000 ∧ 3900000 ≤ maxUV)

theorem ldoVoltageMap_eq : ldoVoltageMap = buckVoltageMap :=
  rfl

theorem buckVoltageMap_length : buckVoltageMap.length = volMaxIdx + 1 :=
  rfl

theorem buckVoltageMap_ascending : buckVoltageMap.Pairwise (· < ·) := by
  decide

theorem ldoVoltageMap_length : ldoVoltageMap.length = volMaxIdx + 1 :=
  rfl

theorem ldoVoltageMap_ascending : ldoVoltageMap.Pairwise (· < ·) :=
  buckVoltageMap_ascending

theorem buckVoltageMap_bounds :
    ∀ vol ∈ buckVoltageMap, 600 ≤ vol ∧ vol ≤ 3900 := by
  decide

theorem outOfRange_iff (minVol : Int) :
    outOfRange buckVoltageMap minVol ↔ minVol < 600 ∨ 3900 < minVol :=
  Iff.rfl

theorem enough {minVol : Int} (inRange : ¬outOfRange buckVoltageMap minVol) :
    ∃ vol ∈ buckVoltageMap, minVol ≤ vol := by
  have last : (3900 : Int) ∈ buckVoltageMap := by decide
  refine ⟨3900, last, ?_⟩
  rw [outOfRange_iff] at inRange
  omega

theorem selector_field (selector : Fin 64) :
    (BitVec.ofNat 8 selector &&& BitVec.ofNat 8 buckVolMask).toNat =
      selector := by
  revert selector
  decide

private theorem selector_kept (chip : Chip) (reg : Nat) {selector : Nat}
    (inside : selector ≤ volMaxIdx) :
    (chip.updateBits reg (BitVec.ofNat 8 buckVolMask)
        (BitVec.ofNat 8 selector) reg &&& BitVec.ofNat 8 buckVolMask).toNat =
      selector := by
  rw [RegisterFile.field_updateBits]
  have small : selector < 64 := Nat.lt_succ_of_le inside
  exact selector_field ⟨selector, small⟩

private theorem buckSetVolBaseAddr_some (buck : Fin 4) :
    ∃ reg, buckSetVolBaseAddr[buck.val]? = some reg :=
  ⟨_, List.getElem?_eq_getElem buck.isLt⟩

private theorem dcdc_honoured_iff (chip : Chip) (buck : Fin 4)
    {minUV maxUV : Int} (nonneg : 0 ≤ minUV) :
    Honoured chip (.dcdc buck) minUV maxUV ↔
      Honourable minUV maxUV (.dcdc buck) := by
  by_cases rejected : outOfRange buckVoltageMap (minUV.tdiv 1000)
  · have answer : setVoltage chip (.dcdc buck) minUV maxUV =
        some (einval, chip) := by
      rw [setVoltage, dcdcSetVoltage, if_pos rejected]
    constructor
    · intro _
      exact .inl rejected
    · intro _
      exact ⟨einval, chip, answer, .inr ⟨by decide, rfl⟩⟩
  · obtain ⟨inside, -⟩ := firstAtLeast_spec buckVoltageMap_length
      buckVoltageMap_ascending (enough rejected)
    obtain ⟨vol, read, window⟩ := firstAtLeast_window maxUV
      buckVoltageMap_length buckVoltageMap_ascending nonneg (enough rejected)
    obtain ⟨reg, address⟩ := buckSetVolBaseAddr_some buck
    obtain ⟨after, answer, voltage⟩ : ∃ after,
        setVoltage chip (.dcdc buck) minUV maxUV = some (0, after) ∧
          ∀ stack, getVoltage after stack (.dcdc buck) =
            some (1000 * vol) := by
      refine ⟨_, by rw [setVoltage, dcdcSetVoltage, if_neg rejected, address],
        ?_⟩
      intro stack
      rw [getVoltage, dcdcGetVoltage, address]
      simp only
      rw [selector_kept chip reg inside, microvolts, read, Option.map_some]
    constructor
    · rintro ⟨ret, after', answer', outcome⟩
      rw [answer] at answer'
      cases answer'
      rcases outcome with ⟨-, inWindow⟩ | ⟨negative, -⟩
      · obtain ⟨voltage', read', bounds⟩ := inWindow 0
        rw [voltage] at read'
        cases read'
        exact .inr (window.mp bounds)
      · exact absurd negative (by decide)
    · rintro (outside | requestable)
      · exact absurd outside rejected
      · refine ⟨0, after, answer, .inl ⟨rfl, ?_⟩⟩
        intro stack
        exact ⟨1000 * vol, voltage stack, window.mpr requestable⟩

private theorem ldoSetVolBaseAddr_some {ldo : Fin 9} (known : ldo ≠ 8) :
    ∃ reg, ldoSetVolBaseAddr[ldo.val]? = some reg := by
  have inside : ldo.val < ldoSetVolBaseAddr.length := by
    have bound : ldo.val ≠ 8 := fun same => known (Fin.ext same)
    simp only [ldoSetVolBaseAddr, List.length_cons, List.length_nil]
    omega
  exact ⟨_, List.getElem?_eq_getElem inside⟩

private theorem ldoGetVoltage_stack (chip : Chip) {ldo : Fin 9}
    (known : ldo ≠ 8) (reg : BitVec 32) :
    ldoGetVoltage chip ldo reg =
      microvolts ldoVoltageMap (reg &&& BitVec.ofNat 32 ldoVolMask).toNat := by
  obtain ⟨address, found⟩ := ldoSetVolBaseAddr_some known
  rw [ldoGetVoltage, found]

private theorem ldoGetVoltage_bounds (chip : Chip) {ldo : Fin 9}
    (known : ldo ≠ 8) (reg : BitVec 32) :
    ∃ voltage, ldoGetVoltage chip ldo reg = some voltage ∧
      600000 ≤ voltage ∧ voltage ≤ 3900000 := by
  have inside : (reg &&& BitVec.ofNat 32 ldoVolMask).toNat <
      ldoVoltageMap.length := by
    have small : (reg &&& BitVec.ofNat 32 ldoVolMask).toNat ≤ 63 := by
      rw [BitVec.toNat_and]
      exact Nat.and_le_right
    exact Nat.lt_succ_of_le small
  obtain ⟨lower, upper⟩ := buckVoltageMap_bounds _ (List.getElem_mem inside)
  refine ⟨1000 * ldoVoltageMap[(reg &&& BitVec.ofNat 32 ldoVolMask).toNat],
    ?_, by omega, by omega⟩
  rw [ldoGetVoltage_stack chip known, microvolts,
    List.getElem?_eq_getElem inside, Option.map_some]

/-- An accepted LDO request can read back the lowest and the highest voltage
of the table. -/
private theorem ldo_window_iff (chip : Chip) {ldo : Fin 9} (known : ldo ≠ 8)
    {minUV : Int} (maxUV : Int) (nonneg : 0 ≤ minUV)
    (inRange : ¬outOfRange ldoVoltageMap (minUV.tdiv 1000)) :
    (∀ stack, ∃ voltage, ldoGetVoltage chip ldo stack = some voltage ∧
        minUV ≤ voltage ∧ voltage ≤ maxUV) ↔
      minUV = 600000 ∧ 3900000 ≤ maxUV := by
  rw [ldoVoltageMap_eq, outOfRange_iff, Int.tdiv_eq_ediv_of_nonneg nonneg]
    at inRange
  constructor
  · intro inWindow
    obtain ⟨lowest, readLowest, lower⟩ := inWindow 0
    obtain ⟨highest, readHighest, upper⟩ := inWindow 63
    have first : ldoGetVoltage chip ldo 0 = some 600000 :=
      ldoGetVoltage_stack chip known 0
    have last : ldoGetVoltage chip ldo 63 = some 3900000 :=
      ldoGetVoltage_stack chip known 63
    rw [first] at readLowest
    rw [last] at readHighest
    cases readLowest
    cases readHighest
    omega
  · rintro ⟨least, wide⟩ stack
    obtain ⟨voltage, read, bounds⟩ := ldoGetVoltage_bounds chip known stack
    exact ⟨voltage, read, by omega, by omega⟩

private theorem ldo_honoured_iff (chip : Chip) (ldo : Fin 9)
    {minUV maxUV : Int} (nonneg : 0 ≤ minUV) :
    Honoured chip (.ldo ldo) minUV maxUV ↔
      Honourable minUV maxUV (.ldo ldo) := by
  by_cases rejected : outOfRange ldoVoltageMap (minUV.tdiv 1000)
  · have answer : setVoltage chip (.ldo ldo) minUV maxUV =
        some (einval, chip) := by
      rw [setVoltage, ldoSetVoltage, if_pos rejected]
    constructor
    · intro _
      exact .inl rejected
    · intro _
      exact ⟨einval, chip, answer, .inr ⟨by decide, rfl⟩⟩
  · obtain ⟨-, vol, member, read, large, least⟩ :=
      firstAtLeast_spec ldoVoltageMap_length ldoVoltageMap_ascending
        (enough rejected)
    have found : ldoVoltageMap.getD
        (firstAtLeast ldoVoltageMap volMaxIdx (minUV.tdiv 1000)) 0 = vol := by
      rw [List.getD_eq_getElem?_getD, read, Option.getD_some]
    have fits : NoneFits ldoVoltageMap (minUV.tdiv 1000) (maxUV.tdiv 1000) ↔
        maxUV.tdiv 1000 < vol := by
      constructor
      · intro none
        exact none vol member large
      · intro above other inTable enough
        have closest := least other inTable enough
        omega
    by_cases above : maxUV.tdiv 1000 < vol
    · have answer : setVoltage chip (.ldo ldo) minUV maxUV =
          some (einval, chip) := by
        rw [setVoltage, ldoSetVoltage, if_neg rejected]
        simp only
        rw [found, if_pos above]
      constructor
      · intro _
        exact .inr (.inl (fits.mpr above))
      · intro _
        exact ⟨einval, chip, answer, .inr ⟨by decide, rfl⟩⟩
    · by_cases known : ldo = 8
      · subst known
        have undefined : setVoltage chip (.ldo 8) minUV maxUV = none := by
          rw [setVoltage, ldoSetVoltage, if_neg rejected]
          simp only
          rw [found, if_neg above]
          rfl
        constructor
        · rintro ⟨ret, after, answer, -⟩
          rw [undefined] at answer
          cases answer
        · rintro (outside | none | ⟨known, -⟩)
          · exact absurd outside rejected
          · exact absurd (fits.mp none) above
          · exact absurd rfl known
      · obtain ⟨reg, address⟩ := ldoSetVolBaseAddr_some known
        obtain ⟨after, answer⟩ : ∃ after,
            setVoltage chip (.ldo ldo) minUV maxUV = some (0, after) := by
          refine ⟨chip.updateBits reg (BitVec.ofNat 8 ldoVolMask)
            (BitVec.ofNat 8 (firstAtLeast ldoVoltageMap volMaxIdx
              (minUV.tdiv 1000))), ?_⟩
          rw [setVoltage, ldoSetVoltage, if_neg rejected]
          simp only
          rw [found, if_neg above, address]
        have window := ldo_window_iff after known maxUV nonneg rejected
        constructor
        · rintro ⟨ret, after', answer', outcome⟩
          rw [answer] at answer'
          cases answer'
          rcases outcome with ⟨-, inWindow⟩ | ⟨negative, -⟩
          · exact .inr (.inr ⟨known, window.mp inWindow⟩)
          · exact absurd negative (by decide)
        · rintro (outside | none | ⟨-, whole⟩)
          · exact absurd outside rejected
          · exact absurd (fits.mp none) above
          · exact ⟨0, after, answer, .inl ⟨rfl, window.mpr whole⟩⟩

/-- A request is honoured exactly for the windows above. -/
theorem setVoltage_honoured_iff (chip : Chip) (regulator : Regulator)
    {minUV maxUV : Int}
    (nonneg : 0 ≤ minUV) :
    Honoured chip regulator minUV maxUV ↔
      Honourable minUV maxUV regulator := by
  cases regulator with
  | dcdc buck => exact dcdc_honoured_iff chip buck nonneg
  | ldo ldo => exact ldo_honoured_iff chip ldo nonneg

/-- DCDC1 is set to 625 mV where at most 610 mV were asked for. -/
theorem not_honoured_buck1 :
    ¬Honoured (fun _ => 0) (.dcdc 0) 601000 610000 := by
  rintro ⟨ret, after, answer, outcome⟩
  have accepted : setVoltage (fun _ => 0) (.dcdc 0) 601000 610000 =
      some (0, RegisterFile.updateBits (fun _ => 0) 0x10 0x3f 1) :=
    rfl
  rw [accepted] at answer
  cases answer
  rcases outcome with ⟨-, inWindow⟩ | ⟨negative, -⟩
  · obtain ⟨voltage, read, bounds⟩ := inWindow 0
    have selected : getVoltage
        (RegisterFile.updateBits (fun _ => 0) 0x10 0x3f 1) 0 (.dcdc 0) =
          some 625000 := by
      decide
    rw [selected] at read
    cases read
    exact absurd bounds (by decide)
  · exact absurd negative (by decide)

theorem setVoltage_honoured_iff_buck1 :
    Honoured (fun _ => 0) (.dcdc 0) 601000 610000 ↔
      Honourable 601000 610000 (.dcdc 0) :=
  setVoltage_honoured_iff (fun _ => 0) (.dcdc 0) (by decide)

end KernelDrivers.Act8846
