import KernelDrivers.Regulator.Rk818

/-!
# RK818 voltage requests

When the voltage read back after a successful `set_voltage` lies in the
requested window.
-/

namespace KernelDrivers.Rk818

open KernelDrivers.Library KernelDrivers.Regulator

/-- `set_voltage` stays inside its tables, and if it returns 0 the voltage
read back lies in the window. -/
def Honoured (chip : Chip) (regulator : Regulator) (minUV maxUV : Int) :
    Prop :=
  ∃ ret after, setVoltage chip regulator minUV maxUV = some (ret, after) ∧
    (ret = 0 → ∃ voltage, getVoltage after regulator = some voltage ∧
      minUV ≤ voltage ∧ voltage ≤ maxUV)

/-- The windows for which a request is honoured. -/
def Honourable (minUV maxUV : Int) : Regulator → Prop
  | .dcdc buck =>
      match buck with
      | 0 | 1 => 712500 ≤ maxUV ∧ minUV ≤ 1500000 ∧
          (minUV ≤ 712500 ∨ (minUV - 712500) % 12500 = 0)
      | 2 => minUV ≤ 1200000 ∧ 1200000 ≤ maxUV
      | 3 => (1800000 ≤ maxUV ∧ minUV ≤ 3300000 ∧
            (minUV ≤ 1800000 ∨ (minUV - 1800000) % 100000 = 0)) ∨
          (3300000 < minUV ∧ minUV ≤ 6000000 ∧ 6000000 ≤ maxUV)
  | .ldo ldo =>
      ldoOutOfRange ldo (minUV.tdiv 1000) ∨
        (ldo ≠ 9 ∧ Requestable (ldoVolMap ldo).1 minUV maxUV)

theorem ldoVolMap_length (ldo : Fin 10) :
    (ldoVolMap ldo).1.length = (ldoVolMap ldo).2 + 1 := by
  revert ldo
  decide

theorem ldoVolMap_ascending (ldo : Fin 10) :
    (ldoVolMap ldo).1.Pairwise (· < ·) := by
  revert ldo
  decide

private theorem ldoVolMap_last (ldo : Fin 10) :
    (ldoVolMap ldo).1.getD (ldoVolMap ldo).2 0 ∈ (ldoVolMap ldo).1 := by
  revert ldo
  decide

theorem ldoVolMap_small (ldo : Fin 10) :
    (ldoVolMap ldo).2 < 18 := by
  revert ldo
  decide

private theorem ldoMask_small (ldo : Fin 10) (index : Fin 18) :
    index.val ≤ (ldoVolMap ldo).2 →
      (BitVec.ofNat 8 index &&& ldoMask ldo).toNat = index := by
  revert ldo index
  decide

private theorem ldoMask_field (ldo : Fin 10) {index : Nat}
    (inside : index ≤ (ldoVolMap ldo).2) :
    (BitVec.ofNat 8 index &&& ldoMask ldo).toNat = index := by
  have bound := ldoVolMap_small ldo
  exact ldoMask_small ldo ⟨index, by omega⟩ inside

private theorem ldoSetVolBaseAddr_some {ldo : Fin 10} (known : ldo ≠ 9) :
    ∃ reg, ldoSetVolBaseAddr[ldo.val]? = some reg := by
  have inside : ldo.val < ldoSetVolBaseAddr.length := by
    have bound : ldo.val ≠ 9 := fun same => known (Fin.ext same)
    simp only [ldoSetVolBaseAddr, List.length_cons, List.length_nil]
    omega
  exact ⟨_, List.getElem?_eq_getElem inside⟩

private theorem ldoGetVoltage_setVoltage (chip : Chip) {ldo : Fin 10}
    (known : ldo ≠ 9) {minUV : Int} (maxUV : Int)
    (inRange : ¬ldoOutOfRange ldo (minUV.tdiv 1000)) {vol : Int}
    (read : (ldoVolMap ldo).1[firstAtLeast (ldoVolMap ldo).1
      (ldoVolMap ldo).2 (minUV.tdiv 1000)]? = some vol)
    (inside : firstAtLeast (ldoVolMap ldo).1 (ldoVolMap ldo).2
      (minUV.tdiv 1000) ≤ (ldoVolMap ldo).2) :
    ∃ after, ldoSetVoltage chip ldo minUV maxUV = some (0, after) ∧
      ldoGetVoltage after ldo = some (1000 * vol) := by
  obtain ⟨reg, address⟩ := ldoSetVolBaseAddr_some known
  refine ⟨chip.setBits reg (ldoMask ldo) (BitVec.ofNat 8
    (firstAtLeast (ldoVolMap ldo).1 (ldoVolMap ldo).2 (minUV.tdiv 1000))),
    ?_, ?_⟩
  · rw [ldoSetVoltage, ldoSetVoltageIn, if_neg inRange, address]
  · rw [ldoGetVoltage, if_neg known, address]
    simp only
    rw [RegisterFile.field_setBits, ldoMask_field ldo inside, microvolts, read,
      Option.map_some]

theorem ldo_enough {ldo : Fin 10} {minVol : Int}
    (inRange : ¬ldoOutOfRange ldo minVol) :
    ∃ vol ∈ (ldoVolMap ldo).1, minVol ≤ vol := by
  refine ⟨_, ldoVolMap_last ldo, ?_⟩
  unfold ldoOutOfRange at inRange
  omega

private theorem ldo_honoured_iff (chip : Chip) (ldo : Fin 10)
    {minUV maxUV : Int} (nonneg : 0 ≤ minUV) :
    Honoured chip (.ldo ldo) minUV maxUV ↔
      Honourable minUV maxUV (.ldo ldo) := by
  by_cases rejected : ldoOutOfRange ldo (minUV.tdiv 1000)
  · have answer : setVoltage chip (.ldo ldo) minUV maxUV =
        some (einval, chip) := by
      rw [setVoltage, ldoSetVoltage, ldoSetVoltageIn, if_pos rejected]
    constructor
    · intro _
      exact .inl rejected
    · intro _
      exact ⟨einval, chip, answer, fun accepted => by cases accepted⟩
  · by_cases known : ldo = 9
    · subst known
      have undefined : setVoltage chip (.ldo 9) minUV maxUV = none := by
        rw [setVoltage, ldoSetVoltage, ldoSetVoltageIn, if_neg rejected]
        rfl
      constructor
      · rintro ⟨ret, after, answer, -⟩
        rw [undefined] at answer
        cases answer
      · rintro (outside | ⟨known, -⟩)
        · exact absurd outside rejected
        · exact absurd rfl known
    · have enough := ldo_enough rejected
      obtain ⟨inside, -⟩ := firstAtLeast_spec (ldoVolMap_length ldo)
        (ldoVolMap_ascending ldo) enough
      obtain ⟨vol, read, window⟩ := firstAtLeast_window maxUV
        (ldoVolMap_length ldo) (ldoVolMap_ascending ldo) nonneg enough
      obtain ⟨after, answer, voltage⟩ := ldoGetVoltage_setVoltage chip known
        maxUV rejected read inside
      constructor
      · rintro ⟨ret, after', answer', inWindow⟩
        have same := answer.symm.trans answer'
        cases same
        obtain ⟨voltage', read', bounds⟩ := inWindow rfl
        rw [getVoltage, voltage] at read'
        cases read'
        exact .inr ⟨known, window.mp bounds⟩
      · rintro (outside | ⟨-, requestable⟩)
        · exact absurd outside rejected
        · exact ⟨0, after, answer,
            fun _ => ⟨1000 * vol, voltage, window.mpr requestable⟩⟩

/-- The voltage that a buck reads back after a selector was written. -/
private def readBack (buck : Fin 4) (selector : Int) : Int :=
  dcdcListVoltage buck (BitVec.ofInt 8 selector &&& buckVolMask).toNat

private theorem dcdcGetVoltage_setVoltage (chip : Chip) {buck : Fin 4}
    (adjustable : buck ≠ 2) (minUV maxUV : Int) :
    ∃ after, dcdcSetVoltage chip buck minUV maxUV = (0, after) ∧
      dcdcGetVoltage after buck =
        readBack buck (dcdcSelectMinVoltage minUV maxUV buck) := by
  refine ⟨_, by rw [dcdcSetVoltage, if_neg adjustable], ?_⟩
  rw [dcdcGetVoltage, RegisterFile.field_setBits]
  rfl

private theorem selector_field (selector : Fin 64) :
    (BitVec.ofInt 8 (selector.val : Int) &&& buckVolMask).toNat =
      selector := by
  revert selector
  decide

private theorem readBack_selector (buck : Fin 4) {selector : Nat}
    (inside : selector < 64) :
    readBack buck (selector : Int) = dcdcListVoltage buck selector := by
  rw [readBack, selector_field ⟨selector, inside⟩]

private theorem readBack_einval (buck : Fin 4) :
    readBack buck einval = dcdcListVoltage buck 42 := by
  revert buck
  decide

private theorem dcdc_honoured (chip : Chip) {buck : Fin 4}
    (adjustable : buck ≠ 2) (minUV maxUV : Int) :
    Honoured chip (.dcdc buck) minUV maxUV ↔
      minUV ≤ readBack buck (dcdcSelectMinVoltage minUV maxUV buck) ∧
        readBack buck (dcdcSelectMinVoltage minUV maxUV buck) ≤ maxUV := by
  obtain ⟨after, answer, voltage⟩ :=
    dcdcGetVoltage_setVoltage chip adjustable minUV maxUV
  constructor
  · rintro ⟨ret, after', answer', inWindow⟩
    rw [setVoltage, answer] at answer'
    cases answer'
    obtain ⟨voltage', read, bounds⟩ := inWindow rfl
    rw [getVoltage, voltage] at read
    cases read
    exact bounds
  · intro bounds
    exact ⟨0, after, by rw [setVoltage, answer],
      fun _ => ⟨_, by rw [getVoltage, voltage], bounds⟩⟩

/-- The voltages of an adjustable buck: the lowest, the step, and the highest
minimum that is accepted. -/
structure Grid (buck : Fin 4) (base step top : Int) : Prop where
  adjustable : buck ≠ 2
  positive : 0 < step
  selectors : top - base < 64 * step
  vsel : ∀ minUV, dcdcVsel minUV buck =
    if minUV < base then some 0
    else if minUV ≤ top then some ((minUV - base).tdiv step).toNat
    else none
  list : ∀ selector < 64, dcdcListVoltage buck selector = base + selector * step

theorem grid_core {buck : Fin 4} (core : buck = 0 ∨ buck = 1) :
    Grid buck 712500 12500 1500000 := by
  refine ⟨?_, by decide, by decide, ?_, ?_⟩
  · rcases core with rfl | rfl <;> decide
  · intro minUV
    rcases core with rfl | rfl <;> simp [dcdcVsel]
  · intro selector inside
    have small : ¬selector > 0x3f := by omega
    rcases core with rfl | rfl <;> simp [dcdcListVoltage, small]

theorem grid_buck4 : Grid 3 1800000 100000 3300000 := by
  refine ⟨by decide, by decide, by decide, ?_, ?_⟩
  · intro minUV
    simp [dcdcVsel]
  · intro selector inside
    have small : ¬selector > 0x3f := by omega
    simp [dcdcListVoltage, small]

/-- A minimum on the grid's range selects the grid voltage below it. -/
theorem Grid.selected {buck : Fin 4} {base step top : Int}
    (grid : Grid buck base step top) {minUV : Int} (above : base ≤ minUV)
    (within : minUV ≤ top) :
    ∃ selector < 64, dcdcVsel minUV buck = some selector ∧
      dcdcListVoltage buck selector = minUV - (minUV - base) % step := by
  have nonneg : 0 ≤ minUV - base := by omega
  have quotient : (minUV - base).tdiv step = (minUV - base) / step :=
    Int.tdiv_eq_ediv_of_nonneg nonneg
  have split := Int.mul_ediv_add_emod (minUV - base) step
  have lower : 0 ≤ (minUV - base) / step :=
    Int.ediv_nonneg nonneg (Int.le_of_lt grid.positive)
  have upper : (minUV - base) / step < 64 := by
    apply Int.ediv_lt_of_lt_mul grid.positive
    have selectors := grid.selectors
    omega
  have small : ((minUV - base) / step).toNat < 64 := by omega
  refine ⟨_, small, ?_, ?_⟩
  · have vsel := grid.vsel minUV
    rwa [if_neg (by omega), if_pos within, quotient] at vsel
  · rw [grid.list _ small, Int.toNat_of_nonneg lower, Int.mul_comm]
    omega

theorem Grid.lowest {buck : Fin 4} {base step top : Int}
    (grid : Grid buck base step top) : dcdcListVoltage buck 0 = base := by
  rw [grid.list 0 (by decide)]
  simp

/-- What an adjustable buck reads back: its lowest voltage, the grid voltage
below the minimum, or what an error code denotes. -/
private theorem Grid.readBack {buck : Fin 4} {base step top : Int}
    (grid : Grid buck base step top) {minUV maxUV : Int}
    (ordered : minUV ≤ maxUV) :
    Rk818.readBack buck (dcdcSelectMinVoltage minUV maxUV buck) =
      if minUV < base ∧ base ≤ maxUV then base
      else if base ≤ minUV ∧ minUV ≤ top then
        minUV - (minUV - base) % step
      else base + 42 * step := by
  have error : Rk818.readBack buck einval = base + 42 * step := by
    rw [readBack_einval, grid.list 42 (by decide)]
    rfl
  have vsel := grid.vsel minUV
  unfold dcdcSelectMinVoltage
  by_cases below : minUV < base
  · rw [if_pos below] at vsel
    simp only [vsel, grid.lowest]
    by_cases fits : base ≤ maxUV
    · rw [if_neg (by omega), if_pos ⟨below, fits⟩,
        readBack_selector buck (by decide), grid.lowest]
    · have misses : ¬(minUV < base ∧ base ≤ maxUV) :=
        fun both => fits both.2
      rw [if_pos (by omega), if_neg misses, if_neg (by omega), error]
  · have above : ¬(minUV < base ∧ base ≤ maxUV) := fun both => below both.1
    rw [if_neg below] at vsel
    rw [if_neg above]
    by_cases within : minUV ≤ top
    · obtain ⟨selector, small, selected, voltage⟩ :=
        grid.selected (by omega) within
      have remainder := Int.emod_nonneg (minUV - base)
        (Int.ne_of_gt grid.positive)
      rw [if_pos ⟨by omega, within⟩]
      simp only [selected, voltage]
      rw [if_neg (by omega), readBack_selector buck small, voltage]
    · have beyond : ¬(base ≤ minUV ∧ minUV ≤ top) := fun both => within both.2
      rw [if_neg within] at vsel
      rw [if_neg beyond]
      simp only [vsel]
      exact error

private theorem dcdc3_honoured_iff (chip : Chip) (minUV maxUV : Int) :
    Honoured chip (.dcdc 2) minUV maxUV ↔
      minUV ≤ 1200000 ∧ 1200000 ≤ maxUV := by
  have fixed : dcdcGetVoltage chip 2 = 1200000 := by
    have field : (chip (buckSetVolBaseAddr 2) &&& buckVolMask).toNat ≤ 63 := by
      rw [BitVec.toNat_and]
      exact Nat.and_le_right
    rw [dcdcGetVoltage, dcdcListVoltage, if_neg (by omega)]
  constructor
  · rintro ⟨ret, after, answer, inWindow⟩
    cases answer
    obtain ⟨voltage, read, bounds⟩ := inWindow rfl
    rw [getVoltage, fixed] at read
    cases read
    exact bounds
  · intro bounds
    exact ⟨0, chip, rfl, fun _ => ⟨1200000, by rw [getVoltage, fixed], bounds⟩⟩

/-- A request is honoured exactly for the windows above. -/
theorem honoured_iff (chip : Chip) (regulator : Regulator) {minUV maxUV : Int}
    (nonneg : 0 ≤ minUV) (ordered : minUV ≤ maxUV) :
    Honoured chip regulator minUV maxUV ↔
      Honourable minUV maxUV regulator := by
  cases regulator with
  | ldo ldo => exact ldo_honoured_iff chip ldo nonneg
  | dcdc buck =>
      by_cases fixed : buck = 2
      · subst fixed
        exact dcdc3_honoured_iff chip minUV maxUV
      · rw [dcdc_honoured chip fixed]
        by_cases last : buck = 3
        · subst last
          rw [grid_buck4.readBack ordered]
          simp only [Honourable]
          split
          · omega
          · split <;> omega
        · have core : buck = 0 ∨ buck = 1 := by omega
          have shape : Honourable minUV maxUV (.dcdc buck) ↔
              712500 ≤ maxUV ∧ minUV ≤ 1500000 ∧
                (minUV ≤ 712500 ∨ (minUV - 712500) % 12500 = 0) := by
            rcases core with rfl | rfl <;> rfl
          rw [(grid_core core).readBack ordered, shape]
          split
          · omega
          · split <;> omega

/-- A minimum just above a grid point of DCDC1 is rounded down. -/
theorem not_honoured_dcdc1 :
    ¬Honoured (fun _ => 0) (.dcdc 0) 712501 800000 := by
  rintro ⟨ret, after, answer, inWindow⟩
  cases answer
  obtain ⟨voltage, read, bounds⟩ := inWindow rfl
  revert read
  intro read
  cases read
  exact absurd bounds (by decide)

theorem honoured_iff_dcdc1 :
    Honoured (fun _ => 0) (.dcdc 0) 712501 800000 ↔
      Honourable 712501 800000 (.dcdc 0) :=
  honoured_iff (fun _ => 0) (.dcdc 0) (by decide) (by decide)

end KernelDrivers.Rk818
