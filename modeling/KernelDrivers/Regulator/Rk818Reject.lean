import KernelDrivers.Regulator.Rk818Voltage

/-!
# RK818 voltage requests that must be rejected

Which requests for a voltage that the regulator does not have are refused with
an error and without a write, and when an error code becomes a register value.
-/

namespace KernelDrivers.Rk818

open KernelDrivers.Library KernelDrivers.Regulator

/-- The two voltage operations of `rk818_dcdc_ops` and `rk818_ldo_ops`. -/
inductive VoltageRequest where
  | setVoltage (minUV maxUV : Int)
  | setSuspendVoltage (uV : Int)

def VoltageRequest.minUV : VoltageRequest → Int
  | .setVoltage minUV _ => minUV
  | .setSuspendVoltage uV => uV

def VoltageRequest.maxUV : VoltageRequest → Int
  | .setVoltage _ maxUV => maxUV
  | .setSuspendVoltage uV => uV

/-- The return value and the registers, unless a table was left. -/
def VoltageRequest.serve (chip : Chip) (regulator : Regulator) :
    VoltageRequest → Option (Int × Chip)
  | .setVoltage minUV maxUV => Rk818.setVoltage chip regulator minUV maxUV
  | .setSuspendVoltage uV =>
      match regulator with
      | .dcdc buck => some (dcdcSetSleepVoltage chip buck uV)
      | .ldo ldo => ldoSetSleepVoltage chip ldo uV

/-- `n_voltages`, the sizes of `buck_voltage_map`, `buck4_voltage_map` and the
maps of the LDOs. -/
def nVoltages : Regulator → Nat
  | .dcdc buck => if buck = 0 ∨ buck = 1 then 64 else buck4VoltageMap.length
  | .ldo ldo =>
      if ldo = 9 then buck4VoltageMap.length else (ldoVolMap ldo).1.length

def ldoListVoltage (ldo : Fin 10) (index : Nat) : Int :=
  match microvolts (ldoVolMap ldo).1 index with
  | none => einval
  | some voltage => voltage

def listVoltage : Regulator → Nat → Int
  | .dcdc buck => dcdcListVoltage buck
  | .ldo ldo => ldoListVoltage ldo

/-- Some selector yields a voltage inside the request. -/
def Selectable (regulator : Regulator) (request : VoltageRequest) : Prop :=
  ∃ selector < nVoltages regulator, 0 ≤ listVoltage regulator selector ∧
    request.minUV ≤ listVoltage regulator selector ∧
    listVoltage regulator selector ≤ request.maxUV

instance (regulator : Regulator) (request : VoltageRequest) :
    Decidable (Selectable regulator request) :=
  inferInstanceAs (Decidable (∃ selector < _, _))

/-- A call of `rk818_set_bits`, with the value before it is cut to eight bits;
the register is `none` beyond its table. -/
structure Write where
  reg : Option Nat
  mask : BitVec 8
  val : Int

def Write.perform (chip : Chip) (write : Write) : Option Chip :=
  write.reg.map fun reg =>
    chip.setBits reg write.mask (BitVec.ofInt 8 write.val)

/-- The writes of `rk818_dcdc_set_voltage`: DCDC4 is written twice. -/
def dcdcWrites (buck : Fin 4) (minUV maxUV : Int) : List Write :=
  let write := ⟨buckSetVolBaseAddr buck, buckVolMask,
    dcdcSelectMinVoltage minUV maxUV buck⟩
  if buck = 2 then []
  else if buck = 3 then [write, write]
  else [write]

def dcdcSleepWrites (buck : Fin 4) (uV : Int) : List Write :=
  if buck = 2 then []
  else
    [⟨buckSetSlpVolBaseAddr buck, buckVolMask, dcdcSelectMinVoltage uV uV buck⟩]

def ldoWritesIn (table : List Nat) (ldo : Fin 10) (uV : Int) : List Write :=
  if ldoOutOfRange ldo (uV.tdiv 1000) then []
  else
    [⟨table[ldo.val]?, ldoMask ldo,
      (firstAtLeast (ldoVolMap ldo).1 (ldoVolMap ldo).2 (uV.tdiv 1000) : Nat)⟩]

def VoltageRequest.writes (regulator : Regulator) : VoltageRequest → List Write
  | .setVoltage minUV maxUV =>
      match regulator with
      | .dcdc buck => dcdcWrites buck minUV maxUV
      | .ldo ldo => ldoWritesIn ldoSetVolBaseAddr ldo minUV
  | .setSuspendVoltage uV =>
      match regulator with
      | .dcdc buck => dcdcSleepWrites buck uV
      | .ldo ldo => ldoWritesIn ldoSetSlpVolBaseAddr ldo uV

private theorem dcdc_writes (chip : Chip) (buck : Fin 4) (minUV maxUV : Int) :
    (dcdcWrites buck minUV maxUV).foldlM Write.perform chip =
      some (dcdcSetVoltage chip buck minUV maxUV).2 := by
  unfold dcdcWrites dcdcSetVoltage
  by_cases fixed : buck = 2
  · rw [if_pos fixed, if_pos fixed]
    rfl
  · rw [if_neg fixed, if_neg fixed]
    by_cases last : buck = 3
    · rw [if_pos last, if_pos last]
      rfl
    · rw [if_neg last, if_neg last]
      rfl

private theorem dcdcSleep_writes (chip : Chip) (buck : Fin 4) (uV : Int) :
    (dcdcSleepWrites buck uV).foldlM Write.perform chip =
      some (dcdcSetSleepVoltage chip buck uV).2 := by
  unfold dcdcSleepWrites dcdcSetSleepVoltage
  by_cases fixed : buck = 2
  · rw [if_pos fixed, if_pos fixed]
    rfl
  · rw [if_neg fixed, if_neg fixed]
    rfl

private theorem ldo_writes (table : List Nat) (chip : Chip) (ldo : Fin 10)
    (uV : Int) :
    (ldoWritesIn table ldo uV).foldlM Write.perform chip =
      (ldoSetVoltageIn table chip ldo uV).map Prod.snd := by
  unfold ldoWritesIn ldoSetVoltageIn
  by_cases rejected : ldoOutOfRange ldo (uV.tdiv 1000)
  · rw [if_pos rejected, if_pos rejected]
    rfl
  · rw [if_neg rejected, if_neg rejected]
    cases address : table[ldo.val]? with
    | none => rfl
    | some reg => rfl

theorem VoltageRequest.serve_writes (chip : Chip) (regulator : Regulator)
    (request : VoltageRequest) :
    (request.writes regulator).foldlM Write.perform chip =
      (request.serve chip regulator).map Prod.snd := by
  cases request with
  | setVoltage minUV maxUV =>
      cases regulator with
      | dcdc buck => exact dcdc_writes chip buck minUV maxUV
      | ldo ldo => exact ldo_writes ldoSetVolBaseAddr chip ldo minUV
  | setSuspendVoltage uV =>
      cases regulator with
      | dcdc buck => exact dcdcSleep_writes chip buck uV
      | ldo ldo => exact ldo_writes ldoSetSlpVolBaseAddr chip ldo uV

/-- A request without a selector is refused and changes no register, and no
error code is written. -/
def RejectedCleanly (chip : Chip) (regulator : Regulator)
    (request : VoltageRequest) : Prop :=
  (¬Selectable regulator request →
      ∃ ret, request.serve chip regulator = some (ret, chip) ∧ ret < 0) ∧
    ∀ write ∈ request.writes regulator, 0 ≤ write.val

/-- No buck refuses anything, and DCDC4 has voltages above the last minimum that
it accepts; an LDO looks at the range only. -/
def RejectCondition (regulator : Regulator) (request : VoltageRequest) : Prop :=
  match regulator with
  | .dcdc buck =>
      Selectable (.dcdc buck) request ∧ (buck = 3 → request.minUV ≤ 3300000)
  | .ldo ldo =>
      ldoOutOfRange ldo (request.minUV.tdiv 1000) ∨
        Selectable (.ldo ldo) request

private theorem serve_dcdc (chip : Chip) (buck : Fin 4)
    (request : VoltageRequest) :
    ∃ after, request.serve chip (.dcdc buck) = some (0, after) := by
  cases request with
  | setVoltage minUV maxUV =>
      unfold VoltageRequest.serve setVoltage dcdcSetVoltage
      by_cases fixed : buck = 2
      · exact ⟨chip, congrArg some (if_pos fixed)⟩
      · exact ⟨_, congrArg some (if_neg fixed)⟩
  | setSuspendVoltage uV =>
      unfold VoltageRequest.serve dcdcSetSleepVoltage
      by_cases fixed : buck = 2
      · exact ⟨chip, congrArg some (if_pos fixed)⟩
      · exact ⟨_, congrArg some (if_neg fixed)⟩

/-- No buck refuses, so a window without a voltage is not rejected. -/
private theorem dcdc_rejectedCleanly (chip : Chip) (buck : Fin 4)
    (request : VoltageRequest) :
    RejectedCleanly chip (.dcdc buck) request ↔
      Selectable (.dcdc buck) request ∧
        ∀ write ∈ request.writes (.dcdc buck), 0 ≤ write.val := by
  obtain ⟨after, accepted⟩ := serve_dcdc chip buck request
  apply and_congr_left
  intro _
  constructor
  · intro refused
    by_contra missing
    obtain ⟨ret, answer, negative⟩ := refused missing
    rw [accepted] at answer
    cases answer
    exact absurd negative (by decide)
  · intro selectable missing
    exact absurd selectable missing

private theorem dcdc_writes_fixed (request : VoltageRequest) :
    request.writes (.dcdc 2) = [] := by
  cases request <;> rfl

/-- Every write of an adjustable buck carries what was selected. -/
private theorem dcdc_writes_iff {buck : Fin 4} (adjustable : buck ≠ 2)
    (request : VoltageRequest) :
    (∀ write ∈ request.writes (.dcdc buck), 0 ≤ write.val) ↔
      0 ≤ dcdcSelectMinVoltage request.minUV request.maxUV buck := by
  cases request with
  | setVoltage minUV maxUV =>
      simp only [VoltageRequest.writes, dcdcWrites, VoltageRequest.minUV,
        VoltageRequest.maxUV]
      rw [if_neg adjustable]
      by_cases last : buck = 3
      · rw [if_pos last]
        simp
      · rw [if_neg last]
        simp
  | setSuspendVoltage uV =>
      simp only [VoltageRequest.writes, dcdcSleepWrites, VoltageRequest.minUV,
        VoltageRequest.maxUV]
      rw [if_neg adjustable]
      simp

/-- A minimum is rounded down to the grid, so a voltage in the window is enough
unless the minimum is above the last one that is accepted. -/
private theorem Grid.selects_iff {buck : Fin 4} {base step top : Int}
    (grid : Grid buck base step top) (ascending : base ≤ top)
    {minUV maxUV : Int} (fits : base ≤ maxUV) (ordered : minUV ≤ maxUV) :
    0 ≤ dcdcSelectMinVoltage minUV maxUV buck ↔ minUV ≤ top := by
  have vsel := grid.vsel minUV
  unfold dcdcSelectMinVoltage
  by_cases below : minUV < base
  · rw [if_pos below] at vsel
    simp only [vsel, grid.lowest]
    rw [if_neg (by omega)]
    omega
  · by_cases within : minUV ≤ top
    · obtain ⟨selector, -, selected, voltage⟩ :=
        grid.selected (by omega) within
      have remainder := Int.emod_nonneg (minUV - base)
        (Int.ne_of_gt grid.positive)
      simp only [selected, voltage]
      rw [if_neg (by omega)]
      omega
    · rw [if_neg below, if_neg within] at vsel
      simp only [vsel]
      exact iff_of_false (by decide) within

private theorem Grid.listVoltage {buck : Fin 4} {base step top : Int}
    (grid : Grid buck base step top) {request : VoltageRequest}
    (small : nVoltages (.dcdc buck) ≤ 64)
    (selectable : Selectable (.dcdc buck) request) :
    base ≤ request.maxUV ∧ request.minUV ≤ request.maxUV ∧
      request.minUV ≤ base + (nVoltages (.dcdc buck) - 1) * step := by
  obtain ⟨selector, inside, -, lower, upper⟩ := selectable
  have positive := grid.positive
  have voltage := grid.list selector (by omega)
  have lift : Rk818.listVoltage (.dcdc buck) selector =
      base + selector * step := voltage
  rw [lift] at lower upper
  have nonneg : 0 ≤ (selector : Int) * step :=
    Int.mul_nonneg (by omega) (by omega)
  have most : (selector : Int) * step ≤
      (nVoltages (.dcdc buck) - 1) * step :=
    Int.mul_le_mul_of_nonneg_right (by omega) (by omega)
  omega

private theorem dcdc_reject_iff (chip : Chip) (buck : Fin 4)
    (request : VoltageRequest) :
    RejectedCleanly chip (.dcdc buck) request ↔
      RejectCondition (.dcdc buck) request := by
  rw [dcdc_rejectedCleanly]
  apply and_congr_right
  intro selectable
  by_cases fixed : buck = 2
  · subst fixed
    rw [dcdc_writes_fixed]
    simp
  · rw [dcdc_writes_iff fixed]
    by_cases last : buck = 3
    · subst last
      obtain ⟨fits, ordered, -⟩ :=
        grid_buck4.listVoltage (by decide) selectable
      rw [grid_buck4.selects_iff (by decide) fits ordered]
      simp
    · have core : buck = 0 ∨ buck = 1 := by omega
      have count : nVoltages (.dcdc buck) = 64 := if_pos core
      obtain ⟨fits, ordered, most⟩ :=
        (grid_core core).listVoltage (by omega) selectable
      rw [count] at most
      rw [(grid_core core).selects_iff (by decide) fits ordered]
      refine iff_of_true ?_ (fun same => absurd same last)
      omega

private theorem ldoSetVoltageIn_accepted {table : List Nat} {chip after : Chip}
    {ldo : Fin 10} {uV ret : Int}
    (inRange : ¬ldoOutOfRange ldo (uV.tdiv 1000))
    (answer : ldoSetVoltageIn table chip ldo uV = some (ret, after)) :
    ret = 0 := by
  unfold ldoSetVoltageIn at answer
  rw [if_neg inRange] at answer
  cases address : table[ldo.val]? with
  | none =>
      rw [address] at answer
      cases answer
  | some reg =>
      rw [address] at answer
      cases answer
      rfl

private theorem ldo_reject_iff (chip : Chip) {ldo : Fin 10}
    {request : VoltageRequest} {table : List Nat}
    (serve : request.serve chip (.ldo ldo) =
      ldoSetVoltageIn table chip ldo request.minUV)
    (writes : request.writes (.ldo ldo) =
      ldoWritesIn table ldo request.minUV) :
    RejectedCleanly chip (.ldo ldo) request ↔
      RejectCondition (.ldo ldo) request := by
  unfold RejectedCleanly RejectCondition
  rw [serve, writes]
  by_cases rejected : ldoOutOfRange ldo (request.minUV.tdiv 1000)
  · unfold ldoSetVoltageIn ldoWritesIn
    rw [if_pos rejected, if_pos rejected]
    refine iff_of_true ⟨fun _ => ⟨einval, rfl, by decide⟩, ?_⟩ (.inl rejected)
    intro write member
    cases member
  · constructor
    · rintro ⟨refused, -⟩
      refine .inr ?_
      by_contra missing
      obtain ⟨ret, answer, negative⟩ := refused missing
      have accepted := ldoSetVoltageIn_accepted rejected answer
      omega
    · rintro (outside | selectable)
      · exact absurd outside rejected
      · refine ⟨fun missing => absurd selectable missing, ?_⟩
        intro write member
        rw [ldoWritesIn, if_neg rejected, List.mem_singleton] at member
        subst member
        exact Int.natCast_nonneg _

/-- A request is rejected cleanly exactly under the condition above. -/
theorem rejectedCleanly_iff (chip : Chip) (regulator : Regulator)
    (request : VoltageRequest) :
    RejectedCleanly chip regulator request ↔
      RejectCondition regulator request := by
  cases regulator with
  | dcdc buck => exact dcdc_reject_iff chip buck request
  | ldo ldo =>
      cases request with
      | setVoltage minUV maxUV => exact ldo_reject_iff chip rfl rfl
      | setSuspendVoltage uV => exact ldo_reject_iff chip rfl rfl

/-- 2 V for DCDC1 is not refused, and `-EINVAL` is written. -/
theorem not_rejectedCleanly_dcdc1 :
    ¬RejectedCleanly (fun _ => 0) (.dcdc 0) (.setVoltage 2000000 2000000) := by
  rintro ⟨-, values⟩
  have value := values ⟨some 0x2f, buckVolMask, einval⟩ (.head _)
  exact absurd value (by decide)

end KernelDrivers.Rk818
