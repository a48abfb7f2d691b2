import KernelDrivers.Regulator.Rk818Voltage

/-!
# The frame of each RK818 operation

Which register bits belong to a regulator, and which operations change bits
that do not belong to theirs.
-/

namespace KernelDrivers.Rk818

open KernelDrivers.Library KernelDrivers.Regulator

/-- The operations of `rk818_dcdc_ops` that write. -/
inductive DcdcOperation where
  | setVoltage (minUV maxUV : Int)
  | setSuspendVoltage (uV : Int)
  | setMode (mode : Nat)
  | setSuspendMode (mode : Nat)
  | suspendEnable
  | suspendDisable
  | enable
  | disable

/-- The operations of `rk818_ldo_ops` that write. -/
inductive LdoOperation where
  | setVoltage (minUV maxUV : Int)
  | setSuspendVoltage (uV : Int)
  | suspendEnable
  | suspendDisable
  | enable
  | disable

/-- An operation on a regulator. -/
inductive Operation where
  | dcdc (buck : Fin 4) (operation : DcdcOperation)
  | ldo (ldo : Fin 10) (operation : LdoOperation)

def Operation.regulator : Operation → Regulator
  | .dcdc buck _ => .dcdc buck
  | .ldo channel _ => .ldo channel

/-- The registers after the operation, unless a table was left. -/
def Operation.run (chip : Chip) : Operation → Option Chip
  | .dcdc buck operation =>
      match operation with
      | .setVoltage minUV maxUV => (dcdcSetVoltage chip buck minUV maxUV).2
      | .setSuspendVoltage uV => (dcdcSetSleepVoltage chip buck uV).2
      | .setMode mode => (dcdcSetMode chip buck mode).2
      | .setSuspendMode mode => (dcdcSetSuspendMode chip buck mode).2
      | .suspendEnable => dcdcSuspendEnable chip buck
      | .suspendDisable => dcdcSuspendDisable chip buck
      | .enable => dcdcEnable chip buck
      | .disable => dcdcDisable chip buck
  | .ldo channel operation =>
      match operation with
      | .setVoltage minUV maxUV =>
          (ldoSetVoltage chip channel minUV maxUV).map Prod.snd
      | .setSuspendVoltage uV =>
          (ldoSetSleepVoltage chip channel uV).map Prod.snd
      | .suspendEnable => ldoSuspendEnable chip channel
      | .suspendDisable => ldoSuspendDisable chip channel
      | .enable => ldoEnable chip channel
      | .disable => ldoDisable chip channel

/-- The bits of a buck's voltage registers: its voltage and its mode field. -/
def buckField (index : Nat) : Prop :=
  index < 6 ∨ index = 7

instance (index : Nat) : Decidable (buckField index) :=
  inferInstanceAs (Decidable (_ ∨ _))

/-- The bits of the chip that belong to a regulator. -/
def Owns (regulator : Regulator) (reg index : Nat) : Prop :=
  match regulator with
  | .dcdc buck =>
      ((reg = buckSetVolBaseAddr buck ∨ reg = buckSetSlpVolBaseAddr buck) ∧
          buckField index) ∨
        ((reg = dcdcEnReg ∨ reg = sleepSetOffReg1) ∧ index = buck)
  | .ldo ldo =>
      ((ldoSetVolBaseAddr[ldo.val]? = some reg ∨
            ldoSetSlpVolBaseAddr[ldo.val]? = some reg) ∧
          (ldoMask ldo).getLsbD index = true) ∨
        (if ldo = 8 then
          (reg = dcdcEnReg ∨ reg = sleepSetOffReg1) ∧ index = 5
        else if ldo = 9 then
          (reg = dcdcEnReg ∨ reg = sleepSetOffReg1) ∧ index = 6
        else (reg = ldoEnReg ∨ reg = sleepSetOffReg2) ∧ index = ldo)

instance : ∀ regulator reg index, Decidable (Owns regulator reg index)
  | .dcdc _, _, _ => inferInstanceAs (Decidable (_ ∨ _))
  | .ldo _, _, _ => inferInstanceAs (Decidable (_ ∨ _))

/-- The operation stays inside its tables and changes no bit but those of its
regulator. -/
def Framed (chip : Chip) (operation : Operation) : Prop :=
  ∃ after, operation.run chip = some after ∧
    ∀ reg index, ¬Owns operation.regulator reg index →
      after.bit reg index = chip.bit reg index

/-- When an operation is framed: a rejected buck voltage sets bit 6 of its
register, the sleep mode of DCDC3 is written to a register of DCDC4, switching
LDO9 or LDO10 off sets the bit of DCDC1, and LDO10 has no voltage register. -/
def FrameCondition (chip : Chip) : Operation → Prop
  | .dcdc buck operation =>
      match operation with
      | .setVoltage minUV maxUV =>
          buck = 2 ∨ 0 ≤ dcdcSelectMinVoltage minUV maxUV buck ∨
            chip.bit (buckSetVolBaseAddr buck) 6 = true
      | .setSuspendVoltage uV =>
          buck = 2 ∨ 0 ≤ dcdcSelectMinVoltage uV uV buck ∨
            chip.bit (buckSetSlpVolBaseAddr buck) 6 = true
      | .setSuspendMode mode =>
          buck = 2 →
            (mode = modeFast → chip.bit 0x37 7 = true) ∧
              (mode = modeNormal → chip.bit 0x37 7 = false)
      | _ => True
  | .ldo channel operation =>
      match operation with
      | .setVoltage minUV _ => channel = 9 → ldoOutOfRange 9 (minUV.tdiv 1000)
      | .setSuspendVoltage uV => channel = 9 → ldoOutOfRange 9 (uV.tdiv 1000)
      | .disable => channel = 8 ∨ channel = 9 → chip.bit dcdcEnReg 0 = true
      | _ => True

section Write

variable {chip : Chip} {reg : Nat} {mask value : BitVec 8}
variable {Own : Nat → Nat → Prop}

/-- A write leaves the frame exactly by clearing or setting a foreign bit. -/
theorem setBits_framed_iff :
    (∀ other index, ¬Own other index →
        (chip.setBits reg mask value).bit other index =
          chip.bit other index) ↔
      ∀ index < 8, ¬Own reg index →
        (value.getLsbD index = true → chip.bit reg index = true) ∧
          (mask.getLsbD index = true → value.getLsbD index = false →
            chip.bit reg index = false) := by
  constructor
  · intro framed index _ foreign
    have kept := framed reg index foreign
    rw [RegisterFile.bit_setBits, if_pos rfl] at kept
    constructor
    · intro set
      simpa [set] using kept.symm
    · intro masked clear
      simpa [masked, clear] using kept.symm
  · intro kept other index foreign
    rw [RegisterFile.bit_setBits]
    by_cases same : other = reg
    · subst same
      rw [if_pos rfl]
      by_cases inside : index < 8
      · obtain ⟨sets, clears⟩ := kept index inside foreign
        cases set : value.getLsbD index with
        | true => simp [sets set]
        | false =>
            cases masked : mask.getLsbD index with
            | true => simp [clears masked set]
            | false => simp
      · have beyond : 8 ≤ index := by omega
        simp [RegisterFile.bit, BitVec.getLsbD_of_ge _ _ beyond]
    · rw [if_neg same]

theorem setBits_framed
    (confined : ∀ index < 8, (mask ||| value).getLsbD index = true →
      Own reg index) :
    ∀ other index, ¬Own other index →
      (chip.setBits reg mask value).bit other index =
        chip.bit other index := by
  apply setBits_framed_iff.mpr
  intro index inside foreign
  have neither : (mask ||| value).getLsbD index = false := by
    cases touched : (mask ||| value).getLsbD index with
    | false => rfl
    | true => exact absurd (confined index inside touched) foreign
  rw [BitVec.getLsbD_or, Bool.or_eq_false_iff] at neither
  simp [neither.1, neither.2]

end Write

private theorem framed_some {chip after : Chip} {operation : Operation}
    (run : operation.run chip = some after) :
    Framed chip operation ↔ ∀ reg index,
      ¬Owns operation.regulator reg index →
        after.bit reg index = chip.bit reg index := by
  constructor
  · rintro ⟨after', run', framed⟩
    rw [run] at run'
    cases run'
    exact framed
  · intro framed
    exact ⟨after, run, framed⟩

private theorem framed_same {chip : Chip} {operation : Operation}
    (run : operation.run chip = some chip) : Framed chip operation :=
  ⟨chip, run, fun _ _ _ => rfl⟩

/-- The selector fits its field, or it is the error code. -/
theorem dcdcSelectMinVoltage_cases (buck : Fin 4) (minUV maxUV : Int) :
    dcdcSelectMinVoltage minUV maxUV buck = einval ∨
      ∃ selector : Fin 64,
        dcdcSelectMinVoltage minUV maxUV buck = (selector.val : Int) := by
  have small : ∀ vsel, dcdcVsel minUV buck = some vsel → vsel < 64 := by
    intro vsel
    have core := Int.tdiv_eq_ediv_of_nonneg (a := minUV - 712500) (b := 12500)
    have last := Int.tdiv_eq_ediv_of_nonneg (a := minUV - 1800000)
      (b := 100000)
    unfold dcdcVsel
    split
    · split
      · rintro ⟨⟩
        decide
      · split
        · rintro ⟨⟩
          rw [core (by omega)]
          omega
        · rintro ⟨⟩
    · split
      · split
        · rintro ⟨⟩
          decide
        · split
          · rintro ⟨⟩
            rw [last (by omega)]
            omega
          · rintro ⟨⟩
      · rintro ⟨⟩
        decide
  unfold dcdcSelectMinVoltage
  cases selected : dcdcVsel minUV buck with
  | none => exact .inl rfl
  | some vsel =>
      simp only
      split
      · exact .inl rfl
      · exact .inr ⟨⟨vsel, small vsel selected⟩, rfl⟩

/-- Of the bits outside the two fields only bit 6 is ever set, and only by the
error code. -/
private theorem selector_bit (buck : Fin 4) (minUV maxUV : Int) :
    (BitVec.ofInt 8 (dcdcSelectMinVoltage minUV maxUV buck)).getLsbD 6 =
      decide (dcdcSelectMinVoltage minUV maxUV buck < 0) := by
  rcases dcdcSelectMinVoltage_cases buck minUV maxUV with
    error | ⟨selector, value⟩
  · rw [error]
    decide
  · have clear : ∀ selector : Fin 64,
        (BitVec.ofInt 8 (selector.val : Int)).getLsbD 6 = false := by
      decide
    have nonneg : ¬(selector.val : Int) < 0 := by omega
    rw [value, clear selector]
    simp [nonneg]

private theorem voltage_foreign (buck : Fin 4) (index : Fin 8) :
    (¬Owns (.dcdc buck) (buckSetVolBaseAddr buck) index → index = 6) ∧
      (¬Owns (.dcdc buck) (buckSetSlpVolBaseAddr buck) index → index = 6) ∧
      ¬Owns (.dcdc buck) (buckSetVolBaseAddr buck) 6 ∧
      ¬Owns (.dcdc buck) (buckSetSlpVolBaseAddr buck) 6 := by
  revert buck index
  decide

/-- A selector write is framed unless it sets bit 6 anew. -/
private theorem selector_framed_iff (chip : Chip) (buck : Fin 4)
    (minUV maxUV : Int) {reg : Nat}
    (foreign : ∀ index : Fin 8, ¬Owns (.dcdc buck) reg index → index = 6)
    (sixth : ¬Owns (.dcdc buck) reg 6) :
    (∀ other index, ¬Owns (.dcdc buck) other index →
        (chip.setBits reg buckVolMask
          (BitVec.ofInt 8 (dcdcSelectMinVoltage minUV maxUV buck))).bit other
            index = chip.bit other index) ↔
      0 ≤ dcdcSelectMinVoltage minUV maxUV buck ∨ chip.bit reg 6 = true := by
  have bit := selector_bit buck minUV maxUV
  rw [setBits_framed_iff]
  constructor
  · intro kept
    by_cases accepted : 0 ≤ dcdcSelectMinVoltage minUV maxUV buck
    · exact .inl accepted
    · right
      apply (kept 6 (by decide) sixth).1
      rw [bit]
      simpa using Int.not_le.mp accepted
  · intro condition index inside outside
    have only : index = 6 := by
      have same := foreign ⟨index, inside⟩ outside
      exact congrArg Fin.val same
    subst only
    constructor
    · intro set
      rw [bit, decide_eq_true_iff] at set
      rcases condition with accepted | present
      · omega
      · exact present
    · intro masked
      exact absurd masked (by decide)

private theorem setBits_twice (chip : Chip) (reg : Nat)
    (mask value : BitVec 8) :
    (chip.setBits reg mask value).setBits reg mask value =
      chip.setBits reg mask value := by
  funext other
  apply BitVec.eq_of_getLsbD_eq
  intro index _
  have twice : ((chip.setBits reg mask value).setBits reg mask value).bit other
      index = (chip.setBits reg mask value).bit other index := by
    by_cases same : other = reg
    · simp only [RegisterFile.bit_setBits, same, if_true]
      cases mask.getLsbD index <;> cases value.getLsbD index <;> simp
    · simp [RegisterFile.bit_setBits, same]
  exact twice

private theorem dcdcSetVoltage_snd (chip : Chip) {buck : Fin 4}
    (adjustable : buck ≠ 2) (minUV maxUV : Int) :
    (dcdcSetVoltage chip buck minUV maxUV).2 =
      chip.setBits (buckSetVolBaseAddr buck) buckVolMask
        (BitVec.ofInt 8 (dcdcSelectMinVoltage minUV maxUV buck)) := by
  rw [dcdcSetVoltage, if_neg adjustable]
  by_cases last : buck = 3
  · simp only [last, if_true, setBits_twice]
  · simp only [last, if_false]

private theorem dcdc_confined (buck : Fin 4) (index : Fin 8) :
    ((flag buck ||| flag buck).getLsbD index = true →
        Owns (.dcdc buck) dcdcEnReg index ∧
          Owns (.dcdc buck) sleepSetOffReg1 index) ∧
      ((0x80 ||| 0x80 : BitVec 8).getLsbD index = true →
        Owns (.dcdc buck) (buckSetVolBaseAddr buck) index ∧
          (buck ≠ 2 → Owns (.dcdc buck) (buckSetVolBaseAddr buck + 1) index)) := by
  revert buck index
  decide

private theorem confined {Own : Nat → Nat → Prop} {reg : Nat}
    {mask value : BitVec 8} (within : value = mask ∨ value = 0)
    (owned : ∀ index : Fin 8, (mask ||| mask).getLsbD index = true →
      Own reg index) :
    ∀ index < 8, (mask ||| value).getLsbD index = true → Own reg index := by
  intro index inside touched
  apply owned ⟨index, inside⟩
  rcases within with rfl | rfl
  · exact touched
  · simpa using touched

private theorem dcdcSetModeIn_framed (chip : Chip) (buck : Fin 4) (mode reg : Nat)
    (owned : ∀ index : Fin 8,
      (0x80 ||| 0x80 : BitVec 8).getLsbD index = true →
        Owns (.dcdc buck) reg index) :
    ∀ other index, ¬Owns (.dcdc buck) other index →
      (dcdcSetModeIn reg chip mode).2.bit other index =
        chip.bit other index := by
  unfold dcdcSetModeIn
  split
  · exact setBits_framed (confined (.inl rfl) owned)
  · split
    · exact setBits_framed (confined (.inr rfl) owned)
    · intro _ _ _
      rfl

private theorem buck4Config_foreign (index : Nat) :
    ¬Owns (.dcdc 2) 0x37 index := by
  rintro (⟨reg, -⟩ | ⟨reg, -⟩)
  · revert reg
    decide
  · revert reg
    decide

/-- The sleep mode of DCDC3 goes to the configuration of DCDC4. -/
private theorem suspendMode_framed_iff (chip : Chip) (mode : Nat) :
    Framed chip (.dcdc 2 (.setSuspendMode mode)) ↔
      FrameCondition chip (.dcdc 2 (.setSuspendMode mode)) := by
  by_cases fast : mode = modeFast
  · subst fast
    have run : Operation.run chip (.dcdc 2 (.setSuspendMode modeFast)) =
        some (chip.setBits 0x37 0x80 0x80) := rfl
    rw [framed_some run, setBits_framed_iff]
    constructor
    · intro kept _
      have seventh := (kept 7 (by decide) (buck4Config_foreign 7)).1 (by decide)
      exact ⟨fun _ => seventh, fun same => absurd same (by decide)⟩
    · intro condition index inside _
      have present := (condition rfl).1 rfl
      have single : ∀ index : Fin 8,
          (0x80 : BitVec 8).getLsbD index = true → index = 7 := by decide
      constructor
      · intro set
        have seventh := congrArg Fin.val (single ⟨index, inside⟩ set)
        simp only at seventh
        rw [seventh]
        exact present
      · intro masked clear
        exact absurd (masked.symm.trans clear) (by decide)
  · by_cases normal : mode = modeNormal
    · subst normal
      have run : Operation.run chip (.dcdc 2 (.setSuspendMode modeNormal)) =
          some (chip.setBits 0x37 0x80 0) := rfl
      rw [framed_some run, setBits_framed_iff]
      constructor
      · intro kept _
        have seventh := (kept 7 (by decide) (buck4Config_foreign 7)).2
          (by decide) (by decide)
        exact ⟨fun same => absurd same (by decide), fun _ => seventh⟩
      · intro condition index inside _
        have absent := (condition rfl).2 rfl
        have single : ∀ index : Fin 8,
            (0x80 : BitVec 8).getLsbD index = true → index = 7 := by decide
        constructor
        · intro set
          simp at set
        · intro masked _
          have seventh := congrArg Fin.val (single ⟨index, inside⟩ masked)
          simp only at seventh
          rw [seventh]
          exact absent
    · have run : Operation.run chip (.dcdc 2 (.setSuspendMode mode)) =
          some chip := by
        simp [Operation.run, dcdcSetSuspendMode, dcdcSetModeIn, fast, normal]
      exact iff_of_true (framed_same run)
        (fun _ => ⟨fun same => absurd same fast,
          fun same => absurd same normal⟩)

theorem dcdc_framed_iff (chip : Chip) (buck : Fin 4)
    (operation : DcdcOperation) :
    Framed chip (.dcdc buck operation) ↔
      FrameCondition chip (.dcdc buck operation) := by
  have owned := dcdc_confined buck
  cases operation with
  | setVoltage minUV maxUV =>
      by_cases fixed : buck = 2
      · subst fixed
        exact iff_of_true (framed_same rfl) (.inl rfl)
      · have voltage : Operation.run chip
            (.dcdc buck (.setVoltage minUV maxUV)) = some _ :=
          congrArg some (dcdcSetVoltage_snd chip fixed minUV maxUV)
        rw [framed_some voltage]
        simp only [Operation.regulator, FrameCondition, fixed, false_or]
        exact selector_framed_iff chip buck minUV maxUV
          (fun index => (voltage_foreign buck index).1)
          (voltage_foreign buck 0).2.2.1
  | setSuspendVoltage uV =>
      by_cases fixed : buck = 2
      · subst fixed
        exact iff_of_true (framed_same rfl) (.inl rfl)
      · have voltage : Operation.run chip
            (.dcdc buck (.setSuspendVoltage uV)) = some _ :=
          congrArg (some ∘ Prod.snd) (if_neg fixed)
        rw [framed_some voltage]
        simp only [Operation.regulator, FrameCondition, fixed, false_or]
        exact selector_framed_iff chip buck uV uV
          (fun index => (voltage_foreign buck index).2.1)
          (voltage_foreign buck 0).2.2.2
  | setMode mode =>
      refine iff_of_true ((framed_some rfl).mpr ?_) trivial
      exact dcdcSetModeIn_framed chip buck mode _
        fun index set => ((owned index).2 set).1
  | setSuspendMode mode =>
      by_cases fixed : buck = 2
      · subst fixed
        exact suspendMode_framed_iff chip mode
      · refine iff_of_true ((framed_some rfl).mpr ?_)
          (fun same => absurd same fixed)
        exact dcdcSetModeIn_framed chip buck mode _
          fun index set => ((owned index).2 set).2 fixed
  | suspendEnable =>
      refine iff_of_true ((framed_some rfl).mpr ?_) trivial
      exact setBits_framed (confined (.inr rfl)
        fun index set => ((owned index).1 set).2)
  | suspendDisable =>
      refine iff_of_true ((framed_some rfl).mpr ?_) trivial
      exact setBits_framed (confined (.inl rfl)
        fun index set => ((owned index).1 set).2)
  | enable =>
      refine iff_of_true ((framed_some rfl).mpr ?_) trivial
      exact setBits_framed (confined (.inl rfl)
        fun index set => ((owned index).1 set).1)
  | disable =>
      refine iff_of_true ((framed_some rfl).mpr ?_) trivial
      exact setBits_framed (confined (.inr rfl)
        fun index set => ((owned index).1 set).1)

private theorem ldo_confined (channel : Fin 10) (index : Fin 8) :
    ((flag channel ||| flag channel).getLsbD index = true →
        channel ≠ 8 → channel ≠ 9 →
          Owns (.ldo channel) ldoEnReg index ∧
            Owns (.ldo channel) sleepSetOffReg2 index) ∧
      ((flag 5 ||| flag 5 : BitVec 8).getLsbD index = true → channel = 8 →
        Owns (.ldo channel) dcdcEnReg index ∧
          Owns (.ldo channel) sleepSetOffReg1 index) ∧
      ((flag 6 ||| flag 6 : BitVec 8).getLsbD index = true → channel = 9 →
        Owns (.ldo channel) dcdcEnReg index ∧
          Owns (.ldo channel) sleepSetOffReg1 index) := by
  revert channel index
  decide

private theorem ldoMask_covers (channel : Fin 10) (val : Fin 18)
    (index : Fin 8) : val.val ≤ (ldoVolMap channel).2 →
      (ldoMask channel ||| BitVec.ofNat 8 val).getLsbD index = true →
        (ldoMask channel).getLsbD index = true := by
  revert channel val index
  decide +kernel

private theorem ldoSetVoltageIn_framed {table : List Nat} {chip after : Chip}
    {channel : Fin 10} {uV ret : Int}
    (own : ∀ reg, table[channel.val]? = some reg →
      ldoSetVolBaseAddr[channel.val]? = some reg ∨
        ldoSetSlpVolBaseAddr[channel.val]? = some reg)
    (set : ldoSetVoltageIn table chip channel uV = some (ret, after)) :
    ∀ other index, ¬Owns (.ldo channel) other index →
      after.bit other index = chip.bit other index := by
  unfold ldoSetVoltageIn at set
  dsimp only at set
  split at set
  · cases set
    intro _ _ _
    rfl
  · rename_i inRange
    split at set
    · cases set
    · rename_i reg address
      cases set
      obtain ⟨inside, -⟩ := firstAtLeast_spec (ldoVolMap_length channel)
        (ldoVolMap_ascending channel) (ldo_enough inRange)
      have found := Nat.lt_of_le_of_lt inside (ldoVolMap_small channel)
      apply setBits_framed
      intro index small touched
      exact .inl ⟨own reg address, ldoMask_covers channel ⟨_, found⟩
        ⟨index, small⟩ inside touched⟩

private theorem ldoSetVoltageIn_none {table : List Nat} (chip : Chip)
    {channel : Fin 10} {uV : Int}
    (tableEnd : table.length = 9) :
    ldoSetVoltageIn table chip channel uV = none ↔
      channel = 9 ∧ ¬ldoOutOfRange 9 (uV.tdiv 1000) := by
  by_cases last : channel = 9
  · subst last
    have beyond : table[(9 : Fin 10).val]? = none := by
      apply List.getElem?_eq_none
      exact Nat.le_of_eq tableEnd
    unfold ldoSetVoltageIn
    dsimp only
    rw [beyond]
    split <;> simp_all
  · have inside : channel.val < table.length := by
      have bound : channel.val ≠ 9 := fun same => last (Fin.ext same)
      omega
    unfold ldoSetVoltageIn
    dsimp only
    rw [List.getElem?_eq_getElem inside]
    split <;> simp [last]

private theorem ldo_voltage_framed_iff {table : List Nat} (chip : Chip)
    (channel : Fin 10) (uV : Int) {operation : LdoOperation}
    (run : Operation.run chip (.ldo channel operation) =
      (ldoSetVoltageIn table chip channel uV).map Prod.snd)
    (own : ∀ reg, table[channel.val]? = some reg →
      ldoSetVolBaseAddr[channel.val]? = some reg ∨
        ldoSetSlpVolBaseAddr[channel.val]? = some reg)
    (tableEnd : table.length = 9) :
    Framed chip (.ldo channel operation) ↔
      (channel = 9 → ldoOutOfRange 9 (uV.tdiv 1000)) := by
  cases outcome : ldoSetVoltageIn table chip channel uV with
  | none =>
      obtain ⟨last, inRange⟩ := (ldoSetVoltageIn_none chip tableEnd).mp outcome
      rw [outcome] at run
      constructor
      · rintro ⟨after, some, -⟩
        rw [run] at some
        cases some
      · intro condition
        exact absurd (condition last) inRange
  | some answer =>
      obtain ⟨ret, after⟩ := answer
      rw [outcome] at run
      refine iff_of_true ((framed_some run).mpr
        (ldoSetVoltageIn_framed own outcome)) ?_
      intro last
      by_contra inRange
      have undefined := (ldoSetVoltageIn_none chip tableEnd).mpr
        ⟨last, inRange⟩
      rw [outcome] at undefined
      cases undefined

/-- Disabling LDO9 or LDO10 sets the bit of DCDC1 instead of none. -/
private theorem strayDisable_framed_iff (chip : Chip) (channel : Fin 10)
    (own : Fin 8)
    (only : ∀ index : Fin 8,
      (Owns (.ldo channel) dcdcEnReg index ↔ index = own) ∧ own ≠ 0) :
    (∀ other index, ¬Owns (.ldo channel) other index →
        (chip.setBits dcdcEnReg (flag own) (flag 0)).bit other index =
          chip.bit other index) ↔
      chip.bit dcdcEnReg 0 = true := by
  rw [setBits_framed_iff]
  constructor
  · intro kept
    have foreign : ¬Owns (.ldo channel) dcdcEnReg 0 := by
      intro owned
      exact (only 0).2 ((only 0).1.mp owned).symm
    exact (kept 0 (by decide) foreign).1 (by decide)
  · intro present index inside foreign
    constructor
    · intro set
      rw [BitVec.getLsbD_twoPow] at set
      have zero : index = 0 := by
        simp only [Bool.and_eq_true, decide_eq_true_eq] at set
        exact set.2.symm
      rw [zero]
      exact present
    · intro masked _
      rw [BitVec.getLsbD_twoPow] at masked
      have same : own.val = index := by
        simp only [Bool.and_eq_true, decide_eq_true_eq] at masked
        exact masked.2
      have owned := (only ⟨index, inside⟩).1.mpr (Fin.ext same.symm)
      exact absurd owned foreign

/-- The switches of an LDO: those of LDO9 and LDO10 are bits of a register that
they share with the bucks. -/
private theorem ldoSwitch_framed (chip : Chip) {channel : Fin 10}
    {boostReg ownReg : Nat} (value : BitVec 8 → BitVec 8)
    (within : ∀ mask, value mask = mask ∨ value mask = 0)
    (boosts : ∀ index : Fin 8,
      (flag 5 ||| flag 5 : BitVec 8).getLsbD index = true → channel = 8 →
        Owns (.ldo channel) boostReg index)
    (lasts : ∀ index : Fin 8,
      (flag 6 ||| flag 6 : BitVec 8).getLsbD index = true → channel = 9 →
        Owns (.ldo channel) boostReg index)
    (others : ∀ index : Fin 8,
      (flag channel ||| flag channel).getLsbD index = true → channel ≠ 8 →
        channel ≠ 9 → Owns (.ldo channel) ownReg index) :
    ∀ other index, ¬Owns (.ldo channel) other index →
      (if channel = 8 then chip.setBits boostReg (flag 5) (value (flag 5))
        else if channel = 9 then
          chip.setBits boostReg (flag 6) (value (flag 6))
        else chip.setBits ownReg (flag channel) (value (flag channel))).bit
          other index = chip.bit other index := by
  split
  · rename_i boost
    exact setBits_framed (confined (within _)
      fun index set => boosts index set boost)
  · split
    · rename_i last
      exact setBits_framed (confined (within _)
        fun index set => lasts index set last)
    · rename_i boost last
      exact setBits_framed (confined (within _)
        fun index set => others index set boost last)

theorem ldo_framed_iff (chip : Chip) (channel : Fin 10)
    (operation : LdoOperation) :
    Framed chip (.ldo channel operation) ↔
      FrameCondition chip (.ldo channel operation) := by
  have owned := ldo_confined channel
  cases operation with
  | setVoltage minUV maxUV =>
      exact ldo_voltage_framed_iff chip channel minUV rfl
        (fun _ address => .inl address) rfl
  | setSuspendVoltage uV =>
      exact ldo_voltage_framed_iff chip channel uV rfl
        (fun _ address => .inr address) rfl
  | suspendEnable =>
      refine iff_of_true ((framed_some rfl).mpr ?_) trivial
      exact ldoSwitch_framed chip (fun _ => 0) (fun _ => .inr rfl)
        (fun index set boost => ((owned index).2.1 set boost).2)
        (fun index set last => ((owned index).2.2 set last).2)
        fun index set boost last => ((owned index).1 set boost last).2
  | suspendDisable =>
      refine iff_of_true ((framed_some rfl).mpr ?_) trivial
      exact ldoSwitch_framed chip id (fun _ => .inl rfl)
        (fun index set boost => ((owned index).2.1 set boost).2)
        (fun index set last => ((owned index).2.2 set last).2)
        fun index set boost last => ((owned index).1 set boost last).2
  | enable =>
      refine iff_of_true ((framed_some rfl).mpr ?_) trivial
      exact ldoSwitch_framed chip id (fun _ => .inl rfl)
        (fun index set boost => ((owned index).2.1 set boost).1)
        (fun index set last => ((owned index).2.2 set last).1)
        fun index set boost last => ((owned index).1 set boost last).1
  | disable =>
      rw [framed_some rfl]
      simp only [Operation.regulator, FrameCondition]
      by_cases boost : channel = 8
      · subst boost
        exact (strayDisable_framed_iff chip 8 5 (by decide)).trans
          ⟨fun set _ => set, fun condition => condition (.inl rfl)⟩
      · by_cases last : channel = 9
        · subst last
          exact (strayDisable_framed_iff chip 9 6 (by decide)).trans
            ⟨fun set _ => set, fun condition => condition (.inr rfl)⟩
        · refine iff_of_true ?_
            (fun same => absurd same (by simp [boost, last]))
          rw [ldoDisable, if_neg boost, if_neg last]
          exact setBits_framed (confined (.inr rfl)
            fun index set => ((owned index).1 set boost last).1)

/-- An operation is framed exactly under the condition above. -/
theorem framed_iff (chip : Chip) (operation : Operation) :
    Framed chip operation ↔ FrameCondition chip operation := by
  cases operation with
  | dcdc buck operation => exact dcdc_framed_iff chip buck operation
  | ldo channel operation => exact ldo_framed_iff chip channel operation

/-- Rejecting 2 V for DCDC1 changes bit 6 of its register. -/
theorem not_framed_dcdc1_rejected :
    ¬Framed (fun _ => 0) (.dcdc 0 (.setVoltage 2000000 2000000)) := by
  rintro ⟨after, run, kept⟩
  cases run
  have sixth := kept (buckSetVolBaseAddr 0) 6 (by decide)
  revert sixth
  decide

end KernelDrivers.Rk818
