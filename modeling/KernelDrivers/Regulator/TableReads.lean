import KernelDrivers.Regulator.Rk818Frame
import KernelDrivers.Regulator.Act8846Voltage

/-!
# Table reads of the regulator operations

Every read of an address table or of a voltage map, with its index, in the
order of the source.  Where an operation of the models is undefined, one of its
reads lies outside its table.
-/

namespace KernelDrivers.Regulator

/-- `table[index]`, for a table of `length` entries. -/
structure TableRead where
  length : Nat
  index : Nat
  deriving DecidableEq

def readOf {α : Type} (table : List α) (index : Nat) : TableRead :=
  ⟨table.length, index⟩

def TableRead.Inside (read : TableRead) : Prop :=
  read.index < read.length

instance (read : TableRead) : Decidable read.Inside :=
  inferInstanceAs (Decidable (_ < _))

def InsideTables (reads : List TableRead) : Prop :=
  ∀ read ∈ reads, read.Inside

/-- The reads of the loop of `firstAtLeast`: the entries before the one it
stops at, and that one unless the loop ran out. -/
def searchReads (volMap : List Int) (num : Nat) (minVol : Int) :
    List TableRead :=
  (List.range (min (firstAtLeast volMap num minVol + 1) (num + 1))).map
    (readOf volMap)

/-- The reads of the range check.  The second is made only if the first entry
is not too large. -/
def rangeReads (volMap : List Int) (num : Nat) (minVol : Int) :
    List TableRead :=
  if minVol < volMap.headD 0 then [readOf volMap 0]
  else [readOf volMap 0, readOf volMap num]

variable {α : Type} {reads others : List TableRead} {read : TableRead}
variable {table : List α} {index num : Nat} {volMap : List Int}

@[simp] theorem inside_readOf :
    (readOf table index).Inside ↔ index < table.length :=
  Iff.rfl

@[simp] theorem insideTables_nil : InsideTables [] := by
  intro read member
  cases member

@[simp] theorem insideTables_cons :
    InsideTables (read :: reads) ↔ read.Inside ∧ InsideTables reads :=
  List.forall_mem_cons

@[simp] theorem insideTables_append :
    InsideTables (reads ++ others) ↔
      InsideTables reads ∧ InsideTables others :=
  List.forall_mem_append

theorem insideTables_search (length : volMap.length = num + 1) (minVol : Int) :
    InsideTables (searchReads volMap num minVol) := by
  intro read member
  obtain ⟨index, before, rfl⟩ := List.mem_map.mp member
  have bound := List.mem_range.mp before
  apply inside_readOf.mpr
  omega

theorem insideTables_range (length : volMap.length = num + 1) (minVol : Int) :
    InsideTables (rangeReads volMap num minVol) := by
  unfold rangeReads
  split
  · simp [length]
  · simp [length]

end KernelDrivers.Regulator

namespace KernelDrivers.Rk818

open KernelDrivers.Library KernelDrivers.Regulator

/-- The operations of `rk818_dcdc_ops`. -/
inductive DcdcCall where
  | getVoltage
  | listVoltage (selector : Nat)
  | isEnabled
  | getMode
  | setVoltageTimeSel (oldSelector newSelector : Nat)
  | write (operation : DcdcOperation)

/-- The operations of `rk818_ldo_ops`. -/
inductive LdoCall where
  | getVoltage
  | listVoltage (index : Nat)
  | isEnabled
  | write (operation : LdoOperation)

inductive Call where
  | dcdc (buck : Fin 4) (call : DcdcCall)
  | ldo (ldo : Fin 10) (call : LdoCall)

/-- `rk818_BUCK_SET_VOL_REG(buck)`. -/
def buckRead (buck : Fin 4) : TableRead :=
  readOf (List.ofFn buckSetVolBaseAddr) buck

/-- `rk818_BUCK_SET_SLP_VOL_REG(buck)`. -/
def buckSlpRead (buck : Fin 4) : TableRead :=
  readOf (List.ofFn buckSetSlpVolBaseAddr) buck

/-- An unknown mode is rejected before the register is looked up. -/
def dcdcModeReads (buck : Fin 4) (mode : Nat) : List TableRead :=
  if mode = modeFast ∨ mode = modeNormal then [buckRead buck] else []

def dcdcReads (buck : Fin 4) : DcdcCall → List TableRead
  | .getVoltage => [buckRead buck]
  | .getMode => [buckRead buck]
  | .write (.setVoltage _ _) =>
      if buck = 2 then []
      else if buck = 3 then [buckRead buck, buckRead buck]
      else [buckRead buck]
  | .write (.setSuspendVoltage _) =>
      if buck = 2 then [] else [buckSlpRead buck]
  | .write (.setMode mode) => dcdcModeReads buck mode
  | .write (.setSuspendMode mode) => dcdcModeReads buck mode
  | .write .suspendEnable | .write .suspendDisable => []
  | .write .enable | .write .disable => []
  | .listVoltage _ | .isEnabled | .setVoltageTimeSel _ _ => []

/-- The selector that `get_voltage` takes from the voltage register. -/
def ldoSelector (chip : Chip) (ldo : Fin 10) : Nat :=
  if ldo = 9 then (chip (buckSetVolBaseAddr 3) &&& buckVolMask).toNat
  else (chip (ldoSetVolBaseAddr.getD ldo 0) &&& ldoMask ldo).toNat

/-- The map that `get_voltage` reads. -/
def ldoReadMap (ldo : Fin 10) : List Int :=
  if ldo = 9 then buck4VoltageMap else (ldoVolMap ldo).1

def ldoGetReads (chip : Chip) (ldo : Fin 10) : List TableRead :=
  if ldo = 9 then
    [buckRead 3, readOf (ldoReadMap ldo) (ldoSelector chip ldo)]
  else
    [readOf ldoSetVolBaseAddr ldo,
      readOf (ldoReadMap ldo) (ldoSelector chip ldo)]

/-- The common reads of the two voltage setters. -/
def ldoSetReadsIn (table : List Nat) (ldo : Fin 10) (uV : Int) :
    List TableRead :=
  let minVol := uV.tdiv 1000
  let volMap := (ldoVolMap ldo).1
  let num := (ldoVolMap ldo).2
  rangeReads volMap num minVol ++
    if ldoOutOfRange ldo minVol then []
    else searchReads volMap num minVol ++ [readOf table ldo]

def ldoListReads (ldo : Fin 10) (index : Nat) : List TableRead :=
  if index ≥ (ldoVolMap ldo).1.length then []
  else [readOf (ldoVolMap ldo).1 index]

def ldoReads (chip : Chip) (ldo : Fin 10) : LdoCall → List TableRead
  | .getVoltage => ldoGetReads chip ldo
  | .listVoltage index => ldoListReads ldo index
  | .write (.setVoltage minUV _) => ldoSetReadsIn ldoSetVolBaseAddr ldo minUV
  | .write (.setSuspendVoltage uV) =>
      ldoSetReadsIn ldoSetSlpVolBaseAddr ldo uV
  | .write .suspendEnable | .write .suspendDisable => []
  | .write .enable | .write .disable | .isEnabled => []

def Call.reads (chip : Chip) : Call → List TableRead
  | .dcdc buck call => dcdcReads buck call
  | .ldo channel call => ldoReads chip channel call

/-- When a call stays inside the tables: the selector of an LDO has an entry
in its map, and no voltage is set on LDO10. -/
def Call.InsideCondition (chip : Chip) : Call → Prop
  | .dcdc _ _ => True
  | .ldo channel call =>
      match call with
      | .getVoltage => ldoSelector chip channel < (ldoReadMap channel).length
      | .write (.setVoltage minUV _) =>
          channel = 9 → ldoOutOfRange 9 (minUV.tdiv 1000)
      | .write (.setSuspendVoltage uV) =>
          channel = 9 → ldoOutOfRange 9 (uV.tdiv 1000)
      | _ => True

theorem buckRead_inside (buck : Fin 4) : (buckRead buck).Inside := by
  simp [buckRead]

theorem buckSlpRead_inside (buck : Fin 4) : (buckSlpRead buck).Inside := by
  simp [buckSlpRead]

private theorem dcdcModeReads_inside (buck : Fin 4) (mode : Nat) :
    InsideTables (dcdcModeReads buck mode) := by
  unfold dcdcModeReads
  split
  · simp [buckRead_inside]
  · simp

theorem dcdcReads_inside (buck : Fin 4) (call : DcdcCall) :
    InsideTables (dcdcReads buck call) := by
  cases call with
  | write operation =>
      cases operation with
      | setVoltage minUV maxUV =>
          simp only [dcdcReads]
          split
          · simp
          · split <;> simp [buckRead_inside]
      | setSuspendVoltage uV =>
          simp only [dcdcReads]
          split <;> simp [buckSlpRead_inside]
      | setMode mode => exact dcdcModeReads_inside buck mode
      | setSuspendMode mode => exact dcdcModeReads_inside buck mode
      | _ => exact insideTables_nil
  | getVoltage => simp [dcdcReads, buckRead_inside]
  | getMode => simp [dcdcReads, buckRead_inside]
  | _ => exact insideTables_nil

theorem ldo_address_iff (table : List Nat) (length : table.length = 9)
    (ldo : Fin 10) : (readOf table ldo).Inside ↔ ldo ≠ 9 := by
  rw [inside_readOf, length]
  constructor
  · rintro below rfl
    exact absurd below (by decide)
  · intro known
    have different : ldo.val ≠ 9 := fun same => known (Fin.ext same)
    omega

theorem ldoGetReads_inside_iff (chip : Chip) (ldo : Fin 10) :
    InsideTables (ldoGetReads chip ldo) ↔
      ldoSelector chip ldo < (ldoReadMap ldo).length := by
  unfold ldoGetReads
  by_cases last : ldo = 9
  · rw [if_pos last]
    simp [buckRead_inside]
  · rw [if_neg last]
    have address := (ldo_address_iff ldoSetVolBaseAddr rfl ldo).mpr
      last
    simp [inside_readOf.mp address]

theorem ldoSetReadsIn_inside_iff {table : List Nat}
    (length : table.length = 9) (ldo : Fin 10) (uV : Int) :
    InsideTables (ldoSetReadsIn table ldo uV) ↔
      (ldo = 9 → ldoOutOfRange 9 (uV.tdiv 1000)) := by
  have whole := ldoVolMap_length ldo
  simp only [ldoSetReadsIn, insideTables_append]
  by_cases rejected : ldoOutOfRange ldo (uV.tdiv 1000)
  · rw [if_pos rejected]
    constructor
    · rintro - rfl
      exact rejected
    · intro _
      exact ⟨insideTables_range whole _, insideTables_nil⟩
  · rw [if_neg rejected, insideTables_append, insideTables_cons,
      ldo_address_iff table length]
    constructor
    · rintro ⟨-, -, known, -⟩ last
      exact absurd last known
    · intro condition
      have known : ldo ≠ 9 := by
        rintro rfl
        exact rejected (condition rfl)
      exact ⟨insideTables_range whole _, insideTables_search whole _, known,
        insideTables_nil⟩

theorem ldoListReads_inside (ldo : Fin 10) (index : Nat) :
    InsideTables (ldoListReads ldo index) := by
  unfold ldoListReads
  split
  · exact insideTables_nil
  · rename_i below
    simpa using below

theorem Call.reads_inside_iff (chip : Chip) (call : Call) :
    InsideTables (call.reads chip) ↔ call.InsideCondition chip := by
  cases call with
  | dcdc buck call =>
      exact iff_of_true (dcdcReads_inside buck call) trivial
  | ldo channel call =>
      cases call with
      | getVoltage => exact ldoGetReads_inside_iff chip channel
      | listVoltage index =>
          exact iff_of_true (ldoListReads_inside channel index) trivial
      | isEnabled => exact iff_of_true insideTables_nil trivial
      | write operation =>
          cases operation with
          | setVoltage minUV maxUV =>
              exact ldoSetReadsIn_inside_iff rfl channel minUV
          | setSuspendVoltage uV =>
              exact ldoSetReadsIn_inside_iff rfl channel uV
          | _ => exact iff_of_true insideTables_nil trivial

private theorem microvolts_none_iff (volMap : List Int) (reg : Nat) :
    microvolts volMap reg = none ↔ ¬(readOf volMap reg).Inside := by
  simp [microvolts]

theorem ldoGetVoltage_none_iff (chip : Chip) (ldo : Fin 10) :
    ldoGetVoltage chip ldo = none ↔ ¬InsideTables (ldoGetReads chip ldo) := by
  rw [ldoGetReads_inside_iff]
  by_cases last : ldo = 9
  · subst last
    exact microvolts_none_iff _ _
  · have inside := inside_readOf.mp
      ((ldo_address_iff ldoSetVolBaseAddr rfl ldo).mpr last)
    have found := List.getElem?_eq_getElem inside
    have same : ldoGetVoltage chip ldo =
        microvolts (ldoReadMap ldo) (ldoSelector chip ldo) := by
      simp [ldoGetVoltage, ldoReadMap, ldoSelector, last, found]
    rw [same]
    exact microvolts_none_iff _ _

theorem ldoSetVoltageIn_none_iff {table : List Nat}
    (length : table.length = 9) (chip : Chip) (ldo : Fin 10) (uV : Int) :
    ldoSetVoltageIn table chip ldo uV = none ↔
      ¬InsideTables (ldoSetReadsIn table ldo uV) := by
  rw [ldoSetReadsIn_inside_iff length]
  by_cases rejected : ldoOutOfRange ldo (uV.tdiv 1000)
  · have answer : ldoSetVoltageIn table chip ldo uV = some (einval, chip) := by
      rw [ldoSetVoltageIn, if_pos rejected]
    rw [answer]
    constructor
    · intro undefined
      cases undefined
    · intro outside
      exfalso
      apply outside
      rintro rfl
      exact rejected
  · by_cases last : ldo = 9
    · subst last
      have beyond : table[(9 : Fin 10).val]? = none := by
        apply List.getElem?_eq_none
        exact Nat.le_of_eq length
      rw [ldoSetVoltageIn, if_neg rejected, beyond]
      simpa using rejected
    · have inside := (ldo_address_iff table length ldo).mpr last
      have found := List.getElem?_eq_getElem (inside_readOf.mp inside)
      rw [ldoSetVoltageIn, if_neg rejected, found]
      simp [last]

theorem run_none_iff (chip : Chip) (buck : Fin 4) (ldo : Fin 10)
    (dcdcOperation : DcdcOperation) (ldoOperation : LdoOperation) :
    (Operation.run chip (.dcdc buck dcdcOperation) = none ↔
        ¬InsideTables (Call.reads chip (.dcdc buck (.write dcdcOperation)))) ∧
      (Operation.run chip (.ldo ldo ldoOperation) = none ↔
        ¬InsideTables (Call.reads chip (.ldo ldo (.write ldoOperation)))) := by
  constructor
  · have inside := dcdcReads_inside buck (.write dcdcOperation)
    cases dcdcOperation <;>
      exact iff_of_false (Option.some_ne_none _) (not_not_intro inside)
  · cases ldoOperation with
    | setVoltage minUV maxUV =>
        exact Option.map_eq_none_iff.trans
          (ldoSetVoltageIn_none_iff rfl chip ldo minUV)
    | setSuspendVoltage uV =>
        exact Option.map_eq_none_iff.trans
          (ldoSetVoltageIn_none_iff rfl chip ldo uV)
    | _ =>
        exact iff_of_false (Option.some_ne_none _)
          (not_not_intro insideTables_nil)

end KernelDrivers.Rk818

namespace KernelDrivers.Act8846

open KernelDrivers.Library KernelDrivers.Regulator

/-- The operations that both operation tables of the chip have. -/
inductive RailCall where
  | getVoltage
  | listVoltage (index : Nat)
  | setVoltage (minUV maxUV : Int)
  | isEnabled
  | enable
  | disable
  | getMode
  | setMode (mode : Nat)

/-- The operations of `act8846_dcdc_ops` and of `act8846_ldo_ops`. -/
inductive Operation where
  | dcdc (buck : Fin 4) (call : RailCall)
  | dcdcSetSleepVoltage (buck : Fin 4) (uV : Int)
  | dcdcSetVoltageTimeSel (buck : Fin 4) (oldSelector newSelector : Nat)
  | ldo (ldo : Fin 9) (call : RailCall)

def listReads (volMap : List Int) (index : Nat) : List TableRead :=
  if index ≥ volMap.length then [] else [readOf volMap index]

/-- The reads of the range check, of the loop and of the comparison with the
maximum; then those of what follows. -/
def selectReads (volMap : List Int) (minVol : Int)
    (following : List TableRead) : List TableRead :=
  rangeReads volMap volMaxIdx minVol ++
    if outOfRange volMap minVol then []
    else
      searchReads volMap volMaxIdx minVol ++
        readOf volMap (firstAtLeast volMap volMaxIdx minVol) :: following

/-- The common reads of the two voltage setters of a buck.  A voltage above
the maximum is read again for the warning. -/
def dcdcSetReads (buck : Fin 4) (minUV maxUV : Int) : List TableRead :=
  let minVol := minUV.tdiv 1000
  let val := firstAtLeast buckVoltageMap volMaxIdx minVol
  selectReads buckVoltageMap minVol
    ((if buckVoltageMap.getD val 0 > maxUV.tdiv 1000 then
        [readOf buckVoltageMap val] else []) ++
      [readOf buckSetVolBaseAddr buck])

def ldoSetReads (ldo : Fin 9) (minUV maxUV : Int) : List TableRead :=
  let minVol := minUV.tdiv 1000
  let val := firstAtLeast ldoVoltageMap volMaxIdx minVol
  selectReads ldoVoltageMap minVol
    (if ldoVoltageMap.getD val 0 > maxUV.tdiv 1000 then []
      else [readOf ldoSetVolBaseAddr ldo])

/-- The one read of the operations on the control register. -/
def contrReads (table : List Nat) (index : Nat) : RailCall → List TableRead
  | .isEnabled | .enable | .disable | .getMode => [readOf table index]
  | .setMode mode =>
      if mode = modeStandby ∨ mode = modeNormal then [readOf table index]
      else []
  | .getVoltage | .listVoltage _ | .setVoltage _ _ => []

def dcdcReads (chip : Chip) (buck : Fin 4) (call : RailCall) :
    List TableRead :=
  match call with
  | .getVoltage =>
      [readOf buckSetVolBaseAddr buck,
        readOf buckVoltageMap
          (chip (buckSetVolBaseAddr.getD buck 0) &&&
            BitVec.ofNat 8 buckVolMask).toNat]
  | .listVoltage index => listReads buckVoltageMap index
  | .setVoltage minUV maxUV => dcdcSetReads buck minUV maxUV
  | _ => contrReads buckContrBaseAddr buck call

/-- The selector of `get_voltage` is what the stack held. -/
def ldoReads (stack : BitVec 32) (ldo : Fin 9) (call : RailCall) :
    List TableRead :=
  match call with
  | .getVoltage =>
      [readOf ldoSetVolBaseAddr ldo,
        readOf ldoVoltageMap (stack &&& BitVec.ofNat 32 ldoVolMask).toNat]
  | .listVoltage index => listReads ldoVoltageMap index
  | .setVoltage minUV maxUV => ldoSetReads ldo minUV maxUV
  | _ => contrReads ldoContrBaseAddr ldo call

def Operation.reads (chip : Chip) (stack : BitVec 32) :
    Operation → List TableRead
  | .dcdc buck call => dcdcReads chip buck call
  | .dcdcSetSleepVoltage buck uV => dcdcSetReads buck uV uV
  | .dcdcSetVoltageTimeSel _ oldSelector newSelector =>
      listReads buckVoltageMap oldSelector ++
        if oldSelector ≥ buckVoltageMap.length then []
        else listReads buckVoltageMap newSelector
  | .ldo channel call => ldoReads stack channel call

/-- What LDO9, which has no addresses, can be asked without leaving a table:
a voltage by its index, or something that is rejected. -/
def Harmless : RailCall → Prop
  | .listVoltage _ => True
  | .setVoltage minUV maxUV =>
      outOfRange ldoVoltageMap (minUV.tdiv 1000) ∨
        NoneFits ldoVoltageMap (minUV.tdiv 1000) (maxUV.tdiv 1000)
  | .setMode mode => mode ≠ modeStandby ∧ mode ≠ modeNormal
  | _ => False

def Operation.InsideCondition : Operation → Prop
  | .ldo channel call => channel = 8 → Harmless call
  | _ => True

theorem listReads_inside (volMap : List Int) (index : Nat) :
    InsideTables (listReads volMap index) := by
  unfold listReads
  split
  · exact insideTables_nil
  · rename_i below
    simpa using below

private theorem selected_inside {minVol : Int}
    (inRange : ¬outOfRange buckVoltageMap minVol) :
    firstAtLeast buckVoltageMap volMaxIdx minVol < buckVoltageMap.length := by
  have atMost := (firstAtLeast_spec buckVoltageMap_length
    buckVoltageMap_ascending (enough inRange)).1
  rw [buckVoltageMap_length]
  exact Nat.lt_succ_of_le atMost

theorem selectReads_inside_iff (minVol : Int) (following : List TableRead) :
    InsideTables (selectReads buckVoltageMap minVol following) ↔
      outOfRange buckVoltageMap minVol ∨ InsideTables following := by
  have range := insideTables_range buckVoltageMap_length minVol
  have search := insideTables_search buckVoltageMap_length minVol
  unfold selectReads
  rw [insideTables_append]
  by_cases rejected : outOfRange buckVoltageMap minVol
  · rw [if_pos rejected]
    exact iff_of_true ⟨range, insideTables_nil⟩ (.inl rejected)
  · rw [if_neg rejected, insideTables_append, insideTables_cons]
    have selected := selected_inside rejected
    constructor
    · rintro ⟨-, -, -, inside⟩
      exact .inr inside
    · rintro (outside | inside)
      · exact absurd outside rejected
      · exact ⟨range, search, inside_readOf.mpr selected, inside⟩

theorem dcdcSetReads_inside (buck : Fin 4) (minUV maxUV : Int) :
    InsideTables (dcdcSetReads buck minUV maxUV) := by
  unfold dcdcSetReads
  apply (selectReads_inside_iff _ _).mpr
  by_cases rejected : outOfRange buckVoltageMap (minUV.tdiv 1000)
  · exact .inl rejected
  · right
    have address : (readOf buckSetVolBaseAddr buck).Inside := buck.isLt
    have selected := inside_readOf.mpr (selected_inside rejected)
    split
    · simp [address, inside_readOf.mp selected]
    · simp [address]

theorem ldo_address_iff (table : List Nat) (length : table.length = 8)
    (ldo : Fin 9) : (readOf table ldo).Inside ↔ ldo ≠ 8 := by
  rw [inside_readOf, length]
  constructor
  · rintro below rfl
    exact absurd below (by decide)
  · intro known
    have different : ldo.val ≠ 8 := fun same => known (Fin.ext same)
    omega

private theorem noneFits_iff {minVol : Int} (maxVol : Int)
    (inRange : ¬outOfRange ldoVoltageMap minVol) :
    ldoVoltageMap.getD (firstAtLeast ldoVoltageMap volMaxIdx minVol) 0 >
      maxVol ↔ NoneFits ldoVoltageMap minVol maxVol := by
  obtain ⟨-, vol, member, read, large, least⟩ :=
    firstAtLeast_spec ldoVoltageMap_length ldoVoltageMap_ascending
      (enough inRange)
  rw [List.getD_eq_getElem?_getD, read, Option.getD_some]
  constructor
  · intro above other inTable fits
    have closest := least other inTable fits
    omega
  · intro none
    exact none vol member large

theorem ldoSetReads_inside_iff (ldo : Fin 9) (minUV maxUV : Int) :
    InsideTables (ldoSetReads ldo minUV maxUV) ↔
      (ldo = 8 → Harmless (.setVoltage minUV maxUV)) := by
  have address := ldo_address_iff ldoSetVolBaseAddr rfl ldo
  unfold ldoSetReads
  apply (selectReads_inside_iff _ _).trans
  by_cases rejected : outOfRange ldoVoltageMap (minUV.tdiv 1000)
  · exact iff_of_true (.inl rejected) fun _ => .inl rejected
  · have none := noneFits_iff (maxUV.tdiv 1000) rejected
    by_cases above : ldoVoltageMap.getD (firstAtLeast ldoVoltageMap volMaxIdx
        (minUV.tdiv 1000)) 0 > maxUV.tdiv 1000
    · rw [if_pos above]
      exact iff_of_true (.inr insideTables_nil)
        fun _ => .inr (none.mp above)
    · rw [if_neg above, insideTables_cons, address]
      constructor
      · rintro (outside | ⟨known, -⟩) last
        · exact absurd outside rejected
        · exact absurd last known
      · intro harmless
        refine .inr ⟨?_, insideTables_nil⟩
        intro last
        rcases harmless last with outside | misfit
        · exact rejected outside
        · exact above (none.mpr misfit)

private theorem contrReads_inside {table : List Nat} {index : Nat}
    (inside : index < table.length) (call : RailCall) :
    InsideTables (contrReads table index call) := by
  cases call with
  | setMode mode =>
      simp only [contrReads]
      split <;> simp [inside]
  | _ => simp [contrReads, inside]

private theorem dcdcReads_inside (chip : Chip) (buck : Fin 4)
    (call : RailCall) : InsideTables (dcdcReads chip buck call) := by
  have address : (readOf buckSetVolBaseAddr buck).Inside := buck.isLt
  have control : buck.val < buckContrBaseAddr.length := buck.isLt
  cases call with
  | getVoltage =>
      have field : (chip (buckSetVolBaseAddr.getD buck 0) &&&
          BitVec.ofNat 8 buckVolMask).toNat < buckVoltageMap.length := by
        rw [BitVec.toNat_and]
        exact Nat.lt_succ_of_le Nat.and_le_right
      exact insideTables_cons.mpr
        ⟨address, insideTables_cons.mpr ⟨field, insideTables_nil⟩⟩
  | listVoltage index => exact listReads_inside _ index
  | setVoltage minUV maxUV => exact dcdcSetReads_inside buck minUV maxUV
  | isEnabled => exact contrReads_inside control .isEnabled
  | enable => exact contrReads_inside control .enable
  | disable => exact contrReads_inside control .disable
  | getMode => exact contrReads_inside control .getMode
  | setMode mode => exact contrReads_inside control (.setMode mode)

/-- On LDO9 the operations on the control register are harmless only if they
do not get to the table. -/
private theorem contrReads_last {call : RailCall}
    (inside : InsideTables (contrReads ldoContrBaseAddr 8 call))
    (control : call ≠ .getVoltage ∧ ∀ minUV maxUV,
      call ≠ .setVoltage minUV maxUV) : Harmless call := by
  have outside : ¬(readOf ldoContrBaseAddr 8).Inside := by
    simp [ldoContrBaseAddr]
  have never : ¬InsideTables [readOf ldoContrBaseAddr 8] := by
    intro all
    exact outside (insideTables_cons.mp all).1
  cases call with
  | getVoltage => exact absurd rfl control.1
  | setVoltage minUV maxUV => exact absurd rfl (control.2 minUV maxUV)
  | listVoltage index => trivial
  | setMode mode =>
      by_cases known : mode = modeStandby ∨ mode = modeNormal
      · rw [contrReads, if_pos known] at inside
        exact absurd inside never
      · exact not_or.mp known
  | _ => exact absurd inside never

theorem ldoReads_inside_iff (stack : BitVec 32) (ldo : Fin 9)
    (call : RailCall) :
    InsideTables (ldoReads stack ldo call) ↔ (ldo = 8 → Harmless call) := by
  by_cases last : ldo = 8
  · subst last
    have forced {P : Prop} : ((8 : Fin 9) = 8 → P) ↔ P :=
      ⟨fun holds => holds rfl, fun holds _ => holds⟩
    cases call with
    | getVoltage =>
        have outside : ¬(readOf ldoSetVolBaseAddr 8).Inside := by
          simp [ldoSetVolBaseAddr]
        rw [forced]
        exact iff_of_false
          (fun all => outside (insideTables_cons.mp all).1) not_false
    | listVoltage index =>
        exact iff_of_true (listReads_inside _ index) fun _ => trivial
    | setVoltage minUV maxUV => exact ldoSetReads_inside_iff 8 minUV maxUV
    | setMode mode =>
        rw [forced]
        constructor
        · intro inside
          exact contrReads_last inside (by simp)
        · rintro ⟨notStandby, notNormal⟩
          have unknown : ¬(mode = modeStandby ∨ mode = modeNormal) :=
            not_or.mpr ⟨notStandby, notNormal⟩
          simp only [ldoReads, contrReads]
          rw [if_neg unknown]
          exact insideTables_nil
    | _ =>
        rw [forced]
        constructor
        · intro inside
          exact contrReads_last inside (by simp)
        · exact False.elim
  · apply iff_of_true _ fun same => absurd same last
    have control := (ldo_address_iff ldoContrBaseAddr rfl ldo).mpr
      last
    cases call with
    | getVoltage =>
        have address := (ldo_address_iff ldoSetVolBaseAddr rfl
          ldo).mpr last
        have field : (stack &&& BitVec.ofNat 32 ldoVolMask).toNat <
            ldoVoltageMap.length := by
          rw [BitVec.toNat_and]
          exact Nat.lt_succ_of_le Nat.and_le_right
        exact insideTables_cons.mpr
          ⟨address, insideTables_cons.mpr ⟨field, insideTables_nil⟩⟩
    | listVoltage index => exact listReads_inside _ index
    | setVoltage minUV maxUV =>
        apply (ldoSetReads_inside_iff ldo minUV maxUV).mpr
        intro same
        exact absurd same last
    | isEnabled => exact contrReads_inside control .isEnabled
    | enable => exact contrReads_inside control .enable
    | disable => exact contrReads_inside control .disable
    | getMode => exact contrReads_inside control .getMode
    | setMode mode => exact contrReads_inside control (.setMode mode)

theorem Operation.reads_inside_iff (chip : Chip) (stack : BitVec 32)
    (operation : Operation) :
    InsideTables (operation.reads chip stack) ↔
      operation.InsideCondition := by
  cases operation with
  | dcdc buck call => exact iff_of_true (dcdcReads_inside chip buck call) trivial
  | dcdcSetSleepVoltage buck uV =>
      exact iff_of_true (dcdcSetReads_inside buck uV uV) trivial
  | dcdcSetVoltageTimeSel buck oldSelector newSelector =>
      apply iff_of_true _ trivial
      apply insideTables_append.mpr
      refine ⟨listReads_inside _ oldSelector, ?_⟩
      split
      · exact insideTables_nil
      · exact listReads_inside _ newSelector
  | ldo channel call => exact ldoReads_inside_iff stack channel call

theorem ldoGetVoltage_none_iff (chip : Chip) (ldo : Fin 9) (reg : BitVec 32) :
    ldoGetVoltage chip ldo reg = none ↔
      ¬InsideTables (ldoReads reg ldo .getVoltage) := by
  rw [ldoReads_inside_iff]
  by_cases last : ldo = 8
  · subst last
    exact iff_of_true rfl fun harmless => harmless rfl
  · have inside := (ldo_address_iff ldoSetVolBaseAddr rfl
      ldo).mpr last
    have found := List.getElem?_eq_getElem (inside_readOf.mp inside)
    have field : (reg &&& BitVec.ofNat 32 ldoVolMask).toNat <
        ldoVoltageMap.length := by
      rw [BitVec.toNat_and]
      exact Nat.lt_succ_of_le Nat.and_le_right
    simp [ldoGetVoltage, found, microvolts, last]
    simpa using field

theorem ldoSetVoltage_none_iff (chip : Chip) (ldo : Fin 9)
    (minUV maxUV : Int) :
    ldoSetVoltage chip ldo minUV maxUV = none ↔
      ¬InsideTables (ldoReads 0 ldo (.setVoltage minUV maxUV)) := by
  rw [ldoReads_inside_iff]
  by_cases rejected : outOfRange ldoVoltageMap (minUV.tdiv 1000)
  · have answer : ldoSetVoltage chip ldo minUV maxUV = some (einval, chip) := by
      rw [ldoSetVoltage, if_pos rejected]
    rw [answer]
    exact iff_of_false (Option.some_ne_none _)
      (not_not_intro fun _ => .inl rejected)
  · have none := noneFits_iff (maxUV.tdiv 1000) rejected
    by_cases above : ldoVoltageMap.getD (firstAtLeast ldoVoltageMap volMaxIdx
        (minUV.tdiv 1000)) 0 > maxUV.tdiv 1000
    · have answer : ldoSetVoltage chip ldo minUV maxUV =
          some (einval, chip) := by
        rw [ldoSetVoltage, if_neg rejected]
        exact if_pos above
      rw [answer]
      exact iff_of_false (Option.some_ne_none _)
        (not_not_intro fun _ => .inr (none.mp above))
    · have reached : ldoSetVoltage chip ldo minUV maxUV =
          ldoSetVolBaseAddr[ldo.val]?.map fun reg =>
            (0, chip.updateBits reg (BitVec.ofNat 8 ldoVolMask)
              (BitVec.ofNat 8 (firstAtLeast ldoVoltageMap volMaxIdx
                (minUV.tdiv 1000)))) := by
        rw [ldoSetVoltage, if_neg rejected]
        simp only
        rw [if_neg above]
        cases ldoSetVolBaseAddr[ldo.val]? <;> rfl
      have unfit : ¬Harmless (.setVoltage minUV maxUV) := by
        rintro (outside | misfit)
        · exact rejected outside
        · exact above (none.mpr misfit)
      have beyond : ldoSetVolBaseAddr[ldo.val]? = Option.none ↔ ldo = 8 := by
        have address := ldo_address_iff ldoSetVolBaseAddr rfl ldo
        rw [List.getElem?_eq_none_iff, ← Nat.not_lt]
        exact (not_congr address).trans not_not
      rw [reached, Option.map_eq_none_iff, beyond]
      simp [unfit]

theorem ldoControl_none_iff {β : Type} (operation : Nat → β) (ldo : Fin 9) :
    ldoContrBaseAddr[ldo.val]?.map operation = none ↔
      ¬InsideTables (ldoReads 0 ldo .isEnabled) := by
  rw [Option.map_eq_none_iff, List.getElem?_eq_none_iff]
  simp [ldoReads, contrReads]

end KernelDrivers.Act8846

namespace KernelDrivers.Regulator

open KernelDrivers.Library

/-- An operation of one of the two drivers. -/
inductive PmicOperation where
  | rk818 (call : Rk818.Call)
  | act8846 (operation : Act8846.Operation)

/-- The reads of an operation, with the registers of its chip and with what an
uninitialised variable holds. -/
def PmicOperation.reads (chip : RegisterFile 8) (stack : BitVec 32) :
    PmicOperation → List TableRead
  | .rk818 call => call.reads chip
  | .act8846 operation => operation.reads chip stack

def PmicOperation.InsideCondition (chip : RegisterFile 8) :
    PmicOperation → Prop
  | .rk818 call => call.InsideCondition chip
  | .act8846 operation => operation.InsideCondition

/-- An operation stays inside its tables exactly when the condition holds. -/
theorem reads_insideTables_iff (chip : RegisterFile 8) (stack : BitVec 32)
    (operation : PmicOperation) :
    InsideTables (operation.reads chip stack) ↔
      operation.InsideCondition chip := by
  cases operation with
  | rk818 call => exact call.reads_inside_iff chip
  | act8846 operation => exact operation.reads_inside_iff chip stack

/-- Selector 63 of LDO1 has no entry in its map. -/
theorem not_insideTables_ldo1 :
    ¬InsideTables (PmicOperation.reads (fun _ => 0x3f) 0
      (.rk818 (.ldo 0 .getVoltage))) := by
  intro inside
  have selected := inside ⟨17, 63⟩ (by decide)
  exact absurd selected (by decide)

end KernelDrivers.Regulator
