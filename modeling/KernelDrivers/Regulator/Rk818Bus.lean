import KernelDrivers.Regulator.Rk818Frame
import KernelDrivers.Regulator.Rk818Reject

/-!
# RK818 transfers that fail

`rk818_set_bits` and `rk818_clear_bits` over an i2c bus whose transfers may
fail, and the operations that are built on them.
-/

namespace KernelDrivers.Rk818

open KernelDrivers.Library KernelDrivers.Regulator

/-- How a transfer ends. -/
inductive Outcome where
  | done
  | failed (errno : Nat)
  deriving DecidableEq

/-- What `i2c_transfer` returns: the number of messages, or an error. -/
def Outcome.code (messages : Nat) : Outcome → Int
  | .done => messages
  | .failed errno => -(errno + 1)

/-- The transfers inside one call.  What a failed read leaves in its buffer
is arbitrary. -/
structure Transfers where
  read : Outcome
  buffer : BitVec 8
  write : Outcome
  reread : Outcome
  rebuffer : BitVec 8

/-- The registers, and the write transfers that were made, with the latest
first. -/
structure Bus where
  chip : Chip
  written : List (Nat × BitVec 8)

/-- `-EIO`. -/
abbrev eio : Int := -5

/-- The result of the transfer is dropped. -/
def i2cRead (bus : Bus) (reg count : Nat) (outcome : Outcome)
    (buffer : BitVec 8) : Int × BitVec 8 :=
  if count ≠ 1 then (eio, buffer)
  else
    match outcome with
    | .done => (0, bus.chip reg)
    | .failed _ => (0, buffer)

def i2cWrite (bus : Bus) (reg count : Nat) (src : BitVec 8)
    (outcome : Outcome) : Int × Bus :=
  if count ≠ 1 then (eio, bus)
  else
    let written := (reg, src) :: bus.written
    match outcome with
    | .done => (outcome.code 1, ⟨bus.chip.write reg src, written⟩)
    | .failed _ => (outcome.code 1, ⟨bus.chip, written⟩)

def setBits (transfers : Transfers) (bus : Bus) (reg : Nat)
    (mask val : BitVec 8) : Int × Bus :=
  let (ret, tmp) := i2cRead bus reg 1 transfers.read transfers.buffer
  let tmp := (tmp &&& ~~~mask) ||| val
  let (_ret, bus) :=
    if ret = 0 then i2cWrite bus reg 1 tmp transfers.write else (ret, bus)
  let _tmp := i2cRead bus reg 1 transfers.reread transfers.rebuffer
  (0, bus)

def clearBits (transfers : Transfers) (bus : Bus) (reg : Nat)
    (mask : BitVec 8) : Int × Bus :=
  let (err, data) := i2cRead bus reg 1 transfers.read transfers.buffer
  if err < 0 then (err, bus)
  else i2cWrite bus reg 1 (data &&& ~~~mask) transfers.write

/-- The calls of `rk818_set_bits` that a mode setter makes, or its error. -/
def dcdcModeCalls (reg : Nat) (mode : Nat) : Except Int (List Write) :=
  if mode = modeFast then .ok [⟨some reg, 0x80, 0x80⟩]
  else if mode = modeNormal then .ok [⟨some reg, 0x80, 0⟩]
  else .error einval

def dcdcCalls (buck : Fin 4) : DcdcOperation → Except Int (List Write)
  | .setVoltage minUV maxUV => .ok (dcdcWrites buck minUV maxUV)
  | .setSuspendVoltage uV => .ok (dcdcSleepWrites buck uV)
  | .setMode mode => dcdcModeCalls (buckSetVolBaseAddr buck) mode
  | .setSuspendMode mode => dcdcModeCalls (buckSetVolBaseAddr buck + 0x01) mode
  | .suspendEnable => .ok [⟨some sleepSetOffReg1, flag buck, 0⟩]
  | .suspendDisable =>
      .ok [⟨some sleepSetOffReg1, flag buck, (flag buck).toNat⟩]
  | .enable => .ok [⟨some dcdcEnReg, flag buck, (flag buck).toNat⟩]
  | .disable => .ok [⟨some dcdcEnReg, flag buck, 0⟩]

/-- A call with the register and the bit of an LDO among `rest`, or of LDO9 or
LDO10 in `reg`. -/
def ldoSwitchCall (reg rest : Nat) (ldo : Fin 10) (val : BitVec 8 → BitVec 8) :
    Write :=
  if ldo = 8 then ⟨some reg, flag 5, (val (flag 5)).toNat⟩
  else if ldo = 9 then ⟨some reg, flag 6, (val (flag 6)).toNat⟩
  else ⟨some rest, flag ldo, (val (flag ldo)).toNat⟩

/-- The two switches of the second register are disabled with `1 << 0`. -/
def ldoDisableCall (ldo : Fin 10) : Write :=
  if ldo = 8 then ⟨some dcdcEnReg, flag 5, (flag 0).toNat⟩
  else if ldo = 9 then ⟨some dcdcEnReg, flag 6, (flag 0).toNat⟩
  else ⟨some ldoEnReg, flag ldo, 0⟩

/-- The call of a voltage setter, which refuses what is out of range. -/
def ldoVoltageCalls (table : List Nat) (ldo : Fin 10) (uV : Int) :
    Except Int (List Write) :=
  if ldoOutOfRange ldo (uV.tdiv 1000) then .error einval
  else .ok (ldoWritesIn table ldo uV)

def ldoCalls (ldo : Fin 10) : LdoOperation → Except Int (List Write)
  | .setVoltage minUV _ => ldoVoltageCalls ldoSetVolBaseAddr ldo minUV
  | .setSuspendVoltage uV => ldoVoltageCalls ldoSetSlpVolBaseAddr ldo uV
  | .suspendEnable =>
      .ok [ldoSwitchCall sleepSetOffReg1 sleepSetOffReg2 ldo fun _ => 0]
  | .suspendDisable =>
      .ok [ldoSwitchCall sleepSetOffReg1 sleepSetOffReg2 ldo id]
  | .enable => .ok [ldoSwitchCall dcdcEnReg ldoEnReg ldo id]
  | .disable => .ok [ldoDisableCall ldo]

def Operation.calls : Operation → Except Int (List Write)
  | .dcdc buck operation => dcdcCalls buck operation
  | .ldo channel operation => ldoCalls channel operation

/-- The calls one after the other, from the one numbered `index` on; the last
code is returned. -/
def performAll (transfers : Nat → Transfers) (index : Nat) :
    List Write → Int × Bus → Option (Int × Bus)
  | [], result => some result
  | write :: writes, (_, bus) =>
      match write.reg with
      | none => none
      | some reg =>
          performAll transfers (index + 1) writes
            (setBits (transfers index) bus reg write.mask
              (BitVec.ofInt 8 write.val))

/-- `enable` and `disable` of the LDOs return 0 whatever they were told. -/
def Operation.dropsCode : Operation → Bool
  | .ldo _ .enable | .ldo _ .disable => true
  | _ => false

def Operation.serve (transfers : Nat → Transfers) (bus : Bus)
    (operation : Operation) : Option (Int × Bus) :=
  match operation.calls with
  | .error code => some (code, bus)
  | .ok writes =>
      (performAll transfers 0 writes (0, bus)).map fun (ret, bus) =>
        (if operation.dropsCode then 0 else ret, bus)

/-- A read-modify-write: the bits under the mask are those of the value, a
failed read writes nothing, and a failure is reported. -/
structure ReadModifyWrite (transfers : Transfers) (bus : Bus) (reg : Nat)
    (mask val : BitVec 8) (result : Int × Bus) : Prop where
  success : transfers.read = .done → transfers.write = .done →
    result.2.chip = bus.chip.updateBits reg mask val ∧ 0 ≤ result.1
  kept : transfers.read ≠ .done → result.2.written = bus.written
  reported : transfers.read ≠ .done ∨ transfers.write ≠ .done → result.1 < 0

/-- The register holds the bits that the call asks for. -/
def Write.Held (chip : Chip) (write : Write) : Prop :=
  ∀ reg, write.reg = some reg →
    chip reg &&& write.mask = BitVec.ofInt 8 write.val &&& write.mask

/-- An operation that reports success has its bits in the registers. -/
def HeldOnSuccess (transfers : Nat → Transfers) (bus : Bus)
    (operation : Operation) : Prop :=
  ∀ ret after writes, operation.serve transfers bus = some (ret, after) →
    operation.calls = .ok writes → 0 ≤ ret →
      ∀ write ∈ writes, write.Held after.chip

/-- A call of a helper, or an operation. -/
inductive BusCall where
  | setBits (reg : Nat) (mask val : BitVec 8)
  | clearBits (reg : Nat) (mask : BitVec 8)
  | operate (operation : Operation)

def BusCall.Reliable (transfers : Nat → Transfers) (bus : Bus) :
    BusCall → Prop
  | .setBits reg mask val =>
      ReadModifyWrite (transfers 0) bus reg mask val
        (Rk818.setBits (transfers 0) bus reg mask val)
  | .clearBits reg mask =>
      ReadModifyWrite (transfers 0) bus reg mask 0
        (Rk818.clearBits (transfers 0) bus reg mask)
  | .operate operation => HeldOnSuccess transfers bus operation

/-- When a call is reliable.  `rk818_set_bits` always returns 0 and does not
mask its value, neither helper notices a failed read, and an operation is saved
only by a write that succeeds or by a register that needs none. -/
def BusCall.Condition (transfers : Nat → Transfers) (bus : Bus) :
    BusCall → Prop
  | .setBits reg mask val =>
      (transfers 0).read = .done ∧ (transfers 0).write = .done ∧
        val &&& ~~~mask &&& ~~~(bus.chip reg) = 0
  | .clearBits _ _ => (transfers 0).read = .done
  | .operate operation =>
      ∀ writes, operation.calls = .ok writes →
        (∃ index < writes.length, (transfers index).write = .done) ∨
          ∀ write ∈ writes, write.Held bus.chip

section Helpers

variable {transfers : Transfers} {bus : Bus} {reg : Nat}
variable {mask val : BitVec 8}

/-- What the buffer holds after the first read. -/
def Transfers.received (transfers : Transfers) (chip : Chip) (reg : Nat) :
    BitVec 8 :=
  if transfers.read = .done then chip reg else transfers.buffer

theorem i2cRead_one : i2cRead bus reg 1 transfers.read transfers.buffer =
    (0, transfers.received bus.chip reg) := by
  unfold i2cRead Transfers.received
  cases transfers.read <;> rfl

theorem setBits_eq : setBits transfers bus reg mask val =
    (0, (i2cWrite bus reg 1
      ((transfers.received bus.chip reg &&& ~~~mask) ||| val)
      transfers.write).2) := by
  unfold setBits
  rw [i2cRead_one]
  rfl

theorem clearBits_eq : clearBits transfers bus reg mask =
    i2cWrite bus reg 1 (transfers.received bus.chip reg &&& ~~~mask)
      transfers.write := by
  unfold clearBits
  rw [i2cRead_one]
  rfl

theorem i2cWrite_written (src : BitVec 8) (outcome : Outcome) :
    (i2cWrite bus reg 1 src outcome).2.written =
      (reg, src) :: bus.written := by
  cases outcome <;> rfl

theorem i2cWrite_done (src : BitVec 8) {outcome : Outcome}
    (done : outcome = .done) :
    i2cWrite bus reg 1 src outcome =
      (1, ⟨bus.chip.write reg src, (reg, src) :: bus.written⟩) := by
  subst done
  rfl

theorem i2cWrite_failed (src : BitVec 8) {outcome : Outcome}
    (failed : outcome ≠ .done) :
    (i2cWrite bus reg 1 src outcome).1 < 0 ∧
      (i2cWrite bus reg 1 src outcome).2.chip = bus.chip := by
  cases outcome with
  | done => exact absurd rfl failed
  | failed errno =>
      refine ⟨?_, rfl⟩
      have code : (i2cWrite bus reg 1 src (.failed errno)).1 =
          -((errno : Int) + 1) := rfl
      omega

theorem received_done (done : transfers.read = .done) :
    transfers.received bus.chip reg = bus.chip reg :=
  if_pos done

/-- The unmasked value is right when it adds no bit to the register. -/
theorem setBits_eq_updateBits_iff {chip : Chip} :
    chip.setBits reg mask val = chip.updateBits reg mask val ↔
      val &&& ~~~mask &&& ~~~(chip reg) = 0 := by
  have bits : chip.setBits reg mask val = chip.updateBits reg mask val ↔
      chip.setBits reg mask val reg = chip.updateBits reg mask val reg := by
    constructor
    · intro same
      rw [same]
    · intro same
      funext other
      by_cases here : other = reg
      · subst here
        exact same
      · rw [RegisterFile.setBits_other here, RegisterFile.updateBits_other here]
  rw [bits]
  simp only [RegisterFile.updateBits, RegisterFile.setBits,
    RegisterFile.write_same]
  constructor
  · intro same
    apply BitVec.eq_of_getLsbD_eq
    intro index inside
    have equal := congrArg (fun value => value.getLsbD index) same
    simp only [BitVec.getLsbD_or, BitVec.getLsbD_and, BitVec.getLsbD_not,
      inside, decide_true, Bool.true_and] at equal
    simp only [BitVec.getLsbD_and, BitVec.getLsbD_not, inside, decide_true,
      Bool.true_and]
    cases old : (chip reg).getLsbD index <;>
      cases masked : mask.getLsbD index <;>
        cases bit : val.getLsbD index <;> simp_all
  · intro none
    apply BitVec.eq_of_getLsbD_eq
    intro index inside
    have zero := congrArg (fun value => value.getLsbD index) none
    simp only [BitVec.getLsbD_and, BitVec.getLsbD_not, inside, decide_true,
      Bool.true_and] at zero
    simp only [BitVec.getLsbD_or, BitVec.getLsbD_and, BitVec.getLsbD_not,
      inside, decide_true, Bool.true_and]
    cases old : (chip reg).getLsbD index <;>
      cases masked : mask.getLsbD index <;>
        cases bit : val.getLsbD index <;> simp_all

theorem setBits_reliable_iff :
    ReadModifyWrite transfers bus reg mask val
        (setBits transfers bus reg mask val) ↔
      transfers.read = .done ∧ transfers.write = .done ∧
        val &&& ~~~mask &&& ~~~(bus.chip reg) = 0 := by
  have ret : (setBits transfers bus reg mask val).1 = 0 := by
    rw [setBits_eq]
  have after (read : transfers.read = .done) (write : transfers.write = .done) :
      (setBits transfers bus reg mask val).2.chip =
        bus.chip.setBits reg mask val := by
    rw [setBits_eq, i2cWrite_done _ write, received_done read]
    rfl
  constructor
  · intro reliable
    have read : transfers.read = .done := by
      by_contra failed
      have negative := reliable.reported (.inl failed)
      omega
    have write : transfers.write = .done := by
      by_contra failed
      have negative := reliable.reported (.inr failed)
      omega
    refine ⟨read, write, setBits_eq_updateBits_iff.mp ?_⟩
    exact (after read write).symm.trans (reliable.success read write).1
  · rintro ⟨read, write, masked⟩
    constructor
    · intro _ _
      rw [after read write, ret]
      exact ⟨setBits_eq_updateBits_iff.mpr masked, by decide⟩
    · intro failed
      exact absurd read failed
    · rintro (failed | failed)
      · exact absurd read failed
      · exact absurd write failed

theorem clearBits_reliable_iff :
    ReadModifyWrite transfers bus reg mask 0
        (clearBits transfers bus reg mask) ↔
      transfers.read = .done := by
  rw [clearBits_eq]
  constructor
  · intro reliable
    by_contra failed
    have kept := congrArg List.length (reliable.kept failed)
    rw [i2cWrite_written, List.length_cons] at kept
    omega
  · intro read
    constructor
    · intro _ write
      rw [i2cWrite_done _ write, received_done read]
      refine ⟨?_, Int.one_nonneg⟩
      simp [RegisterFile.updateBits, RegisterFile.setBits]
    · intro failed
      exact absurd read failed
    · rintro (failed | failed)
      · exact absurd read failed
      · exact (i2cWrite_failed _ failed).1

end Helpers

/-- After a call the bits are held if the write was made or was not needed. -/
theorem setBits_held (transfers : Transfers) (bus : Bus) {write : Write}
    {reg : Nat} (address : write.reg = some reg) :
    write.Held (setBits transfers bus reg write.mask
        (BitVec.ofInt 8 write.val)).2.chip ↔
      transfers.write = .done ∨ write.Held bus.chip := by
  rw [setBits_eq]
  by_cases made : transfers.write = .done
  · apply iff_of_true _ (.inl made)
    intro other same
    cases address.symm.trans same
    rw [i2cWrite_done _ made]
    apply BitVec.eq_of_getLsbD_eq
    intro index inside
    simp only [RegisterFile.write_same, BitVec.getLsbD_and, BitVec.getLsbD_or,
      BitVec.getLsbD_not]
    cases write.mask.getLsbD index <;> simp
  · rw [(i2cWrite_failed _ made).2]
    simp [made]

/-- The same call again and again: one write that is made is enough. -/
theorem performAll_held (transfers : Nat → Transfers) {write : Write}
    {count index : Nat} {before after : Int × Bus}
    (performed : performAll transfers index (List.replicate count write)
      before = some after) :
    write.Held after.2.chip ↔
      (∃ later < count, (transfers (index + later)).write = .done) ∨
        write.Held before.2.chip := by
  induction count generalizing index before with
  | zero =>
      cases performed
      simp
  | succ count induction =>
      cases address : write.reg with
      | none =>
          rw [List.replicate_succ, performAll, address] at performed
          cases performed
      | some reg =>
          rw [List.replicate_succ, performAll, address] at performed
          have rest := induction performed
          rw [setBits_held _ _ address] at rest
          rw [rest]
          constructor
          · rintro (⟨later, bound, made⟩ | made | held)
            · exact .inl ⟨later + 1, by omega, by
                rwa [← Nat.add_assoc, Nat.add_right_comm]⟩
            · exact .inl ⟨0, by omega, made⟩
            · exact .inr held
          · rintro (⟨later, bound, made⟩ | held)
            · cases later with
              | zero => exact .inr (.inl made)
              | succ later =>
                  refine .inl ⟨later, by omega, ?_⟩
                  rwa [← Nat.add_assoc, Nat.add_right_comm] at made
            · exact .inr (.inr held)

theorem performAll_some (transfers : Nat → Transfers) {write : Write}
    {reg : Nat} (address : write.reg = some reg) (count index : Nat)
    (bus : Bus) :
    ∃ after, performAll transfers index (List.replicate count write)
      (0, bus) = some (0, after) := by
  induction count generalizing index bus with
  | zero => exact ⟨bus, rfl⟩
  | succ count induction =>
      rw [List.replicate_succ, performAll, address]
      simp only [setBits_eq]
      exact induction (index + 1) _

/-- Every operation calls `rk818_set_bits` with the same arguments. -/
theorem calls_replicate {operation : Operation} {writes : List Write}
    (calls : operation.calls = .ok writes) :
    ∃ count write, writes = List.replicate count write := by
  have single (write : Write) : ∃ count write', [write] =
      List.replicate count write' := ⟨1, write, rfl⟩
  have mode {reg mode : Nat} (calls : dcdcModeCalls reg mode = .ok writes) :
      ∃ count write, writes = List.replicate count write := by
    unfold dcdcModeCalls at calls
    split at calls
    · cases calls
      exact single _
    · split at calls
      · cases calls
        exact single _
      · cases calls
  have voltage {table : List Nat} {ldo : Fin 10} {uV : Int}
      (calls : ldoVoltageCalls table ldo uV = .ok writes) :
      ∃ count write, writes = List.replicate count write := by
    unfold ldoVoltageCalls at calls
    split at calls
    · cases calls
    · rename_i accepted
      rw [ldoWritesIn, if_neg accepted] at calls
      cases calls
      exact single _
  cases operation with
  | dcdc buck operation =>
      cases operation with
      | setVoltage minUV maxUV =>
          cases calls
          unfold dcdcWrites
          split
          · exact ⟨0, ⟨none, 0, 0⟩, rfl⟩
          · split
            · exact ⟨2, _, rfl⟩
            · exact single _
      | setSuspendVoltage uV =>
          cases calls
          unfold dcdcSleepWrites
          split
          · exact ⟨0, ⟨none, 0, 0⟩, rfl⟩
          · exact single _
      | setMode code => exact mode calls
      | setSuspendMode code => exact mode calls
      | suspendEnable => cases calls; exact single _
      | suspendDisable => cases calls; exact single _
      | enable => cases calls; exact single _
      | disable => cases calls; exact single _
  | ldo channel operation =>
      cases operation with
      | setVoltage minUV maxUV => exact voltage calls
      | setSuspendVoltage uV => exact voltage calls
      | suspendEnable => cases calls; exact single _
      | suspendDisable => cases calls; exact single _
      | enable => cases calls; exact single _
      | disable => cases calls; exact single _

theorem heldOnSuccess_iff (transfers : Nat → Transfers) (bus : Bus)
    (operation : Operation) :
    HeldOnSuccess transfers bus operation ↔
      (BusCall.operate operation).Condition transfers bus := by
  constructor
  · intro held writes calls
    obtain ⟨count, write, rfl⟩ := calls_replicate calls
    cases address : write.reg with
    | none =>
        right
        intro other member reg known
        cases List.eq_of_mem_replicate member
        cases address.symm.trans known
    | some reg =>
        obtain ⟨after, performed⟩ :=
          performAll_some transfers address count 0 bus
        have served : operation.serve transfers bus = some (0, after) := by
          simp [Operation.serve, calls, performed]
        have holds := held 0 after _ served calls (by decide)
        by_cases some : count = 0
        · subst some
          right
          intro other member
          cases member
        · have member : write ∈ List.replicate count write :=
            List.mem_replicate.mpr ⟨some, rfl⟩
          rcases (performAll_held transfers performed).mp
              (holds write member) with ⟨later, bound, made⟩ | before
          · left
            refine ⟨later, by rwa [List.length_replicate], ?_⟩
            rwa [Nat.zero_add] at made
          · right
            intro other member
            cases List.eq_of_mem_replicate member
            exact before
  · intro condition ret after writes served calls _ write member
    have enough := condition writes calls
    obtain ⟨count, first, rfl⟩ := calls_replicate calls
    cases List.eq_of_mem_replicate member
    rw [Operation.serve, calls] at served
    obtain ⟨⟨code, bus'⟩, performed, shape⟩ := Option.map_eq_some_iff.mp served
    cases shape
    apply (performAll_held transfers performed).mpr
    rcases enough with ⟨index, bound, made⟩ | before
    · left
      refine ⟨index, by rwa [List.length_replicate] at bound, ?_⟩
      rwa [Nat.zero_add]
    · exact .inr (before write member)

section Refinement

variable {transfers : Nat → Transfers} {bus : Bus}

theorem setBits_done {transfers : Transfers} (read : transfers.read = .done)
    (write : transfers.write = .done) (reg : Nat) (mask val : BitVec 8) :
    (setBits transfers bus reg mask val).2.chip =
      bus.chip.setBits reg mask val := by
  rw [setBits_eq, i2cWrite_done _ write, received_done read]
  rfl

theorem performAll_done
    (done : ∀ index, (transfers index).read = .done ∧
      (transfers index).write = .done)
    (writes : List Write) (index : Nat) (before : Int × Bus) :
    (performAll transfers index writes before).map (fun after => after.2.chip) =
      writes.foldlM Write.perform before.2.chip := by
  induction writes generalizing index before with
  | nil => rfl
  | cons write writes induction =>
      cases address : write.reg with
      | none => simp [performAll, Write.perform, address]
      | some reg =>
          rw [performAll, address, List.foldlM_cons]
          simp only [Write.perform, address, Option.map_some]
          rw [induction, setBits_done (done index).1 (done index).2]
          rfl

private theorem ofInt_toNat (bits : BitVec 8) :
    BitVec.ofInt 8 bits.toNat = bits := by
  rw [BitVec.ofInt_natCast, BitVec.ofNat_toNat, BitVec.setWidth_eq]

private theorem perform_single (chip : Chip) (write : Write) :
    [write].foldlM Write.perform chip = write.perform chip := by
  simp [List.foldlM]

/-- If every transfer succeeds the operations are those of the model without a
bus. -/
theorem Operation.serve_done
    (done : ∀ index, (transfers index).read = .done ∧
      (transfers index).write = .done) (operation : Operation) :
    (operation.serve transfers bus).map (fun after => after.2.chip) =
      operation.run bus.chip := by
  have performed {writes : List Write} (calls : operation.calls = .ok writes) :
      (operation.serve transfers bus).map (fun after => after.2.chip) =
        writes.foldlM Write.perform bus.chip := by
    rw [serve, calls]
    simp only [Option.map_map]
    exact performAll_done done writes 0 (0, bus)
  have refused {code : Int} (calls : operation.calls = .error code) :
      (operation.serve transfers bus).map (fun after => after.2.chip) =
        some bus.chip := by
    rw [serve, calls]
    rfl
  cases operation with
  | dcdc buck operation =>
      have mode {reg mode : Nat} (calls : Operation.calls (.dcdc buck operation)
          = dcdcModeCalls reg mode) :
          (Operation.serve transfers bus (.dcdc buck operation)).map
              (fun after => after.2.chip) =
            some (dcdcSetModeIn reg bus.chip mode).2 := by
        unfold dcdcModeCalls at calls
        unfold dcdcSetModeIn
        by_cases fast : mode = modeFast
        · rw [if_pos fast] at calls ⊢
          exact performed calls
        · by_cases normal : mode = modeNormal
          · rw [if_neg fast, if_pos normal] at calls ⊢
            exact performed calls
          · rw [if_neg fast, if_neg normal] at calls ⊢
            exact refused calls
      have set (reg : Nat) :
          [(⟨some reg, flag buck, (flag buck).toNat⟩ : Write)].foldlM
              Write.perform bus.chip =
            some (bus.chip.setBits reg (flag buck) (flag buck)) := by
        rw [perform_single, Write.perform, ofInt_toNat]
        rfl
      cases operation with
      | setVoltage minUV maxUV =>
          rw [performed rfl]
          exact VoltageRequest.serve_writes bus.chip (.dcdc buck)
            (.setVoltage minUV maxUV)
      | setSuspendVoltage uV =>
          rw [performed rfl]
          exact VoltageRequest.serve_writes bus.chip (.dcdc buck)
            (.setSuspendVoltage uV)
      | setMode code => exact mode rfl
      | setSuspendMode code => exact mode rfl
      | suspendEnable => exact performed rfl
      | suspendDisable => exact (performed rfl).trans (set _)
      | enable => exact (performed rfl).trans (set _)
      | disable => exact performed rfl
  | ldo channel operation =>
      have voltage {table : List Nat} {uV : Int}
          (calls : Operation.calls (.ldo channel operation) =
            ldoVoltageCalls table channel uV) :
          (Operation.serve transfers bus (.ldo channel operation)).map
              (fun after => after.2.chip) =
            (ldoSetVoltageIn table bus.chip channel uV).map Prod.snd := by
        unfold ldoVoltageCalls at calls
        by_cases rejected : ldoOutOfRange channel (uV.tdiv 1000)
        · rw [if_pos rejected] at calls
          rw [refused calls, ldoSetVoltageIn, if_pos rejected]
          rfl
        · rw [if_neg rejected] at calls
          rw [performed calls, ldoWritesIn, ldoSetVoltageIn, if_neg rejected,
            if_neg rejected]
          cases table[channel.val]? <;> rfl
      have switch (reg rest : Nat) (val : BitVec 8 → BitVec 8) :
          [ldoSwitchCall reg rest channel val].foldlM Write.perform bus.chip =
            some (if channel = 8 then
                bus.chip.setBits reg (flag 5) (val (flag 5))
              else if channel = 9 then
                bus.chip.setBits reg (flag 6) (val (flag 6))
              else bus.chip.setBits rest (flag channel) (val (flag channel))) := by
        rw [perform_single, ldoSwitchCall]
        split
        · simp [Write.perform]
        · split <;> simp [Write.perform]
      cases operation with
      | setVoltage minUV maxUV => exact voltage rfl
      | setSuspendVoltage uV => exact voltage rfl
      | suspendEnable => rw [performed rfl, switch]; rfl
      | suspendDisable => rw [performed rfl, switch]; rfl
      | enable => rw [performed rfl, switch]; rfl
      | disable =>
          rw [performed rfl]
          simp only [ldoDisableCall, Operation.run, ldoDisable]
          split
          · rfl
          · split <;> rfl

end Refinement

/-- A call is reliable exactly under the condition above. -/
theorem busCall_reliable_iff (transfers : Nat → Transfers) (bus : Bus)
    (call : BusCall) :
    call.Reliable transfers bus ↔ call.Condition transfers bus := by
  cases call with
  | setBits reg mask val => exact setBits_reliable_iff
  | clearBits reg mask => exact clearBits_reliable_iff
  | operate operation => exact heldOnSuccess_iff transfers bus operation

/-- DCDC1 is reported as enabled although the write failed. -/
theorem not_reliable_dcdc1_enable :
    ¬(BusCall.operate (.dcdc 0 .enable)).Reliable
      (fun _ => ⟨.done, 0, .failed 5, .done, 0⟩) ⟨fun _ => 0, []⟩ := by
  intro held
  have holds := held 0 _ _ rfl rfl (by decide) ⟨some 0x23, 1, 1⟩
    (List.mem_singleton.mpr rfl) 0x23 rfl
  exact absurd holds (by decide)

end KernelDrivers.Rk818
