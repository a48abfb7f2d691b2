import KernelDrivers.Rockusb.ReadCommand
import KernelDrivers.Rockusb.Receiving

/-!
# The data stage of a write command

What the loop counts, posts and hands to the media, for packets of any length.
Positions are counted in whole blocks: the bytes of a packet behind its last
whole block are counted but not written.
-/

namespace KernelDrivers.Rockusb

open KernelDrivers.Library

variable {σ : Type} {P : Platform σ} {Stable : σ → Prop}
variable {machine after : Machine σ} {cbw : CbWrap}

/-- The number of bytes in some packets. -/
def bytesIn (packets : List (List UInt8)) : Nat :=
  (packets.map List.length).sum

theorem bytesIn_snoc (packets : List (List UInt8)) (packet : List UInt8) :
    bytesIn (packets ++ [packet]) = bytesIn packets + packet.length := by
  simp [bytesIn]

namespace CbWrap

/-- `cbw` is a write command. -/
def isWrite (cbw : CbWrap) : Prop :=
  cbw.opcode = kFwWrite10 ∨ cbw.opcode = kFwLbaWrite10

instance (cbw : CbWrap) : Decidable cbw.isWrite :=
  inferInstanceAs (Decidable (_ ∨ _))

/-- The block length of a write command. -/
def writeBlock (cbw : CbWrap) : Nat :=
  rxBlockLength cbw.opcode

/-- The number of bytes that the command announces. -/
def writeSize (cbw : CbWrap) : Nat :=
  cbw.nsectors * cbw.writeBlock

/-- The end of the address range of a write that denotes media blocks. -/
def writeLimit (cbw : CbWrap) : Nat :=
  if cbw.opcode = kFwWrite10 then 0x100000000 else 0xFFF00000

/-- The storage call that a write of the media makes. -/
def writeCall (cbw : CbWrap) (lba : Nat) (data : List UInt8) (blocks : Nat) :
    Call :=
  if cbw.opcode = kFwWrite10 then .storageWritePba lba data blocks
  else .storageWriteLba lba data blocks (cbw.cdb 1).toNat

/-- The whole blocks of a packet. -/
def blocksOf (cbw : CbWrap) (packet : List UInt8) : Nat :=
  packet.length / cbw.writeBlock

/-- The whole blocks of the packets received so far. -/
def blocksIn (cbw : CbWrap) (packets : List (List UInt8)) : Nat :=
  (packets.map cbw.blocksOf).sum

/-- The call for the packet that follows `c` blocks. -/
def writesOf (cbw : CbWrap) (c : Nat) (packet : List UInt8) : List Call :=
  if cbw.blocksOf packet = 0 then []
  else [cbw.writeCall (cbw.offset + c)
    (packet.take (cbw.blocksOf packet * cbw.writeBlock)) (cbw.blocksOf packet)]

/-- The calls for packets that follow `c` blocks: each packet is written once,
behind the one before it. -/
def writes (cbw : CbWrap) (c : Nat) : List (List UInt8) → List Call
  | [] => []
  | packet :: rest =>
      cbw.writesOf c packet ++ cbw.writes (c + cbw.blocksOf packet) rest

theorem blocksIn_snoc (packets : List (List UInt8)) (packet : List UInt8) :
    cbw.blocksIn (packets ++ [packet]) =
      cbw.blocksIn packets + cbw.blocksOf packet := by
  simp [blocksIn]

theorem writes_snoc (c : Nat) (packets : List (List UInt8))
    (packet : List UInt8) :
    cbw.writes c (packets ++ [packet]) =
      cbw.writes c packets ++ cbw.writesOf (c + cbw.blocksIn packets) packet := by
  induction packets generalizing c with
  | nil => simp [writes, blocksIn]
  | cons head rest induction =>
      rw [List.cons_append, writes, writes, induction, List.append_assoc]
      simp [blocksIn, Nat.add_assoc]

theorem blocksIn_mul_le (packets : List (List UInt8)) :
    cbw.blocksIn packets * cbw.writeBlock ≤ bytesIn packets := by
  induction packets with
  | nil => simp [blocksIn]
  | cons head rest induction =>
      have first : cbw.blocksOf head * cbw.writeBlock ≤ head.length :=
        Nat.div_mul_le_self _ _
      simp only [blocksIn, bytesIn, List.map_cons, List.sum_cons, Nat.add_mul]
        at induction ⊢
      omega

/-- The packets have as many bytes as their blocks exactly if they consist of
whole blocks. -/
theorem blocksIn_mul_eq_iff (packets : List (List UInt8)) :
    cbw.blocksIn packets * cbw.writeBlock = bytesIn packets ↔
      ∀ packet ∈ packets, cbw.writeBlock ∣ packet.length := by
  induction packets with
  | nil => simp [blocksIn, bytesIn]
  | cons head rest induction =>
      have atMost := cbw.blocksIn_mul_le rest
      have first : cbw.blocksOf head * cbw.writeBlock ≤ head.length :=
        Nat.div_mul_le_self _ _
      have whole : cbw.blocksOf head * cbw.writeBlock = head.length ↔
          cbw.writeBlock ∣ head.length :=
        ⟨fun same => ⟨_, by rw [Nat.mul_comm, same]⟩, Nat.div_mul_cancel⟩
      rw [List.forall_mem_cons, ← induction, ← whole]
      simp only [blocksIn, bytesIn, List.map_cons, List.sum_cons, Nat.add_mul]
        at atMost ⊢
      omega

theorem isWrite.block_cases (write : cbw.isWrite) :
    cbw.writeBlock = 528 ∨ cbw.writeBlock = 512 := by
  rcases write with raw | logical
  · refine .inl ?_
    rw [writeBlock, raw]
    rfl
  · refine .inr ?_
    rw [writeBlock, logical]
    rfl

theorem isWrite.size_lt (write : cbw.isWrite) :
    cbw.writeSize < 4294967296 := by
  have count := cbw.nsectors_lt
  unfold writeSize
  rcases write.block_cases with block | block <;> rw [block] <;> omega

theorem isWrite.block_pos (write : cbw.isWrite) : 0 < cbw.writeBlock := by
  rcases write.block_cases with block | block <;> omega

theorem isWrite.size_pos (write : cbw.isWrite) (some : 0 < cbw.nsectors) :
    0 < cbw.writeSize :=
  Nat.mul_pos some write.block_pos

theorem isWrite.blocksIn_le (write : cbw.isWrite)
    {packets : List (List UInt8)}
    (fits : bytesIn packets ≤ cbw.writeSize) :
    cbw.blocksIn packets ≤ cbw.nsectors := by
  have whole := Nat.le_trans (cbw.blocksIn_mul_le packets) fits
  exact Nat.le_of_mul_le_mul_right whole write.block_pos

end CbWrap

/-- The packets of data received, in order. -/
def dataPackets (log : List (Event σ)) : List (List UInt8) :=
  log.filterMap fun event =>
    match event with
    | .rxDone transfer status packet =>
        if status = 0 ∧ ¬transfer.isCbw then some packet else none
    | _ => none

/-- What a write command does to the media and tells the host. -/
inductive Deed where
  | write (call : Call)
  | status (csw : CsWrap)

/-- The writes of the media and the status wrappers sent, in order. -/
def deeds (log : List (Event σ)) : List Deed :=
  log.filterMap fun event =>
    match event with
    | .call call _ => if call.isWrite then some (.write call) else none
    | .csw csw => some (.status csw)
    | _ => none

@[simp] theorem dataPackets_append (first second : List (Event σ)) :
    dataPackets (first ++ second) = dataPackets first ++ dataPackets second :=
  List.filterMap_append

@[simp] theorem deeds_append (first second : List (Event σ)) :
    deeds (first ++ second) = deeds first ++ deeds second :=
  List.filterMap_append

def Event.command? : Event σ → Option CbWrap
  | .command cbw => some cbw
  | _ => none

/-- The commands executed, in order. -/
def commands (log : List (Event σ)) : List CbWrap :=
  log.filterMap Event.command?

@[simp] theorem commands_append (first second : List (Event σ)) :
    commands (first ++ second) = commands first ++ commands second :=
  List.filterMap_append

theorem commands_inner {log : List (Event σ)}
    (inner : ∀ event ∈ log, event.isInner = true) : commands log = [] := by
  apply List.filterMap_eq_nil_iff.mpr
  intro event member
  have isInner := inner event member
  cases event <;> simp_all [Event.isInner, Event.command?]

theorem dataPackets_inner {log : List (Event σ)}
    (inner : ∀ event ∈ log, event.isInner = true) : dataPackets log = [] := by
  apply List.filterMap_eq_nil_iff.mpr
  intro event member
  have isInner := inner event member
  cases event <;> simp_all [Event.isInner]

theorem CbWrap.isRead.not_isWrite {cbw : CbWrap} (read : cbw.isRead) :
    ¬cbw.isWrite := by
  unfold CbWrap.isWrite
  rcases read with raw | logical
  · rw [raw]
    decide
  · rw [logical]
    decide

theorem fwDispatch_write {cbw : CbWrap} (write : cbw.isWrite)
    (wrapper : machine.usbcmd.cbw = cbw)
    (cmnd : machine.usbcmd.cmnd = cbw.opcode) :
    ∃ mode, fwDispatch P machine = (machine.update fun usbcmd =>
        { usbcmd with imgwrMode := mode }).prepareWrite cbw.writeBlock ∧
      (cbw.opcode = kFwLbaWrite10 → mode = (cbw.cdb 1).toNat) := by
  rcases write with raw | logical
  · refine ⟨machine.usbcmd.imgwrMode, ?_, ?_⟩
    · rw [fwDispatch, cmnd, raw, CbWrap.writeBlock, raw]
      rfl
    · rw [raw]
      intro other
      cases other
  · refine ⟨(cbw.cdb 1).toNat, ?_, fun _ => rfl⟩
    rw [fwDispatch, cmnd, logical, CbWrap.writeBlock, logical, ← wrapper]
    rfl

/-- The length of the transfer posted when `count` bytes have arrived. -/
def CbWrap.nextLength (cbw : CbWrap) (count : Nat) : Nat :=
  min ((cbw.writeSize - count) / cbw.writeBlock) rkusbBufferBlockMax *
    cbw.writeBlock

theorem CbWrap.nextLength_le (cbw : CbWrap) (count : Nat) :
    cbw.nextLength count ≤ cbw.writeSize - count := by
  have cut := Nat.min_le_left ((cbw.writeSize - count) / cbw.writeBlock)
    rkusbBufferBlockMax
  exact Nat.le_trans (Nat.mul_le_mul_right _ cut) (Nat.div_mul_le_self _ _)

/-- The counters of a write command when `count` bytes have been counted. -/
structure Counted (cbw : CbWrap) (count : Nat)
    (usbcmd : CmdRockusbInterface) : Prop where
  dSize : usbcmd.dSize = cbw.writeSize
  dBytes : usbcmd.dBytes = count
  atMost : count ≤ cbw.writeSize

/-- A transfer has been posted for what follows `count` bytes; it may have been
given up. -/
structure Waiting (cbw : CbWrap) (count : Nat) (machine : Machine σ) :
    Prop where
  status : machine.usbcmd.status = .rxdata
  counted : Counted cbw count machine.usbcmd
  notYet : machine.usbcmd.rxGiveback.status ≠ .recvOk
  empty : machine.usbcmd.rxGiveback.actual = 0
  outs : machine.outs = [] ∨
    ∃ buf, machine.outs = [⟨buf, cbw.nextLength count⟩]

/-- `packet` has been received behind `count` bytes. -/
structure Holding (cbw : CbWrap) (count : Nat) (packet : List UInt8)
    (machine : Machine σ) : Prop where
  status : machine.usbcmd.status = .rxdata
  counted : Counted cbw count machine.usbcmd
  received : machine.usbcmd.rxGiveback.status = .recvOk
  actual : machine.usbcmd.rxGiveback.actual = packet.length
  buf : ∃ buf, machine.usbcmd.rxGiveback.buf = some buf ∧
    (machine.rxBuffer buf).bytes 0 packet.length = packet
  outs : machine.outs = []
  atMost : count + packet.length ≤ cbw.writeSize

/-- The command has been dispatched and nothing has been posted for it. -/
structure WritePrepared (cbw : CbWrap) (machine : Machine σ) : Prop where
  status : machine.usbcmd.status = .rxdataPrepare
  counted : Counted cbw 0 machine.usbcmd
  empty : machine.usbcmd.rxGiveback.actual = 0
  outs : machine.outs = []

/-- The registers that say where the next blocks go. -/
structure WritesAt (cbw : CbWrap) (c : Nat) (usbcmd : CmdRockusbInterface) :
    Prop where
  lba : usbcmd.lba = wrap32 (cbw.offset + c)
  imgwrMode : cbw.opcode = kFwLbaWrite10 →
    usbcmd.imgwrMode = (cbw.cdb 1).toNat

section Answer

variable {count : Nat}

theorem countData_eq (dBytes : machine.usbcmd.dBytes = count)
    (small : count + machine.usbcmd.rxGiveback.actual < 4294967296) :
    machine.countData = machine.update fun usbcmd =>
      { usbcmd with dBytes := count + usbcmd.rxGiveback.actual } := by
  unfold Machine.countData
  dsimp only
  split
  · simp only [Machine.update, dBytes, wrap32_of_lt small]
  · rename_i none
    have same : { machine.usbcmd with
        dBytes := count + machine.usbcmd.rxGiveback.actual } =
          machine.usbcmd := by
      rw [not_not.mp none, Nat.add_zero, ← dBytes]
    rw [Machine.update, same]

/-- The next transfer was posted when `count` bytes had been counted. -/
structure Requested (cbw : CbWrap) (count : Nat)
    (before after : Machine σ) : Prop where
  usbcmd : after.usbcmd =
    { before.usbcmd with
      dBytes := count
      rxGiveback := ⟨.recvReady, 0, none⟩
      rxbufNum := before.usbcmd.rxbufNum + 1
      status := .rxdata }
  rxBuffer : after.rxBuffer = before.rxBuffer
  ins : after.ins = before.ins
  outs : after.outs = before.outs ++
    [⟨before.usbcmd.rxbufNum, cbw.nextLength count⟩]
  platform : after.platform = before.platform
  control : after.control = before.control
  log : after.log = before.log ++
    [.bulkOut before.usbcmd.rxbufNum (cbw.nextLength count)]

theorem answerData_request (write : cbw.isWrite)
    (cmnd : machine.usbcmd.cmnd = cbw.opcode)
    (counted : Counted cbw count machine.usbcmd)
    (more : count + machine.usbcmd.rxGiveback.actual < cbw.writeSize) :
    Requested cbw (count + machine.usbcmd.rxGiveback.actual) machine
      machine.answerData := by
  have size := write.size_lt
  have eq := countData_eq counted.dBytes (by omega)
  have shape : machine.answerData = machine.countData.requestData := by
    unfold Machine.answerData
    rw [eq, if_pos]
    simpa [counted.dSize] using more
  rw [shape, eq]
  refine ⟨?_, ?_, ?_, ?_, ?_, ?_, ?_⟩
  all_goals simp [Machine.requestData, cmnd, counted.dSize, CbWrap.nextLength,
    CbWrap.writeBlock]

theorem Requested.waiting (requested : Requested cbw count machine after)
    (dSize : machine.usbcmd.dSize = cbw.writeSize)
    (atMost : count ≤ cbw.writeSize) (outs : machine.outs = []) :
    Waiting cbw count after := by
  obtain ⟨usbcmd, -, -, posted, -⟩ := requested
  refine ⟨?_, ⟨?_, ?_, atMost⟩, ?_, ?_, .inr ⟨_, by rw [posted, outs]; rfl⟩⟩
  all_goals rw [usbcmd]
  · exact dSize
  · simp

/-- The wrapper is ready when the last byte has been counted. -/
structure Replied (cbw : CbWrap) (before after : Machine σ) : Prop where
  counted : Counted cbw cbw.writeSize after.usbcmd
  csw : after.pendingCsw.tag = before.usbcmd.cbw.tag
  good : after.pendingCsw.status = cswGood
  usbcmd : ∃ dBytes csw, after.usbcmd =
    { before.usbcmd with dBytes := dBytes, csw := csw }
  ins : after.ins = before.ins
  outs : after.outs = before.outs
  platform : after.platform = before.platform
  control : after.control = before.control
  log : after.log = before.log

/-- When no byte is missing the CSW is sent, if the IN endpoint is free. -/
theorem answerData_finish (write : cbw.isWrite)
    (counted : Counted cbw count machine.usbcmd)
    (last : count + machine.usbcmd.rxGiveback.actual = cbw.writeSize) :
    ∃ replied, Replied cbw machine replied ∧
      machine.answerData = rkusbSendCsw replied := by
  have size := write.size_lt
  have eq := countData_eq counted.dBytes (by omega)
  refine ⟨machine.countData.replyGood machine.countData.usbcmd.status, ?_, ?_⟩
  · rw [eq]
    refine ⟨⟨?_, ?_, Nat.le_refl _⟩, rfl, rfl, ⟨_, _, rfl⟩, rfl, rfl, rfl,
      rfl, rfl⟩
    · exact counted.dSize
    · exact last
  · have full : ¬machine.countData.usbcmd.dBytes <
        machine.countData.usbcmd.dSize := by
      rw [eq]
      simp [counted.dSize, last]
    rw [Machine.answerData, if_neg full]
    rfl

end Answer

/-- When no byte is missing and the IN endpoint is free the CSW goes out. -/
theorem answerData_sent (write : cbw.isWrite)
    (counted : Counted cbw count machine.usbcmd)
    (last : count + machine.usbcmd.rxGiveback.actual = cbw.writeSize)
    (free : machine.usbcmd.txGiveback.status = .sendFinishedOk) :
    ∃ replied, Replied cbw machine replied ∧
      CswSent replied machine.answerData := by
  obtain ⟨replied, reply, shape⟩ := answerData_finish write counted last
  obtain ⟨dBytes, csw, registers⟩ := reply.usbcmd
  rw [shape]
  refine ⟨replied, reply, rkusbSendCsw_ready ?_⟩
  rw [registers]
  exact free

/-- Blocks were handed to the media by the calls `made`. -/
structure Wrote (P : Platform σ) (made : List Call) (lba : Nat)
    (before after : Machine σ) : Prop where
  usbcmd : after.usbcmd = { before.usbcmd with lba := lba }
  rxBuffer : after.rxBuffer = before.rxBuffer
  ins : after.ins = before.ins
  outs : after.outs = before.outs
  control : after.control = before.control
  unlocked : P.secureBootLock after.platform = 0
  log : ∃ events, after.log = before.log ++ events ∧
    (∀ event ∈ events, event.isInner = true) ∧
    deeds events = made.map .write

/-- The calls that the loop makes for a write command. -/
def Call.servesWrite : Call → Bool
  | .storageWriteLba .. => true
  | .storageWritePba .. => true
  | .iSetLoaderFlag _ => true
  | .fwSorageLowFormat => true
  | _ => false

/-- The calls made for a write command leave the lock open. -/
def LockOpen (P : Platform σ) : Prop :=
  ∀ state call, call.servesWrite = true → P.secureBootLock state = 0 →
    P.secureBootLock (P.next state call) = 0

namespace Wrote

variable {before middle : Machine σ} {made made' : List Call} {lba lba' : Nat}

theorem refl (unlocked : P.secureBootLock machine.platform = 0) :
    Wrote P [] machine.usbcmd.lba machine machine :=
  ⟨rfl, rfl, rfl, rfl, rfl, unlocked, [], by simp, by simp, rfl⟩

theorem trans (first : Wrote P made lba before middle)
    (second : Wrote P made' lba' middle after) :
    Wrote P (made ++ made') lba' before after := by
  obtain ⟨events, log, inner, calls⟩ := first.log
  obtain ⟨events', log', inner', calls'⟩ := second.log
  refine ⟨?_, second.rxBuffer.trans first.rxBuffer,
    second.ins.trans first.ins, second.outs.trans first.outs,
    second.control.trans first.control, second.unlocked, events ++ events',
    by rw [log', log, List.append_assoc], ?_, ?_⟩
  · rw [second.usbcmd, first.usbcmd]
  · exact List.forall_mem_append.mpr ⟨inner, inner'⟩
  · rw [deeds_append, List.map_append, calls, calls']

theorem perform (lockOpen : LockOpen P)
    (unlocked : P.secureBootLock machine.platform = 0) {call : Call}
    (serves : call.servesWrite = true) :
    Wrote P (if call.isWrite then [call] else []) machine.usbcmd.lba machine
      (machine.perform P call) := by
  refine ⟨rfl, rfl, rfl, rfl, rfl, lockOpen _ _ serves unlocked, [_], rfl,
    by simp [Event.isInner], ?_⟩
  cases write : call.isWrite <;> simp [deeds, write]

theorem loadRx (unlocked : P.secureBootLock machine.platform = 0)
    (buf : Fin 2) :
    Wrote P [] machine.usbcmd.lba machine (machine.loadRx buf) :=
  ⟨rfl, rfl, rfl, rfl, rfl, unlocked, [_], rfl, by simp [Event.isInner], rfl⟩

theorem advance (unlocked : P.secureBootLock machine.platform = 0)
    (blocks : Nat) :
    Wrote P [] (wrap32 (machine.usbcmd.lba + blocks)) machine
      (machine.update fun usbcmd =>
        { usbcmd with lba := wrap32 (usbcmd.lba + blocks) }) :=
  ⟨rfl, rfl, rfl, rfl, rfl, unlocked, [], by simp, by simp, rfl⟩

/-- Received blocks are handed to the platform, and the address moves on. -/
theorem handOver (lockOpen : LockOpen P)
    (unlocked : P.secureBootLock machine.platform = 0) (buf : Fin 2)
    {call : Call} (serves : call.servesWrite = true)
    (isWrite : call.isWrite = true) (blocks : Nat) :
    Wrote P [call] (wrap32 (machine.usbcmd.lba + blocks)) machine
      (((machine.loadRx buf).perform P call).update fun usbcmd =>
        { usbcmd with lba := wrap32 (usbcmd.lba + blocks) }) := by
  have loaded := loadRx unlocked buf
  have written := perform lockOpen loaded.unlocked serves
  have moved := advance written.unlocked blocks
  simpa [isWrite] using (loaded.trans written).trans moved

end Wrote

theorem writeMedia_media (lockOpen : LockOpen P) (write : cbw.isWrite)
    (cmnd : machine.usbcmd.cmnd = cbw.opcode)
    (mode : cbw.opcode = kFwLbaWrite10 →
      machine.usbcmd.imgwrMode = (cbw.cdb 1).toNat)
    (unlocked : P.secureBootLock machine.platform = 0)
    (range : machine.usbcmd.lba < cbw.writeLimit) {buf : Fin 2}
    {blocks : Nat} (some : blocks ≠ 0) :
    Wrote P [cbw.writeCall machine.usbcmd.lba
        ((machine.rxBuffer buf).bytes 0 (blocks * cbw.writeBlock)) blocks]
      (wrap32 (machine.usbcmd.lba + blocks)) machine
      (writeMedia P machine (.some buf) blocks) := by
  rcases write with raw | logical
  · have shape : writeMedia P machine (.some buf) blocks =
        writePba P machine buf blocks := by
      rw [writeMedia, if_neg some]
      simp [cmnd, raw]
    have flagged := Wrote.perform lockOpen unlocked
      (show (Call.iSetLoaderFlag .sysLoaderErr).servesWrite = true from rfl)
    have call : cbw.writeCall machine.usbcmd.lba
        ((machine.rxBuffer buf).bytes 0 (blocks * cbw.writeBlock)) blocks =
          .storageWritePba machine.usbcmd.lba
            ((machine.rxBuffer buf).bytes 0 (blocks * 528)) blocks := by
      rw [CbWrap.writeCall, if_pos raw, CbWrap.writeBlock, raw]
      rfl
    rw [shape, writePba, call]
    dsimp only
    rw [if_pos flagged.unlocked]
    exact flagged.trans
      (.handOver lockOpen flagged.unlocked buf rfl rfl blocks)
  · have different : ¬cbw.opcode = kFwWrite10 := by rw [logical]; decide
    have window := lbaWindow_media (by
      simpa [CbWrap.writeLimit, different] using range)
    have shape : writeMedia P machine (.some buf) blocks =
        writeLba P machine buf blocks := by
      rw [writeMedia, if_neg some, if_neg (by rwa [cmnd]),
        if_pos (by rw [cmnd, logical])]
    have call : cbw.writeCall machine.usbcmd.lba
        ((machine.rxBuffer buf).bytes 0 (blocks * cbw.writeBlock)) blocks =
          .storageWriteLba machine.usbcmd.lba
            ((machine.rxBuffer buf).bytes 0 (blocks * 512)) blocks
              machine.usbcmd.imgwrMode := by
      rw [CbWrap.writeCall, if_neg different, CbWrap.writeBlock, logical,
        mode logical]
      rfl
    rw [shape, writeLba, call]
    simp only [window, if_pos unlocked]
    exact .handOver lockOpen unlocked buf rfl rfl blocks

/-- An address range that denotes media blocks. -/
def CbWrap.ordinary (cbw : CbWrap) : Prop :=
  cbw.offset + cbw.nsectors ≤ cbw.writeLimit

theorem CbWrap.writeLimit_le (cbw : CbWrap) :
    cbw.writeLimit ≤ 4294967296 := by
  unfold writeLimit
  split <;> decide

/-- The packet that follows `c` blocks is written behind them. -/
theorem writeMedia_packet (lockOpen : LockOpen P) (write : cbw.isWrite)
    (cmnd : machine.usbcmd.cmnd = cbw.opcode) {c : Nat}
    (position : WritesAt cbw c machine.usbcmd)
    (unlocked : P.secureBootLock machine.platform = 0)
    {packet : List UInt8}
    (range : cbw.offset + c + cbw.blocksOf packet ≤ cbw.writeLimit)
    {buf : Fin 2}
    (buffered : (machine.rxBuffer buf).bytes 0 packet.length = packet) :
    Wrote P (cbw.writesOf c packet)
      (wrap32 (cbw.offset + (c + cbw.blocksOf packet))) machine
      (writeMedia P machine (some buf) (cbw.blocksOf packet)) := by
  have limit := cbw.writeLimit_le
  by_cases none : cbw.blocksOf packet = 0
  · rw [CbWrap.writesOf, if_pos none, none, Nat.add_zero, ← position.lba,
      writeMedia, if_pos rfl]
    exact .refl unlocked
  · have lba : machine.usbcmd.lba = cbw.offset + c := by
      rw [position.lba, wrap32_of_lt (by omega)]
    have inside : cbw.blocksOf packet * cbw.writeBlock ≤ packet.length :=
      Nat.div_mul_le_self _ _
    have read : (machine.rxBuffer buf).bytes 0
        (cbw.blocksOf packet * cbw.writeBlock) =
          packet.take (cbw.blocksOf packet * cbw.writeBlock) := by
      rw [← Memory.take_bytes inside, buffered]
    have wrote : Wrote P _ _ machine
        (writeMedia P machine (some buf) (cbw.blocksOf packet)) :=
      writeMedia_media lockOpen write cmnd position.imgwrMode unlocked
        (by omega) none
    rw [CbWrap.writesOf, if_neg none]
    rwa [read, lba, Nat.add_assoc] at wrote

/-- Between two states, within one command, the log gained the packets of data
`packets` and the deeds `made`. -/
def Records (before after : Machine σ) (packets : List (List UInt8))
    (made : List Deed) : Prop :=
  ∃ events, after.log = before.log ++ events ∧ commands events = [] ∧
    dataPackets events = packets ∧ deeds events = made

namespace Records

variable {before middle : Machine σ} {packets packets' : List (List UInt8)}
variable {made made' : List Deed}

theorem trans (first : Records before middle packets made)
    (second : Records middle after packets' made') :
    Records before after (packets ++ packets') (made ++ made') := by
  obtain ⟨events, log, commands, packets, deeds⟩ := first
  obtain ⟨events', log', commands', packets', deeds'⟩ := second
  refine ⟨events ++ events', by rw [log', log, List.append_assoc], ?_, ?_, ?_⟩
  · rw [commands_append, commands, commands']
    rfl
  · rw [dataPackets_append, packets, packets']
  · rw [deeds_append, deeds, deeds']

theorem lowFormat (machine : Machine σ) :
    Records machine (machine.perform P .fwSorageLowFormat) [] [] :=
  ⟨[_], rfl, rfl, rfl, rfl⟩

theorem of_wrote {calls : List Call} {lba : Nat}
    (wrote : Wrote P calls lba before after) :
    Records before after [] (calls.map .write) := by
  obtain ⟨events, log, inner, deeds⟩ := wrote.log
  exact ⟨events, log, commands_inner inner, dataPackets_inner inner, deeds⟩

end Records

/-- The lock is open throughout a write command. -/
abbrev WriteServing (P : Platform σ) (cbw : CbWrap)
    (machine : Machine σ) : Prop :=
  Serving (fun state => P.secureBootLock state = 0) cbw machine

theorem WriteServing.lowFormat (lockOpen : LockOpen P)
    (serving : WriteServing P cbw machine) :
    WriteServing P cbw (machine.perform P .fwSorageLowFormat) :=
  serving.of_usbcmd (lockOpen _ _ rfl serving.platform)
    serving.running rfl rfl rfl

section Iterate

variable {count c : Nat} {packet : List UInt8}

theorem Waiting.of_usbcmd (waiting : Waiting cbw count machine) {lba : Nat}
    (usbcmd : after.usbcmd = { machine.usbcmd with lba := lba })
    (outs : after.outs = machine.outs) : Waiting cbw count after := by
  obtain ⟨status, ⟨dSize, dBytes, atMost⟩, notYet, empty, posted⟩ := waiting
  refine ⟨?_, ⟨?_, ?_, atMost⟩, ?_, ?_, by rwa [outs]⟩
  all_goals rwa [usbcmd]

theorem doRockusb_waiting (waiting : Waiting cbw count machine)
    (serving : Serving Stable cbw machine) :
    doRockusb P machine = machine.perform P .fwSorageLowFormat := by
  have response : rkusbHandleResponse P machine = machine := by
    simp [rkusbHandleResponse, waiting.status, waiting.notYet]
  exact doRockusb_response (handleIdle_busy (.inl (by simp [waiting.status])))
    response serving.running serving.running serving.quiet
    (handleCsw_other (by simp [waiting.status]))

theorem doRockusb_holding (holding : Holding cbw count packet machine)
    (running : machine.control = .running) {handled : Machine σ}
    (shape : rkusbHandleDatarx P machine = handled)
    (returned : handled.control = .running) (quiet : handled.usbcmd.Quiet)
    (noCsw : handled.usbcmd.status ≠ .csw) :
    doRockusb P machine = handled.perform P .fwSorageLowFormat := by
  have response : rkusbHandleResponse P machine = handled := by
    simp [rkusbHandleResponse, holding.status, holding.received, shape]
  exact doRockusb_response (handleIdle_busy (.inl (by simp [holding.status])))
    response running returned quiet (handleCsw_other noCsw)

theorem Holding.requested (write : cbw.isWrite)
    (holding : Holding cbw count packet machine)
    (cmnd : machine.usbcmd.cmnd = cbw.opcode)
    (more : count + packet.length < cbw.writeSize) :
    Requested cbw (count + packet.length) machine machine.answerData := by
  have requested := answerData_request write cmnd holding.counted
    (by rwa [holding.actual])
  rwa [holding.actual] at requested

/-- A packet was written and the next transfer posted. -/
structure Continued (P : Platform σ) (cbw : CbWrap) (count c : Nat)
    (packet : List UInt8) (before after : Machine σ) : Prop where
  serving : WriteServing P cbw after
  waiting : Waiting cbw (count + packet.length) after
  posted : ∃ buf,
    after.outs = [⟨buf, cbw.nextLength (count + packet.length)⟩]
  position : WritesAt cbw (c + cbw.blocksOf packet) after.usbcmd
  ins : after.ins = before.ins
  txGiveback : after.usbcmd.txGiveback = before.usbcmd.txGiveback
  records : Records before after [] ((cbw.writesOf c packet).map .write)

/-- The packet is written behind the blocks before it, whatever the answer to
the host was. -/
theorem Holding.wrote (lockOpen : LockOpen P) (write : cbw.isWrite)
    (holding : Holding cbw count packet machine)
    (serving : WriteServing P cbw machine)
    (position : WritesAt cbw c machine.usbcmd)
    (range : cbw.offset + c + cbw.blocksOf packet ≤ cbw.writeLimit) :
    Wrote P (cbw.writesOf c packet)
      (wrap32 (cbw.offset + (c + cbw.blocksOf packet))) machine.answerData
      (rkusbHandleDatarx P machine) := by
  obtain ⟨buf, inBuf, buffered⟩ := holding.buf
  have posted := Posted.answerData (P := P) machine
  have shape : rkusbHandleDatarx P machine =
      writeMedia P machine.answerData (some buf) (cbw.blocksOf packet) := by
    rw [rkusbHandleDatarx_eq, inBuf, holding.actual, serving.cmnd]
    rfl
  rw [shape]
  apply writeMedia_packet lockOpen write
  · rw [posted.cmnd, serving.cmnd]
  · refine ⟨?_, ?_⟩
    · rw [posted.lba, position.lba]
    · rw [posted.imgwrMode]
      exact position.imgwrMode
  · rw [posted.platform]
    exact serving.platform
  · exact range
  · rw [posted.rxBuffer, buffered]

theorem Holding.continued (lockOpen : LockOpen P) (write : cbw.isWrite)
    (holding : Holding cbw count packet machine)
    (serving : WriteServing P cbw machine)
    (position : WritesAt cbw c machine.usbcmd)
    (range : cbw.offset + c + cbw.blocksOf packet ≤ cbw.writeLimit)
    (more : count + packet.length < cbw.writeSize) :
    Continued P cbw count c packet machine (doRockusb P machine) := by
  have requested := holding.requested write serving.cmnd more
  have wrote := holding.wrote lockOpen write serving position range
  have usbcmd := wrote.usbcmd
  have waiting : Waiting cbw _ (rkusbHandleDatarx P machine) :=
    (requested.waiting holding.counted.dSize (Nat.le_of_lt more)
      holding.outs).of_usbcmd usbcmd wrote.outs
  rw [requested.usbcmd] at usbcmd
  have handled : WriteServing P cbw (rkusbHandleDatarx P machine) := by
    apply serving.of_usbcmd wrote.unlocked
    · rw [wrote.control, requested.control, serving.running]
    all_goals rw [usbcmd]
  rw [doRockusb_holding holding serving.running rfl handled.running
    handled.quiet (by simp [waiting.status])]
  have records : Records machine machine.answerData [] [] :=
    ⟨_, requested.log, rfl, rfl, rfl⟩
  refine ⟨handled.lowFormat lockOpen, waiting.of_usbcmd rfl rfl, ?_, ⟨?_, ?_⟩,
    ?_, ?_, ?_⟩
  · refine ⟨machine.usbcmd.rxbufNum, ?_⟩
    rw [Machine.perform_outs, wrote.outs, requested.outs, holding.outs]
    rfl
  · rw [Machine.perform_usbcmd, usbcmd]
  · rw [Machine.perform_usbcmd, usbcmd]
    exact position.imgwrMode
  · rw [Machine.perform_ins, wrote.ins, requested.ins]
  · rw [Machine.perform_usbcmd, usbcmd]
  · simpa using (records.trans (.of_wrote wrote)).trans (.lowFormat _)

/-- The CSW was sent and the calls `made` were made after it. -/
structure Completed (P : Platform σ) (cbw : CbWrap) (made : List Call)
    (before after : Machine σ) : Prop where
  serving : WriteServing P cbw after
  idle : after.usbcmd.status = .idle
  counted : Counted cbw cbw.writeSize after.usbcmd
  empty : after.usbcmd.rxGiveback = ⟨.recvReady, 0, none⟩
  outs : after.outs = [⟨before.usbcmd.rxbufNum, 31⟩]
  records : ∃ csw, csw.tag = cbw.tag ∧ csw.status = cswGood ∧
    Records before after [] (.status csw :: made.map .write)

theorem Completed.of_sent (serving : WriteServing P cbw machine)
    (outs : machine.outs = []) {replied sent handled : Machine σ}
    (reply : Replied cbw machine replied) (csw : CswSent replied sent)
    {made : List Call} {lba : Nat} (wrote : Wrote P made lba sent handled) :
    Completed P cbw made machine handled := by
  obtain ⟨dBytes, wrapper, registers⟩ := reply.usbcmd
  have usbcmd := wrote.usbcmd
  rw [csw.usbcmd] at usbcmd
  have log := csw.log
  rw [reply.log] at log
  have records : Records machine sent [] [.status replied.pendingCsw] :=
    ⟨_, log, rfl, rfl, rfl⟩
  refine ⟨?_, ?_, ⟨?_, ?_, Nat.le_refl _⟩, ?_, ?_, replied.pendingCsw, ?_,
    reply.good, ?_⟩
  · apply serving.of_usbcmd wrote.unlocked
    · rw [wrote.control, csw.control, reply.control, serving.running]
    all_goals
      rw [usbcmd, registers]
  · rw [usbcmd]
  · rw [usbcmd]
    exact reply.counted.dSize
  · rw [usbcmd]
    exact reply.counted.dBytes
  · rw [usbcmd]
  · rw [wrote.outs, csw.outs, reply.outs, outs, registers]
    rfl
  · rw [reply.csw, serving.wrapper]
  · simpa using records.trans (.of_wrote wrote)

theorem Completed.lowFormat (lockOpen : LockOpen P) {made : List Call}
    (completed : Completed P cbw made machine after) :
    Completed P cbw made machine (after.perform P .fwSorageLowFormat) := by
  obtain ⟨csw, tag, good, records⟩ := completed.records
  obtain ⟨dSize, dBytes, atMost⟩ := completed.counted
  refine ⟨completed.serving.lowFormat lockOpen, completed.idle,
    ⟨dSize, dBytes, atMost⟩, completed.empty, completed.outs, csw, tag, good, ?_⟩
  simpa using records.trans (.lowFormat after)

theorem Holding.completed (lockOpen : LockOpen P) (write : cbw.isWrite)
    (holding : Holding cbw count packet machine)
    (serving : WriteServing P cbw machine)
    (position : WritesAt cbw c machine.usbcmd)
    (range : cbw.offset + c + cbw.blocksOf packet ≤ cbw.writeLimit)
    (last : count + packet.length = cbw.writeSize)
    (free : machine.usbcmd.txGiveback.status = .sendFinishedOk) :
    Completed P cbw (cbw.writesOf c packet) machine (doRockusb P machine) := by
  obtain ⟨replied, reply, sent⟩ := answerData_sent write holding.counted
    (by rw [holding.actual, last]) free
  have handled := Completed.of_sent serving holding.outs reply sent
    (holding.wrote lockOpen write serving position range)
  rw [doRockusb_holding holding serving.running rfl handled.serving.running
    handled.serving.quiet (by simp [handled.idle])]
  exact handled.lowFormat lockOpen

theorem nextLength_ne_cbw (write : cbw.isWrite) (count : Nat) :
    cbw.nextLength count ≠ 31 := by
  unfold CbWrap.nextLength
  generalize min ((cbw.writeSize - count) / cbw.writeBlock)
    rkusbBufferBlockMax = blocks
  rcases write.block_cases with block | block <;> rw [block] <;> omega

theorem Waiting.completeOut (write : cbw.isWrite)
    (waiting : Waiting cbw count machine) {index : Nat} {transfer : Transfer}
    (outstanding : machine.outs[index]? = some transfer)
    (fits : packet.length ≤ transfer.len) :
    Holding cbw count packet (completeOut machine index transfer 0 packet) ∧
      Records machine (completeOut machine index transfer 0 packet)
        [packet] [] := by
  obtain ⟨buf, posted⟩ : ∃ buf,
      machine.outs = [⟨buf, cbw.nextLength count⟩] := by
    refine waiting.outs.resolve_left ?_
    intro empty
    simp [empty] at outstanding
  obtain ⟨rfl, emptied⟩ := only_transfer posted outstanding
  have room := cbw.nextLength_le count
  have atMost := waiting.counted.atMost
  constructor
  · refine ⟨waiting.status, ⟨waiting.counted.dSize, waiting.counted.dBytes,
      atMost⟩, rfl, rfl, ⟨buf, rfl, ?_⟩, emptied, ?_⟩
    · simpa [Rockusb.completeOut] using Memory.bytes_storeList packet
    · dsimp only at fits
      omega
  · refine ⟨[_], rfl, rfl, ?_, rfl⟩
    have data : ¬Transfer.isCbw ⟨buf, cbw.nextLength count⟩ :=
      nextLength_ne_cbw write count
    simp [dataPackets, data]

end Iterate

end KernelDrivers.Rockusb
