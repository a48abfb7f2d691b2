import KernelDrivers.Rockusb.ReadRun
import KernelDrivers.Rockusb.Storing

/-!
# What a GOOD status says

A status wrapper reports on a command as a whole.  The erase handlers set it
from the result of their storage call; the data stages set it to GOOD whatever
the storage answered, and whether or not it was asked.
-/

namespace KernelDrivers.Rockusb

open KernelDrivers.Library

variable {σ : Type} {P : Platform σ} {machine start : Machine σ}
variable {cbw : CbWrap} {actions : List Action}
variable {accepts : Call → Int → Prop}

/-- `cbw` is an erase command. -/
def CbWrap.isErase (cbw : CbWrap) : Prop :=
  cbw.opcode = kFwErase10 ∨ cbw.opcode = kFwErase10Force

def Call.isErase : Call → Bool
  | .storageEraseBlock .. => true
  | _ => false

/-- The calls in a log that erase. -/
def erases (log : List (Event σ)) : List (Call × Reply) :=
  (calls log).filter fun entry => entry.1.isErase

/-- A call was successful, by the test that the code makes of its result.
`accepts` says which results mean success where the code makes none. -/
def Platform.succeeds (P : Platform σ) (accepts : Call → Int → Prop) :
    Call × Reply → Prop
  | (.storageReadLba .., reply) => reply.ret = P.ftlOk
  | (.storageReadPba .., reply) => reply.ret = P.ftlOk
  | (.storageWriteLba .., reply) => reply.ret = P.ftlOk
  | (.storageWritePba .., reply) => reply.ret = P.ftlOk
  | (.vendorStorageRead .., reply) => reply.ret ≠ -1
  | (.vendorStorageWrite .., reply) => reply.ret ≠ -1
  | (.storageEraseBlock .., reply) => reply.ret = 0
  | (made, reply) => accepts made reply.ret

/-- The storage calls for a command that added `events` to the log.  A first
chunk that is found in the cache was read by the last load before. -/
def CbWrap.transfers (cbw : CbWrap) (start : Machine σ)
    (events : List (Event σ)) : List (Call × Reply) :=
  if cbw.isRead then
    (if cbw.hits start.usbcmd.preRead then (loads start.log).getLast?.toList
      else []) ++ loads events
  else if cbw.isWrite then stores events
  else erases events

/-- The number of calls that it takes to serve the command: one for each chunk
of a read, one for each packet with whole blocks, one for an erase. -/
def CbWrap.transfersNeeded (cbw : CbWrap) (events : List (Event σ)) : Nat :=
  if cbw.isRead then (cbw.nsectors + 127) / 128
  else if cbw.isWrite then cbw.chunksIn (dataPackets events)
  else 1

/-- All blocks of the command have been read, written or erased. -/
structure CbWrap.Transferred (P : Platform σ)
    (accepts : Call → Int → Prop) (cbw : CbWrap) (start : Machine σ)
    (events : List (Event σ)) : Prop where
  made : (cbw.transfers start events).length = cbw.transfersNeeded events
  succeeded : ∀ entry ∈ cbw.transfers start events, P.succeeds accepts entry
  blocks : cbw.isWrite → cbw.blocksIn (dataPackets events) = cbw.nsectors

/-- GOOD is reported for a transfer that happened, and FAIL for one that did
not. -/
def StatusHonest (P : Platform σ) (accepts : Call → Int → Prop)
    (cbw : CbWrap) (start : Machine σ) (events : List (Event σ))
    (csw : CsWrap) : Prop :=
  (csw.status = cswGood → cbw.Transferred P accepts start events) ∧
    (¬cbw.Transferred P accepts start events → csw.status = cswFail)

/-- No storage call for a read or a write fails, a cached chunk has been
loaded, the packets of a write consist of whole blocks, and the lock is open
where it is looked at. -/
def StatusSound (P : Platform σ) (accepts : Call → Int → Prop)
    (cbw : CbWrap) (start : Machine σ) (actions : List Action)
    (events : List (Event σ)) : Prop :=
  if cbw.isRead then
    (cbw.hits start.usbcmd.preRead → loads start.log ≠ []) ∧
      ∀ entry ∈ cbw.transfers start events, P.succeeds accepts entry
  else if cbw.isWrite then
    Along (step P) (ChunkSound P) start actions ∧
      (∀ entry ∈ cbw.transfers start events, P.succeeds accepts entry) ∧
      ∀ packet ∈ packetsIn actions, cbw.writeBlock ∣ packet.length
  else P.secureBootLock start.platform = 0

/-- The actions of one command: iterations, completions that are OK, and no
packet for the next command. -/
def CbWrap.serves (cbw : CbWrap) (machine : Machine σ) (action : Action) :
    Prop :=
  if cbw.isWrite then machine.receivesData action else action.servesRead

instance (cbw : CbWrap) (machine : Machine σ) (action : Action) :
    Decidable (cbw.serves machine action) :=
  inferInstanceAs (Decidable (if cbw.isWrite then _ else _))

theorem doRockusb_read_none (read : cbw.isRead) (none : cbw.nsectors = 0)
    (received : CommandReceived cbw machine) :
    (doRockusb P machine).control = .hung ∧
      Emits machine (doRockusb P machine) [] [] [] := by
  obtain ⟨buf, packet, first⟩ := received.prepared (P := P) read
  have emits : Emits machine (machine.readPrepared buf cbw.readBlock)
      [] [] [] :=
    readPrepared_emits buf cbw.readBlock
  have running : (machine.readPrepared buf cbw.readBlock).control =
      .running := by
    simpa [Machine.readPrepared, Machine.accept] using received.running
  have size : (machine.readPrepared buf cbw.readBlock).usbcmd.uSize = 0 := by
    simp [Machine.readPrepared, Machine.accept, packet, none]
  have response : rkusbHandleResponse P
      (machine.readPrepared buf cbw.readBlock) =
        { machine.readPrepared buf cbw.readBlock with control := .hung } := by
    rw [← handleDatatx_empty (P := P) size rfl]
    rfl
  have shape : doRockusb P machine =
      { machine.readPrepared buf cbw.readBlock with control := .hung } := by
    rw [doRockusb, first, Machine.andThen, if_pos running, response]
    rfl
  rw [shape]
  exact ⟨rfl, emits⟩

theorem hung_of_run (read : cbw.isRead) (none : cbw.nsectors = 0)
    (received : CommandReceived cbw start)
    (run : Run (step P) (fun _ action => action.servesRead) start actions
      machine) :
    machine = start ∨
      machine.control = .hung ∧ Emits start machine [] [] [] := by
  induction run with
  | nil => exact .inl rfl
  | @snoc actions middle final action _ allowed taken induction =>
      rcases induction with rfl | ⟨hung, -⟩
      · cases action with
        | iterate =>
            obtain rfl := step_iterate taken
            exact .inr (doRockusb_read_none read none received)
        | inDone index status actual =>
            obtain ⟨transfer, outstanding, -⟩ := step_inDone taken
            simp [received.ins] at outstanding
        | outDone => exact allowed.elim
        | outDrop => exact allowed.elim
        | bus => exact allowed.elim
      · simp [step, hung] at taken

/-- The storage call of the command. -/
def CbWrap.eraseCall (cbw : CbWrap) : Call :=
  .storageEraseBlock cbw.offset cbw.nsectors
    (if cbw.opcode = kFwErase10 then 0 else 1)

/-- The erase that the command makes with its reply, unless it is locked. -/
def CbWrap.eraseMade (P : Platform σ) (cbw : CbWrap) (state : σ) :
    List (Call × Reply) :=
  if P.secureBootLock state = 0 then
    [(cbw.eraseCall, P.reply state cbw.eraseCall)]
  else []

@[simp] theorem erases_append (first second : List (Event σ)) :
    erases (first ++ second) = erases first ++ erases second := by
  simp [erases]

/-- Between two states the log gained the wrappers `statuses` and the erases
`made`. -/
def Reports (before after : Machine σ) (statuses : List CsWrap)
    (made : List (Call × Reply)) : Prop :=
  ∃ events, after.log = before.log ++ events ∧ csws events = statuses ∧
    erases events = made

theorem Reports.trans {before middle after : Machine σ}
    {statuses statuses' : List CsWrap} {made made' : List (Call × Reply)}
    (first : Reports before middle statuses made)
    (second : Reports middle after statuses' made') :
    Reports before after (statuses ++ statuses') (made ++ made') := by
  obtain ⟨events, log, told, erased⟩ := first
  obtain ⟨events', log', told', erased'⟩ := second
  refine ⟨events ++ events', by rw [log', log, List.append_assoc], ?_, ?_⟩
  · rw [csws_append, told, told']
  · rw [erases_append, erased, erased']

theorem Reports.accept (machine : Machine σ) (buf : Fin 2) :
    Reports machine (machine.accept buf) [] [] := by
  refine ⟨[.rxLoad buf (machine.outs.map Transfer.buf),
    .command (CbWrap.ofBuffer (machine.rxBuffer buf))], ?_, rfl, rfl⟩
  simp [Machine.accept]

theorem fwDispatch_erase (erase : cbw.isErase)
    (cmnd : machine.usbcmd.cmnd = cbw.opcode) :
    fwDispatch P machine =
      machine.erase P (if cbw.opcode = kFwErase10 then 0 else 1) := by
  rcases erase with plain | force
  · rw [fwDispatch, cmnd, plain]
    rfl
  · rw [fwDispatch, cmnd, force]
    rfl

/-- The reply to an erase is ready: it is FAIL if the erase was made and did not
succeed. -/
structure EraseReplied (P : Platform σ) (cbw : CbWrap)
    (before after : Machine σ) : Prop where
  usbcmd : ∃ csw, after.usbcmd = { before.usbcmd with csw, status := .csw } ∧
    csw.status = if ∀ entry ∈ cbw.eraseMade P before.platform,
      entry.2.ret = 0 then cswGood else cswFail
  control : after.control = before.control
  reports : Reports before after [] (cbw.eraseMade P before.platform)

theorem eraseReplied (wrapper : machine.usbcmd.cbw = cbw) :
    EraseReplied P cbw machine
      (machine.erase P (if cbw.opcode = kFwErase10 then 0 else 1)) := by
  unfold Machine.erase
  dsimp only
  rw [wrapper]
  by_cases unlocked : P.secureBootLock machine.platform = 0
  · have made : cbw.eraseMade P machine.platform =
        [(cbw.eraseCall, P.reply machine.platform cbw.eraseCall)] :=
      if_pos unlocked
    rw [if_pos unlocked]
    refine ⟨⟨_, rfl, ?_⟩, rfl, [_], rfl, rfl, made ▸ rfl⟩
    simp only [made, List.mem_singleton, forall_eq]
    rfl
  · have made : cbw.eraseMade P machine.platform = [] := if_neg unlocked
    rw [if_neg unlocked]
    refine ⟨⟨_, rfl, ?_⟩, rfl, [], by simp, rfl, made ▸ rfl⟩
    rw [made]
    simp

/-- The command has been answered and the loop is idle. -/
structure Erased (P : Platform σ) (cbw : CbWrap)
    (start machine : Machine σ) : Prop where
  served : Served cbw machine
  idle : machine.usbcmd.status = .idle
  empty : machine.usbcmd.rxGiveback.actual = 0
  reports : ∃ csw,
    Reports start machine [csw] (cbw.eraseMade P start.platform) ∧
    csw.status = if ∀ entry ∈ cbw.eraseMade P start.platform,
      entry.2.ret = 0 then cswGood else cswFail

theorem Erased.later {after : Machine σ} (erased : Erased P cbw start machine)
    (served : Served cbw after)
    (idle : after.usbcmd.status = machine.usbcmd.status)
    (empty : after.usbcmd.rxGiveback = machine.usbcmd.rxGiveback)
    (silent : Reports machine after [] []) : Erased P cbw start after := by
  obtain ⟨csw, reports, status⟩ := erased.reports
  refine ⟨served, idle.trans erased.idle, ?_, csw, ?_, status⟩
  · rw [empty, erased.empty]
  · simpa using reports.trans silent

theorem CommandReceived.erased (erase : cbw.isErase)
    (received : CommandReceived cbw start) :
    Erased P cbw start (doRockusb P start) := by
  obtain ⟨buf, inBuf, packet⟩ := received.packet
  have wrapper : (start.accept buf).usbcmd.cbw = cbw := packet
  have cmnd : (start.accept buf).usbcmd.cmnd = cbw.opcode :=
    congrArg CbWrap.opcode packet
  have first := handleIdle_packet (P := P) received.idle received.received inBuf
  rw [fwDispatch_erase erase cmnd] at first
  obtain ⟨⟨csw, usbcmd, status⟩, control, reports⟩ :=
    eraseReplied (P := P) wrapper
  generalize (start.accept buf).erase P _ = replied at *
  have served : Served cbw replied := by
    refine ⟨trivial, control.trans received.running, ?_, ?_, ?_⟩
    all_goals rw [usbcmd]
    · exact received.quiet
    · exact wrapper
    · exact cmnd
  have free : replied.usbcmd.txGiveback.status = .sendFinishedOk := by
    rw [usbcmd]
    exact received.finished
  obtain ⟨sent, sending, shape⟩ := doRockusb_replied first (by rw [usbcmd])
    served.running served.quiet free
  have still : Served cbw sent := by
    apply served.of_usbcmd trivial
    · rw [sending.control, served.running]
    all_goals rw [sending.usbcmd]
  have told : Reports replied sent [replied.pendingCsw] [] :=
    ⟨_, sending.log, rfl, rfl⟩
  have platform : (start.accept buf).platform = start.platform := rfl
  rw [platform] at reports status
  have erased : Erased P cbw start sent := by
    refine ⟨still, ?_, ?_, replied.pendingCsw, ?_, ?_⟩
    · rw [sending.usbcmd]
    · rw [sending.usbcmd]
    · simpa using ((Reports.accept start buf).trans reports).trans told
    · rw [Machine.pendingCsw, usbcmd]
      exact status
  rw [shape]
  exact erased.later still.lowFormat rfl rfl ⟨[_], rfl, rfl, rfl⟩

theorem CbWrap.isErase.not_isRead (erase : cbw.isErase) : ¬cbw.isRead := by
  rintro (read | read) <;> rcases erase with erase | erase <;>
    exact absurd (erase.symm.trans read) (by decide)

theorem CbWrap.isErase.not_isWrite (erase : cbw.isErase) : ¬cbw.isWrite := by
  rintro (write | write) <;> rcases erase with erase | erase <;>
    exact absurd (erase.symm.trans write) (by decide)

/-- At most one status has been sent, and it is honest exactly if the transfer
was sound. -/
def StatusExact (P : Platform σ) (accepts : Call → Int → Prop)
    (cbw : CbWrap) (start : Machine σ) (actions : List Action)
    (machine : Machine σ) : Prop :=
  ∃ events, machine.log = start.log ++ events ∧
    (csws events = [] ∨ ∃ csw, csws events = [csw] ∧
      (StatusHonest P accepts cbw start events csw ↔
        StatusSound P accepts cbw start actions events))

theorem StatusExact.refl : StatusExact P accepts cbw start actions start :=
  ⟨[], by simp, .inl rfl⟩

end KernelDrivers.Rockusb
