import KernelDrivers.Rockusb.Rounds
import KernelDrivers.Rockusb.WriteCommand

/-!
# From a command to its status

A host that waits for the status of its command lets the transfers complete
and sends the data that the loop asks for.  Every known command then leads to a
CSW, except for a read of no blocks, whose data stage never returns; an unknown
command leaves the loop in `RKUSB_STATUS_CMD` for good.
-/

namespace KernelDrivers.Rockusb

open KernelDrivers.Library

variable {σ : Type} {P : Platform σ} {machine after : Machine σ}
variable {cbw : CbWrap}

/-- The actions of a host that waits for a status: transfers complete, and a
packet comes in the data stage of a write only. -/
def Machine.attends (machine : Machine σ) : Action → Prop
  | .iterate => True
  | .inDone _ status _ => status = 0
  | .outDone _ status _ => status = 0 ∧ machine.usbcmd.status = .rxdata
  | _ => False

/-- The loop can go on to a status wrapper without another command. -/
def Machine.leadsToCsw (P : Platform σ) (machine : Machine σ) : Prop :=
  ∃ actions final, Run (step P) Machine.attends machine actions final ∧
    csws final.log ≠ csws machine.log

/-- The next iteration sends a status wrapper or leads to one. -/
def Machine.iteratesToCsw (P : Platform σ) (machine : Machine σ) : Prop :=
  csws (doRockusb P machine).log ≠ csws machine.log ∨
    csws (doRockusb P machine).log = csws machine.log ∧
      (doRockusb P machine).leadsToCsw P

theorem Machine.leadsToCsw.of_step (leads : after.leadsToCsw P)
    (action : Action) (may : machine.attends action)
    (taken : step P machine action = some after)
    (silent : csws after.log = csws machine.log) : machine.leadsToCsw P := by
  obtain ⟨actions, final, run, sent⟩ := leads
  refine ⟨[action] ++ actions, final, (Run.snoc .nil may taken).trans run, ?_⟩
  rwa [← silent]

theorem Machine.iteratesToCsw.leads (iterates : machine.iteratesToCsw P)
    (running : machine.control = .running) : machine.leadsToCsw P := by
  have taken := step_of_running (P := P) running
  rcases iterates with sent | ⟨silent, leads⟩
  · exact ⟨[.iterate], _, .snoc .nil trivial taken, sent⟩
  · exact leads.of_step .iterate trivial taken silent

theorem Extends.csws {allowed : Event σ → Prop}
    (grown : Extends P allowed machine after)
    (silent : ∀ event, allowed event → ∀ csw, event ≠ .csw csw) :
    csws after.log = csws machine.log := by
  obtain ⟨events, log, -, -, inside⟩ := grown
  rw [log, csws_append, List.append_right_eq_self]
  apply List.filterMap_eq_nil_iff.mpr
  intro event member
  have quiet := silent event (inside event member)
  cases event with
  | csw csw => exact absurd rfl (quiet csw)
  | _ => rfl

theorem csws_endOfIteration (machine : Machine σ) :
    csws (endOfIteration P machine).log = csws machine.log := by
  refine (Checked.endOfIteration (P := P) machine).log.csws ?_
  rintro event ⟨call, reply, rfl, -⟩ csw
  simp

theorem csws_handleDatatx (machine : Machine σ) :
    csws (rkusbHandleDatatx P machine).log = csws machine.log := by
  refine (rkusbHandleDatatx_extends machine).csws ?_
  rintro event sending csw rfl
  exact sending

theorem csws_doRockusb (running : (handleIdle P machine).control = .running)
    (returned : (rkusbHandleResponse P (handleIdle P machine)).control =
      .running) :
    csws (doRockusb P machine).log =
      csws (handleCsw (rkusbHandleResponse P (handleIdle P machine))).log := by
  rw [doRockusb_eq running returned, csws_endOfIteration]

theorem doRockusb_idled (busy : (handleIdle P machine).usbcmd.status ≠ .idle) :
    doRockusb P (handleIdle P machine) = doRockusb P machine := by
  have same := @handleIdle_busy σ P (handleIdle P machine) (.inl busy)
  rw [doRockusb, same]
  rfl

theorem Machine.iteratesToCsw.of_idled
    (iterates : (handleIdle P machine).iteratesToCsw P)
    (busy : (handleIdle P machine).usbcmd.status ≠ .idle)
    (silent : csws (handleIdle P machine).log = csws machine.log) :
    machine.iteratesToCsw P := by
  rwa [iteratesToCsw, doRockusb_idled busy, silent] at iterates

theorem exists_inDone (running : machine.control = .running)
    (posted : machine.ins ≠ []) :
    ∃ next txGiveback, step P machine (.inDone 0 0 0) = some next ∧
      next.usbcmd = { machine.usbcmd with txGiveback := txGiveback } ∧
      txGiveback.status = .sendFinishedOk ∧ next.control = .running ∧
      csws next.log = csws machine.log := by
  cases transfers : machine.ins with
  | nil => exact absurd transfers posted
  | cons transfer rest =>
      refine ⟨completeIn machine 0 transfer 0 0, _, ?_, rfl, rfl, running, ?_⟩
      · simp [step, running, transfers]
      · simp [completeIn, csws]

theorem iterates_csw (running : machine.control = .running)
    (status : machine.usbcmd.status = .csw)
    (free : machine.usbcmd.txGiveback.status = .sendFinishedOk) :
    machine.iteratesToCsw P := by
  have idled : handleIdle P machine = machine :=
    handleIdle_busy (.inl (by simp [status]))
  have waits : rkusbHandleResponse P machine = machine := by
    simp [rkusbHandleResponse, status]
  have sent := (rkusbSendCsw_ready free).log
  left
  rw [csws_doRockusb (by rw [idled, running]) (by rw [idled, waits, running]),
    idled, waits, handleCsw, if_pos status, sent]
  simp [csws]

theorem leads_csw (running : machine.control = .running)
    (status : machine.usbcmd.status = .csw) (posted : machine.ins ≠ []) :
    machine.leadsToCsw P := by
  obtain ⟨next, txGiveback, taken, usbcmd, free, still, silent⟩ :=
    exists_inDone (P := P) running posted
  refine ((iterates_csw still ?_ ?_).leads still).of_step (.inDone 0 0 0) rfl
    taken silent
  · rw [usbcmd]
    exact status
  · rw [usbcmd]
    exact free

theorem iterates_posted {response : Machine σ}
    (busy : machine.usbcmd.status ≠ .idle)
    (running : machine.control = .running)
    (shape : rkusbHandleResponse P machine = response)
    (returned : response.control = .running) (quiet : response.usbcmd.Quiet)
    (pending : response.usbcmd.txGiveback.status = .sendInProgress)
    (silent : csws response.log = csws machine.log)
    (leads : (response.perform P .fwSorageLowFormat).leadsToCsw P) :
    machine.iteratesToCsw P := by
  have iteration := doRockusb_pending (handleIdle_busy (.inl busy)) shape
    running returned quiet pending
  right
  rw [iteration]
  refine ⟨?_, leads⟩
  rw [← silent]
  simp [csws]

theorem iterates_txdata (running : machine.control = .running)
    (quiet : machine.usbcmd.Quiet) (status : machine.usbcmd.status = .txdata) :
    machine.iteratesToCsw P := by
  have shape : rkusbHandleResponse P machine =
      (machine.rkusbWriteBulkEp machine.usbcmd.transferSize
        machine.usbcmd.txbufNum).flipTx.replyGood .csw := by
    simp only [rkusbHandleResponse, status]
  refine iterates_posted (by simp [status]) running shape running quiet rfl ?_
    (leads_csw running ?_ ?_)
  all_goals simp [csws]

section Reads

variable {n block c : Nat}

/-- A chunk has been posted: the read ends with a status, or the next chunk is
in the cache. -/
structure PieceSent (n block c : Nat) (before after : Machine σ) : Prop where
  control : after.control = before.control
  resetFlag : after.usbcmd.resetFlag = before.usbcmd.resetFlag
  pending : after.usbcmd.txGiveback.status = .sendInProgress
  posted : after.ins ≠ []
  next : after.usbcmd.status = .csw ∨
    after.usbcmd.status = before.usbcmd.status ∧
      ∃ c' > c, Reading n block c' after.usbcmd ∧ after.usbcmd.prereadHit

theorem PieceSent.of_hit (reading : Reading n block c machine.usbcmd)
    (hit : machine.usbcmd.prereadHit) :
    PieceSent n block c machine (rkusbHandleDatatx P machine) := by
  have left := reading.left
  rw [rkusbHandleDatatx_hit reading hit]
  split
  · exact ⟨by simp, by simp, by simp, by simp, .inl (by simp)⟩
  · have more := reading.sendPreread (by omega)
    have filled := preread_filled (P := P) more.isRead (show 128 ≠ 0 by decide)
    have usbcmd := filled.usbcmd
    refine ⟨?_, ?_, ?_, ?_, .inr ⟨?_, c + min (n - c) 128, by omega,
      more.preread (by decide), prereadHit_preread more ?_⟩⟩
    · rw [filled.control]
      simp
    · rw [usbcmd]
      simp
    · rw [usbcmd]
      simp
    · rw [filled.ins]
      simp
    · rw [usbcmd]
      simp
    · rw [more.txBlocks]
      exact Nat.min_le_right _ _

theorem PieceSent.of_start (reading : Reading n block 0 machine.usbcmd) :
    PieceSent n block 0 machine (rkusbHandleDatatx P machine) := by
  by_cases hit : machine.usbcmd.prereadHit
  · exact .of_hit reading hit
  · have some := reading.txBlocks_pos
    have filled := preread_filled (P := P) reading.isRead some
    have usbcmd := filled.usbcmd
    have sent := PieceSent.of_hit (P := P) (reading.preread (P := P) some)
      (prereadHit_preread reading (Nat.le_refl _))
    rw [rkusbHandleDatatx_miss reading hit]
    refine ⟨sent.control.trans ?_, sent.resetFlag.trans ?_, sent.pending,
      sent.posted, ?_⟩
    · rw [filled.control]
      rfl
    · rw [usbcmd]
      rfl
    · have status : (preread P machine machine.usbcmd.txBlocks).usbcmd.status =
          machine.usbcmd.status := by
        rw [usbcmd]
        rfl
      rw [← status]
      exact sent.next

theorem iterates_chunk {response : Machine σ}
    (running : machine.control = .running) (quiet : machine.usbcmd.Quiet)
    (status : machine.usbcmd.status = .txdataPrepare)
    (shape : rkusbHandleResponse P machine = response)
    (chunk : PieceSent n block c machine response)
    (told : csws response.log = csws machine.log)
    (rest : ∀ {next : Machine σ} {c' : Nat}, c < c' →
      next.control = .running → next.usbcmd.Quiet →
      next.usbcmd.status = .txdataPrepare → next.ins ≠ [] →
      Reading n block c' next.usbcmd → next.usbcmd.prereadHit →
      next.leadsToCsw P) : machine.iteratesToCsw P := by
  have returned := chunk.control.trans running
  have silent : response.usbcmd.Quiet := by
    rw [CmdRockusbInterface.Quiet, chunk.resetFlag]
    exact quiet
  refine iterates_posted (by simp [status]) running shape returned silent
    chunk.pending told ?_
  rcases chunk.next with ended | ⟨still, c', more, reading, hit⟩
  · exact @leads_csw σ P (response.perform P .fwSorageLowFormat) returned ended
      chunk.posted
  · exact @rest (response.perform P .fwSorageLowFormat) c' more returned silent
      (still.trans status) chunk.posted reading hit

theorem rkusbHandleResponse_datatx
    (status : machine.usbcmd.status = .txdataPrepare)
    (free : machine.usbcmd.uBytes = 0 ∨
      machine.usbcmd.txGiveback.status = .sendFinishedOk) :
    rkusbHandleResponse P machine = rkusbHandleDatatx P machine := by
  simp only [rkusbHandleResponse, status]
  rw [if_pos free]

/-- While a chunk is under way the read leads to its status: the induction is
on the blocks that are left. -/
theorem leads_reading (running : machine.control = .running)
    (quiet : machine.usbcmd.Quiet)
    (status : machine.usbcmd.status = .txdataPrepare)
    (posted : machine.ins ≠ []) (reading : Reading n block c machine.usbcmd)
    (hit : machine.usbcmd.prereadHit) : machine.leadsToCsw P := by
  generalize blocks : n - c = left
  induction left using Nat.strongRecOn generalizing machine c with
  | ind left induction =>
      obtain ⟨next, txGiveback, taken, usbcmd, free, still, silent⟩ :=
        exists_inDone (P := P) running posted
      have again : Reading n block c next.usbcmd := by
        rw [usbcmd]
        exact reading.congr rfl rfl rfl
      have cached : next.usbcmd.prereadHit := by
        rw [usbcmd]
        exact hit
      have sending : next.usbcmd.status = .txdataPrepare := by
        rw [usbcmd]
        exact status
      have iterates : next.iteratesToCsw P := by
        refine iterates_chunk still ?_ sending (rkusbHandleResponse_datatx
          sending ?_) (.of_hit again cached) (csws_handleDatatx next) ?_
        · rw [usbcmd]
          exact quiet
        · rw [usbcmd]
          exact .inr free
        · intro later c' more running quiet status posted reading hit
          have smaller : n - c' < left := by
            have inside := reading.left
            omega
          exact induction (n - c') smaller running quiet status posted reading
            hit rfl
      exact (iterates.leads still).of_step (.inDone 0 0 0) rfl taken silent

theorem iterates_read (running : machine.control = .running)
    (quiet : machine.usbcmd.Quiet)
    (status : machine.usbcmd.status = .txdataPrepare)
    (reading : Reading n block 0 machine.usbcmd) :
    machine.iteratesToCsw P := by
  have start : machine.usbcmd.uBytes = 0 := by simpa using reading.uBytes
  exact iterates_chunk running quiet status
    (rkusbHandleResponse_datatx status (.inl start)) (.of_start reading)
    (csws_handleDatatx machine)
    fun _ running quiet status posted reading hit =>
      leads_reading running quiet status posted reading hit

end Reads

section Writes

variable {count : Nat}

theorem writeMedia_control {buf : Option (Fin 2)} {blocks : Nat}
    (inBuf : blocks ≠ 0 → buf ≠ none) :
    (writeMedia P machine buf blocks).control = machine.control := by
  unfold writeMedia
  split
  · rfl
  · rename_i some
    cases buf with
    | none => exact absurd rfl (inBuf some)
    | some buf =>
        dsimp only
        split
        · unfold writePba
          dsimp only
          split <;> rfl
        · split
          · unfold writeLba
            dsimp only
            split
            · rfl
            · rfl
            · rfl
            · split <;> rfl
          · rfl

theorem CbWrap.isWrite.nextLength_pos (write : cbw.isWrite)
    (more : count < cbw.writeSize) (whole : cbw.writeBlock ∣ count) :
    0 < cbw.nextLength count ∧ cbw.writeBlock ∣ cbw.nextLength count := by
  obtain ⟨blocks, rfl⟩ := whole
  have positive : 0 < cbw.writeBlock := by
    rcases write with raw | logical
    · rw [CbWrap.writeBlock, raw]
      decide
    · rw [CbWrap.writeBlock, logical]
      decide
  refine ⟨?_, Nat.dvd_mul_left _ _⟩
  rw [CbWrap.writeSize, Nat.mul_comm cbw.nsectors] at more
  have left := Nat.lt_of_mul_lt_mul_left more
  rw [CbWrap.nextLength, CbWrap.writeSize, Nat.mul_comm cbw.nsectors,
    ← Nat.mul_sub, Nat.mul_div_cancel_left _ positive]
  exact Nat.mul_pos (by simp only [rkusbBufferBlockMax]; omega) positive

theorem exists_outDone (running : machine.control = .running)
    {front : List Transfer} {buf : Fin 2} {length : Nat}
    (posted : machine.outs = front ++ [⟨buf, length⟩]) :
    ∃ next, step P machine
        (.outDone front.length 0 (List.replicate length 0)) = some next ∧
      next.usbcmd = { machine.usbcmd with
        rxGiveback := ⟨.recvOk, length, some buf⟩ } ∧
      next.control = .running ∧ csws next.log = csws machine.log := by
  refine ⟨completeOut machine front.length ⟨buf, length⟩ 0
    (List.replicate length 0), ?_, ?_, running, ?_⟩
  · simp [step, running, posted]
  · simp [completeOut]
  · simp [completeOut, csws]

/-- The loop in the data stage of a write, with what was received last. -/
structure Receives (cbw : CbWrap) (count : Nat) (machine : Machine σ) :
    Prop where
  running : machine.control = .running
  quiet : machine.usbcmd.Quiet
  cmnd : machine.usbcmd.cmnd = cbw.opcode
  free : machine.usbcmd.txGiveback.status = .sendFinishedOk
  stage : machine.usbcmd.status = .rxdataPrepare ∨
    machine.usbcmd.status = .rxdata ∧
      machine.usbcmd.rxGiveback.status = .recvOk
  counted : Counted cbw count machine.usbcmd
  atMost : count + machine.usbcmd.rxGiveback.actual ≤ cbw.writeSize
  whole : cbw.writeBlock ∣ count + machine.usbcmd.rxGiveback.actual
  inBuf : machine.usbcmd.rxGiveback.actual ≠ 0 →
    machine.usbcmd.rxGiveback.buf ≠ none

theorem Receives.response (receives : Receives cbw count machine) :
    rkusbHandleResponse P machine = rkusbHandleDatarx P machine := by
  rcases receives.stage with prepared | ⟨data, received⟩
  · simp only [rkusbHandleResponse, prepared]
  · simp only [rkusbHandleResponse, data]
    rw [if_pos received]

theorem Receives.idled (receives : Receives cbw count machine) :
    handleIdle P machine = machine := by
  refine handleIdle_busy (.inl ?_)
  rcases receives.stage with prepared | ⟨data, -⟩
  · simp [prepared]
  · simp [data]

/-- The received blocks were handed on; the answer to the host stands. -/
structure Handled (machine after : Machine σ) : Prop where
  usbcmd : ∃ lba, after.usbcmd = { machine.answerData.usbcmd with lba := lba }
  outs : after.outs = machine.answerData.outs
  control : after.control = .running
  told : csws after.log = csws machine.answerData.log

theorem Receives.handled (receives : Receives cbw count machine) :
    Handled machine (rkusbHandleDatarx P machine) := by
  have posted := Posted.answerData (P := P) machine
  have stored := Stored.writeMedia (P := P) machine.answerData
    machine.usbcmd.rxGiveback.buf (machine.usbcmd.rxGiveback.actual /
      rxBlockLength machine.usbcmd.cmnd)
  rw [rkusbHandleDatarx_eq]
  refine ⟨stored.usbcmd, stored.outs, ?_, stored.log.csws ?_⟩
  · rw [writeMedia_control, posted.control, receives.running]
    intro some
    apply receives.inBuf
    intro none
    rw [none, Nat.zero_div] at some
    exact some rfl
  · rintro event (⟨call, reply, rfl⟩ | ⟨buf, -, rfl⟩) csw
    · simp
    · simp

/-- When bytes are missing, the packet that is asked for arrives. -/
theorem Receives.next (write : cbw.isWrite)
    (receives : Receives cbw count machine)
    (more : count + machine.usbcmd.rxGiveback.actual < cbw.writeSize)
    {response : Machine σ} (shape : rkusbHandleResponse P machine = response)
    (handled : Handled machine response) :
    csws (doRockusb P machine).log = csws machine.log ∧
      ∃ action next, (doRockusb P machine).attends action ∧
        step P (doRockusb P machine) action = some next ∧
        csws next.log = csws (doRockusb P machine).log ∧
        Receives cbw (count + machine.usbcmd.rxGiveback.actual) next ∧
        0 < next.usbcmd.rxGiveback.actual := by
  have requested := answerData_request write receives.cmnd receives.counted
    more
  obtain ⟨positive, blocks⟩ := write.nextLength_pos more receives.whole
  have bound := cbw.nextLength_le (count + machine.usbcmd.rxGiveback.actual)
  obtain ⟨lba, usbcmd⟩ := handled.usbcmd
  rw [requested.usbcmd] at usbcmd
  have quiet : response.usbcmd.Quiet := by
    rw [usbcmd]
    exact receives.quiet
  have iteration := doRockusb_response receives.idled shape receives.running
    handled.control quiet (handleCsw_other (by rw [usbcmd]; simp))
  have running : (response.perform P .fwSorageLowFormat).control = .running :=
    handled.control
  have outs : (response.perform P .fwSorageLowFormat).outs = machine.outs ++
      [⟨machine.usbcmd.rxbufNum, cbw.nextLength
        (count + machine.usbcmd.rxGiveback.actual)⟩] :=
    handled.outs.trans requested.outs
  obtain ⟨next, taken, received, still, same⟩ :=
    exists_outDone (P := P) running outs
  rw [Machine.perform_usbcmd, usbcmd] at received
  have attends : (response.perform P .fwSorageLowFormat).attends
      (.outDone machine.outs.length 0 (List.replicate (cbw.nextLength
        (count + machine.usbcmd.rxGiveback.actual)) 0)) :=
    ⟨rfl, by rw [Machine.perform_usbcmd, usbcmd]⟩
  rw [iteration]
  refine ⟨?_, _, next, attends, taken, same, ?_, ?_⟩
  · rw [Machine.perform_log, csws_append, handled.told, requested.log]
    simp [csws]
  · refine ⟨still, ?_, ?_, ?_, ?_, ⟨?_, ?_, Nat.le_of_lt more⟩, ?_, ?_, ?_⟩
    all_goals rw [received]
    · exact receives.quiet
    · exact receives.cmnd
    · exact receives.free
    · exact .inr ⟨rfl, rfl⟩
    · exact receives.counted.dSize
    · dsimp only
      omega
    · exact Nat.dvd_add receives.whole blocks
    · simp
  · rw [received]
    exact positive

theorem Receives.finishes (write : cbw.isWrite)
    (receives : Receives cbw count machine)
    (last : count + machine.usbcmd.rxGiveback.actual = cbw.writeSize)
    {response : Machine σ} (shape : rkusbHandleResponse P machine = response)
    (handled : Handled machine response) :
    csws (doRockusb P machine).log ≠ csws machine.log := by
  obtain ⟨replied, reply, sent⟩ := answerData_sent write receives.counted last
    receives.free
  obtain ⟨lba, usbcmd⟩ := handled.usbcmd
  rw [sent.usbcmd] at usbcmd
  have idled := receives.idled (P := P)
  rw [csws_doRockusb (by rw [idled, receives.running])
    (by rw [idled, shape, handled.control]), idled, shape,
    handleCsw_other (by rw [usbcmd]; simp), handled.told, sent.log, reply.log]
  simp [csws]

/-- A write leads to its status: the induction is on the bytes that are
missing. -/
theorem Receives.iterates (write : cbw.isWrite)
    (receives : Receives cbw count machine) : machine.iteratesToCsw P := by
  generalize bytes : cbw.writeSize -
    (count + machine.usbcmd.rxGiveback.actual) = missing
  induction missing using Nat.strongRecOn generalizing machine count with
  | ind missing induction =>
      have handled := receives.handled (P := P)
      have atMost := receives.atMost
      by_cases more :
          count + machine.usbcmd.rxGiveback.actual < cbw.writeSize
      · obtain ⟨silent, action, next, may, taken, same, again, some⟩ :=
          receives.next write more receives.response handled
        have smaller : cbw.writeSize -
            (count + machine.usbcmd.rxGiveback.actual +
              next.usbcmd.rxGiveback.actual) < missing := by
          omega
        have leads := (induction _ smaller again rfl).leads again.running
        exact .inr ⟨silent, leads.of_step action may taken same⟩
      · have last : count + machine.usbcmd.rxGiveback.actual =
            cbw.writeSize := Nat.le_antisymm atMost (by omega)
        exact .inl (receives.finishes write last receives.response handled)

end Writes

/-- The command bytes that `do_rockusb_cmd` knows. -/
def knownOpcodes : List Nat :=
  [kFwTestUnitReady, kFwReadFlashId, kFwTestBadBlock, kFwRead10, kFwWrite10,
    kFwErase10, kFwErase10Force, kFwLbaRead10, kFwLbaWrite10,
    kFwEraseSysDisk, kFwReadFlashInfo, kFwGetChipVer, kFwLowFormat,
    kFwSetResetFlag, kFwReset]

/-- A known command leaves `RKUSB_STATUS_CMD`, and any other changes nothing. -/
theorem fwDispatch_status (machine : Machine σ) :
    machine.usbcmd.cmnd ∈ knownOpcodes ∧
        (fwDispatch P machine).usbcmd.status ≠ .cmd ∨
      machine.usbcmd.cmnd ∉ knownOpcodes ∧ fwDispatch P machine = machine := by
  have known : ∀ {opcode : Nat} {next : Machine σ},
      machine.usbcmd.cmnd = opcode → opcode ∈ knownOpcodes →
      next.usbcmd.status ≠ .cmd →
      machine.usbcmd.cmnd ∈ knownOpcodes ∧ next.usbcmd.status ≠ .cmd ∨
        machine.usbcmd.cmnd ∉ knownOpcodes ∧ next = machine := by
    intro opcode next same member other
    rw [same]
    exact .inl ⟨member, other⟩
  unfold fwDispatch
  split <;> rename_i opcode
  · exact known opcode (by decide) (by rw [fwTestUnitReady_status]; simp)
  · exact known opcode (by decide) (by simp [fwReadID])
  · exact known opcode (by decide) (by simp [fwTestBadBlock])
  · exact known opcode (by decide) (by simp [fwRead10])
  · exact known opcode (by decide) (by simp [fwWrite10])
  · exact known opcode (by decide) (by rw [fwErase10, erase_status]; simp)
  · exact known opcode (by decide) (by rw [fwErase10Force, erase_status]; simp)
  · exact known opcode (by decide) (by simp [fwLBARead10])
  · exact known opcode (by decide) (by simp [fwLBAWrite10])
  · exact known opcode (by decide) (by simp [fwLowFormatSysDisk])
  · exact known opcode (by decide) (by simp [fwGetFlashInfo])
  · exact known opcode (by decide) (by simp [fwGetChipVer])
  · exact known opcode (by decide) (by simp [fwLowFormat])
  · exact known opcode (by decide) (by simp [fwSetResetFlag])
  · exact known opcode (by decide) (by simp [fwReset])
  · refine .inr ⟨?_, rfl⟩
    simp only [knownOpcodes, List.mem_cons, List.not_mem_nil, or_false, not_or]
    exact ⟨‹_›, ‹_›, ‹_›, ‹_›, ‹_›, ‹_›, ‹_›, ‹_›, ‹_›, ‹_›, ‹_›, ‹_›, ‹_›, ‹_›,
      ‹_›⟩

theorem csws_dispatched {permitted : Call → Prop}
    (dispatched : Dispatched P permitted machine after) :
    csws after.log = csws machine.log := by
  refine dispatched.extends.csws ?_
  rintro event fill csw rfl
  exact fill

theorem doRockusb_cmd (cmd : machine.usbcmd.status = .cmd)
    (running : machine.control = .running) :
    doRockusb P machine = endOfIteration P machine := by
  have idled : handleIdle P machine = machine :=
    handleIdle_busy (.inl (by simp [cmd]))
  have waits : rkusbHandleResponse P machine = machine := by
    simp [rkusbHandleResponse, cmd]
  rw [doRockusb_eq (by rw [idled, running]) (by rw [idled, waits, running]),
    idled, waits, handleCsw_other (by simp [cmd])]

/-- Only an event of the bus takes the loop out of `RKUSB_STATUS_CMD`. -/
theorem step_cmd {action : Action} (cmd : machine.usbcmd.status = .cmd)
    (quiet : ∀ nEvent, action ≠ .bus nEvent)
    (taken : step P machine action = some after) :
    after.usbcmd.status = .cmd ∧ csws after.log = csws machine.log := by
  cases action with
  | iterate =>
      have running := step_running taken
      obtain rfl := step_iterate taken
      rw [doRockusb_cmd cmd running]
      have checked := Checked.endOfIteration (P := P) machine
      obtain ⟨flag, usbcmd⟩ := checked.usbcmd
      refine ⟨by rw [usbcmd]; exact cmd, checked.log.csws ?_⟩
      rintro event ⟨call, reply, rfl, -⟩ csw
      simp
  | inDone index status actual =>
      obtain ⟨transfer, -, rfl⟩ := step_inDone taken
      exact ⟨cmd, by simp [completeIn, csws]⟩
  | outDone index status packet =>
      obtain ⟨transfer, -, -, rfl⟩ := step_outDone taken
      exact ⟨cmd, by simp [completeOut, csws]⟩
  | outDrop index =>
      obtain rfl := step_outDrop taken
      exact ⟨cmd, rfl⟩
  | bus nEvent => exact absurd rfl (quiet nEvent)

theorem stays_cmd (cmd : machine.usbcmd.status = .cmd) {actions : List Action}
    (run : Run (step P) (fun _ action => ∀ nEvent, action ≠ .bus nEvent)
      machine actions after) :
    after.usbcmd.status = .cmd ∧ csws after.log = csws machine.log := by
  induction run with
  | nil => exact ⟨cmd, rfl⟩
  | snoc _ quiet taken induction =>
      obtain ⟨still, same⟩ := step_cmd induction.1 quiet taken
      exact ⟨still, same.trans induction.2⟩

/-- The packet in the receive buffer will be taken for a command. -/
structure PacketWaits (buf : Fin 2) (cbw : CbWrap) (machine : Machine σ) :
    Prop where
  running : machine.control = .running
  idle : machine.usbcmd.status = .idle
  received : 0 < machine.usbcmd.rxGiveback.actual
  inBuf : machine.usbcmd.rxGiveback.buf = some buf
  packet : CbWrap.ofBuffer (machine.rxBuffer buf) = cbw

section Waits

variable {buf : Fin 2}

theorem PacketWaits.handleIdle (waits : PacketWaits buf cbw machine) :
    handleIdle P machine = fwDispatch P (machine.accept buf) :=
  handleIdle_packet waits.idle waits.received waits.inBuf

theorem PacketWaits.cmnd (waits : PacketWaits buf cbw machine) :
    (machine.accept buf).usbcmd.cmnd = cbw.opcode :=
  congrArg CbWrap.opcode waits.packet

theorem csws_accept (machine : Machine σ) (buf : Fin 2) :
    csws (machine.accept buf).log = csws machine.log := by
  simp [Machine.accept, csws]

theorem PacketWaits.started (waits : PacketWaits buf cbw machine) :
    (Rockusb.handleIdle P machine).control = .running ∧
      csws (Rockusb.handleIdle P machine).log = csws machine.log := by
  have dispatched := fwDispatch_any (P := P) (machine.accept buf)
  rw [waits.handleIdle, dispatched.control, csws_dispatched dispatched,
    csws_accept]
  exact ⟨waits.running, rfl⟩

theorem PacketWaits.iterates_read (waits : PacketWaits buf cbw machine)
    (quiet : machine.usbcmd.Quiet) (read : cbw.isRead)
    (some : 0 < cbw.nsectors) : machine.iteratesToCsw P := by
  have prepared : Rockusb.handleIdle P machine =
      machine.readPrepared buf cbw.readBlock := by
    rw [waits.handleIdle]
    exact fwDispatch_read read waits.cmnd
  obtain ⟨running, silent⟩ := waits.started (P := P)
  rw [prepared] at running silent
  have reads : (Rockusb.handleIdle P machine).iteratesToCsw P := by
    rw [prepared]
    exact Rockusb.iterates_read running quiet rfl
      (readPrepared_reading waits.packet read some)
  refine reads.of_idled ?_ ?_
  · rw [prepared]
    simp [Machine.readPrepared]
  · rw [prepared, silent]

theorem PacketWaits.iterates_write (waits : PacketWaits buf cbw machine)
    (quiet : machine.usbcmd.Quiet)
    (free : machine.usbcmd.txGiveback.status = .sendFinishedOk)
    (write : cbw.isWrite) : machine.iteratesToCsw P := by
  obtain ⟨mode, prepared, -⟩ := fwDispatch_write (P := P) write
    waits.packet waits.cmnd
  rw [← waits.handleIdle] at prepared
  have receives : Receives cbw 0 (Rockusb.handleIdle P machine) := by
    rw [prepared]
    refine ⟨waits.running, quiet, waits.cmnd, free, .inl rfl, ⟨?_, rfl,
      Nat.zero_le _⟩, ?_, ?_, ?_⟩
    · simp only [Machine.prepareWrite_usbcmd, Machine.update_usbcmd]
      rw [show (machine.accept buf).usbcmd.cbw = cbw from waits.packet]
      rfl
    · simp
    · simp
    · simp
  refine (receives.iterates write).of_idled ?_ waits.started.2
  rw [prepared]
  simp

/-- What neither reads nor writes the media is answered by a status or by one
block of data. -/
theorem PacketWaits.iterates_other (waits : PacketWaits buf cbw machine)
    (quiet : machine.usbcmd.Quiet)
    (free : machine.usbcmd.txGiveback.status = .sendFinishedOk)
    (known : cbw.opcode ∈ knownOpcodes) (read : ¬cbw.isRead)
    (write : ¬cbw.isWrite) : machine.iteratesToCsw P := by
  have dispatched := fwDispatch_any (P := P) (machine.accept buf)
  obtain ⟨running, silent⟩ := waits.started (P := P)
  have acts := fwDispatch_status (P := P) (machine.accept buf)
  rw [waits.cmnd, ← waits.handleIdle] at acts
  obtain ⟨-, other⟩ := acts.resolve_right fun unknown =>
    absurd known unknown.1
  rw [← waits.handleIdle] at dispatched
  generalize next : Rockusb.handleIdle P machine = started
    at dispatched other running silent
  have iterates : started.usbcmd.status ≠ .idle ∧ started.iteratesToCsw P := by
    cases dispatched with
    | unknown => exact absurd rfl other
    | answered answers csw =>
        have sent : started.usbcmd.txGiveback.status = .sendFinishedOk := by
          obtain ⟨_, _, _, _, usbcmd⟩ := answers.usbcmd
          rw [usbcmd]
          exact free
        exact ⟨by simp [csw], iterates_csw running csw sent⟩
    | data _ txdata flag =>
        have still : started.usbcmd.Quiet := by
          rw [CmdRockusbInterface.Quiet, flag]
          exact quiet
        exact ⟨by simp [txdata], iterates_txdata running still txdata⟩
    | read isRead =>
        rw [waits.cmnd] at isRead
        exact absurd isRead read
    | write isWrite =>
        rw [waits.cmnd] at isWrite
        exact absurd isWrite write
  rw [← next] at iterates silent
  exact iterates.2.of_idled iterates.1 silent

/-- A known command that names some blocks, if it reads, leads to its status. -/
theorem PacketWaits.leads (waits : PacketWaits buf cbw machine)
    (quiet : machine.usbcmd.Quiet)
    (free : machine.usbcmd.txGiveback.status = .sendFinishedOk)
    (known : cbw.opcode ∈ knownOpcodes)
    (some : cbw.isRead → 0 < cbw.nsectors) : machine.leadsToCsw P := by
  refine Machine.iteratesToCsw.leads ?_ waits.running
  by_cases read : cbw.isRead
  · exact waits.iterates_read quiet read (some read)
  · by_cases write : cbw.isWrite
    · exact waits.iterates_write quiet free write
    · exact waits.iterates_other quiet free known read write

theorem PacketWaits.hangs (waits : PacketWaits buf cbw machine)
    (read : cbw.isRead) (none : cbw.nsectors = 0) :
    (doRockusb P machine).control = .hung ∧
      csws (doRockusb P machine).log = csws machine.log := by
  have prepared : Rockusb.handleIdle P machine =
      machine.readPrepared buf cbw.readBlock :=
    waits.handleIdle.trans (fwDispatch_read read waits.cmnd)
  have size : (machine.readPrepared buf cbw.readBlock).usbcmd.uSize = 0 := by
    simp [Machine.readPrepared, Machine.accept, waits.packet, none]
  have hung : rkusbHandleResponse P (machine.readPrepared buf cbw.readBlock) =
      { machine.readPrepared buf cbw.readBlock with control := .hung } := by
    rw [← handleDatatx_empty (P := P) size rfl]
    exact rkusbHandleResponse_datatx rfl (.inl rfl)
  have shape : doRockusb P machine =
      { machine.readPrepared buf cbw.readBlock with control := .hung } := by
    rw [doRockusb, prepared, Machine.andThen]
    simp only [hung]
    exact if_pos waits.running
  rw [shape]
  exact ⟨rfl, csws_accept machine buf⟩

theorem PacketWaits.unknown (waits : PacketWaits buf cbw machine)
    (unknown : cbw.opcode ∉ knownOpcodes) :
    (doRockusb P machine).usbcmd.status = .cmd ∧
      csws (doRockusb P machine).log = csws machine.log := by
  have idled := waits.handleIdle (P := P)
  have acts := fwDispatch_status (P := P) (machine.accept buf)
  rw [waits.cmnd, ← idled] at acts
  obtain ⟨-, same⟩ := acts.resolve_left fun known => absurd known.1 unknown
  have cmd : (Rockusb.handleIdle P machine).usbcmd.status = .cmd := by
    rw [same]
    rfl
  have running : (Rockusb.handleIdle P machine).control = .running := by
    rw [same]
    exact waits.running
  obtain ⟨still, silent⟩ := step_cmd cmd (fun _ => by simp)
    (step_of_running (P := P) running)
  rw [doRockusb_idled (by rw [cmd]; simp)] at still silent
  refine ⟨still, silent.trans ?_⟩
  rw [same, csws_accept]

/-- The packet waits until it is taken for a command that gets stuck. -/
theorem PacketWaits.step (waits : PacketWaits buf cbw machine)
    (stuck : cbw.opcode ∉ knownOpcodes ∨ cbw.isRead ∧ cbw.nsectors = 0)
    {action : Action} (may : machine.attends action)
    (taken : Rockusb.step P machine action = some after) :
    (PacketWaits buf cbw after ∨ after.usbcmd.status = .cmd ∨
        after.control = .hung) ∧ csws after.log = csws machine.log := by
  cases action with
  | iterate =>
      obtain rfl := step_iterate taken
      rcases stuck with unknown | ⟨read, none⟩
      · obtain ⟨cmd, silent⟩ := waits.unknown (P := P) unknown
        exact ⟨.inr (.inl cmd), silent⟩
      · obtain ⟨hung, silent⟩ := waits.hangs (P := P) read none
        exact ⟨.inr (.inr hung), silent⟩
  | inDone index status actual =>
      obtain ⟨transfer, -, rfl⟩ := step_inDone taken
      exact ⟨.inl ⟨waits.running, waits.idle, waits.received, waits.inBuf,
        waits.packet⟩, by simp [completeIn, csws]⟩
  | outDone index status packet =>
      have data := may.2
      rw [waits.idle] at data
      cases data
  | outDrop => exact may.elim
  | bus => exact may.elim

end Waits

end KernelDrivers.Rockusb
