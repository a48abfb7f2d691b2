import KernelDrivers.Rockusb.Loop

/-!
# One iteration, phase by phase

The iteration of `do_rockusb` split at its tests, and what the status stage
and the end of an iteration do.
-/

namespace KernelDrivers.Rockusb

open KernelDrivers.Library

variable {σ : Type} {P : Platform σ} {machine : Machine σ}

/-- The payloads handed to `rkusb_write_bulk_ep`, in order. -/
def payloads (log : List (Event σ)) : List (List UInt8) :=
  log.filterMap fun event =>
    match event with
    | .bulkIn _ payload => some payload
    | _ => none

/-- The status wrappers sent, in order. -/
def csws (log : List (Event σ)) : List CsWrap :=
  log.filterMap fun event =>
    match event with
    | .csw csw => some csw
    | _ => none

/-- The platform calls made, with their replies, in order. -/
def calls (log : List (Event σ)) : List (Call × Reply) :=
  log.filterMap fun event =>
    match event with
    | .call call reply => some (call, reply)
    | _ => none

@[simp] theorem payloads_append (first second : List (Event σ)) :
    payloads (first ++ second) = payloads first ++ payloads second :=
  List.filterMap_append

@[simp] theorem csws_append (first second : List (Event σ)) :
    csws (first ++ second) = csws first ++ csws second :=
  List.filterMap_append

theorem csws_ne_nil {log events : List (Event σ)}
    (answered : csws (log ++ events) ≠ csws log) : csws events ≠ [] := by
  intro none
  rw [csws_append, none, List.append_nil] at answered
  exact answered rfl

@[simp] theorem calls_append (first second : List (Event σ)) :
    calls (first ++ second) = calls first ++ calls second :=
  List.filterMap_append

/-- Calls and buffer accesses: nothing that the host sees. -/
def Event.isInner : Event σ → Bool
  | .call .. => true
  | .txStore .. => true
  | .rxLoad .. => true
  | .hit .. => true
  | _ => false

theorem payloads_inner {log : List (Event σ)}
    (inner : ∀ event ∈ log, event.isInner = true) : payloads log = [] := by
  apply List.filterMap_eq_nil_iff.mpr
  intro event member
  have isInner := inner event member
  cases event <;> simp_all [Event.isInner]

theorem csws_inner {log : List (Event σ)}
    (inner : ∀ event ∈ log, event.isInner = true) : csws log = [] := by
  apply List.filterMap_eq_nil_iff.mpr
  intro event member
  have isInner := inner event member
  cases event <;> simp_all [Event.isInner]

/-- No reset and no loader lock is pending, as at the head of the loop. -/
def CmdRockusbInterface.Quiet (usbcmd : CmdRockusbInterface) : Prop :=
  usbcmd.resetFlag ≠ 0x03 ∧ usbcmd.resetFlag ≠ 0x10 ∧
    usbcmd.resetFlag ≠ 0xFF ∧ usbcmd.resetFlag ≠ 0x01

instance (usbcmd : CmdRockusbInterface) : Decidable usbcmd.Quiet :=
  inferInstanceAs (Decidable (_ ∧ _))

theorem rkusbResetCheck_quiet (quiet : machine.usbcmd.Quiet) :
    rkusbResetCheck P machine = machine := by
  obtain ⟨maskrom, lock, reboot, system⟩ := quiet
  unfold rkusbResetCheck
  split
  · exact absurd ‹_› maskrom
  · exact absurd ‹_› lock
  · exact absurd ‹_› reboot
  · exact absurd ‹_› system
  · rfl

theorem endOfIteration_quiet (running : machine.control = .running)
    (quiet : machine.usbcmd.Quiet) :
    endOfIteration P machine = machine.perform P .fwSorageLowFormat := by
  rw [endOfIteration, rkusbResetCheck_quiet quiet, Machine.andThen,
    if_pos running]

theorem handleIdle_busy
    (busy : machine.usbcmd.status ≠ .idle ∨
      machine.usbcmd.rxGiveback.actual = 0) :
    handleIdle P machine = machine := by
  rw [handleIdle, if_neg]
  rintro ⟨idle, packet⟩
  rcases busy with busy | empty
  · exact busy idle
  · omega

theorem doRockusb_eq (running : (handleIdle P machine).control = .running)
    (returned : (rkusbHandleResponse P (handleIdle P machine)).control =
      .running) :
    doRockusb P machine = endOfIteration P
      (handleCsw (rkusbHandleResponse P (handleIdle P machine))) := by
  rw [doRockusb, Machine.andThen, if_pos running, Machine.andThen,
    if_pos returned]

/-- What the idle test does with the packet in the receive buffer. -/
def Machine.accept (machine : Machine σ) (buf : Fin 2) : Machine σ :=
  (machine.setStatus .cmd).takeCbw buf

theorem handleIdle_packet (idle : machine.usbcmd.status = .idle)
    (packet : 0 < machine.usbcmd.rxGiveback.actual) {buf : Fin 2}
    (inBuf : machine.usbcmd.rxGiveback.buf = some buf) :
    handleIdle P machine = fwDispatch P (machine.accept buf) := by
  rw [handleIdle, if_pos ⟨idle, packet⟩, doRockusbCmd]
  simp only [Machine.setStatus_usbcmd, inBuf]
  rfl

theorem handleIdle_fault (idle : machine.usbcmd.status = .idle)
    (packet : 0 < machine.usbcmd.rxGiveback.actual)
    (noBuf : machine.usbcmd.rxGiveback.buf = none) :
    handleIdle P machine =
      { machine.setStatus .cmd with control := .fault } := by
  rw [handleIdle, if_pos ⟨idle, packet⟩, doRockusbCmd]
  simp only [Machine.setStatus_usbcmd, noBuf]

/-- The idle test finds no packet, one without a buffer, or a command. -/
theorem handleIdle_cases (machine : Machine σ) :
    handleIdle P machine = machine ∨
      handleIdle P machine =
        { machine.setStatus .cmd with control := .fault } ∨
      ∃ buf, machine.usbcmd.status = .idle ∧
        0 < machine.usbcmd.rxGiveback.actual ∧
        machine.usbcmd.rxGiveback.buf = some buf ∧
        handleIdle P machine = fwDispatch P (machine.accept buf) := by
  by_cases packet : machine.usbcmd.status = .idle ∧
      0 < machine.usbcmd.rxGiveback.actual
  · obtain ⟨idle, received⟩ := packet
    cases inBuf : machine.usbcmd.rxGiveback.buf with
    | none => exact .inr (.inl (handleIdle_fault idle received inBuf))
    | some buf =>
        exact .inr (.inr ⟨buf, idle, received, rfl,
          handleIdle_packet idle received inBuf⟩)
  · exact .inl (by rw [handleIdle, if_neg packet])

/-- The status wrapper that `rkusb_send_csw` completes and sends. -/
def Machine.pendingCsw (machine : Machine σ) : CsWrap :=
  { machine.usbcmd.csw with
    signature := usbBulkCsSig
    tag := machine.usbcmd.cbw.tag }

theorem rkusbSendCsw_busy
    (busy : machine.usbcmd.txGiveback.status ≠ .sendFinishedOk) :
    rkusbSendCsw machine = machine := by
  rw [rkusbSendCsw, if_pos busy]

/-- The state after `rkusb_send_csw` has queued the status wrapper. -/
structure CswSent (before after : Machine σ) : Prop where
  usbcmd : after.usbcmd =
    { before.usbcmd with
      csw := before.pendingCsw
      txGiveback := ⟨.sendInProgress, 0, none⟩
      rxGiveback := ⟨.recvReady, 0, none⟩
      txbufNum := before.usbcmd.txbufNum + 1
      rxbufNum := before.usbcmd.rxbufNum + 1
      status := .idle }
  rxBuffer : after.rxBuffer = before.rxBuffer
  others : ∀ buf, buf ≠ before.usbcmd.txbufNum →
    after.txBuffer buf = before.txBuffer buf
  ins : after.ins = before.ins ++ [⟨before.usbcmd.txbufNum, 13⟩]
  outs : after.outs = before.outs ++ [⟨before.usbcmd.rxbufNum, 31⟩]
  platform : after.platform = before.platform
  control : after.control = before.control
  log : after.log = before.log ++
    [.txStore before.usbcmd.txbufNum (before.ins.map Transfer.buf),
      .csw before.pendingCsw,
      .bulkIn before.usbcmd.txbufNum before.pendingCsw.bytes,
      .bulkOut before.usbcmd.rxbufNum 31]

theorem rkusbSendCsw_ready
    (ready : machine.usbcmd.txGiveback.status = .sendFinishedOk) :
    CswSent machine (rkusbSendCsw machine) := by
  have stored :
      ((machine.txBuffer machine.usbcmd.txbufNum).storeList 0
        machine.pendingCsw.bytes).bytes 0 13 = machine.pendingCsw.bytes :=
    Memory.bytes_storeList machine.pendingCsw.bytes
  have others (buf : Fin 2) (different : buf ≠ machine.usbcmd.txbufNum) :
      (rkusbSendCsw machine).txBuffer buf = machine.txBuffer buf := by
    simp [rkusbSendCsw, ready, different]
  refine ⟨?_, ?_, others, ?_, ?_, ?_, ?_, ?_⟩
  all_goals simp [rkusbSendCsw, ready, Machine.pendingCsw]
  simpa [Memory.storeList, Machine.pendingCsw] using stored

theorem rkusbSendCsw_cases (machine : Machine σ) :
    CswSent machine (rkusbSendCsw machine) ∨ rkusbSendCsw machine = machine := by
  by_cases ready : machine.usbcmd.txGiveback.status = .sendFinishedOk
  · exact .inl (rkusbSendCsw_ready ready)
  · exact .inr (rkusbSendCsw_busy ready)

theorem handleCsw_other (other : machine.usbcmd.status ≠ .csw) :
    handleCsw machine = machine := by
  rw [handleCsw, if_neg other]

/-- An iteration without a status stage ends with the low-format check. -/
theorem doRockusb_response {idle response : Machine σ}
    (first : handleIdle P machine = idle)
    (second : rkusbHandleResponse P idle = response)
    (idleRunning : idle.control = .running)
    (running : response.control = .running)
    (quiet : response.usbcmd.Quiet)
    (noCsw : handleCsw response = response) :
    doRockusb P machine = response.perform P .fwSorageLowFormat := by
  subst first
  subst second
  rw [doRockusb_eq idleRunning running, noCsw,
    endOfIteration_quiet running quiet]

/-- An iteration that finds no packet and leaves a transfer under way: only
the response and the low-format check happen. -/
theorem doRockusb_pending {idle response : Machine σ}
    (first : handleIdle P machine = idle)
    (second : rkusbHandleResponse P idle = response)
    (idleRunning : idle.control = .running)
    (running : response.control = .running)
    (quiet : response.usbcmd.Quiet)
    (pending : response.usbcmd.txGiveback.status = .sendInProgress) :
    doRockusb P machine = response.perform P .fwSorageLowFormat := by
  refine doRockusb_response first second idleRunning running quiet ?_
  unfold handleCsw
  split
  · exact rkusbSendCsw_busy (by simp [pending])
  · rfl

/-- A command whose handler replies at once: the CSW is sent if the IN endpoint
is free. -/
theorem doRockusb_replied {replied : Machine σ}
    (first : handleIdle P machine = replied)
    (status : replied.usbcmd.status = .csw)
    (running : replied.control = .running) (quiet : replied.usbcmd.Quiet)
    (free : replied.usbcmd.txGiveback.status = .sendFinishedOk) :
    ∃ sent, CswSent replied sent ∧
      doRockusb P machine = sent.perform P .fwSorageLowFormat := by
  have waits : rkusbHandleResponse P replied = replied := by
    simp [rkusbHandleResponse, status]
  have sent := rkusbSendCsw_ready free
  refine ⟨_, sent, ?_⟩
  have stays : (rkusbSendCsw replied).control = .running := by
    rw [sent.control, running]
  have silent : (rkusbSendCsw replied).usbcmd.Quiet := by
    rw [sent.usbcmd]
    exact quiet
  rw [doRockusb_eq (by rw [first, running])
    (by rw [first, waits, running]), first, waits, handleCsw,
    if_pos status, endOfIteration_quiet stays silent]

/-- A command whose reply is ready: the CSW is sent when the IN endpoint is
free. -/
theorem doRockusb_csw (status : machine.usbcmd.status = .csw)
    (running : machine.control = .running) (quiet : machine.usbcmd.Quiet)
    (free : machine.usbcmd.txGiveback.status = .sendFinishedOk) :
    ∃ sent, CswSent machine sent ∧
      doRockusb P machine = sent.perform P .fwSorageLowFormat :=
  doRockusb_replied (handleIdle_busy (by simp [status])) status running quiet
    free

theorem doRockusb_idle (status : machine.usbcmd.status = .idle)
    (empty : machine.usbcmd.rxGiveback.actual = 0)
    (running : machine.control = .running) (quiet : machine.usbcmd.Quiet) :
    doRockusb P machine = machine.perform P .fwSorageLowFormat := by
  have waits : rkusbHandleResponse P machine = machine := by
    simp [rkusbHandleResponse, status]
  exact doRockusb_response (handleIdle_busy (.inr empty)) waits running running
    quiet (handleCsw_other (by simp [status]))

theorem only_transfer {transfers : List Transfer} {only transfer : Transfer}
    {index : Nat} (posted : transfers = [only])
    (outstanding : transfers[index]? = some transfer) :
    transfer = only ∧ transfers.eraseIdx index = [] := by
  subst posted
  cases index with
  | zero => exact ⟨(Option.some.inj outstanding).symm, rfl⟩
  | succ index => cases outstanding

section Steps

variable {next : Machine σ}

theorem step_running {action : Action}
    (taken : step P machine action = some next) :
    machine.control = .running := by
  unfold step at taken
  split at taken
  · cases taken
  · exact not_not.mp ‹_›

theorem step_iterate (taken : step P machine .iterate = some next) :
    next = doRockusb P machine := by
  unfold step at taken
  split at taken
  · cases taken
  · exact (Option.some.inj taken).symm

theorem step_of_running (running : machine.control = .running) :
    step P machine .iterate = some (doRockusb P machine) := by
  rw [step, if_neg (not_not.mpr running)]

theorem step_bus {nEvent : Int}
    (taken : step P machine (.bus nEvent) = some next) :
    next = rkusbEventHandlerForDwc3 machine nEvent := by
  unfold step at taken
  split at taken
  · cases taken
  · exact (Option.some.inj taken).symm

theorem step_outDrop {index : Nat}
    (taken : step P machine (.outDrop index) = some next) :
    next = { machine with outs := machine.outs.eraseIdx index } := by
  unfold step at taken
  split at taken
  · cases taken
  · dsimp only at taken
    split at taken
    · exact (Option.some.inj taken).symm
    · cases taken

theorem step_inDone_fits {index actual : Nat} {status : Int}
    (taken : step P machine (.inDone index status actual) = some next) :
    ∃ transfer, machine.ins[index]? = some transfer ∧
      actual ≤ transfer.len ∧
      next = completeIn machine index transfer status actual := by
  unfold step at taken
  split at taken
  · cases taken
  · dsimp only at taken
    split at taken
    · cases taken
    · split at taken
      · exact ⟨_, ‹_›, ‹_›, (Option.some.inj taken).symm⟩
      · cases taken

theorem step_inDone {index actual : Nat} {status : Int}
    (taken : step P machine (.inDone index status actual) = some next) :
    ∃ transfer, machine.ins[index]? = some transfer ∧
      next = completeIn machine index transfer status actual := by
  obtain ⟨transfer, outstanding, -, shape⟩ := step_inDone_fits taken
  exact ⟨transfer, outstanding, shape⟩

theorem step_outDone {index : Nat} {status : Int} {packet : List UInt8}
    (taken : step P machine (.outDone index status packet) = some next) :
    ∃ transfer, machine.outs[index]? = some transfer ∧
      packet.length ≤ transfer.len ∧
      next = completeOut machine index transfer status packet := by
  unfold step at taken
  split at taken
  · cases taken
  · dsimp only at taken
    split at taken
    · cases taken
    · split at taken
      · exact ⟨_, ‹_›, ‹_›, (Option.some.inj taken).symm⟩
      · cases taken

end Steps

end KernelDrivers.Rockusb
