import KernelDrivers.Rockusb.Status

/-!
# The residue of a status

The data stages put the `DataTransferLength` of the command into the residue,
with its bytes reversed, and look at nothing that was counted.
-/

namespace KernelDrivers.Rockusb

open KernelDrivers.Library

variable {σ : Type} {P : Platform σ} {machine start : Machine σ}
variable {cbw : CbWrap} {actions : List Action}

/-- The IN transfer of a status is the one of 13 bytes. -/
def Transfer.isCsw (transfer : Transfer) : Prop :=
  transfer.len = 13

instance (transfer : Transfer) : Decidable transfer.isCsw :=
  inferInstanceAs (Decidable (_ = _))

/-- The bytes of data that the command moves in an action, as the UDC reports
them. -/
def CbWrap.moves (cbw : CbWrap) (machine : Machine σ) : Action → Nat
  | .inDone index _ actual =>
      if cbw.isRead ∧ ∃ transfer ∈ machine.ins[index]?, ¬transfer.isCsw then
        actual
      else 0
  | .outDone index _ packet =>
      if cbw.isWrite ∧ ∃ transfer ∈ machine.outs[index]?, ¬transfer.isCbw then
        packet.length
      else 0
  | _ => 0

/-- The bytes that a transfer of data to the host was posted for, but did not
carry when it completed. -/
def CbWrap.lacks (cbw : CbWrap) (machine : Machine σ) : Action → Nat
  | .inDone index _ actual =>
      if cbw.isRead then
        match machine.ins[index]? with
        | some transfer =>
            if transfer.isCsw then 0 else transfer.len - actual
        | none => 0
      else 0
  | _ => 0

/-- The number of bytes that the sector count of the command stands for. -/
def CbWrap.dataSize (cbw : CbWrap) : Nat :=
  cbw.nsectors * if cbw.isRead then cbw.readBlock else cbw.writeBlock

/-- The residue is what has not been transferred of `DataTransferLength`. -/
def ResidueExact (cbw : CbWrap) (moved : Nat) (csw : CsWrap) : Prop :=
  csw.residue + moved = cbw.dataTransferLength

/-- The command announces `DataTransferLength` bytes and asks for `dataSize`
of them; `lacking` is what the transfers to the host fell short of that. -/
def ResidueSound (cbw : CbWrap) (lacking : Nat) : Prop :=
  byteSwap32 cbw.dataTransferLength + cbw.dataSize =
    cbw.dataTransferLength + lacking

/-- The residue that the data stages set. -/
def CmdRockusbInterface.setResidue (usbcmd : CmdRockusbInterface) : Nat :=
  byteSwap32 usbcmd.cbw.dataTransferLength

/-- The wrapper that waits to be sent has this residue, and so have those that
were sent. -/
structure Residual (before after : Machine σ) : Prop where
  cbw : after.usbcmd.cbw = before.usbcmd.cbw
  waiting : after.usbcmd.status = .csw →
    after.usbcmd.csw.residue = after.usbcmd.setResidue
  log : ∃ events, after.log = before.log ++ events ∧
    ∀ csw ∈ csws events, csw.residue = before.usbcmd.setResidue

namespace Residual

variable {before middle after : Machine σ}

theorem trans (first : Residual before middle)
    (second : Residual middle after) : Residual before after := by
  obtain ⟨events, log, told⟩ := first.log
  obtain ⟨events', log', told'⟩ := second.log
  refine ⟨second.cbw.trans first.cbw, second.waiting, events ++ events',
    by rw [log', log, List.append_assoc], ?_⟩
  intro csw member
  rw [csws_append] at member
  cases List.mem_append.mp member with
  | inl old => exact told csw old
  | inr new =>
      have residue := told' csw new
      rwa [CmdRockusbInterface.setResidue, first.cbw] at residue

theorem of_silent {allowed : Event σ → Prop}
    (grown : Extends P allowed before after)
    (silent : ∀ event, allowed event → ∀ csw, event ≠ .csw csw)
    (cbw : after.usbcmd.cbw = before.usbcmd.cbw)
    (waiting : after.usbcmd.status = .csw →
      after.usbcmd.csw.residue = after.usbcmd.setResidue) :
    Residual before after := by
  obtain ⟨events, log, -, -, inside⟩ := grown
  refine ⟨cbw, waiting, events, log, ?_⟩
  intro csw member
  obtain ⟨event, inEvents, shape⟩ := List.mem_filterMap.mp member
  have quiet := silent event (inside event inEvents)
  cases event with
  | csw sent => exact absurd rfl (quiet sent)
  | _ => cases shape

theorem rkusbSendCsw
    (residue : machine.usbcmd.csw.residue = machine.usbcmd.setResidue) :
    Residual machine (rkusbSendCsw machine) := by
  rcases rkusbSendCsw_cases machine with sent | same
  · have usbcmd := sent.usbcmd
    refine ⟨by rw [usbcmd], ?_, _, sent.log, ?_⟩
    · rw [usbcmd]
      intro csw
      cases csw
    · intro csw member
      obtain rfl : csw = machine.pendingCsw := by simpa [csws] using member
      exact residue
  · rw [same]
    exact ⟨rfl, fun _ => residue, [], by simp, by simp [csws]⟩

theorem answerData (machine : Machine σ) :
    Residual machine machine.answerData := by
  have counted : machine.countData.usbcmd.cbw = machine.usbcmd.cbw ∧
      machine.countData.log = machine.log := by
    unfold Machine.countData
    dsimp only
    split <;> exact ⟨rfl, rfl⟩
  unfold Machine.answerData
  split
  · refine ⟨counted.1, ?_, [_], by rw [← counted.2]; rfl, by simp [csws]⟩
    intro csw
    cases csw
  · have replied : Residual machine
        (machine.countData.replyGood machine.countData.usbcmd.status) :=
      ⟨counted.1, fun _ => rfl, [], by simp [counted.2], by simp [csws]⟩
    exact replied.trans (rkusbSendCsw rfl)

theorem writeMedia (buf : Option (Fin 2)) (blocks : Nat)
    (waiting : machine.usbcmd.status = .csw →
      machine.usbcmd.csw.residue = machine.usbcmd.setResidue) :
    Residual machine (writeMedia P machine buf blocks) := by
  have stored := Stored.writeMedia (P := P) machine buf blocks
  obtain ⟨lba, usbcmd⟩ := stored.usbcmd
  refine of_silent stored.log ?_ (by rw [usbcmd])
    (by rw [usbcmd]; exact waiting)
  rintro event (⟨call, reply, rfl⟩ | ⟨loaded, -, rfl⟩) csw <;> simp

theorem rkusbHandleDatarx (machine : Machine σ) :
    Residual machine (rkusbHandleDatarx P machine) := by
  rw [rkusbHandleDatarx_eq]
  have answered := answerData machine
  exact answered.trans (writeMedia _ _ answered.waiting)

theorem rkusbHandleDatatx (sending : machine.usbcmd.status = .txdataPrepare) :
    Residual machine (rkusbHandleDatatx P machine) := by
  obtain ⟨next, supplied, shape⟩ :=
    rkusbHandleDatatx_supplied (P := P) machine
  obtain ⟨_, _, _, _, _, usbcmd⟩ := supplied.usbcmd
  have status : next.usbcmd.status ≠ .csw := by
    rw [usbcmd]
    simp [sending]
  have silent : ∀ event : Event σ, event.isSending → ∀ csw,
      event ≠ .csw csw := by
    rintro event sends csw rfl
    exact sends
  have sent : Residual machine next := by
    refine of_silent supplied.log silent (by rw [usbcmd]) ?_
    exact fun csw => absurd csw status
  rcases shape with same | ended | hung
  · rw [same]
    exact sent
  · rw [ended]
    exact sent.trans ⟨rfl, fun _ => rfl, [], by simp, by simp [csws]⟩
  · rw [hung]
    exact ⟨sent.cbw, sent.waiting, sent.log⟩

theorem handleResponse (waiting : machine.usbcmd.status = .csw →
      machine.usbcmd.csw.residue = machine.usbcmd.setResidue) :
    Residual machine (rkusbHandleResponse P machine) := by
  have unchanged : Residual machine machine :=
    ⟨rfl, waiting, [], by simp, by simp [csws]⟩
  unfold rkusbHandleResponse
  split
  · exact ⟨rfl, fun _ => rfl, [_], rfl, by simp [csws]⟩
  · split
    · exact rkusbHandleDatarx machine
    · exact unchanged
  · exact rkusbHandleDatarx machine
  · rename_i status
    split
    · exact rkusbHandleDatatx status
    · exact unchanged
  · exact unchanged

theorem handleCsw (waiting : machine.usbcmd.status = .csw →
      machine.usbcmd.csw.residue = machine.usbcmd.setResidue) :
    Residual machine (handleCsw machine) := by
  unfold Rockusb.handleCsw
  split
  · exact rkusbSendCsw (waiting ‹_›)
  · exact ⟨rfl, waiting, [], by simp, by simp [csws]⟩

theorem endOfIteration (waiting : machine.usbcmd.status = .csw →
      machine.usbcmd.csw.residue = machine.usbcmd.setResidue) :
    Residual machine (endOfIteration P machine) := by
  have checked := Checked.endOfIteration (P := P) machine
  obtain ⟨flag, usbcmd⟩ := checked.usbcmd
  refine of_silent checked.log ?_ (by rw [usbcmd])
    (by rw [usbcmd]; exact waiting)
  rintro event ⟨call, reply, rfl, -⟩ csw
  simp

theorem doRockusb (waiting : (handleIdle P machine).usbcmd.status = .csw →
      (handleIdle P machine).usbcmd.csw.residue =
        (handleIdle P machine).usbcmd.setResidue) :
    Residual (handleIdle P machine) (doRockusb P machine) := by
  have unchanged : Residual (handleIdle P machine) (handleIdle P machine) :=
    ⟨rfl, waiting, [], by simp, by simp [csws]⟩
  have responded := handleResponse (P := P) waiting
  have answered := responded.trans (handleCsw responded.waiting)
  unfold Rockusb.doRockusb
  exact Machine.andThen_of unchanged (Machine.andThen_of responded
    (answered.trans (endOfIteration answered.waiting)))

end Residual

/-- The command has been taken, and no packet is there for another. -/
structure Underway (cbw : CbWrap) (machine : Machine σ) : Prop where
  wrapper : machine.usbcmd.cbw = cbw
  none : machine.usbcmd.status ≠ .idle ∨ machine.usbcmd.rxGiveback.actual = 0

theorem ReadProgress.underway {Stable : σ → Prop} {Good : Nat → Memory → Prop}
    {chunks : List (List UInt8)} {statuses : List CsWrap}
    (progress : ReadProgress Stable Good cbw start actions machine chunks
      statuses) : Underway cbw machine := by
  obtain ⟨ahead, filled, phase, -⟩ := progress.phase
  refine ⟨progress.serving.wrapper, ?_⟩
  cases phase with
  | streaming _ _ streaming => exact .inl (by simp [streaming.status])
  | streamed _ streamed => exact .inl (by simp [streamed.status])
  | answered _ _ _ _ empty => exact .inr empty

theorem StoreProgress.underway {packets : List (List UInt8)}
    {statuses : List CsWrap}
    (progress : StoreProgress P cbw start actions machine packets statuses) :
    Underway cbw machine := by
  obtain ⟨handled, made, phase, -⟩ := progress.stage
  refine ⟨progress.served.wrapper, ?_⟩
  cases phase with
  | waiting waiting => exact .inl (by simp [waiting.status])
  | holding holding => exact .inl (by simp [holding.status])
  | answered _ empty => exact .inr empty

/-- The command asks for some blocks, or it is a write. -/
def CbWrap.answers (cbw : CbWrap) : Prop :=
  cbw.isWrite ∨ cbw.isRead ∧ 0 < cbw.nsectors

theorem CbWrap.isWrite.not_isRead (write : cbw.isWrite) : ¬cbw.isRead := by
  rintro (raw | logical)
  · rcases write with other | other <;> rw [raw] at other <;> cases other
  · rcases write with other | other <;> rw [logical] at other <;> cases other

theorem serves_write (write : cbw.isWrite)
    (run : Run (step P) cbw.serves start actions machine) :
    Run (step P) Machine.receivesData start actions machine := by
  refine run.mono ?_
  intro _ _ allowed
  rwa [CbWrap.serves, if_pos write] at allowed

theorem serves_read (read : cbw.isRead)
    (run : Run (step P) cbw.serves start actions machine) :
    Run (step P) (fun _ action => action.servesRead) start actions machine := by
  refine run.mono ?_
  intro _ _ allowed
  rwa [CbWrap.serves, if_neg fun write => write.not_isRead read] at allowed

theorem readProgress_any (read : cbw.isRead) (some : 0 < cbw.nsectors)
    (received : CommandReceived cbw start)
    (run : Run (step P) cbw.serves start actions machine) :
    (actions = [] ∧ machine = start) ∨ ∃ chunks statuses,
      ReadProgress (fun _ => True) (fun _ _ => True) cbw start actions machine
        chunks statuses :=
  readProgress_of_run read some received trivial (fillsGood_any P cbw)
    (fun _ => trivial) (serves_read read run)

theorem underway_of_run (answers : cbw.answers)
    (received : CommandReceived cbw start)
    (run : Run (step P) cbw.serves start actions machine) :
    machine = start ∨ Underway cbw machine := by
  rcases answers with write | ⟨read, some⟩
  · rcases storeProgress_of_run write received (serves_write write run) with
      ⟨-, same⟩ | ⟨statuses, progress⟩
    · exact .inl same
    · exact .inr progress.underway
  · rcases readProgress_any read some received run with
      ⟨-, same⟩ | ⟨chunks, statuses, progress⟩
    · exact .inl same
    · exact .inr progress.underway

/-- The first iteration takes the command and prepares its data stage. -/
theorem residual_first (answers : cbw.answers)
    (received : CommandReceived cbw start) :
    ∃ events, (doRockusb P start).log = start.log ++ events ∧
      (∀ csw ∈ csws events,
        csw.residue = byteSwap32 cbw.dataTransferLength) ∧
      ((doRockusb P start).usbcmd.status = .csw →
        (doRockusb P start).usbcmd.csw.residue =
          (doRockusb P start).usbcmd.setResidue) := by
  have taken : ∃ events, (handleIdle P start).log = start.log ++ events ∧
      csws events = [] ∧ (handleIdle P start).usbcmd.cbw = cbw ∧
      (handleIdle P start).usbcmd.status ≠ .csw := by
    rcases answers with write | ⟨read, -⟩
    · have started : WriteStarted (fun _ => True) cbw start
          (handleIdle P start) :=
        writeStarted write received.running received.quiet received.idle
          received.received received.packet received.outs trivial
      obtain ⟨buf, log⟩ := started.log
      refine ⟨[.rxLoad buf [], .command cbw], ?_, rfl, started.serving.wrapper,
        by simp [started.prepared.status]⟩
      rw [log, List.append_assoc]
      rfl
    · obtain ⟨buf, packet, prepared⟩ := received.prepared (P := P) read
      obtain ⟨events, log, -, told, -⟩ :=
        show Emits start (start.readPrepared buf cbw.readBlock) [] [] [] from
          readPrepared_emits buf cbw.readBlock
      rw [prepared]
      exact ⟨events, log, told, packet, by simp [Machine.readPrepared]⟩
  obtain ⟨events, log, none, wrapper, status⟩ := taken
  have residual : Residual (handleIdle P start) (doRockusb P start) :=
    .doRockusb fun csw => absurd csw status
  obtain ⟨events', log', told⟩ := residual.log
  refine ⟨events ++ events', by rw [log', log, List.append_assoc], ?_,
    residual.waiting⟩
  intro csw member
  rw [csws_append, none, List.nil_append] at member
  have residue := told csw member
  rwa [CmdRockusbInterface.setResidue, wrapper] at residue

/-- Every wrapper sent for a command has the residue of its data stage. -/
theorem residues_of_run (answers : cbw.answers)
    (received : CommandReceived cbw start)
    (run : Run (step P) cbw.serves start actions machine) :
    ∃ events, machine.log = start.log ++ events ∧
      (∀ csw ∈ csws events,
        csw.residue = byteSwap32 cbw.dataTransferLength) ∧
      (machine.usbcmd.status = .csw →
        machine.usbcmd.csw.residue = machine.usbcmd.setResidue) := by
  induction run with
  | nil =>
      refine ⟨[], by simp, by simp [csws], ?_⟩
      simp [received.idle]
  | @snoc actions middle final action run allowed taken induction =>
      obtain ⟨events, log, told, waiting⟩ := induction
      by_cases iterate : action = .iterate
      · rw [iterate] at taken
        obtain rfl := step_iterate taken
        rcases underway_of_run answers received run with rfl | underway
        · exact residual_first answers received
        · have idled : handleIdle P middle = middle :=
            handleIdle_busy underway.none
          have residual : Residual (handleIdle P middle)
              (doRockusb P middle) := .doRockusb (by rwa [idled])
          rw [idled] at residual
          obtain ⟨events', log', told'⟩ := residual.log
          refine ⟨events ++ events', by rw [log', log, List.append_assoc], ?_,
            residual.waiting⟩
          intro csw member
          rw [csws_append] at member
          cases List.mem_append.mp member with
          | inl old => exact told csw old
          | inr new =>
              have residue := told' csw new
              rwa [CmdRockusbInterface.setResidue, underway.wrapper] at residue
      · obtain ⟨status, _, _, _, _, _, kept, usbcmd⟩ :=
          (CalledBack.of_step taken iterate).usbcmd
        have waiting' : final.usbcmd.status = .csw →
            final.usbcmd.csw.residue = final.usbcmd.setResidue := by
          rw [usbcmd]
          intro csw
          rcases kept with same | idle
          · exact waiting (same.symm.trans csw)
          · rw [idle] at csw
            cases csw
        cases action with
        | iterate => exact absurd rfl iterate
        | inDone index status actual =>
            obtain ⟨transfer, -, rfl⟩ := step_inDone taken
            exact ⟨events ++ [.txDone transfer status],
              by simp [completeIn, log], by simpa [csws] using told, waiting'⟩
        | outDone index status packet =>
            obtain ⟨transfer, -, -, rfl⟩ := step_outDone taken
            exact ⟨events ++ [.rxDone transfer status packet],
              by simp [completeOut, log], by simpa [csws] using told, waiting'⟩
        | outDrop index =>
            obtain rfl := step_outDrop taken
            exact ⟨events, log, told, waiting'⟩
        | bus nEvent =>
            unfold CbWrap.serves at allowed
            split at allowed <;> exact allowed.elim

/-- The bytes of data in the transfers to the host that are under way. -/
def dataPosted (ins : List Transfer) : Nat :=
  ((ins.filter fun transfer => ¬transfer.isCsw).map Transfer.len).sum

@[simp] theorem dataPosted_append (first second : List Transfer) :
    dataPosted (first ++ second) = dataPosted first + dataPosted second := by
  simp [dataPosted]

theorem dataPosted_eraseIdx {ins : List Transfer} {index : Nat}
    {transfer : Transfer} (outstanding : ins[index]? = some transfer) :
    dataPosted (ins.eraseIdx index) +
      (if transfer.isCsw then 0 else transfer.len) = dataPosted ins := by
  induction ins generalizing index with
  | nil => cases outstanding
  | cons first ins induction =>
      have head : ∀ rest, dataPosted (first :: rest) =
          (if first.isCsw then 0 else first.len) + dataPosted rest := by
        intro rest
        by_cases csw : first.isCsw <;> simp [dataPosted, csw]
      cases index with
      | zero =>
          obtain rfl := Option.some.inj outstanding
          rw [List.eraseIdx_zero, List.tail_cons, head, Nat.add_comm]
      | succ index =>
          rw [List.eraseIdx_cons_succ, head, head, Nat.add_assoc,
            induction outstanding]

/-- Where a read stands: what has been reported or is under way has been
counted, and at the end it is all that was asked for. -/
structure ReadMoved (cbw : CbWrap) (reported : Nat) (machine : Machine σ) :
    Prop where
  counted : reported + dataPosted machine.ins = machine.usbcmd.uBytes
  all : machine.usbcmd.status ≠ .txdataPrepare →
    machine.usbcmd.uBytes = cbw.nsectors * cbw.readBlock
  rest : machine.usbcmd.status = .idle → dataPosted machine.ins = 0

/-- A chunk was posted and counted; the iteration ends with that. -/
structure ChunkPosted (total : Nat) (before after : Machine σ) : Prop where
  control : after.control = before.control
  resetFlag : after.usbcmd.resetFlag = before.usbcmd.resetFlag
  pending : after.usbcmd.txGiveback.status = .sendInProgress
  posted : ∃ size, dataPosted after.ins = dataPosted before.ins + size ∧
    after.usbcmd.uBytes = before.usbcmd.uBytes + size
  all : after.usbcmd.status ≠ .txdataPrepare → after.usbcmd.uBytes = total
  busy : after.usbcmd.status ≠ .idle

section Posted

variable {n block c : Nat}

theorem ChunkPosted.of_hit (reading : Reading n block c machine.usbcmd)
    (status : machine.usbcmd.status = .txdataPrepare)
    (hit : machine.usbcmd.prereadHit) :
    ChunkPosted (n * block) machine (rkusbHandleDatatx P machine) := by
  have left := reading.left
  have sent := reading.uBytes_sendPreread
  have length := reading.txdataSize
  have data : ¬Transfer.isCsw ⟨machine.usbcmd.txbufNum,
      min (n - c) 128 * block⟩ := by
    unfold Transfer.isCsw
    rcases reading.known with rfl | rfl <;> dsimp only <;> omega
  have size : dataPosted [⟨machine.usbcmd.txbufNum,
      machine.usbcmd.txdataSize⟩] = min (n - c) 128 * block := by
    simp [dataPosted, data, length]
  have counted : (c + min (n - c) 128) * block =
      machine.usbcmd.uBytes + min (n - c) 128 * block := by
    rw [reading.uBytes, Nat.add_mul]
  rw [rkusbHandleDatatx_hit reading hit]
  by_cases last : c + min (n - c) 128 = n
  · rw [if_pos last]
    refine ⟨by simp, by simp, by simp, ⟨min (n - c) 128 * block, ?_, ?_⟩, ?_,
      by simp⟩
    · simp [size]
    · simpa using sent.trans counted
    · intro _
      rw [last] at sent
      simpa using sent
  · have more := reading.sendPreread (by omega)
    have filled := preread_filled (P := P) more.isRead (show 128 ≠ 0 by decide)
    rw [if_neg last]
    refine ⟨?_, ?_, ?_, ⟨min (n - c) 128 * block, ?_, ?_⟩, ?_, ?_⟩
    · rw [filled.control]
      simp
    · rw [filled.usbcmd]
      simp
    · rw [filled.usbcmd]
      simp
    · rw [filled.ins]
      simp [size]
    · rw [filled.usbcmd]
      simpa using sent.trans counted
    · rw [filled.usbcmd]
      simp [status]
    · rw [filled.usbcmd]
      simp [status]

/-- The first call of a read posts a chunk, whether or not it was cached. -/
theorem ChunkPosted.of_start (reading : Reading n block 0 machine.usbcmd)
    (status : machine.usbcmd.status = .txdataPrepare) :
    ChunkPosted (n * block) machine (rkusbHandleDatatx P machine) := by
  by_cases hit : machine.usbcmd.prereadHit
  · exact .of_hit reading status hit
  · have some := reading.txBlocks_pos
    have filled := preread_filled (P := P) reading.isRead some
    have posted := ChunkPosted.of_hit (P := P) (reading.preread (P := P) some)
      (by rw [filled.usbcmd]; exact status)
      (prereadHit_preread reading (Nat.le_refl _))
    obtain ⟨size, ins, uBytes⟩ := posted.posted
    rw [filled.ins] at ins
    rw [filled.usbcmd] at uBytes
    rw [rkusbHandleDatatx_miss reading hit]
    refine ⟨posted.control.trans filled.control, ?_, posted.pending,
      ⟨size, ins, uBytes⟩, posted.all, posted.busy⟩
    rw [posted.resetFlag, filled.usbcmd]
    rfl

end Posted

theorem ChunkPosted.moved {reported total : Nat} {idled : Machine σ}
    (size : total = cbw.nsectors * cbw.readBlock)
    (counted : reported + dataPosted idled.ins = idled.usbcmd.uBytes)
    {after : Machine σ} (posted : ChunkPosted total idled after)
    (first : handleIdle P machine = idled)
    (response : rkusbHandleResponse P idled = after)
    (running : idled.control = .running) (quiet : idled.usbcmd.Quiet) :
    ReadMoved cbw reported (doRockusb P machine) := by
  have silent : after.usbcmd.Quiet := by
    unfold CmdRockusbInterface.Quiet at quiet ⊢
    rwa [posted.resetFlag]
  obtain ⟨length, ins, uBytes⟩ := posted.posted
  have returned := posted.control.trans running
  rw [doRockusb_pending first response running returned silent posted.pending]
  refine ⟨?_, fun other => (posted.all other).trans size,
    fun idle => absurd idle posted.busy⟩
  rw [Machine.perform_ins, Machine.perform_usbcmd, ins, uBytes, ← counted,
    Nat.add_assoc]

theorem readMoved_first (read : cbw.isRead) (some : 0 < cbw.nsectors)
    (received : CommandReceived cbw start) :
    ReadMoved cbw 0 (doRockusb P start) := by
  obtain ⟨buf, packet, first⟩ := received.prepared (P := P) read
  have reading := readPrepared_reading packet read some
  have response : rkusbHandleResponse P
      (start.readPrepared buf cbw.readBlock) =
        rkusbHandleDatatx P (start.readPrepared buf cbw.readBlock) := by
    simp [rkusbHandleResponse, Machine.readPrepared]
  have none : (start.readPrepared buf cbw.readBlock).ins = [] := received.ins
  have posted := ChunkPosted.of_start (P := P) reading rfl
  refine ChunkPosted.moved rfl ?_ posted first response received.running
    received.quiet
  rw [none]
  rfl

section ReadStep

variable {reported : Nat} {chunks : List (List UInt8)} {statuses : List CsWrap}
variable {Stable : σ → Prop} {Good : Nat → Memory → Prop}

theorem ReadMoved.iterate (moved : ReadMoved cbw reported machine)
    (progress : ReadProgress Stable Good cbw start actions machine chunks
      statuses) : ReadMoved cbw reported (doRockusb P machine) := by
  have serving := progress.serving
  obtain ⟨ahead, filled, phase, -⟩ := progress.phase
  have waits : ReadMoved cbw reported (machine.perform P .fwSorageLowFormat) :=
    ⟨moved.counted, moved.all, moved.rest⟩
  rcases progress.pipe with ⟨⟨busy, -⟩, -⟩ | ⟨⟨free, empty⟩, -⟩
  · cases phase with
    | streaming some sent streaming =>
        rwa [doRockusb_streaming_busy streaming serving some busy]
    | streamed sent streamed =>
        rwa [doRockusb_streamed_busy streamed serving busy]
    | answered sent tag good status empty =>
        rwa [doRockusb_idle status empty serving.running serving.quiet]
  · cases phase with
    | streaming some sent streaming =>
        have response : rkusbHandleResponse P machine =
            rkusbHandleDatatx P machine := by
          simp [rkusbHandleResponse, streaming.status, free]
        have posted := ChunkPosted.of_hit (P := P) streaming.reading
          streaming.status streaming.hit
        exact posted.moved rfl moved.counted
          (handleIdle_busy (.inl (by simp [streaming.status]))) response
          serving.running serving.quiet
    | streamed sent streamed =>
        obtain ⟨after, csw, shape⟩ := doRockusb_csw (P := P) streamed.status
          serving.running serving.quiet free
        have all := moved.all (by simp [streamed.status])
        have posted : dataPosted after.ins = 0 := by
          rw [csw.ins, empty]
          rfl
        have none : dataPosted machine.ins = 0 := by
          rw [empty]
          rfl
        have same : after.usbcmd.uBytes = machine.usbcmd.uBytes := by
          rw [csw.usbcmd]
        rw [shape]
        refine ⟨?_, fun _ => same.trans all, fun _ => posted⟩
        rw [Machine.perform_ins, Machine.perform_usbcmd, posted, same,
          ← moved.counted, none]
    | answered sent tag good status empty =>
        rwa [doRockusb_idle status empty serving.running serving.quiet]

/-- A completion reports what a transfer carried and what it lacks. -/
theorem ReadMoved.inDone (read : cbw.isRead)
    (moved : ReadMoved cbw reported machine) {index actual : Nat}
    {status : Int} {transfer : Transfer}
    (outstanding : machine.ins[index]? = some transfer)
    (fits : actual ≤ transfer.len) :
    ReadMoved cbw (reported + (cbw.moves machine (.inDone index status actual) +
      cbw.lacks machine (.inDone index status actual)))
      (completeIn machine index transfer status actual) := by
  have erased := dataPosted_eraseIdx outstanding
  have reports : cbw.moves machine (.inDone index status actual) +
      cbw.lacks machine (.inDone index status actual) =
        if transfer.isCsw then 0 else transfer.len := by
    by_cases csw : transfer.isCsw
    · simp [CbWrap.moves, CbWrap.lacks, outstanding, csw]
    · simp [CbWrap.moves, CbWrap.lacks, outstanding, csw, read]
      omega
  have ins : (completeIn machine index transfer status actual).ins =
      machine.ins.eraseIdx index := rfl
  have counted := moved.counted
  refine ⟨?_, moved.all, fun idle => ?_⟩
  · rw [reports, ins]
    refine Eq.trans ?_ counted
    omega
  · have none := moved.rest idle
    rw [ins]
    omega

end ReadStep

theorem readMoved_of_run (read : cbw.isRead) (some : 0 < cbw.nsectors)
    (received : CommandReceived cbw start)
    (run : Run (step P) cbw.serves start actions machine) :
    (actions = [] ∧ machine = start) ∨
      ReadMoved cbw (total (step P) cbw.moves start actions +
        total (step P) cbw.lacks start actions) machine := by
  have notWrite : ¬cbw.isWrite := fun write => write.not_isRead read
  induction run with
  | nil => exact .inl ⟨rfl, rfl⟩
  | @snoc actions middle final action run allowed taken induction =>
      right
      rw [CbWrap.serves, if_neg notWrite] at allowed
      rw [total_snoc run, total_snoc run]
      cases action with
      | iterate =>
          obtain rfl := step_iterate taken
          rcases induction with ⟨rfl, rfl⟩ | moved
          · exact readMoved_first read some received
          · rcases readProgress_any read some received run with
              ⟨rfl, rfl⟩ | ⟨chunks, statuses, progress⟩
            · exact readMoved_first read some received
            · exact moved.iterate progress
      | inDone index status actual =>
          obtain ⟨transfer, outstanding, fits, rfl⟩ := step_inDone_fits taken
          rcases induction with ⟨rfl, rfl⟩ | moved
          · simp [received.ins] at outstanding
          · rw [← Nat.add_add_add_comm]
            exact moved.inDone read outstanding fits
      | outDone => exact allowed.elim
      | outDrop => exact allowed.elim
      | bus => exact allowed.elim

/-- A write moves the packets it receives, and its IN transfer is its status. -/
theorem writeMoved_of_run (write : cbw.isWrite)
    (run : Run (step P) cbw.serves start actions machine) :
    total (step P) cbw.moves start actions = bytesIn (packetsIn actions) ∧
      total (step P) cbw.lacks start actions = 0 := by
  induction run with
  | nil => exact ⟨rfl, rfl⟩
  | @snoc actions middle final action run allowed taken induction =>
      rw [CbWrap.serves, if_pos write] at allowed
      rw [total_snoc run, total_snoc run, induction.1, induction.2]
      unfold packetsIn bytesIn
      rw [List.filterMap_append, List.map_append, List.sum_append]
      cases action with
      | iterate => exact ⟨rfl, rfl⟩
      | inDone index status actual =>
          simp [CbWrap.moves, CbWrap.lacks, write.not_isRead]
      | outDone index status packet =>
          obtain ⟨transfer, outstanding, -, -⟩ := step_outDone taken
          have data := allowed.2 transfer outstanding
          simp [CbWrap.moves, CbWrap.lacks, write, outstanding, data]
      | outDrop => exact allowed.elim
      | bus => exact allowed.elim

/-- When the status has been sent, all bytes have been moved but for those that
transfers to the host did not carry. -/
theorem moved_of_answered (transfers : cbw.isRead ∨ cbw.isWrite)
    (received : CommandReceived cbw start)
    (run : Run (step P) cbw.serves start actions machine) :
    ∃ events, machine.log = start.log ++ events ∧
      (csws events = [] ∨ ∃ csw, csws events = [csw] ∧
        csw.residue = byteSwap32 cbw.dataTransferLength ∧
        total (step P) cbw.moves start actions +
          total (step P) cbw.lacks start actions = cbw.dataSize) := by
  rcases transfers with read | write
  · by_cases some : 0 < cbw.nsectors
    · obtain ⟨events, log, residues, -⟩ :=
        residues_of_run (.inr ⟨read, some⟩) received run
      refine ⟨events, log, ?_⟩
      rcases readProgress_any read some received run with
        ⟨rfl, rfl⟩ | ⟨chunks, statuses, progress⟩
      · have none : events = [] := List.self_eq_append_right.mp log
        exact .inl (by rw [none]; rfl)
      · obtain ⟨ahead, filled, phase, ⟨events', log', -, told, -⟩, -⟩ :=
          progress.phase
        obtain rfl : events' = events :=
          List.append_cancel_left (log'.symm.trans log)
        cases phase with
        | streaming => exact .inl told
        | streamed => exact .inl told
        | @answered chunks csw _ _ _ idle _ =>
            rcases readMoved_of_run read some received run with
              ⟨rfl, rfl⟩ | moved
            · have none : events' = [] := List.self_eq_append_right.mp log
              exact .inl (by rw [none]; rfl)
            · have rest := moved.rest idle
              have all := moved.all (by simp [idle])
              have counted := moved.counted
              rw [rest, Nat.add_zero, all] at counted
              refine .inr ⟨csw, told, residues csw (by simp [told]), ?_⟩
              rw [counted, CbWrap.dataSize, if_pos read]
    · have none : cbw.nsectors = 0 := Nat.eq_zero_of_not_pos some
      rcases hung_of_run read none received (serves_read read run) with
        rfl | ⟨-, events, log, -, told, -⟩
      · exact ⟨[], by simp, .inl rfl⟩
      · exact ⟨events, log, .inl told⟩
  · obtain ⟨events, log, residues, -⟩ :=
      residues_of_run (.inl write) received run
    refine ⟨events, log, ?_⟩
    rcases storeProgress_of_run write received (serves_write write run) with
      ⟨rfl, rfl⟩ | ⟨statuses, progress⟩
    · have none : events = [] := List.self_eq_append_right.mp log
      exact .inl (by rw [none]; rfl)
    · obtain ⟨handled, made, phase, ⟨events', log', -, told, -⟩, -⟩ :=
        progress.stage
      obtain rfl : events' = events :=
        List.append_cancel_left (log'.symm.trans log)
      obtain ⟨moved, lacking⟩ := writeMoved_of_run write run
      generalize packetsIn actions = packets at phase moved
      cases phase with
      | waiting => exact .inl told
      | holding => exact .inl told
      | @answered packets csw buf _ _ _ all _ =>
          refine .inr ⟨csw, told, residues csw (by simp [told]), ?_⟩
          rw [moved, lacking, Nat.add_zero, all, CbWrap.dataSize,
            if_neg write.not_isRead, CbWrap.writeSize]

/-- In every run over a read or a write at most one status is sent.  Its residue
is what has not been transferred exactly if the length that the command
announces, with its bytes reversed, happens to be that number. -/
theorem residue_exact_iff (transfers : cbw.isRead ∨ cbw.isWrite)
    (received : CommandReceived cbw start)
    (run : Run (step P) cbw.serves start actions machine) :
    ∃ events, machine.log = start.log ++ events ∧
      (csws events = [] ∨ ∃ csw, csws events = [csw] ∧
        (ResidueExact cbw (total (step P) cbw.moves start actions) csw ↔
          ResidueSound cbw (total (step P) cbw.lacks start actions))) := by
  obtain ⟨events, log, told⟩ := moved_of_answered transfers received run
  refine ⟨events, log, ?_⟩
  rcases told with none | ⟨csw, one, residue, moved⟩
  · exact .inl none
  · refine .inr ⟨csw, one, ?_⟩
    unfold ResidueExact ResidueSound
    rw [residue, ← moved]
    omega

/-- A read of 129 blocks from block 5 on, up to its status. -/
private def chunksActions : List Action :=
  [.iterate, .inDone 0 0 65536, .iterate, .inDone 0 0 512, .iterate]

private def chunksStart : Machine Unit :=
  receivedMachine (cbwPacket 7 66048 0x14 0 5 129) ()

private def chunksCbw : CbWrap :=
  CbWrap.ofBuffer (Memory.storeList (fun _ => 0) 0
    (cbwPacket 7 66048 0x14 0 5 129))

private theorem chunksStart_received : CommandReceived chunksCbw chunksStart :=
  ⟨rfl, by decide, rfl, by decide, ⟨0, rfl, rfl⟩, rfl, rfl, rfl⟩

theorem residue_exact_iff_chunks :
    ∃ (machine : Machine Unit) (events : List (Event Unit)) (csw : CsWrap),
      machine.log = chunksStart.log ++ events ∧ csws events = [csw] ∧
      (ResidueExact chunksCbw (total (step (readOnlyStorage 0 fun _ => 0))
          chunksCbw.moves chunksStart chunksActions) csw ↔
        ResidueSound chunksCbw (total (step (readOnlyStorage 0 fun _ => 0))
          chunksCbw.lacks chunksStart chunksActions)) := by
  have passed : (execute (step (readOnlyStorage 0 fun _ => 0))
      chunksCbw.serves chunksStart chunksActions).any
        (fun machine => decide (csws machine.log ≠ csws chunksStart.log)) =
          true := by
    decide +kernel
  obtain ⟨final, run, answered⟩ := Run.exists_of_execute passed
  obtain ⟨events, grown, told⟩ :=
    residue_exact_iff (.inl (by decide)) chunksStart_received run
  have different := of_decide_eq_true answered
  rw [grown] at different
  obtain ⟨csw, told, exactly⟩ := told.resolve_left (csws_ne_nil different)
  exact ⟨final, events, csw, grown, told, exactly⟩

/-- A read of block 5, up to its status. -/
private def residueActions : List Action :=
  [.iterate, .inDone 0 0 512, .iterate]

private def residueStart : Machine Unit :=
  receivedMachine (cbwPacket 7 512 0x14 0 5 1) ()

private def residueCbw : CbWrap :=
  CbWrap.ofBuffer (Memory.storeList (fun _ => 0) 0 (cbwPacket 7 512 0x14 0 5 1))

/-- One block is announced and transferred, and 131072 is reported as the
number of bytes that have not been. -/
theorem not_residue_exact_block :
    ¬∀ actions machine, Run (step (readOnlyStorage 0 fun _ => 0))
        residueCbw.serves residueStart actions machine →
      ∃ events, machine.log = residueStart.log ++ events ∧
        ∀ csw ∈ csws events, ResidueExact residueCbw
          (total (step (readOnlyStorage 0 fun _ => 0)) residueCbw.moves
            residueStart actions) csw := by
  intro exactly
  have passed : (execute (step (readOnlyStorage 0 fun _ => 0))
      residueCbw.serves residueStart residueActions).any
        (fun machine : Machine Unit => decide (∃ csw ∈ csws machine.log,
          csw.residue = 131072)) = true := by
    decide +kernel
  have moved : total (step (readOnlyStorage 0 fun _ => 0)) residueCbw.moves
      residueStart residueActions = 512 := by
    decide +kernel
  obtain ⟨final, run, found⟩ := Run.exists_of_execute passed
  obtain ⟨csw, sent, residue⟩ := of_decide_eq_true found
  obtain ⟨events, grown, all⟩ := exactly _ _ run
  have before : csws residueStart.log = [] := rfl
  rw [grown, csws_append, before, List.nil_append] at sent
  have wrong := all csw sent
  have length : residueCbw.dataTransferLength = 512 := by decide
  rw [ResidueExact, residue, moved, length] at wrong
  cases wrong

end KernelDrivers.Rockusb
