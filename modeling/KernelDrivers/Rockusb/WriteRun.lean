import KernelDrivers.Rockusb.Host
import KernelDrivers.Rockusb.WriteCommand

/-!
# Runs over one write command

The loop is iterated, and transfers complete with any positive number of whole
blocks, from the moment the packet of a write command has been reported.
-/

namespace KernelDrivers.Rockusb

open KernelDrivers.Library

variable {σ : Type} {P : Platform σ} {machine after : Machine σ}
variable {cbw : CbWrap}

/-- The packet of `cbw` has been reported to an idle loop, without the lock. -/
structure WriteReceived (P : Platform σ) (cbw : CbWrap)
    (machine : Machine σ) : Prop where
  running : machine.control = .running
  quiet : machine.usbcmd.Quiet
  idle : machine.usbcmd.status = .idle
  received : 0 < machine.usbcmd.rxGiveback.actual
  packet : ∃ buf, machine.usbcmd.rxGiveback.buf = some buf ∧
    CbWrap.ofBuffer (machine.rxBuffer buf) = cbw
  outs : machine.outs = []
  unlocked : P.secureBootLock machine.platform = 0

/-- The state in which the data stage of a write begins. -/
structure WriteStarted (Stable : σ → Prop) (cbw : CbWrap)
    (before after : Machine σ) : Prop where
  serving : Serving Stable cbw after
  prepared : WritePrepared cbw after
  position : WritesAt cbw 0 after.usbcmd
  ins : after.ins = before.ins
  txGiveback : after.usbcmd.txGiveback = before.usbcmd.txGiveback
  log : ∃ buf, after.log =
    (before.log ++ [.rxLoad buf []]) ++ [.command cbw]

theorem writeStarted {Stable : σ → Prop} (write : cbw.isWrite)
    (running : machine.control = .running) (quiet : machine.usbcmd.Quiet)
    (idle : machine.usbcmd.status = .idle)
    (received : 0 < machine.usbcmd.rxGiveback.actual)
    (packet : ∃ buf, machine.usbcmd.rxGiveback.buf = some buf ∧
      CbWrap.ofBuffer (machine.rxBuffer buf) = cbw)
    (outs : machine.outs = []) (stable : Stable machine.platform) :
    WriteStarted Stable cbw machine (handleIdle P machine) := by
  obtain ⟨buf, inBuf, packet⟩ := packet
  have wrapper : (machine.accept buf).usbcmd.cbw = cbw := packet
  have cmnd : (machine.accept buf).usbcmd.cmnd = cbw.opcode :=
    congrArg CbWrap.opcode packet
  obtain ⟨mode, dispatched, lbaMode⟩ := fwDispatch_write (P := P) write wrapper
    cmnd
  rw [handleIdle_packet idle received inBuf, dispatched]
  have log : (machine.accept buf).log =
      (machine.log ++ [.rxLoad buf []]) ++ [.command cbw] := by
    simp [Machine.accept, outs, packet]
  refine ⟨⟨stable, running, quiet, wrapper, cmnd⟩,
    ⟨rfl, ⟨?_, rfl, Nat.zero_le _⟩, rfl, outs⟩, ⟨?_, lbaMode⟩, rfl, rfl, buf,
    log⟩
  · simp only [Machine.prepareWrite_usbcmd, Machine.update_usbcmd, wrapper]
    rfl
  · simp only [Machine.prepareWrite_usbcmd, Machine.update_usbcmd, wrapper]
    rw [Nat.add_zero, wrap32_of_lt cbw.offset_lt]

theorem WriteReceived.started (write : cbw.isWrite)
    (received : WriteReceived P cbw machine) :
    WriteStarted (fun state => P.secureBootLock state = 0) cbw machine
      (handleIdle P machine) :=
  writeStarted write received.running received.quiet received.idle
    received.received received.packet received.outs received.unlocked

theorem WritePrepared.handled (prepared : WritePrepared cbw machine) :
    rkusbHandleDatarx P machine = machine.answerData := by
  rw [rkusbHandleDatarx_eq, prepared.empty, Nat.zero_div]
  exact if_pos rfl

theorem WritePrepared.response (prepared : WritePrepared cbw machine) :
    rkusbHandleResponse P machine = machine.answerData := by
  simp [rkusbHandleResponse, prepared.status, prepared.handled]

/-- The handler posts the first transfer and writes nothing. -/
theorem WritePrepared.requested {Stable : σ → Prop} (write : cbw.isWrite)
    (some : 0 < cbw.nsectors) (prepared : WritePrepared cbw machine)
    (serving : Serving Stable cbw machine) {start : Machine σ}
    (first : handleIdle P start = machine) :
    ∃ handled, Requested cbw 0 machine handled ∧ Serving Stable cbw handled ∧
      Waiting cbw 0 handled ∧
      doRockusb P start = handled.perform P .fwSorageLowFormat := by
  have size := write.size_pos some
  have requested := answerData_request write serving.cmnd prepared.counted
    (by rw [prepared.empty]; exact size)
  rw [prepared.empty] at requested
  have waiting := requested.waiting prepared.counted.dSize (Nat.zero_le _)
    prepared.outs
  have usbcmd := requested.usbcmd
  have handled : Serving Stable cbw machine.answerData := by
    apply serving.of_usbcmd
    · rw [requested.platform]
      exact serving.platform
    · rw [requested.control, serving.running]
    all_goals rw [usbcmd]
  refine ⟨_, requested, handled, waiting, ?_⟩
  exact doRockusb_response first prepared.response serving.running
    handled.running handled.quiet (handleCsw_other (by simp [waiting.status]))

theorem WritePrepared.continued (lockOpen : LockOpen P)
    (write : cbw.isWrite) (some : 0 < cbw.nsectors)
    (prepared : WritePrepared cbw machine)
    (serving : WriteServing P cbw machine)
    (position : WritesAt cbw 0 machine.usbcmd) {start : Machine σ}
    (first : handleIdle P start = machine) :
    Continued P cbw 0 0 [] machine (doRockusb P start) := by
  obtain ⟨handled, requested, still, waiting, shape⟩ :=
    prepared.requested write some serving first
  replace still : WriteServing P cbw handled := still
  have usbcmd := requested.usbcmd
  have noBlocks : cbw.blocksOf [] = 0 := Nat.zero_div _
  have nothing : cbw.writesOf 0 [] = [] := by
    rw [CbWrap.writesOf, if_pos noBlocks]
  have records : Records machine handled [] [] :=
    ⟨_, requested.log, rfl, rfl, rfl⟩
  rw [shape]
  refine ⟨still.lowFormat lockOpen, waiting.of_usbcmd rfl rfl, ?_, ⟨?_, ?_⟩,
    ?_, ?_, ?_⟩
  · refine ⟨machine.usbcmd.rxbufNum, ?_⟩
    rw [Machine.perform_outs, requested.outs, prepared.outs]
    rfl
  · rw [Machine.perform_usbcmd, usbcmd, noBlocks]
    exact position.lba
  · rw [Machine.perform_usbcmd, usbcmd]
    exact position.imgwrMode
  · rw [Machine.perform_ins, requested.ins]
  · rw [Machine.perform_usbcmd, usbcmd]
  · simpa [nothing] using records.trans (.lowFormat _)

/-- The actions of one write: iterations, IN completions that are OK, and OUT
completions with a positive number of whole blocks. -/
def Action.servesWrite (block : Nat) : Action → Prop
  | .iterate => True
  | .inDone _ status _ => status = 0
  | .outDone _ status packet =>
      status = 0 ∧ 0 < packet.length ∧ block ∣ packet.length
  | _ => False

/-- At most 128 whole blocks, and at least one. -/
def CbWrap.isChunk (cbw : CbWrap) (packet : List UInt8) : Prop :=
  ∃ blocks, 0 < blocks ∧ blocks ≤ 128 ∧
    packet.length = blocks * cbw.writeBlock

/-- Where the command stands, with the packets received and the deeds done
since it was executed. -/
inductive WritePhase (P : Platform σ) (cbw : CbWrap) (actions : List Action)
    (machine : Machine σ) : List (List UInt8) → List Deed → Prop where
  | waiting {packets : List (List UInt8)} {buf : Fin 2} :
      Waiting cbw (bytesIn packets) machine →
      WritesAt cbw (cbw.blocksIn packets) machine.usbcmd →
      machine.InFree →
      machine.outs = [⟨buf, cbw.nextLength (bytesIn packets)⟩] →
      bytesIn packets < cbw.writeSize →
      WritePhase P cbw actions machine packets
        ((cbw.writes 0 packets).map .write)
  | holding {packets : List (List UInt8)} {packet : List UInt8} :
      Holding cbw (bytesIn packets) packet machine →
      WritesAt cbw (cbw.blocksIn packets) machine.usbcmd →
      machine.InFree →
      actions.getLast? ≠ some .iterate →
      WritePhase P cbw actions machine (packets ++ [packet])
        ((cbw.writes 0 packets).map .write)
  | completed {packets : List (List UInt8)} {packet : List UInt8}
      {csw : CsWrap} {buf : Fin 2} :
      machine.usbcmd.status = .idle →
      Counted cbw cbw.writeSize machine.usbcmd →
      machine.usbcmd.rxGiveback.actual = 0 →
      machine.outs = [⟨buf, 31⟩] →
      bytesIn (packets ++ [packet]) = cbw.writeSize →
      csw.tag = cbw.tag → csw.status = cswGood →
      WritePhase P cbw actions machine (packets ++ [packet])
        ((cbw.writes 0 packets).map .write ++ .status csw ::
          (cbw.writesOf (cbw.blocksIn packets) packet).map .write)

/-- The command after some actions, the first of which was an iteration. -/
structure WriteProgress (P : Platform σ) (cbw : CbWrap) (first : Machine σ)
    (actions : List Action) (machine : Machine σ)
    (packets : List (List UInt8)) (made : List Deed) : Prop where
  serving : WriteServing P cbw machine
  phase : WritePhase P cbw actions machine packets made
  chunks : ∀ packet ∈ packets, cbw.isChunk packet
  records : Records first machine packets made

section Progress

variable {first : Machine σ} {actions : List Action}
variable {packets : List (List UInt8)} {packet : List UInt8}
variable {made : List Deed}

theorem map_writes_snoc (packets : List (List UInt8)) (packet : List UInt8) :
    (cbw.writes 0 (packets ++ [packet])).map Deed.write =
      (cbw.writes 0 packets).map .write ++
        (cbw.writesOf (cbw.blocksIn packets) packet).map .write := by
  rw [CbWrap.writes_snoc, Nat.zero_add, List.map_append]

/-- The first iteration executes the command and posts a transfer. -/
theorem writeProgress_first (lockOpen : LockOpen P) (write : cbw.isWrite)
    (some : 0 < cbw.nsectors) {start : Machine σ}
    (received : WriteReceived P cbw start)
    (free : start.InFree) :
    WriteProgress P cbw (handleIdle P start) ([] ++ [.iterate])
      (doRockusb P start) [] [] := by
  have started := received.started write
  have continued := started.prepared.continued lockOpen write some
    started.serving started.position rfl
  have noBlocks : cbw.blocksOf [] = 0 := Nat.zero_div _
  obtain ⟨buf, posted⟩ := continued.posted
  have position := continued.position
  rw [noBlocks] at position
  have records := continued.records
  rw [CbWrap.writesOf, if_pos noBlocks] at records
  have size := write.size_pos some
  refine ⟨continued.serving, ?_, by simp, records⟩
  exact @WritePhase.waiting σ P cbw _ _ [] buf continued.waiting position
    ⟨by rw [continued.txGiveback, started.txGiveback]; exact free.1,
      by rw [continued.ins, started.ins, free.2]⟩ posted size

theorem CbWrap.ordinary.inside (ordinary : cbw.ordinary)
    (write : cbw.isWrite)
    (atMost : bytesIn packets + packet.length ≤ cbw.writeSize) :
    cbw.offset + cbw.blocksIn packets + cbw.blocksOf packet ≤
      cbw.writeLimit := by
  rw [← bytesIn_snoc] at atMost
  have blocks := write.blocksIn_le atMost
  rw [CbWrap.blocksIn_snoc] at blocks
  have range : cbw.offset + cbw.nsectors ≤ cbw.writeLimit := ordinary
  omega

theorem WriteProgress.iterate (lockOpen : LockOpen P) (write : cbw.isWrite)
    (ordinary : cbw.ordinary)
    (progress : WriteProgress P cbw first actions machine packets made) :
    ∃ made', WriteProgress P cbw first (actions ++ [.iterate])
      (doRockusb P machine) packets made' := by
  obtain ⟨serving, phase, chunks, records⟩ := progress
  have checked : Records first (machine.perform P .fwSorageLowFormat) packets
      made := by
    simpa using records.trans (.lowFormat machine)
  cases phase with
  | waiting waiting position free posted more =>
      rw [doRockusb_waiting waiting serving]
      exact ⟨_, serving.lowFormat lockOpen,
        .waiting (waiting.of_usbcmd rfl rfl) ⟨position.lba, position.imgwrMode⟩
          free posted more, chunks, checked⟩
  | @holding packets packet holding position free unhandled =>
      have inside := ordinary.inside write holding.atMost
      obtain ⟨finished, empty⟩ := free
      by_cases more : bytesIn packets + packet.length < cbw.writeSize
      · have continued := holding.continued lockOpen write serving position
          inside more
        obtain ⟨buf, posted⟩ := continued.posted
        have waiting := continued.waiting
        have position := continued.position
        have gathered := records.trans continued.records
        rw [← bytesIn_snoc] at waiting posted more
        rw [← CbWrap.blocksIn_snoc] at position
        rw [List.append_nil, ← map_writes_snoc] at gathered
        exact ⟨_, continued.serving, .waiting waiting position
          ⟨by rw [continued.txGiveback, finished],
            by rw [continued.ins, empty]⟩ posted more, chunks, gathered⟩
      · have last : bytesIn packets + packet.length = cbw.writeSize :=
          Nat.le_antisymm holding.atMost (Nat.le_of_not_lt more)
        have completed := holding.completed lockOpen write serving position
          inside last finished
        obtain ⟨csw, tag, good, records'⟩ := completed.records
        have gathered := records.trans records'
        rw [List.append_nil] at gathered
        rw [← bytesIn_snoc] at last
        exact ⟨_, completed.serving, .completed completed.idle
          completed.counted (by rw [completed.empty]) completed.outs last tag
          good, chunks, gathered⟩
  | completed idle counted empty posted all tag good =>
      rw [doRockusb_idle idle empty serving.running serving.quiet]
      exact ⟨_, serving.lowFormat lockOpen, .completed idle
        ⟨counted.dSize, counted.dBytes, counted.atMost⟩ empty posted all tag
        good, chunks, checked⟩

theorem nextLength_blocks (write : cbw.isWrite) {packet : List UInt8}
    (some : 0 < packet.length) (whole : cbw.writeBlock ∣ packet.length)
    {count : Nat} (fits : packet.length ≤ cbw.nextLength count) :
    cbw.isChunk packet := by
  obtain ⟨blocks, length⟩ := whole
  rw [Nat.mul_comm] at length
  have positive := write.block_pos
  refine ⟨blocks, ?_, ?_, length⟩
  · refine Nat.pos_of_ne_zero ?_
    rintro rfl
    omega
  · rw [length] at fits
    exact Nat.le_trans (Nat.le_of_mul_le_mul_right fits positive)
      (Nat.min_le_right _ _)

theorem WriteProgress.outDone (write : cbw.isWrite) {index : Nat}
    {transfer : Transfer}
    (progress : WriteProgress P cbw first actions machine packets made)
    (outstanding : machine.outs[index]? = some transfer)
    (some : 0 < packet.length) (whole : cbw.writeBlock ∣ packet.length)
    (fits : packet.length ≤ transfer.len) :
    WriteProgress P cbw first (actions ++ [.outDone index 0 packet])
      (completeOut machine index transfer 0 packet) (packets ++ [packet])
      made := by
  obtain ⟨serving, phase, chunks, records⟩ := progress
  cases phase with
  | waiting waiting position free posted more =>
      obtain ⟨holding, received⟩ := waiting.completeOut write outstanding fits
      obtain ⟨rfl, -⟩ := only_transfer posted outstanding
      refine ⟨?_, .holding holding ⟨position.lba, position.imgwrMode⟩ free
        (by simp), ?_, ?_⟩
      · exact serving.of_usbcmd serving.platform serving.running rfl rfl rfl
      · intro chunk member
        cases List.mem_append.mp member with
        | inl old => exact chunks chunk old
        | inr new =>
            rw [List.mem_singleton.mp new]
            exact nextLength_blocks write some whole fits
      · simpa using records.trans received
  | holding holding position free unhandled =>
      simp [holding.outs] at outstanding
  | completed idle counted empty posted all tag good =>
      obtain ⟨rfl, -⟩ := only_transfer posted outstanding
      have small := Nat.le_of_dvd some whole
      dsimp only at fits
      rcases write.block_cases with block | block <;> omega

theorem WriteProgress.inDone {index actual : Nat} {transfer : Transfer}
    (progress : WriteProgress P cbw first actions machine packets made)
    (outstanding : machine.ins[index]? = some transfer) :
    WriteProgress P cbw first (actions ++ [.inDone index 0 actual])
      (completeIn machine index transfer 0 actual) packets made := by
  obtain ⟨serving, phase, chunks, records⟩ := progress
  refine ⟨?_, ?_, chunks, ?_⟩
  · exact serving.of_usbcmd serving.platform serving.running rfl rfl rfl
  · cases phase with
    | waiting waiting position free posted more =>
        simp [free.2] at outstanding
    | holding holding position free unhandled =>
        simp [free.2] at outstanding
    | completed idle counted empty posted all tag good =>
        exact .completed idle ⟨counted.dSize, counted.dBytes, counted.atMost⟩
          empty posted all tag good
  · have completed : Records machine
        (completeIn machine index transfer 0 actual) [] [] :=
      ⟨[_], rfl, rfl, rfl, rfl⟩
    simpa using records.trans completed

/-- Wherever a run over one write stands, the command has made progress. -/
theorem writeProgress_of_run (lockOpen : LockOpen P) (write : cbw.isWrite)
    (some : 0 < cbw.nsectors) (ordinary : cbw.ordinary) {start : Machine σ}
    (received : WriteReceived P cbw start) (free : start.InFree)
    (run : Run (step P) (fun _ action => action.servesWrite cbw.writeBlock)
      start actions machine) :
    (actions = [] ∧ machine = start) ∨
      ∃ packets made, WriteProgress P cbw (handleIdle P start) actions machine
        packets made := by
  induction run with
  | nil => exact .inl ⟨rfl, rfl⟩
  | @snoc actions middle final action _ allowed taken induction =>
      right
      cases action with
      | iterate =>
          obtain rfl := step_iterate taken
          rcases induction with ⟨rfl, rfl⟩ | ⟨packets, made, progress⟩
          · exact ⟨_, _, writeProgress_first lockOpen write some received free⟩
          · exact ⟨packets, progress.iterate lockOpen write ordinary⟩
      | inDone index status actual =>
          obtain rfl : status = 0 := allowed
          obtain ⟨transfer, outstanding, rfl⟩ := step_inDone taken
          rcases induction with ⟨rfl, rfl⟩ | ⟨packets, made, progress⟩
          · simp [free.2] at outstanding
          · exact ⟨packets, made, progress.inDone outstanding⟩
      | outDone index status packet =>
          obtain ⟨rfl, positive, whole⟩ := allowed
          obtain ⟨transfer, outstanding, fits, rfl⟩ := step_outDone taken
          rcases induction with ⟨rfl, rfl⟩ | ⟨packets, made, progress⟩
          · simp [received.outs] at outstanding
          · exact ⟨_, made, progress.outDone write outstanding positive whole
              fits⟩
      | outDrop => exact allowed.elim
      | bus => exact allowed.elim

end Progress

/-- The blocks of the media that a call writes. -/
def Call.targets : Call → List Nat
  | .storageWriteLba lba _ blocks _ => List.range' lba blocks
  | .storageWritePba lba _ blocks => List.range' lba blocks
  | _ => []

/-- The bytes that a call writes to the media. -/
def Call.payload : Call → List UInt8
  | .storageWriteLba _ data _ _ => data
  | .storageWritePba _ data _ => data
  | _ => []

namespace CbWrap

theorem targets_writeCall (lba : Nat) (data : List UInt8) (blocks : Nat) :
    (cbw.writeCall lba data blocks).targets = List.range' lba blocks := by
  unfold writeCall
  split <;> rfl

theorem payload_writeCall (lba : Nat) (data : List UInt8) (blocks : Nat) :
    (cbw.writeCall lba data blocks).payload = data := by
  unfold writeCall
  split <;> rfl

theorem targets_writes (c : Nat) (packets : List (List UInt8)) :
    (cbw.writes c packets).flatMap Call.targets =
      List.range' (cbw.offset + c) (cbw.blocksIn packets) := by
  induction packets generalizing c with
  | nil => rfl
  | cons packet rest induction =>
      have head : (cbw.writesOf c packet).flatMap Call.targets =
          List.range' (cbw.offset + c) (cbw.blocksOf packet) := by
        unfold writesOf
        split
        · rename_i none
          rw [none]
          rfl
        · simp [targets_writeCall]
      have parts : cbw.blocksIn (packet :: rest) =
          cbw.blocksOf packet + cbw.blocksIn rest := by
        simp [blocksIn]
      rw [writes, List.flatMap_append, head, induction, parts, ← Nat.add_assoc,
        List.range'_append_1]

theorem payload_writes (c : Nat) {packets : List (List UInt8)}
    (whole : ∀ packet ∈ packets, cbw.isChunk packet) (write : cbw.isWrite) :
    (cbw.writes c packets).flatMap Call.payload = packets.flatten := by
  have positive := write.block_pos
  induction packets generalizing c with
  | nil => rfl
  | cons packet rest induction =>
      obtain ⟨blocks, some, -, length⟩ := whole packet List.mem_cons_self
      have count : cbw.blocksOf packet = blocks := by
        rw [blocksOf, length, Nat.mul_div_cancel _ positive]
      have head : (cbw.writesOf c packet).flatMap Call.payload = packet := by
        rw [writesOf, if_neg (by omega)]
        simp [payload_writeCall, count, ← length]
      rw [writes, List.flatMap_append, head, induction, List.flatten_cons]
      exact fun packet member => whole packet (List.mem_cons_of_mem _ member)

end CbWrap

theorem bytesIn_chunks {packets : List (List UInt8)} (write : cbw.isWrite)
    (whole : ∀ packet ∈ packets, cbw.isChunk packet) :
    bytesIn packets = cbw.blocksIn packets * cbw.writeBlock := by
  have positive := write.block_pos
  induction packets with
  | nil => simp [bytesIn, CbWrap.blocksIn]
  | cons packet rest induction =>
      obtain ⟨blocks, -, -, length⟩ := whole packet List.mem_cons_self
      have others := induction
        (fun packet member => whole packet (List.mem_cons_of_mem _ member))
      have count : cbw.blocksOf packet = blocks := by
        rw [CbWrap.blocksOf, length, Nat.mul_div_cancel _ positive]
      simp only [bytesIn, CbWrap.blocksIn, List.map_cons, List.sum_cons] at others ⊢
      rw [others, count, length, Nat.add_mul]

/-- What a run over one write has done.  Chunks of at most 128 blocks have
arrived; each is written once it has been handled, and the next transfer is
posted.  When all blocks have arrived one status wrapper is sent, and only the
last chunk is written after it. -/
def WriteOutcome (cbw : CbWrap) (start : Machine σ) (actions : List Action)
    (machine : Machine σ) : Prop :=
  machine.control = .running ∧
  (actions ≠ [] → machine.usbcmd.dBytes ≤ machine.usbcmd.dSize) ∧
  ∃ events packets, machine.log = start.log ++ events ∧
    dataPackets events = packets ∧ (∀ packet ∈ packets, cbw.isChunk packet) ∧
    ((deeds events = (cbw.writes 0 packets).map .write ∧
        cbw.blocksIn packets < cbw.nsectors ∧
        (actions.getLast? = some .iterate → ∃ buf, machine.outs =
          [⟨buf, min (cbw.nsectors - cbw.blocksIn packets) 128 *
            cbw.writeBlock⟩])) ∨
      (∃ initial last, packets = initial ++ [last] ∧
        cbw.blocksIn packets ≤ cbw.nsectors ∧
        deeds events = (cbw.writes 0 initial).map .write ∧
        actions.getLast? ≠ some .iterate) ∨
      ∃ initial last csw, packets = initial ++ [last] ∧
        csw.tag = cbw.tag ∧
        deeds events = (cbw.writes 0 initial).map .write ++ .status csw ::
          (cbw.writesOf (cbw.blocksIn initial) last).map .write ∧
        (cbw.writes 0 packets).flatMap Call.targets =
          List.range' cbw.offset cbw.nsectors ∧
        (cbw.writes 0 packets).flatMap Call.payload = packets.flatten)

theorem nextLength_mul (write : cbw.isWrite) (blocks : Nat) :
    cbw.nextLength (blocks * cbw.writeBlock) =
      min (cbw.nsectors - blocks) 128 * cbw.writeBlock := by
  have positive := write.block_pos
  rw [CbWrap.nextLength, CbWrap.writeSize, ← Nat.sub_mul,
    Nat.mul_div_cancel _ positive]

private theorem WriteProgress.outcome {start : Machine σ}
    {actions : List Action} {packets : List (List UInt8)} {made : List Deed}
    (write : cbw.isWrite) (received : WriteReceived P cbw start)
    (progress : WriteProgress P cbw (handleIdle P start) actions machine packets
      made) :
    WriteOutcome cbw start actions machine := by
  obtain ⟨serving, phase, chunks, events, log, -, gathered, done⟩ := progress
  obtain ⟨buf, started⟩ := (received.started write).log
  have positive := write.block_pos
  have whole := bytesIn_chunks write chunks
  have counted : machine.usbcmd.dBytes ≤ machine.usbcmd.dSize := by
    cases phase with
    | waiting waiting =>
        have counted := waiting.counted
        rw [counted.dBytes, counted.dSize]
        exact counted.atMost
    | holding holding =>
        have counted := holding.counted
        rw [counted.dBytes, counted.dSize]
        exact counted.atMost
    | completed _ counted =>
        exact Nat.le_of_eq (counted.dBytes.trans counted.dSize.symm)
  rw [started, List.append_assoc, List.append_assoc] at log
  refine ⟨serving.running, fun _ => counted, _, packets, log, ?_, chunks, ?_⟩
  · exact gathered
  · have deedsAll : deeds ([.rxLoad buf []] ++ ([.command cbw] ++ events)) =
        made := done
    rw [deedsAll]
    cases phase with
    | waiting waiting position free posted more =>
        rw [whole, nextLength_mul write] at posted
        refine .inl ⟨rfl, ?_, fun _ => ⟨_, posted⟩⟩
        rw [whole] at more
        exact Nat.lt_of_mul_lt_mul_right more
    | holding holding position free unhandled =>
        refine .inr (.inl ⟨_, _, rfl, write.blocksIn_le ?_, rfl, unhandled⟩)
        rw [bytesIn_snoc]
        exact holding.atMost
    | completed idle counted empty posted all tag good =>
        refine .inr (.inr ⟨_, _, _, rfl, tag, rfl, ?_, ?_⟩)
        · rw [whole] at all
          rw [CbWrap.targets_writes, Nat.mul_right_cancel positive all,
            Nat.add_zero]
        · exact CbWrap.payload_writes 0 chunks write

/-- A write command hands the blocks it names to the media, each of them once
and in order, and sends one status, whatever the order of iterations and
completions. -/
theorem write_covers_range (lockOpen : LockOpen P) (write : cbw.isWrite)
    (some : 0 < cbw.nsectors) (ordinary : cbw.ordinary) {start : Machine σ}
    (received : CommandReceived cbw start)
    (unlocked : P.secureBootLock start.platform = 0) {actions : List Action}
    (run : Run (step P) (fun _ action => action.servesWrite cbw.writeBlock)
      start actions machine) :
    WriteOutcome cbw start actions machine := by
  have reported : WriteReceived P cbw start :=
    ⟨received.running, received.quiet, received.idle, received.received,
      received.packet, received.outs, unlocked⟩
  rcases writeProgress_of_run lockOpen write some ordinary reported
    ⟨received.finished, received.ins⟩ run with
      ⟨rfl, rfl⟩ | ⟨packets, made, progress⟩
  · refine ⟨received.running, fun acted => absurd rfl acted, [], [], by simp,
      rfl, by simp, .inl ⟨rfl, some, ?_⟩⟩
    intro iterated
    cases iterated
  · exact progress.outcome write reported

instance (block : Nat) : ∀ action : Action,
    Decidable (action.servesWrite block)
  | .iterate => .isTrue trivial
  | .inDone _ status _ => inferInstanceAs (Decidable (status = 0))
  | .outDone .. => inferInstanceAs (Decidable (_ ∧ _ ∧ _))
  | .outDrop .. => .isFalse id
  | .bus .. => .isFalse id

private def writeBlockPacket : List UInt8 :=
  cbwPacket 7 1536 0x15 0 5 3

/-- A write of three blocks in packets of one and two. -/
theorem write_covers_range_packets :
    ∃ machine : Machine Unit, csws machine.log ≠ [] ∧
      WriteOutcome
        (CbWrap.ofBuffer (Memory.storeList (fun _ => 0) 0 writeBlockPacket))
        (receivedMachine writeBlockPacket ())
        [.iterate, .outDone 0 0 (List.replicate 512 1), .iterate,
          .outDone 0 0 (List.replicate 1024 2), .iterate] machine := by
  have passed : (execute (step (readOnlyStorage 0 fun _ => 0))
      (fun _ action => action.servesWrite 512)
      (receivedMachine writeBlockPacket ())
      [.iterate, .outDone 0 0 (List.replicate 512 1), .iterate,
        .outDone 0 0 (List.replicate 1024 2), .iterate]).any
        (fun machine => decide (csws machine.log ≠ [])) = true := by
    decide +kernel
  obtain ⟨final, run, answered⟩ := Run.exists_of_execute passed
  refine ⟨final, by simpa using answered, ?_⟩
  have lockOpen : LockOpen (readOnlyStorage 0 fun _ => 0) :=
    fun _ _ _ _ => rfl
  refine write_covers_range lockOpen (.inr (by decide)) (by decide)
    (by unfold CbWrap.ordinary; decide) ?_ rfl run
  exact ⟨rfl, by decide, rfl, by decide, ⟨0, rfl, rfl⟩, rfl, rfl, rfl⟩

end KernelDrivers.Rockusb
