import KernelDrivers.Rockusb.WriteRun

/-!
# Storing what a write command receives

A write on any platform, with packets of any length: how many of the packets
are handed to the platform, and when its status is sent.
-/

namespace KernelDrivers.Rockusb

open KernelDrivers.Library

variable {σ : Type} {P : Platform σ} {machine start : Machine σ}
variable {cbw : CbWrap}

/-- The calls that hand received blocks to the platform. -/
def Call.isStore : Call → Bool
  | .storageWriteLba .. => true
  | .storageWritePba .. => true
  | .storageVendorSysDataStore .. => true
  | .secureBootUnlock _ => true
  | .vendorStorageWrite .. => true
  | _ => false

/-- The calls in a log that store received blocks. -/
def stores (log : List (Event σ)) : List (Call × Reply) :=
  (calls log).filter fun entry => entry.1.isStore

/-- The lock does not keep the received blocks from the storage.  It is looked
at behind the call that sets the loader flag, and not for the windows. -/
def Machine.storesChunk (P : Platform σ) (machine : Machine σ) : Prop :=
  if machine.usbcmd.cmnd = kFwWrite10 then
    P.secureBootLock (P.next machine.platform (.iSetLoaderFlag .sysLoaderErr)) =
      0
  else
    lbaWindow machine.usbcmd.lba = .media →
      P.secureBootLock machine.platform = 0

instance (P : Platform σ) (machine : Machine σ) :
    Decidable (machine.storesChunk P) :=
  inferInstanceAs (Decidable (if machine.usbcmd.cmnd = kFwWrite10 then _ = 0
    else _ → _ = 0))

theorem storesChunk_raw (raw : machine.usbcmd.cmnd = kFwWrite10) :
    machine.storesChunk P ↔ P.secureBootLock
      (P.next machine.platform (.iSetLoaderFlag .sysLoaderErr)) = 0 := by
  rw [Machine.storesChunk, if_pos raw]

theorem storesChunk_logical (logical : machine.usbcmd.cmnd = kFwLbaWrite10) :
    machine.storesChunk P ↔ (lbaWindow machine.usbcmd.lba = .media →
      P.secureBootLock machine.platform = 0) := by
  have different : ¬machine.usbcmd.cmnd = kFwWrite10 := by
    rw [logical]
    decide
  rw [Machine.storesChunk, if_neg different]

/-- Whole blocks that have been received are not kept from the storage. -/
def ChunkSound (P : Platform σ) (machine : Machine σ) : Action → Prop
  | .iterate => machine.usbcmd.status = .rxdata →
      machine.usbcmd.rxGiveback.status = .recvOk →
      machine.usbcmd.rxGiveback.actual / rxBlockLength machine.usbcmd.cmnd ≠ 0 →
      machine.storesChunk P
  | _ => True

/-- Received blocks were handed to the platform, or kept from it. -/
structure ChunkHandled (made : Nat) (before after : Machine σ) : Prop where
  usbcmd : ∃ lba, after.usbcmd = { before.usbcmd with lba := lba }
  ins : after.ins = before.ins
  outs : after.outs = before.outs
  control : after.control = before.control
  log : ∃ events, after.log = before.log ++ events ∧
    (∀ event ∈ events, event.isInner = true) ∧ (stores events).length = made

@[simp] theorem stores_append (first second : List (Event σ)) :
    stores (first ++ second) = stores first ++ stores second := by
  simp [stores]

namespace ChunkHandled

variable {before middle after : Machine σ} {made made' : Nat}

theorem refl (machine : Machine σ) : ChunkHandled 0 machine machine :=
  ⟨⟨_, rfl⟩, rfl, rfl, rfl, [], by simp, by simp, rfl⟩

theorem trans (first : ChunkHandled made before middle)
    (second : ChunkHandled made' middle after) :
    ChunkHandled (made + made') before after := by
  obtain ⟨lba, usbcmd⟩ := first.usbcmd
  obtain ⟨lba', usbcmd'⟩ := second.usbcmd
  obtain ⟨events, log, inner, count⟩ := first.log
  obtain ⟨events', log', inner', count'⟩ := second.log
  refine ⟨⟨lba', by rw [usbcmd', usbcmd]⟩, second.ins.trans first.ins,
    second.outs.trans first.outs, second.control.trans first.control,
    events ++ events', by rw [log', log, List.append_assoc], ?_, ?_⟩
  · exact List.forall_mem_append.mpr ⟨inner, inner'⟩
  · rw [stores_append, List.length_append, count, count']

theorem perform (machine : Machine σ) {call : Call}
    (other : call.isStore = false) :
    ChunkHandled 0 machine (machine.perform P call) := by
  refine ⟨⟨_, rfl⟩, rfl, rfl, rfl, [_], rfl, by simp [Event.isInner], ?_⟩
  simp [stores, calls, other]

theorem store (machine : Machine σ) (buf : Fin 2) {call : Call}
    (isStore : call.isStore = true) :
    ChunkHandled 1 machine ((machine.loadRx buf).perform P call) := by
  refine ⟨⟨_, rfl⟩, rfl, rfl, rfl,
    [.rxLoad buf (machine.outs.map Transfer.buf),
      .call call (P.reply machine.platform call)], ?_, ?_, ?_⟩
  · simp only [Machine.perform_log, Machine.loadRx_log, List.append_assoc]
    rfl
  · simp [Event.isInner]
  · simp [stores, calls, isStore]

theorem advance (machine : Machine σ) (blocks : Nat) :
    ChunkHandled 0 machine (machine.update fun usbcmd =>
      { usbcmd with lba := wrap32 (usbcmd.lba + blocks) }) :=
  ⟨⟨_, rfl⟩, rfl, rfl, rfl, [], by simp, by simp, rfl⟩

theorem writePba (raw : machine.usbcmd.cmnd = kFwWrite10) (buf : Fin 2)
    (blocks : Nat) :
    ChunkHandled (if machine.storesChunk P then 1 else 0) machine
      (writePba P machine buf blocks) := by
  have flagged : ChunkHandled 0 machine
      (machine.perform P (.iSetLoaderFlag .sysLoaderErr)) := perform machine rfl
  have test : machine.storesChunk P ↔ P.secureBootLock
      (machine.perform P (.iSetLoaderFlag .sysLoaderErr)).platform = 0 :=
    storesChunk_raw raw
  unfold Rockusb.writePba
  dsimp only
  by_cases taken : machine.storesChunk P
  · rw [if_pos taken, if_pos (test.mp taken)]
    exact (flagged.trans (store _ buf rfl)).trans (advance _ blocks)
  · rw [if_neg taken, if_neg (mt test.mpr taken)]
    exact flagged

theorem writeLba (logical : machine.usbcmd.cmnd = kFwLbaWrite10) (buf : Fin 2)
    (blocks : Nat) :
    ChunkHandled (if machine.storesChunk P then 1 else 0) machine
      (writeLba P machine buf blocks) := by
  have test := storesChunk_logical (P := P) logical
  unfold Rockusb.writeLba
  dsimp only
  cases window : lbaWindow machine.usbcmd.lba with
  | sysData =>
      rw [if_pos (test.mpr (by simp [window]))]
      exact (store machine buf rfl).trans (advance _ blocks)
  | unlock =>
      rw [if_pos (test.mpr (by simp [window]))]
      exact store machine buf rfl
  | vendor =>
      rw [if_pos (test.mpr (by simp [window]))]
      exact (store machine buf rfl).trans (advance _ blocks)
  | media =>
      by_cases taken : machine.storesChunk P
      · rw [if_pos taken]
        dsimp only
        rw [if_pos (test.mp taken window)]
        exact (store machine buf rfl).trans (advance _ blocks)
      · have locked : ¬P.secureBootLock machine.platform = 0 :=
          fun unlocked => taken (test.mpr fun _ => unlocked)
        rw [if_neg taken]
        dsimp only
        rw [if_neg locked]
        exact refl machine

/-- Received blocks reach the platform by one call, unless the lock keeps them
from it. -/
theorem writeMedia (write : cbw.isWrite)
    (cmnd : machine.usbcmd.cmnd = cbw.opcode) (buf : Fin 2) (blocks : Nat) :
    ChunkHandled (if blocks ≠ 0 ∧ machine.storesChunk P then 1 else 0)
      machine (writeMedia P machine (some buf) blocks) := by
  unfold Rockusb.writeMedia
  by_cases none : blocks = 0
  · rw [if_pos none, if_neg (by simp [none])]
    exact refl machine
  · rw [if_neg none]
    simp only [ne_eq, none, not_false_eq_true, true_and]
    rcases write with raw | logical
    · have isRaw : machine.usbcmd.cmnd = kFwWrite10 := cmnd.trans raw
      simp only [isRaw, if_true]
      exact writePba isRaw buf blocks
    · have isLogical : machine.usbcmd.cmnd = kFwLbaWrite10 :=
        cmnd.trans logical
      have different : ¬kFwLbaWrite10 = kFwWrite10 := by decide
      simp only [isLogical, different, if_true, if_false]
      exact writeLba isLogical buf blocks

end ChunkHandled

/-- Between two states the log gained the packets of data `packets`, the
wrappers `statuses` and `made` calls that store. -/
def Tallies (before after : Machine σ) (packets : List (List UInt8))
    (statuses : List CsWrap) (made : Nat) : Prop :=
  ∃ events, after.log = before.log ++ events ∧
    dataPackets events = packets ∧ csws events = statuses ∧
    (stores events).length = made

namespace Tallies

variable {before middle after : Machine σ}
variable {packets packets' : List (List UInt8)}
variable {statuses statuses' : List CsWrap} {made made' : Nat}

theorem trans (first : Tallies before middle packets statuses made)
    (second : Tallies middle after packets' statuses' made') :
    Tallies before after (packets ++ packets') (statuses ++ statuses')
      (made + made') := by
  obtain ⟨events, log, packets, statuses, count⟩ := first
  obtain ⟨events', log', packets', statuses', count'⟩ := second
  refine ⟨events ++ events', by rw [log', log, List.append_assoc], ?_, ?_, ?_⟩
  · rw [dataPackets_append, packets, packets']
  · rw [csws_append, statuses, statuses']
  · rw [stores_append, List.length_append, count, count']

theorem lowFormat (machine : Machine σ) :
    Tallies machine (machine.perform P .fwSorageLowFormat) [] [] 0 :=
  ⟨[_], rfl, rfl, rfl, rfl⟩

theorem of_handled (handled : ChunkHandled made before after) :
    Tallies before after [] [] made := by
  obtain ⟨events, log, inner, count⟩ := handled.log
  exact ⟨events, log, dataPackets_inner inner, csws_inner inner, count⟩

end Tallies

/-- A command is being served, on whatever platform. -/
abbrev Served (cbw : CbWrap) (machine : Machine σ) : Prop :=
  Serving (fun _ => True) cbw machine

theorem Served.lowFormat (served : Served cbw machine) :
    Served cbw (machine.perform P .fwSorageLowFormat) :=
  served.of_usbcmd trivial served.running rfl rfl rfl

section Chunk

variable {count : Nat} {packet : List UInt8}

theorem storesChunk_congr {after : Machine σ}
    (cmnd : after.usbcmd.cmnd = machine.usbcmd.cmnd)
    (lba : after.usbcmd.lba = machine.usbcmd.lba)
    (platform : after.platform = machine.platform) :
    after.storesChunk P ↔ machine.storesChunk P := by
  unfold Machine.storesChunk
  rw [cmnd, lba, platform]

/-- The calls that the handler makes for a packet. -/
def Machine.chunkCalls (P : Platform σ) (cbw : CbWrap) (packet : List UInt8)
    (machine : Machine σ) : Nat :=
  if cbw.blocksOf packet ≠ 0 ∧ machine.storesChunk P then 1 else 0

theorem Holding.handled (write : cbw.isWrite)
    (holding : Holding cbw count packet machine) (served : Served cbw machine) :
    ChunkHandled (machine.chunkCalls P cbw packet) machine.answerData
      (rkusbHandleDatarx P machine) := by
  obtain ⟨buf, inBuf, -⟩ := holding.buf
  have posted := Posted.answerData (P := P) machine
  have shape : rkusbHandleDatarx P machine =
      writeMedia P machine.answerData (some buf) (cbw.blocksOf packet) := by
    rw [rkusbHandleDatarx_eq, inBuf, holding.actual, served.cmnd]
    rfl
  have same := storesChunk_congr (P := P) posted.cmnd posted.lba
    posted.platform
  have handled := ChunkHandled.writeMedia (P := P) write
    (posted.cmnd.trans served.cmnd) buf (cbw.blocksOf packet)
  rw [shape]
  simpa only [Machine.chunkCalls, same] using handled

/-- A packet was handled and the next transfer posted. -/
structure ChunkTaken (P : Platform σ) (cbw : CbWrap) (count : Nat)
    (packet : List UInt8) (before after : Machine σ) : Prop where
  served : Served cbw after
  waiting : Waiting cbw (count + packet.length) after
  ins : after.ins = before.ins
  txGiveback : after.usbcmd.txGiveback = before.usbcmd.txGiveback
  tallies : Tallies before after [] [] (before.chunkCalls P cbw packet)

theorem Holding.taken (write : cbw.isWrite)
    (holding : Holding cbw count packet machine) (served : Served cbw machine)
    (more : count + packet.length < cbw.writeSize) :
    ChunkTaken P cbw count packet machine (doRockusb P machine) := by
  have requested := holding.requested write served.cmnd more
  have handled := holding.handled (P := P) write served
  obtain ⟨lba, usbcmd⟩ := handled.usbcmd
  have waiting : Waiting cbw _ (rkusbHandleDatarx P machine) :=
    (requested.waiting holding.counted.dSize (Nat.le_of_lt more)
      holding.outs).of_usbcmd usbcmd handled.outs
  rw [requested.usbcmd] at usbcmd
  have still : Served cbw (rkusbHandleDatarx P machine) := by
    apply served.of_usbcmd trivial
    · rw [handled.control, requested.control, served.running]
    all_goals rw [usbcmd]
  rw [doRockusb_holding holding served.running rfl still.running still.quiet
    (by simp [waiting.status])]
  have asked : Tallies machine machine.answerData [] [] 0 :=
    ⟨_, requested.log, rfl, rfl, rfl⟩
  refine ⟨still.lowFormat, waiting.of_usbcmd rfl rfl, ?_, ?_, ?_⟩
  · rw [Machine.perform_ins, handled.ins, requested.ins]
  · rw [Machine.perform_usbcmd, usbcmd]
  · simpa using (asked.trans (.of_handled handled)).trans (.lowFormat _)

/-- The command has been answered with GOOD, and `made` calls were made. -/
structure Concluded (cbw : CbWrap) (made : Nat) (before after : Machine σ) :
    Prop where
  served : Served cbw after
  idle : after.usbcmd.status = .idle
  empty : after.usbcmd.rxGiveback.actual = 0
  outs : ∃ buf, after.outs = [⟨buf, 31⟩]
  tallies : ∃ csw, csw.status = cswGood ∧
    Tallies before after [] [csw] made

theorem Concluded.of_sent (served : Served cbw machine)
    (outs : machine.outs = []) {replied sent handled : Machine σ} {made : Nat}
    (reply : Replied cbw machine replied) (csw : CswSent replied sent)
    (stored : ChunkHandled made sent handled) :
    Concluded cbw made machine handled := by
  obtain ⟨dBytes, wrapper, registers⟩ := reply.usbcmd
  obtain ⟨lba, usbcmd⟩ := stored.usbcmd
  rw [csw.usbcmd] at usbcmd
  have log := csw.log
  rw [reply.log] at log
  have told : Tallies machine sent [] [replied.pendingCsw] 0 :=
    ⟨_, log, rfl, rfl, rfl⟩
  refine ⟨?_, ?_, ?_, ⟨machine.usbcmd.rxbufNum, ?_⟩, replied.pendingCsw,
    reply.good, ?_⟩
  · apply served.of_usbcmd trivial
    · rw [stored.control, csw.control, reply.control, served.running]
    all_goals
      rw [usbcmd, registers]
  · rw [usbcmd]
  · rw [usbcmd]
  · rw [stored.outs, csw.outs, reply.outs, outs, registers]
    rfl
  · simpa using told.trans (.of_handled stored)

theorem Concluded.lowFormat {made : Nat} {after : Machine σ}
    (answered : Concluded cbw made machine after) :
    Concluded cbw made machine (after.perform P .fwSorageLowFormat) := by
  obtain ⟨csw, good, tallies⟩ := answered.tallies
  refine ⟨answered.served.lowFormat, answered.idle, answered.empty,
    answered.outs, csw, good, ?_⟩
  simpa using tallies.trans (.lowFormat after)

theorem Holding.answered (write : cbw.isWrite)
    (holding : Holding cbw count packet machine) (served : Served cbw machine)
    (last : count + packet.length = cbw.writeSize)
    (free : machine.usbcmd.txGiveback.status = .sendFinishedOk) :
    Concluded cbw (machine.chunkCalls P cbw packet) machine
      (doRockusb P machine) := by
  obtain ⟨replied, reply, sent⟩ := answerData_sent write holding.counted
    (by rw [holding.actual, last]) free
  have handled := Concluded.of_sent served holding.outs reply sent
    (holding.handled (P := P) write served)
  rw [doRockusb_holding holding served.running rfl handled.served.running
    handled.served.quiet (by simp [handled.idle])]
  exact handled.lowFormat

end Chunk

/-- The actions of one write: iterations, completions that are OK, and no
packet for the next command. -/
def Machine.receivesData (machine : Machine σ) : Action → Prop
  | .iterate => True
  | .inDone _ status _ => status = 0
  | .outDone index status _ =>
      status = 0 ∧ ∀ transfer ∈ machine.outs[index]?, ¬transfer.isCbw
  | _ => False

instance (machine : Machine σ) :
    ∀ action, Decidable (machine.receivesData action)
  | .iterate => .isTrue trivial
  | .inDone _ status _ => inferInstanceAs (Decidable (status = 0))
  | .outDone index status _ => inferInstanceAs (Decidable (status = 0 ∧
      ∀ transfer ∈ machine.outs[index]?, ¬transfer.isCbw))
  | .outDrop .. => .isFalse id
  | .bus .. => .isFalse id

/-- The packets that complete OUT transfers among the actions. -/
def packetsIn (actions : List Action) : List (List UInt8) :=
  actions.filterMap fun action =>
    match action with
    | .outDone _ _ packet => some packet
    | _ => none

/-- The packets with whole blocks. -/
def CbWrap.chunksIn (cbw : CbWrap) (packets : List (List UInt8)) : Nat :=
  packets.countP fun packet => cbw.blocksOf packet ≠ 0

/-- `made` calls were made for the packets handled: one for each with whole
blocks as long as `sound` holds, and fewer otherwise. -/
structure Accounted (cbw : CbWrap) (handled : List (List UInt8)) (made : Nat)
    (sound : Prop) : Prop where
  atMost : made ≤ cbw.chunksIn handled
  exact_iff : made = cbw.chunksIn handled ↔ sound

theorem Accounted.congr {handled : List (List UInt8)} {made : Nat}
    {sound sound' : Prop} (accounted : Accounted cbw handled made sound)
    (same : sound' ↔ sound) : Accounted cbw handled made sound' :=
  ⟨accounted.atMost, accounted.exact_iff.trans same.symm⟩

theorem Accounted.snoc {handled : List (List UInt8)} {made : Nat}
    {sound : Prop} (accounted : Accounted cbw handled made sound)
    (packet : List UInt8) (machine : Machine σ) :
    Accounted cbw (handled ++ [packet])
      (made + machine.chunkCalls P cbw packet)
      (sound ∧ (cbw.blocksOf packet ≠ 0 → machine.storesChunk P)) := by
  have atMost := accounted.atMost
  have exact_iff := accounted.exact_iff
  have grown : cbw.chunksIn (handled ++ [packet]) = cbw.chunksIn handled +
      if cbw.blocksOf packet ≠ 0 then 1 else 0 := by
    simp [CbWrap.chunksIn, List.countP_append, List.countP_singleton]
  rw [← exact_iff]
  unfold Machine.chunkCalls
  by_cases blocks : cbw.blocksOf packet ≠ 0
  · by_cases taken : machine.storesChunk P
    · rw [if_pos ⟨blocks, taken⟩]
      rw [if_pos blocks] at grown
      refine ⟨by omega, ?_⟩
      simp only [taken, implies_true, and_true]
      omega
    · rw [if_neg (fun both => taken both.2)]
      rw [if_pos blocks] at grown
      refine ⟨by omega, ?_⟩
      constructor
      · intro equal
        omega
      · rintro ⟨-, stored⟩
        exact absurd (stored blocks) taken
  · rw [if_neg (fun both => blocks both.1)]
    rw [if_neg blocks] at grown
    refine ⟨by omega, ?_⟩
    simp only [blocks, false_implies, and_true]
    omega

/-- Where a write stands: the packets received, those handled, and the wrappers
sent. -/
inductive StorePhase (cbw : CbWrap) (machine : Machine σ) :
    List (List UInt8) → List (List UInt8) → List CsWrap → Prop where
  | waiting {packets : List (List UInt8)} :
      Waiting cbw (bytesIn packets) machine → machine.InFree →
      StorePhase cbw machine packets packets []
  | holding {packets : List (List UInt8)} {packet : List UInt8} :
      Holding cbw (bytesIn packets) packet machine → machine.InFree →
      StorePhase cbw machine (packets ++ [packet]) packets []
  | answered {packets : List (List UInt8)} {csw : CsWrap} {buf : Fin 2} :
      machine.usbcmd.status = .idle →
      machine.usbcmd.rxGiveback.actual = 0 →
      machine.outs = [⟨buf, 31⟩] →
      bytesIn packets = cbw.writeSize → csw.status = cswGood →
      StorePhase cbw machine packets packets [csw]

/-- The command after some actions, the first of which was an iteration. -/
structure StoreProgress (P : Platform σ) (cbw : CbWrap) (start : Machine σ)
    (actions : List Action) (machine : Machine σ)
    (packets : List (List UInt8)) (statuses : List CsWrap) : Prop where
  served : Served cbw machine
  stage : ∃ handled made, StorePhase cbw machine packets handled statuses ∧
    Tallies start machine packets statuses made ∧
    Accounted cbw handled made (Along (step P) (ChunkSound P) start actions)

section Progress

variable {actions : List Action} {packets : List (List UInt8)}
variable {statuses : List CsWrap}

theorem WritePrepared.answers (write : cbw.isWrite) (none : cbw.nsectors = 0)
    (prepared : WritePrepared cbw machine) (served : Served cbw machine)
    (free : machine.usbcmd.txGiveback.status = .sendFinishedOk)
    {start : Machine σ} (first : handleIdle P start = machine) :
    Concluded cbw 0 machine (doRockusb P start) := by
  have size : cbw.writeSize = 0 := by rw [CbWrap.writeSize, none, Nat.zero_mul]
  obtain ⟨replied, reply, sent⟩ := answerData_sent write prepared.counted
    (by rw [prepared.empty, size]) free
  have answered : Concluded cbw 0 machine machine.answerData :=
    Concluded.of_sent served prepared.outs reply sent (.refl _)
  rw [doRockusb_response first prepared.response served.running
    answered.served.running answered.served.quiet
    (handleCsw_other (by simp [answered.idle]))]
  exact answered.lowFormat

/-- The first iteration executes the command. -/
theorem storeProgress_first (write : cbw.isWrite)
    (received : CommandReceived cbw start) :
    ∃ statuses, StoreProgress P cbw start ([] ++ [.iterate])
      (doRockusb P start) [] statuses := by
  have started : WriteStarted (fun _ => True) cbw start (handleIdle P start) :=
    writeStarted write received.running received.quiet received.idle
      received.received received.packet received.outs trivial
  have prepared := started.prepared
  have free : (handleIdle P start).usbcmd.txGiveback.status =
      .sendFinishedOk := by
    rw [started.txGiveback, received.finished]
  obtain ⟨buf, log⟩ := started.log
  have executed : Tallies start (handleIdle P start) [] [] 0 :=
    ⟨_, by rw [log, List.append_assoc], rfl, rfl, rfl⟩
  have empty : Run (step P) (fun _ _ => True) start [] start := .nil
  have accounted : Accounted cbw [] 0
      (Along (step P) (ChunkSound P) start ([] ++ [.iterate])) := by
    refine ⟨Nat.zero_le _, iff_of_true rfl ?_⟩
    refine (along_snoc empty).mpr ⟨along_nil, ?_⟩
    intro busy
    simp [received.idle] at busy
  by_cases some : 0 < cbw.nsectors
  · obtain ⟨handled, requested, served, waiting, shape⟩ :=
      prepared.requested write some started.serving rfl
    have asked : Tallies (handleIdle P start) handled [] [] 0 :=
      ⟨_, requested.log, rfl, rfl, rfl⟩
    rw [shape]
    refine ⟨[], Served.lowFormat served, [], 0,
      .waiting (waiting.of_usbcmd rfl rfl) ⟨?_, ?_⟩, ?_, accounted⟩
    · rw [Machine.perform_usbcmd, requested.usbcmd]
      exact free
    · rw [Machine.perform_ins, requested.ins, started.ins, received.ins]
    · simpa using (executed.trans asked).trans (.lowFormat handled)
  · have none : cbw.nsectors = 0 := Nat.eq_zero_of_not_pos some
    have answered := prepared.answers (P := P) write none started.serving free
      rfl
    obtain ⟨buf, posted⟩ := answered.outs
    obtain ⟨csw, good, tallies⟩ := answered.tallies
    refine ⟨[csw], answered.served, [], 0,
      .answered answered.idle answered.empty posted ?_ good, ?_, accounted⟩
    · rw [CbWrap.writeSize, none, Nat.zero_mul]
      rfl
    · simpa using executed.trans tallies

theorem Holding.chunkSound_iff {count : Nat} {packet : List UInt8}
    (holding : Holding cbw count packet machine) (served : Served cbw machine) :
    ChunkSound P machine .iterate ↔
      (cbw.blocksOf packet ≠ 0 → machine.storesChunk P) := by
  simp only [ChunkSound, holding.status, holding.received, holding.actual,
    served.cmnd, forall_const]
  rfl

theorem Accounted.step {handled : List (List UInt8)} {made : Nat}
    {guard : Machine σ → Action → Prop} {action : Action}
    (run : Run (step P) guard start actions machine)
    (accounted : Accounted cbw handled made
      (Along (Rockusb.step P) (ChunkSound P) start actions))
    (sound : ChunkSound P machine action) :
    Accounted cbw handled made
      (Along (Rockusb.step P) (ChunkSound P) start (actions ++ [action])) :=
  accounted.congr ((along_snoc run).trans (and_iff_left sound))

theorem StoreProgress.iterate {guard : Machine σ → Action → Prop}
    (write : cbw.isWrite) (run : Run (step P) guard start actions machine)
    (progress : StoreProgress P cbw start actions machine packets statuses) :
    ∃ statuses, StoreProgress P cbw start (actions ++ [.iterate])
      (doRockusb P machine) packets statuses := by
  obtain ⟨served, handled, made, phase, tallies, accounted⟩ := progress
  have checked : Tallies start (machine.perform P .fwSorageLowFormat) packets
      statuses made := by
    simpa using tallies.trans (.lowFormat machine)
  cases phase with
  | waiting waiting free =>
      have silent : ChunkSound P machine .iterate := by
        intro _ arrived
        exact absurd arrived waiting.notYet
      rw [doRockusb_waiting waiting served]
      exact ⟨[], served.lowFormat, packets, made,
        .waiting (waiting.of_usbcmd rfl rfl) free, checked,
        accounted.step run silent⟩
  | @holding handled packet holding free =>
      have accounted' := (accounted.snoc (P := P) packet machine).congr
        (((along_snoc run).trans
          (and_congr_right fun _ => holding.chunkSound_iff served)))
      by_cases more : bytesIn handled + packet.length < cbw.writeSize
      · have taken := holding.taken (P := P) write served more
        have waiting := taken.waiting
        rw [← bytesIn_snoc] at waiting
        refine ⟨[], taken.served, _, _, .waiting waiting ⟨?_, ?_⟩, ?_,
          accounted'⟩
        · rw [taken.txGiveback, free.1]
        · rw [taken.ins, free.2]
        · simpa using tallies.trans taken.tallies
      · have last : bytesIn handled + packet.length = cbw.writeSize :=
          Nat.le_antisymm holding.atMost (Nat.le_of_not_lt more)
        have answered := holding.answered (P := P) write served last free.1
        obtain ⟨buf, posted⟩ := answered.outs
        obtain ⟨csw, good, told⟩ := answered.tallies
        refine ⟨[csw], answered.served, _, _,
          .answered answered.idle answered.empty posted ?_ good, ?_,
          accounted'⟩
        · rw [bytesIn_snoc, last]
        · simpa using tallies.trans told
  | answered idle empty posted all good =>
      have silent : ChunkSound P machine .iterate := by
        intro busy
        simp [idle] at busy
      rw [doRockusb_idle idle empty served.running served.quiet]
      exact ⟨_, served.lowFormat, packets, made,
        .answered idle empty posted all good, checked,
        accounted.step run silent⟩

theorem StoreProgress.inDone {guard : Machine σ → Action → Prop}
    {index actual : Nat} {transfer : Transfer}
    (run : Run (step P) guard start actions machine)
    (progress : StoreProgress P cbw start actions machine packets statuses)
    (outstanding : machine.ins[index]? = some transfer) :
    StoreProgress P cbw start (actions ++ [.inDone index 0 actual])
      (completeIn machine index transfer 0 actual) packets statuses := by
  obtain ⟨served, handled, made, phase, tallies, accounted⟩ := progress
  have still : Served cbw (completeIn machine index transfer 0 actual) :=
    served.of_usbcmd trivial served.running rfl rfl rfl
  have silent : ChunkSound P machine (.inDone index 0 actual) := trivial
  cases phase with
  | waiting waiting free =>
      rw [free.2] at outstanding
      cases outstanding
  | holding holding free =>
      rw [free.2] at outstanding
      cases outstanding
  | answered idle empty posted all good =>
      have completed : Tallies machine
          (completeIn machine index transfer 0 actual) [] [] 0 :=
        ⟨[_], rfl, rfl, rfl, rfl⟩
      refine ⟨still, packets, made, .answered idle empty posted all good, ?_,
        accounted.step run silent⟩
      simpa using tallies.trans completed

theorem StoreProgress.outDone {guard : Machine σ → Action → Prop}
    {index : Nat} {transfer : Transfer} {packet : List UInt8}
    (write : cbw.isWrite) (run : Run (step P) guard start actions machine)
    (progress : StoreProgress P cbw start actions machine packets statuses)
    (outstanding : machine.outs[index]? = some transfer)
    (data : ¬transfer.isCbw) (fits : packet.length ≤ transfer.len) :
    StoreProgress P cbw start (actions ++ [.outDone index 0 packet])
      (completeOut machine index transfer 0 packet) (packets ++ [packet])
      statuses := by
  obtain ⟨served, handled, made, phase, tallies, accounted⟩ := progress
  have still : Served cbw (completeOut machine index transfer 0 packet) :=
    served.of_usbcmd trivial served.running rfl rfl rfl
  have silent : ChunkSound P machine (.outDone index 0 packet) := trivial
  cases phase with
  | waiting waiting free =>
      have holding := (waiting.completeOut write outstanding fits).1
      have arrived : Tallies machine
          (completeOut machine index transfer 0 packet) [packet] [] 0 :=
        ⟨[_], rfl, by simp [dataPackets, data], rfl, rfl⟩
      refine ⟨still, packets, made, .holding holding free, ?_,
        accounted.step run silent⟩
      simpa using tallies.trans arrived
  | holding holding free =>
      rw [holding.outs] at outstanding
      cases outstanding
  | answered idle empty posted all good =>
      obtain ⟨rfl, -⟩ := only_transfer posted outstanding
      exact absurd rfl data

/-- Wherever a run over one write stands, the command has made progress. -/
theorem storeProgress_of_run (write : cbw.isWrite)
    (received : CommandReceived cbw start)
    (run : Run (step P) Machine.receivesData start actions machine) :
    (actions = [] ∧ machine = start) ∨
      ∃ statuses, StoreProgress P cbw start actions machine (packetsIn actions)
        statuses := by
  induction run with
  | nil => exact .inl ⟨rfl, rfl⟩
  | @snoc actions middle final action run allowed taken induction =>
      right
      unfold packetsIn at induction ⊢
      rw [List.filterMap_append]
      cases action with
      | iterate =>
          obtain rfl := step_iterate taken
          rcases induction with ⟨rfl, rfl⟩ | ⟨statuses, progress⟩
          · exact storeProgress_first write received
          · simpa using progress.iterate write run
      | inDone index status actual =>
          obtain rfl : status = 0 := allowed
          obtain ⟨transfer, outstanding, rfl⟩ := step_inDone taken
          rcases induction with ⟨rfl, rfl⟩ | ⟨statuses, progress⟩
          · simp [received.ins] at outstanding
          · exact ⟨statuses, by simpa using progress.inDone run outstanding⟩
      | outDone index status packet =>
          obtain ⟨rfl, data⟩ := allowed
          obtain ⟨transfer, outstanding, fits, rfl⟩ := step_outDone taken
          rcases induction with ⟨rfl, rfl⟩ | ⟨statuses, progress⟩
          · simp [received.outs] at outstanding
          · exact ⟨statuses, progress.outDone write run outstanding
              (data _ outstanding) fits⟩
      | outDrop => exact allowed.elim
      | bus => exact allowed.elim

/-- The status of a write is GOOD.  Behind it each packet with whole blocks has
been handed to the platform if nothing kept one from it, and fewer otherwise. -/
theorem StoreProgress.answer (write : cbw.isWrite)
    (progress : StoreProgress P cbw start actions machine packets statuses) :
    ∃ made, Tallies start machine packets statuses made ∧
      (statuses = [] ∨ ∃ csw, statuses = [csw] ∧ csw.status = cswGood ∧
        (made = cbw.chunksIn packets ↔
          Along (step P) (ChunkSound P) start actions) ∧
        (cbw.blocksIn packets = cbw.nsectors ↔
          ∀ packet ∈ packets, cbw.writeBlock ∣ packet.length)) := by
  obtain ⟨handled, made, phase, tallies, accounted⟩ := progress.stage
  refine ⟨made, tallies, ?_⟩
  cases phase with
  | waiting => exact .inl rfl
  | holding => exact .inl rfl
  | answered idle empty posted all good =>
      refine .inr ⟨_, rfl, good, accounted.exact_iff, ?_⟩
      rw [← CbWrap.blocksIn_mul_eq_iff, all, CbWrap.writeSize,
        Nat.mul_left_inj (Nat.ne_of_gt write.block_pos)]

end Progress

end KernelDrivers.Rockusb
