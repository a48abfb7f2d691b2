import KernelDrivers.Rockusb.ReadCommand

/-!
# Runs over one read command

The loop is iterated, and IN transfers complete, in any order from the moment
the packet of a read command has been reported.
-/

namespace KernelDrivers.Rockusb

open KernelDrivers.Library

variable {σ : Type} {P : Platform σ} {machine : Machine σ}

/-- Between two states the log grew by events that hand over the payloads
`sent`, send the wrappers `statuses` and make the loads `filled`. -/
def Emits (before after : Machine σ) (sent : List (List UInt8))
    (statuses : List CsWrap) (filled : List (Call × Reply)) : Prop :=
  ∃ events, after.log = before.log ++ events ∧ payloads events = sent ∧
    csws events = statuses ∧ loads events = filled

namespace Emits

variable {before middle after : Machine σ}
variable {sent sent' : List (List UInt8)} {statuses statuses' : List CsWrap}
variable {filled filled' : List (Call × Reply)}

theorem refl (machine : Machine σ) : Emits machine machine [] [] [] :=
  ⟨[], by simp, rfl, rfl, rfl⟩

theorem trans (first : Emits before middle sent statuses filled)
    (second : Emits middle after sent' statuses' filled') :
    Emits before after (sent ++ sent') (statuses ++ statuses')
      (filled ++ filled') := by
  obtain ⟨events, grown, payloads, csws, loads⟩ := first
  obtain ⟨events', grown', payloads', csws', loads'⟩ := second
  refine ⟨events ++ events', ?_, ?_, ?_, ?_⟩
  · rw [grown', grown, List.append_assoc]
  · rw [payloads_append, payloads, payloads']
  · rw [csws_append, csws, csws']
  · rw [loads_append, loads, loads']

theorem perform (machine : Machine σ) {call : Call}
    (other : call.isLoad = false) :
    Emits machine (machine.perform P call) [] [] [] := by
  refine ⟨[.call call (P.reply machine.platform call)], rfl, rfl, rfl, ?_⟩
  simp [loads, calls, other]

theorem completeIn (machine : Machine σ) (index : Nat) (transfer : Transfer)
    (status : Int) (actual : Nat) :
    Emits machine (completeIn machine index transfer status actual) [] [] [] :=
  ⟨[.txDone transfer status], rfl, rfl, rfl, rfl⟩

end Emits

theorem CswSent.emits {before after : Machine σ}
    (sent : CswSent before after) :
    Emits before after [before.pendingCsw.bytes] [before.pendingCsw] [] :=
  ⟨_, sent.log, rfl, rfl, rfl⟩

section Command

variable {Stable : σ → Prop} {Good : Nat → Memory → Prop}
variable {cbw : CbWrap} {c fills : Nat}

theorem Streaming.payload (streaming : Streaming Good cbw c machine) :
    machine.prereadPayload =
      (machine.txBuffer machine.usbcmd.txbufNum).bytes 0
        (min (cbw.nsectors - c) 128 * cbw.readBlock) := by
  rw [Machine.prereadPayload, streaming.reading.txdataSize]

theorem ChunkSent.emits {before after : Machine σ}
    (sent : ChunkSent Stable Good cbw c fills before after) :
    ∃ filled, filled.map Prod.fst = List.replicate fills
        (cbw.fillCall (c + min (cbw.nsectors - c) 128)) ∧
      Emits before after [before.prereadPayload] [] filled := by
  obtain ⟨hit, rest, grown, hitInner, inner, hitLoads, count⟩ := sent.log
  refine ⟨loads rest, count, _, grown, ?_, ?_, ?_⟩
  all_goals
    rw [← List.singleton_append (l := _ :: rest),
      ← List.singleton_append (l := rest)]
  · rw [payloads_append, payloads_append, payloads_inner inner,
      payloads_inner (by simpa using hitInner)]
    rfl
  · rw [csws_append, csws_append, csws_inner inner,
      csws_inner (by simpa using hitInner)]
    rfl
  · rw [loads_append, loads_append, hitLoads]
    rfl

/-- The storage calls that fetch the first `count` chunks. -/
def CbWrap.fillCalls (cbw : CbWrap) (count : Nat) : List Call :=
  (List.range count).map fun chunk => cbw.fillCall (128 * chunk)

@[simp] theorem CbWrap.length_fillCalls (cbw : CbWrap) (count : Nat) :
    (cbw.fillCalls count).length = count := by
  simp [fillCalls]

/-- All chunks but the last are full, so that a chunk that is read ahead begins
where the chunks before it end. -/
theorem Next.fillCalls {chunks count : Nat}
    (next : Next Good cbw c count machine)
    (full : c < cbw.nsectors → 128 * chunks = c) :
    cbw.fillCalls chunks ++ List.replicate count (cbw.fillCall c) =
      cbw.fillCalls (chunks + count) := by
  rcases next with ⟨-, -, rfl⟩ | ⟨streaming, rfl⟩
  · simp
  · rw [← full streaming.reading.left]
    simp [CbWrap.fillCalls, List.range_succ]

theorem Sent.count {n block c : Nat} {Good : Nat → Memory → Prop}
    {chunks : List (List UInt8)} (sent : Sent Good n block c chunks) :
    c ≤ n ∧ 128 * chunks.length < c + 128 ∧
      (c < n → 128 * chunks.length = c) := by
  induction sent with
  | nil => simp
  | snoc _ left _ induction =>
      simp only [List.length_append, List.length_singleton]
      omega

theorem Sent.covered {n block c : Nat} {Good : Nat → Memory → Prop}
    {chunks : List (List UInt8)} (sent : Sent Good n block c chunks) :
    c ≤ 128 * chunks.length := by
  induction sent with
  | nil => simp
  | snoc _ _ _ induction =>
      simp only [List.length_append, List.length_singleton]
      omega

/-- The cache holds what the command asks for first. -/
def CbWrap.hits (cbw : CbWrap) (preRead : Preread) : Prop :=
  preRead.preBlocks ≥ min cbw.nsectors 128 ∧ preRead.preLba = cbw.offset

instance (cbw : CbWrap) (preRead : Preread) : Decidable (cbw.hits preRead) :=
  inferInstanceAs (Decidable (_ ∧ _))

theorem CbWrap.not_hits (cbw : CbWrap) (some : 0 < cbw.nsectors)
    {preRead : Preread} (empty : preRead.preBlocks = 0) :
    ¬cbw.hits preRead := by
  rintro ⟨enough, -⟩
  omega

/-- The state in which the data stage of a read begins. -/
def Machine.readPrepared (machine : Machine σ) (buf : Fin 2) (block : Nat) :
    Machine σ :=
  (machine.accept buf).prepareRead block

theorem CommandReceived.prepared (received : CommandReceived cbw machine)
    (read : cbw.isRead) :
    ∃ buf, CbWrap.ofBuffer (machine.rxBuffer buf) = cbw ∧
      handleIdle P machine = machine.readPrepared buf cbw.readBlock := by
  obtain ⟨buf, inBuf, packet⟩ := received.packet
  refine ⟨buf, packet, ?_⟩
  rw [handleIdle_packet received.idle received.received inBuf]
  exact fwDispatch_read read (by simp [Machine.accept, packet])

theorem readPrepared_reading {buf : Fin 2}
    (packet : CbWrap.ofBuffer (machine.rxBuffer buf) = cbw)
    (read : cbw.isRead) (some : 0 < cbw.nsectors) :
    Reading cbw.nsectors cbw.readBlock 0
      (machine.readPrepared buf cbw.readBlock).usbcmd := by
  refine ⟨?_, read.block_cases, cbw.nsectors_lt, ?_, ?_, some⟩
  · simp [Machine.readPrepared, Machine.accept, packet, CbWrap.readBlock]
  · simp [Machine.readPrepared, Machine.accept, packet]
  · simp [Machine.readPrepared]

theorem readPrepared_hit {buf : Fin 2}
    (packet : CbWrap.ofBuffer (machine.rxBuffer buf) = cbw)
    (read : cbw.isRead) (some : 0 < cbw.nsectors) :
    (machine.readPrepared buf cbw.readBlock).usbcmd.prereadHit ↔
      cbw.hits machine.usbcmd.preRead := by
  have reading := readPrepared_reading packet read some
  unfold CmdRockusbInterface.prereadHit CbWrap.hits
  rw [reading.txBlocks]
  simp [Machine.readPrepared, Machine.accept, packet]
  omega

private theorem readPrepared_serving {buf : Fin 2}
    (received : CommandReceived cbw machine)
    (stable : Stable machine.platform)
    (packet : CbWrap.ofBuffer (machine.rxBuffer buf) = cbw) :
    Serving Stable cbw (machine.readPrepared buf cbw.readBlock) := by
  refine ⟨by simpa [Machine.readPrepared, Machine.accept] using stable,
    ?_, ?_, ?_, ?_⟩
  · simpa [Machine.readPrepared, Machine.accept] using received.running
  · simpa [Machine.readPrepared, Machine.accept, CmdRockusbInterface.Quiet]
      using received.quiet
  · simp [Machine.readPrepared, Machine.accept, packet]
  · simp [Machine.readPrepared, Machine.accept, packet]

theorem readPrepared_emits (buf : Fin 2) (block : Nat) :
    Emits machine (machine.readPrepared buf block) [] [] [] := by
  refine ⟨[.rxLoad buf (machine.outs.map Transfer.buf),
    .command (CbWrap.ofBuffer (machine.rxBuffer buf))], ?_, rfl, rfl, rfl⟩
  simp [Machine.readPrepared, Machine.accept]

/-- A state in which the first chunk is in the buffer. -/
structure FirstReady (Stable : σ → Prop)
    (Good : Nat → Memory → Prop) (cbw : CbWrap)
    (cached : Nat) (before after : Machine σ) : Prop where
  serving : Serving Stable cbw after
  streaming : Streaming Good cbw 0 after
  ins : after.ins = before.ins
  emits : ∃ filled, filled.map Prod.fst = (cbw.fillCalls 1).drop cached ∧
    Emits before after [] [] filled

private theorem firstReady_hit {buf : Fin 2} (read : cbw.isRead)
    (some : 0 < cbw.nsectors) (received : CommandReceived cbw machine)
    (stable : Stable machine.platform)
    (packet : CbWrap.ofBuffer (machine.rxBuffer buf) = cbw)
    (hit : cbw.hits machine.usbcmd.preRead)
    (good : Good 0 (machine.txBuffer machine.usbcmd.txbufNum)) :
    FirstReady Stable Good cbw 1 machine
      (machine.readPrepared buf cbw.readBlock) := by
  refine ⟨readPrepared_serving received stable packet,
    ⟨?_, ?_, Nat.dvd_zero _, ?_, ?_, ?_, ?_⟩, ?_, [], rfl,
    readPrepared_emits buf _⟩
  · simp [Machine.readPrepared]
  · exact readPrepared_reading packet read some
  · simp [Machine.readPrepared, Machine.accept, packet,
      wrap32_of_lt cbw.offset_lt]
  · simpa [Machine.readPrepared, Machine.accept, packet] using hit.2
  · simpa [Machine.readPrepared, Machine.accept, packet] using hit.1
  · simpa [Machine.readPrepared, Machine.accept] using good
  · simp [Machine.readPrepared, Machine.accept]

private theorem firstReady_miss {buf : Fin 2} (read : cbw.isRead)
    (some : 0 < cbw.nsectors) (received : CommandReceived cbw machine)
    (stable : Stable machine.platform)
    (packet : CbWrap.ofBuffer (machine.rxBuffer buf) = cbw)
    (fills : FillsGood P Stable Good cbw) {prepared : Machine σ}
    (shape : prepared = machine.readPrepared buf cbw.readBlock) :
    FirstReady Stable Good cbw 0 machine
      (preread P prepared prepared.usbcmd.txBlocks) := by
  have serving : Serving Stable cbw prepared :=
    shape ▸ readPrepared_serving received stable packet
  have reading : Reading cbw.nsectors cbw.readBlock 0 prepared.usbcmd :=
    shape ▸ readPrepared_reading packet read some
  have emits : Emits machine prepared [] [] [] :=
    shape ▸ readPrepared_emits buf _
  have status : prepared.usbcmd.status = .txdataPrepare := by
    simp [shape, Machine.readPrepared]
  have lba : prepared.usbcmd.lba = wrap32 (cbw.offset + 0) := by
    simp [shape, Machine.readPrepared, Machine.accept, packet,
      wrap32_of_lt cbw.offset_lt]
  have ins : prepared.ins = machine.ins := by
    simp [shape, Machine.readPrepared, Machine.accept]
  have blocks : prepared.usbcmd.txBlocks = cbw.fillBlocks 0 := reading.txBlocks
  have filled := preread_fillCall (P := P) reading serving.cmnd lba
  obtain ⟨rest, grown, inner, one⟩ :=
    filled.log_inner (cbw.fillCall_isLoad 0)
  rw [blocks]
  refine ⟨serving_preread serving fills reading lba,
    .of_preread status reading (Nat.dvd_zero _) serving.cmnd lba
      serving.platform fills,
    by rw [filled.ins, ← ins]; rfl, loads rest, one, ?_⟩
  exact emits.trans
    ⟨rest, grown, payloads_inner inner, csws_inner inner, rfl⟩

/-- What the first iteration of a read leads to. -/
structure FirstSent (Stable : σ → Prop)
    (Good : Nat → Memory → Prop) (cbw : CbWrap)
    (cached count : Nat) (before after : Machine σ) : Prop where
  serving : Serving Stable cbw after
  pending : after.usbcmd.txGiveback.status = .sendInProgress
  ins : ∃ transfer, after.ins = [transfer]
  next : Next Good cbw (min cbw.nsectors 128) count after
  emits : ∃ chunk filled,
    Sent Good cbw.nsectors cbw.readBlock (min cbw.nsectors 128) [chunk] ∧
      filled.map Prod.fst = (cbw.fillCalls (1 + count)).drop cached ∧
      Emits before after [chunk] [] filled

private theorem FirstReady.sent {cached : Nat} {ready : Machine σ}
    (atMost : cached ≤ 1) (first : FirstReady Stable Good cbw cached machine ready)
    (ins : machine.ins = []) (fills : FillsGood P Stable Good cbw) :
    ∃ count, FirstSent Stable Good cbw cached count machine
      (rkusbHandleDatatx P ready) := by
  obtain ⟨count, sent⟩ :=
    chunkSent (P := P) first.streaming first.serving fills
  obtain ⟨filled, single, before⟩ := first.emits
  obtain ⟨filled', some, after⟩ := sent.emits
  obtain ⟨transfer, posted⟩ := sent.ins
  have next := sent.next
  rw [Nat.zero_add, Nat.sub_zero] at next
  refine ⟨count, sent.serving, sent.pending, ⟨transfer, ?_⟩, next,
    ready.prereadPayload, filled ++ filled', ?_, ?_, before.trans after⟩
  · rw [posted, first.ins, ins]
    rfl
  · have snoc : Sent Good cbw.nsectors cbw.readBlock _ _ :=
      Sent.nil.snoc first.streaming.reading.left first.streaming.content
    rw [Nat.zero_add, Nat.sub_zero] at snoc
    rw [first.streaming.payload, Nat.sub_zero]
    exact snoc
  · rw [List.map_append, single, some,
      ← List.drop_append_of_le_length (by simpa using atMost), Nat.zero_add,
      Nat.sub_zero, next.fillCalls (by omega)]

theorem doRockusb_read_first (received : CommandReceived cbw machine)
    (stable : Stable machine.platform)
    (read : cbw.isRead) (some : 0 < cbw.nsectors)
    (fills : FillsGood P Stable Good cbw)
    (cached : cbw.hits machine.usbcmd.preRead →
      Good 0 (machine.txBuffer machine.usbcmd.txbufNum)) :
    ∃ count sent,
      FirstSent Stable Good cbw (if cbw.hits machine.usbcmd.preRead then 1 else 0)
        count machine sent ∧
      doRockusb P machine = sent.perform P .fwSorageLowFormat := by
  obtain ⟨buf, packet, first⟩ := received.prepared (P := P) read
  generalize shape : machine.readPrepared buf cbw.readBlock = prepared
    at first
  have reading : Reading cbw.nsectors cbw.readBlock 0 prepared.usbcmd :=
    shape ▸ readPrepared_reading packet read some
  have test : prepared.usbcmd.prereadHit ↔ cbw.hits machine.usbcmd.preRead :=
    shape ▸ readPrepared_hit packet read some
  have serving : Serving Stable cbw prepared :=
    shape ▸ readPrepared_serving received stable packet
  have handled : rkusbHandleResponse P prepared =
      rkusbHandleDatatx P prepared := by
    have status : prepared.usbcmd.status = .txdataPrepare := by
      simp [← shape, Machine.readPrepared]
    have none : prepared.usbcmd.uBytes = 0 := by
      simpa using reading.uBytes
    simp [rkusbHandleResponse, status, none]
  have finish : ∀ {count : Nat} {cached : Nat},
      FirstSent Stable Good cbw cached count machine
        (rkusbHandleDatatx P prepared) →
      doRockusb P machine =
        (rkusbHandleDatatx P prepared).perform P .fwSorageLowFormat := by
    intro count cached sent
    exact doRockusb_pending first handled serving.running
      sent.serving.running sent.serving.quiet sent.pending
  by_cases hit : cbw.hits machine.usbcmd.preRead
  · have ready : FirstReady Stable Good cbw 1 machine prepared :=
      shape ▸ firstReady_hit read some received stable packet hit (cached hit)
    obtain ⟨count, sent⟩ := ready.sent (by decide) received.ins fills
    rw [if_pos hit]
    exact ⟨count, _, sent, finish sent⟩
  · have ready := firstReady_miss read some received stable packet fills shape.symm
    obtain ⟨count, sent⟩ := ready.sent (by decide) received.ins fills
    rw [← rkusbHandleDatatx_miss reading (fun passed => hit (test.mp passed))]
      at sent
    rw [if_neg hit]
    exact ⟨count, _, sent, finish sent⟩

/-- Where the command stands: the chunks handed over, the wrappers sent and
the number of chunks read ahead. -/
inductive Phase (Good : Nat → Memory → Prop) (cbw : CbWrap)
    (machine : Machine σ) :
    List (List UInt8) → List CsWrap → Nat → Prop where
  | streaming {c : Nat} {chunks : List (List UInt8)} :
      0 < c → Sent Good cbw.nsectors cbw.readBlock c chunks →
      Streaming Good cbw c machine → Phase Good cbw machine chunks [] 1
  | streamed {chunks : List (List UInt8)} :
      Sent Good cbw.nsectors cbw.readBlock cbw.nsectors chunks →
      Streamed cbw machine → Phase Good cbw machine chunks [] 0
  | answered {chunks : List (List UInt8)} {csw : CsWrap} :
      Sent Good cbw.nsectors cbw.readBlock cbw.nsectors chunks →
      csw.tag = cbw.tag → csw.status = cswGood →
      machine.usbcmd.status = .idle →
      machine.usbcmd.rxGiveback.actual = 0 →
      Phase Good cbw machine chunks [csw] 0

def Action.isInDone : Action → Bool
  | .inDone .. => true
  | _ => false

/-- The IN completions among the actions. -/
def completions (actions : List Action) : Nat :=
  actions.countP Action.isInDone

/-- The IN endpoint after `handed` transfers: one is under way, or all have
completed, and then the last iteration had nothing to send. -/
def Pipe (machine : Machine σ) (actions : List Action) (handed : Nat)
    (ended : Prop) : Prop :=
  (machine.InBusy ∧ completions actions + 1 = handed) ∨
    (machine.InFree ∧ completions actions = handed ∧
      (actions.getLast? = some .iterate → ended))

/-- The command after some actions. -/
structure ReadProgress (Stable : σ → Prop)
    (Good : Nat → Memory → Prop) (cbw : CbWrap)
    (start : Machine σ) (actions : List Action) (machine : Machine σ)
    (chunks : List (List UInt8)) (statuses : List CsWrap) : Prop where
  serving : Serving Stable cbw machine
  pipe : Pipe machine actions (chunks.length + statuses.length)
    (statuses ≠ [])
  phase : ∃ ahead filled, Phase Good cbw machine chunks statuses ahead ∧
    Emits start machine (chunks ++ statuses.map CsWrap.bytes) statuses
      filled ∧
    filled.map Prod.fst = (cbw.fillCalls (chunks.length + ahead)).drop
      (if cbw.hits start.usbcmd.preRead then 1 else 0)

/-- The actions of one command: iterations, and completions that are OK. -/
def Action.servesRead : Action → Prop
  | .iterate => True
  | .inDone _ status _ => status = 0
  | _ => False

instance : ∀ action : Action, Decidable action.servesRead
  | .iterate => .isTrue trivial
  | .inDone _ status _ => inferInstanceAs (Decidable (status = 0))
  | .outDone .. => .isFalse id
  | .outDrop .. => .isFalse id
  | .bus .. => .isFalse id

private theorem Next.phase {chunks : List (List UInt8)} (some : 0 < c)
    (sent : Sent Good cbw.nsectors cbw.readBlock c chunks) {count : Nat}
    (next : Next Good cbw c count machine) :
    Phase Good cbw machine chunks [] count := by
  rcases next with ⟨rfl, streamed, rfl⟩ | ⟨streaming, rfl⟩
  · exact .streamed sent streamed
  · exact .streaming some sent streaming

/-- The phase does not depend on the state of the IN transfer. -/
private theorem Phase.congr {chunks : List (List UInt8)}
    {statuses : List CsWrap} {ahead : Nat} {other : Machine σ}
    {giveback : GivebackData}
    (phase : Phase Good cbw machine chunks statuses ahead)
    (usbcmd : other.usbcmd =
      { machine.usbcmd with txGiveback := giveback })
    (txBuffer : other.txBuffer = machine.txBuffer) :
    Phase Good cbw other chunks statuses ahead := by
  cases phase with
  | streaming some sent streaming =>
      have reading := streaming.reading
      refine .streaming some sent ⟨?_, ?_, streaming.aligned, ?_, ?_, ?_, ?_⟩
      all_goals rw [usbcmd]
      · exact streaming.status
      · exact reading.congr rfl rfl rfl
      · exact streaming.lba
      · exact streaming.preLba
      · exact streaming.preBlocks
      · rw [txBuffer]
        exact streaming.content
  | streamed sent streamed =>
      refine .streamed sent ⟨?_, ?_⟩ <;> rw [usbcmd]
      · exact streamed.status
      · exact streamed.good
  | answered sent tag good status empty =>
      refine .answered sent tag good ?_ ?_ <;> rw [usbcmd]
      · exact status
      · exact empty

@[simp] theorem completions_snoc (actions : List Action) (action : Action) :
    completions (actions ++ [action]) =
      completions actions + if action.isInDone then 1 else 0 := by
  simp [completions]

theorem Phase.sent_bound {chunks : List (List UInt8)}
    {statuses : List CsWrap} {ahead : Nat}
    (phase : Phase Good cbw machine chunks statuses ahead) :
    128 * chunks.length < cbw.nsectors + 128 := by
  cases phase with
  | streaming _ sent streaming =>
      have count := sent.count
      omega
  | streamed sent _ =>
      have count := sent.count
      omega
  | answered sent _ _ _ _ =>
      have count := sent.count
      omega

private theorem Pipe.of_free {actions : List Action} {handed : Nat}
    {ended : Prop} (pipe : Pipe machine actions handed ended)
    (finished : machine.usbcmd.txGiveback.status = .sendFinishedOk) :
    machine.ins = [] ∧ completions actions = handed := by
  rcases pipe with ⟨⟨busy, -⟩, -⟩ | ⟨⟨-, empty⟩, count, -⟩
  · simp [finished] at busy
  · exact ⟨empty, count⟩

/-- A transfer was started in an iteration that found the endpoint free. -/
private theorem Pipe.start {actions : List Action} {handed : Nat}
    {ended ended' : Prop} {after : Machine σ} {transfer : Transfer}
    (pipe : Pipe machine actions handed ended)
    (finished : machine.usbcmd.txGiveback.status = .sendFinishedOk)
    (pending : after.usbcmd.txGiveback.status = .sendInProgress)
    (ins : after.ins = machine.ins ++ [transfer]) :
    Pipe after (actions ++ [.iterate]) (handed + 1) ended' := by
  obtain ⟨empty, count⟩ := pipe.of_free finished
  refine .inl ⟨⟨pending, transfer, ?_⟩, ?_⟩
  · rw [ins, empty]
    rfl
  · simp [count, Action.isInDone]

private theorem Pipe.iterate {actions : List Action} {handed : Nat}
    {ended : Prop} {after : Machine σ}
    (pipe : Pipe machine actions handed ended)
    (usbcmd : after.usbcmd = machine.usbcmd)
    (ins : after.ins = machine.ins)
    (waits : machine.usbcmd.txGiveback.status = .sendInProgress ∨ ended) :
    Pipe after (actions ++ [.iterate]) handed ended := by
  rcases pipe with ⟨⟨busy, transfer, posted⟩, count⟩ |
    ⟨⟨free, empty⟩, count, -⟩
  · refine .inl ⟨⟨by rw [usbcmd, busy], transfer, by rw [ins, posted]⟩, ?_⟩
    simpa [Action.isInDone] using count
  · refine .inr ⟨⟨by rw [usbcmd, free], by rw [ins, empty]⟩, ?_, ?_⟩
    · simpa [Action.isInDone] using count
    · intro _
      rcases waits with pending | ended
      · simp [free] at pending
      · exact ended

variable {start : Machine σ} {actions : List Action}
variable {chunks : List (List UInt8)} {statuses : List CsWrap}

private theorem ReadProgress.wait (fills : FillsGood P Stable Good cbw)
    (progress : ReadProgress Stable Good cbw start actions machine chunks statuses)
    (waits : machine.usbcmd.txGiveback.status = .sendInProgress ∨
      statuses ≠ []) :
    ReadProgress Stable Good cbw start (actions ++ [.iterate])
      (machine.perform P .fwSorageLowFormat) chunks statuses := by
  obtain ⟨ahead, filled, phase, emits, count⟩ := progress.phase
  refine ⟨progress.serving.lowFormat fills, progress.pipe.iterate rfl rfl waits,
    ahead, filled, phase.congr rfl rfl, ?_, count⟩
  simpa using emits.trans (.perform (P := P) machine rfl)

theorem ReadProgress.iterate (fills : FillsGood P Stable Good cbw)
    (progress : ReadProgress Stable Good cbw start actions machine chunks
      statuses) :
    ∃ chunks' statuses', ReadProgress Stable Good cbw start (actions ++ [.iterate])
      (doRockusb P machine) chunks' statuses' := by
  have serving := progress.serving
  obtain ⟨ahead, filled, phase, emits, count⟩ := progress.phase
  by_cases pending : machine.usbcmd.txGiveback.status = .sendInProgress
  · have waits := progress.wait fills (.inl pending)
    refine ⟨chunks, statuses, ?_⟩
    cases phase with
    | streaming some sent streaming =>
        rw [doRockusb_streaming_busy streaming serving some pending]
        exact waits
    | streamed sent streamed =>
        rw [doRockusb_streamed_busy streamed serving pending]
        exact waits
    | answered sent tag good status empty =>
        rw [doRockusb_idle status empty serving.running serving.quiet]
        exact waits
  · have free : machine.usbcmd.txGiveback.status = .sendFinishedOk := by
      rcases progress.pipe with ⟨⟨busy, -⟩, -⟩ | ⟨⟨free, -⟩, -⟩
      · exact absurd busy pending
      · exact free
    cases phase with
    | @streaming c chunks some sent streaming =>
        obtain ⟨count', after, chunk, shape⟩ :=
          doRockusb_streaming_free streaming serving fills free
        obtain ⟨transfer, posted⟩ := chunk.ins
        obtain ⟨filled', single, emits'⟩ := chunk.emits
        have snoc := sent.snoc streaming.reading.left streaming.content
        rw [← streaming.payload] at snoc
        rw [shape]
        refine ⟨_, [], chunk.serving.lowFormat fills, ?_, count',
          filled ++ filled',
          (chunk.next.phase (by omega) snoc).congr rfl rfl, ?_, ?_⟩
        · have started : Pipe (after.perform P .fwSorageLowFormat)
              (actions ++ [.iterate]) _ (([] : List CsWrap) ≠ []) :=
            progress.pipe.start free chunk.pending posted
          simpa using started
        · simpa using (emits.trans emits').trans (.perform (P := P) after rfl)
        · have started : (if cbw.hits start.usbcmd.preRead then 1 else 0) ≤
              (cbw.fillCalls (chunks.length + 1)).length := by
            rw [CbWrap.length_fillCalls]
            split <;> omega
          have full := snoc.count.2.2
          rw [List.length_append, List.length_singleton] at full ⊢
          rw [List.map_append, count, single,
            ← List.drop_append_of_le_length started,
            chunk.next.fillCalls full]
    | streamed sent streamed =>
        obtain ⟨after, csw, shape⟩ := doRockusb_csw streamed.status
          serving.running serving.quiet free
        rw [shape]
        refine ⟨chunks, [machine.pendingCsw], ?_, ?_, 0, filled, ?_, ?_, ?_⟩
        · refine Serving.lowFormat ⟨?_, ?_, ?_, ?_, ?_⟩ fills
          · rw [csw.platform]
            exact serving.platform
          · rw [csw.control, serving.running]
          · rw [csw.usbcmd]
            exact serving.quiet
          · rw [csw.usbcmd]
            exact serving.wrapper
          · rw [csw.usbcmd]
            exact serving.cmnd
        · have pending : after.usbcmd.txGiveback.status =
              .sendInProgress := by simp [csw.usbcmd]
          have started : Pipe (after.perform P .fwSorageLowFormat)
              (actions ++ [.iterate]) _ ([machine.pendingCsw] ≠ []) :=
            progress.pipe.start free pending csw.ins
          simpa using started
        · have answered : Phase Good cbw after chunks
              [machine.pendingCsw] 0 := by
            refine .answered sent ?_ streamed.good ?_ ?_
            · rw [Machine.pendingCsw, serving.wrapper]
            · rw [csw.usbcmd]
            · rw [csw.usbcmd]
          exact answered.congr rfl rfl
        · simpa using
            (emits.trans csw.emits).trans (.perform (P := P) after rfl)
        · simpa using count
    | answered sent tag good status empty =>
        rw [doRockusb_idle status empty serving.running serving.quiet]
        exact ⟨_, _, progress.wait fills (.inr (by simp))⟩

theorem ReadProgress.inDone {index actual : Nat} {transfer : Transfer}
    (progress : ReadProgress Stable Good cbw start actions machine chunks statuses)
    (outstanding : machine.ins[index]? = some transfer) :
    ReadProgress Stable Good cbw start (actions ++ [.inDone index 0 actual])
      (completeIn machine index transfer 0 actual) chunks statuses := by
  obtain ⟨ahead, filled, phase, emits, count⟩ := progress.phase
  refine ⟨?_, ?_, ahead, filled, phase.congr rfl rfl, ?_, count⟩
  · exact progress.serving.of_usbcmd progress.serving.platform
      progress.serving.running rfl rfl rfl
  · rcases progress.pipe with ⟨⟨-, only, posted⟩, sum⟩ | ⟨⟨-, empty⟩, -⟩
    · have first : index = 0 := by
        rw [posted] at outstanding
        cases index with
        | zero => rfl
        | succ index => simp at outstanding
      refine .inr ⟨⟨by simp [completeIn], ?_⟩, ?_, by simp⟩
      · simp [completeIn, posted, first]
      · simpa [Action.isInDone] using sum
    · simp [empty] at outstanding
  · simpa using emits.trans (.completeIn machine index transfer 0 actual)

private theorem readProgress_first (received : CommandReceived cbw start)
    (stable : Stable start.platform) (read : cbw.isRead)
    (some : 0 < cbw.nsectors) (fills : FillsGood P Stable Good cbw)
    (cached : cbw.hits start.usbcmd.preRead →
      Good 0 (start.txBuffer start.usbcmd.txbufNum)) :
    ∃ chunks statuses, ReadProgress Stable Good cbw start ([] ++ [.iterate])
      (doRockusb P start) chunks statuses := by
  obtain ⟨count, after, first, shape⟩ :=
    doRockusb_read_first received stable read some fills cached
  obtain ⟨chunk, filled, sent, sum, emits⟩ := first.emits
  obtain ⟨transfer, posted⟩ := first.ins
  rw [shape]
  refine ⟨[chunk], [], first.serving.lowFormat fills, ?_, count, filled,
    (first.next.phase (by omega) sent).congr rfl rfl, ?_, sum⟩
  · exact .inl ⟨⟨first.pending, transfer, posted⟩, rfl⟩
  · simpa using emits.trans (.perform (P := P) after rfl)

/-- Wherever a run over one read stands, the command has made progress. -/
theorem readProgress_of_run (read : cbw.isRead) (some : 0 < cbw.nsectors)
    (received : CommandReceived cbw start) (stable : Stable start.platform)
    (fills : FillsGood P Stable Good cbw)
    (cached : cbw.hits start.usbcmd.preRead →
      Good 0 (start.txBuffer start.usbcmd.txbufNum))
    (run : Run (step P) (fun _ action => action.servesRead) start actions
      machine) :
    (actions = [] ∧ machine = start) ∨
      ∃ chunks statuses,
        ReadProgress Stable Good cbw start actions machine chunks
          statuses := by
  induction run with
  | nil => exact .inl ⟨rfl, rfl⟩
  | @snoc actions middle final action _ allowed taken induction =>
      right
      cases action with
      | iterate =>
          rcases induction with ⟨rfl, rfl⟩ | ⟨chunks, statuses, progress⟩
          · obtain rfl := step_iterate taken
            exact readProgress_first received stable read some fills cached
          · obtain rfl := step_iterate taken
            exact progress.iterate fills
      | inDone index status actual =>
          obtain rfl : status = 0 := allowed
          obtain ⟨transfer, outstanding, rfl⟩ := step_inDone taken
          rcases induction with ⟨rfl, rfl⟩ | ⟨chunks, statuses, progress⟩
          · simp [received.ins] at outstanding
          · exact ⟨chunks, statuses, progress.inDone outstanding⟩
      | outDone => exact allowed.elim
      | outDrop => exact allowed.elim
      | bus => exact allowed.elim

/-- Completions can be followed by iterations until the command has been
answered. -/
private theorem exists_completed (read : cbw.isRead) (some : 0 < cbw.nsectors)
    (received : CommandReceived cbw start) (stable : Stable start.platform)
    (fills : FillsGood P Stable Good cbw)
    (cached : cbw.hits start.usbcmd.preRead →
      Good 0 (start.txBuffer start.usbcmd.txbufNum)) (count : Nat) :
    ∃ actions machine chunks statuses,
      Run (step P) (fun _ action => action.servesRead) start actions machine ∧
      ReadProgress Stable Good cbw start actions machine chunks statuses ∧
      (statuses ≠ [] ∨
        actions.getLast? = .some .iterate ∧ completions actions = count) := by
  induction count with
  | zero =>
      obtain ⟨chunks, statuses, progress⟩ :=
        readProgress_first received stable read some fills cached
      refine ⟨_, _, chunks, statuses, ?_, progress, .inr ⟨rfl, rfl⟩⟩
      exact .snoc .nil trivial (step_of_running received.running)
  | succ count induction =>
      obtain ⟨actions, machine, chunks, statuses, run, progress, reached⟩ :=
        induction
      rcases reached with answered | ⟨last, counted⟩
      · exact ⟨_, _, _, _, run, progress, .inl answered⟩
      · rcases progress.pipe with ⟨⟨-, transfer, posted⟩, -⟩ | ⟨-, -, ended⟩
        · have outstanding : machine.ins[0]? = .some transfer := by
            simp [posted]
          have taken : step P machine (.inDone 0 0 0) =
              .some (completeIn machine 0 transfer 0 0) := by
            simp [step, progress.serving.running, outstanding]
          have allowed : Action.servesRead (.inDone 0 0 0) := rfl
          have completed := run.snoc allowed taken
          have delivered : ReadProgress Stable Good cbw start
              (actions ++ [.inDone 0 0 0])
              (completeIn machine 0 transfer 0 0) chunks statuses :=
            progress.inDone outstanding
          obtain ⟨chunks', statuses', iterated⟩ := delivered.iterate fills
          refine ⟨_, _, chunks', statuses', ?_, iterated, .inr ⟨?_, ?_⟩⟩
          · exact completed.snoc trivial
              (step_of_running delivered.serving.running)
          · simp
          · rw [completions_snoc, completions_snoc, counted]
            rfl
        · exact ⟨_, _, _, _, run, progress, .inl (ended last)⟩

/-- Some run over the command ends after its status has been sent. -/
theorem exists_answered (read : cbw.isRead) (some : 0 < cbw.nsectors)
    (received : CommandReceived cbw start) (stable : Stable start.platform)
    (fills : FillsGood P Stable Good cbw)
    (cached : cbw.hits start.usbcmd.preRead →
      Good 0 (start.txBuffer start.usbcmd.txbufNum)) :
    ∃ actions machine chunks statuses,
      Run (step P) (fun _ action => action.servesRead) start actions machine ∧
      ReadProgress Stable Good cbw start actions machine chunks statuses ∧
      statuses ≠ [] := by
  obtain ⟨actions, machine, chunks, statuses, run, progress, reached⟩ :=
    exists_completed (P := P) read some received stable fills cached
      cbw.nsectors
  refine ⟨actions, machine, chunks, statuses, run, progress, ?_⟩
  rcases reached with answered | ⟨last, counted⟩
  · exact answered
  · rintro rfl
    rcases progress.pipe with ⟨-, handed⟩ | ⟨-, -, ended⟩
    · obtain ⟨ahead, filled, phase, -⟩ := progress.phase
      have bound := phase.sent_bound
      simp only [List.length_nil, Nat.add_zero] at handed
      omega
    · exact ended last rfl

end Command

end KernelDrivers.Rockusb
