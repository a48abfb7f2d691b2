import KernelDrivers.Rockusb.Iteration
import KernelDrivers.Rockusb.Reading

/-!
# A read command from its CBW to its CSW

The run of the loop over one read, for any platform and any address.  `Good c`
is a property of a buffer that holds the blocks from the `c`-th on; it is
abstract here, and every fill is assumed to establish it.
-/

namespace KernelDrivers.Rockusb

open KernelDrivers.Library

variable {σ : Type} {P : Platform σ} {machine : Machine σ}

/-- The loop is idle, the previous transfers are finished and the packet of
`cbw` has been reported. -/
structure CommandReceived (cbw : CbWrap) (machine : Machine σ) : Prop where
  running : machine.control = .running
  quiet : machine.usbcmd.Quiet
  idle : machine.usbcmd.status = .idle
  received : 0 < machine.usbcmd.rxGiveback.actual
  packet : ∃ buf, machine.usbcmd.rxGiveback.buf = some buf ∧
    CbWrap.ofBuffer (machine.rxBuffer buf) = cbw
  finished : machine.usbcmd.txGiveback.status = .sendFinishedOk
  ins : machine.ins = []
  outs : machine.outs = []

/-- `cbw` is a read command. -/
def CbWrap.isRead (cbw : CbWrap) : Prop :=
  cbw.opcode = kFwRead10 ∨ cbw.opcode = kFwLbaRead10

instance (cbw : CbWrap) : Decidable cbw.isRead :=
  inferInstanceAs (Decidable (_ ∨ _))

/-- The block length of a read command. -/
def CbWrap.readBlock (cbw : CbWrap) : Nat :=
  txBlockLength cbw.opcode

theorem CbWrap.isRead.block_cases {cbw : CbWrap} (read : cbw.isRead) :
    cbw.readBlock = 512 ∨ cbw.readBlock = 528 := by
  rcases read with raw | logical
  · exact .inr (by simp [readBlock, txBlockLength, raw])
  · refine .inl ?_
    rw [readBlock, logical]
    rfl

/-- The number of blocks asked for when `c` blocks have gone out.  After the
first chunk it is the size of the chunk just sent, not of what remains. -/
def CbWrap.fillBlocks (cbw : CbWrap) (c : Nat) : Nat :=
  if c = 0 then min cbw.nsectors 128 else 128

theorem CbWrap.le_fillBlocks (cbw : CbWrap) (c : Nat) :
    min (cbw.nsectors - c) 128 ≤ cbw.fillBlocks c := by
  unfold fillBlocks
  split <;> omega

theorem CbWrap.fillBlocks_le (cbw : CbWrap) (c : Nat) :
    cbw.fillBlocks c ≤ 128 := by
  unfold fillBlocks
  split <;> omega

/-- The storage call that fetches these blocks. -/
def CbWrap.fillCall (cbw : CbWrap) (c : Nat) : Call :=
  let lba := wrap32 (cbw.offset + c)
  let usbcmd : CmdRockusbInterface :=
    { CmdRockusbInterface.zeroed .sendFinishedOk with
      cmnd := cbw.opcode
      lba := lba
      uSize := cbw.nsectors * cbw.readBlock
      preRead := ⟨none, lba, 0⟩ }
  usbcmd.loadCall (cbw.fillBlocks c)

theorem CbWrap.fillCall_isLoad (cbw : CbWrap) (c : Nat) :
    (cbw.fillCall c).isLoad = true :=
  CmdRockusbInterface.loadCall_isLoad _ _

theorem CmdRockusbInterface.loadCall_congr {left right : CmdRockusbInterface}
    (cmnd : left.cmnd = right.cmnd) (uSize : left.uSize = right.uSize)
    (lba : left.lba = right.lba)
    (preLba : left.preRead.preLba = right.preRead.preLba) (blocks : Nat) :
    left.loadCall blocks = right.loadCall blocks := by
  unfold loadCall
  rw [cmnd, uSize, lba, preLba]

theorem CbWrap.loadCall_eq_fillCall {cbw : CbWrap} {c : Nat}
    {usbcmd : CmdRockusbInterface} (cmnd : usbcmd.cmnd = cbw.opcode)
    (uSize : usbcmd.uSize = cbw.nsectors * cbw.readBlock)
    (lba : usbcmd.lba = wrap32 (cbw.offset + c))
    (preLba : usbcmd.preRead.preLba = usbcmd.lba) :
    usbcmd.loadCall (cbw.fillBlocks c) = cbw.fillCall c :=
  CmdRockusbInterface.loadCall_congr cmnd uSize lba (preLba.trans lba) _

theorem fwDispatch_read {cbw : CbWrap} (read : cbw.isRead)
    (cmnd : machine.usbcmd.cmnd = cbw.opcode) :
    fwDispatch P machine = machine.prepareRead cbw.readBlock := by
  rcases read with raw | logical
  · rw [fwDispatch, cmnd, raw, CbWrap.readBlock, raw]
    rfl
  · rw [fwDispatch, cmnd, logical, CbWrap.readBlock, logical]
    rfl

/-- The chunks sent when `c` of `n` blocks have gone out. -/
inductive Sent (Good : Nat → Memory → Prop) (n block : Nat) :
    Nat → List (List UInt8) → Prop where
  | nil : Sent Good n block 0 []
  | snoc {c : Nat} {chunks : List (List UInt8)} {buffer : Memory} :
      Sent Good n block c chunks → c < n → Good c buffer →
      Sent Good n block (c + min (n - c) 128)
        (chunks ++ [buffer.bytes 0 (min (n - c) 128 * block)])

/-- In the data stage, between two chunks: the next one is in the buffer. -/
structure Streaming (Good : Nat → Memory → Prop) (cbw : CbWrap) (c : Nat)
    (machine : Machine σ) : Prop where
  status : machine.usbcmd.status = .txdataPrepare
  reading : Reading cbw.nsectors cbw.readBlock c machine.usbcmd
  aligned : 128 ∣ c
  lba : machine.usbcmd.lba = wrap32 (cbw.offset + c)
  preLba : machine.usbcmd.preRead.preLba = machine.usbcmd.lba
  preBlocks : machine.usbcmd.preRead.preBlocks ≥ min (cbw.nsectors - c) 128
  content : Good c (machine.txBuffer machine.usbcmd.txbufNum)

/-- All blocks have gone out and the CSW is ready to be sent. -/
structure Streamed (cbw : CbWrap) (machine : Machine σ) : Prop where
  status : machine.usbcmd.status = .csw
  good : machine.usbcmd.csw.status = cswGood

/-- What holds of the machine throughout the run. -/
structure Serving (Stable : σ → Prop) (cbw : CbWrap)
    (machine : Machine σ) : Prop where
  platform : Stable machine.platform
  running : machine.control = .running
  quiet : machine.usbcmd.Quiet
  wrapper : machine.usbcmd.cbw = cbw
  cmnd : machine.usbcmd.cmnd = cbw.opcode

theorem Streaming.hit {Good : Nat → Memory → Prop} {cbw : CbWrap} {c : Nat}
    (streaming : Streaming Good cbw c machine) :
    machine.usbcmd.prereadHit := by
  have reading := streaming.reading
  refine ⟨reading.txBlocks_pos, ?_, streaming.preLba⟩
  rw [reading.txBlocks]
  exact streaming.preBlocks

/-- The IN endpoint is idle and the last transfer was reported as sent. -/
def Machine.InFree (machine : Machine σ) : Prop :=
  machine.usbcmd.txGiveback.status = .sendFinishedOk ∧ machine.ins = []

/-- One IN transfer is under way. -/
def Machine.InBusy (machine : Machine σ) : Prop :=
  machine.usbcmd.txGiveback.status = .sendInProgress ∧
    ∃ transfer, machine.ins = [transfer]

/-- The calls in a log that read into a transmit buffer. -/
def loads (log : List (Event σ)) : List (Call × Reply) :=
  (calls log).filter fun entry => entry.1.isLoad

@[simp] theorem loads_append (first second : List (Event σ)) :
    loads (first ++ second) = loads first ++ loads second := by
  simp [loads]

/-- `Stable` holds of the platform throughout a command that only reads, and
while it does, every fill of a buffer leaves good content in it. -/
structure FillsGood (P : Platform σ) (Stable : σ → Prop)
    (Good : Nat → Memory → Prop) (cbw : CbWrap) : Prop where
  load : ∀ state call, call.isLoad = true → Stable state →
    Stable (P.next state call)
  lowFormat : ∀ state, Stable state →
    Stable (P.next state .fwSorageLowFormat)
  content : ∀ (machine : Machine σ) (c : Nat),
    Stable machine.platform → c < cbw.nsectors → 128 ∣ c →
    machine.usbcmd.cmnd = cbw.opcode →
    machine.usbcmd.lba = wrap32 (cbw.offset + c) →
    Good c ((preread P machine (cbw.fillBlocks c)).txBuffer
      machine.usbcmd.txbufNum)

theorem fillsGood_any (P : Platform σ) (cbw : CbWrap) :
    FillsGood P (fun _ => True) (fun _ _ => True) cbw :=
  ⟨fun _ _ _ _ => trivial, fun _ _ => trivial,
    fun _ _ _ _ _ _ _ => trivial⟩

section Chunk

variable {Stable : σ → Prop} {Good : Nat → Memory → Prop}
variable {cbw : CbWrap} {c : Nat}

theorem Filled.log_inner {buf : Fin 2} {call : Call}
    {before after : Machine σ} (filled : Filled P buf call before after)
    (load : call.isLoad = true) :
    ∃ rest : List (Event σ), after.log = before.log ++ rest ∧
      (∀ event ∈ rest, event.isInner = true) ∧
      (loads rest).map Prod.fst = [call] := by
  obtain ⟨stores, grown, -, uniform⟩ := filled.log
  refine ⟨_, grown, ?_, ?_⟩
  · intro event member
    rcases List.mem_cons.mp member with rfl | member
    · rfl
    · rcases List.mem_cons.mp member with rfl | member
      · rfl
      · rw [uniform event member]
        rfl
  · have quiet : calls stores = [] := by
      apply List.filterMap_eq_nil_iff.mpr
      intro event member
      rw [uniform event member]
    have parts : calls (Event.txStore buf (before.ins.map Transfer.buf) ::
        .call call (P.reply before.platform call) :: stores) =
          (call, P.reply before.platform call) :: calls stores := rfl
    simp [loads, parts, quiet, load]

/-- What follows a chunk: the CSW, or another chunk, which has been read. -/
def Next (Good : Nat → Memory → Prop) (cbw : CbWrap) (c fills : Nat)
    (machine : Machine σ) : Prop :=
  (c = cbw.nsectors ∧ Streamed cbw machine ∧ fills = 0) ∨
    (Streaming Good cbw c machine ∧ fills = 1)

/-- The effect of one call of the handler that finds its chunk in the buffer,
`fills` being the number of buffers it fills afterwards. -/
structure ChunkSent (Stable : σ → Prop)
    (Good : Nat → Memory → Prop) (cbw : CbWrap)
    (c fills : Nat) (before after : Machine σ) : Prop where
  serving : Serving Stable cbw after
  pending : after.usbcmd.txGiveback.status = .sendInProgress
  ins : ∃ transfer, after.ins = before.ins ++ [transfer]
  next : Next Good cbw (c + min (cbw.nsectors - c) 128) fills after
  log : ∃ hit rest, after.log = before.log ++
      hit :: .bulkIn before.usbcmd.txbufNum before.prereadPayload :: rest ∧
    hit.isInner = true ∧ (∀ event ∈ rest, event.isInner = true) ∧
    loads [hit] = [] ∧ (loads rest).map Prod.fst =
      List.replicate fills (cbw.fillCall (c + min (cbw.nsectors - c) 128))

theorem Serving.of_usbcmd {after : Machine σ}
    (serving : Serving Stable cbw machine)
    (platform : Stable after.platform) (control : after.control = .running)
    (flag : after.usbcmd.resetFlag = machine.usbcmd.resetFlag)
    (wrapper : after.usbcmd.cbw = machine.usbcmd.cbw)
    (cmnd : after.usbcmd.cmnd = machine.usbcmd.cmnd) :
    Serving Stable cbw after := by
  refine ⟨platform, control, ?_, by rw [wrapper, serving.wrapper],
    by rw [cmnd, serving.cmnd]⟩
  have quiet := serving.quiet
  unfold CmdRockusbInterface.Quiet at quiet ⊢
  rwa [flag]

private theorem chunkSent_last (streaming : Streaming Good cbw c machine)
    (serving : Serving Stable cbw machine)
    (last : c + min (cbw.nsectors - c) 128 = cbw.nsectors) :
    ChunkSent Stable Good cbw c 0 machine (rkusbHandleDatatx P machine) := by
  have shape :=
    rkusbHandleDatatx_hit (P := P) streaming.reading streaming.hit
  rw [if_pos last] at shape
  rw [shape]
  refine ⟨?_, ?_, ?_, ?_, ?_⟩
  · apply serving.of_usbcmd
    · simpa using serving.platform
    · simpa using serving.running
    all_goals simp
  · simp
  · simp
  · exact .inl ⟨last, ⟨by simp, by simp⟩, rfl⟩
  · refine ⟨.hit machine.usbcmd.cmnd machine.usbcmd.lba
      machine.usbcmd.txBlocks machine.prereadPayload machine.platform, [],
      ?_, rfl, by simp, rfl, rfl⟩
    simp

theorem preread_fillCall
    (reading : Reading cbw.nsectors cbw.readBlock c machine.usbcmd)
    (cmnd : machine.usbcmd.cmnd = cbw.opcode)
    (lba : machine.usbcmd.lba = wrap32 (cbw.offset + c)) :
    Filled P machine.usbcmd.txbufNum (cbw.fillCall c)
      (machine.notePreread (cbw.fillBlocks c))
      (preread P machine (cbw.fillBlocks c)) := by
  have left := reading.left
  have enough := cbw.le_fillBlocks c
  have filled := preread_filled (P := P) reading.isRead
    (show cbw.fillBlocks c ≠ 0 by omega)
  have call : (machine.notePreread (cbw.fillBlocks c)).usbcmd.loadCall
      (cbw.fillBlocks c) = cbw.fillCall c :=
    CbWrap.loadCall_eq_fillCall cmnd reading.uSize lba rfl
  rwa [call] at filled

theorem Streaming.of_preread
    (status : machine.usbcmd.status = .txdataPrepare)
    (reading : Reading cbw.nsectors cbw.readBlock c machine.usbcmd)
    (aligned : 128 ∣ c) (cmnd : machine.usbcmd.cmnd = cbw.opcode)
    (lba : machine.usbcmd.lba = wrap32 (cbw.offset + c))
    (stable : Stable machine.platform)
    (fills : FillsGood P Stable Good cbw) :
    Streaming Good cbw c (preread P machine (cbw.fillBlocks c)) := by
  have left := reading.left
  have enough := cbw.le_fillBlocks c
  have again := reading.preread (P := P)
    (show cbw.fillBlocks c ≠ 0 by omega)
  have noted := (preread_fillCall (P := P) reading cmnd lba).usbcmd
  refine ⟨?_, again, aligned, ?_, ?_, ?_, ?_⟩ <;> rw [noted]
  · exact status
  · exact lba
  · rfl
  · exact enough
  · exact fills.content machine c stable left aligned cmnd lba

theorem serving_preread (serving : Serving Stable cbw machine)
    (fills : FillsGood P Stable Good cbw)
    (reading : Reading cbw.nsectors cbw.readBlock c machine.usbcmd)
    (lba : machine.usbcmd.lba = wrap32 (cbw.offset + c)) :
    Serving Stable cbw (preread P machine (cbw.fillBlocks c)) := by
  have filled := preread_fillCall (P := P) reading serving.cmnd lba
  apply serving.of_usbcmd
  · rw [filled.platform]
    exact fills.load _ _ (cbw.fillCall_isLoad c) serving.platform
  · rw [filled.control]
    exact serving.running
  all_goals
    rw [filled.usbcmd]
    rfl

private theorem chunkSent_more (streaming : Streaming Good cbw c machine)
    (serving : Serving Stable cbw machine) (fills : FillsGood P Stable Good cbw)
    (more : c + min (cbw.nsectors - c) 128 < cbw.nsectors) :
    ChunkSent Stable Good cbw c 1 machine (rkusbHandleDatatx P machine) := by
  have shape :=
    rkusbHandleDatatx_hit (P := P) streaming.reading streaming.hit
  have full : cbw.fillBlocks (c + min (cbw.nsectors - c) 128) = 128 := by
    rw [CbWrap.fillBlocks, if_neg (by omega)]
  rw [if_neg (Nat.ne_of_lt more), ← full] at shape
  have reading := streaming.reading.sendPreread more
  have aligned : 128 ∣ c + min (cbw.nsectors - c) 128 := by
    have before := streaming.aligned
    omega
  have sentLba : machine.sendPreread.usbcmd.lba =
      wrap32 (cbw.offset + (c + min (cbw.nsectors - c) 128)) := by
    simp only [sendPreread_usbcmd, streaming.lba, streaming.reading.txBlocks]
    unfold wrap32
    omega
  have sent : Serving Stable cbw machine.sendPreread := by
    apply serving.of_usbcmd
    · simpa using serving.platform
    · simpa using serving.running
    all_goals simp
  have status : machine.sendPreread.usbcmd.status = .txdataPrepare := by
    simpa using streaming.status
  have filled := preread_fillCall (P := P) reading sent.cmnd sentLba
  rw [shape]
  refine ⟨serving_preread sent fills reading sentLba, ?_, ?_, ?_, ?_⟩
  · rw [filled.usbcmd]
    simp
  · rw [filled.ins]
    simp
  · exact .inr ⟨.of_preread status reading aligned sent.cmnd sentLba
      sent.platform fills, rfl⟩
  · obtain ⟨rest, grown, inner, one⟩ :=
      filled.log_inner (cbw.fillCall_isLoad _)
    refine ⟨.hit machine.usbcmd.cmnd machine.usbcmd.lba
      machine.usbcmd.txBlocks machine.prereadPayload machine.platform, rest,
      ?_, rfl, inner, rfl, one⟩
    rw [grown]
    simp

theorem chunkSent (streaming : Streaming Good cbw c machine)
    (serving : Serving Stable cbw machine) (fills : FillsGood P Stable Good cbw) :
    ∃ count, ChunkSent Stable Good cbw c count machine
      (rkusbHandleDatatx P machine) := by
  by_cases last : c + min (cbw.nsectors - c) 128 = cbw.nsectors
  · exact ⟨0, chunkSent_last streaming serving last⟩
  · have left := streaming.reading.left
    exact ⟨1, chunkSent_more streaming serving fills (by omega)⟩

end Chunk

section Iterate

variable {Stable : σ → Prop} {Good : Nat → Memory → Prop}
variable {cbw : CbWrap} {c : Nat}

theorem Serving.lowFormat (serving : Serving Stable cbw machine)
    (fills : FillsGood P Stable Good cbw) :
    Serving Stable cbw (machine.perform P .fwSorageLowFormat) :=
  serving.of_usbcmd (fills.lowFormat _ serving.platform) serving.running rfl
    rfl rfl

private theorem Streaming.sent_pos
    (streaming : Streaming Good cbw c machine) (some : 0 < c) :
    machine.usbcmd.uBytes ≠ 0 := by
  have reading := streaming.reading
  rw [reading.uBytes]
  rcases reading.known with known | known <;> rw [known] <;> omega

theorem doRockusb_streaming_busy (streaming : Streaming Good cbw c machine)
    (serving : Serving Stable cbw machine) (some : 0 < c)
    (pending : machine.usbcmd.txGiveback.status = .sendInProgress) :
    doRockusb P machine = machine.perform P .fwSorageLowFormat := by
  have waits : rkusbHandleResponse P machine = machine := by
    have sent := streaming.sent_pos some
    simp [rkusbHandleResponse, streaming.status, sent, pending]
  exact doRockusb_pending (handleIdle_busy (by simp [streaming.status])) waits
    serving.running serving.running serving.quiet pending

theorem doRockusb_streaming_free (streaming : Streaming Good cbw c machine)
    (serving : Serving Stable cbw machine) (fills : FillsGood P Stable Good cbw)
    (free : machine.usbcmd.txGiveback.status = .sendFinishedOk) :
    ∃ count sent, ChunkSent Stable Good cbw c count machine sent ∧
      doRockusb P machine = sent.perform P .fwSorageLowFormat := by
  obtain ⟨count, sent⟩ := chunkSent (P := P) streaming serving fills
  have handled : rkusbHandleResponse P machine =
      rkusbHandleDatatx P machine := by
    simp [rkusbHandleResponse, streaming.status, free]
  refine ⟨count, _, sent, ?_⟩
  exact doRockusb_pending (handleIdle_busy (by simp [streaming.status]))
    handled serving.running sent.serving.running sent.serving.quiet
    sent.pending

theorem doRockusb_streamed_busy (streamed : Streamed cbw machine)
    (serving : Serving Stable cbw machine)
    (pending : machine.usbcmd.txGiveback.status = .sendInProgress) :
    doRockusb P machine = machine.perform P .fwSorageLowFormat := by
  have waits : rkusbHandleResponse P machine = machine := by
    simp [rkusbHandleResponse, streamed.status]
  exact doRockusb_pending (handleIdle_busy (by simp [streamed.status])) waits
    serving.running serving.running serving.quiet pending

end Iterate

end KernelDrivers.Rockusb
