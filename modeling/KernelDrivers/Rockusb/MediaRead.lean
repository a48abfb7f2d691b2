import KernelDrivers.Rockusb.Host
import KernelDrivers.Rockusb.ReadRun

/-!
# Reading the media

A storage whose reads succeed and return the media's blocks.  A read command
then streams exactly the blocks it names.
-/

namespace KernelDrivers.Rockusb

open KernelDrivers.Library

variable {σ : Type} {P : Platform σ} {Stable : σ → Prop}
variable {machine : Machine σ} {cbw : CbWrap} {media : Memory}

/-- The storage call that a read of the media makes. -/
def CbWrap.readCall (cbw : CbWrap) (lba blocks : Nat) : Call :=
  if cbw.opcode = kFwRead10 then .storageReadPba lba blocks
  else .storageReadLba lba blocks

/-- The end of the address range of a read that denotes media blocks. -/
def CbWrap.readLimit (cbw : CbWrap) : Nat :=
  if cbw.opcode = kFwRead10 then 0x100000000 else 0xFFF00000

/-- While the platform is stable, media reads of the command succeed and store
the blocks of `media`, and reading leaves it stable. -/
structure ReadsMedia (P : Platform σ) (Stable : σ → Prop) (cbw : CbWrap)
    (media : Memory) : Prop where
  load : ∀ state call, call.isLoad = true → Stable state →
    Stable (P.next state call)
  lowFormat : ∀ state, Stable state →
    Stable (P.next state .fwSorageLowFormat)
  succeeds : ∀ state lba blocks, Stable state →
    lba + blocks ≤ cbw.readLimit →
    (P.reply state (cbw.readCall lba blocks)).ret = P.ftlOk
  size : ∀ state lba blocks, Stable state → lba + blocks ≤ cbw.readLimit →
    (P.reply state (cbw.readCall lba blocks)).size = blocks * cbw.readBlock
  data : ∀ state lba blocks, Stable state → lba + blocks ≤ cbw.readLimit →
    ∀ offset < blocks * cbw.readBlock,
      (P.reply state (cbw.readCall lba blocks)).data offset =
        media (lba * cbw.readBlock + offset)

/-- The bytes of `count` blocks of the media from `lba` on. -/
def mediaBlocks (media : Memory) (block lba count : Nat) : List UInt8 :=
  media.bytes (lba * block) (count * block)

theorem mediaBlocks_append (block lba first second : Nat) :
    mediaBlocks media block lba (first + second) =
      mediaBlocks media block lba first ++
        mediaBlocks media block (lba + first) second := by
  unfold mediaBlocks
  rw [Nat.add_mul, Memory.bytes_append, ← Nat.add_mul]

/-- The buffer holds the blocks that a read of `n` blocks sends next. -/
def HoldsBlocks (media : Memory) (cbw : CbWrap) (c : Nat)
    (buffer : Memory) : Prop :=
  buffer.bytes 0 (min (cbw.nsectors - c) 128 * cbw.readBlock) =
    mediaBlocks media cbw.readBlock (cbw.offset + c)
      (min (cbw.nsectors - c) 128)

private theorem loadCall_media (read : cbw.isRead)
    {usbcmd : CmdRockusbInterface} (cmnd : usbcmd.cmnd = cbw.opcode)
    (same : usbcmd.preRead.preLba = usbcmd.lba)
    (range : usbcmd.lba < cbw.readLimit) (blocks : Nat) :
    usbcmd.readsMedia ∧
      usbcmd.loadCall blocks = cbw.readCall usbcmd.lba blocks := by
  rcases read with raw | logical
  · refine ⟨.inl (by rw [cmnd, raw]), ?_⟩
    simp [CmdRockusbInterface.loadCall, CbWrap.readCall, cmnd, raw, same]
  · have different : ¬kFwLbaRead10 = kFwRead10 := by decide
    rw [CbWrap.readLimit, logical, if_neg different] at range
    have window := lbaWindow_media range
    refine ⟨.inr ⟨by rw [cmnd, logical], window⟩, ?_⟩
    simp [CmdRockusbInterface.loadCall, CbWrap.readCall, cmnd, logical, same,
      different, window]

theorem CbWrap.readLimit_le (cbw : CbWrap) : cbw.readLimit ≤ 4294967296 := by
  unfold readLimit
  split <;> decide

theorem CbWrap.fillCall_media (read : cbw.isRead) {c : Nat}
    (range : cbw.offset + c < cbw.readLimit) :
    cbw.fillCall c = cbw.readCall (cbw.offset + c) (cbw.fillBlocks c) := by
  have limit := cbw.readLimit_le
  have lba : wrap32 (cbw.offset + c) = cbw.offset + c :=
    wrap32_of_lt (by omega)
  unfold fillCall
  rw [lba]
  exact (loadCall_media read rfl rfl range _).2

/-- The storage has `capacity` blocks as far as this command can tell: reads
that end within it succeed and store the blocks of `media`.  Nothing is
assumed of the reads that cross the capacity. -/
structure ReadsUpTo (P : Platform σ) (Stable : σ → Prop) (cbw : CbWrap)
    (media : Memory) (capacity : Nat) : Prop where
  load : ∀ state call, call.isLoad = true → Stable state →
    Stable (P.next state call)
  lowFormat : ∀ state, Stable state →
    Stable (P.next state .fwSorageLowFormat)
  succeeds : ∀ state lba blocks, Stable state → lba + blocks ≤ capacity →
    (P.reply state (cbw.readCall lba blocks)).ret = P.ftlOk
  size : ∀ state lba blocks, Stable state → lba + blocks ≤ capacity →
    (P.reply state (cbw.readCall lba blocks)).size = blocks * cbw.readBlock
  data : ∀ state lba blocks, Stable state → lba + blocks ≤ capacity →
    ∀ offset < blocks * cbw.readBlock,
      (P.reply state (cbw.readCall lba blocks)).data offset =
        media (lba * cbw.readBlock + offset)

theorem ReadsMedia.upTo (platform : ReadsMedia P Stable cbw media) :
    ReadsUpTo P Stable cbw media cbw.readLimit :=
  ⟨platform.load, platform.lowFormat, platform.succeeds, platform.size,
    platform.data⟩

/-- Such a storage fills the buffers with the blocks that go out next, if it
has all the blocks that it is asked for. -/
theorem fillsGood_media (read : cbw.isRead) {capacity : Nat}
    (range : cbw.offset + cbw.nsectors ≤ cbw.readLimit)
    (fits : ∀ c < cbw.nsectors, 128 ∣ c →
      cbw.offset + c + cbw.fillBlocks c ≤ capacity)
    (platform : ReadsUpTo P Stable cbw media capacity) :
    FillsGood P Stable (HoldsBlocks media cbw) cbw := by
  refine ⟨platform.load, platform.lowFormat, ?_⟩
  intro machine c stable left aligned cmnd lba
  have limit := cbw.readLimit_le
  have enough := cbw.le_fillBlocks c
  have inRange := fits c left aligned
  generalize cbw.fillBlocks c = blocks at enough inRange
  rw [wrap32_of_lt (by omega)] at lba
  have inLimit : (machine.notePreread blocks).usbcmd.lba < cbw.readLimit := by
    simp only [Machine.notePreread_usbcmd, lba]
    omega
  have noted : (machine.notePreread blocks).usbcmd.cmnd = cbw.opcode := cmnd
  obtain ⟨reads, call⟩ := loadCall_media read noted rfl inLimit blocks
  have some : blocks ≠ 0 := by omega
  have stored : (preread P machine blocks).txBuffer machine.usbcmd.txbufNum =
      let reply := P.reply machine.platform
        (cbw.readCall (cbw.offset + c) blocks)
      ((machine.txBuffer machine.usbcmd.txbufNum).store 0
        (blocks * cbw.readBlock) fun _ => 0).store 0 reply.size
          reply.data := by
    rw [preread, if_neg some, readMedia_txBuffer reads, call]
    simp only [Machine.notePreread_usbcmd, Machine.notePreread_platform,
      Machine.notePreread_txBuffer, lba, cmnd, CbWrap.readBlock]
  have inside : min (cbw.nsectors - c) 128 * cbw.readBlock ≤
      blocks * cbw.readBlock := Nat.mul_le_mul_right _ enough
  rw [HoldsBlocks, mediaBlocks, stored]
  apply Memory.bytes_congr
  intro offset bound
  rw [platform.size _ _ _ stable inRange]
  rw [Memory.store_inside (by omega) (by omega)]
  rw [platform.data _ _ _ stable inRange _ (by omega), Nat.zero_add,
    Nat.sub_zero]

theorem Sent.flatten {c : Nat} {chunks : List (List UInt8)}
    (sent : Sent (HoldsBlocks media cbw) cbw.nsectors cbw.readBlock c
      chunks) :
    chunks.flatten = mediaBlocks media cbw.readBlock cbw.offset c := by
  induction sent with
  | nil => simp [mediaBlocks, Memory.bytes]
  | snoc _ _ holds induction =>
      rw [List.flatten_append, induction, mediaBlocks_append, ← holds]
      simp

/-- What a run over one read has done: chunks of at most 128 blocks, which
together are a prefix of the range and, when the one status wrapper is sent,
all of it.  After an iteration without the wrapper a transfer is under way, so
that enough completions lead to the wrapper. -/
def ReadOutcome (media : Memory) (cbw : CbWrap) (start : Machine σ)
    (actions : List Action) (machine : Machine σ) : Prop :=
  machine.control = .running ∧
  ∃ events chunks, machine.log = start.log ++ events ∧
    (∀ chunk ∈ chunks, chunk.length ≤ 128 * cbw.readBlock) ∧
    chunks.flatten <+:
      mediaBlocks media cbw.readBlock cbw.offset cbw.nsectors ∧
    ((csws events = [] ∧ payloads events = chunks ∧
        (actions.getLast? = some .iterate → machine.ins ≠ [])) ∨
      ∃ csw, csws events = [csw] ∧ payloads events = chunks ++ [csw.bytes] ∧
        chunks.flatten =
          mediaBlocks media cbw.readBlock cbw.offset cbw.nsectors ∧
        csw.tag = cbw.tag ∧ csw.status = cswGood) ∧
    (cbw.nsectors ≤ 128 * completions actions →
      actions.getLast? = some .iterate → csws events ≠ [])

private theorem Sent.chunk_length {n block c : Nat}
    {Good : Nat → Memory → Prop} {chunks : List (List UInt8)}
    (sent : Sent Good n block c chunks) :
    ∀ chunk ∈ chunks, chunk.length ≤ 128 * block := by
  induction sent with
  | nil => simp
  | snoc _ _ _ induction =>
      intro chunk member
      rcases List.mem_append.mp member with old | new
      · exact induction chunk old
      · rw [List.mem_singleton.mp new, Memory.length_bytes]
        exact Nat.mul_le_mul_right _ (Nat.min_le_right _ _)

private theorem mediaBlocks_prefix {block lba first count : Nat}
    (atMost : first ≤ count) :
    mediaBlocks media block lba first <+: mediaBlocks media block lba count := by
  obtain ⟨rest, rfl⟩ := Nat.exists_eq_add_of_le atMost
  rw [mediaBlocks_append]
  exact List.prefix_append _ _

private theorem ReadProgress.outcome {start : Machine σ}
    {actions : List Action} {chunks : List (List UInt8)}
    {statuses : List CsWrap}
    (progress : ReadProgress Stable (HoldsBlocks media cbw) cbw start actions
      machine chunks statuses) : ReadOutcome media cbw start actions machine := by
  obtain ⟨ahead, filled, phase, ⟨events, grown, handed, sent, -⟩, -⟩ :=
    progress.phase
  refine ⟨progress.serving.running, events, chunks, grown, ?_⟩
  have waiting : ∀ {c : Nat}, statuses = [] →
      Sent (HoldsBlocks media cbw) cbw.nsectors cbw.readBlock c chunks →
      actions.getLast? = some .iterate →
      machine.ins ≠ [] ∧ ¬cbw.nsectors ≤ 128 * completions actions := by
    intro c none chunksSent last
    subst none
    rcases progress.pipe with ⟨⟨-, transfer, posted⟩, count⟩ | ⟨-, -, ended⟩
    · have bound := chunksSent.count
      simp only [List.length_nil, Nat.add_zero] at count
      refine ⟨by simp [posted], ?_⟩
      omega
    · exact absurd rfl (ended last)
  cases phase with
  | streaming some chunksSent streaming =>
      refine ⟨chunksSent.chunk_length, ?_, .inl ⟨sent, ?_, ?_⟩, ?_⟩
      · rw [chunksSent.flatten]
        exact mediaBlocks_prefix chunksSent.count.1
      · simpa using handed
      · exact fun last => (waiting rfl chunksSent last).1
      · exact fun enough last => absurd enough (waiting rfl chunksSent last).2
  | streamed chunksSent streamed =>
      refine ⟨chunksSent.chunk_length, ?_, .inl ⟨sent, ?_, ?_⟩, ?_⟩
      · exact ⟨[], by rw [chunksSent.flatten, List.append_nil]⟩
      · simpa using handed
      · exact fun last => (waiting rfl chunksSent last).1
      · exact fun enough last => absurd enough (waiting rfl chunksSent last).2
  | answered chunksSent tag good _ _ =>
      refine ⟨chunksSent.chunk_length, ?_, .inr ⟨_, sent, ?_, ?_, tag, good⟩,
        ?_⟩
      · exact ⟨[], by rw [chunksSent.flatten, List.append_nil]⟩
      · simpa using handed
      · exact chunksSent.flatten
      · simp [sent]

/-- A read whose fills leave the blocks of the media in the buffers streams
them. -/
theorem readOutcome_of_run (read : cbw.isRead) (some : 0 < cbw.nsectors)
    (fills : FillsGood P Stable (HoldsBlocks media cbw) cbw)
    {start : Machine σ} (stable : Stable start.platform)
    (received : CommandReceived cbw start)
    (empty : start.usbcmd.preRead.preBlocks = 0) {actions : List Action}
    (run : Run (step P) (fun _ action => action.servesRead) start actions
      machine) :
    ReadOutcome media cbw start actions machine := by
  have miss := cbw.not_hits some empty
  rcases readProgress_of_run read some received stable fills
    (fun hit => absurd hit miss) run with ⟨rfl, rfl⟩ | ⟨_, _, progress⟩
  · refine ⟨received.running, [], [], by simp, by simp, by simp, ?_, ?_⟩
    · exact .inl ⟨rfl, rfl, by simp⟩
    · simp
  · exact progress.outcome

/-- A read command streams the blocks it names and then its status, whatever
the order of iterations and completions. -/
theorem read_streams_media (read : cbw.isRead) (some : 0 < cbw.nsectors)
    (range : cbw.offset + cbw.nsectors + 128 ≤ cbw.readLimit)
    (platform : ReadsMedia P Stable cbw media) {start : Machine σ}
    (stable : Stable start.platform) (received : CommandReceived cbw start)
    (empty : start.usbcmd.preRead.preBlocks = 0) {actions : List Action}
    (run : Run (step P) (fun _ action => action.servesRead) start actions
      machine) :
    ReadOutcome media cbw start actions machine := by
  have fits : ∀ c < cbw.nsectors, 128 ∣ c →
      cbw.offset + c + cbw.fillBlocks c ≤ cbw.readLimit := by
    intro c left _
    have atMost := cbw.fillBlocks_le c
    omega
  have fills := fillsGood_media read (by omega) fits platform.upTo
  exact readOutcome_of_run read some fills stable received empty run

/-- The media on which each byte is the number of its 512-byte block. -/
def numberedMedia : Memory :=
  fun address => .ofNat (address / 512)

private def readBlockPacket : List UInt8 :=
  cbwPacket 7 66048 0x14 0 5 129

/-- A read of 129 blocks, in two chunks. -/
theorem read_streams_media_chunks :
    ∃ machine : Machine Unit, csws machine.log ≠ [] ∧
      ReadOutcome numberedMedia
        (CbWrap.ofBuffer (Memory.storeList (fun _ => 0) 0 readBlockPacket))
        (receivedMachine readBlockPacket ())
        [.iterate, .inDone 0 0 65536, .iterate, .inDone 0 0 512, .iterate]
        machine := by
  have passed : (execute (step (readOnlyStorage 0 numberedMedia))
      (fun _ action => action.servesRead)
      (receivedMachine readBlockPacket ())
      [.iterate, .inDone 0 0 65536, .iterate, .inDone 0 0 512, .iterate]).any
        (fun machine => decide (csws machine.log ≠ [])) = true := by
    decide +kernel
  obtain ⟨final, run, answered⟩ := Run.exists_of_execute passed
  have platform : ReadsMedia (readOnlyStorage 0 numberedMedia)
      (fun _ => True)
      (CbWrap.ofBuffer (Memory.storeList (fun _ => 0) 0 readBlockPacket))
      numberedMedia := by
    refine ⟨fun _ _ _ _ => trivial, fun _ _ => trivial, ?_, ?_, ?_⟩
    all_goals
      intros
      rfl
  refine ⟨final, by simpa using answered, ?_⟩
  refine read_streams_media (.inr (by decide)) (by decide) (by decide)
    platform trivial ?_ rfl run
  exact ⟨rfl, by decide, rfl, by decide, ⟨0, rfl, rfl⟩, rfl, rfl, rfl⟩

end KernelDrivers.Rockusb
