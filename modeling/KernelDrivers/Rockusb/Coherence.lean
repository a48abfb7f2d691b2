import KernelDrivers.Rockusb.Cache

/-!
# Coherent hits

The fill, the hit and the status stage against the cache.  A fill that succeeds
holds the blocks it notes, a write command that overlaps them drops them, and
every other phase of an iteration leaves them to what was logged.
-/

namespace KernelDrivers.Rockusb

open KernelDrivers.Library

variable {σ : Type} {P : Platform σ} {machine after : Machine σ}
variable {contents : σ → Media} {armed : σ → Prop}
variable {touches : Call → Nat → Nat → Bool}

/-- What an iteration may log: hits that are coherent, and calls that do not
arm the low format. -/
def Event.cacheSafe (contents : σ → Media) : Event σ → Prop
  | .call made _ => made ≠ .fwSorageLowFormatEn 1
  | event => event.coherent contents

/-- An event that has nothing to do with the cache but may spoil it. -/
def Event.passive : Event σ → Prop
  | .call made _ => made.isLoad = false ∧ made ≠ .fwSorageLowFormatEn 1
  | .command _ => False
  | .hit .. => False
  | _ => True

theorem Event.passive.quiet {event : Event σ} (passive : event.passive) :
    event.quiet := by
  cases event with
  | call => exact passive
  | _ => trivial

theorem Event.passive.cacheSafe {event : Event σ} (passive : event.passive) :
    event.cacheSafe contents := by
  cases event with
  | call => exact passive.2
  | hit => exact passive.elim
  | _ => trivial

theorem Event.cacheSafe.coherent {event : Event σ}
    (safe : event.cacheSafe contents) : event.coherent contents := by
  cases event with
  | call => trivial
  | _ => exact safe

theorem Event.isPosting.passive {event : Event σ}
    (posting : event.isPosting) : event.passive := by
  cases event with
  | txStore => trivial
  | csw => trivial
  | bulkIn => trivial
  | bulkOut => trivial
  | _ => exact posting.elim

/-- The cache holds what it should, and the writes since have missed it. -/
structure CacheKept (P : Platform σ) (contents : σ → Media)
    (touches : Call → Nat → Nat → Bool) (machine : Machine σ) : Prop where
  held : CacheHeld P contents touches machine
  missed : machine.cacheMissed

/-- Between two iterations of the loop: in the data stage of a read the next
blocks are in the cache. -/
structure CacheSettled (P : Platform σ) (contents : σ → Media)
    (touches : Call → Nat → Nat → Bool) (machine : Machine σ) : Prop where
  kept : CacheKept P contents touches machine
  sending : machine.usbcmd.status = .txdataPrepare →
    ∃ n block c, Reading n block c machine.usbcmd ∧ machine.usbcmd.prereadHit

/-- A hit now would send what the storage holds. -/
def Machine.hitCoherent (contents : σ → Media) (machine : Machine σ) : Prop :=
  denotesMedia machine.usbcmd.cmnd machine.usbcmd.lba →
    machine.prereadPayload = (contents machine.platform).blocks
      machine.usbcmd.cmnd machine.usbcmd.lba machine.usbcmd.txBlocks

/-- Filling the cache now would succeed. -/
def Machine.fillsWell (P : Platform σ) (machine : Machine σ) : Prop :=
  denotesMedia machine.usbcmd.cmnd machine.usbcmd.lba →
    (P.reply machine.platform ((machine.notePreread
      machine.usbcmd.txBlocks).usbcmd.loadCall
        machine.usbcmd.txBlocks)).ret = P.ftlOk

/-- Between the idle test and the response. -/
inductive CacheReady (P : Platform σ) (contents : σ → Media)
    (touches : Call → Nat → Nat → Bool) (machine : Machine σ) : Prop where
  | settled : CacheSettled P contents touches machine →
      (machine.usbcmd.sendsNext → machine.hitCoherent contents) →
      CacheReady P contents touches machine
  | started {n block : Nat} : CacheKept P contents touches machine →
      machine.usbcmd.status = .txdataPrepare →
      Reading n block 0 machine.usbcmd →
      (machine.usbcmd.prereadHit → machine.hitCoherent contents) →
      (¬machine.usbcmd.prereadHit → machine.fillsWell P) →
      CacheReady P contents touches machine
  | empty : machine.usbcmd.status = .txdataPrepare →
      machine.usbcmd.uSize = 0 → machine.usbcmd.uBytes = 0 →
      CacheReady P contents touches machine

theorem hitCoherent_of_cached {n block c : Nat}
    (reading : Reading n block c machine.usbcmd)
    (hit : machine.usbcmd.prereadHit)
    (cached : denotesMedia machine.usbcmd.cmnd machine.usbcmd.lba →
      (machine.txBuffer machine.usbcmd.txbufNum).bytes 0
          (machine.usbcmd.txBlocks * txBlockLength machine.usbcmd.cmnd) =
        (contents machine.platform).blocks machine.usbcmd.cmnd
          machine.usbcmd.preRead.preLba machine.usbcmd.txBlocks) :
    machine.hitCoherent contents := by
  obtain ⟨-, -, same⟩ := hit
  intro media
  have size : machine.usbcmd.txdataSize =
      machine.usbcmd.txBlocks * txBlockLength machine.usbcmd.cmnd := by
    rw [reading.txdataSize, reading.txBlocks, reading.length]
  rw [Machine.prereadPayload, size, cached media, same]

theorem CacheKept.grow (storage : ReadableStorage P contents armed touches)
    (unarmed : ¬armed machine.platform)
    (kept : CacheKept P contents touches machine)
    (grown : Extends P Event.passive machine after)
    (preRead : after.usbcmd.preRead = machine.usbcmd.preRead) :
    CacheKept P contents touches after := by
  refine ⟨kept.held.grow storage unarmed
    (grown.mono fun _ passive => passive.quiet) preRead, ?_⟩
  obtain ⟨events, log, -, -, passive⟩ := grown
  have silent : commands events = [] := by
    apply List.filterMap_eq_nil_iff.mpr
    intro event member
    have still := passive event member
    cases event with
    | command => exact still.elim
    | _ => rfl
  refine kept.missed.grow (fun event member => (passive event member).quiet)
    log preRead ?_
  rw [silent]
  intro _ among
  cases among

theorem CacheKept.dropped (kept : CacheKept P contents touches machine)
    (grown : Extends P Event.quiet machine after)
    (empty : after.usbcmd.preRead.preBlocks = 0) :
    CacheKept P contents touches after := by
  obtain ⟨events, log, -, -, quiet⟩ := grown
  exact ⟨.of_empty (kept.held.begun_append quiet log) empty,
    .of_empty empty⟩

section Preread

theorem denotesMedia.isRead {usbcmd : CmdRockusbInterface} {lba : Nat}
    (media : denotesMedia usbcmd.cmnd lba) : usbcmd.isRead := by
  rcases media with raw | ⟨logical, -⟩
  · exact .inl raw
  · exact .inr logical

/-- The call of a read reads the media when its address denotes it. -/
theorem loadCall_reads {usbcmd : CmdRockusbInterface} {blocks cmnd : Nat}
    (read : usbcmd.isRead)
    (reads : (usbcmd.loadCall blocks).readSpace = some cmnd) :
    cmnd = usbcmd.cmnd ∧ denotesMedia usbcmd.cmnd usbcmd.lba := by
  rcases read with raw | logical
  · rw [CmdRockusbInterface.loadCall, if_pos raw] at reads
    exact ⟨(Option.some.inj reads).symm.trans raw.symm, .inl raw⟩
  · have different : ¬usbcmd.cmnd = kFwRead10 := by
      rw [logical]
      decide
    rw [CmdRockusbInterface.loadCall, if_neg different] at reads
    cases window : lbaWindow usbcmd.lba with
    | media =>
        rw [window] at reads
        exact ⟨(Option.some.inj reads).symm.trans logical.symm,
          .inr ⟨logical, window⟩⟩
    | sysData | unlock | vendor =>
        rw [window] at reads
        cases reads

/-- A load of the media that succeeds stores the blocks it names. -/
theorem ReadableStorage.loadCall
    (storage : ReadableStorage P contents armed touches)
    {usbcmd : CmdRockusbInterface}
    (media : denotesMedia usbcmd.cmnd usbcmd.lba)
    (noted : usbcmd.preRead.preLba = usbcmd.lba) {state : σ} {blocks : Nat}
    (succeeded : (P.reply state (usbcmd.loadCall blocks)).ret = P.ftlOk) :
    (P.reply state (usbcmd.loadCall blocks)).stores
      ((contents state).blocks usbcmd.cmnd usbcmd.lba blocks) := by
  rcases media with raw | ⟨logical, window⟩
  · have call : usbcmd.loadCall blocks =
        .storageReadPba usbcmd.lba blocks := by
      rw [CmdRockusbInterface.loadCall, if_pos raw, noted]
    rw [call] at succeeded ⊢
    simpa [Media.blocks, raw, txBlockLength] using
      storage.rawRead state usbcmd.lba blocks succeeded
  · have different : ¬kFwLbaRead10 = kFwRead10 := by decide
    have call : usbcmd.loadCall blocks =
        .storageReadLba usbcmd.lba blocks := by
      rw [CmdRockusbInterface.loadCall, logical, if_neg different, window,
        noted]
    rw [call] at succeeded ⊢
    simpa [Media.blocks, logical, different, txBlockLength] using
      storage.logicalRead state usbcmd.lba blocks succeeded

theorem ReadableStorage.load_blocks
    (storage : ReadableStorage P contents armed touches) (state : σ)
    {call : Call} (load : call.isLoad = true) (cmnd lba blocks : Nat) :
    (contents (P.next state call)).blocks cmnd lba blocks =
      (contents state).blocks cmnd lba blocks := by
  apply Media.blocks_congr
  intro index _
  refine storage.kept state call cmnd _ (storage.loads call cmnd _ load) ?_
  rintro rfl
  cases load

/-- What was noted lies in the buffer when the load has succeeded. -/
theorem preread_content (storage : ReadableStorage P contents armed touches)
    (media : denotesMedia machine.usbcmd.cmnd machine.usbcmd.lba)
    {blocks : Nat} (some : blocks ≠ 0)
    (succeeded : (P.reply machine.platform
      ((machine.notePreread blocks).usbcmd.loadCall blocks)).ret = P.ftlOk) :
    ((preread P machine blocks).txBuffer machine.usbcmd.txbufNum).bytes 0
        (blocks * txBlockLength machine.usbcmd.cmnd) =
      (contents (preread P machine blocks).platform).blocks
        machine.usbcmd.cmnd machine.usbcmd.lba blocks := by
  let noted := machine.notePreread blocks
  have load := noted.usbcmd.loadCall_isLoad blocks
  obtain ⟨size, data⟩ := @ReadableStorage.loadCall _ _ _ _ _ storage
    noted.usbcmd media rfl _ _ succeeded
  have length : (P.reply machine.platform
      (noted.usbcmd.loadCall blocks)).size =
        blocks * txBlockLength machine.usbcmd.cmnd := by
    rw [size, Media.blocks, mediaBlocks, Memory.length_bytes]
    rfl
  have shape : preread P machine blocks =
      readMedia P noted machine.usbcmd.txbufNum blocks := by
    rw [preread, if_neg some]
  have filled := @readMedia_filled σ P noted media.isRead
    machine.usbcmd.txbufNum blocks
  have stored := @readMedia_txBuffer σ P noted media
    machine.usbcmd.txbufNum blocks
  rw [shape, filled.platform, storage.load_blocks _ load, stored]
  refine Eq.trans ?_ data
  rw [length]
  apply Memory.bytes_congr
  intro offset inside
  have within : offset < (P.reply machine.platform
      (noted.usbcmd.loadCall blocks)).size := by
    rw [length]
    exact inside
  rw [Memory.store_inside (Nat.zero_le _) (by
    rw [Nat.zero_add, Nat.zero_add]
    exact within), Nat.zero_add, Nat.sub_zero]
  rfl

/-- A fill keeps the cache, whatever there was before. -/
theorem preread_kept (storage : ReadableStorage P contents armed touches)
    (read : machine.usbcmd.isRead) {blocks : Nat} (some : blocks ≠ 0) :
    CacheKept P contents touches (preread P machine blocks) := by
  let noted := machine.notePreread blocks
  have filled : Filled P machine.usbcmd.txbufNum
      (noted.usbcmd.loadCall blocks) noted (preread P machine blocks) :=
    preread_filled read some
  have load := noted.usbcmd.loadCall_isLoad blocks
  have usbcmd := filled.usbcmd
  obtain ⟨stores, log, begun, uniform⟩ := filled.log
  have quiet : ∀ event ∈ stores, event.quiet := by
    intro event member
    rw [uniform event member]
    trivial
  have last : lastFill (preread P machine blocks).log =
      Option.some ⟨noted.usbcmd.loadCall blocks,
        P.reply machine.platform (noted.usbcmd.loadCall blocks), stores⟩ := by
    rw [log, List.append_cons]
    exact lastFill_load load _ quiet _
  refine ⟨⟨?_, ?_⟩, ?_⟩
  · rw [last]
    intro fill member _ _
    obtain rfl := Option.some.inj member
    exact begun
  · rw [last, usbcmd]
    intro fill member cmnd intact buf same
    obtain rfl := Option.some.inj member
    obtain rfl := Option.some.inj same
    have reading : noted.usbcmd.isRead := read
    obtain ⟨rfl, media⟩ := loadCall_reads reading intact.reads
    exact preread_content storage media some intact.succeeded
  · intro _ fill member cbw among _
    rw [last] at member
    obtain rfl := Option.some.inj member
    obtain ⟨event, inStores, shape⟩ := List.mem_filterMap.mp among
    rw [uniform event inStores] at shape
    cases shape

end Preread

section Datatx

variable {n block c : Nat}

theorem preread_safe (machine : Machine σ) (blocks : Nat) :
    Extends P (Event.cacheSafe contents) machine
      (preread P machine blocks) := by
  have noted : Extends P (Event.cacheSafe contents) machine
      (machine.notePreread blocks) := .of_same rfl rfl rfl
  unfold preread
  dsimp only
  split
  · exact noted
  · have filled : Answers P (fun call => call.isLoad = true)
        (machine.notePreread blocks) _ :=
      .readMedia _ blocks (fun _ load => load)
    refine noted.trans (filled.extends.mono ?_)
    intro event fill
    cases event with
    | call made reply =>
        rintro rfl
        cases fill
    | txStore => trivial
    | _ => exact fill.elim

theorem sendPreread_safe (coherent : machine.hitCoherent contents) :
    Extends P (Event.cacheSafe contents) machine machine.sendPreread := by
  refine ⟨_, sendPreread_log, sendPreread_platform,
    .of_same sendPreread_txBuffer, ?_⟩
  intro event member
  rcases List.mem_cons.mp member with rfl | member
  · exact coherent
  · rw [List.mem_singleton.mp member]
    trivial

theorem sendPreread_quiet (machine : Machine σ) :
    Extends P Event.quiet machine machine.sendPreread :=
  ⟨_, sendPreread_log, sendPreread_platform, .of_same sendPreread_txBuffer,
    by simp [Event.quiet]⟩

theorem preread_settled (storage : ReadableStorage P contents armed touches)
    (reading : Reading n block c machine.usbcmd) {blocks : Nat}
    (enough : machine.usbcmd.txBlocks ≤ blocks) :
    CacheSettled P contents touches (preread P machine blocks) := by
  have some : blocks ≠ 0 := by
    have some := reading.txBlocks_pos
    omega
  exact ⟨preread_kept storage reading.isRead some,
    fun _ => ⟨n, block, c, reading.preread some,
      prereadHit_preread reading enough⟩⟩

theorem handleDatatx_hit (storage : ReadableStorage P contents armed touches)
    (kept : CacheKept P contents touches machine)
    (reading : Reading n block c machine.usbcmd)
    (hit : machine.usbcmd.prereadHit)
    (coherent : machine.hitCoherent contents) :
    Extends P (Event.cacheSafe contents) machine
        (rkusbHandleDatatx P machine) ∧
      CacheSettled P contents touches (rkusbHandleDatatx P machine) := by
  have sent : Extends P (Event.cacheSafe contents) machine
      machine.sendPreread := sendPreread_safe coherent
  rw [rkusbHandleDatatx_hit reading hit]
  split
  · have cleared : ∀ {allowed : Event σ → Prop},
        Extends P allowed machine.sendPreread
          (machine.sendPreread.clearPreread.replyGood .csw) :=
      .of_same (by simp) (by simp) (by simp)
    refine ⟨sent.trans cleared,
      kept.dropped ((sendPreread_quiet machine).trans cleared) (by simp), ?_⟩
    simp
  · have left := reading.left
    have more := reading.sendPreread (by omega)
    refine ⟨sent.trans (preread_safe _ 128), preread_settled storage more ?_⟩
    rw [more.txBlocks]
    exact Nat.min_le_right _ _

/-- The first call of the handler hits, or fills the cache and then hits. -/
theorem handleDatatx_start
    (storage : ReadableStorage P contents armed touches)
    (kept : CacheKept P contents touches machine)
    (reading : Reading n block 0 machine.usbcmd)
    (cached : machine.usbcmd.prereadHit → machine.hitCoherent contents)
    (filled : ¬machine.usbcmd.prereadHit → machine.fillsWell P) :
    Extends P (Event.cacheSafe contents) machine
        (rkusbHandleDatatx P machine) ∧
      CacheSettled P contents touches (rkusbHandleDatatx P machine) := by
  by_cases hit : machine.usbcmd.prereadHit
  · exact handleDatatx_hit storage kept reading hit (cached hit)
  · have some := reading.txBlocks_pos
    have usbcmd := (preread_filled (P := P) reading.isRead some).usbcmd
    have again := reading.preread (P := P) some
    have coherent : (preread P machine
        machine.usbcmd.txBlocks).hitCoherent contents := by
      rw [Machine.hitCoherent, Machine.prereadPayload, again.txdataSize,
        again.txBlocks, ← reading.txBlocks, ← reading.length, usbcmd]
      simp only [Machine.notePreread_usbcmd]
      intro media
      exact preread_content storage media some (filled hit media)
    obtain ⟨sent, settled⟩ := handleDatatx_hit storage
      (preread_kept storage reading.isRead some) again
      (prereadHit_preread reading (Nat.le_refl _)) coherent
    rw [rkusbHandleDatatx_miss reading hit]
    exact ⟨(preread_safe _ _).trans sent, settled⟩

end Datatx

/-- The calls that hand blocks to the media are passive. -/
theorem writeMedia_passive (machine : Machine σ) (buf : Option (Fin 2))
    (blocks : Nat) :
    Extends P Event.passive machine (writeMedia P machine buf blocks) := by
  have perform : ∀ (start : Machine σ) {call : Call}, call.isLoad = false →
      call ≠ .fwSorageLowFormatEn 1 → Extends P Event.passive start
        (start.perform P call) :=
    fun _ _ noLoad other => .perform ⟨noLoad, other⟩
  have load : ∀ (start : Machine σ) (buf : Fin 2),
      Extends P Event.passive start (start.loadRx buf) :=
    fun _ _ => ⟨[_], rfl, rfl, .of_same rfl, by simp [Event.passive]⟩
  have advance : ∀ (start : Machine σ)
      (change : CmdRockusbInterface → CmdRockusbInterface),
      Extends P Event.passive start (start.update change) :=
    fun _ _ => .of_same rfl rfl rfl
  unfold writeMedia
  split
  · exact .refl machine
  · split
    · exact .of_same rfl rfl rfl
    · split
      · unfold writePba
        dsimp only
        split
        · exact (((perform _ rfl (by simp)).trans (load _ _)).trans
            (perform _ rfl (by simp))).trans (advance _ _)
        · exact perform _ rfl (by simp)
      · split
        · unfold writeLba
          dsimp only
          split
          · exact ((load _ _).trans (perform _ rfl (by simp))).trans
              (advance _ _)
          · exact (load _ _).trans (perform _ rfl (by simp))
          · exact ((load _ _).trans (perform _ rfl (by simp))).trans
              (advance _ _)
          · split
            · exact ((load _ _).trans (perform _ rfl (by simp))).trans
                (advance _ _)
            · exact .refl machine
        · exact .refl machine

theorem answerData_status (machine : Machine σ) :
    machine.answerData.usbcmd.status = .rxdata ∨
      machine.answerData.usbcmd.status = .idle ∨
      machine.answerData.usbcmd.status = machine.usbcmd.status := by
  have counted : machine.countData.usbcmd.status = machine.usbcmd.status := by
    unfold Machine.countData
    dsimp only
    split <;> rfl
  unfold Machine.answerData
  split
  · exact .inl rfl
  · right
    unfold Machine.finishData
    rcases rkusbSendCsw_cases (machine.countData.replyGood
      machine.countData.usbcmd.status) with sent | same
    · rw [sent.usbcmd]
      exact .inl rfl
    · rw [same]
      exact .inr counted

theorem rkusbSendCsw_preRead (machine : Machine σ) :
    (rkusbSendCsw machine).usbcmd.preRead = machine.usbcmd.preRead := by
  rcases rkusbSendCsw_cases machine with sent | same
  · rw [sent.usbcmd]
  · rw [same]

theorem answerData_preRead (machine : Machine σ) :
    machine.answerData.usbcmd.preRead = machine.usbcmd.preRead := by
  have counted : machine.countData.usbcmd.preRead =
      machine.usbcmd.preRead := by
    unfold Machine.countData
    dsimp only
    split <;> rfl
  unfold Machine.answerData
  split
  · exact counted
  · rw [Machine.finishData, rkusbSendCsw_preRead]
    exact counted

/-- A data stage from the host leaves the cache to what it logs. -/
theorem handleDatarx_cache
    (storage : ReadableStorage P contents armed touches)
    (unarmed : ¬armed machine.platform)
    (kept : CacheKept P contents touches machine)
    (stage : machine.usbcmd.status ≠ .txdataPrepare) :
    Extends P (Event.cacheSafe contents) machine
        (rkusbHandleDatarx P machine) ∧
      CacheSettled P contents touches (rkusbHandleDatarx P machine) := by
  have posted := Posted.answerData (P := P) machine
  have grown : Extends P Event.passive machine
      (rkusbHandleDatarx P machine) := by
    rw [rkusbHandleDatarx_eq]
    exact (posted.log.mono fun _ posting => posting.passive).trans
      (writeMedia_passive _ _ _)
  obtain ⟨lba, usbcmd⟩ := (Stored.writeMedia (P := P) machine.answerData
    machine.usbcmd.rxGiveback.buf (machine.usbcmd.rxGiveback.actual /
      rxBlockLength machine.usbcmd.cmnd)).usbcmd
  rw [← rkusbHandleDatarx_eq] at usbcmd
  refine ⟨grown.mono fun _ passive => passive.cacheSafe,
    kept.grow storage unarmed grown ?_, ?_⟩
  · rw [usbcmd]
    exact answerData_preRead machine
  · rw [usbcmd]
    intro sending
    dsimp only at sending
    rcases answerData_status machine with rxdata | idle | same
    · rw [rxdata] at sending
      cases sending
    · rw [idle] at sending
      cases sending
    · exact absurd (same.symm.trans sending) stage

/-- The handler of a write keeps a cache that it misses, and empties any
other. -/
theorem prepareWrite_preRead {cbw : CbWrap} (write : cbw.isWrite)
    (wrapper : machine.usbcmd.cbw = cbw) :
    (machine.prepareWrite cbw.writeBlock).usbcmd.preRead =
        machine.usbcmd.preRead ∧
        machine.usbcmd.preRead.misses cbw.offset cbw.nsectors ∨
      (machine.prepareWrite cbw.writeBlock).usbcmd.preRead.preBlocks = 0 := by
  have blocks : cbw.nsectors * cbw.writeBlock / cbw.writeBlock =
      cbw.nsectors := by
    apply Nat.mul_div_cancel
    rcases write with raw | logical
    · rw [CbWrap.writeBlock, raw]
      decide
    · rw [CbWrap.writeBlock, logical]
      decide
  simp only [Machine.prepareWrite_usbcmd, wrapper, blocks]
  by_cases misses : machine.usbcmd.preRead.misses cbw.offset cbw.nsectors
  · exact .inl ⟨if_pos misses, misses⟩
  · exact .inr (by rw [if_neg misses])

section Accept

variable {buf : Fin 2} {cbw : CbWrap}

theorem accept_extends {allowed : Event σ → Prop} (machine : Machine σ)
    (buf : Fin 2) (load : ∀ owned, allowed (.rxLoad buf owned))
    (command : ∀ cbw, allowed (.command cbw)) :
    Extends P allowed machine (machine.accept buf) :=
  ⟨[_, _], List.append_assoc _ [_] [_], rfl, .of_same rfl,
    by simp [load, command]⟩

theorem CacheKept.accept
    (storage : ReadableStorage P contents armed touches)
    (unarmed : ¬armed machine.platform)
    (kept : CacheKept P contents touches machine)
    (packet : CbWrap.ofBuffer (machine.rxBuffer buf) = cbw)
    (other : ¬cbw.isWrite) :
    CacheKept P contents touches (machine.accept buf) := by
  refine ⟨kept.held.grow storage unarmed (accept_extends machine buf
    (fun _ => trivial) (fun _ => trivial)) rfl, ?_⟩
  refine @Machine.cacheMissed.grow σ machine _ kept.missed
    [.rxLoad buf (machine.outs.map Transfer.buf), .command cbw] ?_ ?_ rfl ?_
  · simp [Event.quiet]
  · rw [← packet]
    exact List.append_assoc _ [_] [_]
  · intro same among write
    obtain rfl := List.mem_singleton.mp among
    exact absurd write other

theorem CacheKept.write
    (storage : ReadableStorage P contents armed touches)
    (unarmed : ¬armed machine.platform)
    (kept : CacheKept P contents touches machine)
    (packet : CbWrap.ofBuffer (machine.rxBuffer buf) = cbw)
    (write : cbw.isWrite) (mode : Nat) :
    CacheKept P contents touches (((machine.accept buf).update fun usbcmd =>
      { usbcmd with imgwrMode := mode }).prepareWrite cbw.writeBlock) := by
  have grown : Extends P Event.quiet machine
      (((machine.accept buf).update fun usbcmd =>
        { usbcmd with imgwrMode := mode }).prepareWrite cbw.writeBlock) :=
    (accept_extends machine buf (fun _ => trivial) (fun _ => trivial)).trans
      (.of_same rfl rfl rfl)
  rcases @prepareWrite_preRead σ ((machine.accept buf).update fun usbcmd =>
      { usbcmd with imgwrMode := mode }) cbw write packet with
    ⟨same, misses⟩ | empty
  · refine ⟨kept.held.grow storage unarmed grown same, ?_⟩
    refine @Machine.cacheMissed.grow σ machine _ kept.missed
      [.rxLoad buf (machine.outs.map Transfer.buf), .command cbw] ?_ ?_ same ?_
    · simp [Event.quiet]
    · rw [← packet]
      exact List.append_assoc _ [_] [_]
    · intro other among _
      obtain rfl := List.mem_singleton.mp among
      exact misses
  · exact kept.dropped grown empty

/-- A read finds its first blocks in a sound cache, or fills one. -/
theorem readPrepared_ready
    (storage : ReadableStorage P contents armed touches)
    (unarmed : ¬armed machine.platform)
    (kept : CacheKept P contents touches machine)
    (packet : CbWrap.ofBuffer (machine.rxBuffer buf) = cbw)
    (read : cbw.isRead)
    (sound : 0 < cbw.nsectors → denotesMedia cbw.opcode cbw.offset →
      cbw.beginsSound P touches machine) :
    CacheReady P contents touches (machine.readPrepared buf cbw.readBlock) := by
  by_cases none : cbw.nsectors = 0
  · refine .empty rfl ?_ rfl
    simp [Machine.readPrepared, Machine.accept, packet, none]
  · have some := Nat.pos_of_ne_zero none
    have reading := readPrepared_reading packet read some
    have hits := readPrepared_hit packet read some
    have cmnd : (machine.readPrepared buf cbw.readBlock).usbcmd.cmnd =
        cbw.opcode := congrArg CbWrap.opcode packet
    have lba : (machine.readPrepared buf cbw.readBlock).usbcmd.lba =
        cbw.offset := congrArg CbWrap.offset packet
    have accepted := kept.accept storage unarmed packet read.not_isWrite
    have still : ¬armed (machine.accept buf).platform := unarmed
    have prepared : Extends P Event.passive (machine.accept buf)
        (machine.readPrepared buf cbw.readBlock) := .of_same rfl rfl rfl
    refine .started (accepted.grow storage still prepared rfl) rfl reading
      ?_ ?_
    · intro hit
      refine hitCoherent_of_cached reading hit ?_
      rw [cmnd, lba]
      intro media
      have found := sound some media
      rw [CbWrap.beginsSound, if_pos (hits.mp hit)] at found
      exact kept.held.cached storage kept.missed found hit.1 hit.2.1
    · intro miss
      rw [Machine.fillsWell, cmnd, lba]
      intro media
      have fills := sound some media
      rw [CbWrap.beginsSound, if_neg fun found => miss (hits.mpr found)]
        at fills
      have call : ((machine.readPrepared buf
          cbw.readBlock).notePreread (machine.readPrepared buf
            cbw.readBlock).usbcmd.txBlocks).usbcmd.loadCall
              (machine.readPrepared buf cbw.readBlock).usbcmd.txBlocks =
          cbw.readCall cbw.offset (min cbw.nsectors 128) := by
        rw [reading.txBlocks, Nat.sub_zero, CmdRockusbInterface.loadCall,
          CbWrap.readCall]
        simp only [Machine.notePreread_usbcmd, cmnd, lba]
        rcases media with raw | ⟨logical, window⟩
        · rw [if_pos raw, if_pos raw]
        · rw [logical, window]
      rw [call]
      exact fills

end Accept

theorem CacheReady.of_kept (kept : CacheKept P contents touches machine)
    (stage : machine.usbcmd.status ≠ .txdataPrepare) :
    CacheReady P contents touches machine :=
  .settled ⟨kept, fun status => absurd status stage⟩
    fun sends => absurd sends.1 stage

/-- A command that neither reads nor writes is passive. -/
theorem Dispatched.cacheReady
    (storage : ReadableStorage P contents armed touches)
    (unarmed : ¬armed machine.platform)
    (kept : CacheKept P contents touches machine)
    (dispatched : Dispatched P
      (fun call => call.isLoad = false ∧ call ≠ .fwSorageLowFormatEn 1)
      machine after)
    (cmd : machine.usbcmd.status = .cmd) (noRead : ¬machine.usbcmd.isRead)
    (noWrite : ¬(machine.usbcmd.cmnd = kFwWrite10 ∨
      machine.usbcmd.cmnd = kFwLbaWrite10)) :
    Extends P Event.passive machine after ∧
      CacheReady P contents touches after := by
  have grown : Extends P Event.passive machine after := by
    refine dispatched.extends.mono ?_
    intro event fill
    cases event with
    | call => exact fill
    | txStore => trivial
    | _ => exact fill.elim
  have answered : Answers P
      (fun call => call.isLoad = false ∧ call ≠ .fwSorageLowFormatEn 1)
      machine after → CacheKept P contents touches after := by
    intro answers
    obtain ⟨_, _, _, _, usbcmd⟩ := answers.usbcmd
    exact kept.grow storage unarmed grown (by rw [usbcmd])
  refine ⟨grown, ?_⟩
  cases dispatched with
  | unknown => exact .of_kept kept (by simp [cmd])
  | answered answers csw => exact .of_kept (answered answers) (by simp [csw])
  | data answers txdata => exact .of_kept (answered answers) (by simp [txdata])
  | read isRead => exact absurd isRead noRead
  | write isWrite => exact absurd isWrite noWrite

theorem handleIdle_cache (storage : ReadableStorage P contents armed touches)
    (unarmed : ¬armed machine.platform)
    (settled : CacheSettled P contents touches machine)
    (sound : CacheSound P touches machine .iterate) :
    Extends P (Event.cacheSafe contents) machine (handleIdle P machine) ∧
      ((handleIdle P machine).control = .running →
        CacheReady P contents touches (handleIdle P machine)) := by
  obtain ⟨noArm, goesOn, begins⟩ := sound
  rcases handleIdle_cases (P := P) machine with
    same | fault | ⟨buf, idle, received, inBuf, dispatch⟩
  · rw [same]
    refine ⟨.refl machine, fun _ => .settled settled ?_⟩
    intro sends
    obtain ⟨n, block, c, reading, hit⟩ := settled.sending sends.1
    refine hitCoherent_of_cached reading hit ?_
    intro media
    exact settled.kept.held.cached storage settled.kept.missed
      (goesOn sends media) hit.1 hit.2.1
  · rw [fault]
    exact ⟨.of_same rfl rfl rfl, fun running => by cases running⟩
  · have command := nextCommand_packet idle received inBuf
    have accepted : Extends P (Event.cacheSafe contents) machine
        (machine.accept buf) :=
      accept_extends machine buf (fun _ => trivial) (fun _ => trivial)
    rw [dispatch]
    generalize shape : CbWrap.ofBuffer (machine.rxBuffer buf) = cbw
      at command
    have cmnd : (machine.accept buf).usbcmd.cmnd = cbw.opcode :=
      congrArg CbWrap.opcode shape
    by_cases read : cbw.isRead
    · rw [fwDispatch_read read cmnd]
      exact ⟨accepted.trans (.of_same rfl rfl rfl),
        fun _ => readPrepared_ready storage unarmed settled.kept shape read
          (begins cbw command read)⟩
    · by_cases write : cbw.isWrite
      · have wrapper : (machine.accept buf).usbcmd.cbw = cbw := shape
        obtain ⟨mode, written, -⟩ := fwDispatch_write (P := P) write wrapper
          cmnd
        rw [written]
        exact ⟨accepted.trans (.of_same rfl rfl rfl),
          fun _ => .of_kept (settled.kept.write storage unarmed shape write
            mode) (by simp)⟩
      · have dispatched : Dispatched P
            (fun call => call.isLoad = false ∧
              call ≠ .fwSorageLowFormatEn 1)
            (machine.accept buf) (fwDispatch P (machine.accept buf)) := by
          refine fwDispatch_cases _ ?_ ?_ ?_
          · intro call query
            cases call with
            | fwSorageLowFormatEn => cases query
            | _ => exact ⟨by cases query <;> rfl, by simp⟩
          · simp [Call.isLoad]
          · intro arms
            exact absurd ⟨_, command, by rw [← shape]; exact arms⟩ noArm
        have still : ¬armed (machine.accept buf).platform := unarmed
        obtain ⟨grown, ready⟩ := dispatched.cacheReady storage still
          (settled.kept.accept storage unarmed shape write) rfl
          (by rw [CmdRockusbInterface.isRead, cmnd]; exact read)
          (by rw [cmnd]; exact write)
        exact ⟨accepted.trans (grown.mono fun _ passive => passive.cacheSafe),
          fun _ => ready⟩

theorem handleResponse_settled
    (storage : ReadableStorage P contents armed touches)
    (unarmed : ¬armed machine.platform)
    (settled : CacheSettled P contents touches machine)
    (coherent : machine.usbcmd.sendsNext → machine.hitCoherent contents) :
    Extends P (Event.cacheSafe contents) machine
        (rkusbHandleResponse P machine) ∧
      ((rkusbHandleResponse P machine).control = .running →
        CacheSettled P contents touches (rkusbHandleResponse P machine)) := by
  have waits : Extends P (Event.cacheSafe contents) machine machine ∧
      (machine.control = .running →
        CacheSettled P contents touches machine) :=
    ⟨.refl machine, fun _ => settled⟩
  have received : machine.usbcmd.status = .rxdata ∨
        machine.usbcmd.status = .rxdataPrepare →
      Extends P (Event.cacheSafe contents) machine
          (rkusbHandleDatarx P machine) ∧
        ((rkusbHandleDatarx P machine).control = .running →
          CacheSettled P contents touches
            (rkusbHandleDatarx P machine)) := by
    intro stage
    obtain ⟨log, kept⟩ := handleDatarx_cache storage unarmed settled.kept
      (by rcases stage with stage | stage <;> simp [stage])
    exact ⟨log, fun _ => kept⟩
  unfold rkusbHandleResponse
  split
  · have sent : Extends P Event.passive machine
        ((machine.rkusbWriteBulkEp machine.usbcmd.transferSize
          machine.usbcmd.txbufNum).flipTx.replyGood .csw) :=
      ⟨[_], rfl, rfl, .of_same rfl, by simp [Event.passive]⟩
    exact ⟨sent.mono fun _ passive => passive.cacheSafe,
      fun _ => ⟨settled.kept.grow storage unarmed sent rfl, by simp⟩⟩
  · rename_i status
    split
    · exact received (.inl status)
    · exact waits
  · rename_i status
    exact received (.inr status)
  · rename_i status
    split
    · rename_i served
      obtain ⟨n, block, c, reading, hit⟩ := settled.sending status
      obtain ⟨sent, kept⟩ := handleDatatx_hit storage settled.kept reading
        hit (coherent ⟨status, served⟩)
      exact ⟨sent, fun _ => kept⟩
    · exact waits
  · exact waits

theorem handleResponse_cache
    (storage : ReadableStorage P contents armed touches)
    (unarmed : ¬armed machine.platform)
    (ready : CacheReady P contents touches machine) :
    Extends P (Event.cacheSafe contents) machine
        (rkusbHandleResponse P machine) ∧
      ((rkusbHandleResponse P machine).control = .running →
        CacheSettled P contents touches (rkusbHandleResponse P machine)) := by
  cases ready with
  | settled settled coherent =>
      exact handleResponse_settled storage unarmed settled coherent
  | started kept status reading cached filled =>
      have first : machine.usbcmd.uBytes = 0 := by simpa using reading.uBytes
      have response : rkusbHandleResponse P machine =
          rkusbHandleDatatx P machine := by
        simp [rkusbHandleResponse, status, first]
      obtain ⟨sent, settled⟩ := handleDatatx_start storage kept reading cached
        filled
      rw [response]
      exact ⟨sent, fun _ => settled⟩
  | empty status size bytes =>
      have response : rkusbHandleResponse P machine =
          { machine with control := .hung } := by
        rw [← handleDatatx_empty (P := P) size bytes]
        simp [rkusbHandleResponse, status, bytes]
      rw [response]
      exact ⟨.of_same rfl rfl rfl, fun running => by cases running⟩

theorem handleCsw_cache (storage : ReadableStorage P contents armed touches)
    (unarmed : ¬armed machine.platform)
    (settled : CacheSettled P contents touches machine) :
    Extends P (Event.cacheSafe contents) machine (handleCsw machine) ∧
      CacheSettled P contents touches (handleCsw machine) := by
  unfold handleCsw
  split
  · rename_i csw
    have grown : Extends P Event.passive machine (rkusbSendCsw machine) :=
      (Posted.rkusbSendCsw machine).log.mono fun _ posting => posting.passive
    refine ⟨grown.mono fun _ passive => passive.cacheSafe,
      settled.kept.grow storage unarmed grown (rkusbSendCsw_preRead machine),
      ?_⟩
    intro sending
    rcases rkusbSendCsw_cases machine with sent | same
    · rw [sent.usbcmd] at sending
      cases sending
    · rw [same, csw] at sending
      cases sending
  · exact ⟨.refl machine, settled⟩

theorem endOfIteration_cache
    (storage : ReadableStorage P contents armed touches)
    (unarmed : ¬armed machine.platform)
    (settled : CacheSettled P contents touches machine) :
    Extends P (Event.cacheSafe contents) machine (endOfIteration P machine) ∧
      CacheSettled P contents touches (endOfIteration P machine) := by
  have checked := Checked.endOfIteration (P := P) machine
  obtain ⟨flag, usbcmd⟩ := checked.usbcmd
  have grown : Extends P Event.passive machine (endOfIteration P machine) := by
    refine checked.log.mono ?_
    rintro event ⟨call, reply, rfl, check⟩
    cases call with
    | iSetLoaderFlag => exact ⟨rfl, by simp⟩
    | secureBootLockLoader => exact ⟨rfl, by simp⟩
    | fwSorageLowFormat => exact ⟨rfl, by simp⟩
    | _ => cases check
  refine ⟨grown.mono fun _ passive => passive.cacheSafe,
    settled.kept.grow storage unarmed grown (by rw [usbcmd]), ?_⟩
  rw [usbcmd]
  intro sending
  obtain ⟨n, block, c, reading, hit⟩ := settled.sending sending
  exact ⟨n, block, c, reading.congr rfl rfl rfl, hit⟩

theorem Extends.unarmed (storage : ReadableStorage P contents armed touches)
    (grown : Extends P (Event.cacheSafe contents) machine after)
    (unarmed : ¬armed machine.platform) : ¬armed after.platform := by
  obtain ⟨events, -, platform, -, safe⟩ := grown
  rw [platform]
  clear platform
  generalize machine.platform = state at unarmed ⊢
  induction events generalizing state with
  | nil => exact unarmed
  | cons event events induction =>
      have rest := fun event member =>
        safe event (List.mem_cons_of_mem _ member)
      cases event with
      | call made reply =>
          have other : made ≠ .fwSorageLowFormatEn 1 :=
            safe _ List.mem_cons_self
          exact induction rest _ (storage.unarmed _ _ other unarmed)
      | _ => exact induction rest _ unarmed

theorem doRockusb_cache (storage : ReadableStorage P contents armed touches)
    (unarmed : ¬armed machine.platform)
    (settled : CacheSettled P contents touches machine)
    (sound : CacheSound P touches machine .iterate) :
    Extends P (Event.cacheSafe contents) machine (doRockusb P machine) ∧
      ((doRockusb P machine).control = .running →
        CacheSettled P contents touches (doRockusb P machine)) := by
  obtain ⟨idled, ready⟩ := handleIdle_cache storage unarmed settled sound
  rw [doRockusb, Machine.andThen]
  split
  · rename_i running
    obtain ⟨response, kept⟩ := handleResponse_cache storage
      (idled.unarmed storage unarmed) (ready running)
    have responded := idled.trans response
    rw [Machine.andThen]
    split
    · rename_i returned
      obtain ⟨csw, answered⟩ := handleCsw_cache storage
        (responded.unarmed storage unarmed) (kept returned)
      have whole := responded.trans csw
      obtain ⟨checks, ended⟩ := endOfIteration_cache storage
        (whole.unarmed storage unarmed) answered
      exact ⟨whole.trans checks, fun _ => ended⟩
    · rename_i left
      exact ⟨responded, fun running => absurd running left⟩
  · rename_i left
    exact ⟨idled, fun running => absurd running left⟩

theorem step_cache (storage : ReadableStorage P contents armed touches)
    (unarmed : ¬armed machine.platform)
    (settled : CacheSettled P contents touches machine) {action : Action}
    (sound : CacheSound P touches machine action)
    (taken : step P machine action = some after) :
    Extends P (Event.cacheSafe contents) machine after ∧
      (after.control = .running → CacheSettled P contents touches after) := by
  by_cases iterate : action = .iterate
  · subst iterate
    obtain rfl := step_iterate taken
    exact doRockusb_cache storage unarmed settled sound
  · have grown : Extends P Event.passive machine after := by
      refine (step_reports taken iterate).mono ?_
      intro event report
      cases event with
      | bulkOut => trivial
      | rxDone => trivial
      | txDone => trivial
      | _ => exact report.elim
    have called : CalledBack machine after := .of_step taken iterate
    obtain ⟨status, _, _, _, _, _, idled, usbcmd⟩ := called.usbcmd
    refine ⟨grown.mono fun _ passive => passive.cacheSafe, fun _ =>
      ⟨settled.kept.grow storage unarmed grown (by rw [usbcmd]), ?_⟩⟩
    rw [usbcmd]
    intro sending
    rcases idled with same | idle
    · obtain ⟨n, block, c, reading, hit⟩ :=
        settled.sending (same.symm.trans sending)
      exact ⟨n, block, c, reading.congr rfl rfl rfl, hit⟩
    · rw [idle] at sending
      cases sending

/-- In a run of sound steps every hit on the media sends what the storage
holds at that moment. -/
theorem preread_coherent (storage : ReadableStorage P contents armed touches)
    {zero : GivebackStatus} {rx tx : Fin 2 → Memory} {platform : σ}
    (unarmed : ¬armed platform) {actions : List Action}
    (run : Run (step P) (CacheSound P touches)
      (startMachine zero rx tx platform) actions machine) :
    ∀ event ∈ machine.log, event.coherent contents := by
  have held : (∀ event ∈ machine.log, event.coherent contents) ∧
      ¬armed machine.platform ∧
      (machine.control = .running →
        CacheSettled P contents touches machine) := by
    induction run with
    | nil =>
        refine ⟨by simp [startMachine], unarmed, fun _ => ⟨⟨?_, ?_⟩, ?_⟩⟩
        · exact .of_empty (by simp [startMachine, lastFill]) rfl
        · exact .of_empty rfl
        · simp [startMachine, CmdRockusbInterface.zeroed]
    | snoc _ sound taken induction =>
        obtain ⟨log, still, settled⟩ := induction
        obtain ⟨grown, kept⟩ := step_cache storage still
          (settled (step_running taken)) sound taken
        exact ⟨grown.forall_log (fun _ safe => safe.coherent) log,
          grown.unarmed storage still, kept⟩
  exact held.1

/-- A storage of `capacity` blocks that is its contents; a read beyond its end
fails. -/
def ramStorage (capacity : Nat) : Platform Media :=
  { reply := fun media call =>
      match call with
      | .storageReadPba lba blocks =>
          if lba + blocks ≤ capacity then
            ⟨0, blocks * 528, fun offset => media.raw (lba * 528 + offset)⟩
          else ⟨-1, 0, fun _ => 0⟩
      | .storageReadLba lba blocks =>
          if lba + blocks ≤ capacity then
            ⟨0, blocks * 512, fun offset => media.logical (lba * 512 + offset)⟩
          else ⟨-1, 0, fun _ => 0⟩
      | _ => ⟨0, 0, fun _ => 0⟩
    next := fun media call =>
      match call with
      | .storageWritePba lba data blocks =>
          { media with
            raw := media.raw.storeList (lba * 528) (data.take (blocks * 528)) }
      | .storageWriteLba lba data blocks _ =>
          { media with
            logical :=
              media.logical.storeList (lba * 512) (data.take (blocks * 512)) }
      | _ => media
    secureBootLock := fun _ => 0
    ftlOk := 0 }

/-- The blocks that `ramStorage` changes are those that a write names. -/
def ramTouches (call : Call) (cmnd lba : Nat) : Bool :=
  call.writeRange.any fun range =>
    range.1 = cmnd ∧ range.2.1 ≤ lba ∧ lba < range.2.1 + range.2.2

/-- A write of some blocks leaves the others alone. -/
theorem mediaBlocks_storeList (memory : Memory) {block lba first : Nat}
    (list : List UInt8) {blocks : Nat}
    (outside : ¬(first ≤ lba ∧ lba < first + blocks)) :
    mediaBlocks (memory.storeList (first * block) (list.take (blocks * block)))
        block lba 1 = mediaBlocks memory block lba 1 := by
  apply Memory.bytes_congr
  intro offset inside
  apply Memory.storeList_outside
  have length : (list.take (blocks * block)).length ≤ blocks * block :=
    List.length_take_le _ _
  by_cases lower : first ≤ lba
  · right
    have beyond : (first + blocks) * block ≤ lba * block :=
      Nat.mul_le_mul_right _ (by omega)
    rw [Nat.add_mul] at beyond
    omega
  · left
    have before : (lba + 1) * block ≤ first * block :=
      Nat.mul_le_mul_right _ (by omega)
    rw [Nat.add_mul] at before
    omega

theorem ramStorage_readable (capacity : Nat) :
    ReadableStorage (ramStorage capacity) id (fun _ => False) ramTouches := by
  refine ⟨?_, ?_, ?_, ?_, ?_, fun _ _ _ => id⟩
  · intro media lba blocks succeeded
    simp only [ramStorage] at succeeded ⊢
    split at succeeded
    · rw [if_pos ‹_›]
      exact ⟨Memory.length_bytes.symm, Memory.bytes_congr (by simp)⟩
    · cases succeeded
  · intro media lba blocks succeeded
    simp only [ramStorage] at succeeded ⊢
    split at succeeded
    · rw [if_pos ‹_›]
      exact ⟨Memory.length_bytes.symm, Memory.bytes_congr (by simp)⟩
    · cases succeeded
  · intro call space first blocks lba names touched
    rw [ramTouches, names, Option.any_some] at touched
    exact (of_decide_eq_true touched).2
  · intro call cmnd lba load
    cases call <;> first | rfl | cases load
  · intro media call cmnd lba untouched _
    cases call with
    | storageWritePba first data blocks =>
        simp only [ramTouches, Call.writeRange, Option.any_some,
          decide_eq_false_iff_not] at untouched
        by_cases raw : cmnd = kFwRead10
        · subst raw
          exact mediaBlocks_storeList _ _ fun inside => untouched ⟨rfl, inside⟩
        · simp [ramStorage, Media.blocks, raw]
    | storageWriteLba first data blocks mode =>
        simp only [ramTouches, Call.writeRange, Option.any_some,
          decide_eq_false_iff_not] at untouched
        by_cases logical : cmnd = kFwLbaRead10
        · subst logical
          exact mediaBlocks_storeList _ _ fun inside => untouched ⟨rfl, inside⟩
        · by_cases raw : cmnd = kFwRead10
          · simp [ramStorage, Media.blocks, raw]
          · simp [Media.blocks, mediaBlocks, txBlockLength, raw, logical,
              Memory.bytes]
    | _ => rfl

private def cacheStart : Machine Media :=
  startMachine .sendInProgress (fun _ _ => 0) (fun _ _ => 0)
    ⟨numberedMedia, numberedMedia⟩

private def Event.isHit : Event Media → Bool
  | .hit .. => true
  | _ => false

private def Event.isMediaWrite : Event Media → Bool
  | .call made _ => made.isWrite
  | _ => false

/-- A read of 129 blocks is cut off by CLEAR_FEATURE, block 400 is written, and
the block that was read ahead is read: the CSW of the write has turned the
buffers back. -/
theorem preread_coherent_block :
    ∃ machine : Machine Media,
      (machine.log.filter Event.isHit).length = 2 ∧
      (machine.log.filter Event.isMediaWrite).length = 1 ∧
      ∀ event ∈ machine.log, event.coherent id := by
  have passed : (execute (step (ramStorage 1024))
      (CacheSound (ramStorage 1024) ramTouches) cacheStart
      [.bus 2, .outDone 0 0 (cbwPacket 7 66048 0x14 0 0 129), .iterate,
        .bus 0x100004, .outDone 0 0 (cbwPacket 8 512 0x15 0 400 1), .iterate,
        .outDone 0 0 (List.replicate 512 1), .iterate,
        .outDone 0 0 (cbwPacket 9 512 0x14 0 128 1), .iterate]).any
          (fun machine => (machine.log.filter Event.isHit).length = 2 ∧
            (machine.log.filter Event.isMediaWrite).length = 1) = true := by
    decide +kernel
  obtain ⟨final, run, shape⟩ := Run.exists_of_execute passed
  obtain ⟨hits, writes⟩ := of_decide_eq_true shape
  exact ⟨final, hits, writes,
    preread_coherent (ramStorage_readable 1024) id run⟩

/-- One block was sent, and its first byte is not the one on the media. -/
private def Event.isStale : Event Media → Bool
  | .hit cmnd lba blocks payload media => cmnd = kFwLbaRead10 ∧
      lbaWindow lba = .media ∧ blocks = 1 ∧
      payload.head? ≠ some (media.logical (lba * 512))
  | _ => false

/-- A read of 129 blocks is cut off by CLEAR_FEATURE when its last block has
been read ahead; a read of that block then sends the first one. -/
theorem not_preread_coherent_clearFeature :
    ¬∀ actions machine, Run (step (ramStorage 1024)) (fun _ _ => True)
        cacheStart actions machine →
      ∀ event ∈ machine.log, event.coherent id := by
  intro coherent
  have passed : (execute (step (ramStorage 1024)) (fun _ _ => True) cacheStart
      [.bus 2, .outDone 0 0 (cbwPacket 7 66048 0x14 0 0 129), .iterate,
        .bus 0x100004, .outDone 0 0 (cbwPacket 8 512 0x14 0 128 1),
        .iterate]).any
          (fun machine => machine.log.any Event.isStale) = true := by
    decide +kernel
  obtain ⟨final, run, stale⟩ := Run.exists_of_execute passed
  obtain ⟨event, member, shape⟩ := List.any_eq_true.mp stale
  have sound := coherent _ final run event member
  cases event with
  | hit cmnd lba blocks payload media =>
      obtain ⟨rfl, window, rfl, wrong⟩ := of_decide_eq_true shape
      have first : (mediaBlocks media.logical 512 lba 1).head? =
          some (media.logical (lba * 512)) := by
        simp [mediaBlocks, Memory.bytes, List.head?_range]
      apply wrong
      rw [sound (.inr ⟨rfl, window⟩)]
      exact first
  | _ => cases shape

end KernelDrivers.Rockusb
