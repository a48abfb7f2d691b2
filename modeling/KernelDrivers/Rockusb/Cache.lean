import KernelDrivers.Rockusb.Lock
import KernelDrivers.Rockusb.MediaRead
import KernelDrivers.Rockusb.WriteCommand

/-!
# The pre-read cache

Blocks that were read ahead are sent when the hit test passes.  The test looks
at an address and a count, but the blocks lie in the buffer that was current
when they were read, and they are those of the media at that time.  What was
logged since the last fill says whether they still are what a hit should send.
-/

namespace KernelDrivers.Rockusb

open KernelDrivers.Library

variable {σ : Type} {P : Platform σ} {machine after : Machine σ}

/-- What the storage holds: the raw pages and the logical blocks. -/
structure Media where
  raw : Memory
  logical : Memory

/-- The blocks that a read with the command byte `cmnd` denotes. -/
def Media.blocks (media : Media) (cmnd lba count : Nat) : List UInt8 :=
  mediaBlocks (if cmnd = kFwRead10 then media.raw else media.logical)
    (txBlockLength cmnd) lba count

/-- An address of a read that denotes blocks of the media. -/
def denotesMedia (cmnd lba : Nat) : Prop :=
  cmnd = kFwRead10 ∨ cmnd = kFwLbaRead10 ∧ lbaWindow lba = .media

instance (cmnd lba : Nat) : Decidable (denotesMedia cmnd lba) :=
  inferInstanceAs (Decidable (_ ∨ _))

/-- A hit on the media sends what the storage holds at that moment. -/
def Event.coherent (contents : σ → Media) : Event σ → Prop
  | .hit cmnd lba blocks payload state =>
      denotesMedia cmnd lba → payload = (contents state).blocks cmnd lba blocks
  | _ => True

/-- The bytes that a call stores. -/
def Reply.stores (reply : Reply) (bytes : List UInt8) : Prop :=
  reply.size = bytes.length ∧ reply.data.bytes 0 reply.size = bytes

/-- The space that a call reads, by the command byte of its reads. -/
def Call.readSpace : Call → Option Nat
  | .storageReadPba .. => some kFwRead10
  | .storageReadLba .. => some kFwLbaRead10
  | _ => none

/-- The blocks that a write names: their space, the first and how many. -/
def Call.writeRange : Call → Option (Nat × Nat × Nat)
  | .storageWritePba lba _ blocks => some (kFwRead10, lba, blocks)
  | .storageWriteLba lba _ blocks _ => some (kFwLbaRead10, lba, blocks)
  | _ => none

/-- The storage behind the platform.  A read that succeeds returns what it
holds; a call changes no other blocks of a space than those it touches.  A load
touches none, and a write, in its own space, those it names.  What a call
touches elsewhere is left open. -/
structure ReadableStorage (P : Platform σ) (contents : σ → Media)
    (armed : σ → Prop) (touches : Call → Nat → Nat → Bool) : Prop where
  rawRead : ∀ state lba blocks,
    (P.reply state (.storageReadPba lba blocks)).ret = P.ftlOk →
    (P.reply state (.storageReadPba lba blocks)).stores
      (mediaBlocks (contents state).raw 528 lba blocks)
  logicalRead : ∀ state lba blocks,
    (P.reply state (.storageReadLba lba blocks)).ret = P.ftlOk →
    (P.reply state (.storageReadLba lba blocks)).stores
      (mediaBlocks (contents state).logical 512 lba blocks)
  writes : ∀ call space first blocks lba,
    call.writeRange = some (space, first, blocks) →
    touches call space lba = true → first ≤ lba ∧ lba < first + blocks
  loads : ∀ call cmnd lba, call.isLoad = true →
    touches call cmnd lba = false
  kept : ∀ state call cmnd lba, touches call cmnd lba = false →
    (call = .fwSorageLowFormat → ¬armed state) →
    (contents (P.next state call)).blocks cmnd lba 1 =
      (contents state).blocks cmnd lba 1
  unarmed : ∀ state call, call ≠ .fwSorageLowFormatEn 1 → ¬armed state →
    ¬armed (P.next state call)

/-- A call that filled the cache, and what was logged after it. -/
structure Fill (σ : Type) where
  call : Call
  reply : Reply
  since : List (Event σ)

/-- A load of the cache is a new fill; anything else happens to the old one. -/
def nextFill (fill : Option (Fill σ)) (event : Event σ) : Option (Fill σ) :=
  let later := fill.map fun fill =>
    { fill with since := fill.since ++ [event] }
  match event with
  | .call made reply => if made.isLoad then some ⟨made, reply, []⟩ else later
  | _ => later

/-- The last fill of the cache in a log. -/
def lastFill (log : List (Event σ)) : Option (Fill σ) :=
  log.foldl nextFill none

/-- The event leaves the cached blocks and the buffer they lie in alone. -/
def Event.spares (touches : Call → Nat → Nat → Bool) (cmnd : Nat)
    (preRead : Preread) : Event σ → Prop
  | .call made _ => ∀ index < preRead.preBlocks,
      touches made cmnd (preRead.preLba + index) = false
  | .txStore buf _ => preRead.preBuffer ≠ some buf
  | _ => True

instance (touches : Call → Nat → Nat → Bool) (cmnd : Nat)
    (preRead : Preread) :
    ∀ event : Event σ, Decidable (event.spares touches cmnd preRead)
  | .call .. => inferInstanceAs (Decidable (∀ index < _, _))
  | .txStore .. => inferInstanceAs (Decidable (_ ≠ _))
  | .bulkIn .. | .bulkOut .. | .rxDone .. | .txDone .. | .rxLoad ..
  | .command _ | .csw _ | .hit .. => .isTrue trivial

/-- The range `[lba, lba + blocks)` is within that of a write, which its
handler has tested against the cache without a wrap. -/
def CbWrap.tested (cbw : CbWrap) (preRead : Preread) (lba blocks : Nat) :
    Prop :=
  cbw.isWrite ∧ cbw.offset ≤ lba ∧
    lba + blocks ≤ cbw.offset + cbw.nsectors ∧
    cbw.offset + cbw.nsectors < 4294967296 ∧
    preRead.preLba + preRead.preBlocks < 4294967296

instance (cbw : CbWrap) (preRead : Preread) (lba blocks : Nat) :
    Decidable (cbw.tested preRead lba blocks) :=
  inferInstanceAs (Decidable (_ ∧ _))

/-- A write into the space of `cmnd`, in the range of one of the commands. -/
def Event.foreseen (cmnd : Nat) (preRead : Preread)
    (cbws : List CbWrap) : Event σ → Prop
  | .call made _ => ∃ range ∈ made.writeRange, range.1 = cmnd ∧
      ∃ cbw ∈ cbws, cbw.tested preRead range.2.1 range.2.2
  | _ => False

instance (cmnd : Nat) (preRead : Preread) (cbws : List CbWrap) :
    ∀ event : Event σ, Decidable (event.foreseen cmnd preRead cbws)
  | .call .. => inferInstanceAs (Decidable (∃ _, _ ∧ _))
  | .txStore .. | .bulkIn .. | .bulkOut .. | .rxDone .. | .txDone ..
  | .rxLoad .. | .command _ | .csw _ | .hit .. => .isFalse id

/-- The fill read blocks for `cmnd` and succeeded, and whatever followed its own
store spares the cache or is a write of a command that came since. -/
structure Fill.Sound (P : Platform σ) (touches : Call → Nat → Nat → Bool)
    (cmnd : Nat) (preRead : Preread) (fill : Fill σ) : Prop where
  reads : fill.call.readSpace = some cmnd
  succeeded : fill.reply.ret = P.ftlOk
  later : ∀ event ∈ fill.since.tail, event.spares touches cmnd preRead ∨
    event.foreseen cmnd preRead (commands fill.since)

instance (P : Platform σ) (touches : Call → Nat → Nat → Bool) (cmnd : Nat)
    (preRead : Preread) (fill : Fill σ) :
    Decidable (fill.Sound P touches cmnd preRead) :=
  decidable_of_iff (fill.call.readSpace = some cmnd ∧
      fill.reply.ret = P.ftlOk ∧
      ∀ event ∈ fill.since.tail, event.spares touches cmnd preRead ∨
        event.foreseen cmnd preRead (commands fill.since))
    ⟨fun ⟨reads, succeeded, later⟩ => ⟨reads, succeeded, later⟩,
      fun sound => ⟨sound.reads, sound.succeeded, sound.later⟩⟩

/-- The buffer that was filled is the one that would be sent. -/
def CmdRockusbInterface.prereadCurrent (usbcmd : CmdRockusbInterface) : Prop :=
  usbcmd.preRead.preBuffer = some usbcmd.txbufNum

/-- A hit by `cmnd` would find the buffer that was filled, and nothing has
happened to its blocks. -/
def Machine.hitSound (P : Platform σ) (touches : Call → Nat → Nat → Bool)
    (machine : Machine σ) (cmnd : Nat) : Prop :=
  machine.usbcmd.prereadCurrent ∧ ∃ fill ∈ lastFill machine.log,
    fill.Sound P touches cmnd machine.usbcmd.preRead

instance (usbcmd : CmdRockusbInterface) : Decidable usbcmd.prereadCurrent :=
  inferInstanceAs (Decidable (_ = _))

instance (P : Platform σ) (touches : Call → Nat → Nat → Bool)
    (machine : Machine σ) (cmnd : Nat) :
    Decidable (machine.hitSound P touches cmnd) :=
  inferInstanceAs (Decidable (_ ∧ _))

/-- The next iteration goes on with the data stage of a read. -/
def CmdRockusbInterface.sendsNext (usbcmd : CmdRockusbInterface) : Prop :=
  usbcmd.status = .txdataPrepare ∧
    (usbcmd.uBytes = 0 ∨ usbcmd.txGiveback.status = .sendFinishedOk)

instance (usbcmd : CmdRockusbInterface) : Decidable usbcmd.sendsNext :=
  inferInstanceAs (Decidable (_ ∧ _))

/-- A read begins with a hit that is sound, or its first fill succeeds. -/
def CbWrap.beginsSound (P : Platform σ) (touches : Call → Nat → Nat → Bool)
    (machine : Machine σ) (cbw : CbWrap) : Prop :=
  if cbw.hits machine.usbcmd.preRead then
    machine.hitSound P touches cbw.opcode
  else
    (P.reply machine.platform (cbw.readCall cbw.offset
      (min cbw.nsectors 128))).ret = P.ftlOk

instance (P : Platform σ) (touches : Call → Nat → Nat → Bool)
    (machine : Machine σ) (cbw : CbWrap) :
    Decidable (cbw.beginsSound P touches machine) :=
  inferInstanceAs (Decidable (ite _ _ _))

/-- Nothing arms a low format, and reads of the media find in the cache what
they or a successful fill before them left there. -/
def CacheSound (P : Platform σ) (touches : Call → Nat → Nat → Bool)
    (machine : Machine σ) : Action → Prop
  | .iterate => ¬machine.armsNext P ∧
      (machine.usbcmd.sendsNext →
        denotesMedia machine.usbcmd.cmnd machine.usbcmd.lba →
        machine.hitSound P touches machine.usbcmd.cmnd) ∧
      ∀ cbw ∈ machine.nextCommand, cbw.isRead → 0 < cbw.nsectors →
        denotesMedia cbw.opcode cbw.offset →
        cbw.beginsSound P touches machine
  | _ => True

instance (P : Platform σ) (touches : Call → Nat → Nat → Bool)
    (machine : Machine σ) :
    ∀ action, Decidable (CacheSound P touches machine action)
  | .iterate => inferInstanceAs (Decidable (_ ∧ _ ∧ _))
  | .inDone .. | .outDone .. | .outDrop _ | .bus _ => .isTrue trivial

/-- An event that does not fill the cache and does not arm a low format. -/
def Event.quiet : Event σ → Prop
  | .call made _ => made.isLoad = false ∧ made ≠ .fwSorageLowFormatEn 1
  | _ => True

theorem nextFill_quiet {event : Event σ} (quiet : event.quiet)
    (fill : Option (Fill σ)) :
    nextFill fill event = fill.map fun fill =>
      { fill with since := fill.since ++ [event] } := by
  cases event with
  | call made reply =>
      obtain ⟨noLoad, -⟩ := quiet
      simp [nextFill, noLoad]
  | _ => rfl

theorem foldl_nextFill {events : List (Event σ)}
    (quiet : ∀ event ∈ events, event.quiet) (fill : Option (Fill σ)) :
    events.foldl nextFill fill = fill.map fun fill =>
      { fill with since := fill.since ++ events } := by
  induction events generalizing fill with
  | nil => simp
  | cons event events induction =>
      have first : event.quiet := quiet _ List.mem_cons_self
      have rest := fun other member =>
        quiet other (List.mem_cons_of_mem event member)
      rw [List.foldl_cons, nextFill_quiet first, induction rest,
        Option.map_map]
      congr 1
      funext fill
      simp

theorem lastFill_append {events : List (Event σ)}
    (quiet : ∀ event ∈ events, event.quiet) (log : List (Event σ)) :
    lastFill (log ++ events) = (lastFill log).map fun fill =>
      { fill with since := fill.since ++ events } := by
  rw [lastFill, List.foldl_append, foldl_nextFill quiet]
  rfl

theorem lastFill_load {made : Call} (load : made.isLoad = true) (reply : Reply)
    {events : List (Event σ)} (quiet : ∀ event ∈ events, event.quiet)
    (log : List (Event σ)) :
    lastFill (log ++ .call made reply :: events) =
      some ⟨made, reply, events⟩ := by
  have loaded : lastFill (log ++ [.call made reply]) =
      some ⟨made, reply, []⟩ := by
    simp [lastFill, nextFill, load]
  rw [List.append_cons, lastFill_append quiet, loaded]
  rfl

theorem Media.blocks_congr {media other : Media} {cmnd lba count : Nat}
    (same : ∀ index < count, media.blocks cmnd (lba + index) 1 =
      other.blocks cmnd (lba + index) 1) :
    media.blocks cmnd lba count = other.blocks cmnd lba count := by
  induction count with
  | zero => simp [blocks, mediaBlocks, Memory.bytes]
  | succ count induction =>
      have before := induction fun index inside => same index (by omega)
      have last := same count (by omega)
      unfold blocks at before last ⊢
      rw [mediaBlocks_append, mediaBlocks_append, before, last]

section Storage

variable {contents : σ → Media} {armed : σ → Prop}
variable {touches : Call → Nat → Nat → Bool}
variable (storage : ReadableStorage P contents armed touches)

include storage in
/-- Events that spare the cached blocks leave them as they were. -/
theorem replay_blocks {events : List (Event σ)} {cmnd : Nat}
    {preRead : Preread} (quiet : ∀ event ∈ events, event.quiet)
    (spared : ∀ event ∈ events, event.spares touches cmnd preRead) {state : σ}
    (still : ¬armed state) :
    (contents (replay P state events)).blocks cmnd preRead.preLba
        preRead.preBlocks =
      (contents state).blocks cmnd preRead.preLba preRead.preBlocks := by
  induction events generalizing state with
  | nil => rfl
  | cons event events induction =>
      have first : event.quiet := quiet _ List.mem_cons_self
      have here : event.spares touches cmnd preRead :=
        spared _ List.mem_cons_self
      have rest := @induction
        (fun other member => quiet other (List.mem_cons_of_mem _ member))
        (fun other member => spared other (List.mem_cons_of_mem _ member))
      cases event with
      | call made reply =>
          refine (rest (storage.unarmed _ _ first.2 still)).trans ?_
          apply Media.blocks_congr
          intro index inside
          exact storage.kept state made cmnd _ (here index inside)
            fun _ => still
      | _ => exact rest still

include storage in
/-- A write that a command foresees does not touch what the command misses. -/
theorem Event.foreseen.spares {event : Event σ} {cmnd : Nat}
    {preRead : Preread} {cbws : List CbWrap}
    (foreseen : event.foreseen cmnd preRead cbws)
    (missed : ∀ cbw ∈ cbws, cbw.isWrite →
      preRead.misses cbw.offset cbw.nsectors) :
    event.spares touches cmnd preRead := by
  cases event with
  | call made reply =>
      obtain ⟨⟨space, lba, blocks⟩, names, rfl, cbw, member, tested⟩ := foreseen
      obtain ⟨write, lower, upper, range, cached⟩ := tested
      have misses := missed cbw member write
      rw [Preread.misses, wrap32_of_lt range, wrap32_of_lt cached] at misses
      intro index inside
      apply Bool.eq_false_iff.mpr
      intro touched
      have within := storage.writes made _ _ _ _ names touched
      dsimp only at lower upper within
      omega
  | _ => exact foreseen.elim

end Storage

/-- The fill read blocks for `cmnd`, and nothing has touched them since. -/
structure Fill.Intact (P : Platform σ) (touches : Call → Nat → Nat → Bool)
    (cmnd : Nat) (preRead : Preread) (fill : Fill σ) : Prop where
  reads : fill.call.readSpace = some cmnd
  succeeded : fill.reply.ret = P.ftlOk
  later : ∀ event ∈ fill.since.tail, event.spares touches cmnd preRead

/-- The buffer that was filled holds the cached blocks as long as the fill is
intact. -/
structure CacheHeld (P : Platform σ) (contents : σ → Media)
    (touches : Call → Nat → Nat → Bool) (machine : Machine σ) : Prop where
  begun : ∀ fill ∈ lastFill machine.log, ∀ cmnd,
    fill.call.readSpace = some cmnd → fill.since ≠ []
  holds : ∀ fill ∈ lastFill machine.log, ∀ cmnd,
    fill.Intact P touches cmnd machine.usbcmd.preRead →
    ∀ buf, machine.usbcmd.preRead.preBuffer = some buf →
      (machine.txBuffer buf).bytes 0
          (machine.usbcmd.preRead.preBlocks * txBlockLength cmnd) =
        (contents machine.platform).blocks cmnd machine.usbcmd.preRead.preLba
          machine.usbcmd.preRead.preBlocks

/-- The write commands since the last fill miss the cached blocks: the handlers
drop a cache that they do not miss. -/
def Machine.cacheMissed (machine : Machine σ) : Prop :=
  machine.usbcmd.preRead.preBlocks ≠ 0 →
    ∀ fill ∈ lastFill machine.log, ∀ cbw ∈ commands fill.since, cbw.isWrite →
      machine.usbcmd.preRead.misses cbw.offset cbw.nsectors

section Held

variable {contents : σ → Media} {armed : σ → Prop}
variable {touches : Call → Nat → Nat → Bool}

theorem CacheHeld.of_empty
    (begun : ∀ fill ∈ lastFill machine.log, ∀ cmnd,
      fill.call.readSpace = some cmnd → fill.since ≠ [])
    (empty : machine.usbcmd.preRead.preBlocks = 0) :
    CacheHeld P contents touches machine := by
  refine ⟨begun, ?_⟩
  intro _ _ cmnd _ buf _
  rw [empty]
  simp [Media.blocks, mediaBlocks, Memory.bytes]

theorem Machine.cacheMissed.of_empty
    (empty : machine.usbcmd.preRead.preBlocks = 0) : machine.cacheMissed :=
  fun some => absurd empty some

theorem CacheHeld.begun_append (held : CacheHeld P contents touches machine)
    {events : List (Event σ)} (quiet : ∀ event ∈ events, event.quiet)
    (log : after.log = machine.log ++ events) :
    ∀ fill ∈ lastFill after.log, ∀ cmnd,
      fill.call.readSpace = some cmnd → fill.since ≠ [] := by
  rw [log, lastFill_append quiet]
  intro fill member cmnd reads
  obtain ⟨before, earlier, rfl⟩ := Option.map_eq_some_iff.mp member
  have some := held.begun before earlier cmnd reads
  simp [some]

/-- Quiet events keep the cache: those that touch it make it unsound. -/
theorem CacheHeld.grow (storage : ReadableStorage P contents armed touches)
    (unarmed : ¬armed machine.platform)
    (held : CacheHeld P contents touches machine)
    (grown : Extends P Event.quiet machine after)
    (preRead : after.usbcmd.preRead = machine.usbcmd.preRead) :
    CacheHeld P contents touches after := by
  obtain ⟨events, log, platform, kept, quiet⟩ := grown
  refine ⟨held.begun_append quiet log, ?_⟩
  rw [log, lastFill_append quiet, preRead]
  intro fill member cmnd intact buf filled
  obtain ⟨before, earlier, rfl⟩ := Option.map_eq_some_iff.mp member
  have begun := held.begun before earlier cmnd intact.reads
  have later : ∀ event ∈ before.since.tail ++ events,
      event.spares touches cmnd machine.usbcmd.preRead := by
    rw [← List.tail_append_of_ne_nil begun]
    exact intact.later
  obtain ⟨then', now⟩ := List.forall_mem_append.mp later
  have cached := held.holds before earlier cmnd
    ⟨intact.reads, intact.succeeded, then'⟩ buf filled
  have stored : after.txBuffer buf = machine.txBuffer buf := by
    refine kept buf fun owned inEvents => ?_
    exact now _ inEvents filled
  rw [stored, platform, replay_blocks storage quiet now unarmed]
  exact cached

theorem Machine.cacheMissed.grow (missed : machine.cacheMissed)
    {events : List (Event σ)} (quiet : ∀ event ∈ events, event.quiet)
    (log : after.log = machine.log ++ events)
    (preRead : after.usbcmd.preRead = machine.usbcmd.preRead)
    (writes : ∀ cbw ∈ commands events, cbw.isWrite →
      machine.usbcmd.preRead.misses cbw.offset cbw.nsectors) :
    after.cacheMissed := by
  unfold cacheMissed
  rw [log, lastFill_append quiet, preRead]
  intro some fill member cbw among write
  obtain ⟨before, earlier, rfl⟩ := Option.map_eq_some_iff.mp member
  rw [commands_append] at among
  rcases List.mem_append.mp among with old | new
  · exact missed some before earlier cbw old write
  · exact writes cbw new write

theorem Fill.Sound.intact (storage : ReadableStorage P contents armed touches)
    (missed : machine.cacheMissed)
    (some : machine.usbcmd.preRead.preBlocks ≠ 0) {fill : Fill σ}
    (last : fill ∈ lastFill machine.log) {cmnd : Nat}
    (sound : fill.Sound P touches cmnd machine.usbcmd.preRead) :
    fill.Intact P touches cmnd machine.usbcmd.preRead := by
  refine ⟨sound.reads, sound.succeeded, ?_⟩
  intro event member
  rcases sound.later event member with spares | foreseen
  · exact spares
  · exact foreseen.spares storage (missed some fill last)

theorem CacheHeld.cached (storage : ReadableStorage P contents armed touches)
    (held : CacheHeld P contents touches machine)
    (missed : machine.cacheMissed) {cmnd : Nat}
    (sound : machine.hitSound P touches cmnd) {count : Nat} (some : count ≠ 0)
    (enough : count ≤ machine.usbcmd.preRead.preBlocks) :
    (machine.txBuffer machine.usbcmd.txbufNum).bytes 0
        (count * txBlockLength cmnd) =
      (contents machine.platform).blocks cmnd machine.usbcmd.preRead.preLba
        count := by
  obtain ⟨current, fill, last, sound⟩ := sound
  have intact := sound.intact storage missed (by omega) last
  have whole := held.holds fill last _ intact _ current
  obtain ⟨rest, total⟩ := Nat.exists_eq_add_of_le enough
  rw [total, Media.blocks, mediaBlocks_append, Nat.add_mul,
    Memory.bytes_append] at whole
  exact (List.append_inj whole (by simp [mediaBlocks])).1

end Held

end KernelDrivers.Rockusb
