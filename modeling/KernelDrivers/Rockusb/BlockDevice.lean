import KernelDrivers.Library.Transactions
import KernelDrivers.Rockusb.Coherence
import KernelDrivers.Rockusb.Session
import KernelDrivers.Rockusb.WriteOnce

/-!
# A storage of blocks

The storage behind the platform as two arrays of blocks, with what the calls
of a read and of a write command make of them.
-/

namespace KernelDrivers.Rockusb

open KernelDrivers.Library

variable {σ : Type} {P : Platform σ} {machine after first : Machine σ}
variable {cbw : CbWrap}

/-- The raw pages and the logical blocks. -/
inductive Area where
  | raw
  | logical
  deriving DecidableEq, Repr

def Area.block : Area → Nat
  | .raw => 528
  | .logical => 512

/-- The call that reads blocks of an area. -/
def Area.readCall : Area → Nat → Nat → Call
  | .raw, lba, blocks => .storageReadPba lba blocks
  | .logical, lba, blocks => .storageReadLba lba blocks

namespace CbWrap

/-- The area that a read or a write command accesses. -/
def area (cbw : CbWrap) : Area :=
  if cbw.opcode = kFwRead10 ∨ cbw.opcode = kFwWrite10 then .raw else .logical

/-- The first byte of the range of a command. -/
def start (cbw : CbWrap) : Nat :=
  cbw.offset * cbw.area.block

/-- The bytes in the range of a command. -/
def size (cbw : CbWrap) : Nat :=
  cbw.nsectors * cbw.area.block

/-- A read or write of at least one block that stays within the capacity.  A
read of more than 128 blocks is rounded up to a multiple of 128. -/
def fits (capacity : Area → Nat) (cbw : CbWrap) : Prop :=
  0 < cbw.nsectors ∧
    (cbw.isRead ∧ (∀ c < cbw.nsectors, 128 ∣ c →
        cbw.offset + c + cbw.fillBlocks c ≤ capacity cbw.area) ∨
      cbw.isWrite ∧ cbw.offset + cbw.nsectors ≤ capacity cbw.area)

instance (capacity : Area → Nat) (cbw : CbWrap) :
    Decidable (cbw.fits capacity) :=
  inferInstanceAs (Decidable (_ ∧ _))

theorem isRead.area_cases (read : cbw.isRead) :
    cbw.opcode = kFwRead10 ∧ cbw.area = .raw ∨
      cbw.opcode = kFwLbaRead10 ∧ cbw.area = .logical := by
  rcases read with raw | logical
  · exact .inl ⟨raw, if_pos (.inl raw)⟩
  · refine .inr ⟨logical, if_neg ?_⟩
    rw [logical]
    decide

theorem isWrite.area_cases (write : cbw.isWrite) :
    cbw.opcode = kFwWrite10 ∧ cbw.area = .raw ∨
      cbw.opcode = kFwLbaWrite10 ∧ cbw.area = .logical := by
  rcases write with raw | logical
  · exact .inl ⟨raw, if_pos (.inr raw)⟩
  · refine .inr ⟨logical, if_neg ?_⟩
    rw [logical]
    decide

theorem isRead.readBlock_eq (read : cbw.isRead) :
    cbw.readBlock = cbw.area.block := by
  rcases read.area_cases with ⟨opcode, area⟩ | ⟨opcode, area⟩
  all_goals
    rw [readBlock, opcode, area]
    rfl

theorem isWrite.writeBlock_eq (write : cbw.isWrite) :
    cbw.writeBlock = cbw.area.block := by
  rcases write.area_cases with ⟨opcode, area⟩ | ⟨opcode, area⟩
  all_goals
    rw [writeBlock, opcode, area]
    rfl

theorem isRead.readCall_eq (read : cbw.isRead) (lba blocks : Nat) :
    cbw.readCall lba blocks = cbw.area.readCall lba blocks := by
  rcases read.area_cases with ⟨opcode, area⟩ | ⟨opcode, area⟩
  all_goals
    rw [readCall, opcode, area]
    rfl

end CbWrap

/-- What a call does to the arrays. -/
def Call.applyTo (arrays : Area → Memory) : Call → Area → Memory
  | .storageWritePba lba data _ => overwrite arrays .raw (lba * 528) data
  | .storageWriteLba lba data _ _ =>
      overwrite arrays .logical (lba * 512) data
  | _ => arrays

/-- A write of whole blocks within the capacity. -/
def Call.inside (capacity : Area → Nat) : Call → Prop
  | .storageWritePba lba data blocks =>
      lba + blocks ≤ capacity .raw ∧ data.length = blocks * 528
  | .storageWriteLba lba data blocks _ =>
      lba + blocks ≤ capacity .logical ∧ data.length = blocks * 512
  | _ => False

/-- The storage behind the platform, in the states in which a session may find
it.  Reads within the capacity return the contents of the areas, writes change
them, and the other calls of a session do not. -/
structure BlockDevice (P : Platform σ) (Ready : σ → Prop)
    (contents : σ → Area → Memory) (capacity : Area → Nat) : Prop where
  rawLimit : capacity .raw ≤ 0x100000000
  logicalLimit : capacity .logical ≤ 0xFFF00000
  lockOpen : LockOpen P
  unlocked : ∀ state, Ready state → P.secureBootLock state = 0
  kept : ∀ state call,
    call.isLoad = true ∨ call.servesWrite = true ∧ call.isWrite = false →
    Ready state →
    Ready (P.next state call) ∧ contents (P.next state call) = contents state
  reads : ∀ (area : Area) state lba blocks, Ready state →
    lba + blocks ≤ capacity area →
    (P.reply state (area.readCall lba blocks)).ret = P.ftlOk ∧
      (P.reply state (area.readCall lba blocks)).stores
        (mediaBlocks (contents state area) area.block lba blocks)
  writes : ∀ state (call : Call), Ready state → call.inside capacity →
    Ready (P.next state call) ∧
      contents (P.next state call) = call.applyTo (contents state)

variable {Ready : σ → Prop} {contents : σ → Area → Memory}
variable {capacity : Area → Nat} {image initial : Area → Memory}

/-- The device while a read is served. -/
def Holds (Ready : σ → Prop) (contents : σ → Area → Memory)
    (image : Area → Memory) (state : σ) : Prop :=
  Ready state ∧ contents state = image

theorem BlockDevice.holds (device : BlockDevice P Ready contents capacity)
    {state : σ} (holds : Holds Ready contents image state) {call : Call}
    (quiet : call.isLoad = true ∨
      call.servesWrite = true ∧ call.isWrite = false) :
    Holds Ready contents image (P.next state call) := by
  obtain ⟨ready, same⟩ := holds
  obtain ⟨still, kept⟩ := device.kept state call quiet ready
  exact ⟨still, kept.trans same⟩

theorem BlockDevice.readsUpTo (device : BlockDevice P Ready contents capacity)
    (read : cbw.isRead) :
    ReadsUpTo P (Holds Ready contents image) cbw (image cbw.area)
      (capacity cbw.area) := by
  have stored : ∀ state lba blocks, Holds Ready contents image state →
      lba + blocks ≤ capacity cbw.area →
      (P.reply state (cbw.readCall lba blocks)).ret = P.ftlOk ∧
        (P.reply state (cbw.readCall lba blocks)).stores
          (mediaBlocks (image cbw.area) cbw.readBlock lba blocks) := by
    rintro state lba blocks ⟨ready, rfl⟩ inside
    rw [read.readCall_eq, read.readBlock_eq]
    exact device.reads cbw.area state lba blocks ready inside
  have size : ∀ state lba blocks, Holds Ready contents image state →
      lba + blocks ≤ capacity cbw.area →
      (P.reply state (cbw.readCall lba blocks)).size =
        blocks * cbw.readBlock := by
    intro state lba blocks holds inside
    rw [(stored state lba blocks holds inside).2.1]
    exact Memory.length_bytes
  refine ⟨?_, ?_, ?_, size, ?_⟩
  · intro state call load holds
    exact device.holds holds (.inl load)
  · intro state holds
    exact device.holds holds (.inr ⟨rfl, rfl⟩)
  · intro state lba blocks holds inside
    exact (stored state lba blocks holds inside).1
  · intro state lba blocks holds inside offset within
    have bytes := (stored state lba blocks holds inside).2.2
    rw [size state lba blocks holds inside, mediaBlocks] at bytes
    have same := Memory.eq_of_bytes bytes within
    rwa [Nat.zero_add] at same

theorem BlockDevice.capacity_le (device : BlockDevice P Ready contents capacity)
    (read : cbw.isRead) : capacity cbw.area ≤ cbw.readLimit := by
  rcases read.area_cases with ⟨opcode, area⟩ | ⟨opcode, area⟩
  · rw [area, CbWrap.readLimit, if_pos opcode]
    exact device.rawLimit
  · rw [area, CbWrap.readLimit, opcode, if_neg (by decide)]
    exact device.logicalLimit

theorem CbWrap.within_of_fits {limit : Nat} (some : 0 < cbw.nsectors)
    (fits : ∀ c < cbw.nsectors, 128 ∣ c →
      cbw.offset + c + cbw.fillBlocks c ≤ limit) :
    cbw.offset + cbw.nsectors ≤ limit := by
  have last := fits (128 * ((cbw.nsectors - 1) / 128)) (by omega)
    (Nat.dvd_mul_right _ _)
  have enough := cbw.le_fillBlocks (128 * ((cbw.nsectors - 1) / 128))
  omega

theorem BlockDevice.fillsGood (device : BlockDevice P Ready contents capacity)
    (read : cbw.isRead) (some : 0 < cbw.nsectors)
    (fits : ∀ c < cbw.nsectors, 128 ∣ c →
      cbw.offset + c + cbw.fillBlocks c ≤ capacity cbw.area) :
    FillsGood P (Holds Ready contents image)
      (HoldsBlocks (image cbw.area) cbw) cbw :=
  fillsGood_media read
    (Nat.le_trans (CbWrap.within_of_fits some fits) (device.capacity_le read))
    fits (device.readsUpTo read)

theorem overwrite_append {array : Area} {start : Nat}
    (first second : List UInt8) :
    overwrite image array start (first ++ second) =
      overwrite (overwrite image array start first) array
        (start + first.length) second := by
  unfold overwrite
  rw [Function.update_self, Function.update_idem, Memory.storeList_append]

theorem CbWrap.isWrite.applyTo_writeCall (write : cbw.isWrite) (lba : Nat)
    (data : List UInt8) (blocks : Nat) :
    (cbw.writeCall lba data blocks).applyTo image =
      overwrite image cbw.area (lba * cbw.area.block) data := by
  rcases write.area_cases with ⟨opcode, area⟩ | ⟨opcode, area⟩
  all_goals
    rw [writeCall, opcode, area]
    rfl

theorem CbWrap.isWrite.inside_writeCall (write : cbw.isWrite) {lba blocks : Nat}
    {data : List UInt8} (range : lba + blocks ≤ capacity cbw.area)
    (whole : data.length = blocks * cbw.area.block) :
    (cbw.writeCall lba data blocks).inside capacity := by
  rcases write.area_cases with ⟨opcode, area⟩ | ⟨opcode, area⟩
  all_goals
    rw [area] at range whole
    rw [writeCall, opcode]
    exact ⟨range, whole⟩

theorem CbWrap.isChunk.writesOf_eq {packet : List UInt8}
    (chunk : cbw.isChunk packet) (write : cbw.isWrite) (c : Nat) :
    packet.length = cbw.blocksOf packet * cbw.area.block ∧
      cbw.writesOf c packet =
        [cbw.writeCall (cbw.offset + c) packet (cbw.blocksOf packet)] := by
  obtain ⟨blocks, some, -, length⟩ := chunk
  have count : cbw.blocksOf packet = blocks := by
    rw [blocksOf, length, Nat.mul_div_cancel _ write.block_pos]
  rw [count, ← write.writeBlock_eq]
  refine ⟨length, ?_⟩
  rw [writesOf, count, if_neg (by omega), ← length, List.take_length]

/-- Chunks that are written behind each other overwrite one range. -/
theorem CbWrap.isWrite.foldl_writes (write : cbw.isWrite) (c : Nat)
    {packets : List (List UInt8)}
    (whole : ∀ packet ∈ packets, cbw.isChunk packet) :
    (cbw.writes c packets).foldl Call.applyTo image =
      overwrite image cbw.area ((cbw.offset + c) * cbw.area.block)
        packets.flatten := by
  induction packets generalizing c image with
  | nil =>
      rw [List.flatten_nil, overwrite, Memory.storeList_nil,
        Function.update_eq_self]
      rfl
  | cons packet rest induction =>
      obtain ⟨length, calls⟩ :=
        (whole packet List.mem_cons_self).writesOf_eq write c
      have later := fun packet member =>
        whole packet (List.mem_cons_of_mem _ member)
      rw [writes, calls, List.singleton_append, List.foldl_cons,
        write.applyTo_writeCall, induction _ later, List.flatten_cons,
        overwrite_append, length, ← Nat.add_mul, Nat.add_assoc]

theorem CbWrap.isWrite.inside_writes (write : cbw.isWrite) (c : Nat)
    {packets : List (List UInt8)}
    (whole : ∀ packet ∈ packets, cbw.isChunk packet)
    (range : cbw.offset + c + cbw.blocksIn packets ≤ capacity cbw.area) :
    ∀ call ∈ cbw.writes c packets, call.inside capacity := by
  induction packets generalizing c with
  | nil =>
      intro call member
      cases member
  | cons packet rest induction =>
      obtain ⟨length, calls⟩ :=
        (whole packet List.mem_cons_self).writesOf_eq write c
      have sum : cbw.blocksIn (packet :: rest) =
          cbw.blocksOf packet + cbw.blocksIn rest := by
        simp [blocksIn]
      rw [writes, calls]
      intro call member
      cases List.mem_cons.mp member with
      | inl head =>
          rw [head]
          exact write.inside_writeCall (by omega) length
      | inr tail =>
          refine induction (c + cbw.blocksOf packet) ?_ (by omega) call tail
          exact fun packet member =>
            whole packet (List.mem_cons_of_mem _ member)

/-- The contents after the calls of a session: the writes have been applied in
order. -/
theorem BlockDevice.replay (device : BlockDevice P Ready contents capacity)
    {events : List (Event σ)} (serves : ∀ event ∈ events, event.serves)
    (inside : ∀ call ∈ written events, call.inside capacity) {state : σ}
    (ready : Ready state) :
    Ready (replay P state events) ∧
      contents (replay P state events) =
        (written events).foldl Call.applyTo (contents state) := by
  induction events generalizing state with
  | nil => exact ⟨ready, rfl⟩
  | cons event events induction =>
      have later := fun event member =>
        serves event (List.mem_cons_of_mem _ member)
      cases event with
      | call made reply =>
          have permitted : made.isLoad = true ∨ made.servesWrite = true :=
            serves _ List.mem_cons_self
          by_cases write : made.isWrite = true
          · have head : written (.call made reply :: events) =
                made :: written events := by
              simp [written, deeds, write, Deed.call?]
            rw [head] at inside ⊢
            obtain ⟨still, changed⟩ := device.writes state made ready
              (inside made List.mem_cons_self)
            obtain ⟨ends, same⟩ := induction later
              (fun call member => inside call (List.mem_cons_of_mem _ member))
              still
            refine ⟨ends, same.trans ?_⟩
            rw [changed, List.foldl_cons]
          · have head : written (.call made reply :: events) =
                written events := by
              simp [written, deeds, write]
            rw [head] at inside ⊢
            have quiet : made.isLoad = true ∨
                made.servesWrite = true ∧ made.isWrite = false :=
              permitted.imp_right fun serves => ⟨serves, by simpa using write⟩
            obtain ⟨still, kept⟩ := device.kept state made quiet ready
            obtain ⟨ends, same⟩ := induction later inside still
            refine ⟨ends, same.trans ?_⟩
            rw [kept]
      | _ => exact induction later inside ready

end KernelDrivers.Rockusb
