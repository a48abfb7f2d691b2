import KernelDrivers.Rockusb.Dispatch

/-!
# The data stage of a read

What one call of `rkusb_handle_datatx` does in a read of `n` blocks of which
`c` have been sent.  The statements hold for every address and every platform;
what the platform stores into the buffers is left to the modules that need it.
-/

namespace KernelDrivers.Rockusb

open KernelDrivers.Library

variable {σ : Type} {P : Platform σ} {machine : Machine σ}

/-- A read of `n` blocks of `block` bytes, `c` of them sent, `c < n`. -/
structure Reading (n block c : Nat) (usbcmd : CmdRockusbInterface) :
    Prop where
  length : txBlockLength usbcmd.cmnd = block
  known : block = 512 ∨ block = 528
  count : n < 65536
  uSize : usbcmd.uSize = n * block
  uBytes : usbcmd.uBytes = c * block
  left : c < n

namespace Reading

variable {n block c : Nat} {usbcmd : CmdRockusbInterface}

theorem congr {other : CmdRockusbInterface}
    (reading : Reading n block c usbcmd) (cmnd : other.cmnd = usbcmd.cmnd)
    (uSize : other.uSize = usbcmd.uSize)
    (uBytes : other.uBytes = usbcmd.uBytes) : Reading n block c other := by
  refine ⟨?_, reading.known, reading.count, ?_, ?_, reading.left⟩
  · rw [cmnd, reading.length]
  · rw [uSize, reading.uSize]
  · rw [uBytes, reading.uBytes]

theorem txRemaining (reading : Reading n block c usbcmd) :
    usbcmd.txRemaining = (n - c) * block := by
  have count := reading.count
  have left := reading.left
  rw [CmdRockusbInterface.txRemaining, reading.uSize, reading.uBytes]
  rcases reading.known with rfl | rfl
  · rw [sub32_of_le (by omega) (by omega)]
    omega
  · rw [sub32_of_le (by omega) (by omega)]
    omega

theorem txBlocks (reading : Reading n block c usbcmd) :
    usbcmd.txBlocks = min (n - c) 128 := by
  rw [CmdRockusbInterface.txBlocks, reading.txRemaining, reading.length]
  rcases reading.known with rfl | rfl <;> simp

theorem txdataSize (reading : Reading n block c usbcmd) :
    usbcmd.txdataSize = min (n - c) 128 * block := by
  rw [CmdRockusbInterface.txdataSize, reading.txRemaining, reading.length]
  rcases reading.known with rfl | rfl
  · simp only [rkusbBufferBlockMax,
      Nat.mul_div_cancel _ (show 0 < 512 by decide)]
    split <;> omega
  · simp only [rkusbBufferBlockMax,
      Nat.mul_div_cancel _ (show 0 < 528 by decide)]
    split <;> omega

theorem txBlocks_pos (reading : Reading n block c usbcmd) :
    usbcmd.txBlocks ≠ 0 := by
  have left := reading.left
  rw [reading.txBlocks]
  omega

end Reading

/-- The call that a read makes for its next blocks. -/
def CmdRockusbInterface.loadCall (usbcmd : CmdRockusbInterface)
    (blocks : Nat) : Call :=
  if usbcmd.cmnd = kFwRead10 then
    .storageReadPba usbcmd.preRead.preLba blocks
  else
    match lbaWindow usbcmd.lba with
    | .sysData =>
        .storageVendorSysDataLoad (usbcmd.preRead.preLba - 0xFFFFFF00) blocks
    | .unlock => .secureBootUnlockCheck
    | .vendor =>
        .vendorStorageRead (usbcmd.lba &&& 0xFFFF) (sub32 usbcmd.uSize 8)
    | .media => .storageReadLba usbcmd.preRead.preLba blocks

theorem CmdRockusbInterface.loadCall_isLoad (usbcmd : CmdRockusbInterface)
    (blocks : Nat) : (usbcmd.loadCall blocks).isLoad = true := by
  unfold loadCall
  split
  · rfl
  · split <;> rfl

/-- One call filled the transmit buffer `buf`; nothing else has changed. -/
structure Filled (P : Platform σ) (buf : Fin 2) (call : Call)
    (before after : Machine σ) : Prop where
  usbcmd : after.usbcmd = before.usbcmd
  rxBuffer : after.rxBuffer = before.rxBuffer
  ins : after.ins = before.ins
  outs : after.outs = before.outs
  control : after.control = before.control
  others : ∀ other, other ≠ buf →
    after.txBuffer other = before.txBuffer other
  platform : after.platform = P.next before.platform call
  log : ∃ stores : List (Event σ),
    after.log = before.log ++
      .txStore buf (before.ins.map Transfer.buf) ::
        .call call (P.reply before.platform call) :: stores ∧
    stores ≠ [] ∧
    ∀ event ∈ stores, event = .txStore buf (before.ins.map Transfer.buf)

/-- A read command is in progress. -/
def CmdRockusbInterface.isRead (usbcmd : CmdRockusbInterface) : Prop :=
  usbcmd.cmnd = kFwRead10 ∨ usbcmd.cmnd = kFwLbaRead10

theorem Reading.isRead {n block c : Nat} {usbcmd : CmdRockusbInterface}
    (reading : Reading n block c usbcmd) : usbcmd.isRead := by
  have length := reading.length
  unfold txBlockLength at length
  split at length
  · exact .inl ‹_›
  · split at length
    · exact .inr ‹_›
    · have known := reading.known
      omega

private theorem filled_readInto (machine : Machine σ) (buf : Fin 2)
    (length start : Nat) (call : Call) :
    Filled P buf call machine
      ((machine.storeTx buf 0 length fun _ => 0).readInto P buf start call)
    := by
  refine ⟨rfl, rfl, rfl, rfl, rfl, ?_, rfl, ?_⟩
  · intro other different
    simp [Machine.readInto, Function.update, different]
  · refine ⟨[.txStore buf (machine.ins.map Transfer.buf)], ?_, by simp,
      by simp⟩
    simp [Machine.readInto]

private theorem filled_readVendor (machine : Machine σ) (buf : Fin 2)
    (length : Nat) :
    Filled P buf
      (.vendorStorageRead (machine.usbcmd.lba &&& 0xFFFF)
        (sub32 machine.usbcmd.uSize 8))
      machine (readVendor P (machine.storeTx buf 0 length fun _ => 0) buf)
    := by
  unfold readVendor
  dsimp only
  split
  · exact filled_readInto machine buf length 8 _
  · refine ⟨rfl, rfl, rfl, rfl, rfl, ?_, rfl, ?_⟩
    · intro other different
      simp [Machine.readInto, Function.update, different]
    · let store : Event σ := .txStore buf (machine.ins.map Transfer.buf)
      refine ⟨[store, store, store], ?_, by simp, by simp [store]⟩
      simp [Machine.readInto, store]

/-- Filling the buffer for a read makes exactly the call `loadCall`. -/
theorem readMedia_filled (read : machine.usbcmd.isRead) (buf : Fin 2)
    (blocks : Nat) :
    Filled P buf (machine.usbcmd.loadCall blocks) machine
      (readMedia P machine buf blocks) := by
  rcases read with raw | logical
  · simp only [readMedia, CmdRockusbInterface.loadCall,
      Machine.storeTx_usbcmd, raw, if_true]
    exact filled_readInto machine buf _ 0 _
  · have different : ¬kFwLbaRead10 = kFwRead10 := by decide
    simp only [readMedia, CmdRockusbInterface.loadCall,
      Machine.storeTx_usbcmd, logical, if_true, if_neg different]
    cases lbaWindow machine.usbcmd.lba with
    | sysData => exact filled_readInto machine buf _ 0 _
    | unlock => exact filled_readInto machine buf _ 0 _
    | vendor => exact filled_readVendor machine buf _
    | media => exact filled_readInto machine buf _ 0 _

/-- The address denotes blocks of the media, in the space of the command. -/
def CmdRockusbInterface.readsMedia (usbcmd : CmdRockusbInterface) : Prop :=
  usbcmd.cmnd = kFwRead10 ∨
    usbcmd.cmnd = kFwLbaRead10 ∧ lbaWindow usbcmd.lba = .media

/-- A media read leaves in the buffer what the call stored, over zeros. -/
theorem readMedia_txBuffer (media : machine.usbcmd.readsMedia) (buf : Fin 2)
    (blocks : Nat) :
    (readMedia P machine buf blocks).txBuffer buf =
      let reply :=
        P.reply machine.platform (machine.usbcmd.loadCall blocks)
      ((machine.txBuffer buf).store 0
        (blocks * txBlockLength machine.usbcmd.cmnd) fun _ => 0).store 0
          reply.size reply.data := by
  rcases media with raw | ⟨logical, window⟩
  · simp [readMedia, CmdRockusbInterface.loadCall, raw, Machine.readInto,
      Machine.replyTo]
  · have different : ¬kFwLbaRead10 = kFwRead10 := by decide
    simp [readMedia, CmdRockusbInterface.loadCall, logical, window,
      different, Machine.readInto, Machine.replyTo]

theorem preread_filled (read : machine.usbcmd.isRead) {blocks : Nat}
    (some : blocks ≠ 0) :
    Filled P machine.usbcmd.txbufNum
      ((machine.notePreread blocks).usbcmd.loadCall blocks)
      (machine.notePreread blocks) (preread P machine blocks) := by
  have noted : (machine.notePreread blocks).usbcmd.isRead := read
  simp only [preread, if_neg some]
  exact readMedia_filled noted _ _

section HitRound

variable {n block c : Nat}

theorem Reading.uBytes_sendPreread
    (reading : Reading n block c machine.usbcmd) :
    machine.sendPreread.usbcmd.uBytes = (c + min (n - c) 128) * block := by
  have count := reading.count
  have left := reading.left
  rw [sendPreread_usbcmd]
  dsimp only
  rw [reading.uBytes, reading.txdataSize, ← Nat.add_mul, wrap32_of_lt]
  rcases reading.known with rfl | rfl <;> omega

theorem Reading.sendPreread (reading : Reading n block c machine.usbcmd)
    (more : c + min (n - c) 128 < n) :
    Reading n block (c + min (n - c) 128) machine.sendPreread.usbcmd := by
  have sent := reading.uBytes_sendPreread
  rw [sendPreread_usbcmd] at sent ⊢
  exact ⟨reading.length, reading.known, reading.count, reading.uSize, sent,
    more⟩

private theorem Reading.size_ne (reading : Reading n block c machine.usbcmd)
    {sent : Nat} (different : sent ≠ n) : n * block ≠ sent * block := by
  rcases reading.known with rfl | rfl <;> omega

/-- A round that hits sends the blocks and, if more remain, reads ahead. -/
theorem datatxRound_hit (reading : Reading n block c machine.usbcmd)
    (hit : machine.usbcmd.prereadHit) :
    datatxRound P machine =
      if c + min (n - c) 128 = n then machine.sendPreread.clearPreread
      else preread P machine.sendPreread 128 := by
  have left := reading.left
  have sent := reading.uBytes_sendPreread
  have size : machine.sendPreread.usbcmd.uSize = n * block := by
    rw [sendPreread_usbcmd]
    exact reading.uSize
  rw [datatxRound, if_pos hit, planPreread]
  by_cases finished : c + min (n - c) 128 = n
  · rw [if_pos finished, if_pos (by rw [size, sent, finished])]
  · have full : machine.usbcmd.txBlocks = rkusbBufferBlockMax := by
      rw [reading.txBlocks]
      simp only [rkusbBufferBlockMax]
      omega
    have unequal : machine.sendPreread.usbcmd.uSize ≠
        machine.sendPreread.usbcmd.uBytes := by
      rw [size, sent]
      exact reading.size_ne finished
    rw [if_neg finished, if_neg unequal, if_pos (.inr full), full]

private theorem uBytes_datatxRound_hit
    (reading : Reading n block c machine.usbcmd)
    (hit : machine.usbcmd.prereadHit) :
    (datatxRound P machine).usbcmd.uBytes = (c + min (n - c) 128) * block := by
  have sent := reading.uBytes_sendPreread
  rw [datatxRound_hit reading hit]
  split
  · simpa using sent
  · have left := reading.left
    have more := reading.sendPreread (by omega)
    rw [(preread_filled more.isRead (by decide)).usbcmd]
    simpa using sent

private theorem Reading.sent_ne_zero
    (reading : Reading n block c machine.usbcmd) :
    (c + min (n - c) 128) * block ≠ 0 := by
  have left := reading.left
  rcases reading.known with rfl | rfl <;> omega

theorem datatxRounds_succ (fuel : Nat) :
    datatxRounds P (fuel + 1) machine =
      if (datatxRound P machine).usbcmd.uBytes = 0 then
        datatxRounds P fuel (datatxRound P machine)
      else some (datatxRound P machine) :=
  rfl

theorem datatxRounds_of_progress (fuel : Nat)
    (progress : (datatxRound P machine).usbcmd.uBytes ≠ 0) :
    datatxRounds P (fuel + 1) machine = some (datatxRound P machine) := by
  rw [datatxRounds_succ, if_neg progress]

/-- A call of the handler that hits takes one round. -/
theorem rkusbHandleDatatx_hit (reading : Reading n block c machine.usbcmd)
    (hit : machine.usbcmd.prereadHit) :
    rkusbHandleDatatx P machine =
      if c + min (n - c) 128 = n then
        machine.sendPreread.clearPreread.replyGood .csw
      else preread P machine.sendPreread 128 := by
  have sent := uBytes_datatxRound_hit (P := P) reading hit
  have progress : (datatxRound P machine).usbcmd.uBytes ≠ 0 := by
    rw [sent]
    exact reading.sent_ne_zero
  have round := datatxRound_hit (P := P) reading hit
  have oneRound : datatxRounds P 2 machine = some (datatxRound P machine) := by
    rw [datatxRounds_succ, if_neg progress]
  rw [rkusbHandleDatatx, oneRound, Option.elim_some, Machine.finishDatatx]
  by_cases finished : c + min (n - c) 128 = n
  · rw [if_pos finished] at round
    have equal : (datatxRound P machine).usbcmd.uSize =
        (datatxRound P machine).usbcmd.uBytes := by
      rw [sent, finished, round]
      simpa [sendPreread_usbcmd] using reading.uSize
    rw [if_pos finished, if_pos equal, round]
  · rw [if_neg finished] at round
    have left := reading.left
    have more := reading.sendPreread (by omega)
    have unequal : (datatxRound P machine).usbcmd.uSize ≠
        (datatxRound P machine).usbcmd.uBytes := by
      rw [sent, round, (preread_filled more.isRead (by decide)).usbcmd]
      simp only [Machine.notePreread_usbcmd, more.uSize]
      exact reading.size_ne finished
    rw [if_neg finished, if_neg unequal, round]

theorem prereadHit_preread (reading : Reading n block c machine.usbcmd)
    {blocks : Nat} (enough : machine.usbcmd.txBlocks ≤ blocks) :
    (preread P machine blocks).usbcmd.prereadHit := by
  have some := reading.txBlocks_pos
  have noted := (preread_filled (P := P) reading.isRead
    (show blocks ≠ 0 by omega)).usbcmd
  rw [noted]
  exact ⟨some, enough, rfl⟩

theorem Reading.preread (reading : Reading n block c machine.usbcmd)
    {blocks : Nat} (some : blocks ≠ 0) :
    Reading n block c (preread P machine blocks).usbcmd := by
  rw [(preread_filled reading.isRead some).usbcmd]
  exact reading.congr rfl rfl rfl

/-- The first call of a read that misses fills the buffer, goes back to the
label and then hits. -/
theorem rkusbHandleDatatx_miss (reading : Reading n block 0 machine.usbcmd)
    (miss : ¬machine.usbcmd.prereadHit) :
    rkusbHandleDatatx P machine =
      rkusbHandleDatatx P (preread P machine machine.usbcmd.txBlocks) := by
  have start : machine.usbcmd.uBytes = 0 := by
    simpa using reading.uBytes
  have unequal : machine.usbcmd.uSize ≠ machine.usbcmd.uBytes := by
    have left := reading.left
    rw [reading.uBytes]
    rw [reading.uSize]
    exact reading.size_ne (by omega)
  have round : datatxRound P machine =
      preread P machine machine.usbcmd.txBlocks := by
    rw [datatxRound, if_neg miss, planPreread, if_neg unequal,
      if_pos (.inl start)]
  have again := reading.preread (P := P) reading.txBlocks_pos
  have hit := prereadHit_preread (P := P) reading (Nat.le_refl _)
  have progress : (datatxRound P (preread P machine
      machine.usbcmd.txBlocks)).usbcmd.uBytes ≠ 0 := by
    rw [uBytes_datatxRound_hit again hit]
    exact again.sent_ne_zero
  have stays : (preread P machine
      machine.usbcmd.txBlocks).usbcmd.uBytes = 0 := by
    simpa using again.uBytes
  have twoRounds : datatxRounds P 2 machine =
      some (datatxRound P (preread P machine
        machine.usbcmd.txBlocks)) := by
    rw [datatxRounds_succ, round, if_pos stays,
      datatxRounds_of_progress 0 progress]
  have oneRound : datatxRounds P 2 (preread P machine
      machine.usbcmd.txBlocks) =
        some (datatxRound P (preread P machine
          machine.usbcmd.txBlocks)) :=
    datatxRounds_of_progress 1 progress
  rw [rkusbHandleDatatx, twoRounds, rkusbHandleDatatx, oneRound,
    Option.elim_some, Option.elim_some]

end HitRound

theorem datatxRound_empty (size : machine.usbcmd.uSize = 0)
    (bytes : machine.usbcmd.uBytes = 0) :
    datatxRound P machine = machine.clearPreread := by
  have blocks : machine.usbcmd.txBlocks = 0 := by
    simp [CmdRockusbInterface.txBlocks, CmdRockusbInterface.txRemaining, size,
      bytes, sub32, wrap32]
  rw [datatxRound, if_neg (fun hit => hit.1 blocks), planPreread,
    if_pos (by rw [size, bytes])]

/-- However many rounds a read of no blocks makes, it goes back to the label
after each of them. -/
theorem datatxRounds_empty (fuel : Nat) (size : machine.usbcmd.uSize = 0)
    (bytes : machine.usbcmd.uBytes = 0) :
    datatxRounds P fuel machine = none := by
  induction fuel generalizing machine with
  | zero => rfl
  | succ fuel induction =>
      rw [datatxRounds_succ, datatxRound_empty size bytes]
      rw [if_pos (by simpa using bytes)]
      exact induction (by simpa using size) (by simpa using bytes)

theorem handleDatatx_empty (size : machine.usbcmd.uSize = 0)
    (bytes : machine.usbcmd.uBytes = 0) :
    rkusbHandleDatatx P machine = { machine with control := .hung } := by
  rw [rkusbHandleDatatx, datatxRounds_empty 2 size bytes]
  rfl

end KernelDrivers.Rockusb
