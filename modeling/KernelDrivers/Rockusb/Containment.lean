import KernelDrivers.Rockusb.Quarters

/-!
# The functions of the loop inside the quarters

Each function of the loop stays inside the quarters of the boot buffer, if an
access to the vendor storage has a length that fits.
-/

namespace KernelDrivers.Rockusb

open KernelDrivers.Library

variable {σ : Type} {P : Platform σ} {machine after : Machine σ}
variable {quarter : Nat}

/-- The answer of a handler lies inside the transmit buffer. -/
theorem fwDispatch_tx (replies : BoundedReplies P quarter)
    (room : 64 ≤ quarter) {buf : Fin 2} {index : Nat} (past : quarter ≤ index) :
    (fwDispatch P machine).txBuffer buf index =
      machine.txBuffer buf index := by
  have stored : ∀ (start : Machine σ) (length : Nat) (data : Memory),
      length ≤ quarter →
      (start.storeTx start.usbcmd.txbufNum 0 length data).txBuffer buf index =
        start.txBuffer buf index := by
    intro start length data fits
    exact (Contained.storeTx (by omega)).tx buf index past
  have filled : ∀ call : Call, call.fills = none →
      (machine.fillTx P call).txBuffer buf index =
        machine.txBuffer buf index := by
    intro call none
    have bound := replies machine.platform call
    rw [none] at bound
    exact stored (machine.perform P call) _ _ bound
  have unitReady : (fwTestUnitReady P machine).txBuffer = machine.txBuffer := by
    unfold fwTestUnitReady
    dsimp only
    repeat' split
    all_goals rfl
  have erased : ∀ mode, (machine.erase P mode).txBuffer = machine.txBuffer := by
    intro mode
    unfold Machine.erase
    split <;> rfl
  unfold fwDispatch
  split
  · rw [unitReady]
  · exact filled _ rfl
  · exact stored machine 64 _ room
  · rfl
  · rfl
  · rw [fwErase10, erased]
  · rw [fwErase10Force, erased]
  · rfl
  · rfl
  · rfl
  · exact filled _ rfl
  · exact stored (machine.perform P _) 16 _ (by omega)
  all_goals rfl

theorem Dispatched.receives {permitted : Call → Prop}
    (dispatched : Dispatched P permitted machine after) :
    after.rxBuffer = machine.rxBuffer ∧ after.outs = machine.outs := by
  cases dispatched with
  | unknown => exact ⟨rfl, rfl⟩
  | answered answers => exact ⟨answers.rxBuffer, answers.outs⟩
  | data answers => exact ⟨answers.rxBuffer, answers.outs⟩
  | read => exact ⟨rfl, rfl⟩
  | write => exact ⟨rfl, rfl⟩

theorem Contained.fwDispatch (replies : BoundedReplies P quarter)
    (room : 64 ≤ quarter) (machine : Machine σ) :
    Contained quarter machine (fwDispatch P machine) := by
  have dispatched : Dispatched P
      (fun call => call.fills = none ∧ call.writes = none) machine
      (Rockusb.fwDispatch P machine) := by
    refine fwDispatch_cases machine ?_ (fun _ _ _ _ => ⟨rfl, rfl⟩)
      (fun _ => ⟨rfl, rfl⟩)
    intro call query
    cases call <;> first | exact ⟨rfl, rfl⟩ | cases query
  have same := dispatched.receives
  refine of_extends dispatched.extends ?_ ?_
    (fun _ _ past => fwDispatch_tx replies room past) same.1 same.2
  · intro event fill earlier
    cases event with
    | call made reply => exact Call.within_of_none fill.1 fill.2 earlier
    | txStore => trivial
    | _ => exact fill.elim
  · intro event fill held
    cases event with
    | call => rfl
    | txStore => rfl
    | _ => exact fill.elim

theorem fwDispatch_transferSize (other : machine.usbcmd.status ≠ .txdata)
    (status : (fwDispatch P machine).usbcmd.status = .txdata) :
    (fwDispatch P machine).usbcmd.transferSize ≤ 64 := by
  revert status
  unfold fwDispatch
  split <;> intro status
  · rw [fwTestUnitReady_status] at status
    cases status
  · exact show 5 ≤ 64 by decide
  · exact Nat.le_refl 64
  · cases status
  · cases status
  · rw [fwErase10, erase_status] at status
    cases status
  · rw [fwErase10Force, erase_status] at status
    cases status
  · cases status
  · cases status
  · cases status
  · exact show 11 ≤ 64 by decide
  · exact show 16 ≤ 64 by decide
  · cases status
  · cases status
  · cases status
  · exact absurd status other

theorem Contained.rkusbSendCsw (room : 64 ≤ quarter) (machine : Machine σ) :
    Contained quarter machine (rkusbSendCsw machine) := by
  unfold Rockusb.rkusbSendCsw
  split
  · exact refl machine
  · dsimp only
    -- From the last call back to the first.
    refine trans (trans ?_ (update _ _)) (update _ _)
    refine trans ?_ (rkusbReadBulkEp (by omega) _)
    refine trans ?_ (update _ _)
    refine trans ?_ (rkusbWriteBulkEp (by omega) _)
    refine trans ?_ (note trivial (fun _ => rfl))
    exact (update machine _).trans (storeTx (by omega))

theorem rxBlockLength_cases (cmnd : Nat) :
    rxBlockLength cmnd = 512 ∨ rxBlockLength cmnd = 528 := by
  unfold rxBlockLength
  split
  · exact .inr rfl
  · split
    · exact .inl rfl
    · exact .inl rfl

theorem blocks_fit {blocks block : Nat} (room : 128 * 528 ≤ quarter)
    (few : blocks ≤ 128) (known : block = 512 ∨ block = 528) :
    blocks * block ≤ quarter := by
  have short : block ≤ 528 := by omega
  exact Nat.le_trans (Nat.mul_le_mul few short) room

theorem Contained.requestData (room : 128 * 528 ≤ quarter)
    (machine : Machine σ) : Contained quarter machine machine.requestData := by
  unfold Machine.requestData
  dsimp only
  refine trans (trans (rkusbReadBulkEp ?_ _) (update _ _)) (update _ _)
  exact blocks_fit room (Nat.min_le_right _ _) (rxBlockLength_cases _)

theorem Contained.answerData (room : 128 * 528 ≤ quarter)
    (machine : Machine σ) : Contained quarter machine machine.answerData := by
  have counted : Contained quarter machine machine.countData := by
    unfold Machine.countData
    dsimp only
    split
    · exact update machine _
    · exact refl machine
  unfold Machine.answerData
  split
  · exact counted.trans (requestData room _)
  · exact (counted.trans (update _ _)).trans (rkusbSendCsw (by omega) _)

/-- A receive buffer begins with the bytes of the current data stage. -/
structure Received (quarter : Nat) (machine : Machine σ) : Prop where
  stored : ∀ buf, (machine.rxBuffer buf).bytes 0
    (stageBytes machine.log buf).length = stageBytes machine.log buf
  short : ∀ buf, (stageBytes machine.log buf).length ≤ quarter

theorem Received.of_contained (received : Received quarter machine)
    (contained : Contained quarter machine after) :
    Received quarter after := by
  constructor
  · rw [contained.stage, contained.rx]
    exact received.stored
  · rw [contained.stage]
    exact received.short

/-- A part of what has been received is handed to a storage. -/
theorem Contained.handOver {buf : Fin 2} {call : Call} {offset length : Nat}
    (received : Received quarter machine) (fills : call.fills = none)
    (writes : call.writes =
      some (offset, (machine.rxBuffer buf).bytes offset length))
    (inside : offset + length ≤ (stageBytes machine.log buf).length) :
    Contained quarter machine ((machine.loadRx buf).perform P call) := by
  refine (loadRx machine buf).trans (perform ⟨by simp [fills], ?_⟩)
  intro place written
  rw [writes] at written
  obtain rfl := Option.some.inj written
  have same : stageBytes (machine.loadRx buf).log = stageBytes machine.log :=
    stageBytes_snoc _ _
  have loaded : lastLoaded (machine.loadRx buf).log = some buf := by
    simp [lastLoaded]
  refine ⟨?_, buf, loaded, ?_⟩
  · dsimp only
    rw [Memory.length_bytes]
    exact Nat.le_trans inside (received.short buf)
  · have part : (machine.rxBuffer buf).bytes (0 + offset) length <+:
        ((machine.rxBuffer buf).bytes 0
          (stageBytes machine.log buf).length).drop offset :=
      Memory.bytes_prefix_drop inside
    rw [received.stored buf, Nat.zero_add] at part
    rw [same]
    exact part

theorem Contained.writePba {buf : Fin 2} {blocks : Nat}
    (received : Received quarter machine)
    (inside : blocks * 528 ≤ (stageBytes machine.log buf).length) :
    Contained quarter machine (writePba P machine buf blocks) := by
  have flagged : Contained quarter machine
      (machine.perform P (.iSetLoaderFlag .sysLoaderErr)) :=
    perform (Call.within_of_none rfl rfl _)
  unfold Rockusb.writePba
  dsimp only
  split
  · refine flagged.trans (trans ?_ (update _ _))
    refine handOver (received.of_contained flagged) rfl rfl ?_
    rw [flagged.stage, Nat.zero_add]
    exact inside
  · exact flagged

theorem Contained.writeLba {buf : Fin 2} {blocks : Nat}
    (received : Received quarter machine)
    (inside : blocks * 512 ≤ (stageBytes machine.log buf).length)
    (item : lbaWindow machine.usbcmd.lba = .vendor →
      8 + le16 (machine.rxBuffer buf 4) (machine.rxBuffer buf 5) ≤
        (stageBytes machine.log buf).length) :
    Contained quarter machine (writeLba P machine buf blocks) := by
  have blocksInside : 0 + blocks * 512 ≤
      (stageBytes machine.log buf).length := by
    rwa [Nat.zero_add]
  unfold Rockusb.writeLba
  dsimp only
  split
  · exact (handOver received rfl rfl blocksInside).trans (update _ _)
  · exact (loadRx machine buf).trans (perform (Call.within_of_none rfl rfl _))
  · rename_i vendor
    exact (handOver received rfl rfl (item vendor)).trans (update _ _)
  · split
    · exact (handOver received rfl rfl blocksInside).trans (update _ _)
    · exact refl machine

/-- Received blocks are handed over, if a vendor item ends inside them. -/
theorem Contained.writeMedia {buf : Option (Fin 2)} {blocks : Nat}
    (received : Received quarter machine)
    (inside : ∀ loaded ∈ buf, blocks * rxBlockLength machine.usbcmd.cmnd ≤
      (stageBytes machine.log loaded).length)
    (item : machine.usbcmd.cmnd = kFwLbaWrite10 →
      lbaWindow machine.usbcmd.lba = .vendor → blocks ≠ 0 →
      ∀ loaded ∈ buf,
        8 + le16 (machine.rxBuffer loaded 4) (machine.rxBuffer loaded 5) ≤
          (stageBytes machine.log loaded).length) :
    Contained quarter machine (writeMedia P machine buf blocks) := by
  unfold Rockusb.writeMedia
  split
  · exact refl machine
  · rename_i some
    split
    · exact of_same rfl rfl rfl rfl
    · rename_i loaded
      have held := inside loaded rfl
      split
      · rename_i raw
        apply writePba received
        rwa [raw] at held
      · split
        · rename_i logical
          rw [logical] at held
          exact writeLba received held
            (fun vendor => item logical vendor some loaded rfl)
        · exact refl machine

theorem Contained.rkusbHandleDatarx (room : 128 * 528 ≤ quarter)
    (received : Received quarter machine)
    (arrived : ∀ buf ∈ machine.usbcmd.rxGiveback.buf,
      machine.usbcmd.rxGiveback.actual ≤ (stageBytes machine.log buf).length)
    (item : machine.usbcmd.cmnd = kFwLbaWrite10 →
      lbaWindow machine.usbcmd.lba = .vendor →
      machine.usbcmd.rxGiveback.actual / 512 ≠ 0 →
      ∀ buf ∈ machine.usbcmd.rxGiveback.buf,
        8 + le16 (machine.rxBuffer buf 4) (machine.rxBuffer buf 5) ≤
          (stageBytes machine.log buf).length) :
    Contained quarter machine (rkusbHandleDatarx P machine) := by
  have answered := answerData room machine
  have posted := Posted.answerData (P := P) machine
  rw [rkusbHandleDatarx_eq]
  refine answered.trans (writeMedia (received.of_contained answered) ?_ ?_)
  · intro buf inBuf
    rw [posted.cmnd, answered.stage]
    exact Nat.le_trans (Nat.div_mul_le_self _ _) (arrived buf inBuf)
  · rw [posted.cmnd, posted.lba, answered.stage, answered.rx]
    intro logical
    rw [logical]
    exact item logical

theorem Contained.sendPreread (room : 128 * 528 ≤ quarter) {n block c : Nat}
    (reading : Reading n block c machine.usbcmd) :
    Contained quarter machine machine.sendPreread := by
  have fits : machine.usbcmd.txdataSize ≤ quarter := by
    rw [reading.txdataSize]
    exact blocks_fit room (Nat.min_le_right _ _) reading.known
  unfold Machine.sendPreread
  dsimp only
  refine trans ?_ (update _ _)
  refine trans ?_ (rkusbWriteBulkEp fits _)
  refine trans (note ?_ ?_) (update _ _)
  · trivial
  · exact fun _ => rfl

theorem Contained.readVendor (replies : BoundedReplies P quarter)
    (room : 64 ≤ quarter) {buf : Fin 2} {n block c : Nat}
    (reading : Reading n block c machine.usbcmd)
    (fits : machine.usbcmd.uSize ≤ quarter) :
    Contained quarter machine (readVendor P machine buf) := by
  have size : 8 + sub32 machine.usbcmd.uSize 8 ≤ quarter := by
    have count := reading.count
    have left := reading.left
    have known := reading.known
    rw [reading.uSize] at fits ⊢
    rcases known with rfl | rfl
    · rw [sub32_of_le (by omega) (by omega)]
      omega
    · rw [sub32_of_le (by omega) (by omega)]
      omega
  unfold Rockusb.readVendor
  dsimp only
  split
  · exact readInto replies rfl rfl size
  · refine trans (trans (readInto replies rfl rfl size) (storeTx ?_))
      (storeTx ?_)
    · omega
    · omega

/-- A buffer is filled from `lba`, which is in the vendor storage only if the
whole command fits a quarter. -/
theorem Contained.readMedia (replies : BoundedReplies P quarter)
    (room : 128 * 528 ≤ quarter) {buf : Fin 2} {blocks : Nat}
    (few : blocks ≤ 128) {n block c : Nat}
    (reading : Reading n block c machine.usbcmd)
    (fits : machine.usbcmd.cmnd = kFwLbaRead10 →
      lbaWindow machine.usbcmd.lba = .vendor →
      machine.usbcmd.uSize ≤ quarter) :
    Contained quarter machine (readMedia P machine buf blocks) := by
  have cleared : Contained quarter machine (machine.storeTx buf 0
      (blocks * txBlockLength machine.usbcmd.cmnd) fun _ => 0) := by
    apply storeTx
    rw [reading.length, Nat.zero_add]
    exact blocks_fit room few reading.known
  have logical : 0 + blocks * 512 ≤ quarter := by
    rw [Nat.zero_add]
    exact blocks_fit room few (.inl rfl)
  have raw : 0 + blocks * 528 ≤ quarter := by
    rw [Nat.zero_add]
    exact blocks_fit room few (.inr rfl)
  unfold Rockusb.readMedia
  dsimp only
  refine cleared.trans ?_
  split
  · exact readInto replies rfl rfl raw
  · split
    · rename_i lbaRead
      split
      · exact readInto replies rfl rfl logical
      · exact readInto_free replies rfl rfl
      · rename_i vendor
        exact readVendor replies (by omega) reading (fits lbaRead vendor)
      · exact readInto replies rfl rfl logical
    · exact refl _

section DataStage

variable {n block c : Nat}

theorem Contained.preread (replies : BoundedReplies P quarter)
    (room : 128 * 528 ≤ quarter) {blocks : Nat} (few : blocks ≤ 128)
    (reading : Reading n block c machine.usbcmd)
    (fits : machine.usbcmd.cmnd = kFwLbaRead10 →
      lbaWindow machine.usbcmd.lba = .vendor →
      machine.usbcmd.uSize ≤ quarter) :
    Contained quarter machine (preread P machine blocks) := by
  have noted : Reading n block c (machine.notePreread blocks).usbcmd :=
    reading.congr rfl rfl rfl
  unfold Rockusb.preread
  dsimp only
  split
  · exact update machine _
  · exact (update machine _).trans (readMedia replies room few noted fits)

theorem Contained.of_hit (replies : BoundedReplies P quarter)
    (room : 128 * 528 ≤ quarter) (reading : Reading n block c machine.usbcmd)
    (hit : machine.usbcmd.prereadHit)
    (fits : machine.usbcmd.cmnd = kFwLbaRead10 → c + 128 < n →
      lbaWindow (wrap32 (machine.usbcmd.lba + 128)) = .vendor →
      machine.usbcmd.uSize ≤ quarter) :
    Contained quarter machine (rkusbHandleDatatx P machine) := by
  have sent := sendPreread room reading
  rw [rkusbHandleDatatx_hit reading hit]
  split
  · refine sent.trans (of_same ?_ ?_ ?_ ?_)
    all_goals simp
  · have left := reading.left
    have more := reading.sendPreread (by omega)
    have full : machine.usbcmd.txBlocks = 128 := by
      rw [reading.txBlocks]
      omega
    refine sent.trans (preread replies room (Nat.le_refl 128) more ?_)
    rw [sendPreread_usbcmd]
    dsimp only
    rw [full]
    exact fun logical => fits logical (by omega)

theorem Reading.more_iff (reading : Reading n block c machine.usbcmd) :
    rkusbBufferBlockMax * txBlockLength machine.usbcmd.cmnd <
        machine.usbcmd.txRemaining ↔ c + 128 < n := by
  have left := reading.left
  have size : rkusbBufferBlockMax = 128 := rfl
  rw [reading.length, reading.txRemaining, size]
  rcases reading.known with rfl | rfl <;> omega

theorem Contained.rkusbHandleDatatx (replies : BoundedReplies P quarter)
    (room : 128 * 528 ≤ quarter) (reading : Reading n block c machine.usbcmd)
    (fits : machine.usbcmd.VendorReadFits quarter) :
    Contained quarter machine (rkusbHandleDatatx P machine) := by
  have next : machine.usbcmd.cmnd = kFwLbaRead10 → c + 128 < n →
      lbaWindow (wrap32 (machine.usbcmd.lba + 128)) = .vendor →
      machine.usbcmd.uSize ≤ quarter := by
    intro logical more vendor
    refine fits logical ⟨_, ?_, vendor⟩
    apply List.mem_append_right
    rw [if_pos (reading.more_iff.mpr more)]
    exact List.mem_singleton_self _
  have few : machine.usbcmd.txBlocks ≤ 128 := Nat.min_le_right _ _
  by_cases hit : machine.usbcmd.prereadHit
  · exact of_hit replies room reading hit next
  · have here : machine.usbcmd.cmnd = kFwLbaRead10 →
        lbaWindow machine.usbcmd.lba = .vendor →
        machine.usbcmd.uSize ≤ quarter := by
      intro logical vendor
      refine fits logical ⟨_, ?_, vendor⟩
      apply List.mem_append_left
      rw [if_neg hit]
      exact List.mem_singleton_self _
    have filled := preread replies room few reading here
    by_cases begun : c = 0
    · subst begun
      have again := reading.preread (P := P) reading.txBlocks_pos
      have same := (preread_filled (P := P) reading.isRead
        reading.txBlocks_pos).usbcmd
      rw [rkusbHandleDatatx_miss reading hit]
      refine filled.trans (of_hit replies room again
        (prereadHit_preread reading (Nat.le_refl _)) ?_)
      rw [same]
      exact next
    · rw [rkusbHandleDatatx_begun reading begun hit]
      unfold planPreread
      split
      · exact update machine _
      · split
        · exact filled
        · exact refl machine

end DataStage

/-- The completion that is answered is taken, or it is left as it was. -/
theorem answerData_giveback (machine : Machine σ) :
    machine.answerData.usbcmd.rxGiveback.buf = none ∨
      machine.answerData.usbcmd.rxGiveback = machine.usbcmd.rxGiveback := by
  have counted : machine.countData.usbcmd.rxGiveback =
      machine.usbcmd.rxGiveback := by
    unfold Machine.countData
    dsimp only
    split <;> rfl
  unfold Machine.answerData
  split
  · exact .inl rfl
  · unfold Machine.finishData
    rcases rkusbSendCsw_cases (machine.countData.replyGood
        machine.countData.usbcmd.status) with sent | same
    · exact .inl (by rw [sent.usbcmd])
    · rw [same]
      exact .inr counted

theorem rkusbHandleDatatx_status
    (status : machine.usbcmd.status = .txdataPrepare) :
    (rkusbHandleDatatx P machine).usbcmd.status = .csw ∨
      (rkusbHandleDatatx P machine).usbcmd.status = .txdataPrepare := by
  obtain ⟨next, supplied, shape⟩ :=
    rkusbHandleDatatx_supplied (P := P) machine
  obtain ⟨_, _, _, _, _, usbcmd⟩ := supplied.usbcmd
  have sending : next.usbcmd.status = .txdataPrepare := by
    rw [usbcmd]
    exact status
  rcases shape with same | ended | hung
  · exact .inr (by rw [same, sending])
  · exact .inl (by rw [ended, Machine.replyGood_usbcmd])
  · exact .inr (by rw [hung, sending])

end KernelDrivers.Rockusb
