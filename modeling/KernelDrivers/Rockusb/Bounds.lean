import KernelDrivers.Rockusb.Containment

/-!
# Runs inside the quarters

The lengths that the loop keeps from one iteration to the next fit a quarter,
so a run leaves it only with an access to the vendor storage.
-/

namespace KernelDrivers.Rockusb

open KernelDrivers.Library

variable {σ : Type} {P : Platform σ} {machine after : Machine σ}
variable {quarter : Nat}

/-- What is held between two phases of an iteration. -/
structure Bounded (quarter : Nat) (start machine : Machine σ) : Prop where
  within : WithinQuarters quarter start machine
  received : Received quarter machine
  posted : ∀ transfer ∈ machine.outs, transfer.len ≤ quarter
  answer : machine.usbcmd.status = .txdata →
    machine.usbcmd.transferSize ≤ quarter
  arrived : machine.usbcmd.status = .rxdata ∨
      machine.usbcmd.status = .rxdataPrepare →
    ∀ buf ∈ machine.usbcmd.rxGiveback.buf,
      machine.usbcmd.rxGiveback.actual ≤ (stageBytes machine.log buf).length

namespace Bounded

variable {start : Machine σ}

theorem of_contained (bounded : Bounded quarter start machine)
    (contained : Contained quarter machine after)
    (answer : after.usbcmd.status = .txdata →
      after.usbcmd.transferSize ≤ quarter)
    (arrived : after.usbcmd.status = .rxdata ∨
        after.usbcmd.status = .rxdataPrepare →
      ∀ buf ∈ after.usbcmd.rxGiveback.buf,
        after.usbcmd.rxGiveback.actual ≤
          (stageBytes machine.log buf).length) :
    Bounded quarter start after := by
  have within := bounded.within
  refine ⟨⟨contained.log within.log, ?_, ?_⟩,
    bounded.received.of_contained contained, ?_, answer, ?_⟩
  · intro buf index past
    rw [contained.tx buf index past, within.tx buf index past]
  · rw [contained.rx]
    exact within.rx
  · intro transfer member
    rcases contained.outs transfer member with old | fits
    · exact bounded.posted transfer old
    · exact fits
  · rw [contained.stage]
    exact arrived

theorem of_other (bounded : Bounded quarter start machine)
    (contained : Contained quarter machine after)
    (noAnswer : after.usbcmd.status ≠ .txdata)
    (noData : after.usbcmd.status ≠ .rxdata)
    (noPrepare : after.usbcmd.status ≠ .rxdataPrepare) :
    Bounded quarter start after := by
  refine bounded.of_contained contained ?_ ?_
  · exact fun status => absurd status noAnswer
  · rintro (data | prepare)
    · exact absurd data noData
    · exact absurd prepare noPrepare

theorem of_kept (bounded : Bounded quarter start machine)
    (contained : Contained quarter machine after)
    (status : after.usbcmd.status = machine.usbcmd.status)
    (size : after.usbcmd.transferSize = machine.usbcmd.transferSize)
    (giveback : after.usbcmd.rxGiveback.buf = none ∨
      after.usbcmd.rxGiveback = machine.usbcmd.rxGiveback) :
    Bounded quarter start after := by
  refine bounded.of_contained contained ?_ ?_
  · rw [status, size]
    exact bounded.answer
  · rw [status]
    intro receives buf inBuf
    cases giveback with
    | inl empty =>
        rw [empty] at inBuf
        cases inBuf
    | inr same =>
        rw [same] at inBuf ⊢
        exact bounded.arrived receives buf inBuf

/-- A command begins a data stage in which nothing has been received. -/
theorem accept (bounded : Bounded quarter start machine) (buf : Fin 2) :
    Bounded quarter start (machine.accept buf) := by
  have log : (machine.accept buf).log = (machine.log ++
      [.rxLoad buf (machine.outs.map Transfer.buf)]) ++
        [.command (CbWrap.ofBuffer (machine.rxBuffer buf))] := by
    simp [Machine.accept]
  have empty : stageBytes (machine.accept buf).log = fun _ => [] := by
    rw [log]
    exact stageBytes_snoc _ _
  refine ⟨⟨?_, bounded.within.tx, bounded.within.rx⟩, ⟨?_, ?_⟩,
    bounded.posted, ?_, ?_⟩
  · rw [log]
    refine (bounded.within.log.snoc ?_).snoc ?_
    · trivial
    · trivial
  · rw [empty]
    exact fun _ => rfl
  · rw [empty]
    exact fun _ => Nat.zero_le _
  · intro status
    cases status
  · rintro (status | status)
    · cases status
    · cases status

theorem dispatched {permitted : Call → Prop}
    (bounded : Bounded quarter start machine)
    (dispatched : Dispatched P permitted machine after)
    (contained : Contained quarter machine after)
    (short : after.usbcmd.status = .txdata →
      after.usbcmd.transferSize ≤ quarter) :
    Bounded quarter start after := by
  cases dispatched with
  | unknown => exact bounded
  | answered _ csw =>
      exact bounded.of_other contained (by simp [csw]) (by simp [csw])
        (by simp [csw])
  | data _ txdata =>
      refine bounded.of_contained contained short ?_
      simp [txdata]
  | read => exact bounded.of_other contained (by simp) (by simp) (by simp)
  | write =>
      refine bounded.of_contained contained short ?_
      intro _ buf _
      exact Nat.zero_le _

theorem handleIdle (replies : BoundedReplies P quarter)
    (room : 64 ≤ quarter) (bounded : Bounded quarter start machine) :
    Bounded quarter start (handleIdle P machine) := by
  cases command : machine.nextCommand with
  | none =>
      rcases handleIdle_none (P := P) command with same | fault
      · rw [same]
        exact bounded
      · rw [fault]
        exact bounded.of_other (.of_same rfl rfl rfl rfl) (by simp) (by simp)
          (by simp)
  | some cbw =>
      obtain ⟨buf, -, dispatched⟩ := handleIdle_command (P := P) command
      rw [dispatched]
      refine (bounded.accept buf).dispatched (fwDispatch_any _)
        (.fwDispatch replies room _) ?_
      intro status
      exact Nat.le_trans (fwDispatch_transferSize (by simp [Machine.accept])
        status) room

theorem rkusbHandleDatarx (room : 128 * 528 ≤ quarter)
    (bounded : Bounded quarter start machine)
    (status : machine.usbcmd.status = .rxdata ∨
      machine.usbcmd.status = .rxdataPrepare)
    (item : machine.usbcmd.cmnd = kFwLbaWrite10 →
      lbaWindow machine.usbcmd.lba = .vendor →
      machine.usbcmd.rxGiveback.actual / 512 ≠ 0 →
      ∀ buf ∈ machine.usbcmd.rxGiveback.buf,
        8 + le16 (machine.rxBuffer buf 4) (machine.rxBuffer buf 5) ≤
          (stageBytes machine.log buf).length) :
    Bounded quarter start (rkusbHandleDatarx P machine) := by
  have contained := Contained.rkusbHandleDatarx (P := P) room bounded.received
    (bounded.arrived status) item
  have kept := bounded.arrived status
  rw [rkusbHandleDatarx_eq] at contained ⊢
  obtain ⟨lba, usbcmd⟩ := (Stored.writeMedia (P := P) machine.answerData
    machine.usbcmd.rxGiveback.buf (machine.usbcmd.rxGiveback.actual /
      rxBlockLength machine.usbcmd.cmnd)).usbcmd
  apply bounded.of_contained contained
  · rw [usbcmd]
    intro answers
    rcases answerData_status machine with rxdata | idle | same
    · simp [rxdata] at answers
    · simp [idle] at answers
    · simp [same] at answers
      simp [answers] at status
  · rw [usbcmd]
    intro _ buf inBuf
    dsimp only at inBuf ⊢
    cases answerData_giveback machine with
    | inl empty =>
        rw [empty] at inBuf
        cases inBuf
    | inr same =>
        rw [same] at inBuf ⊢
        exact kept buf inBuf

theorem rkusbHandleResponse (replies : BoundedReplies P quarter)
    (room : 128 * 528 ≤ quarter) (bounded : Bounded quarter start machine)
    (reads : machine.usbcmd.status = .txdataPrepare →
      (∃ n block c, Reading n block c machine.usbcmd) ∨
        machine.usbcmd.uSize = 0 ∧ machine.usbcmd.uBytes = 0)
    (readFits : machine.usbcmd.sendsNext →
      machine.usbcmd.VendorReadFits quarter)
    (writeFits : machine.VendorWriteFits) :
    Bounded quarter start (rkusbHandleResponse P machine) := by
  unfold Rockusb.rkusbHandleResponse
  split
  · rename_i status
    have sent : Contained quarter machine (machine.rkusbWriteBulkEp
        machine.usbcmd.transferSize machine.usbcmd.txbufNum) :=
      .rkusbWriteBulkEp (bounded.answer status) _
    refine bounded.of_other (sent.trans (.of_same ?_ ?_ ?_ ?_)) ?_ ?_ ?_
    all_goals simp
  · rename_i status
    split
    · rename_i received
      exact bounded.rkusbHandleDatarx room (.inl status)
        (writeFits (.inr ⟨status, received⟩))
    · exact bounded
  · rename_i status
    exact bounded.rkusbHandleDatarx room (.inr status) (writeFits (.inl status))
  · rename_i status
    split
    · rename_i free
      rcases reads status with ⟨n, block, c, reading⟩ | ⟨size, bytes⟩
      · have contained := Contained.rkusbHandleDatatx (P := P) replies room
          reading (readFits ⟨status, free⟩)
        rcases rkusbHandleDatatx_status (P := P) status with csw | sending
        · exact bounded.of_other contained (by simp [csw]) (by simp [csw])
            (by simp [csw])
        · exact bounded.of_other contained (by simp [sending])
            (by simp [sending]) (by simp [sending])
      · rw [handleDatatx_empty size bytes]
        exact bounded.of_kept (.of_same rfl rfl rfl rfl) rfl rfl (.inr rfl)
    · exact bounded
  · exact bounded

theorem handleCsw (room : 64 ≤ quarter)
    (bounded : Bounded quarter start machine) :
    Bounded quarter start (handleCsw machine) := by
  unfold Rockusb.handleCsw
  split
  · have contained := Contained.rkusbSendCsw room machine
    rcases rkusbSendCsw_cases machine with sent | same
    · refine bounded.of_other contained ?_ ?_ ?_
      all_goals simp [sent.usbcmd]
    · rw [same]
      exact bounded
  · exact bounded

theorem endOfIteration (bounded : Bounded quarter start machine) :
    Bounded quarter start (endOfIteration P machine) := by
  have checked := Checked.endOfIteration (P := P) machine
  obtain ⟨flag, usbcmd⟩ := checked.usbcmd
  refine bounded.of_kept (.of_extends checked.log ?_ ?_ ?_ checked.rxBuffer
    checked.outs) (by rw [usbcmd]) (by rw [usbcmd]) (.inr (by rw [usbcmd]))
  · rintro event ⟨call, reply, rfl, check⟩ earlier
    apply Call.within_of_none
    all_goals cases call <;> first | rfl | cases check
  · rintro event ⟨call, reply, rfl, -⟩ held
    rfl
  · rw [checked.txBuffer]
    exact fun _ _ _ => rfl

end Bounded

theorem Dispatched.vendorWriteFits {permitted : Call → Prop}
    (dispatched : Dispatched P permitted machine after)
    (command : machine.usbcmd.status = .cmd) : after.VendorWriteFits := by
  cases dispatched with
  | unknown =>
      rintro (prepare | data)
      · simp [command] at prepare
      · simp [command] at data
  | answered _ csw =>
      rintro (prepare | data)
      · simp [csw] at prepare
      · simp [csw] at data
  | data _ txdata =>
      rintro (prepare | data)
      · simp [txdata] at prepare
      · simp [txdata] at data
  | read =>
      rintro (prepare | data)
      · simp at prepare
      · simp at data
  | write =>
      intro _ _ _ blocks
      exact absurd (Nat.zero_div 512) blocks

/-- The conditions on the next iteration hold where the response begins. -/
theorem handleIdle_vendorWriteFits (fits : machine.VendorWriteFits) :
    (handleIdle P machine).VendorWriteFits := by
  cases command : machine.nextCommand with
  | none =>
      rcases handleIdle_none (P := P) command with same | fault
      · rwa [same]
      · rw [fault]
        rintro (prepare | data)
        · simp at prepare
        · simp at data
  | some cbw =>
      obtain ⟨buf, -, dispatched⟩ := handleIdle_command (P := P) command
      rw [dispatched]
      exact (fwDispatch_any _).vendorWriteFits rfl

theorem handleIdle_vendorReadFits
    (fits : ∀ usbcmd ∈ machine.nextRead, usbcmd.VendorReadFits quarter)
    (sends : (handleIdle P machine).usbcmd.sendsNext) :
    (handleIdle P machine).usbcmd.VendorReadFits quarter := by
  unfold Machine.nextRead at fits
  cases command : machine.nextCommand with
  | none =>
      rw [command] at fits
      rcases handleIdle_none (P := P) command with same | fault
      · rw [same] at sends ⊢
        exact fits _ (by simp [sends])
      · rw [fault] at sends
        cases sends.1
  | some cbw =>
      rw [command] at fits
      by_cases read : cbw.isRead
      · obtain ⟨buf, shape, prepared⟩ := handleIdle_read (P := P) command read
        rw [prepared]
        apply fits
        simp [read, Machine.readPrepared, Machine.accept, shape]
      · exfalso
        obtain ⟨buf, rfl, dispatched⟩ := handleIdle_command (P := P) command
        rw [dispatched] at sends
        cases status_dispatched (fwDispatch_any _) sends.1 with
        | inl same => cases same
        | inr isRead => exact read isRead

theorem handleIdle_sending (reads : ReadsOn machine)
    (status : (handleIdle P machine).usbcmd.status = .txdataPrepare) :
    (∃ n block c, Reading n block c (handleIdle P machine).usbcmd) ∨
      (handleIdle P machine).usbcmd.uSize = 0 ∧
        (handleIdle P machine).usbcmd.uBytes = 0 := by
  refine (handleIdle_reads reads status).imp_right ?_
  rintro ⟨cbw, command, read, none⟩
  obtain ⟨buf, shape, prepared⟩ := handleIdle_read (P := P) command read
  rw [prepared]
  simp [Machine.readPrepared, Machine.accept, shape, none]

theorem Bounded.doRockusb {start : Machine σ}
    (replies : BoundedReplies P quarter) (room : 128 * 528 ≤ quarter)
    (bounded : Bounded quarter start machine) (reads : ReadsOn machine)
    (fits : VendorFits quarter machine .iterate) :
    Bounded quarter start (doRockusb P machine) := by
  have small : 64 ≤ quarter := by omega
  have idled := bounded.handleIdle replies small
  have responded := idled.rkusbHandleResponse replies room
    (handleIdle_sending reads) (handleIdle_vendorReadFits fits.1)
    (handleIdle_vendorWriteFits fits.2)
  unfold Rockusb.doRockusb
  exact Machine.andThen_of idled (Machine.andThen_of responded
    (responded.handleCsw small).endOfIteration)

/-- After an iteration from which control returns, a data stage to the host has
blocks left. -/
theorem doRockusb_readsRunning (running : machine.control = .running)
    (reads : ReadsOn machine) : ReadsRunning (doRockusb P machine) := by
  by_cases some : ∀ cbw ∈ machine.nextCommand, cbw.isRead → 0 < cbw.nsectors
  · exact fun _ => reads.doRockusb some
  · intro returned
    exfalso
    apply some
    intro cbw command read
    apply Nat.pos_of_ne_zero
    intro none
    obtain ⟨call, called, size, bytes⟩ :=
      datatxCall_read (P := P) running command read
    rw [none, Nat.zero_mul] at size
    rw [doRockusb_datatxCall called, handleDatatx_empty size bytes] at returned
    cases returned

theorem step_readsRunning {action : Action} (reads : ReadsRunning machine)
    (taken : step P machine action = some after) : ReadsRunning after := by
  have running := step_running taken
  by_cases iterate : action = .iterate
  · rw [iterate] at taken
    obtain rfl := step_iterate taken
    exact doRockusb_readsRunning running (reads running)
  · exact fun _ => (reads running).calledBack (.of_step taken iterate)

section CompleteOut

variable {start : Machine σ} {index : Nat} {transfer : Transfer}
variable {status : Int} {packet : List UInt8}

theorem stageBytes_completeOut :
    stageBytes (completeOut machine index transfer status packet).log =
      Function.update (stageBytes machine.log) transfer.buf (packet ++
        (stageBytes machine.log transfer.buf).drop packet.length) := by
  simp only [completeOut, dwc3RxHandler_log]
  exact stageBytes_snoc _ _

/-- A packet is stored over the bytes that its buffer has received. -/
theorem Received.completeOut (received : Received quarter machine)
    (fits : packet.length ≤ quarter) :
    Received quarter (completeOut machine index transfer status packet) := by
  constructor
  · intro buf
    rw [stageBytes_completeOut]
    simp only [Rockusb.completeOut, dwc3RxHandler_rxBuffer]
    by_cases same : buf = transfer.buf
    · rw [same, Function.update_self, Function.update_self]
      exact Memory.bytes_storeList_over (received.stored _)
    · rw [Function.update_of_ne same, Function.update_of_ne same]
      exact received.stored buf
  · intro buf
    have short := received.short buf
    rw [stageBytes_completeOut]
    by_cases same : buf = transfer.buf
    · subst same
      rw [Function.update_self, List.length_append, List.length_drop]
      omega
    · rw [Function.update_of_ne same]
      exact short

theorem length_stageBytes_completeOut (buf : Fin 2) :
    (stageBytes machine.log buf).length ≤ (stageBytes
      (completeOut machine index transfer status packet).log buf).length := by
  rw [stageBytes_completeOut]
  by_cases same : buf = transfer.buf
  · subst same
    rw [Function.update_self, List.length_append, List.length_drop]
    omega
  · rewrite [Function.update_of_ne same]
    exact Nat.le_refl _

theorem Bounded.completeOut (bounded : Bounded quarter start machine)
    (fits : packet.length ≤ quarter) :
    Bounded quarter start
      (completeOut machine index transfer status packet) := by
  refine ⟨⟨?_, bounded.within.tx, ?_⟩, bounded.received.completeOut fits, ?_,
    bounded.answer, ?_⟩
  · apply bounded.within.log.snoc
    trivial
  · intro buf place past
    have before := bounded.within.rx buf place past
    simp only [Rockusb.completeOut, dwc3RxHandler_rxBuffer]
    by_cases same : buf = transfer.buf
    · rw [same, Function.update_self,
        Memory.storeList_outside (.inr (by omega)), ← same]
      exact before
    · rw [Function.update_of_ne same]
      exact before
  · exact fun transfer member =>
      bounded.posted transfer (List.mem_of_mem_eraseIdx member)
  · intro receives buf inBuf
    by_cases done : status = 0
    · subst done
      obtain rfl : transfer.buf = buf := Option.some.inj inBuf
      rw [stageBytes_completeOut, Function.update_self, List.length_append]
      exact Nat.le_add_right packet.length _
    · have same : (Rockusb.completeOut machine index transfer status
          packet).usbcmd.rxGiveback =
            { machine.usbcmd.rxGiveback with status := .recvError } := by
        simp [Rockusb.completeOut, done]
      rw [same] at inBuf ⊢
      exact Nat.le_trans (bounded.arrived receives buf inBuf)
        (length_stageBytes_completeOut buf)

end CompleteOut

theorem Bounded.busEvent {start : Machine σ} (room : 31 ≤ quarter)
    (bounded : Bounded quarter start machine) (nEvent : Int) :
    Bounded quarter start (rkusbEventHandlerForDwc3 machine nEvent) := by
  refine @busEvent_of_parts σ machine (Bounded quarter start) ?_ ?_ ?_ ?_
    bounded nEvent
  · exact fun next _ held =>
      held.of_kept (.update next _) rfl rfl (.inr rfl)
  · exact fun next held =>
      held.of_other (.update next _) (by simp) (by simp) (by simp)
  · exact fun next held => held.of_kept (.update next _) rfl rfl (.inr rfl)
  · intro next held
    have posted : Contained quarter next next.resetOut := by
      unfold Machine.resetOut
      dsimp only
      exact Contained.trans (.trans (.update next _) (.rkusbReadBulkEp room _))
        (.update _ _)
    exact held.of_kept posted rfl rfl (.inl rfl)

theorem step_bounded {start : Machine σ} {action : Action}
    (replies : BoundedReplies P quarter) (room : 128 * 528 ≤ quarter)
    (bounded : Bounded quarter start machine) (reads : ReadsRunning machine)
    (fits : VendorFits quarter machine action)
    (taken : step P machine action = some after) :
    Bounded quarter start after := by
  cases action with
  | iterate =>
      have running := step_running taken
      obtain rfl := step_iterate taken
      exact bounded.doRockusb replies room (reads running) fits
  | inDone index status actual =>
      obtain ⟨transfer, -, rfl⟩ := step_inDone taken
      refine bounded.of_kept (.of_event rfl ?_ (fun _ => rfl) rfl rfl
        (fun _ member => .inl member)) rfl rfl (.inr rfl)
      trivial
  | outDone index status packet =>
      obtain ⟨transfer, outstanding, length, rfl⟩ := step_outDone taken
      have posted := bounded.posted transfer (List.mem_of_getElem? outstanding)
      exact bounded.completeOut (Nat.le_trans length posted)
  | outDrop index =>
      obtain rfl := step_outDrop taken
      refine bounded.of_kept ⟨id, rfl, fun _ _ _ => rfl, rfl, ?_⟩ rfl rfl
        (.inr rfl)
      exact fun _ member => .inl (List.mem_of_mem_eraseIdx member)
  | bus nEvent =>
      obtain rfl := step_bus taken
      exact bounded.busEvent (by omega) nEvent

/-- In every run in which the vendor storage is accessed with lengths that fit,
every transfer, store and call stays inside a quarter of the boot buffer, and a
storage is written only with bytes of the current data stage. -/
theorem lengths_bounded (replies : BoundedReplies P quarter)
    (room : 128 * 528 ≤ quarter) {zero : GivebackStatus}
    {rx tx : Fin 2 → Memory} {platform : σ} {actions : List Action}
    (run : Run (step P) (VendorFits quarter)
      (startMachine zero rx tx platform) actions machine) :
    WithinQuarters quarter (startMachine zero rx tx platform) machine := by
  have held : Bounded quarter (startMachine zero rx tx platform) machine ∧
      ReadsRunning machine := by
    induction run with
    | nil =>
        refine ⟨⟨⟨.nil, fun _ _ _ => rfl, fun _ _ _ => rfl⟩,
          ⟨fun _ => rfl, fun _ => Nat.zero_le _⟩, by simp [startMachine], ?_,
          ?_⟩, fun _ => .of_other (by simp [startMachine,
            CmdRockusbInterface.zeroed])⟩
        · intro status
          cases status
        · rintro (status | status)
          · cases status
          · cases status
    | snoc _ fits taken held =>
        exact ⟨step_bounded replies room held.1 held.2 fits taken,
          step_readsRunning held.2 taken⟩
  exact held.1.within

instance (quarter : Nat) (machine : Machine σ) :
    ∀ action, Decidable (VendorFits quarter machine action)
  | .iterate => inferInstanceAs (Decidable (_ ∧ _))
  | .inDone .. => .isTrue trivial
  | .outDone .. => .isTrue trivial
  | .outDrop .. => .isTrue trivial
  | .bus .. => .isTrue trivial

private theorem readOnlyStorage_bounded (lock : Nat) (media : Memory) :
    BoundedReplies (readOnlyStorage lock media) quarter := by
  intro state call
  cases call with
  | storageReadLba => exact Nat.le_refl _
  | storageReadPba => exact Nat.le_refl _
  | _ => exact Nat.zero_le _

/-- The first block of the vendor storage is written with an item of
identifier 1 and the given length. -/
private def vendorWrite (length : Nat) : List Action :=
  [.bus 2, .outDone 0 0 (cbwPacket 7 512 0x15 0 0xFFF00000 1), .iterate,
    .outDone 0 0 (le16Bytes 1 ++ [0, 0] ++ le16Bytes length ++
      List.replicate 506 0), .iterate]

/-- The length of the last item written, if the last call was that. -/
private def lastItem (log : List (Event Unit)) : Option Nat :=
  (calls log).reverse.findSome? fun made =>
    match made.1 with
    | .vendorStorageWrite _ data _ => some data.length
    | _ => none

/-- An item that fills its block is written. -/
theorem lengths_bounded_item :
    ∃ machine : Machine Unit, lastItem machine.log = some 504 ∧
      WithinQuarters 67584
        (startMachine .sendInProgress (fun _ _ => 0) (fun _ _ => 0) ())
        machine := by
  have passed : (execute (step (readOnlyStorage 0 numberedMedia))
      (VendorFits 67584)
      (startMachine .sendInProgress (fun _ _ => 0) (fun _ _ => 0) ())
      (vendorWrite 504)).any
        (fun machine => decide (lastItem machine.log = some 504)) = true := by
    decide +kernel
  obtain ⟨machine, run, item⟩ := Run.exists_of_execute passed
  exact ⟨machine, of_decide_eq_true item, lengths_bounded
    (readOnlyStorage_bounded 0 numberedMedia) (by decide) run⟩

/-- A vendor item is written that does not lie inside what a buffer has
received. -/
private def overreads (log : List (Event Unit)) : Bool :=
  (List.range log.length).any fun count =>
    match log.drop count with
    | .call (.vendorStorageWrite _ data _) _ :: _ =>
        decide (0 < data.length ∧ ∀ buf,
          (stageBytes (log.take count) buf).length < 8 + data.length)
    | _ => false

private theorem LogWithin.not_overreads {log : List (Event Unit)}
    (within : LogWithin quarter log) : overreads log = false := by
  apply Bool.eq_false_iff.mpr
  intro found
  obtain ⟨count, -, test⟩ := List.any_eq_true.mp found
  split at test
  · rename_i item data size reply later shape
    obtain ⟨some, short⟩ := of_decide_eq_true test
    have split : log = log.take count ++
        .call (.vendorStorageWrite item data size) reply :: later := by
      rw [← shape, List.take_append_drop]
    obtain ⟨-, buf, -, part⟩ := (within _ _ _ split).writes (8, data) rfl
    have length : data.length ≤ _ := part.length_le
    have missing := short buf
    rw [List.length_drop] at length
    omega
  · cases test

/-- An item that is said to be as long as its block takes 8 bytes that the host
has not sent. -/
theorem not_lengths_bounded_item :
    ¬∀ (P : Platform Unit) (quarter : Nat), BoundedReplies P quarter →
      128 * 528 ≤ quarter → ∀ (actions : List Action) (machine : Machine Unit),
      Run (step P) (fun _ _ => True)
        (startMachine .sendInProgress (fun _ _ => 0) (fun _ _ => 0) ())
        actions machine →
      WithinQuarters quarter
        (startMachine .sendInProgress (fun _ _ => 0) (fun _ _ => 0) ())
        machine := by
  intro bounded
  have passed : (execute (step (readOnlyStorage 0 numberedMedia))
      (fun _ _ => True)
      (startMachine .sendInProgress (fun _ _ => 0) (fun _ _ => 0) ())
      (vendorWrite 512)).any (fun machine => overreads machine.log) = true := by
    decide +kernel
  obtain ⟨machine, run, found⟩ := Run.exists_of_execute passed
  have within := bounded _ 67584 (readOnlyStorage_bounded 0 numberedMedia)
    (by decide) _ machine run
  rw [within.log.not_overreads] at found
  cases found

end KernelDrivers.Rockusb
