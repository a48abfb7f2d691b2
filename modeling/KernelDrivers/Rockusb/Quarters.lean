import KernelDrivers.Rockusb.Rounds

/-!
# Lengths that the host controls

The boot buffer is cut into four quarters, two for each direction.  A quarter
holds the largest transfer, so what is posted, cleared, read or written stays
inside one, but for the vendor storage: it is read with the length of the
whole command, and written with a length that lies in the payload.
-/

namespace KernelDrivers.Rockusb

open KernelDrivers.Library

variable {σ : Type} {P : Platform σ} {machine after : Machine σ}
variable {quarter : Nat}

/-- Where a call that is given a length may store, as an offset into the
transmit buffer and a length. -/
def Call.fills : Call → Option (Nat × Nat)
  | .storageReadLba _ blocks => some (0, blocks * 512)
  | .storageReadPba _ blocks => some (0, blocks * 528)
  | .storageVendorSysDataLoad _ blocks => some (0, blocks * 512)
  | .vendorStorageRead _ size => some (8, size)
  | _ => none

/-- What a call writes to a storage, with its offset in the receive buffer. -/
def Call.writes : Call → Option (Nat × List UInt8)
  | .storageWriteLba _ data _ _ => some (0, data)
  | .storageWritePba _ data _ => some (0, data)
  | .storageVendorSysDataStore _ _ data => some (0, data)
  | .vendorStorageWrite _ data _ => some (8, data)
  | _ => none

/-- No call stores more bytes than it is asked for, and one that is given no
length keeps to the buffer. -/
def BoundedReplies (P : Platform σ) (quarter : Nat) : Prop :=
  ∀ state call,
    (P.reply state call).size ≤ call.fills.elim quarter Prod.snd

/-- What an event adds to the bytes received in a data stage, which begins with
a command.  A packet is stored over the head of its buffer. -/
def Event.receive (held : Fin 2 → List UInt8) :
    Event σ → Fin 2 → List UInt8
  | .command _ => fun _ => []
  | .rxDone transfer _ packet => Function.update held transfer.buf
      (packet ++ (held transfer.buf).drop packet.length)
  | _ => held

/-- The bytes received in the current data stage, for each receive buffer. -/
def stageBytes (log : List (Event σ)) : Fin 2 → List UInt8 :=
  log.foldl Event.receive fun _ => []

/-- The receive buffer that was handed out last. -/
def lastLoaded (log : List (Event σ)) : Option (Fin 2) :=
  log.foldl (fun last event =>
    match event with
    | .rxLoad buf _ => some buf
    | _ => last) none

/-- The call stays inside a buffer, and writes to a storage only what has been
received into the buffer that it was handed. -/
structure Call.Within (call : Call) (quarter : Nat)
    (earlier : List (Event σ)) : Prop where
  fills : ∀ place ∈ call.fills, place.1 + place.2 ≤ quarter
  writes : ∀ place ∈ call.writes, place.1 + place.2.length ≤ quarter ∧
    ∃ buf ∈ lastLoaded earlier,
      place.2 <+: (stageBytes earlier buf).drop place.1

/-- The lengths of an event that follows `earlier` fit. -/
def Event.Within (quarter : Nat) (earlier : List (Event σ)) :
    Event σ → Prop
  | .call made _ => made.Within quarter earlier
  | .bulkIn _ payload => payload.length ≤ quarter
  | .bulkOut _ len => len ≤ quarter
  | _ => True

def LogWithin (quarter : Nat) (log : List (Event σ)) : Prop :=
  ∀ earlier event later, log = earlier ++ event :: later →
    event.Within quarter earlier

/-- Every transfer and every call has stayed inside its quarter, and no byte
past the end of a quarter has been touched through its buffer. -/
structure WithinQuarters (quarter : Nat) (start machine : Machine σ) :
    Prop where
  log : LogWithin quarter machine.log
  tx : ∀ buf index, quarter ≤ index →
    machine.txBuffer buf index = start.txBuffer buf index
  rx : ∀ buf index, quarter ≤ index →
    machine.rxBuffer buf index = start.rxBuffer buf index

/-- The addresses from which the next call of `rkusb_handle_datatx` fills a
buffer: its own blocks unless they are there already, and those that follow
them if more than one transfer is left. -/
def CmdRockusbInterface.fillLbas (usbcmd : CmdRockusbInterface) : List Nat :=
  (if usbcmd.prereadHit then [] else [usbcmd.lba]) ++
    if rkusbBufferBlockMax * txBlockLength usbcmd.cmnd < usbcmd.txRemaining then
      [wrap32 (usbcmd.lba + rkusbBufferBlockMax)]
    else []

/-- A read that fills a buffer from the vendor storage fits a quarter. -/
def CmdRockusbInterface.VendorReadFits (quarter : Nat)
    (usbcmd : CmdRockusbInterface) : Prop :=
  usbcmd.cmnd = kFwLbaRead10 →
    (∃ lba ∈ usbcmd.fillLbas, lbaWindow lba = .vendor) →
    usbcmd.uSize ≤ quarter

instance (quarter : Nat) (usbcmd : CmdRockusbInterface) :
    Decidable (usbcmd.VendorReadFits quarter) :=
  inferInstanceAs (Decidable (_ → _))

/-- The registers of the data stage to the host that the next iteration begins
or goes on with. -/
def Machine.nextRead (machine : Machine σ) : Option CmdRockusbInterface :=
  match machine.nextCommand with
  | some cbw =>
      if cbw.isRead then
        some { machine.usbcmd with
          cbw := cbw
          cmnd := cbw.opcode
          uSize := cbw.nsectors * cbw.readBlock
          uBytes := 0
          lba := cbw.offset
          status := .txdataPrepare }
      else none
  | none =>
      if machine.usbcmd.sendsNext then some machine.usbcmd else none

/-- The item that the next iteration writes to the vendor storage ends inside
what has been received. -/
def Machine.VendorWriteFits (machine : Machine σ) : Prop :=
  machine.usbcmd.status = .rxdataPrepare ∨
      machine.usbcmd.status = .rxdata ∧
        machine.usbcmd.rxGiveback.status = .recvOk →
    machine.usbcmd.cmnd = kFwLbaWrite10 →
    lbaWindow machine.usbcmd.lba = .vendor →
    machine.usbcmd.rxGiveback.actual / 512 ≠ 0 →
    ∀ buf ∈ machine.usbcmd.rxGiveback.buf,
      8 + le16 (machine.rxBuffer buf 4) (machine.rxBuffer buf 5) ≤
        (stageBytes machine.log buf).length

instance (machine : Machine σ) : Decidable machine.VendorWriteFits :=
  inferInstanceAs (Decidable (_ → _))

/-- The vendor storage is accessed with lengths that fit. -/
def VendorFits (quarter : Nat) (machine : Machine σ) : Action → Prop
  | .iterate => (∀ usbcmd ∈ machine.nextRead,
      usbcmd.VendorReadFits quarter) ∧ machine.VendorWriteFits
  | _ => True

theorem stageBytes_snoc (log : List (Event σ)) (event : Event σ) :
    stageBytes (log ++ [event]) = event.receive (stageBytes log) := by
  simp [stageBytes]

theorem LogWithin.nil : LogWithin quarter ([] : List (Event σ)) := by
  intro earlier event later split
  simp at split

theorem LogWithin.snoc {log : List (Event σ)} {event : Event σ}
    (held : LogWithin quarter log) (fits : event.Within quarter log) :
    LogWithin quarter (log ++ [event]) := by
  intro earlier other later split
  rcases List.eq_nil_or_concat later with rfl | ⟨before, last, rfl⟩
  · obtain ⟨rfl, rfl⟩ := List.append_singleton_inj.mp split
    exact fits
  · rw [List.concat_eq_append, ← List.cons_append, ← List.append_assoc] at split
    obtain ⟨same, -⟩ := List.append_singleton_inj.mp split
    exact held earlier other before same

theorem stageBytes_append {log events : List (Event σ)}
    (silent : ∀ event ∈ events, ∀ held, event.receive held = held) :
    stageBytes (log ++ events) = stageBytes log := by
  induction events using List.reverseRecOn with
  | nil => rw [List.append_nil]
  | append_singleton events last induction =>
      rw [← List.append_assoc, stageBytes_snoc, silent last (by simp)]
      apply induction
      intro event member
      exact silent event (List.mem_append_left _ member)

theorem LogWithin.append {log events : List (Event σ)}
    (held : LogWithin quarter log)
    (fits : ∀ event ∈ events, ∀ earlier, event.Within quarter earlier) :
    LogWithin quarter (log ++ events) := by
  induction events using List.reverseRecOn with
  | nil => rwa [List.append_nil]
  | append_singleton events last induction =>
      rw [← List.append_assoc]
      refine (induction ?_).snoc (fits last (by simp) _)
      intro event member
      exact fits event (List.mem_append_left _ member)

theorem Call.within_of_none {call : Call} (fills : call.fills = none)
    (writes : call.writes = none) (earlier : List (Event σ)) :
    call.Within quarter earlier := by
  constructor
  · simp [fills]
  · simp [writes]

/-- A part of the loop stays inside the quarters and receives nothing. -/
structure Contained (quarter : Nat) (before after : Machine σ) : Prop where
  log : LogWithin quarter before.log → LogWithin quarter after.log
  stage : stageBytes after.log = stageBytes before.log
  tx : ∀ buf index, quarter ≤ index →
    after.txBuffer buf index = before.txBuffer buf index
  rx : after.rxBuffer = before.rxBuffer
  outs : ∀ transfer ∈ after.outs,
    transfer ∈ before.outs ∨ transfer.len ≤ quarter

namespace Contained

variable {before middle : Machine σ}

/-- Neither the log nor a buffer changes, and nothing is posted to receive. -/
theorem of_same (log : after.log = before.log)
    (txBuffer : after.txBuffer = before.txBuffer)
    (rxBuffer : after.rxBuffer = before.rxBuffer)
    (outs : after.outs = before.outs) : Contained quarter before after := by
  refine ⟨?_, ?_, ?_, rxBuffer, ?_⟩
  · rw [log]
    exact id
  · rw [log]
  · rw [txBuffer]
    exact fun _ _ _ => rfl
  · rw [outs]
    exact fun _ member => .inl member

theorem refl (machine : Machine σ) : Contained quarter machine machine :=
  of_same rfl rfl rfl rfl

theorem trans (first : Contained quarter before middle)
    (second : Contained quarter middle after) :
    Contained quarter before after := by
  refine ⟨fun held => second.log (first.log held),
    second.stage.trans first.stage, ?_, second.rx.trans first.rx, ?_⟩
  · intro buf index past
    rw [second.tx buf index past, first.tx buf index past]
  · intro transfer member
    rcases second.outs transfer member with old | fits
    · exact first.outs transfer old
    · exact .inr fits

theorem of_event {event : Event σ} (log : after.log = before.log ++ [event])
    (fits : event.Within quarter before.log)
    (silent : ∀ held, event.receive held = held)
    (txBuffer : after.txBuffer = before.txBuffer)
    (rxBuffer : after.rxBuffer = before.rxBuffer)
    (outs : ∀ transfer ∈ after.outs,
      transfer ∈ before.outs ∨ transfer.len ≤ quarter) :
    Contained quarter before after := by
  refine ⟨?_, ?_, ?_, rxBuffer, outs⟩
  · rw [log]
    exact fun held => held.snoc fits
  · rw [log, stageBytes_snoc, silent]
  · rw [txBuffer]
    exact fun _ _ _ => rfl

theorem note {event : Event σ} (fits : event.Within quarter machine.log)
    (silent : ∀ held, event.receive held = held) :
    Contained quarter machine (machine.note event) :=
  of_event rfl fits silent rfl rfl (fun _ member => .inl member)

theorem perform {call : Call} (fits : call.Within quarter machine.log) :
    Contained quarter machine (machine.perform P call) :=
  of_event rfl fits (fun _ => rfl) rfl rfl (fun _ member => .inl member)

theorem loadRx (machine : Machine σ) (buf : Fin 2) :
    Contained quarter machine (machine.loadRx buf) :=
  of_event rfl trivial (fun _ => rfl) rfl rfl (fun _ member => .inl member)

theorem rkusbWriteBulkEp {nLen : Nat} (fits : nLen ≤ quarter) (buf : Fin 2) :
    Contained quarter machine (machine.rkusbWriteBulkEp nLen buf) := by
  refine of_event rfl ?_ (fun _ => rfl) rfl rfl (fun _ member => .inl member)
  simpa [Event.Within] using fits

theorem rkusbReadBulkEp {nLen : Nat} (fits : nLen ≤ quarter) (buf : Fin 2) :
    Contained quarter machine (machine.rkusbReadBulkEp nLen buf) := by
  refine of_event rfl fits (fun _ => rfl) rfl rfl ?_
  intro transfer member
  rcases List.mem_append.mp member with old | new
  · exact .inl old
  · rw [List.mem_singleton.mp new]
    exact .inr fits

theorem update (machine : Machine σ)
    (change : CmdRockusbInterface → CmdRockusbInterface) :
    Contained quarter machine (machine.update change) :=
  of_same rfl rfl rfl rfl

theorem storeTx {buf : Fin 2} {start length : Nat} {data : Memory}
    (fits : start + length ≤ quarter) :
    Contained quarter machine (machine.storeTx buf start length data) := by
  refine ⟨?_, ?_, ?_, rfl, fun _ member => .inl member⟩
  · exact fun held => held.snoc trivial
  · exact stageBytes_snoc _ _
  · intro other index past
    by_cases same : other = buf
    · subst same
      rw [Machine.storeTx_txBuffer, Function.update_self,
        Memory.store_outside (.inr (by omega))]
    · rw [Machine.storeTx_txBuffer, Function.update_of_ne same]

theorem readInto (replies : BoundedReplies P quarter) {buf : Fin 2}
    {start length : Nat} {call : Call}
    (fills : call.fills = some (start, length)) (writes : call.writes = none)
    (fits : start + length ≤ quarter) :
    Contained quarter machine (machine.readInto P buf start call) := by
  have stored := replies machine.platform call
  rw [fills] at stored
  refine (perform ⟨?_, by simp [writes]⟩).trans (storeTx ?_)
  · intro place member
    rw [fills] at member
    obtain rfl := Option.some.inj member
    exact fits
  · exact Nat.le_trans (Nat.add_le_add_left stored start) fits

/-- A call that is given no length stores from the start of the buffer on. -/
theorem readInto_free (replies : BoundedReplies P quarter) {buf : Fin 2}
    {call : Call} (fills : call.fills = none) (writes : call.writes = none) :
    Contained quarter machine (machine.readInto P buf 0 call) := by
  have stored := replies machine.platform call
  rw [fills] at stored
  refine (perform (Call.within_of_none fills writes _)).trans (storeTx ?_)
  rw [Nat.zero_add]
  exact stored

theorem of_extends {allowed : Event σ → Prop}
    (grown : Extends P allowed machine after)
    (fits : ∀ event, allowed event →
      ∀ earlier, event.Within quarter earlier)
    (silent : ∀ event, allowed event → ∀ held, event.receive held = held)
    (tx : ∀ buf index, quarter ≤ index →
      after.txBuffer buf index = machine.txBuffer buf index)
    (rx : after.rxBuffer = machine.rxBuffer)
    (outs : after.outs = machine.outs) : Contained quarter machine after := by
  obtain ⟨events, log, -, -, inside⟩ := grown
  refine ⟨?_, ?_, tx, rx, ?_⟩
  · rw [log]
    intro held
    apply held.append
    intro event member
    exact fits event (inside event member)
  · rw [log]
    apply stageBytes_append
    intro event member
    exact silent event (inside event member)
  · rw [outs]
    exact fun _ member => .inl member

end Contained

end KernelDrivers.Rockusb
