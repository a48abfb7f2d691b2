import KernelDrivers.Rockusb.Coherence

/-!
# The rounds of a data stage to the host

`rkusb_handle_datatx` goes back to its label until something has been sent.
That takes two rounds at most, unless there is nothing to send.
-/

namespace KernelDrivers.Rockusb

open KernelDrivers.Library

variable {σ : Type} {P : Platform σ} {machine after : Machine σ}

/-- The state in which the next iteration calls `rkusb_handle_datatx`. -/
def Machine.datatxCall (P : Platform σ) (machine : Machine σ) :
    Option (Machine σ) :=
  let idled := handleIdle P machine
  if idled.control = .running ∧ idled.usbcmd.sendsNext then some idled
  else none

/-- A call of the handler divides by a block length that is not zero, and it
returns after `bound` rounds at most. -/
def DatatxReturns (P : Platform σ) (bound : Nat) (machine : Machine σ) :
    Action → Prop
  | .iterate => ∀ call ∈ machine.datatxCall P,
      txBlockLength call.usbcmd.cmnd ≠ 0 ∧
        (datatxRounds P bound call).isSome = true
  | _ => True

/-- The next command, if it is a read, asks for some blocks. -/
def ReadsSome (machine : Machine σ) : Action → Prop
  | .iterate => machine.control = .running →
      ∀ cbw ∈ machine.nextCommand, cbw.isRead → 0 < cbw.nsectors
  | _ => True

/-- An iteration with such a call is the call and what follows it. -/
theorem doRockusb_datatxCall {call : Machine σ}
    (called : machine.datatxCall P = some call) :
    doRockusb P machine =
      (rkusbHandleDatatx P call).andThen fun machine =>
        endOfIteration P (handleCsw machine) := by
  unfold Machine.datatxCall at called
  dsimp only at called
  split at called
  · rename_i calls
    obtain ⟨running, status, free⟩ := calls
    obtain rfl := Option.some.inj called
    have response : rkusbHandleResponse P (handleIdle P machine) =
        rkusbHandleDatatx P (handleIdle P machine) := by
      simp only [rkusbHandleResponse, status]
      rw [if_pos free]
    rw [doRockusb, Machine.andThen, if_pos running, response]
  · cases called

/-- A data stage to the host belongs to a read that has blocks left. -/
def ReadsOn (machine : Machine σ) : Prop :=
  machine.usbcmd.status = .txdataPrepare →
    ∃ n block c, Reading n block c machine.usbcmd

/-- While the loop runs; a machine that has rebooted makes no call. -/
def ReadsRunning (machine : Machine σ) : Prop :=
  machine.control = .running → ReadsOn machine

theorem datatxRounds_mono {fuel more : Nat} (enough : fuel ≤ more)
    (ended : datatxRounds P fuel machine = some after) :
    datatxRounds P more machine = some after := by
  induction fuel generalizing machine more with
  | zero => cases ended
  | succ fuel induction =>
      obtain ⟨more, rfl⟩ :=
        Nat.exists_eq_add_of_le' (Nat.le_of_add_left_le enough)
      rw [datatxRounds_succ] at ended ⊢
      split
      · rename_i again
        rw [if_pos again] at ended
        exact induction (Nat.le_of_succ_le_succ enough) ended
      · rename_i progress
        rwa [if_neg progress] at ended

theorem datatxRounds_isSome (running : machine.control = .running)
    (returned : (rkusbHandleDatatx P machine).control = machine.control) :
    (datatxRounds P 2 machine).isSome = true := by
  cases ended : datatxRounds P 2 machine with
  | some after => rfl
  | none =>
      rw [rkusbHandleDatatx, ended, running] at returned
      cases returned

section Call

variable {n block c : Nat}

/-- What one call of the handler makes of a read. -/
structure DatatxCalled (n block : Nat) (before after : Machine σ) : Prop where
  control : after.control = before.control
  next : after.usbcmd.status = .csw ∨ ∃ c, Reading n block c after.usbcmd

theorem DatatxCalled.of_hit (reading : Reading n block c machine.usbcmd)
    (hit : machine.usbcmd.prereadHit) :
    DatatxCalled n block machine (rkusbHandleDatatx P machine) := by
  rw [rkusbHandleDatatx_hit reading hit]
  split
  · exact ⟨by simp, .inl (by simp)⟩
  · have left := reading.left
    have more := reading.sendPreread (by omega)
    have filled := preread_filled (P := P) more.isRead (show 128 ≠ 0 by decide)
    refine ⟨?_, .inr ⟨_, more.preread (by decide)⟩⟩
    rw [filled.control]
    simp

theorem Reading.planPreread (reading : Reading n block c machine.usbcmd) :
    DatatxCalled n block machine
        (planPreread P machine machine.usbcmd.txBlocks) ∧
      Reading n block c
        (planPreread P machine machine.usbcmd.txBlocks).usbcmd := by
  unfold Rockusb.planPreread
  split
  · have still : Reading n block c machine.clearPreread.usbcmd :=
      reading.congr rfl rfl rfl
    exact ⟨⟨rfl, .inr ⟨c, still⟩⟩, still⟩
  · split
    · have filled := preread_filled (P := P) reading.isRead reading.txBlocks_pos
      have still := reading.preread (P := P) reading.txBlocks_pos
      exact ⟨⟨filled.control, .inr ⟨c, still⟩⟩, still⟩
    · exact ⟨⟨rfl, .inr ⟨c, reading⟩⟩, reading⟩

/-- A read that has begun and misses goes on without sending anything. -/
theorem rkusbHandleDatatx_begun (reading : Reading n block c machine.usbcmd)
    (begun : c ≠ 0) (miss : ¬machine.usbcmd.prereadHit) :
    rkusbHandleDatatx P machine =
      planPreread P machine machine.usbcmd.txBlocks := by
  have round : datatxRound P machine =
      planPreread P machine machine.usbcmd.txBlocks := by
    rw [datatxRound, if_neg miss]
  have still := (reading.planPreread (P := P)).2
  rw [← round] at still ⊢
  have known := still.known
  have left := still.left
  have progress : (datatxRound P machine).usbcmd.uBytes ≠ 0 := by
    rw [still.uBytes]
    rcases known with rfl | rfl <;> omega
  have unequal : (datatxRound P machine).usbcmd.uSize ≠
      (datatxRound P machine).usbcmd.uBytes := by
    rw [still.uSize, still.uBytes]
    rcases known with rfl | rfl <;> omega
  rw [rkusbHandleDatatx, datatxRounds_of_progress 1 progress, Option.elim_some,
    Machine.finishDatatx, if_neg unequal]

theorem rkusbHandleDatatx_called (reading : Reading n block c machine.usbcmd) :
    DatatxCalled n block machine (rkusbHandleDatatx P machine) := by
  by_cases hit : machine.usbcmd.prereadHit
  · exact .of_hit reading hit
  · by_cases begun : c = 0
    · subst begun
      have some := reading.txBlocks_pos
      have filled := preread_filled (P := P) reading.isRead some
      have called := DatatxCalled.of_hit (P := P)
        (reading.preread (P := P) some)
        (prereadHit_preread reading (Nat.le_refl _))
      rw [rkusbHandleDatatx_miss reading hit]
      exact ⟨called.control.trans filled.control, called.next⟩
    · rw [rkusbHandleDatatx_begun reading begun hit]
      exact reading.planPreread.1

end Call

theorem status_dispatched {permitted : Call → Prop}
    (dispatched : Dispatched P permitted machine after)
    (status : after.usbcmd.status = .txdataPrepare) :
    machine.usbcmd.status = .txdataPrepare ∨ machine.usbcmd.isRead := by
  cases dispatched with
  | unknown => exact .inl status
  | answered _ csw => simp [csw] at status
  | data _ txdata => simp [txdata] at status
  | read isRead => exact .inr isRead
  | write => simp at status

theorem handleIdle_command {cbw : CbWrap}
    (command : cbw ∈ machine.nextCommand) :
    ∃ buf, CbWrap.ofBuffer (machine.rxBuffer buf) = cbw ∧
      handleIdle P machine = fwDispatch P (machine.accept buf) := by
  unfold Machine.nextCommand at command
  split at command
  · rename_i packet
    obtain ⟨buf, inBuf, shape⟩ := Option.map_eq_some_iff.mp command
    exact ⟨buf, shape, handleIdle_packet packet.1 packet.2 inBuf⟩
  · cases command

theorem handleIdle_none (none : machine.nextCommand = none) :
    handleIdle P machine = machine ∨
      handleIdle P machine =
        { machine.setStatus .cmd with control := .fault } := by
  rcases handleIdle_cases (P := P) machine with
    same | fault | ⟨buf, idle, received, inBuf, -⟩
  · exact .inl same
  · exact .inr fault
  · rw [nextCommand_packet idle received inBuf] at none
    cases none

theorem handleIdle_running
    (running : (handleIdle P machine).control = .running) :
    machine.control = .running := by
  cases command : machine.nextCommand with
  | none =>
      rcases handleIdle_none (P := P) command with same | fault
      · rwa [same] at running
      · rw [fault] at running
        cases running
  | some cbw =>
      obtain ⟨buf, -, dispatched⟩ := handleIdle_command (P := P) command
      rwa [dispatched, (fwDispatch_any _).control] at running

theorem handleIdle_read {cbw : CbWrap} (command : cbw ∈ machine.nextCommand)
    (read : cbw.isRead) :
    ∃ buf, CbWrap.ofBuffer (machine.rxBuffer buf) = cbw ∧
      handleIdle P machine = machine.readPrepared buf cbw.readBlock := by
  obtain ⟨buf, shape, dispatched⟩ := handleIdle_command (P := P) command
  refine ⟨buf, shape, ?_⟩
  rw [dispatched]
  exact fwDispatch_read read (by simp [Machine.accept, shape])

/-- A data stage to the host that follows the idle test belongs to a read with
blocks left, or the next command is a read of no blocks. -/
theorem handleIdle_reads (reads : ReadsOn machine)
    (status : (handleIdle P machine).usbcmd.status = .txdataPrepare) :
    (∃ n block c, Reading n block c (handleIdle P machine).usbcmd) ∨
      ∃ cbw ∈ machine.nextCommand, cbw.isRead ∧ cbw.nsectors = 0 := by
  cases command : machine.nextCommand with
  | none =>
      rcases handleIdle_none (P := P) command with same | fault
      · rw [same] at status ⊢
        exact .inl (reads status)
      · rw [fault] at status
        cases status
  | some cbw =>
      by_cases read : cbw.isRead
      · by_cases none : cbw.nsectors = 0
        · exact .inr ⟨cbw, rfl, read, none⟩
        · obtain ⟨buf, shape, prepared⟩ :=
            handleIdle_read (P := P) command read
          rw [prepared]
          exact .inl ⟨_, _, _,
            readPrepared_reading shape read (Nat.pos_of_ne_zero none)⟩
      · exfalso
        obtain ⟨buf, rfl, dispatched⟩ := handleIdle_command (P := P) command
        rw [dispatched] at status
        cases status_dispatched (fwDispatch_any _) status with
        | inl same => cases same
        | inr isRead => exact read isRead

theorem datatxCall_read (running : machine.control = .running) {cbw : CbWrap}
    (command : cbw ∈ machine.nextCommand) (read : cbw.isRead) :
    ∃ call, machine.datatxCall P = some call ∧
      call.usbcmd.uSize = cbw.nsectors * cbw.readBlock ∧
      call.usbcmd.uBytes = 0 := by
  obtain ⟨buf, shape, prepared⟩ := handleIdle_read (P := P) command read
  refine ⟨machine.readPrepared buf cbw.readBlock, ?_, ?_, rfl⟩
  · rw [Machine.datatxCall, prepared]
    exact if_pos ⟨running, rfl, .inl rfl⟩
  · simp [Machine.readPrepared, Machine.accept, shape]

theorem ReadsOn.of_other (other : machine.usbcmd.status ≠ .txdataPrepare) :
    ReadsOn machine :=
  fun status => absurd status other

theorem ReadsOn.handleResponse (reads : ReadsOn machine) :
    ReadsOn (rkusbHandleResponse P machine) := by
  have received : machine.usbcmd.status ≠ .txdataPrepare →
      ReadsOn (rkusbHandleDatarx P machine) := by
    intro other
    apply ReadsOn.of_other
    rw [rkusbHandleDatarx_eq]
    obtain ⟨lba, usbcmd⟩ := (Stored.writeMedia (P := P) machine.answerData
      machine.usbcmd.rxGiveback.buf (machine.usbcmd.rxGiveback.actual /
        rxBlockLength machine.usbcmd.cmnd)).usbcmd
    rw [usbcmd]
    rcases answerData_status machine with rxdata | idle | same
    · simp [rxdata]
    · simp [idle]
    · simpa [same] using other
  unfold rkusbHandleResponse
  split
  · exact .of_other (by simp)
  · rename_i status
    split
    · exact received (by simp [status])
    · exact reads
  · rename_i status
    exact received (by simp [status])
  · rename_i status
    split
    · obtain ⟨n, block, c, reading⟩ := reads status
      intro again
      cases (rkusbHandleDatatx_called (P := P) reading).next with
      | inl csw => rw [csw] at again; cases again
      | inr still => exact ⟨n, block, still⟩
    · exact reads
  · exact reads

theorem ReadsOn.handleCsw (reads : ReadsOn machine) :
    ReadsOn (handleCsw machine) := by
  unfold Rockusb.handleCsw
  split
  · rename_i csw
    rcases rkusbSendCsw_cases machine with sent | same
    · apply ReadsOn.of_other
      rw [sent.usbcmd]
      simp
    · rw [same]
      exact reads
  · exact reads

theorem ReadsOn.endOfIteration (reads : ReadsOn machine) :
    ReadsOn (endOfIteration P machine) := by
  obtain ⟨flag, usbcmd⟩ := (Checked.endOfIteration (P := P) machine).usbcmd
  unfold ReadsOn
  rw [usbcmd]
  intro status
  obtain ⟨n, block, c, reading⟩ := reads status
  exact ⟨n, block, c, reading.congr rfl rfl rfl⟩

theorem ReadsOn.doRockusb (reads : ReadsOn machine)
    (some : ∀ cbw ∈ machine.nextCommand, cbw.isRead → 0 < cbw.nsectors) :
    ReadsOn (doRockusb P machine) := by
  have idled : ReadsOn (handleIdle P machine) := by
    intro status
    cases handleIdle_reads reads status with
    | inl still => exact still
    | inr empty =>
        obtain ⟨cbw, command, read, none⟩ := empty
        have blocks := some cbw command read
        omega
  have responded := idled.handleResponse (P := P)
  unfold Rockusb.doRockusb
  exact Machine.andThen_of idled (Machine.andThen_of responded
    responded.handleCsw.endOfIteration)

/-- A call of the handler in the next iteration returns exactly if the next
command is not a read of no blocks. -/
theorem readsSome_iff_datatxReturns {bound : Nat} (two : 2 ≤ bound)
    (reads : machine.control = .running → ReadsOn machine) (action : Action) :
    ReadsSome machine action ↔ DatatxReturns P bound machine action := by
  cases action with
  | iterate =>
      constructor
      · intro some call called
        unfold Machine.datatxCall at called
        dsimp only at called
        split at called
        · rename_i calls
          obtain ⟨running, status, -⟩ := calls
          obtain rfl := Option.some.inj called
          have was := handleIdle_running running
          cases handleIdle_reads (reads was) status with
          | inl still =>
              obtain ⟨n, block, c, reading⟩ := still
              have control :=
                (rkusbHandleDatatx_called (P := P) reading).control
              obtain ⟨after, ended⟩ := Option.isSome_iff_exists.mp
                (datatxRounds_isSome running control)
              have known := reading.known
              refine ⟨?_, ?_⟩
              · rw [reading.length]
                omega
              · rw [datatxRounds_mono two ended]
                rfl
          | inr empty =>
              obtain ⟨cbw, command, read, none⟩ := empty
              have blocks := some was cbw command read
              omega
        · cases called
      · intro returns running cbw command read
        apply Nat.pos_of_ne_zero
        intro none
        obtain ⟨call, called, size, bytes⟩ :=
          datatxCall_read (P := P) running command read
        have returned := (returns call called).2
        rw [datatxRounds_empty bound (by simp [size, none]) bytes] at returned
        cases returned
  | inDone => exact Iff.rfl
  | outDone => exact Iff.rfl
  | outDrop => exact Iff.rfl
  | bus => exact Iff.rfl

theorem ReadsOn.calledBack (reads : ReadsOn machine)
    (called : CalledBack machine after) : ReadsOn after := by
  obtain ⟨status, _, _, _, _, _, kept, usbcmd⟩ := called.usbcmd
  unfold ReadsOn
  rw [usbcmd]
  intro sending
  rcases kept with same | idle
  · obtain ⟨n, block, c, reading⟩ := reads (same.symm.trans sending)
    exact ⟨n, block, c, reading.congr rfl rfl rfl⟩
  · rw [idle] at sending
    cases sending

theorem step_readsOn {action : Action} (reads : ReadsOn machine)
    (asked : ReadsSome machine action)
    (taken : step P machine action = some after) : ReadsOn after := by
  by_cases iterate : action = .iterate
  · rw [iterate] at asked taken
    obtain rfl := step_iterate taken
    exact reads.doRockusb (asked (step_running taken))
  · exact reads.calledBack (.of_step taken iterate)

/-- Along any actions, every call of `rkusb_handle_datatx` divides by a block
length that is not zero and returns after two rounds at most, exactly if no
read that is executed asks for no blocks; otherwise no number of rounds is
enough. -/
theorem datatx_returns (P : Platform σ) {bound : Nat} (two : 2 ≤ bound)
    (zero : GivebackStatus) (rx tx : Fin 2 → Memory) (platform : σ)
    (actions : List Action) :
    Along (step P) (DatatxReturns P bound) (startMachine zero rx tx platform)
        actions ↔
      Along (step P) ReadsSome (startMachine zero rx tx platform) actions := by
  have initially : ReadsRunning (startMachine zero rx tx platform) := by
    intro _
    exact .of_other (by simp [startMachine, CmdRockusbInterface.zeroed])
  symm
  refine along_congr initially ?_ ?_
  · intro machine action next reads asked taken _
    exact step_readsOn (reads (step_running taken)) asked taken
  · intro machine action reads
    exact readsSome_iff_datatxReturns two reads action

instance (machine : Machine σ) :
    ∀ action, Decidable (ReadsSome machine action)
  | .iterate => inferInstanceAs (Decidable (machine.control = .running →
      ∀ cbw ∈ machine.nextCommand, cbw.isRead → 0 < cbw.nsectors))
  | .inDone .. => .isTrue trivial
  | .outDone .. => .isTrue trivial
  | .outDrop .. => .isTrue trivial
  | .bus .. => .isTrue trivial

private def roundsStart : Machine Unit :=
  startMachine .sendInProgress (fun _ _ => 0) (fun _ _ => 0) ()

/-- A read of 129 blocks, in two chunks. -/
theorem datatx_returns_chunks :
    Along (step (readOnlyStorage 0 numberedMedia))
      (DatatxReturns (readOnlyStorage 0 numberedMedia) 2) roundsStart
      [.bus 2, .outDone 0 0 (cbwPacket 7 66048 0x14 0 5 129), .iterate,
        .inDone 0 0 65536, .iterate] :=
  (datatx_returns (readOnlyStorage 0 numberedMedia) (Nat.le_refl 2) _ _ _ _ _).mpr
    (by decide +kernel)

private def emptyRead : List Action :=
  [.bus 2, .outDone 0 0 (cbwPacket 7 0 0x14 0 5 0)]

/-- The host asks for no blocks, and no number of rounds is enough. -/
theorem not_datatx_returns_empty :
    ¬∃ bound, ∀ actions, Along (step (readOnlyStorage 0 numberedMedia))
      (DatatxReturns (readOnlyStorage 0 numberedMedia) bound) roundsStart
      actions := by
  rintro ⟨bound, returns⟩
  have passed : (execute (step (readOnlyStorage 0 numberedMedia))
      (fun _ _ => True) roundsStart emptyRead).any (fun machine =>
        decide (machine.control = .running ∧ ∃ cbw ∈ machine.nextCommand,
          cbw.isRead ∧ cbw.nsectors = 0)) = true := by
    decide +kernel
  obtain ⟨machine, run, test⟩ := Run.exists_of_execute passed
  obtain ⟨running, cbw, command, read, none⟩ := of_decide_eq_true test
  have called := returns (emptyRead ++ [.iterate]) emptyRead .iterate []
    machine rfl run
  obtain ⟨call, called', size, bytes⟩ :=
    datatxCall_read (P := readOnlyStorage 0 numberedMedia) running command read
  have returned := (called call called').2
  rw [datatxRounds_empty bound (by simp [size, none]) bytes] at returned
  cases returned

end KernelDrivers.Rockusb
