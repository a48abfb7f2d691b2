import KernelDrivers.Rockusb.Lock
import KernelDrivers.Rockusb.MediaRead
import KernelDrivers.Rockusb.WriteRun

/-!
# What an iteration keeps

Properties of the loop that do not depend on the command under way: they hold
of every phase of an iteration, and so of the iteration.
-/

namespace KernelDrivers.Rockusb

open KernelDrivers.Library

variable {σ : Type} {P : Platform σ} {machine after : Machine σ}

/-- Blocks that were read ahead have all been sent, unless a read is under
way. -/
def Spent (machine : Machine σ) : Prop :=
  machine.usbcmd.status = .txdataPrepare ∨
    machine.usbcmd.preRead.preBlocks = 0

theorem Spent.empty (spent : Spent machine)
    (other : machine.usbcmd.status ≠ .txdataPrepare) :
    machine.usbcmd.preRead.preBlocks = 0 :=
  spent.resolve_left other

theorem countData_kept (machine : Machine σ) :
    machine.countData.usbcmd.preRead = machine.usbcmd.preRead ∧
      machine.countData.usbcmd.resetFlag = machine.usbcmd.resetFlag ∧
      machine.countData.usbcmd.status = machine.usbcmd.status := by
  unfold Machine.countData
  dsimp only
  split
  · exact ⟨rfl, rfl, rfl⟩
  · exact ⟨rfl, rfl, rfl⟩

/-- The answer to a packet touches neither the cache nor the reset flag. -/
theorem answerData_kept (machine : Machine σ) :
    machine.answerData.usbcmd.preRead = machine.usbcmd.preRead ∧
      machine.answerData.usbcmd.resetFlag = machine.usbcmd.resetFlag := by
  obtain ⟨preRead, resetFlag, -⟩ := countData_kept machine
  unfold Machine.answerData
  split
  · exact ⟨preRead, resetFlag⟩
  · unfold Machine.finishData
    rcases rkusbSendCsw_cases (machine.countData.replyGood
      machine.countData.usbcmd.status) with sent | same
    · rw [sent.usbcmd]
      exact ⟨preRead, resetFlag⟩
    · rw [same]
      exact ⟨preRead, resetFlag⟩

theorem planPreread_spent {blocks : Nat}
    (ended : (planPreread P machine blocks).usbcmd.uSize =
      (planPreread P machine blocks).usbcmd.uBytes) :
    (planPreread P machine blocks).usbcmd.preRead.preBlocks = 0 := by
  unfold planPreread at ended ⊢
  by_cases all : machine.usbcmd.uSize = machine.usbcmd.uBytes
  · rw [if_pos all, Machine.clearPreread_usbcmd]
  · rw [if_neg all] at ended ⊢
    by_cases more : machine.usbcmd.uBytes = 0 ∨ blocks = rkusbBufferBlockMax
    · have registers : (preread P machine blocks).usbcmd =
          (machine.notePreread blocks).usbcmd := by
        unfold preread
        dsimp only
        split
        · rfl
        · exact readMedia_usbcmd _ _ _
      rw [if_pos more, registers, Machine.notePreread_usbcmd] at ended
      exact absurd ended all
    · rw [if_neg more] at ended
      exact absurd ended all

theorem datatxRounds_last {fuel : Nat}
    (ended : datatxRounds P fuel machine = some after) :
    ∃ before, after = datatxRound P before := by
  induction fuel generalizing machine with
  | zero => cases ended
  | succ fuel induction =>
      rw [datatxRounds] at ended
      split at ended
      · exact induction ended
      · cases ended
        exact ⟨machine, rfl⟩

theorem handleDatatx_spent (status : machine.usbcmd.status = .txdataPrepare) :
    Spent (rkusbHandleDatatx P machine) := by
  unfold rkusbHandleDatatx
  cases ended : datatxRounds P 2 machine with
  | none => exact .inl status
  | some last =>
      rw [Option.elim_some, Machine.finishDatatx]
      obtain ⟨before, shape⟩ := datatxRounds_last ended
      split
      · rename_i all
        have empty : last.usbcmd.preRead.preBlocks = 0 := by
          rw [shape, datatxRound] at all ⊢
          exact planPreread_spent all
        right
        rw [Machine.replyGood_usbcmd]
        exact empty
      · obtain ⟨_, _, _, _, _, usbcmd⟩ :=
          (Supplied.datatxRounds 2 ended).usbcmd
        left
        rw [usbcmd]
        exact status

theorem Dispatched.spent {permitted : Call → Prop}
    (dispatched : Dispatched P permitted machine after)
    (empty : machine.usbcmd.preRead.preBlocks = 0) : Spent after := by
  cases dispatched with
  | unknown => exact .inr empty
  | answered answers =>
      obtain ⟨_, _, _, _, usbcmd⟩ := answers.usbcmd
      right
      rw [usbcmd]
      exact empty
  | data answers =>
      obtain ⟨_, _, _, _, usbcmd⟩ := answers.usbcmd
      right
      rw [usbcmd]
      exact empty
  | read => exact .inl rfl
  | write =>
      right
      simp only [Machine.prepareWrite_usbcmd, Machine.update_usbcmd]
      split
      · exact empty
      · rfl

theorem handleIdle_spent (spent : Spent machine) :
    Spent (handleIdle P machine) := by
  by_cases packet : machine.usbcmd.status = .idle ∧
      0 < machine.usbcmd.rxGiveback.actual
  · obtain ⟨idle, received⟩ := packet
    have empty := spent.empty (by simp [idle])
    cases inBuf : machine.usbcmd.rxGiveback.buf with
    | none =>
        rw [handleIdle_fault idle received inBuf]
        exact .inr empty
    | some buf =>
        rw [handleIdle_packet idle received inBuf]
        exact (fwDispatch_any (machine.accept buf)).spent empty
  · rw [handleIdle, if_neg packet]
    exact spent

theorem handleDatarx_spent (empty : machine.usbcmd.preRead.preBlocks = 0) :
    Spent (rkusbHandleDatarx P machine) := by
  rw [rkusbHandleDatarx_eq]
  obtain ⟨lba, usbcmd⟩ := (Stored.writeMedia (P := P) machine.answerData
    machine.usbcmd.rxGiveback.buf (machine.usbcmd.rxGiveback.actual /
      rxBlockLength machine.usbcmd.cmnd)).usbcmd
  right
  rw [usbcmd]
  exact (congrArg Preread.preBlocks (answerData_kept machine).1).trans empty

theorem handleResponse_spent (spent : Spent machine) :
    Spent (rkusbHandleResponse P machine) := by
  unfold rkusbHandleResponse
  split
  · rename_i status
    exact .inr (spent.empty (by simp [status]))
  · rename_i status
    split
    · exact handleDatarx_spent (spent.empty (by simp [status]))
    · exact spent
  · rename_i status
    exact handleDatarx_spent (spent.empty (by simp [status]))
  · rename_i status
    split
    · exact handleDatatx_spent status
    · exact spent
  · exact spent

theorem handleCsw_spent (spent : Spent machine) :
    Spent (handleCsw machine) := by
  unfold handleCsw
  split
  · rename_i status
    have empty := spent.empty (by simp [status])
    rcases rkusbSendCsw_cases machine with sent | same
    · right
      rw [sent.usbcmd]
      exact empty
    · rw [same]
      exact spent
  · exact spent

theorem endOfIteration_spent (spent : Spent machine) :
    Spent (endOfIteration P machine) := by
  obtain ⟨flag, usbcmd⟩ := (Checked.endOfIteration (P := P) machine).usbcmd
  unfold Spent
  rw [usbcmd]
  exact spent

theorem doRockusb_spent (spent : Spent machine) :
    Spent (doRockusb P machine) :=
  @doRockusb_of_phases σ P Spent (fun _ => handleIdle_spent)
    (fun _ => handleResponse_spent) (fun _ => handleCsw_spent)
    (fun _ => endOfIteration_spent) machine spent

/-- The stages of a read and the OUT transfers in them: none before the status
wrapper, and then the one for the next command. -/
inductive ReadStage (machine : Machine σ) : Prop where
  | sending : machine.usbcmd.status = .txdataPrepare ∨
      machine.usbcmd.status = .csw → machine.outs = [] → ReadStage machine
  | answered {buf : Fin 2} : machine.usbcmd.status = .idle →
      machine.usbcmd.rxGiveback.actual = 0 → machine.outs = [⟨buf, 31⟩] →
      ReadStage machine

theorem ReadStage.waits (stage : ReadStage machine) :
    handleIdle P machine = machine := by
  cases stage with
  | sending status =>
      refine handleIdle_busy (.inl ?_)
      rcases status with data | csw
      · simp [data]
      · simp [csw]
  | answered _ empty => exact handleIdle_busy (.inr empty)

theorem ReadStage.response (stage : ReadStage machine) :
    ReadStage (rkusbHandleResponse P machine) := by
  cases stage with
  | sending status outs =>
      rcases status with data | csw
      · unfold rkusbHandleResponse
        simp only [data]
        split
        · obtain ⟨next, supplied, same | ended | hung⟩ :=
            rkusbHandleDatatx_supplied (P := P) machine
          all_goals
            obtain ⟨_, _, _, _, _, usbcmd⟩ := supplied.usbcmd
            have empty := supplied.outs.trans outs
          · rw [same]
            exact .sending (.inl (by rw [usbcmd, data])) empty
          · rw [ended]
            exact .sending (.inr rfl) empty
          · rw [hung]
            exact .sending (.inl (by
              change next.usbcmd.status = _
              rw [usbcmd, data])) empty
        · exact .sending (.inl data) outs
      · have waits : rkusbHandleResponse P machine = machine := by
          simp [rkusbHandleResponse, csw]
        rw [waits]
        exact .sending (.inr csw) outs
  | answered idle empty outs =>
      have waits : rkusbHandleResponse P machine = machine := by
        simp [rkusbHandleResponse, idle]
      rw [waits]
      exact .answered idle empty outs

theorem ReadStage.csw (stage : ReadStage machine) :
    ReadStage (handleCsw machine) := by
  unfold handleCsw
  split
  · rename_i status
    cases stage with
    | sending _ outs =>
        rcases rkusbSendCsw_cases machine with sent | same
        · refine @ReadStage.answered σ _ machine.usbcmd.rxbufNum ?_ ?_ ?_
          · rw [sent.usbcmd]
          · rw [sent.usbcmd]
          · rw [sent.outs, outs]
            rfl
        · rw [same]
          exact .sending (.inr status) outs
    | answered idle =>
        rw [idle] at status
        cases status
  · exact stage

theorem ReadStage.checks (stage : ReadStage machine) :
    ReadStage (endOfIteration P machine) := by
  have checked := Checked.endOfIteration (P := P) machine
  obtain ⟨flag, usbcmd⟩ := checked.usbcmd
  cases stage with
  | sending status outs =>
      refine .sending ?_ (checked.outs.trans outs)
      rw [usbcmd]
      exact status
  | answered idle empty outs =>
      refine .answered ?_ ?_ (checked.outs.trans outs)
      · rw [usbcmd]
        exact idle
      · rw [usbcmd]
        exact empty

theorem ReadStage.iterate (stage : ReadStage machine) :
    ReadStage (doRockusb P machine) :=
  @doRockusb_of_phases σ P ReadStage (fun _ stage => by rwa [stage.waits])
    (fun _ stage => stage.response) (fun _ stage => stage.csw)
    (fun _ stage => stage.checks) machine stage

theorem ReadStage.started {cbw : CbWrap} (read : cbw.isRead)
    (received : CommandReceived cbw machine) :
    ReadStage (handleIdle P machine) := by
  obtain ⟨buf, -, prepared⟩ := received.prepared (P := P) read
  rw [prepared]
  refine .sending (.inl ?_) ?_
  · simp [Machine.readPrepared]
  · simp [Machine.readPrepared, Machine.accept, received.outs]

/-- The IN endpoint is free, or one transfer is under way. -/
def Machine.InKnown (machine : Machine σ) : Prop :=
  machine.InBusy ∨ machine.InFree

theorem Machine.InKnown.of_same (known : machine.InKnown)
    (txGiveback : after.usbcmd.txGiveback = machine.usbcmd.txGiveback)
    (ins : after.ins = machine.ins) : after.InKnown := by
  unfold InKnown InBusy InFree at known ⊢
  rwa [txGiveback, ins]

theorem Machine.InKnown.cswSent (known : machine.InKnown)
    (ready : machine.usbcmd.txGiveback.status = .sendFinishedOk)
    (sent : CswSent machine after) : after.InKnown := by
  rcases known with ⟨busy, -⟩ | ⟨-, empty⟩
  · rw [ready] at busy
    cases busy
  · left
    refine ⟨by rw [sent.usbcmd], ⟨machine.usbcmd.txbufNum, 13⟩, ?_⟩
    rw [sent.ins, empty]
    rfl

theorem Machine.InKnown.sendCsw (known : machine.InKnown) :
    (rkusbSendCsw machine).InKnown := by
  by_cases ready : machine.usbcmd.txGiveback.status = .sendFinishedOk
  · exact known.cswSent ready (rkusbSendCsw_ready ready)
  · rwa [rkusbSendCsw_busy ready]

/-- Of the stages of a write: the IN endpoint carries at most the wrapper. -/
structure WriteStage (machine : Machine σ) : Prop where
  known : machine.InKnown
  stage : machine.usbcmd.status = .rxdata ∨
    machine.usbcmd.status = .rxdataPrepare ∨
    machine.usbcmd.status = .idle ∧ machine.usbcmd.rxGiveback.actual = 0

theorem WriteStage.waits (writing : WriteStage machine) :
    handleIdle P machine = machine := by
  rcases writing.stage with data | prepared | ⟨-, empty⟩
  · exact handleIdle_busy (.inl (by simp [data]))
  · exact handleIdle_busy (.inl (by simp [prepared]))
  · exact handleIdle_busy (.inr empty)

theorem WriteStage.answerData (known : machine.InKnown)
    (status : machine.usbcmd.status = .rxdata ∨
      machine.usbcmd.status = .rxdataPrepare) :
    WriteStage machine.answerData := by
  have counted : machine.countData.InKnown := by
    unfold Machine.countData
    dsimp only
    split
    · exact known
    · exact known
  obtain ⟨-, -, same⟩ := countData_kept machine
  unfold Machine.answerData
  split
  · exact ⟨counted, .inl rfl⟩
  · unfold Machine.finishData
    generalize machine.countData = counting at counted same
    have replied : (counting.replyGood counting.usbcmd.status).InKnown :=
      counted
    refine ⟨replied.sendCsw, ?_⟩
    rcases rkusbSendCsw_cases (counting.replyGood counting.usbcmd.status) with
      sent | busy
    · rw [sent.usbcmd]
      exact .inr (.inr ⟨rfl, rfl⟩)
    · rw [busy, Machine.replyGood_usbcmd]
      rcases status with data | prepared
      · exact .inl (same.trans data)
      · exact .inr (.inl (same.trans prepared))

theorem WriteStage.handleDatarx (known : machine.InKnown)
    (status : machine.usbcmd.status = .rxdata ∨
      machine.usbcmd.status = .rxdataPrepare) :
    WriteStage (rkusbHandleDatarx P machine) := by
  obtain ⟨answered, stage⟩ := WriteStage.answerData known status
  rw [rkusbHandleDatarx_eq]
  have stored := Stored.writeMedia (P := P) machine.answerData
    machine.usbcmd.rxGiveback.buf (machine.usbcmd.rxGiveback.actual /
      rxBlockLength machine.usbcmd.cmnd)
  obtain ⟨lba, usbcmd⟩ := stored.usbcmd
  refine ⟨answered.of_same ?_ stored.ins, ?_⟩
  · rw [usbcmd]
  · rw [usbcmd]
    exact stage

theorem WriteStage.response (writing : WriteStage machine) :
    WriteStage (rkusbHandleResponse P machine) := by
  obtain ⟨known, data | prepared | ⟨idle, empty⟩⟩ := writing
  · unfold rkusbHandleResponse
    simp only [data]
    split
    · exact .handleDatarx known (.inl data)
    · exact ⟨known, .inl data⟩
  · unfold rkusbHandleResponse
    simp only [prepared]
    exact .handleDatarx known (.inr prepared)
  · have waits : rkusbHandleResponse P machine = machine := by
      simp [rkusbHandleResponse, idle]
    rw [waits]
    exact ⟨known, .inr (.inr ⟨idle, empty⟩)⟩

theorem WriteStage.csw (writing : WriteStage machine) :
    WriteStage (handleCsw machine) := by
  rw [handleCsw_other]
  · exact writing
  · rcases writing.stage with data | prepared | ⟨idle, -⟩
    · simp [data]
    · simp [prepared]
    · simp [idle]

theorem WriteStage.checks (writing : WriteStage machine) :
    WriteStage (endOfIteration P machine) := by
  have checked := Checked.endOfIteration (P := P) machine
  obtain ⟨flag, usbcmd⟩ := checked.usbcmd
  refine ⟨writing.known.of_same ?_ checked.ins, ?_⟩
  · rw [usbcmd]
  · rw [usbcmd]
    exact writing.stage

theorem WriteStage.iterate (writing : WriteStage machine) :
    WriteStage (doRockusb P machine) :=
  @doRockusb_of_phases σ P WriteStage (fun _ writing => by rwa [writing.waits])
    (fun _ writing => writing.response) (fun _ writing => writing.csw)
    (fun _ writing => writing.checks) machine writing

/-- What the data stages of reads and writes of the media log: calls that load
or that serve a write, and no new command. -/
def Event.serves : Event σ → Prop
  | .call made _ => made.isLoad = true ∨ made.servesWrite = true
  | .command _ => False
  | _ => True

/-- Received blocks go to the media, unless the address is that of a vendor
window. -/
theorem writeMedia_serves {buf : Option (Fin 2)} {blocks : Nat}
    (window : machine.usbcmd.cmnd = kFwLbaWrite10 → blocks ≠ 0 →
      lbaWindow machine.usbcmd.lba = .media) :
    Extends P Event.serves machine (writeMedia P machine buf blocks) := by
  have loaded : ∀ (machine : Machine σ) buf,
      Extends P Event.serves machine (machine.loadRx buf) :=
    fun _ _ => ⟨[_], rfl, rfl, .of_same rfl, by simp [Event.serves]⟩
  have advanced : ∀ (machine : Machine σ) blocks,
      Extends P Event.serves machine (machine.update fun usbcmd =>
        { usbcmd with lba := wrap32 (usbcmd.lba + blocks) }) :=
    fun _ _ => .of_same rfl rfl rfl
  unfold writeMedia
  split
  · exact .refl machine
  · rename_i some
    cases buf with
    | none => exact .of_same rfl rfl rfl
    | some buf =>
        dsimp only
        split
        · have flagged : Extends P Event.serves machine
              (machine.perform P (.iSetLoaderFlag .sysLoaderErr)) :=
            .perform (.inr rfl)
          unfold writePba
          dsimp only
          split
          · exact ((flagged.trans (loaded _ buf)).trans
              (.perform (.inr rfl))).trans (advanced _ blocks)
          · exact flagged
        · split
          · rename_i write
            unfold writeLba
            simp only [window write some]
            split
            · exact ((loaded machine buf).trans
                (.perform (.inr rfl))).trans (advanced _ blocks)
            · exact .refl machine
          · exact .refl machine

/-- Blocks of a logical write have been received for the media, if any. -/
def Machine.InWindow (machine : Machine σ) : Prop :=
  machine.usbcmd.cmnd = kFwLbaWrite10 →
    512 ≤ machine.usbcmd.rxGiveback.actual →
    lbaWindow machine.usbcmd.lba = .media

theorem handleDatarx_serves (inWindow : machine.InWindow) :
    Extends P Event.serves machine (rkusbHandleDatarx P machine) ∧
      (rkusbHandleDatarx P machine).usbcmd.resetFlag =
        machine.usbcmd.resetFlag := by
  have posted := Posted.answerData (P := P) machine
  rw [rkusbHandleDatarx_eq]
  constructor
  · refine (posted.log.mono ?_).trans (writeMedia_serves ?_)
    · intro event posting
      cases event <;> trivial
    · rw [posted.cmnd, posted.lba]
      intro write some
      apply inWindow write
      rw [write] at some
      exact (Nat.div_ne_zero_iff.mp some).2
  · obtain ⟨lba, usbcmd⟩ := (Stored.writeMedia (P := P) machine.answerData
      machine.usbcmd.rxGiveback.buf (machine.usbcmd.rxGiveback.actual /
        rxBlockLength machine.usbcmd.cmnd)).usbcmd
    rw [usbcmd]
    exact (answerData_kept machine).2

theorem handleResponse_serves (inWindow : machine.InWindow) :
    Extends P Event.serves machine (rkusbHandleResponse P machine) ∧
      (rkusbHandleResponse P machine).usbcmd.resetFlag =
        machine.usbcmd.resetFlag := by
  unfold rkusbHandleResponse
  split
  · exact ⟨⟨[_], rfl, rfl, .of_same rfl, by simp [Event.serves]⟩, rfl⟩
  · split
    · exact handleDatarx_serves inWindow
    · exact ⟨.refl machine, rfl⟩
  · exact handleDatarx_serves inWindow
  · split
    · refine ⟨(rkusbHandleDatatx_extends machine).mono ?_, ?_⟩
      · intro event sending
        cases event with
        | call made reply => exact .inl sending
        | command cbw => exact sending
        | _ => trivial
      · obtain ⟨next, supplied, same | ended | hung⟩ :=
          rkusbHandleDatatx_supplied (P := P) machine
        all_goals
          obtain ⟨_, _, _, _, _, usbcmd⟩ := supplied.usbcmd
        · rw [same, usbcmd]
        · rw [ended, Machine.replyGood_usbcmd, usbcmd]
        · rw [hung, usbcmd]
    · exact ⟨.refl machine, rfl⟩
  · exact ⟨.refl machine, rfl⟩

theorem handleCsw_serves (machine : Machine σ) :
    Extends P Event.serves machine (handleCsw machine) ∧
      (handleCsw machine).usbcmd.resetFlag = machine.usbcmd.resetFlag := by
  refine ⟨(handleCsw_extends machine).mono ?_, ?_⟩
  · intro event posting
    cases event <;> trivial
  · unfold handleCsw
    split
    · rcases rkusbSendCsw_cases machine with sent | same
      · rw [sent.usbcmd]
      · rw [same]
    · rfl

/-- The data stage of a read or write of the media makes no other calls. -/
theorem doRockusb_serves (waits : handleIdle P machine = machine)
    (quiet : machine.usbcmd.Quiet) (inWindow : machine.InWindow) :
    Extends P Event.serves machine (doRockusb P machine) := by
  obtain ⟨response, flag⟩ := handleResponse_serves (P := P) inWindow
  obtain ⟨csw, flag'⟩ :=
    handleCsw_serves (P := P) (rkusbHandleResponse P machine)
  have answered := response.trans csw
  have silent : (handleCsw (rkusbHandleResponse P machine)).usbcmd.Quiet := by
    unfold CmdRockusbInterface.Quiet at quiet ⊢
    rwa [flag', flag]
  have checks : Extends P Event.serves machine
      (endOfIteration P (handleCsw (rkusbHandleResponse P machine))) := by
    unfold endOfIteration Machine.andThen
    rw [rkusbResetCheck_quiet silent]
    split
    · exact answered.trans (.perform (.inr rfl))
    · exact answered
  rw [doRockusb, waits]
  exact @Machine.andThen_of σ (Extends P Event.serves machine) _ _
    (.refl machine)
    (@Machine.andThen_of σ (Extends P Event.serves machine) _ _ response checks)

theorem doRockusb_dispatched (busy : handleIdle P (handleIdle P machine) =
    handleIdle P machine) :
    doRockusb P machine = doRockusb P (handleIdle P machine) := by
  rw [doRockusb, doRockusb, busy]

end KernelDrivers.Rockusb
