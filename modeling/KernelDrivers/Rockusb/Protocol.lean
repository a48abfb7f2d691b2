import KernelDrivers.Library.Pairing
import KernelDrivers.Rockusb.Host
import KernelDrivers.Rockusb.Reading
import KernelDrivers.Rockusb.Receiving

/-!
# Commands and statuses in pairs

Each command executed is a packet received for it, and each status answers a
command of its own.  Bus events break this when they go back to idle, or post
a transfer, without regard to what is under way.
-/

namespace KernelDrivers.Rockusb

open KernelDrivers.Library

variable {σ : Type} {P : Platform σ} {machine after : Machine σ}

def Event.isCommand : Event σ → Prop
  | .command _ => True
  | _ => False

def Event.isCsw : Event σ → Prop
  | .csw _ => True
  | _ => False

/-- A packet was received. -/
def Event.isPacket : Event σ → Prop
  | .rxDone _ status _ => status = 0
  | _ => False

/-- A packet was received by a transfer that waits for a CBW. -/
def Event.isCbwPacket : Event σ → Prop
  | .rxDone transfer status _ => status = 0 ∧ transfer.isCbw
  | _ => False

/-- The wrapper consists of the 31 bytes of the packet. -/
def Event.carries : Event σ → Event σ → Prop
  | .rxDone _ _ packet, .command cbw => packet.length = 31 ∧
      cbw = CbWrap.ofBuffer fun index => packet.getD index 0
  | _, _ => False

def Event.tagged : Event σ → Event σ → Prop
  | .command cbw, .csw answer => answer.tag = cbw.tag
  | _, _ => False

/-- A command is the last packet received, and that packet came for a CBW and
has not been a command before. -/
def commandRules : Discipline (Event σ) where
  request := Event.isCbwPacket
  response := Event.isCommand
  barrier event := event.isPacket ∨ event.isCommand
  fits _ := Event.carries
  response_barrier _ command := .inr command
  response_not_request event command packet := by
    cases event with
    | command => exact packet
    | _ => exact command

/-- A status answers the last command, which has not been answered before. -/
def statusRules : Discipline (Event σ) where
  request := Event.isCommand
  response := Event.isCsw
  barrier event := event.isCommand ∨ event.isCsw
  fits _ := Event.tagged
  response_barrier _ csw := .inr csw
  response_not_request event csw command := by
    cases event with
    | csw => exact command
    | _ => exact csw

/-- Outside the data stage of a write the host sends packets of 31 bytes. -/
def Machine.SendsCbws (machine : Machine σ) : Action → Prop
  | .outDone index status packet => status = 0 →
      machine.usbcmd.status ≠ .rxdata →
      (∀ transfer ∈ machine.outs[index]?, transfer.isCbw →
        packet.length = 31)
  | _ => True

/-- No packet is left from a command, and none but a CBW is to come. -/
def Machine.canIdle (machine : Machine σ) : Prop :=
  machine.usbcmd.status = .idle ∨
    machine.usbcmd.rxGiveback.actual = 0 ∧
      ∀ transfer ∈ machine.outs, transfer.isCbw

/-- A bus event posts a transfer when none is under way and none follows
before it completes, and it goes back to idle when `canIdle` holds. -/
def BusSound (machine : Machine σ) : Action → Prop
  | .bus nEvent =>
      (nEvent % 65536 = 2 → machine.outs = [] ∧
        (machine.usbcmd.status = .idle ∨ machine.usbcmd.status = .cmd ∨
          machine.usbcmd.status = .rxdata)) ∧
      (nEvent % 65536 = 3 → machine.canIdle) ∧
      (nEvent % 65536 = 4 →
        if nEvent / 65536 = 1 ∨ nEvent / 65536 = 0x10 then machine.outs = []
        else machine.canIdle)
  | _ => True

/-- The log is in pairs, and at most one OUT transfer is under way. -/
structure Paired (machine : Machine σ) : Prop where
  commands : Answered commandRules machine.log
  statuses : Answered statusRules machine.log
  outs : machine.outs = [] ∨ (∃ transfer, machine.outs = [transfer]) ∧
    machine.usbcmd.rxGiveback.status = .recvReady ∧
    machine.usbcmd.rxGiveback.actual = 0

/-- The command in the registers waits for its status. -/
def Machine.Executing (machine : Machine σ) : Prop :=
  ∃ before, Pending statusRules machine.log before
    (.command machine.usbcmd.cbw)

/-- A packet that has been reported is a new CBW, and it is in its buffer. -/
def Machine.Fetched (machine : Machine σ) : Prop :=
  0 < machine.usbcmd.rxGiveback.actual →
    ∃ before transfer packet,
      Pending commandRules machine.log before (.rxDone transfer 0 packet) ∧
      packet.length = 31 ∧
      ∀ buf, machine.usbcmd.rxGiveback.buf = some buf →
        ∀ index < 31, machine.rxBuffer buf index = packet.getD index 0

/-- What waits for an answer at each stage of a command. -/
def Matched (machine : Machine σ) : Prop :=
  match machine.usbcmd.status with
  | .idle => machine.Fetched ∧ ∀ transfer ∈ machine.outs, transfer.isCbw
  | .cmd => True
  | .rxdata => machine.Executing
  | _ => machine.Executing ∧ machine.outs = []

/-- Nothing that separates requests from responses. -/
def Event.isAside : Event σ → Prop
  | .rxDone _ status _ => status ≠ 0
  | .command _ => False
  | .csw _ => False
  | _ => True

theorem Event.isAside.command {event : Event σ} (aside : event.isAside) :
    ¬(event.isPacket ∨ event.isCommand) := by
  rintro (packet | command)
  · cases event with
    | rxDone => exact aside packet
    | _ => exact packet
  · cases event with
    | command => exact aside
    | _ => exact command

theorem Event.isAside.status {event : Event σ} (aside : event.isAside) :
    ¬(event.isCommand ∨ event.isCsw) := by
  rintro (command | csw)
  · cases event with
    | command => exact aside
    | _ => exact command
  · cases event with
    | csw => exact aside
    | _ => exact csw

/-- The pairs are left alone: no command, no status, no packet. -/
structure Aside (before after : Machine σ) : Prop where
  cbw : after.usbcmd.cbw = before.usbcmd.cbw
  rxGiveback : after.usbcmd.rxGiveback = before.usbcmd.rxGiveback
  rxBuffer : after.rxBuffer = before.rxBuffer
  outs : after.outs = before.outs
  log : ∃ events, after.log = before.log ++ events ∧
    ∀ event ∈ events, event.isAside

namespace Aside

variable {before middle : Machine σ}

theorem of_same (cbw : after.usbcmd.cbw = before.usbcmd.cbw)
    (rxGiveback : after.usbcmd.rxGiveback = before.usbcmd.rxGiveback)
    (rxBuffer : after.rxBuffer = before.rxBuffer)
    (outs : after.outs = before.outs) (log : after.log = before.log) :
    Aside before after :=
  ⟨cbw, rxGiveback, rxBuffer, outs, [], by simp [log], by simp⟩

theorem trans (first : Aside before middle)
    (second : Aside middle after) : Aside before after := by
  obtain ⟨events, log, inside⟩ := first.log
  obtain ⟨events', log', inside'⟩ := second.log
  refine ⟨second.cbw.trans first.cbw, second.rxGiveback.trans first.rxGiveback,
    second.rxBuffer.trans first.rxBuffer, second.outs.trans first.outs,
    events ++ events', by rw [log', log, List.append_assoc], ?_⟩
  exact List.forall_mem_append.mpr ⟨inside, inside'⟩

theorem paired (aside : Aside before after) (paired : Paired before) :
    Paired after := by
  obtain ⟨events, log, inside⟩ := aside.log
  refine ⟨?_, ?_, ?_⟩
  · rw [log]
    exact paired.commands.append_silent fun event member command =>
      (inside event member).command (.inr command)
  · rw [log]
    exact paired.statuses.append_silent fun event member csw =>
      (inside event member).status (.inr csw)
  · rw [aside.outs, aside.rxGiveback]
    exact paired.outs

theorem executing (aside : Aside before after)
    (executing : before.Executing) : after.Executing := by
  obtain ⟨events, log, inside⟩ := aside.log
  obtain ⟨earlier, pending⟩ := executing
  refine ⟨earlier, ?_⟩
  rw [log, aside.cbw]
  exact pending.append fun event member => (inside event member).status

theorem fetched (aside : Aside before after) (fetched : before.Fetched) :
    after.Fetched := by
  obtain ⟨events, log, inside⟩ := aside.log
  rw [Machine.Fetched, aside.rxGiveback, aside.rxBuffer]
  intro some
  obtain ⟨earlier, transfer, packet, pending, rest⟩ := fetched some
  refine ⟨earlier, transfer, packet, ?_, rest⟩
  rw [log]
  exact pending.append fun event member => (inside event member).command

theorem matched (aside : Aside before after)
    (status : after.usbcmd.status = before.usbcmd.status)
    (matched : Matched before) : Matched after := by
  unfold Matched at matched ⊢
  rw [status, aside.outs]
  split at matched
  · exact ⟨aside.fetched matched.1, matched.2⟩
  · trivial
  · exact aside.executing matched
  · exact ⟨aside.executing matched.1, matched.2⟩

theorem of_answers {permitted : Call → Prop}
    (answers : Answers P permitted before after) : Aside before after := by
  obtain ⟨size, csw, flag, status, usbcmd⟩ := answers.usbcmd
  refine ⟨by rw [usbcmd], by rw [usbcmd], answers.rxBuffer, answers.outs, ?_⟩
  refine answers.extends.grown ?_
  intro event fill
  cases event <;> trivial

theorem of_stored {buf : Option (Fin 2)} (stored : Stored P buf before after) :
    Aside before after := by
  obtain ⟨lba, usbcmd⟩ := stored.usbcmd
  refine ⟨by rw [usbcmd], by rw [usbcmd], stored.rxBuffer, stored.outs, ?_⟩
  refine stored.log.grown ?_
  rintro event (⟨call, reply, rfl⟩ | ⟨loaded, -, rfl⟩)
  · trivial
  · trivial

theorem of_checked (checked : Checked P before after) :
    Aside before after := by
  obtain ⟨flag, usbcmd⟩ := checked.usbcmd
  refine ⟨by rw [usbcmd], by rw [usbcmd], checked.rxBuffer, checked.outs, ?_⟩
  refine checked.log.grown ?_
  rintro event ⟨call, reply, rfl, -⟩
  trivial

end Aside

theorem Paired.free_outs (paired : Paired machine)
    (received : machine.usbcmd.rxGiveback.status ≠ .recvReady ∨
      0 < machine.usbcmd.rxGiveback.actual) :
    machine.outs = [] := by
  refine paired.outs.resolve_right ?_
  intro busy
  cases received with
  | inl other => exact other busy.2.1
  | inr some => omega

theorem accept_paired (paired : Paired machine) (fetched : machine.Fetched)
    (received : 0 < machine.usbcmd.rxGiveback.actual) {buf : Fin 2}
    (inBuf : machine.usbcmd.rxGiveback.buf = some buf) :
    Paired (machine.accept buf) ∧ (machine.accept buf).Executing := by
  obtain ⟨before, transfer, packet, pending, size, stored⟩ := fetched received
  have command : CbWrap.ofBuffer (machine.rxBuffer buf) =
      CbWrap.ofBuffer fun index => packet.getD index 0 :=
    CbWrap.ofBuffer_congr (stored buf inBuf)
  have grown : (machine.accept buf).log =
      (machine.log ++ [.rxLoad buf (machine.outs.map Transfer.buf)]) ++
        [.command (CbWrap.ofBuffer (machine.rxBuffer buf))] := rfl
  refine ⟨⟨?_, ?_, paired.outs⟩, ?_⟩
  · rw [grown]
    refine (paired.commands.append_silent ?_).snoc ?_
    · simp [commandRules, Event.isCommand]
    · intro _
      refine ⟨before, _, pending.append ?_, size, command⟩
      simp [commandRules, Event.isCommand, Event.isPacket]
  · rw [grown, List.append_assoc]
    refine paired.statuses.append_silent ?_
    simp [statusRules, Event.isCsw]
  · refine ⟨machine.log ++ [.rxLoad buf (machine.outs.map Transfer.buf)], ?_⟩
    rw [grown]
    exact Pending.open trivial

theorem Paired.dispatched (paired : Paired machine)
    (executing : machine.Executing) (outs : machine.outs = [])
    (status : machine.usbcmd.status = .cmd)
    (dispatched : Dispatched P (fun _ => True) machine after) :
    Paired after ∧ Matched after := by
  cases dispatched with
  | unknown => exact ⟨paired, by simp only [Matched, status]⟩
  | answered answers csw =>
      have aside := Aside.of_answers answers
      refine ⟨aside.paired paired, ?_⟩
      simp only [Matched, csw]
      exact ⟨aside.executing executing, answers.outs.trans outs⟩
  | data answers txdata =>
      have aside := Aside.of_answers answers
      refine ⟨aside.paired paired, ?_⟩
      simp only [Matched, txdata]
      exact ⟨aside.executing executing, answers.outs.trans outs⟩
  | read =>
      exact ⟨⟨paired.commands, paired.statuses, paired.outs⟩, executing, outs⟩
  | write =>
      exact ⟨⟨paired.commands, paired.statuses, .inl outs⟩, executing, outs⟩

theorem handleIdle_paired (paired : Paired machine)
    (matched : Matched machine) :
    Paired (handleIdle P machine) ∧ Matched (handleIdle P machine) := by
  rcases handleIdle_cases (P := P) machine with
    same | fault | ⟨buf, idle, received, inBuf, dispatch⟩
  · rw [same]
    exact ⟨paired, matched⟩
  · rw [fault]
    exact ⟨⟨paired.commands, paired.statuses, paired.outs⟩, trivial⟩
  · have outs := paired.free_outs (.inr received)
    have fetched : machine.Fetched := by
      unfold Matched at matched
      rw [idle] at matched
      exact matched.1
    obtain ⟨accepted, executing⟩ := accept_paired paired fetched received inBuf
    rw [dispatch]
    exact accepted.dispatched executing outs rfl (fwDispatch_any _)

theorem rkusbSendCsw_paired (paired : Paired machine)
    (matched : Matched machine) (executing : machine.Executing)
    (outs : machine.outs = []) :
    Paired (rkusbSendCsw machine) ∧ Matched (rkusbSendCsw machine) := by
  by_cases ready : machine.usbcmd.txGiveback.status = .sendFinishedOk
  · have sent := rkusbSendCsw_ready ready
    have posted : (rkusbSendCsw machine).outs =
        [⟨machine.usbcmd.rxbufNum, 31⟩] := by
      rw [sent.outs, outs, List.nil_append]
    refine ⟨⟨?_, ?_, .inr ⟨⟨_, posted⟩, ?_, ?_⟩⟩, ?_⟩
    · rw [sent.log]
      refine paired.commands.append_silent ?_
      simp [commandRules, Event.isCommand]
    · obtain ⟨before, pending⟩ := executing
      rw [sent.log, List.append_cons, List.append_cons _ (Event.csw _)]
      refine (Answered.snoc ?_ ?_).append_silent ?_
      · refine paired.statuses.append_silent ?_
        simp [statusRules, Event.isCsw]
      · intro _
        refine ⟨before, _, pending.append ?_, rfl⟩
        simp [statusRules, Event.isCommand, Event.isCsw]
      · simp [statusRules, Event.isCsw]
    · rw [sent.usbcmd]
    · rw [sent.usbcmd]
    · unfold Matched
      rw [sent.usbcmd, posted]
      refine ⟨?_, by simp [Transfer.isCbw]⟩
      intro some
      simp [sent.usbcmd] at some
  · rw [rkusbSendCsw_busy ready]
    exact ⟨paired, matched⟩

theorem handleCsw_paired (paired : Paired machine)
    (matched : Matched machine) :
    Paired (handleCsw machine) ∧ Matched (handleCsw machine) := by
  unfold handleCsw
  split
  · rename_i status
    have stage := matched
    simp only [Matched, status] at stage
    exact rkusbSendCsw_paired paired matched stage.1 stage.2
  · exact ⟨paired, matched⟩

theorem Paired.posted {buf : Fin 2} {len : Nat} (paired : Paired machine)
    (none : machine.outs = [])
    (log : after.log = machine.log ++ [.bulkOut buf len])
    (outs : after.outs = machine.outs ++ [⟨buf, len⟩])
    (giveback : after.usbcmd.rxGiveback = ⟨.recvReady, 0, Option.none⟩) :
    Paired after := by
  rw [none, List.nil_append] at outs
  refine ⟨?_, ?_, .inr ⟨⟨_, outs⟩, by rw [giveback], by rw [giveback]⟩⟩
  · rw [log]
    refine paired.commands.append_silent ?_
    simp [commandRules, Event.isCommand]
  · rw [log]
    refine paired.statuses.append_silent ?_
    simp [statusRules, Event.isCsw]

theorem Machine.Executing.posted {buf : Fin 2} {len : Nat}
    (executing : machine.Executing)
    (log : after.log = machine.log ++ [.bulkOut buf len])
    (cbw : after.usbcmd.cbw = machine.usbcmd.cbw) : after.Executing := by
  obtain ⟨before, pending⟩ := executing
  refine ⟨before, ?_⟩
  rw [log, cbw]
  refine pending.append ?_
  simp [statusRules, Event.isCommand, Event.isCsw]

theorem requestData_paired (paired : Paired machine)
    (executing : machine.Executing) (outs : machine.outs = []) :
    Paired machine.requestData ∧ Matched machine.requestData :=
  ⟨paired.posted outs rfl rfl rfl, executing.posted rfl rfl⟩

theorem rkusbHandleDatarx_paired (paired : Paired machine)
    (executing : machine.Executing) (outs : machine.outs = [])
    (status : machine.usbcmd.status = .rxdata ∨
      machine.usbcmd.status = .rxdataPrepare) :
    Paired (rkusbHandleDatarx P machine) ∧
      Matched (rkusbHandleDatarx P machine) := by
  have receiving : ∀ {next : Machine σ}, Aside machine next →
      next.usbcmd.status = machine.usbcmd.status → Matched next := by
    intro next aside same
    unfold Matched
    rw [same]
    cases status with
    | inl rxdata => rw [rxdata]; exact aside.executing executing
    | inr prepare =>
        rw [prepare]
        exact ⟨aside.executing executing, aside.outs.trans outs⟩
  have counted : Aside machine machine.countData ∧
      machine.countData.usbcmd.status = machine.usbcmd.status := by
    unfold Machine.countData
    dsimp only
    split
    · exact ⟨.of_same rfl rfl rfl rfl rfl, rfl⟩
    · exact ⟨.of_same rfl rfl rfl rfl rfl, rfl⟩
  have answered : Paired machine.answerData ∧ Matched machine.answerData := by
    obtain ⟨aside, same⟩ := counted
    unfold Machine.answerData
    split
    · exact requestData_paired (aside.paired paired)
        (aside.executing executing) (aside.outs.trans outs)
    · have replied : Aside machine
          (machine.countData.replyGood machine.countData.usbcmd.status) :=
        aside.trans (.of_same rfl rfl rfl rfl rfl)
      exact rkusbSendCsw_paired (replied.paired paired)
        (receiving replied same) (replied.executing executing)
        (replied.outs.trans outs)
  have stored := Stored.writeMedia (P := P) machine.answerData
    machine.usbcmd.rxGiveback.buf
    (machine.usbcmd.rxGiveback.actual / rxBlockLength machine.usbcmd.cmnd)
  have aside := Aside.of_stored stored
  obtain ⟨lba, usbcmd⟩ := stored.usbcmd
  rw [rkusbHandleDatarx_eq]
  exact ⟨aside.paired answered.1,
    aside.matched (by rw [usbcmd]) answered.2⟩

theorem rkusbHandleDatatx_paired (paired : Paired machine)
    (executing : machine.Executing) (outs : machine.outs = [])
    (status : machine.usbcmd.status = .txdataPrepare) :
    Paired (rkusbHandleDatatx P machine) ∧
      Matched (rkusbHandleDatatx P machine) := by
  obtain ⟨next, supplied, result⟩ :=
    rkusbHandleDatatx_supplied (P := P) machine
  obtain ⟨_, _, _, _, _, usbcmd⟩ := supplied.usbcmd
  have aside : Aside machine next := by
    refine ⟨by rw [usbcmd], by rw [usbcmd], supplied.rxBuffer,
      supplied.outs, supplied.log.grown ?_⟩
    intro event sending
    cases event <;> trivial
  have same : next.usbcmd.status = .txdataPrepare := by rw [usbcmd, status]
  have still := aside.paired paired
  have stage := And.intro (aside.executing executing) (aside.outs.trans outs)
  obtain result | result | result := result
  · rw [result]
    exact ⟨still, by simpa only [Matched, same] using stage⟩
  · rw [result]
    exact ⟨⟨still.commands, still.statuses, still.outs⟩, stage⟩
  · rw [result]
    refine ⟨⟨still.commands, still.statuses, still.outs⟩, ?_⟩
    simp only [Matched, same]
    exact stage

theorem rkusbHandleResponse_paired (paired : Paired machine)
    (matched : Matched machine) :
    Paired (rkusbHandleResponse P machine) ∧
      Matched (rkusbHandleResponse P machine) := by
  have unchanged := And.intro paired matched
  unfold Matched at matched
  unfold rkusbHandleResponse
  split
  · rename_i status
    rw [status] at matched
    have aside : Aside machine ((machine.rkusbWriteBulkEp
        machine.usbcmd.transferSize machine.usbcmd.txbufNum).flipTx.replyGood
          .csw) :=
      ⟨rfl, rfl, rfl, rfl, [_], rfl, by simp [Event.isAside]⟩
    exact ⟨aside.paired paired, aside.executing matched.1, matched.2⟩
  · rename_i status
    rw [status] at matched
    split
    · rename_i received
      exact rkusbHandleDatarx_paired paired matched
        (paired.free_outs (.inl (by simp [received]))) (.inl status)
    · exact unchanged
  · rename_i status
    rw [status] at matched
    exact rkusbHandleDatarx_paired paired matched.1 matched.2 (.inr status)
  · rename_i status
    rw [status] at matched
    split
    · exact rkusbHandleDatatx_paired paired matched.1 matched.2 status
    · exact unchanged
  · exact unchanged

theorem doRockusb_paired (paired : Paired machine)
    (matched : Matched machine) :
    Paired (doRockusb P machine) ∧ Matched (doRockusb P machine) := by
  refine @doRockusb_of_phases σ P
    (fun machine => Paired machine ∧ Matched machine) ?_ ?_ ?_ ?_ _
    ⟨paired, matched⟩
  · exact fun machine held => handleIdle_paired held.1 held.2
  · exact fun machine held => rkusbHandleResponse_paired held.1 held.2
  · exact fun machine held => handleCsw_paired held.1 held.2
  · intro machine held
    have checked := Checked.endOfIteration (P := P) machine
    obtain ⟨flag, usbcmd⟩ := checked.usbcmd
    have aside := Aside.of_checked checked
    exact ⟨aside.paired held.1, aside.matched (by rw [usbcmd]) held.2⟩

theorem Paired.completes {index : Nat} {transfer : Transfer}
    (paired : Paired machine)
    (outstanding : machine.outs[index]? = some transfer) :
    machine.outs = [transfer] ∧ machine.outs.eraseIdx index = [] := by
  cases paired.outs with
  | inl empty => simp [empty] at outstanding
  | inr busy =>
      obtain ⟨⟨only, posted⟩, -⟩ := busy
      obtain ⟨rfl, emptied⟩ := only_transfer posted outstanding
      exact ⟨posted, emptied⟩

theorem completeIn_paired {index actual : Nat} {transfer : Transfer}
    {status : Int} (paired : Paired machine) (matched : Matched machine) :
    Paired (completeIn machine index transfer status actual) ∧
      Matched (completeIn machine index transfer status actual) := by
  have aside : Aside machine
      (completeIn machine index transfer status actual) :=
    ⟨rfl, rfl, rfl, rfl, [_], rfl, by simp [Event.isAside]⟩
  exact ⟨aside.paired paired, aside.matched rfl matched⟩

theorem completeOut_paired {index : Nat} {transfer : Transfer}
    {status : Int} {packet : List UInt8} (paired : Paired machine)
    (matched : Matched machine)
    (outstanding : machine.outs[index]? = some transfer)
    (sends : machine.SendsCbws (.outDone index status packet)) :
    Paired (completeOut machine index transfer status packet) ∧
      Matched (completeOut machine index transfer status packet) := by
  obtain ⟨only, emptied⟩ := paired.completes outstanding
  have grown : (completeOut machine index transfer status packet).log =
      machine.log ++ [.rxDone transfer status packet] := rfl
  have outs : (completeOut machine index transfer status packet).outs = [] :=
    emptied
  constructor
  · refine ⟨?_, ?_, .inl outs⟩
    · rw [grown]
      refine paired.commands.append_silent ?_
      simp [commandRules, Event.isCommand]
    · rw [grown]
      refine paired.statuses.append_silent ?_
      simp [statusRules, Event.isCsw]
  · have executing : machine.Executing →
        (completeOut machine index transfer status packet).Executing := by
      rintro ⟨before, pending⟩
      refine ⟨before, ?_⟩
      rw [grown]
      refine pending.append ?_
      simp [statusRules, Event.isCommand, Event.isCsw]
    have stage : (completeOut machine index transfer status packet).usbcmd.status =
        machine.usbcmd.status := rfl
    unfold Matched at matched ⊢
    rw [stage, outs]
    split at matched
    · rename_i idle
      refine ⟨?_, by simp⟩
      have isCbw : transfer.isCbw :=
        matched.2 transfer (by rw [only]; exact List.mem_singleton_self _)
      by_cases ok : status = 0
      · subst ok
        have size : packet.length = 31 :=
          sends rfl (by simp [idle]) transfer outstanding isCbw
        intro _
        refine ⟨machine.log, transfer, packet, ?_, size, ?_⟩
        · rw [grown]
          exact Pending.open ⟨rfl, isCbw⟩
        · intro buf inBuf position bound
          cases inBuf
          have inside : position < packet.length := by omega
          have read := @Memory.storeList_inside (machine.rxBuffer transfer.buf)
            0 packet position inside
          rw [Nat.zero_add] at read
          simpa [completeOut, List.getD, inside] using read
      · intro some
        have left : machine.usbcmd.rxGiveback.actual = 0 :=
          (paired.outs.resolve_left (by simp [only])).2.2
        simp [completeOut, ok, left] at some
    · trivial
    · exact executing matched
    · exact ⟨executing matched.1, rfl⟩

theorem outDrop_paired {index : Nat} (paired : Paired machine)
    (matched : Matched machine) :
    Paired { machine with outs := machine.outs.eraseIdx index } ∧
      Matched { machine with outs := machine.outs.eraseIdx index } := by
  constructor
  · refine ⟨paired.commands, paired.statuses, ?_⟩
    obtain empty | ⟨⟨transfer, posted⟩, ready⟩ := paired.outs
    · exact .inl (by simp [empty])
    · cases index with
      | zero => exact .inl (by simp [posted])
      | succ index => exact .inr ⟨⟨transfer, by simp [posted]⟩, ready⟩
  · unfold Matched at matched ⊢
    dsimp only
    split at matched
    · exact ⟨matched.1, fun transfer member =>
        matched.2 transfer (List.mem_of_mem_eraseIdx member)⟩
    · trivial
    · exact matched
    · exact ⟨matched.1, by simp [matched.2]⟩

theorem canIdle_paired (paired : Paired machine) (matched : Matched machine)
    (sound : machine.canIdle) :
    Paired (machine.setStatus .idle) ∧ Matched (machine.setStatus .idle) := by
  refine ⟨⟨paired.commands, paired.statuses, paired.outs⟩, ?_⟩
  cases sound with
  | inl idle =>
      unfold Matched at matched
      rw [idle] at matched
      exact matched
  | inr clean =>
      refine ⟨?_, clean.2⟩
      intro some
      exact absurd clean.1 (Nat.ne_of_gt some)

theorem resetOut_paired (paired : Paired machine) (outs : machine.outs = [])
    (stage : machine.usbcmd.status = .idle ∨ machine.usbcmd.status = .cmd ∨
      machine.usbcmd.status = .rxdata ∧ machine.Executing) :
    Paired machine.resetOut ∧ Matched machine.resetOut := by
  have status : machine.resetOut.usbcmd.status = machine.usbcmd.status := rfl
  have posted : machine.resetOut.outs = machine.outs ++ [⟨0, 31⟩] := rfl
  refine ⟨paired.posted outs rfl posted rfl, ?_⟩
  unfold Matched
  rw [status]
  obtain idle | cmd | ⟨rxdata, executing⟩ := stage
  · rw [idle, posted, outs]
    refine ⟨?_, by simp [Transfer.isCbw]⟩
    intro some
    exact absurd some (Nat.lt_irrefl 0)
  · rw [cmd]
    trivial
  · rw [rxdata]
    exact executing.posted rfl rfl

theorem busEvent_paired {nEvent : Int} (paired : Paired machine)
    (matched : Matched machine) (sound : BusSound machine (.bus nEvent)) :
    Paired (rkusbEventHandlerForDwc3 machine nEvent) ∧
      Matched (rkusbEventHandlerForDwc3 machine nEvent) := by
  obtain ⟨configured, address, clearFeature⟩ := sound
  have idle : Paired (machine.setStatus .idle) :=
    ⟨paired.commands, paired.statuses, paired.outs⟩
  unfold rkusbEventHandlerForDwc3
  dsimp only
  split
  · have aside : Aside machine (machine.update fun usbcmd =>
        { usbcmd with configured := 0 }) := .of_same rfl rfl rfl rfl rfl
    exact ⟨aside.paired paired, aside.matched rfl matched⟩
  · split
    · rename_i event
      obtain ⟨outs, stage⟩ := configured event
      have aside : Aside machine (machine.update fun usbcmd =>
          { usbcmd with configured := 1 }).resetIn :=
        .of_same rfl rfl rfl rfl rfl
      refine resetOut_paired (aside.paired paired) outs ?_
      obtain idle | cmd | rxdata := stage
      · exact .inl idle
      · exact .inr (.inl cmd)
      · have same : (machine.update fun usbcmd =>
            { usbcmd with configured := 1 }).resetIn.usbcmd.status = .rxdata :=
          rxdata
        simp only [Matched, rxdata] at matched
        exact .inr (.inr ⟨same, aside.executing matched⟩)
    · split
      · rename_i event
        exact canIdle_paired paired matched (address event)
      · split
        · rename_i event
          have sound := clearFeature event
          by_cases both : nEvent / 65536 = 0x10
          · rw [if_pos (.inr both)] at sound
            rw [if_pos both, if_neg (by omega), if_neg (by omega)]
            have aside : Aside (machine.setStatus .idle)
                (machine.setStatus .idle).resetIn :=
              .of_same rfl rfl rfl rfl rfl
            exact resetOut_paired (aside.paired idle) sound (.inl rfl)
          · rw [if_neg both]
            by_cases out : nEvent / 65536 = 1
            · rw [if_pos (.inl out)] at sound
              rw [if_pos out, if_neg (by omega)]
              exact resetOut_paired idle sound (.inl rfl)
            · rw [if_neg (by omega)] at sound
              rw [if_neg out]
              obtain ⟨still, stage⟩ := canIdle_paired paired matched sound
              split
              · have aside : Aside (machine.setStatus .idle)
                    (machine.setStatus .idle).resetIn :=
                  .of_same rfl rfl rfl rfl rfl
                exact ⟨aside.paired still, aside.matched rfl stage⟩
              · exact ⟨still, stage⟩
        · exact ⟨paired, matched⟩

theorem step_paired {action : Action} (paired : Paired machine)
    (matched : Matched machine) (sends : machine.SendsCbws action)
    (sound : BusSound machine action)
    (taken : step P machine action = some after) :
    Paired after ∧ Matched after := by
  cases action with
  | iterate =>
      obtain rfl := step_iterate taken
      exact doRockusb_paired paired matched
  | inDone index status actual =>
      obtain ⟨transfer, -, rfl⟩ := step_inDone taken
      exact completeIn_paired paired matched
  | outDone index status packet =>
      obtain ⟨transfer, outstanding, -, rfl⟩ := step_outDone taken
      exact completeOut_paired paired matched outstanding sends
  | outDrop index =>
      obtain rfl := step_outDrop taken
      exact outDrop_paired paired matched
  | bus nEvent =>
      obtain rfl := step_bus taken
      exact busEvent_paired paired matched sound

/-- In a run of sound bus events every command executed is a new CBW, and
every status answers a command of its own with its tag. -/
theorem protocol_paired {zero : GivebackStatus} {rx tx : Fin 2 → Memory}
    {platform : σ} {actions : List Action}
    (run : Run (step P) (fun machine action =>
        machine.SendsCbws action ∧ BusSound machine action)
      (startMachine zero rx tx platform) actions machine) :
    Answered commandRules machine.log ∧ Answered statusRules machine.log := by
  have held : Paired machine ∧ Matched machine := by
    induction run with
    | nil =>
        refine ⟨⟨.nil, .nil, .inl rfl⟩, ?_, by simp [startMachine]⟩
        intro some
        exact absurd some (Nat.lt_irrefl 0)
    | snoc _ allowed taken held =>
        exact step_paired held.1 held.2 allowed.1 allowed.2 taken
  exact ⟨held.1.commands, held.1.statuses⟩

instance (machine : Machine σ) :
    ∀ action, Decidable (machine.SendsCbws action)
  | .outDone index status packet => inferInstanceAs (Decidable (status = 0 →
      machine.usbcmd.status ≠ .rxdata →
        (∀ transfer ∈ machine.outs[index]?, transfer.isCbw →
          packet.length = 31)))
  | .iterate => .isTrue trivial
  | .inDone .. => .isTrue trivial
  | .outDrop .. => .isTrue trivial
  | .bus .. => .isTrue trivial

instance (machine : Machine σ) : Decidable machine.canIdle :=
  inferInstanceAs (Decidable (_ ∨ _))

instance (machine : Machine σ) :
    ∀ action, Decidable (BusSound machine action)
  | .bus _ => inferInstanceAs (Decidable (_ ∧ _ ∧ _))
  | .iterate => .isTrue trivial
  | .inDone .. => .isTrue trivial
  | .outDone .. => .isTrue trivial
  | .outDrop .. => .isTrue trivial

private def identify : List Action :=
  [.bus 2, .outDone 0 0 (cbwPacket 7 5 0x01 0 0 0), .iterate]

private def identifyStart : Machine Unit :=
  startMachine .sendInProgress (fun _ _ => 0) (fun _ _ => 0) ()

/-- An identification up to its status, and an event after it. -/
theorem protocol_paired_identify :
    ∃ machine : Machine Unit, csws machine.log ≠ [] ∧
      Answered commandRules machine.log ∧ Answered statusRules machine.log := by
  have passed : (execute (step (readOnlyStorage 0 fun _ => 0))
      (fun machine action => machine.SendsCbws action ∧
        BusSound machine action)
      identifyStart (identify ++ [.inDone 0 0 5, .iterate, .bus 3])).any
        (fun machine => decide (csws machine.log ≠ [])) = true := by
    decide +kernel
  obtain ⟨final, run, answered⟩ := Run.exists_of_execute passed
  exact ⟨final, by simpa using answered, protocol_paired run⟩

instance : DecidablePred (commandRules (σ := σ)).request
  | .rxDone .. => inferInstanceAs (Decidable (_ ∧ _))
  | .call .. => .isFalse id
  | .bulkIn .. => .isFalse id
  | .bulkOut .. => .isFalse id
  | .txDone .. => .isFalse id
  | .txStore .. => .isFalse id
  | .rxLoad .. => .isFalse id
  | .command .. => .isFalse id
  | .csw .. => .isFalse id
  | .hit .. => .isFalse id

instance : DecidablePred (commandRules (σ := σ)).response
  | .command .. => .isTrue trivial
  | .rxDone .. => .isFalse id
  | .call .. => .isFalse id
  | .bulkIn .. => .isFalse id
  | .bulkOut .. => .isFalse id
  | .txDone .. => .isFalse id
  | .txStore .. => .isFalse id
  | .rxLoad .. => .isFalse id
  | .csw .. => .isFalse id
  | .hit .. => .isFalse id

/-- An assigned address makes the loop execute a command once more. -/
theorem not_protocol_paired_address :
    ¬∀ actions machine, Run (step (readOnlyStorage 0 fun _ => 0))
        Machine.SendsCbws identifyStart actions machine →
      Answered commandRules machine.log ∧
        Answered statusRules machine.log := by
  intro paired
  have passed : (execute (step (readOnlyStorage 0 fun _ => 0))
      Machine.SendsCbws identifyStart (identify ++ [.bus 3, .iterate])).any
        (fun machine => decide
          (machine.log.countP (commandRules.request ·) <
            machine.log.countP (commandRules.response ·))) = true := by
    decide +kernel
  obtain ⟨final, run, repeated⟩ := Run.exists_of_execute passed
  have atMost := (paired _ final run).1.count_le
  have more := of_decide_eq_true repeated
  omega

end KernelDrivers.Rockusb
