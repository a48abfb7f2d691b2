import KernelDrivers.Library.Sections
import KernelDrivers.Rockusb.WriteRun

/-!
# Each block is written once

The loop over any number of write commands, with completions of both
directions in any order.  The last packet of a command is written again when
the CSW before it has not been reported yet, since the handler is then called
again with the same packet.
-/

namespace KernelDrivers.Rockusb

open KernelDrivers.Library

variable {σ : Type} {P : Platform σ} {machine after : Machine σ}
variable {cbw : CbWrap}

def Deed.call? : Deed → Option Call
  | .write call => some call
  | .status _ => none

/-- The writes of the media among some events. -/
def written (log : List (Event σ)) : List Call :=
  (deeds log).filterMap Deed.call?

/-- Each packet received for a command has been written at most once, behind
the packets before it, and all of them lie in the range of the command. -/
def WrittenOnce (cbw : CbWrap) (events : List (Event σ)) : Prop :=
  written events <+: cbw.writes 0 (dataPackets events) ∧
    cbw.blocksIn (dataPackets events) ≤ cbw.nsectors

/-- Nothing is written before the first command, and each packet once. -/
def AllWrittenOnce (log : List (Event σ)) : Prop :=
  written (preamble Event.command? log) = [] ∧
    ∀ part ∈ sections Event.command? log, WrittenOnce part.1 part.2

/-- The wrapper that a packet carries. -/
def packetCbw (packet : List UInt8) : CbWrap :=
  CbWrap.ofBuffer fun index => packet.getD index 0

/-- The host sends write commands to addresses of the media, and the bus is
quiet. -/
def Machine.WritesOnly (machine : Machine σ) : Action → Prop
  | .outDone index status packet => status = 0 →
      ∀ transfer ∈ machine.outs[index]?, transfer.isCbw →
        packet.length = 31 ∧ (packetCbw packet).isWrite ∧
          (packetCbw packet).ordinary
  | .bus _ => False
  | _ => True

/-- When the last packet of a command is handled, the IN endpoint is free for
the CSW. -/
def OnceSound (machine : Machine σ) : Action → Prop
  | .iterate => machine.usbcmd.status = .rxdata →
      machine.usbcmd.rxGiveback.status = .recvOk →
      machine.usbcmd.dSize ≤
        machine.usbcmd.dBytes + machine.usbcmd.rxGiveback.actual →
      machine.usbcmd.txGiveback.status = .sendFinishedOk
  | _ => True

@[simp] theorem written_append (first second : List (Event σ)) :
    written (first ++ second) = written first ++ written second := by
  simp [written]

theorem filterMap_call (made : List Call) :
    (made.map Deed.write).filterMap Deed.call? = made := by
  rw [List.filterMap_map]
  exact List.filterMap_some

theorem AllWrittenOnce.append {log events : List (Event σ)}
    (once : AllWrittenOnce log) (commands : commands events = [])
    (packets : dataPackets events = []) (quiet : written events = []) :
    AllWrittenOnce (log ++ events) := by
  constructor
  · cases preamble_append log commands with
    | inl same => rw [same, once.1]
    | inr more => rw [more, written_append, once.1, quiet]; rfl
  · intro part member
    cases sections_append commands member with
    | inl old => exact once.2 part old
    | inr grown =>
        obtain ⟨old, inside, rfl⟩ := grown
        have held := once.2 old inside
        unfold WrittenOnce at held ⊢
        rw [written_append, dataPackets_append, quiet, packets,
          List.append_nil, List.append_nil]
        exact held

theorem AllWrittenOnce.of_records {before : List (Event σ)}
    {first : Machine σ} {packets : List (List UInt8)} {made : List Deed}
    (once : AllWrittenOnce before)
    (log : first.log = before ++ [.command cbw])
    (records : Records first machine packets made)
    (inOrder : made.filterMap Deed.call? <+: cbw.writes 0 packets)
    (atMost : cbw.blocksIn packets ≤ cbw.nsectors) :
    AllWrittenOnce machine.log := by
  obtain ⟨events, grown, commands, gathered, done⟩ := records
  rw [grown, log, List.append_assoc, List.singleton_append]
  have marked : Event.command? (.command cbw : Event σ) = some cbw := rfl
  constructor
  · rw [preamble_append_marked marked, once.1]
  · rw [sections_append_marked marked commands]
    intro part member
    cases List.mem_append.mp member with
    | inl old => exact once.2 part old
    | inr new =>
        rw [List.mem_singleton.mp new]
        refine ⟨?_, by rwa [gathered]⟩
        rwa [written, done, gathered]

/-- Between commands: at most the transfer for a CBW is under way, and a packet
that has been reported is a write command. -/
structure BetweenWrites (P : Platform σ) (machine : Machine σ) : Prop where
  running : machine.control = .running
  quiet : machine.usbcmd.Quiet
  unlocked : P.secureBootLock machine.platform = 0
  idle : machine.usbcmd.status = .idle
  outs : machine.outs = [] ∨
    (∃ buf, machine.outs = [⟨buf, 31⟩]) ∧ machine.usbcmd.rxGiveback.actual = 0
  packet : 0 < machine.usbcmd.rxGiveback.actual → ∃ buf cbw,
    machine.usbcmd.rxGiveback.buf = some buf ∧
    CbWrap.ofBuffer (machine.rxBuffer buf) = cbw ∧ cbw.isWrite ∧ cbw.ordinary
  once : AllWrittenOnce machine.log

/-- Within a command: the packets received for it and the writes made. -/
structure WithinWrite (P : Platform σ) (cbw : CbWrap)
    (packets : List (List UInt8)) (made : List Call)
    (machine : Machine σ) : Prop where
  write : cbw.isWrite
  ordinary : cbw.ordinary
  serving : WriteServing P cbw machine
  log : ∃ (before : List (Event σ)) (first : Machine σ),
    AllWrittenOnce before ∧ first.log = before ++ [.command cbw] ∧
    Records first machine packets (made.map .write)

inductive WriteLoop (P : Platform σ) (machine : Machine σ) : Prop where
  | between : BetweenWrites P machine → WriteLoop P machine
  | prepared {cbw : CbWrap} : WithinWrite P cbw [] [] machine →
      cbw.nsectors = 0 → WritePrepared cbw machine → WriteLoop P machine
  | waiting {cbw : CbWrap} {packets : List (List UInt8)} :
      WithinWrite P cbw packets (cbw.writes 0 packets) machine →
      WritesAt cbw (cbw.blocksIn packets) machine.usbcmd →
      Waiting cbw (bytesIn packets) machine → WriteLoop P machine
  | holding {cbw : CbWrap} {packets : List (List UInt8)}
      {packet : List UInt8} :
      WithinWrite P cbw (packets ++ [packet]) (cbw.writes 0 packets) machine →
      WritesAt cbw (cbw.blocksIn packets) machine.usbcmd →
      Holding cbw (bytesIn packets) packet machine → WriteLoop P machine

theorem WithinWrite.records {packets packets' : List (List UInt8)}
    {made made' : List Call} (within : WithinWrite P cbw packets made machine)
    (serving : WriteServing P cbw after)
    (records : Records machine after packets' (made'.map .write)) :
    WithinWrite P cbw (packets ++ packets') (made ++ made') after := by
  obtain ⟨before, first, once, log, recorded⟩ := within.log
  refine ⟨within.write, within.ordinary, serving, before, first, once, log, ?_⟩
  rw [List.map_append]
  exact recorded.trans records

/-- Wherever the loop stands, each packet has been written at most once. -/
theorem WriteLoop.once (loop : WriteLoop P machine) :
    AllWrittenOnce machine.log := by
  cases loop with
  | between between => exact between.once
  | prepared within none prepared =>
      obtain ⟨before, first, once, log, records⟩ := within.log
      exact once.of_records log records (by simp) (by simp [CbWrap.blocksIn])
  | waiting within position waiting =>
      obtain ⟨before, first, once, log, records⟩ := within.log
      exact once.of_records log records
        ⟨[], by rw [List.append_nil, filterMap_call]⟩
        (within.write.blocksIn_le waiting.counted.atMost)
  | @holding cbw packets packet within position holding =>
      obtain ⟨before, first, once, log, records⟩ := within.log
      refine once.of_records log records ?_ (within.write.blocksIn_le ?_)
      · rw [filterMap_call, CbWrap.writes_snoc]
        exact List.prefix_append _ _
      · rw [bytesIn_snoc]
        exact holding.atMost

/-- A command of no blocks is answered when the IN endpoint is free. -/
theorem WritePrepared.answered (lockOpen : LockOpen P) (write : cbw.isWrite)
    (none : cbw.nsectors = 0) (prepared : WritePrepared cbw machine)
    (serving : WriteServing P cbw machine) {start : Machine σ}
    (first : handleIdle P start = machine) :
    Completed P cbw [] machine (doRockusb P start) ∨
      WritePrepared cbw (doRockusb P start) ∧
        WriteServing P cbw (doRockusb P start) ∧
        Records machine (doRockusb P start) [] [] := by
  have size : cbw.writeSize = 0 := by rw [CbWrap.writeSize, none, Nat.zero_mul]
  obtain ⟨replied, reply, shape⟩ := answerData_finish write prepared.counted
    (by rw [prepared.empty, size])
  obtain ⟨dBytes, csw, registers⟩ := reply.usbcmd
  have response := prepared.response (P := P)
  by_cases ready : replied.usbcmd.txGiveback.status = .sendFinishedOk
  · have sent := rkusbSendCsw_ready ready
    rw [← shape] at sent
    have unlocked : P.secureBootLock machine.answerData.platform = 0 := by
      rw [sent.platform, reply.platform]
      exact serving.platform
    have handled := Completed.of_sent serving prepared.outs reply sent
      (.refl unlocked)
    rw [doRockusb_response first response serving.running
      handled.serving.running handled.serving.quiet
      (handleCsw_other (by simp [handled.idle]))]
    exact .inl (handled.lowFormat lockOpen)
  · rw [rkusbSendCsw_busy ready] at shape
    have handled : WriteServing P cbw machine.answerData := by
      rw [shape]
      apply serving.of_usbcmd
      · rw [reply.platform]
        exact serving.platform
      · rw [reply.control, serving.running]
      all_goals rw [registers]
    have status : machine.answerData.usbcmd.status = .rxdataPrepare := by
      rw [shape, registers]
      exact prepared.status
    have counted := reply.counted
    rw [size, ← shape] at counted
    rw [doRockusb_response first response serving.running handled.running
      handled.quiet (handleCsw_other (by simp [status]))]
    refine .inr ⟨⟨status, ⟨counted.dSize, counted.dBytes, counted.atMost⟩, ?_,
      ?_⟩, handled.lowFormat lockOpen, ?_⟩
    · rw [Machine.perform_usbcmd, shape, registers]
      exact prepared.empty
    · rw [Machine.perform_outs, shape, reply.outs, prepared.outs]
    · have same : Records machine machine.answerData [] [] :=
        ⟨[], by rw [shape, reply.log, List.append_nil], rfl, rfl, rfl⟩
      exact same.trans (.lowFormat _)

/-- After its CSW a command leaves the loop ready for the next one. -/
theorem WithinWrite.between {packets : List (List UInt8)}
    {made made' : List Call} (within : WithinWrite P cbw packets made machine)
    (completed : Completed P cbw made' machine after)
    (all : made ++ made' = cbw.writes 0 packets)
    (atMost : cbw.blocksIn packets ≤ cbw.nsectors) :
    BetweenWrites P after := by
  obtain ⟨before, first, once, log, records⟩ := within.log
  obtain ⟨csw, -, -, done⟩ := completed.records
  have serving := completed.serving
  have empty : after.usbcmd.rxGiveback.actual = 0 := by rw [completed.empty]
  refine ⟨serving.running, serving.quiet, serving.platform, completed.idle,
    .inr ⟨⟨_, completed.outs⟩, empty⟩, ?_, ?_⟩
  · intro received
    omega
  · have whole := records.trans done
    rw [List.append_nil] at whole
    refine once.of_records log whole ?_ atMost
    have calls : (made.map Deed.write ++
        .status csw :: made'.map Deed.write).filterMap Deed.call? =
          made ++ made' := by
      rw [List.filterMap_append, List.filterMap_cons, filterMap_call,
        filterMap_call]
      rfl
    exact ⟨[], by rw [List.append_nil, calls, all]⟩

theorem BetweenWrites.iterate (lockOpen : LockOpen P)
    (between : BetweenWrites P machine) : WriteLoop P (doRockusb P machine) := by
  by_cases received : 0 < machine.usbcmd.rxGiveback.actual
  · obtain ⟨buf, cbw, inBuf, packet, write, ordinary⟩ :=
      between.packet received
    have outs : machine.outs = [] := by
      refine between.outs.resolve_right ?_
      rintro ⟨-, empty⟩
      omega
    have reported : WriteReceived P cbw machine :=
      ⟨between.running, between.quiet, between.idle, received,
        ⟨buf, inBuf, packet⟩, outs, between.unlocked⟩
    have started := reported.started write
    obtain ⟨loaded, log⟩ := started.log
    have once : AllWrittenOnce (machine.log ++ [.rxLoad loaded []]) :=
      between.once.append rfl rfl rfl
    have within : WithinWrite P cbw [] [] (handleIdle P machine) :=
      ⟨write, ordinary, started.serving, _, _, once, log, [], by simp, rfl, rfl,
        rfl⟩
    by_cases none : cbw.nsectors = 0
    · rcases started.prepared.answered lockOpen write none started.serving
        rfl with completed | ⟨prepared, serving, records⟩
      · exact .between (within.between completed rfl (Nat.zero_le _))
      · exact .prepared (within.records serving records) none prepared
    · have continued := started.prepared.continued lockOpen write
        (Nat.pos_of_ne_zero none) started.serving started.position rfl
      have noBlocks : cbw.blocksOf [] = 0 := Nat.zero_div _
      have nothing : cbw.writesOf 0 [] = [] := by
        rw [CbWrap.writesOf, if_pos noBlocks]
      have records := within.records continued.serving continued.records
      have position := continued.position
      rw [nothing] at records
      rw [noBlocks] at position
      exact @WriteLoop.waiting σ P _ cbw [] records position continued.waiting
  · have empty : machine.usbcmd.rxGiveback.actual = 0 := by omega
    rw [doRockusb_idle between.idle empty between.running between.quiet]
    exact .between ⟨between.running, between.quiet,
      lockOpen _ _ rfl between.unlocked, between.idle, between.outs,
      between.packet, between.once.append rfl rfl rfl⟩

theorem WriteLoop.iterate (lockOpen : LockOpen P)
    (loop : WriteLoop P machine) (sound : OnceSound machine .iterate) :
    WriteLoop P (doRockusb P machine) := by
  cases loop with
  | between between => exact between.iterate lockOpen
  | prepared within none prepared =>
      have busy : handleIdle P machine = machine :=
        handleIdle_busy (.inl (by simp [prepared.status]))
      rcases prepared.answered lockOpen within.write none within.serving busy
        with completed | ⟨prepared, serving, records⟩
      · exact .between (within.between completed rfl (Nat.zero_le _))
      · exact .prepared (within.records serving records) none prepared
  | waiting within position waiting =>
      rw [doRockusb_waiting waiting within.serving]
      have records : Records machine (machine.perform P .fwSorageLowFormat) []
          (([] : List Call).map .write) := .lowFormat machine
      have checked :=
        within.records (within.serving.lowFormat lockOpen) records
      rw [List.append_nil, List.append_nil] at checked
      exact .waiting checked ⟨position.lba, position.imgwrMode⟩
        (waiting.of_usbcmd rfl rfl)
  | @holding cbw packets packet within position holding =>
      have inside := within.ordinary.inside within.write holding.atMost
      by_cases more : bytesIn packets + packet.length < cbw.writeSize
      · have continued := holding.continued lockOpen within.write
          within.serving position inside more
        have records := within.records continued.serving continued.records
        have waiting := continued.waiting
        have position := continued.position
        rw [← bytesIn_snoc] at waiting
        rw [← CbWrap.blocksIn_snoc] at position
        rw [List.append_nil, ← Nat.zero_add (cbw.blocksIn packets),
          ← CbWrap.writes_snoc] at records
        exact .waiting records position waiting
      · have last : bytesIn packets + packet.length = cbw.writeSize :=
          Nat.le_antisymm holding.atMost (Nat.le_of_not_lt more)
        have free : machine.usbcmd.txGiveback.status = .sendFinishedOk := by
          refine sound holding.status holding.received ?_
          rw [holding.counted.dSize, holding.counted.dBytes, holding.actual]
          exact Nat.le_of_eq last.symm
        have completed := holding.completed lockOpen within.write
          within.serving position inside last free
        refine .between (within.between completed ?_ ?_)
        · rw [CbWrap.writes_snoc, Nat.zero_add]
        · refine within.write.blocksIn_le ?_
          rw [bytesIn_snoc]
          exact holding.atMost

theorem WithinWrite.same {packets : List (List UInt8)} {made : List Call}
    (within : WithinWrite P cbw packets made machine)
    (serving : WriteServing P cbw after)
    (records : Records machine after [] []) :
    WithinWrite P cbw packets made after := by
  have none : Records machine after [] (([] : List Call).map .write) := records
  simpa using within.records serving none

theorem WriteLoop.inDone {index actual : Nat} {transfer : Transfer}
    {status : Int} (loop : WriteLoop P machine) :
    WriteLoop P (completeIn machine index transfer status actual) := by
  have records : Records machine
      (completeIn machine index transfer status actual) [] [] :=
    ⟨[_], rfl, rfl, rfl, rfl⟩
  have serving : ∀ {cbw : CbWrap}, WriteServing P cbw machine →
      WriteServing P cbw (completeIn machine index transfer status actual) :=
    fun serving => serving.of_usbcmd serving.platform serving.running rfl rfl rfl
  cases loop with
  | between between =>
      exact .between ⟨between.running, between.quiet, between.unlocked,
        between.idle, between.outs, between.packet,
        between.once.append rfl rfl rfl⟩
  | prepared within none prepared =>
      obtain ⟨stage, ⟨dSize, dBytes, atMost⟩, empty, outs⟩ := prepared
      exact .prepared (within.same (serving within.serving) records) none
        ⟨stage, ⟨dSize, dBytes, atMost⟩, empty, outs⟩
  | waiting within position waiting =>
      obtain ⟨stage, ⟨dSize, dBytes, atMost⟩, notYet, empty, outs⟩ := waiting
      exact .waiting (within.same (serving within.serving) records)
        ⟨position.lba, position.imgwrMode⟩
        ⟨stage, ⟨dSize, dBytes, atMost⟩, notYet, empty, outs⟩
  | holding within position holding =>
      obtain ⟨stage, ⟨dSize, dBytes, atMost⟩, received, actual, buf, outs,
        inside⟩ := holding
      exact .holding (within.same (serving within.serving) records)
        ⟨position.lba, position.imgwrMode⟩
        ⟨stage, ⟨dSize, dBytes, atMost⟩, received, actual, buf, outs, inside⟩

theorem BetweenWrites.waits (between : BetweenWrites P machine) {index : Nat}
    {transfer : Transfer} (outstanding : machine.outs[index]? = some transfer) :
    (∃ buf, machine.outs = [⟨buf, 31⟩]) ∧
      machine.usbcmd.rxGiveback.actual = 0 := by
  refine between.outs.resolve_left ?_
  intro none
  simp [none] at outstanding

/-- A transfer that fails or is given up leaves the command waiting. -/
theorem WriteLoop.lost {index : Nat} {transfer : Transfer} {status : Int}
    {packet : List UInt8} (loop : WriteLoop P machine)
    (outstanding : machine.outs[index]? = some transfer)
    (failed : status ≠ 0) :
    WriteLoop P (completeOut machine index transfer status packet) := by
  have records : Records machine
      (completeOut machine index transfer status packet) [] [] :=
    ⟨[_], rfl, rfl, by simp [dataPackets, failed], rfl⟩
  cases loop with
  | between between =>
      obtain ⟨⟨buf, posted⟩, empty⟩ := between.waits outstanding
      obtain ⟨-, emptied⟩ := only_transfer posted outstanding
      have still : (completeOut machine index transfer status
          packet).usbcmd.rxGiveback.actual = 0 := by
        simpa [completeOut, failed] using empty
      refine .between ⟨between.running, between.quiet, between.unlocked,
        between.idle, .inl emptied, ?_, ?_⟩
      · intro received
        omega
      · refine between.once.append rfl ?_ rfl
        simp [dataPackets, failed]
  | prepared within none prepared =>
      simp [prepared.outs] at outstanding
  | @waiting cbw packets within position waiting =>
      obtain ⟨buf, posted⟩ := waiting.outs.resolve_left (by
        intro none
        simp [none] at outstanding)
      obtain ⟨-, emptied⟩ := only_transfer posted outstanding
      obtain ⟨dSize, dBytes, atMost⟩ := waiting.counted
      refine .waiting (within.same ?_ records)
        ⟨position.lba, position.imgwrMode⟩ ⟨waiting.status,
          ⟨dSize, dBytes, atMost⟩, ?_, ?_, .inl emptied⟩
      · exact within.serving.of_usbcmd within.serving.platform
          within.serving.running rfl rfl rfl
      · simp [completeOut, failed]
      · simpa [completeOut, failed] using waiting.empty
  | holding within position holding =>
      simp [holding.outs] at outstanding

theorem WriteLoop.outDone {index : Nat} {transfer : Transfer}
    {packet : List UInt8} (loop : WriteLoop P machine)
    (outstanding : machine.outs[index]? = some transfer)
    (fits : packet.length ≤ transfer.len)
    (sends : machine.WritesOnly (.outDone index 0 packet)) :
    WriteLoop P (completeOut machine index transfer 0 packet) := by
  cases loop with
  | between between =>
      obtain ⟨⟨buf, posted⟩, empty⟩ := between.waits outstanding
      obtain ⟨rfl, emptied⟩ := only_transfer posted outstanding
      obtain ⟨length, write, ordinary⟩ := sends rfl _ outstanding rfl
      refine .between ⟨between.running, between.quiet, between.unlocked,
        between.idle, .inl emptied, fun _ => ⟨buf, packetCbw packet, rfl, ?_,
          write, ordinary⟩, ?_⟩
      · apply CbWrap.ofBuffer_congr
        intro position bound
        have inside : position < packet.length := by omega
        have read := @Memory.storeList_inside (machine.rxBuffer buf) 0 packet
          position inside
        rw [Nat.zero_add] at read
        simpa [completeOut, List.getD, inside] using read
      · refine between.once.append rfl ?_ rfl
        simp [dataPackets, Transfer.isCbw]
  | prepared within none prepared =>
      simp [prepared.outs] at outstanding
  | @waiting cbw packets within position waiting =>
      obtain ⟨holding, records⟩ :=
        waiting.completeOut within.write outstanding fits
      have none : Records machine
          (completeOut machine index transfer 0 packet) [packet]
            (([] : List Call).map .write) := records
      have serving : WriteServing P cbw
          (completeOut machine index transfer 0 packet) :=
        within.serving.of_usbcmd within.serving.platform
          within.serving.running rfl rfl rfl
      have received := within.records serving none
      rw [List.append_nil] at received
      exact .holding received ⟨position.lba, position.imgwrMode⟩ holding
  | holding within position holding =>
      simp [holding.outs] at outstanding

theorem WriteLoop.outDrop {index : Nat} (loop : WriteLoop P machine) :
    WriteLoop P { machine with outs := machine.outs.eraseIdx index } := by
  have records : Records machine
      { machine with outs := machine.outs.eraseIdx index } [] [] :=
    ⟨[], by simp, rfl, rfl, rfl⟩
  have serving : ∀ {cbw : CbWrap}, WriteServing P cbw machine →
      WriteServing P cbw
        { machine with outs := machine.outs.eraseIdx index } :=
    fun serving => serving.of_usbcmd serving.platform serving.running rfl rfl rfl
  have erased : ∀ {only : Transfer}, machine.outs = [only] →
      machine.outs.eraseIdx index = [] ∨
        machine.outs.eraseIdx index = [only] := by
    intro only posted
    cases index with
    | zero => exact .inl (by simp [posted])
    | succ index => exact .inr (by simp [posted])
  cases loop with
  | between between =>
      refine .between ⟨between.running, between.quiet, between.unlocked,
        between.idle, ?_, ?_, between.once⟩
      · obtain none | ⟨⟨buf, posted⟩, empty⟩ := between.outs
        · exact .inl (by simp [none])
        · exact (erased posted).imp_right fun same => ⟨⟨buf, same⟩, empty⟩
      · exact between.packet
  | prepared within none prepared =>
      obtain ⟨stage, ⟨dSize, dBytes, atMost⟩, empty, outs⟩ := prepared
      exact .prepared (within.same (serving within.serving) records) none
        ⟨stage, ⟨dSize, dBytes, atMost⟩, empty, by simp [outs]⟩
  | waiting within position waiting =>
      obtain ⟨stage, ⟨dSize, dBytes, atMost⟩, notYet, empty, outs⟩ := waiting
      refine .waiting (within.same (serving within.serving) records)
        ⟨position.lba, position.imgwrMode⟩
        ⟨stage, ⟨dSize, dBytes, atMost⟩, notYet, empty, ?_⟩
      obtain none | ⟨buf, posted⟩ := outs
      · exact .inl (by simp [none])
      · exact (erased posted).imp_right fun same => ⟨buf, same⟩
  | holding within position holding =>
      obtain ⟨stage, ⟨dSize, dBytes, atMost⟩, received, actual, buf, outs,
        inside⟩ := holding
      exact .holding (within.same (serving within.serving) records)
        ⟨position.lba, position.imgwrMode⟩
        ⟨stage, ⟨dSize, dBytes, atMost⟩, received, actual, buf,
          by simp [outs], inside⟩

theorem WriteLoop.step {action : Action} (lockOpen : LockOpen P)
    (loop : WriteLoop P machine) (sends : machine.WritesOnly action)
    (sound : OnceSound machine action)
    (taken : step P machine action = some after) : WriteLoop P after := by
  cases action with
  | iterate =>
      obtain rfl := step_iterate taken
      exact loop.iterate lockOpen sound
  | inDone index status actual =>
      obtain ⟨transfer, -, rfl⟩ := step_inDone taken
      exact loop.inDone
  | outDone index status packet =>
      obtain ⟨transfer, outstanding, fits, rfl⟩ := step_outDone taken
      by_cases ok : status = 0
      · subst ok
        exact loop.outDone outstanding fits sends
      · exact loop.lost outstanding ok
  | outDrop index =>
      obtain rfl := step_outDrop taken
      exact loop.outDrop
  | bus => exact sends.elim

theorem WriteLoop.configured {zero : GivebackStatus} {rx tx : Fin 2 → Memory}
    {platform : σ} (unlocked : P.secureBootLock platform = 0) :
    WriteLoop P
      (rkusbEventHandlerForDwc3 (startMachine zero rx tx platform) 2) := by
  have start : AllWrittenOnce ([] : List (Event σ)) :=
    ⟨rfl, fun _ member => nomatch member⟩
  have flag : (rkusbEventHandlerForDwc3
      (startMachine zero rx tx platform) 2).usbcmd.resetFlag = 0 := rfl
  refine .between ⟨rfl, by simp [CmdRockusbInterface.Quiet, flag], unlocked, rfl,
    .inr ⟨⟨0, rfl⟩, rfl⟩, ?_, start.append rfl rfl rfl⟩
  intro received
  exact absurd received (Nat.lt_irrefl 0)

/-- In a run in which the CSW of a command has been reported before the last
packet of the next one is handled, each packet is written at most once. -/
theorem write_once (lockOpen : LockOpen P) {zero : GivebackStatus}
    {rx tx : Fin 2 → Memory} {platform : σ}
    (unlocked : P.secureBootLock platform = 0) {actions : List Action}
    (run : Run (step P) (fun machine action =>
        machine.WritesOnly action ∧ OnceSound machine action)
      (rkusbEventHandlerForDwc3 (startMachine zero rx tx platform) 2) actions
      machine) :
    AllWrittenOnce machine.log := by
  have loop : WriteLoop P machine := by
    induction run with
    | nil => exact .configured unlocked
    | snoc _ allowed taken loop =>
        exact loop.step lockOpen allowed.1 allowed.2 taken
  exact loop.once

instance (cbw : CbWrap) : Decidable cbw.ordinary :=
  inferInstanceAs (Decidable (_ ≤ _))

instance (machine : Machine σ) :
    ∀ action, Decidable (machine.WritesOnly action)
  | .outDone index status packet => inferInstanceAs (Decidable (status = 0 →
      ∀ transfer ∈ machine.outs[index]?, transfer.isCbw →
        packet.length = 31 ∧ (packetCbw packet).isWrite ∧
          (packetCbw packet).ordinary))
  | .iterate => .isTrue trivial
  | .inDone .. => .isTrue trivial
  | .outDrop .. => .isTrue trivial
  | .bus .. => .isFalse id

instance (machine : Machine σ) : ∀ action, Decidable (OnceSound machine action)
  | .iterate => inferInstanceAs (Decidable (_ → _ → _ → _))
  | .inDone .. => .isTrue trivial
  | .outDone .. => .isTrue trivial
  | .outDrop .. => .isTrue trivial
  | .bus .. => .isTrue trivial

/-- A write of one block to block 5, up to its status. -/
private def writeActions : List Action :=
  [.outDone 0 0 (cbwPacket 7 512 0x15 0 5 1), .iterate,
    .outDone 0 0 (List.replicate 512 1), .iterate]

private def writeStart : Machine Unit :=
  configuredMachine (fun _ _ => 0) (fun _ _ => 0) ()

theorem lockOpen_readOnly (media : Memory) :
    LockOpen (readOnlyStorage 0 media) :=
  fun _ _ _ _ => rfl

/-- Two commands, with the first status reported in between. -/
theorem write_once_two :
    ∃ machine : Machine Unit, (written machine.log).length = 2 ∧
      AllWrittenOnce machine.log := by
  have passed : (execute (step (readOnlyStorage 0 fun _ => 0))
      (fun machine action => machine.WritesOnly action ∧
        OnceSound machine action) writeStart
      (writeActions ++ .inDone 0 0 13 :: writeActions)).any
        (fun machine => decide ((written machine.log).length = 2)) = true := by
    decide +kernel
  obtain ⟨final, run, two⟩ := Run.exists_of_execute passed
  exact ⟨final, by simpa using two, write_once (lockOpen_readOnly _) rfl run⟩

/-- The last packet is written twice when the first status is still under way. -/
theorem not_write_once_pending :
    ¬∀ actions machine, Run (step (readOnlyStorage 0 fun _ => 0))
        Machine.WritesOnly writeStart actions machine →
      AllWrittenOnce machine.log := by
  intro once
  have passed : (execute (step (readOnlyStorage 0 fun _ => 0))
      Machine.WritesOnly writeStart
      (writeActions ++ writeActions ++ [.iterate])).any
        (fun machine => (sections Event.command? machine.log).any fun part =>
          decide ((part.1.writes 0 (dataPackets part.2)).length <
            (written part.2).length)) = true := by
    decide +kernel
  obtain ⟨final, run, repeated⟩ := Run.exists_of_execute passed
  obtain ⟨part, member, more⟩ := List.any_eq_true.mp repeated
  have atMost := ((once _ final run).2 part member).1.length_le
  have fewer := of_decide_eq_true more
  omega

end KernelDrivers.Rockusb
