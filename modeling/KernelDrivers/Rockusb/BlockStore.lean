import KernelDrivers.Rockusb.BlockDevice

/-!
# The storage as the host sees it

A host that sends one command after the other reads and writes two arrays of
blocks.  The loop reads ahead, answers a write before its last blocks are
stored and lets completions come in any order, but the answers are those of
arrays that are accessed sequentially.
-/

namespace KernelDrivers.Rockusb

open KernelDrivers.Library

variable {σ : Type} {P : Platform σ} {machine after : Machine σ}
variable {cbw : CbWrap} {Ready : σ → Prop} {contents : σ → Area → Memory}
variable {capacity : Area → Nat} {image initial : Area → Memory}

/-- What a command with a status has done: the blocks handed over before the
status, or the packets received. -/
def transaction (part : CbWrap × List (Event σ)) :
    Option (Transaction Area) :=
  if csws part.2 = [] then none
  else if part.1.isRead then
    some (.read part.1.area part.1.start part.1.size
      (payloads part.2).dropLast.flatten)
  else
    some (.write part.1.area part.1.start part.1.size
      (dataPackets part.2).flatten)

/-- The commands that have been answered, in order. -/
def transactions (log : List (Event σ)) : List (Transaction Area) :=
  (sections Event.command? log).filterMap transaction

/-- A command has no status yet, or one good one with its tag. -/
def Acknowledged (part : CbWrap × List (Event σ)) : Prop :=
  csws part.2 = [] ∨ ∃ csw, csws part.2 = [csw] ∧ csw.tag = part.1.tag ∧
    csw.status = cswGood

/-- What the host has seen fits arrays that now hold `image`. -/
structure History (initial : Area → Memory) (log : List (Event σ))
    (image : Area → Memory) : Prop where
  serializes : Serializes initial (transactions log) image
  acknowledged : ∀ part ∈ sections Event.command? log, Acknowledged part

section Histories

variable {log events : List (Event σ)}

theorem History.append (history : History initial log image)
    (unmarked : commands events = []) (statuses : csws events = [])
    (handed : payloads events = []) (packets : dataPackets events = []) :
    History initial (log ++ events) image := by
  constructor
  · have neutral : ∀ found old, transaction (found, old ++ events) =
        transaction (found, old) := by
      intro found old
      simp [transaction, statuses, handed, packets]
    rw [transactions, filterMap_sections_append unmarked neutral]
    exact history.serializes
  · intro part member
    cases sections_append unmarked member with
    | inl old => exact history.acknowledged part old
    | inr grown =>
        obtain ⟨old, inside, rfl⟩ := grown
        have held := history.acknowledged old inside
        unfold Acknowledged at held ⊢
        rwa [csws_append, statuses, List.append_nil]

theorem History.command (history : History initial log image)
    (unmarked : commands events = [])
    (acknowledged : Acknowledged (cbw, events)) {image' : Area → Memory}
    (last : Serializes image (transaction (cbw, events)).toList image') :
    History initial (log ++ .command cbw :: events) image' := by
  have marked : Event.command? (.command cbw : Event σ) = some cbw := rfl
  have parts := @sections_append_marked _ _ _ log _ _ _ marked unmarked
  constructor
  · have entries : transactions (log ++ .command cbw :: events) =
        transactions log ++ (transaction (cbw, events)).toList := by
      rw [transactions, parts, List.filterMap_append]
      cases done : transaction (cbw, events) with
      | none => simp [transactions, done]
      | some entry => simp [transactions, done]
    rw [entries]
    exact history.serializes.append last
  · intro part member
    rw [parts] at member
    cases List.mem_append.mp member with
    | inl old => exact history.acknowledged part old
    | inr new =>
        rw [List.mem_singleton.mp new]
        exact acknowledged

theorem History.pending (history : History initial log image)
    (unmarked : commands events = []) (statuses : csws events = []) :
    History initial (log ++ .command cbw :: events) image := by
  have none : transaction (cbw, events) = none := if_pos statuses
  refine history.command unmarked (.inl statuses) ?_
  rw [none]
  exact .nil

theorem commands_of_serves (serves : ∀ event ∈ events, event.serves) :
    commands events = [] := by
  apply List.filterMap_eq_nil_iff.mpr
  intro event member
  have permitted := serves event member
  cases event with
  | command cbw => exact permitted.elim
  | _ => rfl

theorem csws_eq_filterMap (log : List (Event σ)) :
    csws log = (deeds log).filterMap fun deed =>
      match deed with
      | .status csw => some csw
      | .write _ => none := by
  induction log with
  | nil => rfl
  | cons event log induction =>
      cases event with
      | call made reply =>
          cases write : made.isWrite
          all_goals simpa [csws, deeds, write] using induction
      | csw csw => simpa [csws, deeds] using induction
      | _ => simpa [csws, deeds] using induction

end Histories

section Session

variable (P) (Ready) (contents) (capacity) (initial)

/-- Between two commands the device holds what the host has seen. -/
structure Settled (image : Area → Memory) (machine : Machine σ) : Prop where
  running : machine.control = .running
  quiet : machine.usbcmd.Quiet
  idle : machine.usbcmd.status = .idle
  spent : Spent machine
  holds : Holds Ready contents image machine.platform
  history : History initial machine.log image

/-- A command has been dispatched since `start`, where the device held what
the host has seen. -/
structure Opened (cbw : CbWrap) (image : Area → Memory)
    (start machine : Machine σ) : Prop where
  history : History initial start.log image
  log : ∃ buf owned, (handleIdle P start).log =
    start.log ++ [.rxLoad buf owned, .command cbw]
  holds : Holds Ready contents image (handleIdle P start).platform
  serves : Extends P Event.serves (handleIdle P start) machine

inductive Session (machine : Machine σ) : Prop where
  | waiting {image : Area → Memory} {buf : Fin 2} :
      Settled Ready contents initial image machine → machine.InKnown →
      machine.usbcmd.rxGiveback.actual = 0 → machine.outs = [⟨buf, 31⟩] →
      Session machine
  | received {image : Area → Memory} {cbw : CbWrap} :
      Settled Ready contents initial image machine → cbw.fits capacity →
      CommandReceived cbw machine → Session machine
  | reading {image : Area → Memory} {cbw : CbWrap} {start : Machine σ}
      {actions : List Action} {chunks : List (List UInt8)} :
      cbw.isRead → FillsGood P (Holds Ready contents image)
        (HoldsBlocks (image cbw.area) cbw) cbw →
      Opened P Ready contents initial cbw image start machine →
      ReadProgress (Holds Ready contents image)
        (HoldsBlocks (image cbw.area) cbw) cbw start actions machine chunks
        [] →
      ReadStage machine → Spent machine → Session machine
  | writing {image : Area → Memory} {cbw : CbWrap} {start : Machine σ}
      {actions : List Action} {packets : List (List UInt8)}
      {made : List Deed} :
      cbw.isWrite → cbw.offset + cbw.nsectors ≤ capacity cbw.area →
      Opened P Ready contents initial cbw image start machine →
      WriteProgress P cbw (handleIdle P start) actions machine packets made →
      machine.usbcmd.status ≠ .idle → WriteStage machine → Spent machine →
      Session machine

end Session

/-- The host sends commands that fit, each when it has the status of the one
before, and whole blocks of data; nothing fails on the bus. -/
def Machine.Disciplined (capacity : Area → Nat) (machine : Machine σ) :
    Action → Prop
  | .iterate => True
  | .inDone _ status _ => status = 0
  | .outDone index status packet => status = 0 ∧
      ∀ transfer ∈ machine.outs[index]?,
        if transfer.isCbw then
          machine.ins = [] ∧ packet.length = 31 ∧
            (packetCbw packet).fits capacity
        else
          0 < packet.length ∧ machine.usbcmd.cbw.writeBlock ∣ packet.length
  | .outDrop _ => False
  | .bus _ => False

namespace Settled

variable (settled : Settled Ready contents initial image machine)
include settled

/-- Events that the host does not see leave the device settled. -/
theorem of_same {events : List (Event σ)}
    (control : after.control = machine.control)
    (flag : after.usbcmd.resetFlag = machine.usbcmd.resetFlag)
    (status : after.usbcmd.status = machine.usbcmd.status)
    (preRead : after.usbcmd.preRead = machine.usbcmd.preRead)
    (holds : Holds Ready contents image after.platform)
    (log : after.log = machine.log ++ events) (unmarked : commands events = [])
    (statuses : csws events = []) (handed : payloads events = [])
    (packets : dataPackets events = []) :
    Settled Ready contents initial image after := by
  refine ⟨?_, ?_, ?_, ?_, holds, ?_⟩
  · rw [control, settled.running]
  · have quiet := settled.quiet
    unfold CmdRockusbInterface.Quiet at quiet ⊢
    rwa [flag]
  · rw [status, settled.idle]
  · unfold Spent
    rw [status, preRead]
    exact settled.spent
  · rw [log]
    exact settled.history.append unmarked statuses handed packets

end Settled

namespace Opened

variable {start : Machine σ}

theorem events
    (opened : Opened P Ready contents initial cbw image start machine) :
    ∃ buf owned events,
      machine.log = start.log ++ [.rxLoad buf owned] ++
        .command cbw :: events ∧
      machine.log = (handleIdle P start).log ++ events ∧
      commands events = [] ∧ (∀ event ∈ events, event.serves) ∧
      machine.platform = replay P (handleIdle P start).platform events := by
  obtain ⟨buf, owned, log⟩ := opened.log
  obtain ⟨events, grown, platform, -, serves⟩ := opened.serves
  refine ⟨buf, owned, events, ?_, grown, commands_of_serves serves, serves,
    platform⟩
  rw [grown, log, List.append_assoc, List.append_assoc]
  rfl

theorem extend
    (opened : Opened P Ready contents initial cbw image start machine)
    (serves : Extends P Event.serves machine after) :
    Opened P Ready contents initial cbw image start after :=
  ⟨opened.history, opened.log, opened.holds, opened.serves.trans serves⟩

theorem loaded
    (opened : Opened P Ready contents initial cbw image start machine)
    (buf : Fin 2) (owned : List (Fin 2)) :
    History initial (start.log ++ [.rxLoad buf owned]) image :=
  opened.history.append rfl rfl rfl rfl

end Opened

theorem CbWrap.isRead.mediaBlocks_eq (read : cbw.isRead) :
    mediaBlocks (image cbw.area) cbw.readBlock cbw.offset cbw.nsectors =
      (image cbw.area).bytes cbw.start cbw.size := by
  rw [read.readBlock_eq]
  rfl

/-- A read that has been answered returned what the arrays hold. -/
theorem Opened.readDone {start : Machine σ} {chunks : List (List UInt8)}
    {csw : CsWrap} {filled : List (Call × Reply)} (read : cbw.isRead)
    (opened : Opened P Ready contents initial cbw image start machine)
    (sent : Sent (HoldsBlocks (image cbw.area) cbw) cbw.nsectors
      cbw.readBlock cbw.nsectors chunks)
    (tag : csw.tag = cbw.tag) (good : csw.status = cswGood)
    (emits : Emits start machine (chunks ++ [csw].map CsWrap.bytes) [csw]
      filled) :
    History initial machine.log image := by
  obtain ⟨buf, owned, events, log, -, unmarked, -, -⟩ := opened.events
  obtain ⟨all, grown, handed, statuses, -⟩ := emits
  have split : all = .rxLoad buf owned :: .command cbw :: events := by
    apply (List.append_right_inj start.log).mp
    rw [← grown, log, List.append_assoc]
    rfl
  subst split
  replace handed : payloads events = chunks ++ [csw.bytes] := handed
  replace statuses : csws events = [csw] := statuses
  have entry : transaction (cbw, events) = some
      (.read cbw.area cbw.start cbw.size chunks.flatten) := by
    rw [transaction, if_neg (by simp [statuses]), if_pos read, handed,
      List.dropLast_concat]
  rw [log]
  refine (opened.loaded buf owned).command unmarked
    (.inr ⟨csw, statuses, tag, good⟩) ?_
  rw [entry]
  refine .read ?_ .nil
  rw [sent.flatten, read.mediaBlocks_eq]

theorem Machine.InKnown.of_pipe {actions : List Action} {handed : Nat}
    {ended : Prop} (pipe : Pipe machine actions handed ended) :
    machine.InKnown := by
  rcases pipe with ⟨busy, -⟩ | ⟨free, -, -⟩
  · exact .inl busy
  · exact .inr free

theorem Session.of_reading {start : Machine σ} {actions : List Action}
    {chunks : List (List UInt8)} {statuses : List CsWrap} (read : cbw.isRead)
    (fills : FillsGood P (Holds Ready contents image)
      (HoldsBlocks (image cbw.area) cbw) cbw)
    (opened : Opened P Ready contents initial cbw image start machine)
    (progress : ReadProgress (Holds Ready contents image)
      (HoldsBlocks (image cbw.area) cbw) cbw start actions machine chunks
      statuses)
    (stage : ReadStage machine) (spent : Spent machine) :
    Session P Ready contents capacity initial machine := by
  obtain ⟨ahead, filled, phase, emits, -⟩ := progress.phase
  cases phase with
  | streaming => exact .reading read fills opened progress stage spent
  | streamed => exact .reading read fills opened progress stage spent
  | answered sent tag good idle empty =>
      have serving := progress.serving
      cases stage with
      | sending status =>
          rw [idle] at status
          rcases status with data | csw
          · cases data
          · cases csw
      | answered _ _ outs =>
          refine .waiting ⟨serving.running, serving.quiet, idle, spent,
            serving.platform, ?_⟩ (.of_pipe progress.pipe) empty outs
          exact opened.readDone read sent tag good emits

theorem filterMap_writes (made : List Call) :
    ((made.map Deed.write).filterMap fun deed =>
      match deed with
      | .status csw => some csw
      | .write _ => none) = [] := by
  induction made with
  | nil => rfl
  | cons call made induction => exact induction

/-- A write that has been answered changed the arrays, and the device with
them. -/
theorem Opened.writeDone {start : Machine σ} {packets : List (List UInt8)}
    {packet : List UInt8} {csw : CsWrap}
    (device : BlockDevice P Ready contents capacity) (write : cbw.isWrite)
    (range : cbw.offset + cbw.nsectors ≤ capacity cbw.area)
    (opened : Opened P Ready contents initial cbw image start machine)
    (chunks : ∀ chunk ∈ packets ++ [packet], cbw.isChunk chunk)
    (all : bytesIn (packets ++ [packet]) = cbw.writeSize)
    (tag : csw.tag = cbw.tag) (good : csw.status = cswGood)
    (records : Records (handleIdle P start) machine (packets ++ [packet])
      ((cbw.writes 0 packets).map .write ++ .status csw ::
        (cbw.writesOf (cbw.blocksIn packets) packet).map .write)) :
    ∃ image', Holds Ready contents image' machine.platform ∧
      History initial machine.log image' := by
  obtain ⟨buf, owned, events, log, grown, unmarked, serves, platform⟩ :=
    opened.events
  obtain ⟨same, recorded, -, gathered, done⟩ := records
  obtain rfl : same = events := by
    apply (List.append_right_inj (handleIdle P start).log).mp
    rw [← recorded, grown]
  have statuses : csws same = [csw] := by
    rw [csws_eq_filterMap, done, List.filterMap_append, List.filterMap_cons,
      filterMap_writes, filterMap_writes]
    rfl
  have calls : written same = cbw.writes 0 (packets ++ [packet]) := by
    rw [written, done, List.filterMap_append, List.filterMap_cons,
      filterMap_call, filterMap_call, CbWrap.writes_snoc, Nat.zero_add]
    rfl
  have blocks : cbw.blocksIn (packets ++ [packet]) = cbw.nsectors := by
    have whole := bytesIn_chunks write chunks
    rw [all] at whole
    exact (Nat.mul_right_cancel write.block_pos whole).symm
  have inside : ∀ call ∈ written same, call.inside capacity := by
    rw [calls]
    apply write.inside_writes 0 chunks
    rwa [blocks, Nat.add_zero]
  obtain ⟨ready, held⟩ := opened.holds
  obtain ⟨still, contained⟩ := device.replay serves inside ready
  rw [calls, held, write.foldl_writes 0 chunks, Nat.add_zero] at contained
  rw [← platform] at still contained
  refine ⟨_, ⟨still, contained⟩, ?_⟩
  rw [log]
  refine (opened.loaded buf owned).command unmarked
    (.inr ⟨csw, statuses, tag, good⟩) ?_
  have entry : transaction (cbw, same) = some (.write cbw.area cbw.start
      cbw.size (packets ++ [packet]).flatten) := by
    rw [transaction, if_neg (by simp [statuses]),
      if_neg fun read => CbWrap.isRead.not_isWrite read write, gathered]
  rw [entry]
  refine .write ?_ .nil
  have length : (packets ++ [packet]).flatten.length =
      bytesIn (packets ++ [packet]) := List.length_flatten
  rw [length, all, CbWrap.writeSize, write.writeBlock_eq]
  rfl

theorem Session.of_writing {start : Machine σ} {actions : List Action}
    {packets : List (List UInt8)} {made : List Deed}
    (device : BlockDevice P Ready contents capacity) (write : cbw.isWrite)
    (range : cbw.offset + cbw.nsectors ≤ capacity cbw.area)
    (opened : Opened P Ready contents initial cbw image start machine)
    (progress : WriteProgress P cbw (handleIdle P start) actions machine
      packets made)
    (stage : WriteStage machine) (spent : Spent machine) :
    Session P Ready contents capacity initial machine := by
  have phase := progress.phase
  cases phase with
  | waiting waiting =>
      exact .writing write range opened progress (by simp [waiting.status])
        stage spent
  | holding holding =>
      exact .writing write range opened progress (by simp [holding.status])
        stage spent
  | completed idle counted empty posted all tag good =>
      have serving := progress.serving
      obtain ⟨image', holds, history⟩ := opened.writeDone device write range
        progress.chunks all tag good progress.records
      exact .waiting ⟨serving.running, serving.quiet, idle, spent, holds,
        history⟩ stage.known empty posted

theorem Settled.lowFormat (device : BlockDevice P Ready contents capacity)
    (settled : Settled Ready contents initial image machine) :
    Settled Ready contents initial image
      (machine.perform P .fwSorageLowFormat) :=
  settled.of_same rfl rfl rfl rfl
    (device.holds settled.holds (.inr ⟨rfl, rfl⟩)) rfl rfl rfl rfl rfl

theorem Session.startRead (device : BlockDevice P Ready contents capacity)
    (settled : Settled Ready contents initial image machine)
    (read : cbw.isRead) (some : 0 < cbw.nsectors)
    (range : ∀ c < cbw.nsectors, 128 ∣ c →
      cbw.offset + c + cbw.fillBlocks c ≤ capacity cbw.area)
    (received : CommandReceived cbw machine) :
    Session P Ready contents capacity initial (doRockusb P machine) := by
  have fills : FillsGood P (Holds Ready contents image)
      (HoldsBlocks (image cbw.area) cbw) cbw :=
    device.fillsGood read some range
  have empty := settled.spent.empty (by simp [received.idle])
  have stage : ReadStage (handleIdle P machine) := .started read received
  obtain ⟨buf, packet, prepared⟩ := received.prepared (P := P) read
  have taken := step_of_running (P := P) received.running
  have run : Run (step P) (fun _ action => action.servesRead) machine
      ([] ++ [.iterate]) (doRockusb P machine) := .snoc .nil trivial taken
  rcases readProgress_of_run read some received settled.holds fills
    (fun hit => absurd hit (cbw.not_hits some empty)) run with
      ⟨none, -⟩ | ⟨chunks, statuses, progress⟩
  · simp at none
  · have opened : Opened P Ready contents initial cbw image machine
        (handleIdle P machine) := by
      refine ⟨settled.history, ⟨buf, machine.outs.map Transfer.buf, ?_⟩, ?_,
        .refl _⟩
      · rw [prepared]
        simp [Machine.readPrepared, Machine.accept, packet]
      · rw [prepared]
        simpa [Machine.readPrepared, Machine.accept] using settled.holds
    have quiet : (handleIdle P machine).usbcmd.Quiet := by
      rw [prepared]
      simpa [Machine.readPrepared, Machine.accept, CmdRockusbInterface.Quiet]
        using received.quiet
    have inWindow : (handleIdle P machine).InWindow := by
      intro write
      rw [prepared] at write
      have opcode : cbw.opcode = kFwLbaWrite10 := by
        simpa [Machine.readPrepared, Machine.accept, packet] using write
      exact absurd (.inr opcode) (CbWrap.isRead.not_isWrite read)
    have iterated := stage.iterate (P := P)
    have serves := doRockusb_serves (P := P) stage.waits quiet inWindow
    rw [← doRockusb_dispatched stage.waits] at iterated serves
    exact .of_reading read fills (opened.extend serves) progress iterated
      (doRockusb_spent settled.spent)

theorem BlockDevice.ordinary (device : BlockDevice P Ready contents capacity)
    (write : cbw.isWrite)
    (range : cbw.offset + cbw.nsectors ≤ capacity cbw.area) :
    cbw.ordinary := by
  refine Nat.le_trans range ?_
  rcases write.area_cases with ⟨opcode, area⟩ | ⟨opcode, area⟩
  · rw [area, CbWrap.writeLimit, if_pos opcode]
    exact device.rawLimit
  · rw [area, CbWrap.writeLimit, opcode, if_neg (by decide)]
    exact device.logicalLimit

theorem WritePrepared.inKnown {start : Machine σ}
    (known : start.InKnown) (prepared : WritePrepared cbw machine)
    (ins : machine.ins = start.ins)
    (txGiveback : machine.usbcmd.txGiveback = start.usbcmd.txGiveback) :
    WriteStage machine :=
  ⟨known.of_same txGiveback ins, .inr (.inl prepared.status)⟩

theorem Session.startWrite (device : BlockDevice P Ready contents capacity)
    (settled : Settled Ready contents initial image machine)
    (write : cbw.isWrite) (some : 0 < cbw.nsectors)
    (range : cbw.offset + cbw.nsectors ≤ capacity cbw.area)
    (received : CommandReceived cbw machine) :
    Session P Ready contents capacity initial (doRockusb P machine) := by
  have free : machine.InFree := ⟨received.finished, received.ins⟩
  have reported : WriteReceived P cbw machine :=
    ⟨received.running, received.quiet, received.idle, received.received,
      received.packet, received.outs, device.unlocked _ settled.holds.1⟩
  have started : WriteStarted (Holds Ready contents image) cbw machine
      (handleIdle P machine) :=
    writeStarted write received.running received.quiet received.idle
      received.received received.packet received.outs settled.holds
  have stage : WriteStage (handleIdle P machine) :=
    started.prepared.inKnown (.inr free) started.ins started.txGiveback
  have progress := writeProgress_first device.lockOpen write some reported free
  have opened : Opened P Ready contents initial cbw image machine
      (handleIdle P machine) := by
    obtain ⟨buf, log⟩ := started.log
    refine ⟨settled.history, ⟨buf, [], ?_⟩, started.serving.platform, .refl _⟩
    rw [log, List.append_assoc]
    rfl
  have inWindow : (handleIdle P machine).InWindow := by
    intro _ full
    rw [started.prepared.empty] at full
    omega
  have iterated := stage.iterate (P := P)
  have serves := doRockusb_serves (P := P) stage.waits started.serving.quiet
    inWindow
  rw [← doRockusb_dispatched stage.waits] at iterated serves
  exact .of_writing device write range (opened.extend serves) progress iterated
    (doRockusb_spent settled.spent)

/-- A packet that is about to be handled goes to the media. -/
theorem WriteProgress.inWindow {start : Machine σ} {actions : List Action}
    {packets : List (List UInt8)} {made : List Deed} (write : cbw.isWrite)
    (ordinary : cbw.ordinary)
    (progress : WriteProgress P cbw start actions machine packets made) :
    machine.InWindow := by
  intro cmnd full
  have phase := progress.phase
  cases phase with
  | waiting waiting =>
      rw [waiting.empty] at full
      omega
  | completed _ _ empty =>
      rw [empty] at full
      omega
  | @holding packets packet holding position =>
      have opcode : cbw.opcode = kFwLbaWrite10 :=
        progress.serving.cmnd.symm.trans cmnd
      have block : cbw.writeBlock = 512 := by
        rw [CbWrap.writeBlock, opcode]
        rfl
      have limit : cbw.writeLimit = 0xFFF00000 := by
        rw [CbWrap.writeLimit, opcode, if_neg (by decide)]
      have inside := ordinary.inside write holding.atMost
      have some : 0 < cbw.blocksOf packet := by
        rw [holding.actual] at full
        rw [CbWrap.blocksOf, block]
        exact Nat.div_pos full (by decide)
      rw [position.lba, wrap32_of_lt (by omega)]
      exact lbaWindow_media (by omega)

theorem Session.iterate (device : BlockDevice P Ready contents capacity)
    (session : Session P Ready contents capacity initial machine) :
    Session P Ready contents capacity initial (doRockusb P machine) := by
  cases session with
  | waiting settled known empty outs =>
      rw [doRockusb_idle settled.idle empty settled.running settled.quiet]
      exact .waiting (settled.lowFormat device) known empty outs
  | received settled fits received =>
      obtain ⟨some, ⟨read, range⟩ | ⟨write, range⟩⟩ := fits
      · exact .startRead device settled read some range received
      · exact .startWrite device settled write some range received
  | @reading image cbw start actions chunks read fills opened progress stage
      spent =>
      have serving := progress.serving
      have inWindow : machine.InWindow := by
        intro cmnd
        have opcode : cbw.opcode = kFwLbaWrite10 :=
          serving.cmnd.symm.trans cmnd
        exact absurd (.inr opcode) (CbWrap.isRead.not_isWrite read)
      have serves := doRockusb_serves (P := P) stage.waits serving.quiet
        inWindow
      obtain ⟨chunks', statuses, progress'⟩ := progress.iterate fills
      exact .of_reading read fills (opened.extend serves) progress'
        stage.iterate (doRockusb_spent spent)
  | writing write range opened progress busy stage spent =>
      have ordinary := device.ordinary write range
      have serves := doRockusb_serves (P := P) stage.waits
        progress.serving.quiet (progress.inWindow write ordinary)
      obtain ⟨made, progress'⟩ :=
        progress.iterate device.lockOpen write ordinary
      exact .of_writing device write range (opened.extend serves) progress'
        stage.iterate (doRockusb_spent spent)

/-- A read that has not been answered waits for nothing from the host. -/
theorem ReadProgress.sending {Stable : σ → Prop} {Good : Nat → Memory → Prop}
    {start : Machine σ} {actions : List Action} {chunks : List (List UInt8)}
    (progress : ReadProgress Stable Good cbw start actions machine chunks [])
    (stage : ReadStage machine) :
    (machine.usbcmd.status = .txdataPrepare ∨
      machine.usbcmd.status = .csw) ∧ machine.outs = [] := by
  obtain ⟨ahead, filled, phase, -⟩ := progress.phase
  cases stage with
  | sending status outs => exact ⟨status, outs⟩
  | answered idle =>
      cases phase with
      | streaming _ _ streaming => simp [streaming.status] at idle
      | streamed _ streamed => simp [streamed.status] at idle

theorem Machine.InKnown.completeIn (known : machine.InKnown)
    {index actual : Nat} {transfer : Transfer}
    (outstanding : machine.ins[index]? = some transfer) :
    (completeIn machine index transfer 0 actual).InKnown := by
  right
  rcases known with ⟨-, only, posted⟩ | ⟨-, empty⟩
  · obtain ⟨-, emptied⟩ := only_transfer posted outstanding
    exact ⟨rfl, emptied⟩
  · simp [empty] at outstanding

theorem Session.inDone {index actual : Nat} {transfer : Transfer}
    (session : Session P Ready contents capacity initial machine)
    (outstanding : machine.ins[index]? = some transfer) :
    Session P Ready contents capacity initial
      (completeIn machine index transfer 0 actual) := by
  cases session with
  | waiting settled known empty outs =>
      have still : Settled Ready contents initial _
          (completeIn machine index transfer 0 actual) :=
        settled.of_same rfl rfl rfl rfl settled.holds rfl rfl rfl rfl rfl
      exact .waiting still (known.completeIn outstanding) empty outs
  | received settled fits received =>
      simp [received.ins] at outstanding
  | reading read fills opened progress stage spent =>
      have serves : Extends P Event.serves machine
          (completeIn machine index transfer 0 actual) :=
        ⟨[_], rfl, rfl, .of_same rfl, by simp [Event.serves]⟩
      obtain ⟨status, outs⟩ := progress.sending stage
      exact .reading read fills (opened.extend serves)
        (progress.inDone outstanding) (.sending status outs) spent
  | writing write range opened progress busy =>
      have phase := progress.phase
      cases phase with
      | waiting _ _ free => simp [free.2] at outstanding
      | holding _ _ free => simp [free.2] at outstanding
      | completed idle => exact absurd idle busy

theorem Session.outDone {index : Nat} {transfer : Transfer}
    {packet : List UInt8}
    (session : Session P Ready contents capacity initial machine)
    (outstanding : machine.outs[index]? = some transfer)
    (fits : packet.length ≤ transfer.len)
    (sends : machine.Disciplined capacity (.outDone index 0 packet)) :
    Session P Ready contents capacity initial
      (completeOut machine index transfer 0 packet) := by
  have sent := sends.2 transfer outstanding
  cases session with
  | @waiting image buf settled known empty outs =>
      obtain ⟨rfl, emptied⟩ := only_transfer outs outstanding
      have cbwSized : Transfer.isCbw ⟨buf, 31⟩ := rfl
      rw [if_pos cbwSized] at sent
      obtain ⟨none, length, command⟩ := sent
      have still : Settled Ready contents initial image
          (completeOut machine index ⟨buf, 31⟩ 0 packet) := by
        refine settled.of_same rfl rfl rfl rfl settled.holds rfl rfl rfl rfl ?_
        simp [dataPackets, Transfer.isCbw]
      have free : machine.usbcmd.txGiveback.status = .sendFinishedOk := by
        rcases known with ⟨-, only, posted⟩ | ⟨free, -⟩
        · simp [none] at posted
        · exact free
      refine .received still command ⟨settled.running, still.quiet,
        settled.idle, ?_, ⟨buf, rfl, ?_⟩, free, none, emptied⟩
      · simp [completeOut, length]
      · apply CbWrap.ofBuffer_congr
        intro position bound
        have inside : position < packet.length := by omega
        have read := @Memory.storeList_inside (machine.rxBuffer buf) 0 packet
          position inside
        rw [Nat.zero_add] at read
        simpa [completeOut, List.getD, inside] using read
  | received settled fits received =>
      simp [received.outs] at outstanding
  | reading read fills opened progress stage spent =>
      simp [(progress.sending stage).2] at outstanding
  | @writing image cbw start actions packets made write range opened progress
      busy stage spent =>
      have phase := progress.phase
      have data : ¬transfer.isCbw := by
        cases phase with
        | waiting _ _ _ posted =>
            obtain ⟨rfl, -⟩ := only_transfer posted outstanding
            exact nextLength_ne_cbw write _
        | holding holding => simp [holding.outs] at outstanding
        | completed idle => exact absurd idle busy
      rw [if_neg data, progress.serving.wrapper] at sent
      have serves : Extends P Event.serves machine
          (completeOut machine index transfer 0 packet) :=
        ⟨[_], rfl, rfl, .of_same rfl, by simp [Event.serves]⟩
      have stage' : WriteStage (completeOut machine index transfer 0 packet) :=
        ⟨stage.known.of_same rfl rfl,
          stage.stage.imp_right fun other => other.imp_right fun idle =>
            absurd idle.1 busy⟩
      exact .writing write range (opened.extend serves)
        (progress.outDone write outstanding sent.1 sent.2 fits) busy stage'
        spent

theorem Session.step {action : Action}
    (device : BlockDevice P Ready contents capacity)
    (session : Session P Ready contents capacity initial machine)
    (sends : machine.Disciplined capacity action)
    (taken : step P machine action = some after) :
    Session P Ready contents capacity initial after := by
  cases action with
  | iterate =>
      obtain rfl := step_iterate taken
      exact session.iterate device
  | inDone index status actual =>
      obtain rfl : status = 0 := sends
      obtain ⟨transfer, outstanding, rfl⟩ := step_inDone taken
      exact session.inDone outstanding
  | outDone index status packet =>
      obtain rfl : status = 0 := sends.1
      obtain ⟨transfer, outstanding, fits, rfl⟩ := step_outDone taken
      exact session.outDone outstanding fits sends
  | outDrop => exact sends.elim
  | bus => exact sends.elim

theorem Session.configured {zero : GivebackStatus} {rx tx : Fin 2 → Memory}
    {platform : σ} (ready : Ready platform) :
    Session P Ready contents capacity (contents platform)
      (rkusbEventHandlerForDwc3 (startMachine zero rx tx platform) 2) := by
  have flag : (rkusbEventHandlerForDwc3
      (startMachine zero rx tx platform) 2).usbcmd.resetFlag = 0 := rfl
  refine @Session.waiting σ P Ready contents capacity _ _ (contents platform) 0
    ⟨rfl, by simp [CmdRockusbInterface.Quiet, flag], rfl, .inr rfl,
      ⟨ready, rfl⟩, ?_⟩ (.inr ⟨rfl, rfl⟩) rfl rfl
  have start : History (contents platform) ([] : List (Event σ))
      (contents platform) := ⟨.nil, fun _ member => by cases member⟩
  exact start.append rfl rfl rfl rfl

/-- What a run shows: the commands answered so far are those of arrays that
are accessed sequentially, each has one good status, and between commands the
device holds the arrays. -/
structure SessionOutcome (contents : σ → Area → Memory) (start : σ)
    (machine : Machine σ) : Prop where
  running : machine.control = .running
  acknowledged : ∀ part ∈ sections Event.command? machine.log,
    Acknowledged part
  serializes : ∃ image,
    Serializes (contents start) (transactions machine.log) image ∧
      (machine.usbcmd.status = .idle → contents machine.platform = image)

theorem Opened.pending {start : Machine σ}
    (opened : Opened P Ready contents initial cbw image start machine)
    (statuses : ∀ events, machine.log = (handleIdle P start).log ++ events →
      csws events = []) :
    History initial machine.log image := by
  obtain ⟨buf, owned, events, log, grown, unmarked, -, -⟩ := opened.events
  rw [log]
  exact (opened.loaded buf owned).pending unmarked (statuses events grown)

theorem WriteProgress.noStatus {start : Machine σ} {actions : List Action}
    {packets : List (List UInt8)} {made : List Deed}
    (progress : WriteProgress P cbw start actions machine packets made)
    (busy : machine.usbcmd.status ≠ .idle) {events : List (Event σ)}
    (grown : machine.log = start.log ++ events) : csws events = [] := by
  obtain ⟨same, recorded, -, -, done⟩ := progress.records
  obtain rfl : same = events := by
    apply (List.append_right_inj start.log).mp
    rw [← recorded, grown]
  rw [csws_eq_filterMap, done]
  have phase := progress.phase
  cases phase with
  | waiting => exact filterMap_writes _
  | holding => exact filterMap_writes _
  | completed idle => exact absurd idle busy

theorem ReadProgress.noStatus {Stable : σ → Prop} {Good : Nat → Memory → Prop}
    {start : Machine σ} {actions : List Action} {chunks : List (List UInt8)}
    (opened : Opened P Ready contents initial cbw image start machine)
    (progress : ReadProgress Stable Good cbw start actions machine chunks [])
    {events : List (Event σ)}
    (grown : machine.log = (handleIdle P start).log ++ events) :
    csws events = [] := by
  obtain ⟨ahead, filled, -, ⟨all, log, -, statuses, -⟩, -⟩ := progress.phase
  obtain ⟨buf, owned, dispatched⟩ := opened.log
  have split : all = [.rxLoad buf owned, .command cbw] ++ events := by
    apply (List.append_right_inj start.log).mp
    rw [← log, grown, dispatched, List.append_assoc]
  rw [split, csws_append] at statuses
  exact (List.append_eq_nil_iff.mp statuses).2

theorem Session.outcome {start : σ}
    (session : Session P Ready contents capacity (contents start) machine) :
    SessionOutcome contents start machine := by
  cases session with
  | waiting settled =>
      exact ⟨settled.running, settled.history.acknowledged, _,
        settled.history.serializes, fun _ => settled.holds.2⟩
  | received settled =>
      exact ⟨settled.running, settled.history.acknowledged, _,
        settled.history.serializes, fun _ => settled.holds.2⟩
  | reading read fills opened progress stage =>
      have history := opened.pending fun events grown =>
        progress.noStatus opened grown
      refine ⟨progress.serving.running, history.acknowledged, _,
        history.serializes, ?_⟩
      intro idle
      rcases (progress.sending stage).1 with data | csw
      · simp [data] at idle
      · simp [csw] at idle
  | writing write range opened progress busy =>
      have history := opened.pending fun events grown =>
        progress.noStatus busy grown
      exact ⟨progress.serving.running, history.acknowledged, _,
        history.serializes, fun idle => absurd idle busy⟩

theorem sessionOutcome_of_run
    (device : BlockDevice P Ready contents capacity) {zero : GivebackStatus}
    {rx tx : Fin 2 → Memory} {platform : σ} (ready : Ready platform)
    {actions : List Action}
    (run : Run (step P)
      (fun machine action => machine.Disciplined capacity action)
      (rkusbEventHandlerForDwc3 (startMachine zero rx tx platform) 2) actions
      machine) :
    SessionOutcome contents platform machine := by
  have session : Session P Ready contents capacity (contents platform)
      machine := by
    apply run.invariant (.configured ready)
    intro state action next session sends taken
    exact session.step device sends taken
  exact session.outcome

/-- A session is one of two arrays of blocks that are accessed by one command
after the other, whatever the order of iterations and completions. -/
theorem session_serializes (device : BlockDevice P Ready contents capacity)
    {zero : GivebackStatus} {rx tx : Fin 2 → Memory} {platform : σ}
    (ready : Ready platform) {actions : List Action}
    (run : Run (step P)
      (fun machine action => machine.Disciplined capacity action)
      (rkusbEventHandlerForDwc3 (startMachine zero rx tx platform) 2) actions
      machine) :
    SessionOutcome contents platform machine :=
  sessionOutcome_of_run device ready run

instance (machine : Machine σ) :
    ∀ action, Decidable (machine.Disciplined capacity action)
  | .iterate => .isTrue trivial
  | .inDone _ status _ => inferInstanceAs (Decidable (status = 0))
  | .outDone index status packet => inferInstanceAs (Decidable (status = 0 ∧
      ∀ transfer ∈ machine.outs[index]?,
        if transfer.isCbw then
          machine.ins = [] ∧ packet.length = 31 ∧
            (packetCbw packet).fits capacity
        else
          0 < packet.length ∧
            machine.usbcmd.cbw.writeBlock ∣ packet.length))
  | .outDrop _ => .isFalse id
  | .bus _ => .isFalse id

/-- A storage that is its contents. -/
def ramDisk : Platform (Area → Memory) :=
  { reply := fun arrays call =>
      match call with
      | .storageReadPba lba blocks =>
          ⟨0, blocks * 528, fun offset => arrays .raw (lba * 528 + offset)⟩
      | .storageReadLba lba blocks =>
          ⟨0, blocks * 512, fun offset => arrays .logical (lba * 512 + offset)⟩
      | _ => ⟨0, 0, fun _ => 0⟩
    next := fun arrays call => call.applyTo arrays
    secureBootLock := fun _ => 0
    ftlOk := 0 }

theorem ramDisk_device : BlockDevice ramDisk (fun _ => True) id
    (fun _ => 1024) := by
  refine ⟨by decide, by decide, fun _ _ _ _ => rfl, fun _ _ => rfl, ?_, ?_,
    fun _ _ _ _ => ⟨trivial, rfl⟩⟩
  · intro arrays call quiet _
    refine ⟨trivial, ?_⟩
    cases call with
    | storageWriteLba => simp [Call.isLoad, Call.isWrite] at quiet
    | storageWritePba => simp [Call.isLoad, Call.isWrite] at quiet
    | _ => rfl
  · intro area arrays lba blocks _ _
    cases area with
    | raw =>
        refine ⟨rfl, Memory.length_bytes.symm, ?_⟩
        apply Memory.bytes_congr
        intro offset _
        exact congrArg (fun place => arrays .raw (_ + place)) (Nat.zero_add _)
    | logical =>
        refine ⟨rfl, Memory.length_bytes.symm, ?_⟩
        apply Memory.bytes_congr
        intro offset _
        exact congrArg (fun place => arrays .logical (_ + place))
          (Nat.zero_add _)

private def diskStart : Machine (Area → Memory) :=
  configuredMachine (fun _ _ => 0) (fun _ _ => 0) fun _ _ => 0

/-- Block 5 is written and read again. -/
private def rereadActions : List Action :=
  [.outDone 0 0 (cbwPacket 7 512 0x15 0 5 1), .iterate,
    .outDone 0 0 (List.replicate 512 1), .iterate, .inDone 0 0 13,
    .outDone 0 0 (cbwPacket 8 512 0x14 0 5 1), .iterate, .inDone 0 0 512,
    .iterate]

/-- A write of block 5 and a read of it, whatever the answer. -/
private def rereads : List (Transaction Area) → Bool
  | [.write written start count data, .read area first size _] =>
      written = .logical ∧ start = 2560 ∧ count = 512 ∧
        data = List.replicate 512 1 ∧ area = .logical ∧ first = 2560 ∧
        size = 512
  | _ => false

private theorem exists_of_rereads {history : List (Transaction Area)}
    (same : rereads history = true) :
    ∃ answer, history =
      [.write .logical 2560 512 (List.replicate 512 1),
        .read .logical 2560 512 answer] := by
  match history, same with
  | [.write _ _ _ _, .read _ _ _ answer], same =>
      obtain ⟨rfl, rfl, rfl, rfl, rfl, rfl, rfl⟩ := of_decide_eq_true same
      exact ⟨answer, rfl⟩

private theorem exists_reread :
    ∃ (machine : Machine (Area → Memory)) (answer : List UInt8),
      Run (step ramDisk)
        (fun machine action => machine.Disciplined (fun _ => 1024) action)
        diskStart rereadActions machine ∧
      transactions machine.log =
        [.write .logical 2560 512 (List.replicate 512 1),
          .read .logical 2560 512 answer] := by
  have passed : (execute (step ramDisk) (fun machine action =>
      machine.Disciplined (fun _ => 1024) action) diskStart
      rereadActions).any (fun machine => rereads (transactions machine.log)) =
        true := by
    decide +kernel
  obtain ⟨final, run, same⟩ := Run.exists_of_execute passed
  obtain ⟨answer, history⟩ := exists_of_rereads same
  exact ⟨final, answer, run, history⟩

theorem session_serializes_reread :
    ∃ machine : Machine (Area → Memory),
      (transactions machine.log).length = 2 ∧
      SessionOutcome id diskStart.platform machine := by
  obtain ⟨final, answer, run, same⟩ := exists_reread
  refine ⟨final, by rw [same]; rfl, ?_⟩
  exact session_serializes ramDisk_device trivial run

/-- A read of blocks that were written, and not since, returns them. -/
theorem session_reads_back (device : BlockDevice P Ready contents capacity)
    {zero : GivebackStatus} {rx tx : Fin 2 → Memory} {platform : σ}
    (ready : Ready platform) {actions : List Action}
    (run : Run (step P)
      (fun machine action => machine.Disciplined capacity action)
      (rkusbEventHandlerForDwc3 (startMachine zero rx tx platform) 2) actions
      machine)
    {earlier between later : List (Transaction Area)} {area : Area}
    {start count : Nat} {data answer : List UInt8}
    (history : transactions machine.log =
      earlier ++ .write area start count data ::
        (between ++ .read area start count answer :: later))
    (avoids : ∀ transaction ∈ between, transaction.avoids area start count) :
    answer = data := by
  obtain ⟨image, serializes, -⟩ :=
    (sessionOutcome_of_run device ready run).serializes
  rw [history] at serializes
  exact serializes.reads_back avoids

theorem session_reads_back_reread :
    ∃ (machine : Machine (Area → Memory)) (answer : List UInt8),
      transactions machine.log =
        [.write .logical 2560 512 (List.replicate 512 1),
          .read .logical 2560 512 answer] ∧
      answer = List.replicate 512 1 := by
  obtain ⟨final, answer, run, history⟩ := exists_reread
  exact ⟨final, answer, history,
    @session_reads_back _ _ final _ _ _ ramDisk_device _ _ _ _ trivial _ run
      [] [] [] _ _ _ _ _ history (by simp)⟩

end KernelDrivers.Rockusb
