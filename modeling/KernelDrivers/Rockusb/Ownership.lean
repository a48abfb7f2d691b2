import KernelDrivers.Rockusb.Dispatch
import KernelDrivers.Rockusb.Host
import KernelDrivers.Rockusb.Iteration
import KernelDrivers.Rockusb.Reading

/-!
# Ownership of the buffers

A transfer under way owns its buffer.  The loop writes and reads only the
other half of each pair, whatever the commands and the order of completions.
-/

namespace KernelDrivers.Rockusb

open KernelDrivers.Library

variable {σ : Type} {P : Platform σ} {machine after : Machine σ}

/-- An access of the CPU finds its buffer free. -/
def Event.respects : Event σ → Prop
  | .txStore buf owned => buf ∉ owned
  | .rxLoad buf owned => buf ∉ owned
  | _ => True

theorem two_flips (index : Fin 2) : index + 1 + 1 = index := by
  revert index
  decide

theorem flip_ne (index : Fin 2) : index ≠ index + 1 := by
  revert index
  decide

/-- At most one transfer of each direction is under way, from the half that
was left behind when the index was flipped. -/
structure Owned (machine : Machine σ) : Prop where
  log : ∀ event ∈ machine.log, event.respects
  ins : machine.ins = [] ∨
    (∃ len, machine.ins = [⟨machine.usbcmd.txbufNum + 1, len⟩]) ∧
      machine.usbcmd.txGiveback.status = .sendInProgress
  outs : machine.outs = [] ∨
    (∃ len, machine.outs = [⟨machine.usbcmd.rxbufNum + 1, len⟩]) ∧
      machine.usbcmd.rxGiveback.status = .recvReady ∧
      machine.usbcmd.rxGiveback.actual = 0
  buf : ∀ buf, machine.usbcmd.rxGiveback.buf = some buf →
    buf = machine.usbcmd.rxbufNum + 1

/-- Which transfers may be under way at each stage of a command. -/
def Staged (machine : Machine σ) : Prop :=
  match machine.usbcmd.status with
  | .idle => (0 < machine.usbcmd.rxGiveback.actual → machine.ins = []) ∧
      ∀ transfer ∈ machine.outs, transfer.isCbw
  | .cmd => True
  | .rxdata => True
  | .txdata => machine.ins = [] ∧ machine.outs = []
  | .txdataPrepare => (machine.usbcmd.uBytes = 0 → machine.ins = []) ∧
      machine.outs = [] ∧ machine.usbcmd.uBytes ≤ machine.usbcmd.uSize ∧
      machine.usbcmd.uSize < 4294967296
  | .rxdataPrepare => machine.outs = []
  | .csw => machine.outs = []

namespace Owned

theorem free_ins (owned : Owned machine)
    (finished : machine.usbcmd.txGiveback.status = .sendFinishedOk) :
    machine.ins = [] := by
  refine owned.ins.resolve_right ?_
  intro busy
  rw [finished] at busy
  cases busy.2

theorem free_outs (owned : Owned machine)
    (received : machine.usbcmd.rxGiveback.status ≠ .recvReady ∨
      0 < machine.usbcmd.rxGiveback.actual) :
    machine.outs = [] := by
  refine owned.outs.resolve_right ?_
  intro busy
  cases received with
  | inl other => exact other busy.2.1
  | inr some => omega

theorem tx_free (owned : Owned machine) :
    machine.usbcmd.txbufNum ∉ machine.ins.map Transfer.buf := by
  cases owned.ins with
  | inl empty => simp [empty]
  | inr busy =>
      obtain ⟨⟨len, posted⟩, -⟩ := busy
      rw [posted, List.map_singleton, List.mem_singleton]
      exact flip_ne _

theorem of_log (owned : Owned machine)
    (log : ∀ event ∈ after.log, event.respects)
    (ins : after.ins = machine.ins) (outs : after.outs = machine.outs)
    (txbufNum : after.usbcmd.txbufNum = machine.usbcmd.txbufNum)
    (rxbufNum : after.usbcmd.rxbufNum = machine.usbcmd.rxbufNum)
    (txGiveback : after.usbcmd.txGiveback = machine.usbcmd.txGiveback)
    (rxGiveback : after.usbcmd.rxGiveback = machine.usbcmd.rxGiveback ∨
      after.usbcmd.rxGiveback =
        { machine.usbcmd.rxGiveback with actual := 0 }) :
    Owned after := by
  refine ⟨log, ?_, ?_, ?_⟩
  · rw [ins, txbufNum, txGiveback]
    exact owned.ins
  · rw [outs, rxbufNum]
    refine owned.outs.imp_right (fun busy => ⟨busy.1, ?_⟩)
    cases rxGiveback with
    | inl same => rw [same]; exact busy.2
    | inr cleared => rw [cleared]; exact ⟨busy.2.1, rfl⟩
  · rw [rxbufNum]
    intro buf inBuf
    refine owned.buf buf ?_
    cases rxGiveback with
    | inl same => rw [← same]; exact inBuf
    | inr cleared => rw [cleared] at inBuf; exact inBuf

theorem postIn (owned : Owned machine) (free : machine.ins = [])
    (len : Nat) :
    Owned (machine.rkusbWriteBulkEp len machine.usbcmd.txbufNum).flipTx := by
  refine ⟨?_, .inr ⟨⟨len, ?_⟩, rfl⟩, owned.outs, owned.buf⟩
  · exact List.forall_mem_append.mpr
      ⟨owned.log, by simp [Event.respects]⟩
  · simp [free, two_flips]

theorem postOut (owned : Owned machine) (free : machine.outs = [])
    (len : Nat) :
    Owned (machine.rkusbReadBulkEp len machine.usbcmd.rxbufNum).flipRx := by
  refine ⟨?_, owned.ins, .inr ⟨⟨len, ?_⟩, rfl, rfl⟩, ?_⟩
  · exact List.forall_mem_append.mpr
      ⟨owned.log, by simp [Event.respects]⟩
  · simp [free, two_flips]
  · intro buf inBuf
    cases inBuf

theorem of_answers {permitted : Call → Prop} (owned : Owned machine)
    (answers : Answers P permitted machine after) :
    Owned after := by
  obtain ⟨size, csw, flag, status, usbcmd⟩ := answers.usbcmd
  have respects : ∀ event ∈ after.log, event.respects := by
    refine answers.log.forall_log ?_ owned.log
    intro event allowed
    cases allowed with
    | inl called =>
        obtain ⟨call, reply, rfl, -⟩ := called
        trivial
    | inr stored =>
        subst stored
        exact owned.tx_free
  refine owned.of_log respects answers.ins answers.outs ?_ ?_ ?_ (.inl ?_)
  all_goals rw [usbcmd]

end Owned

theorem readSize_lt (cbw : CbWrap) (cmnd : Nat) :
    cbw.nsectors * txBlockLength cmnd < 4294967296 := by
  have count := cbw.nsectors_lt
  unfold txBlockLength
  split
  · omega
  · split <;> omega

theorem Owned.dispatched (owned : Owned machine)
    (ins : machine.ins = []) (outs : machine.outs = [])
    (status : machine.usbcmd.status = .cmd)
    (dispatched : Dispatched P (fun _ => True) machine after) :
    Owned after ∧ Staged after := by
  cases dispatched with
  | unknown => exact ⟨owned, by simp only [Staged, status]⟩
  | answered answers csw =>
      refine ⟨owned.of_answers answers, ?_⟩
      simp only [Staged, csw, answers.outs, outs]
  | data answers txdata =>
      refine ⟨owned.of_answers answers, ?_⟩
      simp only [Staged, txdata, answers.ins, ins, answers.outs, outs, and_self]
  | read _ block =>
      refine ⟨owned.of_log owned.log rfl rfl rfl rfl rfl
        (.inl rfl), ?_⟩
      exact ⟨fun _ => ins, outs, Nat.zero_le _, block ▸ readSize_lt _ _⟩
  | write _ _ =>
      exact ⟨owned.of_log owned.log rfl rfl rfl rfl rfl
        (.inr rfl), outs⟩

theorem handleIdle_owned (owned : Owned machine) (staged : Staged machine) :
    Owned (handleIdle P machine) ∧ Staged (handleIdle P machine) := by
  rcases handleIdle_cases (P := P) machine with
    same | fault | ⟨buf, idle, received, -, dispatch⟩
  · rw [same]
    exact ⟨owned, staged⟩
  · rw [fault]
    exact ⟨owned.of_log owned.log rfl rfl rfl rfl rfl (.inl rfl), trivial⟩
  · have outs := owned.free_outs (.inr received)
    have ins : machine.ins = [] := by
      unfold Staged at staged
      rw [idle] at staged
      exact staged.1 received
    have accepted : Owned (machine.accept buf) := by
      have grown : (machine.accept buf).log = machine.log ++
          [.rxLoad buf [], .command (CbWrap.ofBuffer (machine.rxBuffer buf))]
          := by
        simp [Machine.accept, outs]
      have loaded : ∀ event ∈ (machine.accept buf).log, event.respects := by
        rw [grown]
        exact List.forall_mem_append.mpr
          ⟨owned.log, by simp [Event.respects]⟩
      exact owned.of_log loaded rfl rfl rfl rfl rfl (.inl rfl)
    rw [dispatch]
    exact accepted.dispatched ins outs rfl (fwDispatch_any _)

/-- Nothing but the last transfer posted is under way in the OUT direction. -/
def OutFrom (index : Fin 2) (machine : Machine σ) : Prop :=
  ∀ transfer ∈ machine.outs, transfer.buf = index

theorem rkusbSendCsw_owned (owned : Owned machine) (staged : Staged machine)
    (outs : machine.outs = []) :
    (Owned (rkusbSendCsw machine) ∧ Staged (rkusbSendCsw machine)) ∧
      OutFrom machine.usbcmd.rxbufNum (rkusbSendCsw machine) := by
  by_cases ready : machine.usbcmd.txGiveback.status = .sendFinishedOk
  · have sent := rkusbSendCsw_ready ready
    have ins := owned.free_ins ready
    refine ⟨⟨⟨?_, .inr ⟨⟨13, ?_⟩, ?_⟩, .inr ⟨⟨31, ?_⟩, ?_, ?_⟩, ?_⟩, ?_⟩, ?_⟩
    · rw [sent.log, ins]
      exact List.forall_mem_append.mpr
        ⟨owned.log, by simp [Event.respects]⟩
    · simp [sent.ins, sent.usbcmd, ins, two_flips]
    · rw [sent.usbcmd]
    · simp [sent.outs, sent.usbcmd, outs, two_flips]
    · rw [sent.usbcmd]
    · rw [sent.usbcmd]
    · intro buf inBuf
      rw [sent.usbcmd] at inBuf
      cases inBuf
    · unfold Staged
      rw [sent.usbcmd, sent.outs, outs]
      simp [Transfer.isCbw]
    · rw [OutFrom, sent.outs, outs]
      simp
  · rw [rkusbSendCsw_busy ready]
    exact ⟨⟨owned, staged⟩, by simp [OutFrom, outs]⟩

theorem Owned.of_stored {buf : Option (Fin 2)} (owned : Owned machine)
    (free : ∀ loaded, buf = some loaded →
      loaded ∉ machine.outs.map Transfer.buf)
    (stored : Stored P buf machine after) : Owned after := by
  obtain ⟨lba, usbcmd⟩ := stored.usbcmd
  have respects : ∀ event ∈ after.log, event.respects := by
    refine stored.log.forall_log ?_ owned.log
    intro event allowed
    cases allowed with
    | inl called =>
        obtain ⟨call, reply, rfl⟩ := called
        trivial
    | inr load =>
        obtain ⟨loaded, inBuf, rfl⟩ := load
        exact free loaded inBuf
  refine owned.of_log respects stored.ins stored.outs ?_ ?_ ?_ (.inl ?_)
  all_goals rw [usbcmd]

theorem Staged.of_stored {buf : Option (Fin 2)} (staged : Staged machine)
    (stored : Stored P buf machine after) : Staged after := by
  obtain ⟨lba, usbcmd⟩ := stored.usbcmd
  unfold Staged at staged ⊢
  rw [usbcmd, stored.ins, stored.outs]
  exact staged

theorem requestData_owned (owned : Owned machine) (outs : machine.outs = []) :
    (Owned machine.requestData ∧ Staged machine.requestData) ∧
      OutFrom machine.usbcmd.rxbufNum machine.requestData := by
  have posted := fun len => owned.postOut outs len
  refine ⟨⟨?_, trivial⟩, ?_⟩
  · exact (posted _).of_log (posted _).log rfl rfl rfl rfl rfl
      (.inl rfl)
  · intro transfer member
    simp only [Machine.requestData, Machine.setStatus_outs, Machine.flipRx_outs,
      Machine.rkusbReadBulkEp_outs, outs, List.nil_append,
      List.mem_singleton] at member
    rw [member]

theorem rkusbHandleDatarx_owned (owned : Owned machine)
    (staged : machine.usbcmd.status = .rxdata ∨
      machine.usbcmd.status = .rxdataPrepare) (outs : machine.outs = []) :
    Owned (rkusbHandleDatarx P machine) ∧
      Staged (rkusbHandleDatarx P machine) := by
  have counted : Owned machine.countData ∧
      machine.countData.usbcmd.rxbufNum = machine.usbcmd.rxbufNum ∧
      machine.countData.usbcmd.status = machine.usbcmd.status ∧
      machine.countData.outs = [] := by
    unfold Machine.countData
    dsimp only
    split
    · exact ⟨owned.of_log owned.log rfl rfl rfl rfl rfl (.inl rfl), rfl, rfl,
        outs⟩
    · exact ⟨owned, rfl, rfl, outs⟩
  obtain ⟨ownedCount, index, status, outsCount⟩ := counted
  have moved : ∀ next : Machine σ,
      (Owned next ∧ Staged next) ∧ OutFrom machine.usbcmd.rxbufNum next →
      Owned (writeMedia P next machine.usbcmd.rxGiveback.buf
          (machine.usbcmd.rxGiveback.actual /
            rxBlockLength machine.usbcmd.cmnd)) ∧
        Staged (writeMedia P next machine.usbcmd.rxGiveback.buf
          (machine.usbcmd.rxGiveback.actual /
            rxBlockLength machine.usbcmd.cmnd)) := by
    intro next result
    obtain ⟨⟨ownedNext, stagedNext⟩, from_⟩ := result
    have stored := Stored.writeMedia (P := P) next
      machine.usbcmd.rxGiveback.buf (machine.usbcmd.rxGiveback.actual /
        rxBlockLength machine.usbcmd.cmnd)
    refine ⟨ownedNext.of_stored ?_ stored, stagedNext.of_stored stored⟩
    intro loaded inBuf member
    obtain ⟨transfer, posted, same⟩ := List.mem_map.mp member
    rw [from_ transfer posted, owned.buf loaded inBuf] at same
    exact flip_ne _ same
  unfold rkusbHandleDatarx
  dsimp only
  refine moved _ ?_
  rw [← index]
  split
  · exact requestData_owned ownedCount outsCount
  · unfold Machine.finishData
    have replied : Owned
        (machine.countData.replyGood machine.countData.usbcmd.status) :=
      ownedCount.of_log ownedCount.log rfl rfl rfl rfl rfl (.inl rfl)
    refine rkusbSendCsw_owned replied ?_ outsCount
    unfold Staged
    cases staged with
    | inl rxdata => simp [status, rxdata]
    | inr prepare => simp [status, prepare, outsCount]

/-- What a passed hit test sends is not empty and not more than is left. -/
theorem txdataSize_bounds {usbcmd : CmdRockusbInterface}
    (hit : usbcmd.prereadHit) :
    0 < usbcmd.txdataSize ∧ usbcmd.txdataSize ≤ usbcmd.txRemaining := by
  have some := hit.1
  unfold CmdRockusbInterface.txBlocks at some
  unfold CmdRockusbInterface.txdataSize
  dsimp only
  generalize usbcmd.txRemaining = left at some ⊢
  generalize txBlockLength usbcmd.cmnd = block at some ⊢
  have blocks : left / block ≠ 0 := by
    intro zero
    rw [zero] at some
    exact some (Nat.zero_min _)
  have positive : 0 < block := by
    refine Nat.pos_of_ne_zero ?_
    rintro rfl
    exact blocks (Nat.div_zero left)
  have fits := Nat.div_mul_le_self left block
  split
  · rename_i full
    have cut := Nat.mul_le_mul_right block full
    exact ⟨Nat.mul_pos (by decide) positive, Nat.le_trans cut fits⟩
  · have whole := (Nat.div_pos_iff.mp (Nat.pos_of_ne_zero blocks)).2
    exact ⟨Nat.lt_of_lt_of_le positive whole, Nat.le_refl _⟩

/-- A data stage to the host, with a free OUT endpoint. -/
structure Sending (machine : Machine σ) : Prop where
  owned : Owned machine
  status : machine.usbcmd.status = .txdataPrepare
  first : machine.usbcmd.uBytes = 0 → machine.ins = []
  outs : machine.outs = []
  sent : machine.usbcmd.uBytes ≤ machine.usbcmd.uSize
  size : machine.usbcmd.uSize < 4294967296

theorem Sending.staged (sending : Sending machine) : Staged machine := by
  unfold Staged
  rw [sending.status]
  exact ⟨sending.first, sending.outs, sending.sent, sending.size⟩

theorem Sending.of_preRead (sending : Sending machine) {preRead : Preread}
    (log : ∀ event ∈ after.log, event.respects)
    (usbcmd : after.usbcmd = { machine.usbcmd with preRead := preRead })
    (ins : after.ins = machine.ins) (outs : after.outs = machine.outs) :
    Sending after := by
  have fields := fun {α : Type} (field : CmdRockusbInterface → α) =>
    congrArg field usbcmd
  refine ⟨?_, ?_, ?_, ?_, ?_, ?_⟩
  · exact sending.owned.of_log log ins outs (fields (·.txbufNum))
      (fields (·.rxbufNum)) (fields (·.txGiveback)) (.inl (fields (·.rxGiveback)))
  · exact (fields (·.status)).trans sending.status
  · rw [usbcmd, ins]
    exact sending.first
  · rw [outs, sending.outs]
  · rw [usbcmd]
    exact sending.sent
  · rw [usbcmd]
    exact sending.size

theorem Sending.planPreread (sending : Sending machine) (blocks : Nat) :
    Sending (planPreread P machine blocks) := by
  unfold Rockusb.planPreread
  split
  · exact sending.of_preRead sending.owned.log rfl rfl rfl
  · split
    · have noted : Sending (machine.notePreread blocks) :=
        sending.of_preRead sending.owned.log rfl rfl rfl
      unfold preread
      dsimp only
      split
      · exact noted
      · have filled : Answers P (fun _ => True) (machine.notePreread blocks) _ :=
          .readMedia _ blocks (fun _ _ => trivial)
        have owned := noted.owned.of_answers filled
        exact noted.of_preRead owned.log (readMedia_usbcmd _ _ _) filled.ins
          filled.outs
    · exact sending

theorem Sending.sendPreread (sending : Sending machine)
    (free : machine.ins = []) (hit : machine.usbcmd.prereadHit) :
    Sending machine.sendPreread ∧
      machine.sendPreread.usbcmd.uBytes ≠ 0 := by
  obtain ⟨some, fits⟩ := txdataSize_bounds hit
  have sent := sending.sent
  have size := sending.size
  rw [CmdRockusbInterface.txRemaining, sub32_of_le sent size] at fits
  have moved : machine.sendPreread.usbcmd.uBytes =
      machine.usbcmd.uBytes + machine.usbcmd.txdataSize := by
    rw [sendPreread_usbcmd]
    exact wrap32_of_lt (by omega)
  have progress : machine.sendPreread.usbcmd.uBytes ≠ 0 := by omega
  refine ⟨⟨?_, ?_, fun zero => absurd zero progress, ?_, ?_, ?_⟩, progress⟩
  · refine ⟨?_, .inr ⟨⟨machine.usbcmd.txdataSize, ?_⟩, ?_⟩, .inl ?_, ?_⟩
    · rw [sendPreread_log]
      exact List.forall_mem_append.mpr
        ⟨sending.owned.log, by simp [Event.respects]⟩
    · simp [free, two_flips]
    · rw [sendPreread_usbcmd]
    · rw [sendPreread_outs, sending.outs]
    · rw [sendPreread_usbcmd]
      exact sending.owned.buf
  · rw [sendPreread_usbcmd]
    exact sending.status
  · rw [sendPreread_outs, sending.outs]
  · rw [moved, sendPreread_usbcmd]
    dsimp only
    omega
  · rw [sendPreread_usbcmd]
    exact size

theorem Sending.round (sending : Sending machine) (free : machine.ins = []) :
    Sending (datatxRound P machine) ∧
      ((datatxRound P machine).usbcmd.uBytes = 0 →
        (datatxRound P machine).ins = []) := by
  unfold datatxRound
  split
  · rename_i hit
    have planned := ((sending.sendPreread free hit).1.planPreread
      (P := P) machine.usbcmd.txBlocks)
    exact ⟨planned, planned.first⟩
  · have planned := sending.planPreread (P := P) machine.usbcmd.txBlocks
    exact ⟨planned, planned.first⟩

theorem Sending.rounds (fuel : Nat) (sending : Sending machine)
    (free : machine.ins = [])
    (ended : datatxRounds P fuel machine = some after) :
    Sending after := by
  induction fuel generalizing machine with
  | zero => cases ended
  | succ fuel induction =>
      obtain ⟨next, stays⟩ := sending.round (P := P) free
      rw [datatxRounds] at ended
      split at ended
      · rename_i zero
        exact induction next (stays zero) ended
      · cases ended
        exact next

theorem rkusbHandleDatatx_owned (sending : Sending machine)
    (free : machine.ins = []) :
    Owned (rkusbHandleDatatx P machine) ∧
      Staged (rkusbHandleDatatx P machine) := by
  unfold rkusbHandleDatatx
  cases ended : datatxRounds P 2 machine with
  | none =>
      refine ⟨?_, sending.staged⟩
      exact sending.owned.of_log sending.owned.log rfl rfl rfl rfl rfl (.inl rfl)
  | some after =>
      have rounds := sending.rounds 2 free ended
      rw [Option.elim_some, Machine.finishDatatx]
      split
      · exact ⟨rounds.owned.of_log rounds.owned.log rfl rfl rfl rfl rfl
          (.inl rfl), rounds.outs⟩
      · exact ⟨rounds.owned, rounds.staged⟩

theorem rkusbHandleResponse_owned (owned : Owned machine)
    (staged : Staged machine) :
    Owned (rkusbHandleResponse P machine) ∧
      Staged (rkusbHandleResponse P machine) := by
  have unchanged := And.intro owned staged
  unfold Staged at staged
  unfold rkusbHandleResponse
  split
  · rename_i status
    rw [status] at staged
    have posted := owned.postIn staged.1 machine.usbcmd.transferSize
    exact ⟨posted.of_log posted.log rfl rfl rfl rfl rfl (.inl rfl), staged.2⟩
  · rename_i status
    split
    · rename_i received
      exact rkusbHandleDatarx_owned owned (.inl status)
        (owned.free_outs (.inl (by simp [received])))
    · exact unchanged
  · rename_i status
    rw [status] at staged
    exact rkusbHandleDatarx_owned owned (.inr status) staged
  · rename_i status
    rw [status] at staged
    obtain ⟨first, outs, sent, size⟩ := staged
    split
    · rename_i free
      refine rkusbHandleDatatx_owned ⟨owned, status, first, outs, sent, size⟩ ?_
      exact free.elim first owned.free_ins
    · exact unchanged
  · exact unchanged

theorem handleCsw_owned (owned : Owned machine) (staged : Staged machine) :
    Owned (handleCsw machine) ∧ Staged (handleCsw machine) := by
  unfold handleCsw
  split
  · rename_i status
    refine (rkusbSendCsw_owned owned staged ?_).1
    unfold Staged at staged
    rw [status] at staged
    exact staged
  · exact ⟨owned, staged⟩

theorem endOfIteration_owned (owned : Owned machine)
    (staged : Staged machine) :
    Owned (endOfIteration P machine) ∧ Staged (endOfIteration P machine) := by
  have checked := Checked.endOfIteration (P := P) machine
  obtain ⟨flag, usbcmd⟩ := checked.usbcmd
  constructor
  · refine owned.of_log (checked.log.forall_log ?_ owned.log) checked.ins
      checked.outs ?_ ?_ ?_ (.inl ?_)
    · rintro event ⟨call, reply, rfl, -⟩
      trivial
    all_goals rw [usbcmd]
  · unfold Staged at staged ⊢
    rw [usbcmd, checked.ins, checked.outs]
    exact staged

theorem doRockusb_owned (owned : Owned machine) (staged : Staged machine) :
    Owned (doRockusb P machine) ∧ Staged (doRockusb P machine) := by
  refine @doRockusb_of_phases σ P
    (fun machine => Owned machine ∧ Staged machine) ?_ ?_ ?_ ?_ _
    ⟨owned, staged⟩
  · exact fun machine held => handleIdle_owned held.1 held.2
  · exact fun machine held => rkusbHandleResponse_owned held.1 held.2
  · exact fun machine held => handleCsw_owned held.1 held.2
  · exact fun machine held => endOfIteration_owned held.1 held.2

/-- Completions are OK, no bus event occurs, and the host sends a command only
when the IN transfer of the previous status has been reported. -/
def Machine.Ordered (machine : Machine σ) : Action → Prop
  | .iterate => True
  | .inDone _ status _ => status = 0
  | .outDone index status _ => status = 0 ∧
      ∀ transfer, machine.outs[index]? = some transfer → transfer.isCbw →
        machine.ins = []
  | .outDrop _ => False
  | .bus _ => False

instance (machine : Machine σ) :
    ∀ action, Decidable (machine.Ordered action)
  | .iterate => .isTrue trivial
  | .inDone _ status _ => inferInstanceAs (Decidable (status = 0))
  | .outDone index status _ => inferInstanceAs (Decidable (status = 0 ∧
      ∀ transfer ∈ machine.outs[index]?, transfer.isCbw → machine.ins = []))
  | .outDrop _ => .isFalse id
  | .bus _ => .isFalse id

theorem configured_owned (zero : GivebackStatus) (rx tx : Fin 2 → Memory)
    (platform : σ) :
    Owned (rkusbEventHandlerForDwc3 (startMachine zero rx tx platform) 2) ∧
      Staged (rkusbEventHandlerForDwc3 (startMachine zero rx tx platform) 2) := by
  have posted : (rkusbEventHandlerForDwc3
      (startMachine zero rx tx platform) 2).outs = [⟨0, 31⟩] := rfl
  have index : (rkusbEventHandlerForDwc3
      (startMachine zero rx tx platform) 2).usbcmd.rxbufNum = 1 := rfl
  refine ⟨⟨?_, .inl rfl, .inr ⟨⟨31, ?_⟩, rfl, rfl⟩, ?_⟩, fun _ => rfl, ?_⟩
  · intro event member
    rw [List.mem_singleton.mp member]
    trivial
  · rw [posted, index]
    decide
  · intro buf inBuf
    cases inBuf
  · intro transfer member
    rw [List.mem_singleton.mp member]
    rfl

theorem completeIn_owned {index actual : Nat} {transfer : Transfer}
    (owned : Owned machine) (staged : Staged machine)
    (outstanding : machine.ins[index]? = some transfer) :
    Owned (completeIn machine index transfer 0 actual) ∧
      Staged (completeIn machine index transfer 0 actual) := by
  have emptied : (completeIn machine index transfer 0 actual).ins = [] := by
    cases owned.ins with
    | inl empty => simp [empty] at outstanding
    | inr busy =>
        obtain ⟨⟨len, posted⟩, -⟩ := busy
        exact (only_transfer posted outstanding).2
  constructor
  · refine ⟨?_, .inl emptied, owned.outs, owned.buf⟩
    exact List.forall_mem_append.mpr ⟨owned.log, by simp [Event.respects]⟩
  · have free : ∀ {condition : Prop}, condition →
        (completeIn machine index transfer 0 actual).ins = [] :=
      fun _ => emptied
    cases status : machine.usbcmd.status
    all_goals simp only [Staged, status] at staged
    all_goals simp only [Staged, completeIn, dwc3TxHandler_usbcmd, status]
    · exact ⟨free, staged.2⟩
    · exact ⟨emptied, staged.2⟩
    · exact staged
    · exact staged
    · exact ⟨free, staged.2⟩

theorem completeOut_owned {index : Nat} {transfer : Transfer}
    {packet : List UInt8} (owned : Owned machine) (staged : Staged machine)
    (outstanding : machine.outs[index]? = some transfer)
    (ordered : transfer.isCbw → machine.ins = []) :
    Owned (completeOut machine index transfer 0 packet) ∧
      Staged (completeOut machine index transfer 0 packet) := by
  cases owned.outs with
  | inl empty => simp [empty] at outstanding
  | inr busy =>
      obtain ⟨⟨len, posted⟩, -⟩ := busy
      obtain ⟨rfl, emptied⟩ := only_transfer posted outstanding
      constructor
      · refine ⟨?_, owned.ins, .inl emptied, ?_⟩
        · exact List.forall_mem_append.mpr
            ⟨owned.log, by simp [Event.respects]⟩
        · intro buf inBuf
          exact (Option.some.inj inBuf).symm
      · cases status : machine.usbcmd.status
        all_goals simp only [Staged, status] at staged
        all_goals simp only [Staged, completeOut, dwc3RxHandler_usbcmd, status]
        · refine ⟨fun _ => ordered (staged.2 _ ?_), ?_⟩
          · rw [posted]
            exact List.mem_singleton_self _
          · intro transfer member
            exact staged.2 transfer (List.mem_of_mem_eraseIdx member)
        · exact ⟨staged.1, emptied⟩
        · exact emptied
        · exact emptied
        · exact ⟨staged.1, emptied, staged.2.2⟩

theorem step_owned {action : Action} (owned : Owned machine)
    (staged : Staged machine) (ordered : machine.Ordered action)
    (taken : step P machine action = some after) :
    Owned after ∧ Staged after := by
  cases action with
  | iterate =>
      obtain rfl := step_iterate taken
      exact doRockusb_owned owned staged
  | inDone index status actual =>
      obtain rfl : status = 0 := ordered
      obtain ⟨transfer, outstanding, rfl⟩ := step_inDone taken
      exact completeIn_owned owned staged outstanding
  | outDone index status packet =>
      obtain ⟨rfl, cbw⟩ := ordered
      obtain ⟨transfer, outstanding, -, rfl⟩ := step_outDone taken
      exact completeOut_owned owned staged outstanding
        (cbw transfer outstanding)
  | outDrop index => exact ordered.elim
  | bus nEvent => exact ordered.elim

/-- In every run no buffer of a transfer under way is touched, and there is at
most one such transfer in each direction. -/
theorem buffers_owned {zero : GivebackStatus} {rx tx : Fin 2 → Memory}
    {platform : σ} {actions : List Action}
    (run : Run (step P) Machine.Ordered
      (rkusbEventHandlerForDwc3 (startMachine zero rx tx platform) 2) actions
      machine) :
    machine.ins.length ≤ 1 ∧ machine.outs.length ≤ 1 ∧
      (∀ buf owned, .txStore buf owned ∈ machine.log → buf ∉ owned) ∧
      ∀ buf owned, .rxLoad buf owned ∈ machine.log → buf ∉ owned := by
  have held : Owned machine ∧ Staged machine := by
    induction run with
    | nil => exact configured_owned zero rx tx platform
    | snoc _ ordered taken held => exact step_owned held.1 held.2 ordered taken
  obtain ⟨owned, -⟩ := held
  refine ⟨?_, ?_, fun buf list member => owned.log _ member,
    fun buf list member => owned.log _ member⟩
  · cases owned.ins with
    | inl empty => simp [empty]
    | inr busy =>
        obtain ⟨⟨len, posted⟩, -⟩ := busy
        simp [posted]
  · cases owned.outs with
    | inl empty => simp [empty]
    | inr busy =>
        obtain ⟨⟨len, posted⟩, -⟩ := busy
        simp [posted]

private def readCommand : List Action :=
  [.outDone 0 0 (cbwPacket 7 66048 0x14 0 5 129), .iterate,
    .inDone 0 0 65536, .iterate, .inDone 0 0 512, .iterate]

/-- A read of 129 blocks, up to the status under way: the last one is read
ahead while the others are sent. -/
theorem buffers_owned_read :
    ∃ machine : Machine Unit, csws machine.log ≠ [] ∧
      machine.ins.length ≤ 1 ∧ machine.outs.length ≤ 1 ∧
      (∀ buf owned, .txStore buf owned ∈ machine.log → buf ∉ owned) ∧
      ∀ buf owned, .rxLoad buf owned ∈ machine.log → buf ∉ owned := by
  have passed : (execute (step (readOnlyStorage 0 fun _ => 0)) Machine.Ordered
      (rkusbEventHandlerForDwc3
        (startMachine .sendInProgress (fun _ _ => 0) (fun _ _ => 0) ()) 2)
      readCommand).any
        (fun machine => decide (csws machine.log ≠ [])) = true := by
    decide +kernel
  obtain ⟨final, run, answered⟩ := Run.exists_of_execute passed
  exact ⟨final, by simpa using answered, buffers_owned run⟩

end KernelDrivers.Rockusb
