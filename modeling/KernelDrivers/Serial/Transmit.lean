import KernelDrivers.Library.Transition
import KernelDrivers.Serial.Wk2xxx

/-!
# Transmission over runs

The tty queues bytes, `wk2xxx_tx_chars` moves them to the FIFO of the chip, and
the chip drains its FIFO.  A call on a full FIFO writes one byte too many.
-/

namespace KernelDrivers.Wk2xxx

open KernelDrivers.Library

variable {order : Nat}

/-- The FIFO is known by the number of bytes that it holds. -/
structure System (order : Nat) where
  port : Port order
  held : Nat
  queued : List (BitVec 8)
  written : List (BitVec 8)

inductive Action where
  | queue (byte : BitVec 8)
  | call (fsr fsrOut : BitVec 8)
  | drain (number : Nat)

/-- TFULL tells a full FIFO from an empty one when TFCNT reads 0. -/
def Reports (regs : Registers) (held : Nat) (fsr : BitVec 8) : Prop :=
  held % 256 = 0 → (fsr &&& regs.tfull ≠ 0 ↔ held ≠ 0)

instance (regs : Registers) (held : Nat) (fsr : BitVec 8) :
    Decidable (Reports regs held fsr) :=
  inferInstanceAs (Decidable (_ → _))

def System.readings (state : System order) (fsr fsrOut : BitVec 8) :
    Readings :=
  { fsr, tfcnt := BitVec.ofNat 8 state.held, fsrOut }

/-- What a call does to the port, and the bytes that it writes to FDAT. -/
def System.send (regs : Registers) (state : System order)
    (fsr fsrOut : BitVec 8) : Port order × List (BitVec 8) :=
  let outcome := txChars regs state.port (state.readings fsr fsrOut)
  (outcome.port, fdatBytes regs outcome.frames)

/-- A byte that finds 256 bytes in the FIFO is dropped by the chip. -/
def step (regs : Registers) (state : System order) :
    Action → Option (System order)
  | .queue byte =>
      if Ring.next state.port.xmit.head = state.port.xmit.tail then none
      else some { state with
        port := { state.port with xmit := state.port.xmit.push byte }
        queued := state.queued ++ [byte] }
  | .call fsr fsrOut =>
      if Reports regs state.held fsr then
        let sent := state.send regs fsr fsrOut
        some { state with
          port := sent.1
          held := min 256 (state.held + sent.2.length)
          written := state.written ++ sent.2 }
      else none
  | .drain number => some { state with held := state.held - number }

/-- Nothing has been written yet, and the ring holds what was queued. -/
def start (iobase : BitVec 8) (icountTx : BitVec 32) (xmit : Xmit order)
    (held : Fin 257) : System order where
  port := { iobase, icountTx, xmit, xChar := 0, stopped := false }
  held := held
  queued := xmit.pending
  written := []

/-- The next bytes of the ring are written, as many as there are or as there
is room for, and the port counts them. -/
structure SendsExactly (regs : Registers) (state : System order)
    (fsr fsrOut : BitVec 8) (number : Nat) : Prop where
  bytes : (state.send regs fsr fsrOut).2 = state.port.xmit.pending.take number
  tail : (state.send regs fsr fsrOut).1.xmit.tail.val =
    (state.port.xmit.tail + number) % 2 ^ order
  icount : (state.send regs fsr fsrOut).1.icountTx =
    state.port.icountTx + BitVec.ofNat 32 number

/-- What is asked of each call. -/
def Transmits (regs : Registers) (state : System order) : Action → Prop
  | .call fsr fsrOut => Reports regs state.held fsr →
      SendsExactly regs state fsr fsrOut
          (min state.port.xmit.count (255 - state.held)) ∧
        state.written ++ (state.send regs fsr fsrOut).2 <+: state.queued
  | _ => True

/-- A call that reads a full FIFO finds nothing to send. -/
def TxSound (regs : Registers) (state : System order) : Action → Prop
  | .call fsr _ => Reports regs state.held fsr →
      state.held < 255 ∨ state.port.xmit.pending = []
  | _ => True

private theorem address_fdat (port reg data : BitVec 8)
    (small : reg &&& 0x0f = reg) :
    (writeReg port reg data).1 &&& 0x0f = reg := by
  have low : ∀ port : BitVec 8, ((port - 1) <<< 4) &&& 0x0f = 0 := by
    decide
  rw [writeReg, BitVec.and_or_distrib_right, low, small]
  exact BitVec.zero_or

theorem fdatBytes_send (regs : Registers) (port : BitVec 8)
    (bytes : List (BitVec 8)) :
    fdatBytes regs (bytes.map (writeReg port regs.fdat)) = bytes := by
  induction bytes with
  | nil => rfl
  | cons byte bytes induction =>
      have address := address_fdat port regs.fdat byte regs.fdatSmall
      rw [List.map_cons, fdatBytes, List.filter_cons_of_pos (by
        simpa using address), List.map_cons]
      exact congrArg (List.cons byte) induction

theorem fdatBytes_page (regs : Registers) (port : BitVec 8)
    (frames : List Frame) :
    fdatBytes regs (writeReg port regs.spage page0 :: frames) =
      fdatBytes regs frames := by
  have address := address_fdat port regs.spage page0 regs.spageSmall
  rw [fdatBytes, List.filter_cons_of_neg (by
    rw [address]
    simpa using regs.distinct)]
  rfl

theorem txCount_reports {regs : Registers} {held : Nat} {fsr : BitVec 8}
    (bounded : held ≤ 256) (reports : Reports regs held fsr) :
    txCount regs fsr (BitVec.ofNat 8 held) = 255 - held := by
  have reading : BitVec.ofNat 8 held = 0 ↔ held % 256 = 0 := by
    rw [← BitVec.toNat_inj]
    simp
  unfold txCount
  by_cases ambiguous : held % 256 = 0
  · have flag := reports ambiguous
    rw [if_pos (reading.mpr ambiguous)]
    by_cases full : fsr &&& regs.tfull ≠ 0
    · have some := flag.mp full
      rw [if_pos full]
      omega
    · have zero : held = 0 := by
        by_contra some
        exact full (flag.mpr some)
      rw [if_neg full, zero]
  · rw [if_neg (fun zero => ambiguous (reading.mp zero)), BitVec.toNat_ofNat]
    omega

/-- The port can send, and what was queued is either written or pending. -/
structure Steady (state : System order) : Prop where
  xChar : state.port.xChar = 0
  running : state.port.stopped = false
  bounded : state.held ≤ 256
  conserved : state.written ++ state.port.xmit.pending = state.queued

private theorem take_room (xmit : Xmit order) (room : Nat) :
    xmit.pending.take room = xmit.pending.take (min xmit.count room) := by
  rw [List.take_eq_take_min, xmit.length_pending, Nat.min_comm]

theorem Steady.send_eq {regs : Registers} {state : System order}
    (steady : Steady state) {fsr : BitVec 8}
    (reports : Reports regs state.held fsr) (fsrOut : BitVec 8) :
    state.send regs fsr fsrOut =
      (state.port.takeMany
        (min state.port.xmit.count (max (255 - state.held) 1)),
        state.port.xmit.pending.take (max (255 - state.held) 1)) := by
  have room := txCount_reports steady.bounded reports
  have control : ¬state.port.xChar ≠ 0 := by
    simpa using steady.xChar
  unfold System.send txChars
  simp only [if_neg control, steady.running, System.readings]
  by_cases empty : circEmpty state.port.xmit = true
  · have nothing := (circEmpty_iff state.port.xmit).mp empty
    have zero := state.port.xmit.length_pending
    rw [nothing] at zero
    have none := fdatBytes_page regs state.port.iobase []
    have silent : fdatBytes regs [] = [] := rfl
    rw [if_pos (by simp [empty]), none, silent, nothing, ← zero]
    simp [Port.takeMany_zero]
  · rw [if_neg (by simpa using empty), copyChars_eq, room]
    simp only
    rw [fdatBytes_page, fdatBytes_send]

theorem Steady.sendsExactly_iff {regs : Registers} {state : System order}
    (steady : Steady state) {fsr : BitVec 8}
    (reports : Reports regs state.held fsr) (fsrOut : BitVec 8) :
    SendsExactly regs state fsr fsrOut
        (min state.port.xmit.count (255 - state.held)) ↔
      state.held < 255 ∨ state.port.xmit.pending = [] := by
  have sent := steady.send_eq reports fsrOut
  have length := state.port.xmit.length_pending
  constructor
  · intro exactly
    by_contra full
    rw [not_or] at full
    obtain ⟨noRoom, filled⟩ := full
    have none : 255 - state.held = 0 := by omega
    have bytes := exactly.bytes
    rw [sent, none] at bytes
    simp [filled] at bytes
  · intro room
    have number : min state.port.xmit.count (max (255 - state.held) 1) =
        min state.port.xmit.count (255 - state.held) := by
      rcases room with free | nothing
      · omega
      · rw [nothing] at length
        rw [← length]
        simp
    have taken : state.port.xmit.pending.take (max (255 - state.held) 1) =
        state.port.xmit.pending.take
          (min state.port.xmit.count (255 - state.held)) := by
      rw [← number]
      exact take_room state.port.xmit _
    constructor
    · rw [sent, taken]
    · rw [sent, number]
      exact Ring.popMany_tail _ _
    · rw [sent, number]
      rfl

theorem Steady.step {regs : Registers} {state next : System order}
    {action : Action} (steady : Steady state)
    (taken : step regs state action = some next) : Steady next := by
  cases action with
  | queue byte =>
      simp only [Wk2xxx.step, Option.ite_none_left_eq_some, Option.some.injEq]
        at taken
      obtain ⟨free, rfl⟩ := taken
      refine ⟨steady.xChar, steady.running, steady.bounded, ?_⟩
      have pending := Ring.pending_push byte free
      rw [pending, ← List.append_assoc, steady.conserved]
  | call fsr fsrOut =>
      simp only [Wk2xxx.step, Option.ite_none_right_eq_some,
        Option.some.injEq] at taken
      obtain ⟨reports, rfl⟩ := taken
      rw [steady.send_eq reports]
      refine ⟨steady.xChar, steady.running, Nat.min_le_left _ _, ?_⟩
      simp only [Port.takeMany]
      rw [Ring.pending_popMany (Nat.min_le_left _ _), take_room,
        List.append_assoc, List.take_append_drop, steady.conserved]
  | drain number =>
      simp only [Wk2xxx.step, Option.some.injEq] at taken
      subst taken
      have bounded := steady.bounded
      exact ⟨steady.xChar, steady.running, by simp; omega, steady.conserved⟩

theorem Steady.transmits_iff {state : System order} (steady : Steady state)
    (regs : Registers) (action : Action) :
    Transmits regs state action ↔ TxSound regs state action := by
  cases action with
  | call fsr fsrOut =>
      apply forall_congr'
      intro reports
      rw [steady.sendsExactly_iff reports]
      refine and_iff_left ?_
      rw [steady.send_eq reports, ← steady.conserved]
      exact List.prefix_append_right_inj _ |>.mpr (List.take_prefix _ _)
  | _ => exact Iff.rfl

/-- Every call sends the next bytes and no others, and what is written is a
prefix of what was queued, along exactly those runs that call with a full FIFO
only when nothing is pending. -/
theorem transmits_iff_txSound (regs : Registers) (iobase : BitVec 8)
    (icountTx : BitVec 32) (xmit : Xmit order) (held : Fin 257)
    (actions : List Action) :
    Along (step regs) (Transmits regs) (start iobase icountTx xmit held)
        actions ↔
      Along (step regs) (TxSound regs) (start iobase icountTx xmit held)
        actions := by
  have initial : Steady (start iobase icountTx xmit held) :=
    ⟨rfl, rfl, Nat.le_of_lt_succ held.isLt, rfl⟩
  apply along_congr initial
  · intro state action next steady _ taken
    exact steady.step taken
  · intro state action steady
    exact steady.transmits_iff regs action

def sampleRegisters : Registers where
  spage := 0x03
  fdat := 0x0d
  tfull := 0x02
  tdat := 0x04
  tbusy := 0x01
  spageSmall := by decide
  fdatSmall := by decide
  distinct := by decide

/-- With 255 bytes in the FIFO one more is written. -/
theorem not_transmits_full :
    ¬Along (step sampleRegisters) (Transmits sampleRegisters)
      (start 1 0 (⟨fun _ => 0x41, 1, 0⟩ : Xmit 12) 255) [.call 0x02 0x02] := by
  intro transmits
  have reports : Reports sampleRegisters 255 0x02 := by decide
  have exactly := transmits [] _ [] _ rfl .nil reports
  have bytes := exactly.1.bytes
  revert bytes
  decide

end KernelDrivers.Wk2xxx
