import KernelDrivers.Library.Ring
import Mathlib.Data.Nat.Init
import Mathlib.Algebra.GroupWithZero.Nat

/-!
# The WK2xxx SPI to UART bridge

The transmit path: the register protocol on the SPI bus and `wk2xxx_tx_chars`,
which moves bytes from the ring of the tty to the FIFO of the chip.  The
register addresses and flags are those of a header that the driver includes
from elsewhere.
-/

namespace KernelDrivers.Wk2xxx

open KernelDrivers.Library

/-- The addresses fit the low half of a control byte. -/
structure Registers where
  spage : BitVec 8
  fdat : BitVec 8
  tfull : BitVec 8
  tdat : BitVec 8
  tbusy : BitVec 8
  spageSmall : spage &&& 0x0f = spage
  fdatSmall : fdat &&& 0x0f = fdat
  distinct : spage ≠ fdat

abbrev page0 : BitVec 8 := 0

/-- Control byte and data byte. -/
abbrev Frame := BitVec 8 × BitVec 8

/-- `wk2xxx_write_reg`. -/
def writeReg (port reg data : BitVec 8) : Frame :=
  let subNumber := (port - 1) <<< 4
  (subNumber ||| reg, data)

/-- The bytes that go into the transmit FIFO. -/
def fdatBytes (regs : Registers) (frames : List Frame) : List (BitVec 8) :=
  (frames.filter fun frame => frame.1 &&& 0x0f = regs.fdat).map Prod.snd

/-- `UART_XMIT_SIZE` is `2 ^ order`. -/
abbrev Xmit (order : Nat) := Ring (BitVec 8) (2 ^ order)

structure Port (order : Nat) where
  iobase : BitVec 8
  xChar : BitVec 8
  icountTx : BitVec 32
  stopped : Bool
  xmit : Xmit order

/-- What the registers read: FSR and TFCNT before the bytes are sent, and FSR
afterwards. -/
structure Readings where
  fsr : BitVec 8
  tfcnt : BitVec 8
  fsrOut : BitVec 8

structure Outcome (order : Nat) where
  port : Port order
  frames : List Frame
  wakeup : Bool

variable {order : Nat}

/-- `(tail + 1) & (UART_XMIT_SIZE - 1)`. -/
def advance (tail : Fin (2 ^ order)) : Fin (2 ^ order) :=
  ⟨(tail.val + 1) &&& (2 ^ order - 1), by
    have positive := Nat.two_pow_pos order
    have bound : (tail.val + 1) &&& (2 ^ order - 1) ≤ 2 ^ order - 1 :=
      Nat.and_le_right
    omega⟩

def circEmpty (xmit : Xmit order) : Bool :=
  xmit.head = xmit.tail

/-- The room that the driver sees in the FIFO. -/
def txCount (regs : Registers) (fsr tfcnt : BitVec 8) : Nat :=
  if tfcnt = 0 then
    if fsr &&& regs.tfull ≠ 0 then 0 else 255
  else 255 - tfcnt.toNat

/-- One byte leaves the ring. -/
def Port.take (port : Port order) : Port order :=
  { port with
    xmit := { port.xmit with tail := advance port.xmit.tail }
    icountTx := port.icountTx + 1 }

/-- The loop `do … while (--count > 0)`: the ring is looked at before the
count is. -/
def copyChars : Nat → Port order → List (BitVec 8) × Port order
  | count + 2, port =>
      if circEmpty port.xmit then ([], port)
      else
        let rest := copyChars (count + 1) port.take
        (port.xmit.buf port.xmit.tail :: rest.1, rest.2)
  | _, port =>
      if circEmpty port.xmit then ([], port)
      else ([port.xmit.buf port.xmit.tail], port.take)

abbrev wakeupChars : Nat := 256

/-- `wk2xxx_tx_chars`.  `wk2xxx_stop_tx` only prints. -/
def txChars (regs : Registers) (port : Port order) (readings : Readings) :
    Outcome order :=
  let page := writeReg port.iobase regs.spage page0
  let send := writeReg port.iobase regs.fdat
  let sent :=
    if port.xChar ≠ 0 then
      ([page, send port.xChar],
        { port with icountTx := port.icountTx + 1, xChar := 0 })
    else if circEmpty port.xmit ∨ port.stopped then ([page], port)
    else
      let copied := copyChars (txCount regs readings.fsr readings.tfcnt) port
      (page :: copied.1.map send, copied.2)
  { port := sent.2
    frames := sent.1
    wakeup := readings.fsrOut &&& regs.tdat = 0 ∧
      readings.fsrOut &&& regs.tbusy = 0 ∧
      sent.2.xmit.count < wakeupChars }

theorem advance_eq (tail : Fin (2 ^ order)) : advance tail = Ring.next tail := by
  apply Fin.ext
  have bound := tail.isLt
  rw [Ring.val_next]
  change (tail.val + 1) &&& (2 ^ order - 1) = _
  rw [Nat.and_two_pow_sub_one_eq_mod]
  split
  · exact Nat.mod_eq_of_lt ‹_›
  · have last : tail.val + 1 = 2 ^ order := by omega
    rw [last, Nat.mod_self]

theorem Port.take_xmit (port : Port order) :
    port.take.xmit = port.xmit.pop := by
  rw [take, Ring.pop, advance_eq]

/-- Taking a number of bytes from the ring. -/
def Port.takeMany (number : Nat) (port : Port order) : Port order :=
  { port with
    xmit := Ring.popMany number port.xmit
    icountTx := port.icountTx + BitVec.ofNat 32 number }

private theorem takeMany_succ (number : Nat) (port : Port order) :
    port.take.takeMany number = port.takeMany (number + 1) := by
  have counted : port.icountTx + 1 + BitVec.ofNat 32 number =
      port.icountTx + BitVec.ofNat 32 (number + 1) := by
    rw [BitVec.ofNat_add, BitVec.add_assoc, BitVec.add_comm 1]
    rfl
  simp only [Port.takeMany, Port.take_xmit, Ring.popMany]
  rw [← counted]
  rfl

theorem Port.takeMany_zero (port : Port order) : port.takeMany 0 = port := by
  simp [Port.takeMany, Ring.popMany]

theorem circEmpty_iff (xmit : Xmit order) :
    circEmpty xmit = true ↔ xmit.pending = [] := by
  rw [Ring.pending_eq_nil_iff]
  simp [circEmpty]

private theorem filled_pending {port : Port order}
    (filled : ¬circEmpty port.xmit = true) :
    port.xmit.pending =
        port.xmit.buf port.xmit.tail :: port.take.xmit.pending ∧
      port.xmit.count = port.take.xmit.count + 1 := by
  have different : port.xmit.head ≠ port.xmit.tail := by
    simpa [circEmpty] using filled
  rw [Port.take_xmit]
  exact ⟨Ring.pending_pop different, Ring.count_pop different⟩

private theorem copyChars_empty {port : Port order}
    (empty : circEmpty port.xmit = true) (count rounds : Nat) :
    copyChars count port = (port.xmit.pending.take rounds,
      port.takeMany (min port.xmit.count rounds)) := by
  have nothing := (circEmpty_iff port.xmit).mp empty
  have zero := port.xmit.length_pending
  rw [nothing] at zero
  have stays : copyChars count port = ([], port) := by
    unfold copyChars
    split <;> rw [if_pos empty]
  simp [stays, nothing, ← zero, Port.takeMany_zero]

private theorem copyChars_once {port : Port order}
    (filled : ¬circEmpty port.xmit = true) {count : Nat} (last : count ≤ 1) :
    copyChars count port = (port.xmit.pending.take 1,
      port.takeMany (min port.xmit.count 1)) := by
  obtain ⟨first, more⟩ := filled_pending filled
  have least : min port.xmit.count 1 = 0 + 1 := by omega
  have taken : copyChars count port =
      ([port.xmit.buf port.xmit.tail], port.take) := by
    unfold copyChars
    split
    · omega
    · rw [if_neg filled]
  rw [taken, first, least, ← takeMany_succ, Port.takeMany_zero]
  simp

theorem copyChars_eq (count : Nat) (port : Port order) :
    copyChars count port =
      (port.xmit.pending.take (max count 1),
        port.takeMany (min port.xmit.count (max count 1))) := by
  by_cases empty : circEmpty port.xmit = true
  · exact copyChars_empty empty count _
  · induction count using Nat.twoStepInduction generalizing port with
    | zero => exact copyChars_once empty (by decide)
    | one => exact copyChars_once empty (by decide)
    | more count _ induction =>
        obtain ⟨first, more⟩ := filled_pending empty
        have rest : copyChars (count + 1) port.take =
            (port.take.xmit.pending.take (count + 1),
              port.take.takeMany (min port.take.xmit.count (count + 1))) := by
          by_cases rest : circEmpty port.take.xmit = true
          · exact copyChars_empty rest _ _
          · have larger : max (count + 1) 1 = count + 1 := by omega
            rw [induction port.take rest, larger]
        have rounds : max (count + 2) 1 = count + 2 := by omega
        have number : min port.xmit.count (count + 2) =
            min port.take.xmit.count (count + 1) + 1 := by omega
        rw [copyChars, if_neg empty]
        simp only
        rw [rest, rounds, number, ← takeMany_succ, first, List.take_succ_cons]

end KernelDrivers.Wk2xxx
