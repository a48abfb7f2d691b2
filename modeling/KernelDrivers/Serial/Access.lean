import KernelDrivers.Library.Program
import KernelDrivers.Serial.Transmit

/-!
# Register accesses of the WK2xxx

`wk2xxx_tx_chars` and `wk2xxx_work` as programs that read and write registers,
and `wk2xxx_write_reg` and `wk2xxx_read_reg` on an SPI bus that may fail.  Both
take a lock and select the chip, and return early when the bus fails.
-/

namespace KernelDrivers.Wk2xxx

open KernelDrivers.Library

/-- The registers that the driver accesses. -/
inductive Reg where
  | spage
  | gena
  | gifr
  | gier
  | sier
  | sifr
  | fsr
  | tfcnt
  | fdat
  deriving DecidableEq

/-- A byte variable, with the register that it was last read from, if any. -/
structure Cell where
  value : BitVec 8
  source : Option Reg
  deriving DecidableEq

/-- An access to a register of a port.  A read has the variable that it is to
overwrite.  The last request only marks where the number of bytes to send is
computed from two variables. -/
inductive Request where
  | write (port : BitVec 8) (reg : Reg) (data : BitVec 8)
  | read (port : BitVec 8) (reg : Reg) (data : Cell)
  | count (fsr tfcnt : Cell)

/-- The status of a transfer, and for a read what the variable holds after. -/
abbrev Answer : Request → Type
  | .write _ _ _ => Int
  | .read _ _ _ => Int × Cell
  | .count _ _ => Unit

abbrev Access := Program Request Answer

namespace Access

def write (port : BitVec 8) (reg : Reg) (data : BitVec 8) : Access Int :=
  Program.request (Request.write port reg data)

def read (port : BitVec 8) (reg : Reg) (data : Cell) : Access (Int × Cell) :=
  Program.request (Request.read port reg data)

def count (fsr tfcnt : Cell) : Access Unit :=
  Program.request (Request.count fsr tfcnt)

end Access

/-- What the header defines besides `Registers`: the other addresses, the port
number of the global registers, and the interrupt bits, which are apart. -/
structure Header extends Registers where
  gena : BitVec 8
  gifr : BitVec 8
  gier : BitVec 8
  sier : BitVec 8
  sifr : BitVec 8
  fsr : BitVec 8
  tfcnt : BitVec 8
  gport : BitVec 8
  tftrigIen : BitVec 8
  tftrigInt : BitVec 8
  rxovtInt : BitVec 8
  rftrigInt : BitVec 8
  tfullSome : tfull ≠ 0
  tftrigIenSome : tftrigIen ≠ 0
  tftrigIntSome : tftrigInt ≠ 0
  tftrigIntApart : tftrigInt &&& (rxovtInt ||| rftrigInt) = 0

def Header.address (header : Header) : Reg → BitVec 8
  | .spage => header.spage
  | .gena => header.gena
  | .gifr => header.gifr
  | .gier => header.gier
  | .sier => header.sier
  | .sifr => header.sifr
  | .fsr => header.fsr
  | .tfcnt => header.tfcnt
  | .fdat => header.fdat

section Driver

variable {order : Nat} (header : Header)

/-- The loop that writes `txbuf` to FDAT. -/
def sendChars (iobase : BitVec 8) : List (BitVec 8) → Access Unit
  | [] => pure ()
  | char :: chars => do
      let _status ← Access.write iobase .fdat char
      sendChars iobase chars

/-- `wk2xxx_tx_chars` up to its label `out`: the port and `dat`, which holds
`stack` at first. -/
def transmit (port : Port order) (stack : Cell) :
    Access (Port order × Cell) :=
  let iobase := port.iobase
  if port.xChar ≠ 0 then do
    let _status ← Access.write iobase .fdat port.xChar
    pure ({ port with icountTx := port.icountTx + 1, xChar := 0 }, stack)
  else if circEmpty port.xmit ∨ port.stopped then pure (port, stack)
  else do
    let (_status, fsr) ← Access.read iobase .fsr stack
    let (_status, tfcnt) ← Access.read iobase .tfcnt fsr
    Access.count fsr tfcnt
    let copied := copyChars
      (txCount header.toRegisters fsr.value tfcnt.value) port
    sendChars iobase copied.1
    pure (copied.2, tfcnt)

/-- `wk2xxx_tx_chars`.  The statuses of the accesses are ignored.  The result
says whether writers are woken up. -/
def txCharsAccess (port : Port order) (stack : Cell) :
    Access (Port order × Bool) := do
  let _status ← Access.write port.iobase .spage page0
  let (port, dat) ← transmit header port stack
  let (_status, dat) ← Access.read port.iobase .fsr dat
  let fsr := dat.value
  pure (port, fsr &&& header.tdat = 0 ∧ fsr &&& header.tbusy = 0 ∧
    port.xmit.count < wakeupChars)

/-- The loop that sets SIER: what is read back is written the next time.
`none` is a loop that has not ended after so many rounds. -/
def enableLoop (iobase valBak : BitVec 8) : Nat → Cell → Access (Option Cell)
  | 0, _ => pure none
  | rounds + 1, val => do
      let _status ← Access.write header.gport .gena 0x0f
      let _status ← Access.write iobase .sier val.value
      let (_status, val) ← Access.read iobase .sier val
      if val.value ≠ valBak then enableLoop iobase valBak rounds val
      else pure (some val)

/-- `sifr & RXOVT_INT || sifr & RFTRIG_INT ||
(sifr & TFTRIG_INT && sier & TFTRIG_IEN)`. -/
def serviceAgain (sifr sier : BitVec 8) : Bool :=
  sifr &&& header.rxovtInt ≠ 0 ∨ sifr &&& header.rftrigInt ≠ 0 ∨
    (sifr &&& header.tftrigInt ≠ 0 ∧ sier &&& header.tftrigIen ≠ 0)

/-- The service loop: neither variable of the condition changes. -/
def serviceLoop (sifr sier : BitVec 8) (stack : Cell) : Nat → Port order →
    Access (Option (Port order))
  | 0, _ => pure none
  | rounds + 1, port => do
      let (port, _wakeup) ← txCharsAccess header port stack
      if serviceAgain header sifr sier then
        serviceLoop sifr sier stack rounds port
      else pure (some port)

/-- The reads and writes between the two loops whose results are not used. -/
def configure (stack : Cell) : Access Cell := do
  let (_status, dat) ← Access.read header.gport .gifr stack
  let (_status, dat) ← Access.read header.gport .gier dat
  let _status ← Access.write 1 .spage page0
  let _status ← Access.write 2 .spage page0
  let _status ← Access.write 3 .spage page0
  let _status ← Access.write 4 .spage page0
  let _sifr0 ← Access.read 1 .sifr stack
  let _sifr1 ← Access.read 2 .sifr stack
  let _sifr2 ← Access.read 3 .sifr stack
  let _sifr3 ← Access.read 4 .sifr stack
  let _sier0 ← Access.read 1 .sier stack
  let _sier1 ← Access.read 2 .sier stack
  let _sier2 ← Access.read 3 .sier stack
  let _sier3 ← Access.read 4 .sier stack
  pure dat

/-- `wk2xxx_work`, with at most so many rounds of each of its loops.  Variables
that are not initialised hold `stack`. -/
def work (rounds : Nat) (port : Port order) (stack : Cell) :
    Access (Option (Port order)) := do
  let iobase := port.iobase
  let (_status, val) ← Access.read iobase .sier stack
  let val := { val with value := val.value ||| header.tftrigIen }
  match ← enableLoop header iobase val.value rounds val with
  | none => pure none
  | some _ => do
      let dat ← configure header stack
      let (_status, sifr) ← Access.read iobase .sifr dat
      let (_status, sier) ← Access.read iobase .sier sifr
      match ← serviceLoop header sifr.value sier.value stack rounds port with
      | none => pure none
      | some port => do
          let (_status, dat) ← Access.read iobase .sifr sier
          let _sier ← Access.read iobase .sier dat
          pure (some port)

end Driver

def sampleHeader : Header where
  toRegisters := sampleRegisters
  gena := 0x00
  gifr := 0x11
  gier := 0x10
  sier := 0x07
  sifr := 0x08
  fsr := 0x0b
  tfcnt := 0x09
  gport := 1
  tftrigIen := 0x04
  tftrigInt := 0x04
  rxovtInt := 0x02
  rftrigInt := 0x01
  tfullSome := by decide
  tftrigIenSome := by decide
  tftrigIntSome := by decide
  tftrigIntApart := by decide

end KernelDrivers.Wk2xxx
