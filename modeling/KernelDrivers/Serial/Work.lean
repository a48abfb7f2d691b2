import KernelDrivers.Serial.Access
import KernelDrivers.Serial.Transmit

/-!
# The work item on the chip

A chip that ignores some writes of SIER, drains its FIFO as it likes and
raises the transmit trigger while the FIFO is below its level, and when
`wk2xxx_work` ends on it.
-/

namespace KernelDrivers.Wk2xxx

open KernelDrivers.Library

/-- How the chip behaves: which writes of SIER it ignores, how many bytes leave
the FIFO after each access, the trigger level, the bits of SIFR besides the
transmit trigger, and what is read where it does not matter. -/
structure Behaviour where
  ignored : Nat → Bool
  drained : Nat → Nat
  level : Nat
  interrupts : BitVec 8
  readings : Nat → BitVec 8
  ignoresFinitely : ∃ bound, ∀ index ≥ bound, ignored index = false
  drainsAlways : ∀ index, ∃ later ≥ index, 0 < drained later

/-- The state of one port of the chip, with the number of accesses and of
writes of SIER so far, and the bytes that its FIFO has taken. -/
structure Chip where
  sier : BitVec 8
  held : Nat
  accesses : Nat
  sierWrites : Nat
  taken : List (BitVec 8)

/-- A register with one flag raised or lowered. -/
def withFlag (bits flag : BitVec 8) (raised : Bool) : BitVec 8 :=
  if raised then bits &&& ~~~flag ||| flag else bits &&& ~~~flag

section Chip

variable (header : Header) (behaviour : Behaviour)

/-- Every access is followed by some draining. -/
def Chip.tick (chip : Chip) : Chip :=
  { chip with
    accesses := chip.accesses + 1
    held := chip.held - behaviour.drained chip.accesses }

/-- A byte that finds the FIFO full is dropped. -/
def Chip.push (chip : Chip) (byte : BitVec 8) : Chip :=
  if chip.held < 256 then
    { chip with held := chip.held + 1, taken := chip.taken ++ [byte] }
  else chip

def Chip.writeSier (chip : Chip) (data : BitVec 8) : Chip :=
  { chip with
    sier := if behaviour.ignored chip.sierWrites then chip.sier else data
    sierWrites := chip.sierWrites + 1 }

def Header.receiveInts (header : Header) : BitVec 8 :=
  header.rxovtInt ||| header.rftrigInt

/-- The transmit trigger is raised while the FIFO is below its level and no
receive interrupt is. -/
def Chip.readSifr (chip : Chip) : BitVec 8 :=
  withFlag behaviour.interrupts header.tftrigInt
    (chip.held < behaviour.level ∧
      behaviour.interrupts &&& header.receiveInts = 0)

/-- TFULL tells whether the FIFO is full. -/
def Chip.readFsr (chip : Chip) : BitVec 8 :=
  withFlag (behaviour.readings chip.accesses) header.tfull (chip.held = 256)

def Chip.readTfcnt (chip : Chip) : BitVec 8 :=
  BitVec.ofNat 8 chip.held

def Chip.reading (chip : Chip) : Reg → BitVec 8
  | .sier => chip.sier
  | .sifr => chip.readSifr header behaviour
  | .fsr => chip.readFsr header behaviour
  | .tfcnt => chip.readTfcnt
  | _ => behaviour.readings chip.accesses

/-- What a write does before the draining. -/
def Chip.written (chip : Chip) (data : BitVec 8) : Reg → Chip
  | .sier => chip.writeSier behaviour data
  | .fdat => chip.push data
  | _ => chip

/-- Every access succeeds.  Those to other ports do not concern the port. -/
def chipServe (iobase : BitVec 8) : Program.Environment Answer Chip
  | .write port reg data, chip =>
      let after := if port = iobase then chip.written behaviour data reg
        else chip
      some ((0 : Int), after.tick behaviour)
  | .read port reg _, chip =>
      let value := if port = iobase then chip.reading header behaviour reg
        else behaviour.readings chip.accesses
      some (((0 : Int), { value, source := some reg }), chip.tick behaviour)
  | .count _ _, chip => some ((), chip)

end Chip

section Claim

variable {order : Nat}

/-- The bytes that wait in the port, with a control character first. -/
def Port.outgoing (port : Port order) : List (BitVec 8) :=
  if port.xChar ≠ 0 then port.xChar :: port.xmit.pending
  else port.xmit.pending

def Chip.start (sier : BitVec 8) (held : Fin 257) : Chip :=
  { sier, held, accesses := 0, sierWrites := 0, taken := [] }

/-- After enough rounds of its loops the work item has ended, the transmit
interrupt is enabled, and the FIFO has taken every byte. -/
def Finishes (header : Header) (behaviour : Behaviour) (sier : BitVec 8)
    (held : Fin 257) (port : Port order) (stack : Cell) : Prop :=
  ∃ rounds after chip,
    (work header rounds port stack).run
        (chipServe header behaviour port.iobase) (Chip.start sier held) =
      some (some after, chip) ∧
    chip.sier = sier ||| header.tftrigIen ∧ chip.taken = port.outgoing

/-- What the FIFO holds after a number of accesses that write nothing. -/
def Behaviour.heldAfter (behaviour : Behaviour) (held : Nat) : Nat → Nat
  | 0 => held
  | accesses + 1 =>
      behaviour.heldAfter held accesses - behaviour.drained accesses

/-- The room that the driver computes from FSR and then TFCNT. -/
def Behaviour.room (behaviour : Behaviour) (held : Nat) : Nat :=
  if behaviour.heldAfter held 21 = 256 ∧ behaviour.heldAfter held 22 = 0 then 0
  else 255 - behaviour.heldAfter held 22

/-- The one call of `wk2xxx_tx_chars` sends all there is, at least one byte
where there is any, and the FIFO takes it. -/
def Fits (behaviour : Behaviour) (held : Nat) (port : Port order) : Prop :=
  if port.xChar ≠ 0 then
    port.xmit.pending = [] ∧ behaviour.heldAfter held 21 < 256
  else
    port.xmit.pending = [] ∨
      (port.stopped = false ∧
        port.xmit.pending.length ≤ max (behaviour.room held) 1 ∧
        behaviour.heldAfter held 23 < 256)

/-- When the work item finishes its job: the first write of SIER is applied
or not needed, no interrupt of the service loop is raised at its entry, and one
call sends everything. -/
structure WorkSound (header : Header) (behaviour : Behaviour)
    (sier : BitVec 8) (held : Nat) (port : Port order) : Prop where
  enabled : behaviour.ignored 0 = false ∨ sier ||| header.tftrigIen = sier
  silent : behaviour.interrupts &&& header.receiveInts = 0
  above : behaviour.level ≤ behaviour.heldAfter held 18
  fits : Fits behaviour held port

end Claim

section Run

variable {header : Header} {behaviour : Behaviour} {iobase : BitVec 8}
variable {α : Type} {chip : Chip}

theorem run_write_other {reg : Reg} (neither : reg ≠ .sier ∧ reg ≠ .fdat)
    (port data : BitVec 8) (next : Int → Access α) :
    (Access.write port reg data >>= next).run
        (chipServe header behaviour iobase) chip =
      (next 0).run (chipServe header behaviour iobase)
        (chip.tick behaviour) := by
  apply Program.run_ask
  have kept : chip.written behaviour data reg = chip := by
    cases reg <;> simp_all [Chip.written]
  simp only [chipServe, kept, ite_self]

theorem run_write_sier (data : BitVec 8) (next : Int → Access α) :
    (Access.write iobase .sier data >>= next).run
        (chipServe header behaviour iobase) chip =
      (next 0).run (chipServe header behaviour iobase)
        ((chip.writeSier behaviour data).tick behaviour) := by
  apply Program.run_ask
  simp [chipServe, Chip.written]

theorem run_write_fdat (data : BitVec 8) (next : Int → Access α) :
    (Access.write iobase .fdat data >>= next).run
        (chipServe header behaviour iobase) chip =
      (next 0).run (chipServe header behaviour iobase)
        ((chip.push data).tick behaviour) := by
  apply Program.run_ask
  simp [chipServe, Chip.written]

/-- What a read of any port finds. -/
def Chip.found (header : Header) (behaviour : Behaviour)
    (iobase port : BitVec 8) (reg : Reg) (chip : Chip) : Cell where
  value := if port = iobase then chip.reading header behaviour reg
    else behaviour.readings chip.accesses
  source := some reg

theorem run_read (port : BitVec 8) (reg : Reg) (data : Cell)
    (next : Int × Cell → Access α) :
    (Access.read port reg data >>= next).run
        (chipServe header behaviour iobase) chip =
      (next (0, chip.found header behaviour iobase port reg)).run
        (chipServe header behaviour iobase) (chip.tick behaviour) :=
  Program.run_ask rfl

theorem found_own (reg : Reg) :
    (chip.found header behaviour iobase iobase reg).value =
      chip.reading header behaviour reg :=
  if_pos rfl

theorem run_count (fsr tfcnt : Cell) (next : Unit → Access α) :
    (Access.count fsr tfcnt >>= next).run
        (chipServe header behaviour iobase) chip =
      (next ()).run (chipServe header behaviour iobase) chip :=
  Program.run_ask rfl

variable (header behaviour) in
theorem run_some (iobase : BitVec 8) (program : Access α) (chip : Chip) :
    ∃ result after, program.run (chipServe header behaviour iobase) chip =
      some (result, after) := by
  induction program generalizing chip with
  | done result => exact ⟨result, chip, rfl⟩
  | ask request next induction =>
      cases request with
      | write port reg data => exact induction _ _
      | read port reg data => exact induction _ _
      | count fsr tfcnt => exact induction _ _

end Run

/-- The chip after accesses that do not concern it but for the draining. -/
def Chip.idle (behaviour : Behaviour) (sier : BitVec 8) (held writes : Nat)
    (accesses : Nat) : Chip where
  sier := sier
  held := behaviour.heldAfter held accesses
  accesses := accesses
  sierWrites := writes
  taken := []

section Idle

variable {header : Header} {behaviour : Behaviour} {iobase : BitVec 8}
variable {sier valBak : BitVec 8} {held writes accesses : Nat}

@[simp] theorem tick_idle :
    (Chip.idle behaviour sier held writes accesses).tick behaviour =
      Chip.idle behaviour sier held writes (accesses + 1) :=
  rfl

@[simp] theorem writeSier_idle (data : BitVec 8) :
    (Chip.idle behaviour sier held writes accesses).writeSier behaviour data =
      Chip.idle behaviour (if behaviour.ignored writes then sier else data)
        held (writes + 1) accesses :=
  rfl

theorem enableLoop_round (rounds : Nat) {val : Cell} {value : BitVec 8}
    (after : (if behaviour.ignored writes then sier else val.value) = value) :
    (enableLoop header iobase valBak (rounds + 1) val).run
        (chipServe header behaviour iobase)
        (Chip.idle behaviour sier held writes accesses) =
      if value ≠ valBak then
        (enableLoop header iobase valBak rounds
          { value, source := some .sier }).run
          (chipServe header behaviour iobase)
          (Chip.idle behaviour value held (writes + 1) (accesses + 3))
      else
        some (some { value, source := some .sier },
          Chip.idle behaviour value held (writes + 1) (accesses + 3)) := by
  have read : Chip.found header behaviour iobase iobase .sier
      (Chip.idle behaviour value held (writes + 1) (accesses + 1 + 1)) =
        { value, source := some .sier } := by
    simp [Chip.found, Chip.reading, Chip.idle]
  rw [enableLoop, run_write_other (by decide), run_write_sier, run_read]
  simp only [tick_idle, writeSier_idle, after, read]
  split <;> rfl

theorem enableLoop_ends (header : Header) (behaviour : Behaviour)
    (iobase : BitVec 8) {sier valBak : BitVec 8} (held : Nat) {writes : Nat}
    (accesses rounds : Nat) (val : Cell) (same : val.value = valBak)
    (enabled : behaviour.ignored writes = false ∨ sier = valBak) :
    (enableLoop header iobase valBak (rounds + 1) val).run
        (chipServe header behaviour iobase)
        (Chip.idle behaviour sier held writes accesses) =
      some (some { value := valBak, source := some .sier },
        Chip.idle behaviour valBak held (writes + 1) (accesses + 3)) := by
  have after : (if behaviour.ignored writes then sier else val.value) =
      valBak := by
    rcases enabled with applied | needless
    · simp [applied, same]
    · simp [needless, same]
  rw [enableLoop_round rounds after, if_neg (not_not_intro rfl)]

/-- What is read back after an ignored write is written from then on, and the
loop never ends. -/
theorem enableLoop_stuck (rounds : Nat) {val : Cell} (same : val.value = sier)
    (different : sier ≠ valBak) :
    ∃ chip, (enableLoop header iobase valBak rounds val).run
        (chipServe header behaviour iobase)
        (Chip.idle behaviour sier held writes accesses) =
      some (none, chip) := by
  induction rounds generalizing val writes accesses with
  | zero => exact ⟨_, rfl⟩
  | succ rounds induction =>
      have after : (if behaviour.ignored writes then sier else val.value) =
          sier := by
        simp [same]
      rw [enableLoop_round rounds after, if_pos different]
      exact induction rfl

theorem enableLoop_ignored (rounds : Nat) (val : Cell)
    (ignored : behaviour.ignored writes = true) (different : sier ≠ valBak) :
    ∃ chip, (enableLoop header iobase valBak rounds val).run
        (chipServe header behaviour iobase)
        (Chip.idle behaviour sier held writes accesses) =
      some (none, chip) := by
  cases rounds with
  | zero => exact ⟨_, rfl⟩
  | succ rounds =>
      have after : (if behaviour.ignored writes then sier else val.value) =
          sier := by
        simp [ignored]
      rw [enableLoop_round rounds after, if_pos different]
      exact enableLoop_stuck rounds rfl different

theorem configure_run (header : Header) (behaviour : Behaviour)
    (iobase sier : BitVec 8) (held writes accesses : Nat) (stack : Cell) :
    ∃ dat, (configure header stack).run (chipServe header behaviour iobase)
        (Chip.idle behaviour sier held writes accesses) =
      some (dat, Chip.idle behaviour sier held writes (accesses + 14)) := by
  refine ⟨Chip.found header behaviour iobase header.gport .gier
    (Chip.idle behaviour sier held writes (accesses + 1)), ?_⟩
  rw [configure, run_read, run_read]
  simp only
  rw [run_write_other (by decide), run_write_other (by decide),
    run_write_other (by decide), run_write_other (by decide)]
  rw [run_read, run_read, run_read, run_read, run_read, run_read, run_read,
    run_read]
  rfl

end Idle

/-- The bytes written to FDAT one after the other. -/
def Chip.send (behaviour : Behaviour) (chip : Chip) (chars : List (BitVec 8)) :
    Chip :=
  chars.foldl (fun chip char => (chip.push char).tick behaviour) chip

/-- The port afterwards and the bytes for FDAT, from what FSR and TFCNT read. -/
def transmitted {order : Nat} (regs : Registers) (port : Port order)
    (fsr tfcnt : BitVec 8) : Port order × List (BitVec 8) :=
  if port.xChar ≠ 0 then
    ({ port with icountTx := port.icountTx + 1, xChar := 0 }, [port.xChar])
  else if circEmpty port.xmit ∨ port.stopped then (port, [])
  else
    let copied := copyChars (txCount regs fsr tfcnt) port
    (copied.2, copied.1)

section Call

variable {order : Nat} {header : Header} {behaviour : Behaviour}
variable {iobase : BitVec 8} {chip : Chip}

theorem transmitted_eq (regs : Registers) (port : Port order)
    (readings : Readings) :
    transmitted regs port readings.fsr readings.tfcnt =
      ((txChars regs port readings).port,
        fdatBytes regs (txChars regs port readings).frames) := by
  unfold transmitted txChars
  by_cases control : port.xChar ≠ 0
  · simp only [if_pos control]
    have one := fdatBytes_send regs port.iobase [port.xChar]
    rw [fdatBytes_page]
    exact congrArg (Prod.mk _) one.symm
  · simp only [if_neg control]
    by_cases idle : circEmpty port.xmit = true ∨ port.stopped = true
    · simp only [if_pos idle]
      rw [fdatBytes_page]
      rfl
    · simp only [if_neg idle]
      rw [fdatBytes_page, fdatBytes_send]

theorem sendChars_run (chars : List (BitVec 8)) :
    (sendChars iobase chars).run (chipServe header behaviour iobase) chip =
      some ((), chip.send behaviour chars) := by
  induction chars generalizing chip with
  | nil => rfl
  | cons char chars induction =>
      rw [sendChars, run_write_fdat]
      exact induction

/-- FSR and TFCNT are read only if there is something to send. -/
def Chip.beforeSending (behaviour : Behaviour) (chip : Chip)
    (port : Port order) : Chip :=
  if port.xChar ≠ 0 ∨ circEmpty port.xmit ∨ port.stopped then chip
  else (chip.tick behaviour).tick behaviour

variable (header behaviour) in
theorem transmit_run (port : Port order) (stack : Cell) (chip : Chip) :
    let sent := transmitted header.toRegisters port
      (chip.readFsr header behaviour) (chip.tick behaviour).readTfcnt
    ∃ dat, (transmit header port stack).run
        (chipServe header behaviour port.iobase) chip =
      some ((sent.1, dat),
        (chip.beforeSending behaviour port).send behaviour sent.2) := by
  intro sent
  unfold transmit
  by_cases control : port.xChar ≠ 0
  · have same : sent = ({ port with
        icountTx := port.icountTx + 1, xChar := 0 }, [port.xChar]) :=
      if_pos control
    refine ⟨stack, ?_⟩
    rw [if_pos control, run_write_fdat, same, Chip.beforeSending,
      if_pos (.inl control)]
    rfl
  · by_cases idle : circEmpty port.xmit = true ∨ port.stopped = true
    · have same : sent = (port, []) :=
        (if_neg control).trans (if_pos idle)
      refine ⟨stack, ?_⟩
      rw [if_neg control, if_pos idle, same, Chip.beforeSending,
        if_pos (.inr idle)]
      rfl
    · have same : sent = ((copyChars _ port).2, (copyChars _ port).1) :=
        (if_neg control).trans (if_neg idle)
      refine ⟨(chip.tick behaviour).found header behaviour port.iobase
        port.iobase .tfcnt, ?_⟩
      rw [if_neg control, if_neg idle, run_read]
      simp only
      rw [run_read]
      simp only
      rw [run_count, Program.run_bind, sendChars_run, found_own, found_own,
        same, Chip.beforeSending, if_neg (not_or.mpr ⟨control, idle⟩)]
      rfl

/-- The chip after one call. -/
def Chip.afterCall (header : Header) (behaviour : Behaviour)
    (port : Port order) (chip : Chip) : Chip :=
  let ready := chip.tick behaviour
  let sent := transmitted header.toRegisters port
    (ready.readFsr header behaviour) (ready.tick behaviour).readTfcnt
  ((ready.beforeSending behaviour port).send behaviour sent.2).tick behaviour

variable (header behaviour) in
theorem txCharsAccess_run (port : Port order) (stack : Cell) (chip : Chip) :
    ∃ result, (txCharsAccess header port stack).run
        (chipServe header behaviour port.iobase) chip =
      some (result, chip.afterCall header behaviour port) := by
  obtain ⟨dat, transmits⟩ :=
    transmit_run header behaviour port stack (chip.tick behaviour)
  rw [txCharsAccess, run_write_other (by decide), Program.run_bind, transmits,
    Option.bind_some]
  simp only
  rw [run_read]
  exact ⟨_, rfl⟩

variable (header behaviour) in
/-- A condition that is false at the entry ends the loop after one call. -/
theorem serviceLoop_ends {sifr sier : BitVec 8} (stack : Cell) (rounds : Nat)
    (port : Port order) (chip : Chip)
    (once : serviceAgain header sifr sier = false) :
    ∃ after, (serviceLoop header sifr sier stack (rounds + 1) port).run
        (chipServe header behaviour port.iobase) chip =
      some (some after, chip.afterCall header behaviour port) := by
  obtain ⟨⟨after, wakeup⟩, called⟩ :=
    txCharsAccess_run header behaviour port stack chip
  refine ⟨after, ?_⟩
  rw [serviceLoop, Program.run_bind, called, Option.bind_some]
  simp [once]

variable (header behaviour) in
theorem serviceLoop_stuck (iobase : BitVec 8) {sifr sier : BitVec 8}
    (stack : Cell) (rounds : Nat) (port : Port order) (chip : Chip)
    (again : serviceAgain header sifr sier = true) :
    ∃ after, (serviceLoop header sifr sier stack rounds port).run
        (chipServe header behaviour iobase) chip = some (none, after) := by
  induction rounds generalizing port chip with
  | zero => exact ⟨chip, rfl⟩
  | succ rounds induction =>
      obtain ⟨⟨next, wakeup⟩, after, called⟩ := run_some header behaviour iobase
        (txCharsAccess header port stack) chip
      rw [serviceLoop, Program.run_bind, called, Option.bind_some]
      simp only [again, if_true]
      exact induction next after

end Call

section Taken

variable (behaviour : Behaviour) (chip : Chip)

theorem send_sier (chars : List (BitVec 8)) :
    (chip.send behaviour chars).sier = chip.sier := by
  induction chars generalizing chip with
  | nil => rfl
  | cons char chars induction =>
      have kept : ((chip.push char).tick behaviour).sier = chip.sier := by
        unfold Chip.push
        split <;> rfl
      exact (induction _).trans kept

theorem send_taken {chars : List (BitVec 8)}
    (room : chip.held + chars.length ≤ 256) :
    (chip.send behaviour chars).taken = chip.taken ++ chars := by
  induction chars generalizing chip with
  | nil => simp [Chip.send]
  | cons char chars induction =>
      rw [List.length_cons] at room
      have pushed : chip.push char = { chip with
          held := chip.held + 1, taken := chip.taken ++ [char] } :=
        if_pos (by omega)
      have rest := induction ((chip.push char).tick behaviour) (by
        rw [pushed]
        simp only [Chip.tick]
        omega)
      refine rest.trans ?_
      rw [pushed]
      simp [Chip.tick]

theorem push_length (char : BitVec 8) :
    (chip.push char).taken.length ≤ chip.taken.length + 1 := by
  unfold Chip.push
  split <;> simp

theorem send_length (chars : List (BitVec 8)) :
    (chip.send behaviour chars).taken.length ≤
      chip.taken.length + chars.length := by
  induction chars generalizing chip with
  | nil => exact Nat.le_refl _
  | cons char chars induction =>
      have first := push_length chip char
      have rest := induction ((chip.push char).tick behaviour)
      have taken : ((chip.push char).tick behaviour).taken =
          (chip.push char).taken := rfl
      rw [taken] at rest
      rw [List.length_cons]
      exact Nat.le_trans rest (by omega)

theorem send_full (full : 256 ≤ chip.held) (char : BitVec 8)
    (chars : List (BitVec 8)) :
    (chip.send behaviour (char :: chars)).taken.length ≤
      chip.taken.length + chars.length := by
  have dropped : chip.push char = chip := if_neg (by omega)
  have rest := send_length behaviour (chip.tick behaviour) chars
  change (Chip.send behaviour ((chip.push char).tick behaviour)
    chars).taken.length ≤ _
  rw [dropped]
  exact rest

end Taken

section Interrupts

variable {header : Header} {behaviour : Behaviour} {chip : Chip}
variable {sier : BitVec 8}

theorem or_mask_zero_iff (bits first second : BitVec 8) :
    bits &&& (first ||| second) = 0 ↔
      bits &&& first = 0 ∧ bits &&& second = 0 := by
  have split : bits &&& (first ||| second) =
      (bits &&& first) ||| (bits &&& second) := by
    apply BitVec.eq_of_getLsbD_eq
    intro index inside
    simp only [BitVec.getLsbD_and, BitVec.getLsbD_or, Bool.and_or_distrib_left]
  rw [split]
  exact BitVec.or_eq_zero_iff

theorem withFlag_apart {flag mask : BitVec 8} (bits : BitVec 8)
    (apart : flag &&& mask = 0) (raised : Bool) :
    withFlag bits flag raised &&& mask = bits &&& mask := by
  apply BitVec.eq_of_getLsbD_eq
  intro index inside
  have none := congrArg (fun value => value.getLsbD index) apart
  simp only [BitVec.getLsbD_and] at none
  unfold withFlag
  cases raised <;> cases set : mask.getLsbD index <;> simp_all

theorem withFlag_own {flag : BitVec 8} (bits : BitVec 8) (some : flag ≠ 0)
    (raised : Bool) :
    withFlag bits flag raised &&& flag ≠ 0 ↔ raised = true := by
  cases raised with
  | false =>
      have cleared : withFlag bits flag false &&& flag = 0 := by
        apply BitVec.eq_of_getLsbD_eq
        intro index inside
        cases set : flag.getLsbD index <;> simp [withFlag, set]
      simp [cleared]
  | true =>
      have kept : withFlag bits flag true &&& flag = flag := by
        apply BitVec.eq_of_getLsbD_eq
        intro index inside
        cases set : flag.getLsbD index <;> simp [withFlag, set]
      simpa [kept] using some

/-- With the transmit interrupt enabled the loop is left at its entry only if
nothing was received and the FIFO is not below its level. -/
theorem serviceAgain_false_iff (header : Header) (behaviour : Behaviour)
    (sier : BitVec 8) (chip : Chip) :
    serviceAgain header (chip.readSifr header behaviour)
        (sier ||| header.tftrigIen) = false ↔
      behaviour.interrupts &&& header.receiveInts = 0 ∧
        behaviour.level ≤ chip.held := by
  obtain ⟨apartOvt, apartTrig⟩ :=
    (or_mask_zero_iff _ _ _).mp header.tftrigIntApart
  have enabled : (sier ||| header.tftrigIen) &&& header.tftrigIen ≠ 0 := by
    have kept : (sier ||| header.tftrigIen) &&& header.tftrigIen =
        header.tftrigIen := by
      apply BitVec.eq_of_getLsbD_eq
      intro index inside
      cases set : header.tftrigIen.getLsbD index <;> simp [set]
    rw [kept]
    exact header.tftrigIenSome
  have trigger : chip.readSifr header behaviour &&& header.tftrigInt ≠ 0 ↔
      chip.held < behaviour.level ∧
        behaviour.interrupts &&& header.receiveInts = 0 :=
    (withFlag_own _ header.tftrigIntSome _).trans (decide_eq_true_iff)
  have received := or_mask_zero_iff behaviour.interrupts header.rxovtInt
    header.rftrigInt
  have overrun : chip.readSifr header behaviour &&& header.rxovtInt =
      behaviour.interrupts &&& header.rxovtInt :=
    withFlag_apart _ apartOvt _
  have filled : chip.readSifr header behaviour &&& header.rftrigInt =
      behaviour.interrupts &&& header.rftrigInt :=
    withFlag_apart _ apartTrig _
  unfold serviceAgain
  rw [decide_eq_false_iff_not, overrun, filled, trigger]
  unfold Header.receiveInts
  rw [received]
  constructor
  · intro none
    simp only [not_or, not_not, not_and] at none
    refine ⟨⟨none.1, none.2.1⟩, ?_⟩
    by_contra below
    exact enabled (none.2.2 ⟨by omega, none.1, none.2.1⟩)
  · rintro ⟨⟨ovt, trig⟩, above⟩
    simp only [not_or, not_not, not_and]
    exact ⟨ovt, trig, fun low => by omega⟩

end Interrupts

section Work

variable {order : Nat} {header : Header} {behaviour : Behaviour}
variable {sier : BitVec 8} {held : Nat} {port : Port order}

theorem heldAfter_le (behaviour : Behaviour) (held : Nat) {first later : Nat}
    (ordered : first ≤ later) :
    behaviour.heldAfter held later ≤ behaviour.heldAfter held first := by
  induction ordered with
  | refl => exact Nat.le_refl _
  | step _ induction => exact Nat.le_trans (Nat.sub_le _ _) induction

/-- What the driver computes from the two readings. -/
theorem txCount_room (bounded : held ≤ 256) (writes : Nat) :
    txCount header.toRegisters
        ((Chip.idle behaviour sier held writes 21).readFsr header behaviour)
        (Chip.idle behaviour sier held writes 22).readTfcnt =
      behaviour.room held := by
  have early := heldAfter_le behaviour held (Nat.zero_le 21)
  have drained := heldAfter_le behaviour held (show 21 ≤ 22 by decide)
  have start : behaviour.heldAfter held 0 = held := rfl
  have full : (Chip.idle behaviour sier held writes 21).readFsr header
      behaviour &&& header.tfull ≠ 0 ↔ behaviour.heldAfter held 21 = 256 :=
    (withFlag_own _ header.tfullSome _).trans decide_eq_true_iff
  have zero : (Chip.idle behaviour sier held writes 22).readTfcnt = 0 ↔
      behaviour.heldAfter held 22 % 256 = 0 := by
    rw [← BitVec.toNat_inj]
    simp [Chip.readTfcnt, Chip.idle]
  have number : (Chip.idle behaviour sier held writes 22).readTfcnt.toNat =
      behaviour.heldAfter held 22 % 256 := by
    simp [Chip.readTfcnt, Chip.idle]
  unfold txCount Behaviour.room
  rw [number]
  split
  · rename_i ambiguous
    have multiple := zero.mp ambiguous
    split
    · rename_i raised
      have whole := full.mp raised
      split <;> omega
    · rename_i lowered
      have partly : behaviour.heldAfter held 21 ≠ 256 :=
        fun whole => lowered (full.mpr whole)
      rw [if_neg (fun both => partly both.1)]
      omega
  · rename_i unambiguous
    have some : behaviour.heldAfter held 22 % 256 ≠ 0 :=
      fun multiple => unambiguous (zero.mpr multiple)
    rw [if_neg (fun both => some (by rw [both.2]))]
    omega

theorem afterCall_sier (chip : Chip) :
    (chip.afterCall header behaviour port).sier = chip.sier := by
  refine (send_sier behaviour _ _).trans ?_
  unfold Chip.beforeSending
  split <;> rfl

/-- The control character is taken unless the FIFO is full. -/
private theorem taken_control (writes : Nat)
    (control : port.xChar ≠ 0) :
    (Chip.afterCall header behaviour port
        (Chip.idle behaviour sier held writes 20)).taken = port.outgoing ↔
      Fits behaviour held port := by
  have after : Chip.afterCall header behaviour port
      (Chip.idle behaviour sier held writes 20) =
      ((Chip.idle behaviour sier held writes 21).send behaviour
        [port.xChar]).tick behaviour := by
    simp only [Chip.afterCall, tick_idle, Chip.beforeSending, transmitted,
      if_pos control, if_pos (Or.inl control)]
  unfold Fits Port.outgoing
  rw [after, if_pos control, if_pos control]
  change ((Chip.idle behaviour sier held writes 21).send behaviour
    [port.xChar]).taken = _ ↔ _
  by_cases room : behaviour.heldAfter held 21 < 256
  · have taken := send_taken behaviour
      (Chip.idle behaviour sier held writes 21)
      (show _ + [port.xChar].length ≤ 256 from room)
    have empty : (Chip.idle behaviour sier held writes 21).taken = [] := rfl
    rw [taken, empty, List.nil_append, List.cons.injEq]
    constructor
    · rintro ⟨-, nothing⟩
      exact ⟨nothing.symm, room⟩
    · rintro ⟨nothing, -⟩
      exact ⟨rfl, nothing.symm⟩
  · have dropped := send_full behaviour
      (Chip.idle behaviour sier held writes 21)
      (Nat.le_of_not_lt room) port.xChar []
    constructor
    · intro same
      rw [same] at dropped
      simp [Chip.idle] at dropped
    · intro fits
      exact absurd fits.2 room

/-- What is copied is taken whole only if it is everything. -/
private theorem taken_pending (bounded : held ≤ 256) (writes : Nat)
    (plain : ¬port.xChar ≠ 0)
    (sends : ¬(circEmpty port.xmit = true ∨ port.stopped = true)) :
    (Chip.afterCall header behaviour port
        (Chip.idle behaviour sier held writes 20)).taken = port.outgoing ↔
      Fits behaviour held port := by
  have drained := heldAfter_le behaviour held (show 22 ≤ 23 by decide)
  have after : Chip.afterCall header behaviour port
      (Chip.idle behaviour sier held writes 20) =
      ((Chip.idle behaviour sier held writes 23).send behaviour
        (port.xmit.pending.take (max (behaviour.room held) 1))).tick
          behaviour := by
    have idle := not_or.mpr ⟨plain, sends⟩
    simp only [Chip.afterCall, tick_idle, Chip.beforeSending, transmitted,
      if_neg plain, if_neg sends, if_neg idle, txCount_room bounded,
      copyChars_eq]
  obtain ⟨nonempty, running⟩ := not_or.mp sends
  have filled : port.xmit.pending ≠ [] :=
    fun nothing => nonempty ((circEmpty_iff _).mpr nothing)
  have started : port.stopped = false := by simpa using running
  unfold Fits Port.outgoing
  rw [after, if_neg plain, if_neg plain]
  change ((Chip.idle behaviour sier held writes 23).send behaviour
    (port.xmit.pending.take (max (behaviour.room held) 1))).taken = _ ↔ _
  have none : (Chip.idle behaviour sier held writes 23).taken = [] := rfl
  have bounds := send_length behaviour
    (Chip.idle behaviour sier held writes 23)
    (port.xmit.pending.take (max (behaviour.room held) 1))
  rw [none, List.length_take, List.length_nil] at bounds
  constructor
  · intro same
    rw [same] at bounds
    refine .inr ⟨started, by omega, ?_⟩
    by_contra full
    obtain ⟨char, chars, shape⟩ := List.exists_cons_of_ne_nil filled
    have positive : max (behaviour.room held) 1 =
        (max (behaviour.room held) 1 - 1) + 1 := by omega
    have dropped := send_full behaviour
      (Chip.idle behaviour sier held writes 23)
      (Nat.le_of_not_lt full) char
      (chars.take (max (behaviour.room held) 1 - 1))
    rw [← List.take_succ_cons, ← positive, ← shape, same, none,
      List.length_take, shape] at dropped
    simp only [List.length_cons, List.length_nil] at dropped
    omega
  · rintro (nothing | ⟨-, few, room⟩)
    · exact absurd nothing filled
    · rw [List.take_of_length_le few]
      have fits : behaviour.heldAfter held 23 + port.xmit.pending.length ≤
          256 := by
        unfold Behaviour.room at few
        split at few <;> omega
      exact send_taken behaviour _ fits

/-- The FIFO takes everything in the one call exactly if everything fits. -/
theorem afterCall_taken_iff (header : Header) (behaviour : Behaviour)
    (sier : BitVec 8) (port : Port order) (bounded : held ≤ 256) (writes : Nat) :
    (Chip.afterCall header behaviour port
        (Chip.idle behaviour sier held writes 20)).taken = port.outgoing ↔
      Fits behaviour held port := by
  by_cases control : port.xChar ≠ 0
  · exact taken_control writes control
  · by_cases idle : circEmpty port.xmit = true ∨ port.stopped = true
    · have after : Chip.afterCall header behaviour port
          (Chip.idle behaviour sier held writes 20) =
          Chip.idle behaviour sier held writes 22 := by
        simp only [Chip.afterCall, tick_idle, Chip.beforeSending, transmitted,
          if_neg control, if_pos idle, if_pos (Or.inr idle)]
        rfl
      unfold Fits Port.outgoing
      rw [after, if_neg control, if_neg control]
      change [] = _ ↔ _
      constructor
      · intro nothing
        exact .inl nothing.symm
      · rintro (nothing | ⟨running, -⟩)
        · exact nothing.symm
        · rcases idle with empty | stopped
          · exact ((circEmpty_iff _).mp empty).symm
          · rw [running] at stopped
            cases stopped
    · exact taken_pending bounded writes control idle

private theorem sier_found (accesses : Nat) (writes : Nat) :
    (Chip.idle behaviour sier held writes accesses).found header behaviour
      port.iobase port.iobase .sier = ⟨sier, some .sier⟩ := by
  simp [Chip.found, Chip.reading, Chip.idle]

theorem work_none (rounds : Nat) (port : Port order) (stack : Cell)
    (looped : ∃ after, (enableLoop header port.iobase
        (sier ||| header.tftrigIen) rounds
        ⟨sier ||| header.tftrigIen, some .sier⟩).run
        (chipServe header behaviour port.iobase)
        (Chip.idle behaviour sier held 0 1) = some (none, after)) :
    ∃ after, (work header rounds port stack).run
        (chipServe header behaviour port.iobase)
        (Chip.idle behaviour sier held 0 0) = some (none, after) := by
  obtain ⟨after, looped⟩ := looped
  refine ⟨after, ?_⟩
  rw [work, run_read]
  simp only [tick_idle, sier_found]
  rw [Program.run_bind, looped, Option.bind_some]
  rfl

theorem work_zero (header : Header) (behaviour : Behaviour) (sier : BitVec 8)
    (held : Nat) (port : Port order) (stack : Cell) :
    ∃ after, (work header 0 port stack).run
        (chipServe header behaviour port.iobase)
        (Chip.idle behaviour sier held 0 0) = some (none, after) :=
  work_none 0 port stack ⟨_, rfl⟩

/-- After the loop that sets SIER the work item ends as its service loop
does. -/
theorem work_run {rounds : Nat} {stack : Cell} {outcome : Option (Port order)}
    {after : Chip}
    (enabled : behaviour.ignored 0 = false ∨
      sier ||| header.tftrigIen = sier)
    (served : (serviceLoop header
        ((Chip.idle behaviour (sier ||| header.tftrigIen) held 1 18).readSifr
          header behaviour)
        (sier ||| header.tftrigIen) stack (rounds + 1) port).run
        (chipServe header behaviour port.iobase)
        (Chip.idle behaviour (sier ||| header.tftrigIen) held 1 20) =
      some (outcome, after)) :
    ∃ last, (work header (rounds + 1) port stack).run
        (chipServe header behaviour port.iobase)
        (Chip.idle behaviour sier held 0 0) = some (outcome, last) ∧
      last.sier = after.sier ∧ last.taken = after.taken := by
  obtain ⟨dat, configured⟩ := configure_run header behaviour port.iobase
    (sier ||| header.tftrigIen) held 1 4 stack
  have ends := enableLoop_ends header behaviour port.iobase held 1 rounds
    ⟨sier ||| header.tftrigIen, some .sier⟩ rfl (enabled.imp_right Eq.symm)
  have status : (Chip.idle behaviour (sier ||| header.tftrigIen) held 1
      18).found header behaviour port.iobase port.iobase .sifr =
      ⟨(Chip.idle behaviour (sier ||| header.tftrigIen) held 1 18).readSifr
        header behaviour, some .sifr⟩ := by
    simp [Chip.found, Chip.reading]
  rw [work, run_read]
  simp only [tick_idle, sier_found]
  rw [Program.run_bind, ends, Option.bind_some]
  simp only
  rw [Program.run_bind, configured, Option.bind_some]
  simp only
  rw [run_read]
  simp only [tick_idle, status]
  rw [run_read]
  simp only [tick_idle, sier_found]
  rw [Program.run_bind, served, Option.bind_some]
  cases outcome with
  | none => exact ⟨after, rfl, rfl, rfl⟩
  | some result =>
      exact ⟨(after.tick behaviour).tick behaviour, rfl, rfl, rfl⟩

/-- The work item finishes exactly under the conditions above. -/
theorem finishes_iff_workSound (header : Header) (behaviour : Behaviour)
    (sier : BitVec 8) (held : Fin 257) (port : Port order) (stack : Cell) :
    Finishes header behaviour sier held port stack ↔
      WorkSound header behaviour sier held port := by
  have bounded : held.val ≤ 256 := Nat.le_of_lt_succ held.isLt
  have start : Chip.start sier held =
      Chip.idle behaviour sier held 0 0 := rfl
  have entry := serviceAgain_false_iff header behaviour sier
    (Chip.idle behaviour (sier ||| header.tftrigIen) held 1 18)
  have fits := afterCall_taken_iff header behaviour
    (sier ||| header.tftrigIen) port bounded 1
  unfold Finishes
  rw [start]
  constructor
  · rintro ⟨rounds, after, chip, finished, -, taken⟩
    have enabled : behaviour.ignored 0 = false ∨
        sier ||| header.tftrigIen = sier := by
      by_contra neither
      rw [not_or, Bool.not_eq_false] at neither
      obtain ⟨last, ran⟩ := work_none rounds port stack
        (enableLoop_ignored rounds ⟨sier ||| header.tftrigIen, some .sier⟩
          neither.1 (Ne.symm neither.2))
      rw [ran] at finished
      cases finished
    cases rounds with
    | zero =>
        obtain ⟨last, ran⟩ := work_zero header behaviour sier held port stack
        rw [ran] at finished
        cases finished
    | succ rounds =>
        by_cases again : serviceAgain header
            ((Chip.idle behaviour (sier ||| header.tftrigIen) held 1
              18).readSifr header behaviour)
            (sier ||| header.tftrigIen) = true
        · obtain ⟨last, stuck⟩ := serviceLoop_stuck header behaviour
            port.iobase stack (rounds + 1) port
            (Chip.idle behaviour (sier ||| header.tftrigIen) held 1 20) again
          obtain ⟨final, ran, -⟩ := work_run enabled stuck
          rw [ran] at finished
          cases finished
        · have once := Bool.eq_false_iff.mpr again
          obtain ⟨result, ends⟩ := serviceLoop_ends header behaviour stack
            rounds port
            (Chip.idle behaviour (sier ||| header.tftrigIen) held 1 20) once
          obtain ⟨final, ran, -, same⟩ := work_run enabled ends
          rw [ran] at finished
          cases finished
          obtain ⟨silent, above⟩ := entry.mp once
          exact ⟨enabled, silent, above, fits.mp (same.symm.trans taken)⟩
  · intro sound
    obtain ⟨result, ends⟩ := serviceLoop_ends header behaviour stack 0 port
      (Chip.idle behaviour (sier ||| header.tftrigIen) held 1 20)
      (entry.mpr ⟨sound.silent, sound.above⟩)
    obtain ⟨final, ran, bits, same⟩ := work_run sound.enabled ends
    refine ⟨1, result, final, ran, ?_, ?_⟩
    · exact bits.trans (afterCall_sier _)
    · exact same.trans (fits.mpr sound.fits)

end Work

def sampleBehaviour : Behaviour where
  ignored _ := false
  drained _ := 1
  level := 64
  interrupts := 0
  readings _ := 0
  ignoresFinitely := ⟨0, fun _ _ => rfl⟩
  drainsAlways index := ⟨index, Nat.le_refl _, Nat.one_pos⟩

/-- One byte waits to be sent. -/
def samplePort : Port 12 where
  iobase := 1
  xChar := 0
  icountTx := 0
  stopped := false
  xmit := ⟨fun _ => 0x41, 1, 0⟩

/-- On an empty FIFO the work item sends its byte and goes on for ever. -/
theorem not_finishes_empty :
    ¬Finishes sampleHeader sampleBehaviour 0 0 samplePort ⟨0, none⟩ := by
  rintro ⟨rounds, after, chip, finished, -⟩
  cases rounds with
  | zero =>
      obtain ⟨last, ran⟩ := work_zero sampleHeader sampleBehaviour 0 0
        samplePort ⟨0, none⟩
      cases ran.symm.trans finished
  | succ rounds =>
      have again : serviceAgain sampleHeader
          ((Chip.idle sampleBehaviour (0 ||| sampleHeader.tftrigIen) 0 1
            18).readSifr sampleHeader sampleBehaviour)
          (0 ||| sampleHeader.tftrigIen) = true := by
        decide
      obtain ⟨last, stuck⟩ := serviceLoop_stuck sampleHeader sampleBehaviour
        samplePort.iobase ⟨0, none⟩ (rounds + 1) samplePort
        (Chip.idle sampleBehaviour (0 ||| sampleHeader.tftrigIen) 0 1 20) again
      obtain ⟨final, ran, -⟩ := work_run (.inl rfl) stuck
      cases ran.symm.trans finished

end KernelDrivers.Wk2xxx
