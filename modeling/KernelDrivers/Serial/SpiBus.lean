import KernelDrivers.Serial.Access

/-!
# The lock and the chip select

`wk2xxx_write_reg` and `wk2xxx_read_reg` take the lock, pull the chip select
low and call `spi_sync`.  When that fails they return without undoing either.
-/

namespace KernelDrivers.Wk2xxx

open KernelDrivers.Library

/-- What one call of `spi_sync` returns, and the data byte that it receives. -/
structure Sync where
  status : Int
  byte : BitVec 8

/-- The lock, the level of the chip select, the messages given to `spi_sync`,
latest first, and the variables from which a number of bytes was computed. -/
structure Bus where
  locked : Bool
  csHigh : Bool
  frames : List Frame
  counts : List (Cell × Cell)

def Bus.idle : Bus :=
  { locked := false, csHigh := true, frames := [], counts := [] }

section Serve

variable (header : Header) (sync : Nat → Sync)

/-- The common body of both accesses.  `mutex_lock` never returns while the
lock is held, and an error returns before the lock is released. -/
def transfer (bus : Bus) (frame : Frame) : Option (Sync × Bus) :=
  if bus.locked then none
  else
    let result := sync bus.frames.length
    let bus := { bus with
      locked := true, csHigh := false, frames := frame :: bus.frames }
    if result.status ≠ 0 then some (result, bus)
    else some (result, { bus with locked := false, csHigh := true })

def writeRegBus (bus : Bus) (port : BitVec 8) (reg : Reg) (data : BitVec 8) :
    Option (Int × Bus) :=
  (transfer sync bus (writeReg port (header.address reg) data)).map
    fun (result, bus) => (result.status, bus)

/-- The control byte of a read has bit 6 set. -/
def readFrame (port reg : BitVec 8) : Frame :=
  let subNumber := (port - 1) <<< 4
  (0x40 ||| subNumber ||| reg, 0)

/-- A read that fails leaves the variable as it was. -/
def readRegBus (bus : Bus) (port : BitVec 8) (reg : Reg) (data : Cell) :
    Option ((Int × Cell) × Bus) :=
  (transfer sync bus (readFrame port (header.address reg))).map
    fun (result, bus) =>
      ((result.status,
        if result.status ≠ 0 then data
        else { value := result.byte, source := some reg }), bus)

def serve : Program.Environment Answer Bus
  | .write port reg data, bus => writeRegBus header sync bus port reg data
  | .read port reg data, bus => readRegBus header sync bus port reg data
  | .count fsr tfcnt, bus =>
      some ((), { bus with counts := (fsr, tfcnt) :: bus.counts })

end Serve

/-- A call of the driver, on a port in any state. -/
inductive Job (order : Nat) where
  | transmission (port : Port order) (stack : BitVec 8)
  | workItem (rounds : Nat) (port : Port order) (stack : BitVec 8)

variable {order : Nat}

def Job.access (header : Header) : Job order → Access Unit
  | .transmission port stack => do
      let _sent ← txCharsAccess header port { value := stack, source := none }
      pure ()
  | .workItem rounds port stack => do
      let _done ← work header rounds port { value := stack, source := none }
      pure ()

def session (header : Header) : List (Job order) → Access Unit
  | [] => pure ()
  | job :: jobs => do
      job.access header
      session header jobs

/-- The lock is free and the chip is not selected. -/
def Bus.Released (bus : Bus) : Prop :=
  bus.locked = false ∧ bus.csHigh = true

/-- Both variables were read from the register that they stand for. -/
def InformedBy (fsr tfcnt : Cell) : Prop :=
  fsr.source = some .fsr ∧ tfcnt.source = some .tfcnt

def Bus.Informed (bus : Bus) : Prop :=
  ∀ pair ∈ bus.counts, InformedBy pair.1 pair.2

/-- No access waits for ever, after each of them the lock and the chip select
are released, and numbers of bytes are computed from what was read. -/
def BalancedRun (header : Header) (sync : Nat → Sync) {α : Type}
    (program : Access α) : Prop :=
  program.run (serve header sync) Bus.idle ≠ none ∧
    ∀ bus ∈ program.states (serve header sync) Bus.idle,
      bus.Released ∧ bus.Informed

/-- None of the messages given to `spi_sync` so far has failed. -/
def Bus.Faultless (sync : Nat → Sync) (bus : Bus) : Prop :=
  ∀ index < bus.frames.length, (sync index).status = 0

/-- No `spi_sync` of the run fails. -/
def FaultlessRun (header : Header) (sync : Nat → Sync) {α : Type}
    (program : Access α) : Prop :=
  ∀ bus ∈ program.states (serve header sync) Bus.idle, bus.Faultless sync

section Transfer

variable {header : Header} {sync : Nat → Sync} {bus after : Bus}
variable {frame : Frame} {result : Sync}

theorem transfer_none_iff :
    transfer sync bus frame = none ↔ bus.locked = true := by
  unfold transfer
  cases bus.locked with
  | true => simp
  | false =>
      simp only [Bool.false_eq_true, if_false]
      split <;> simp

theorem transfer_some (moved : transfer sync bus frame = some (result, after)) :
    bus.locked = false ∧ result = sync bus.frames.length ∧
      after.frames = frame :: bus.frames ∧ after.counts = bus.counts ∧
      (after.locked = false ↔ result.status = 0) ∧
      (after.csHigh = true ↔ result.status = 0) := by
  unfold transfer at moved
  cases held : bus.locked with
  | true => simp [held] at moved
  | false =>
      simp only [held, Bool.false_eq_true, if_false] at moved
      by_cases failed : (sync bus.frames.length).status ≠ 0
      · rw [if_pos failed] at moved
        cases moved
        simpa using failed
      · rw [if_neg failed] at moved
        cases moved
        simpa using failed

theorem serve_none {request : Request}
    (blocked : serve header sync request bus = none) : bus.locked = true := by
  cases request with
  | write port reg data =>
      exact transfer_none_iff.mp (Option.map_eq_none_iff.mp blocked)
  | read port reg data =>
      exact transfer_none_iff.mp (Option.map_eq_none_iff.mp blocked)
  | count fsr tfcnt => cases blocked

/-- If the lock is free then no message has failed. -/
def Bus.Sound (sync : Nat → Sync) (bus : Bus) : Prop :=
  bus.locked = false → bus.Faultless sync

theorem transfer_sound (sound : bus.Sound sync)
    (moved : transfer sync bus frame = some (result, after)) :
    after.Sound sync := by
  obtain ⟨before, same, frames, -, released, -⟩ := transfer_some moved
  intro unlocked index inside
  rw [frames, List.length_cons] at inside
  rcases Nat.lt_succ_iff_lt_or_eq.mp inside with earlier | last
  · exact sound before index earlier
  · rw [last, ← same]
    exact released.mp unlocked

theorem serve_sound {request : Request} {answer : Answer request}
    (sound : bus.Sound sync)
    (served : serve header sync request bus = some (answer, after)) :
    after.Sound sync := by
  cases request with
  | write port reg data =>
      obtain ⟨⟨result, next⟩, moved, shape⟩ := Option.map_eq_some_iff.mp served
      cases shape
      exact transfer_sound sound moved
  | read port reg data =>
      obtain ⟨⟨result, next⟩, moved, shape⟩ := Option.map_eq_some_iff.mp served
      cases shape
      exact transfer_sound sound moved
  | count fsr tfcnt =>
      cases served
      exact sound

/-- A number of bytes is computed from variables that were read. -/
def Asks : Request → Prop
  | .count fsr tfcnt => InformedBy fsr tfcnt
  | _ => True

/-- A read leaves in its variable what it has read. -/
def Truthful : ∀ request, Answer request → Prop
  | .read _ reg _, answer => answer.2.source = some reg
  | _, _ => True

theorem transfer_released
    (moved : transfer sync bus frame = some (result, after))
    (faultless : after.Faultless sync) :
    result.status = 0 ∧ after.Released ∧ after.counts = bus.counts := by
  obtain ⟨-, same, frames, counts, released, deselected⟩ := transfer_some moved
  have done : result.status = 0 := by
    rw [same]
    apply faultless
    rw [frames]
    exact Nat.lt_succ_self _
  exact ⟨done, ⟨released.mpr done, deselected.mpr done⟩, counts⟩

theorem serve_released {request : Request} {answer : Answer request}
    (before : bus.Released ∧ bus.Informed) (asks : Asks request)
    (served : serve header sync request bus = some (answer, after))
    (faultless : after.Faultless sync) :
    Truthful request answer ∧ after.Released ∧ after.Informed := by
  cases request with
  | write port reg data =>
      obtain ⟨⟨result, next⟩, moved, shape⟩ := Option.map_eq_some_iff.mp served
      cases shape
      obtain ⟨-, released, counts⟩ := transfer_released moved faultless
      refine ⟨trivial, released, ?_⟩
      rw [Bus.Informed, counts]
      exact before.2
  | read port reg data =>
      obtain ⟨⟨result, next⟩, moved, shape⟩ := Option.map_eq_some_iff.mp served
      cases shape
      obtain ⟨done, released, counts⟩ := transfer_released moved faultless
      refine ⟨?_, released, ?_⟩
      · simp [Truthful, done]
      · rw [Bus.Informed, counts]
        exact before.2
  | count fsr tfcnt =>
      cases served
      exact ⟨trivial, before.1, List.forall_mem_cons.mpr ⟨asks, before.2⟩⟩

end Transfer

section Driver

variable (header : Header)

/-- Every number of bytes is computed from variables that were read, if reads
do not fail. -/
abbrev Wary {α : Type} (program : Access α) : Prop :=
  program.AllAsk Asks Truthful

theorem sendChars_wary (iobase : BitVec 8) (chars : List (BitVec 8)) :
    Wary (sendChars iobase chars) := by
  induction chars with
  | nil => trivial
  | cons char chars induction => exact ⟨trivial, fun _ _ => induction⟩

theorem transmit_wary (port : Port order) (stack : Cell) :
    Wary (transmit header port stack) := by
  unfold transmit
  split
  · exact ⟨trivial, fun _ _ => trivial⟩
  · split
    · trivial
    · refine ⟨trivial, fun fsr fsrRead => ⟨trivial, fun tfcnt tfcntRead => ?_⟩⟩
      refine ⟨⟨fsrRead, tfcntRead⟩, fun _ _ => ?_⟩
      apply (sendChars_wary _ _).bind
      intro _
      trivial

theorem txCharsAccess_wary (port : Port order) (stack : Cell) :
    Wary (txCharsAccess header port stack) := by
  refine ⟨trivial, fun _ _ => ?_⟩
  apply (transmit_wary header port stack).bind
  intro sent
  exact ⟨trivial, fun _ _ => trivial⟩

theorem enableLoop_wary (iobase valBak : BitVec 8) (rounds : Nat)
    (val : Cell) : Wary (enableLoop header iobase valBak rounds val) := by
  induction rounds generalizing val with
  | zero => trivial
  | succ rounds induction =>
      refine ⟨trivial, fun _ _ => ⟨trivial, fun _ _ => ⟨trivial, ?_⟩⟩⟩
      rintro ⟨status, read⟩ _
      change Wary (if read.value ≠ valBak then
        enableLoop header iobase valBak rounds read else pure (some read))
      split
      · exact induction read
      · trivial

theorem serviceLoop_wary (sifr sier : BitVec 8) (stack : Cell) (rounds : Nat)
    (port : Port order) :
    Wary (serviceLoop header sifr sier stack rounds port) := by
  induction rounds generalizing port with
  | zero => trivial
  | succ rounds induction =>
      apply (txCharsAccess_wary header port stack).bind
      rintro ⟨sent, wakeup⟩
      change Wary (if serviceAgain header sifr sier then
        serviceLoop header sifr sier stack rounds sent else pure (some sent))
      split
      · exact induction sent
      · trivial

theorem configure_wary (stack : Cell) : Wary (configure header stack) := by
  repeat refine ⟨trivial, fun _ _ => ?_⟩
  trivial

theorem work_wary (rounds : Nat) (port : Port order) (stack : Cell) :
    Wary (work header rounds port stack) := by
  refine ⟨trivial, fun val _ => ?_⟩
  apply (enableLoop_wary header _ _ rounds _).bind
  intro enabled
  split
  · trivial
  · apply (configure_wary header _).bind
    intro dat
    refine ⟨trivial, fun sifr _ => ⟨trivial, fun sier _ => ?_⟩⟩
    apply (serviceLoop_wary header _ _ stack rounds port).bind
    intro served
    split
    · trivial
    · exact ⟨trivial, fun _ _ => ⟨trivial, fun _ _ => trivial⟩⟩

theorem session_wary (jobs : List (Job order)) :
    Wary (session header jobs) := by
  induction jobs with
  | nil => trivial
  | cons job jobs induction =>
      refine Program.AllAsk.bind ?_ fun _ => induction
      cases job with
      | transmission port stack =>
          apply (txCharsAccess_wary header port _).bind
          intro _
          trivial
      | workItem rounds port stack =>
          apply (work_wary header rounds port _).bind
          intro _
          trivial

end Driver

/-- For every sequence of accesses: if the lock is free after each of them,
then no message has failed. -/
theorem faultlessRun_of_released {header : Header} {sync : Nat → Sync}
    {α : Type} {program : Access α}
    (released : ∀ bus ∈ program.states (serve header sync) Bus.idle,
      bus.Released) : FaultlessRun header sync program := by
  have initial : Bus.idle.Sound sync := by
    intro _ index inside
    cases inside
  have kept : ∀ request bus answer after, bus.Sound sync →
      serve header sync request bus = some (answer, after) →
        after.Sound sync := by
    intro request bus answer after sound served
    exact serve_sound sound served
  have sound := Program.run_invariant (Bus.Sound sync) kept program initial
  intro bus member
  exact sound bus member (released bus member).1

/-- The calls of the driver are balanced exactly if no `spi_sync` fails. -/
theorem balancedRun_session_iff (header : Header) (sync : Nat → Sync)
    (jobs : List (Job order)) :
    BalancedRun header sync (session header jobs) ↔
      FaultlessRun header sync (session header jobs) := by
  constructor
  · intro balanced
    apply faultlessRun_of_released
    intro bus member
    exact (balanced.2 bus member).1
  · intro faultless
    have initial : Bus.idle.Released ∧ Bus.idle.Informed := by
      refine ⟨⟨rfl, rfl⟩, ?_⟩
      intro pair member
      cases member
    refine Program.AllAsk.run
      (fun bus => bus.Released ∧ bus.Informed) ?_ ?_
      (session_wary header jobs) initial faultless
    · intro request bus before blocked
      have held := serve_none blocked
      rw [before.1.1] at held
      cases held
    · intro request bus answer after before asks served good
      exact serve_released before asks served good

/-- The first message fails: the lock stays taken and the chip selected. -/
theorem not_balancedRun_write :
    ¬BalancedRun sampleHeader (fun _ => ⟨-5, 0⟩) (session sampleHeader
      [.transmission ⟨1, 0, 0, false, (⟨fun _ => 0x41, 1, 0⟩ : Xmit 12)⟩ 0]) := by
  intro balanced
  have released := balanced.2 _ (List.mem_singleton.mpr rfl)
  exact absurd released.1.1 (by decide)

end KernelDrivers.Wk2xxx
