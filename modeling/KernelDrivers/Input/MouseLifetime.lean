import KernelDrivers.Input.Mouse

/-!
# One mouse, from probe to disconnect

`usbmouse_as_key_probe` submits the URB before it fills in what the handler
reads, and `usbmouse_as_key_disconnect` frees it all behind `usb_kill_urb`.
Allocations succeed.
-/

namespace KernelDrivers.Input

open KernelDrivers.Library

/-- The next thing the probe does, from the submission on. -/
inductive ProbePc where
  | submitUrb
  | usbdev
  | ukInputDev
  | ukUrb
  | usbBufVir
  | usbBufPhys
  | setIntfdata
  | ret
  deriving DecidableEq

/-- The next thing the handler does, with the pointers that it has read, false
being null. -/
inductive IrqPc where
  | readBuf
  | readInputDev (usbBufVir : Bool)
  | inputEvents (usbBufVir ukInputDev : Bool)
  | submitUrb
  deriving DecidableEq

/-- The next thing the disconnect does: `killUrb` waits. -/
inductive DisconnectPc where
  | bound
  | killUrb
  | freeUrb
  | freeCoherent
  | unregister
  | kfree
  | ret
  deriving DecidableEq

/-- The pointers of `struct usbmouse_key` that are not null. -/
structure Pointers where
  usbdev : Bool
  ukInputDev : Bool
  ukUrb : Bool
  usbBufVir : Bool
  usbBufPhys : Bool

structure Freed where
  urb : Bool
  coherent : Bool
  inputDev : Bool
  uKey : Bool

/-- `active` is a URB that the core has, `reject` the URB being killed, and
`gone` a mouse that was pulled out.  `oops` is a null pointer followed, and
`wild` a use of something freed. -/
structure Lifetime where
  probe : ProbePc
  uKey : Pointers
  intfdata : Bool
  active : Bool
  reject : Bool
  gone : Bool
  handler : Option IrqPc
  disconnect : DisconnectPc
  freed : Freed
  buf : BitVec 8
  preVal : BitVec 8
  events : List (Key × Bool)
  oops : Bool
  wild : Bool

/-- `kzalloc`, and a buffer with anything in byte 1. -/
def Lifetime.start (buf preVal : BitVec 8) : Lifetime :=
  { probe := .submitUrb
    uKey := ⟨false, false, false, false, false⟩
    intfdata := false
    active := false, reject := false, gone := false
    handler := none, disconnect := .bound
    freed := ⟨false, false, false, false⟩
    buf := buf, preVal := preVal, events := []
    oops := false, wild := false }

/-- `usb_submit_urb`, whose result nobody looks at. -/
def Lifetime.submit (life : Lifetime) : Lifetime :=
  { life with active := !life.reject && !life.gone }

/-- `usbmouse_as_key_probe`, one assignment at a time. -/
def Lifetime.probeStep (life : Lifetime) : Option Lifetime :=
  match life.probe with
  | .submitUrb => some { life.submit with probe := .usbdev }
  | .usbdev => some { life with
      uKey := { life.uKey with usbdev := true }, probe := .ukInputDev }
  | .ukInputDev => some { life with
      uKey := { life.uKey with ukInputDev := true }, probe := .ukUrb }
  | .ukUrb => some { life with
      uKey := { life.uKey with ukUrb := true }, probe := .usbBufVir }
  | .usbBufVir => some { life with
      uKey := { life.uKey with usbBufVir := true }, probe := .usbBufPhys }
  | .usbBufPhys => some { life with
      uKey := { life.uKey with usbBufPhys := true }, probe := .setIntfdata }
  | .setIntfdata => some { life with intfdata := true, probe := .ret }
  | .ret => none

/-- `usbmouse_as_key_irq`, one access at a time. -/
def Lifetime.irq (life : Lifetime) : IrqPc → Lifetime
  | .readBuf => { life with
      handler := some (.readInputDev life.uKey.usbBufVir)
      wild := life.wild || life.freed.uKey }
  | .readInputDev usbBufVir => { life with
      handler := some (.inputEvents usbBufVir life.uKey.ukInputDev)
      wild := life.wild || life.freed.uKey }
  | .inputEvents usbBufVir ukInputDev =>
      let sent := keyEvents life.preVal life.buf
      if usbBufVir = false ∨ (sent ≠ [] ∧ ukInputDev = false) then
        { life with oops := true }
      else { life with
        handler := some .submitUrb
        events := life.events ++ sent
        preVal := life.buf
        wild := life.wild || life.freed.coherent || life.freed.inputDev }
  | .submitUrb => { life.submit with
      handler := none
      wild := life.wild || life.freed.urb }

/-- `usbmouse_as_key_disconnect`, which the core calls after the probe. -/
def Lifetime.disconnectStep (life : Lifetime) : Option Lifetime :=
  match life.disconnect with
  | .bound =>
      if life.probe = .ret then
        some { life with reject := true, disconnect := .killUrb }
      else none
  | .killUrb =>
      if life.active = false ∧ life.handler = none then
        some { life with reject := false, disconnect := .freeUrb }
      else none
  | .freeUrb => some { life with
      freed := { life.freed with urb := true }, disconnect := .freeCoherent }
  | .freeCoherent => some { life with
      freed := { life.freed with coherent := true }
      disconnect := .unregister }
  | .unregister => some { life with
      freed := { life.freed with inputDev := true }, disconnect := .kfree }
  | .kfree => some { life with
      freed := { life.freed with uKey := true }, disconnect := .ret }
  | .ret => none

/-- `complete` is a transfer with byte 1 of its report, and `giveback` one that
failed: the handler does not look. -/
inductive LifeEvent where
  | probe
  | complete (report : BitVec 8)
  | giveback
  | irq
  | unplug
  | disconnect
  deriving DecidableEq

def Lifetime.step (life : Lifetime) (event : LifeEvent) : Option Lifetime :=
  if life.oops then none
  else
    match event with
    | .probe => life.probeStep
    | .complete report =>
        if life.active then
          some { life with
            active := false, handler := some .readBuf, buf := report
            wild := life.wild || life.freed.coherent }
        else none
    | .giveback =>
        if life.active then
          some { life with active := false, handler := some .readBuf }
        else none
    | .irq => life.handler.map life.irq
    | .unplug => some { life with gone := true }
    | .disconnect => life.disconnectStep

/-- The pointers that are filled in before a statement of the probe. -/
def ProbePc.filled : ProbePc → Pointers
  | .submitUrb => ⟨false, false, false, false, false⟩
  | .usbdev => ⟨false, false, false, false, false⟩
  | .ukInputDev => ⟨true, false, false, false, false⟩
  | .ukUrb => ⟨true, true, false, false, false⟩
  | .usbBufVir => ⟨true, true, true, false, false⟩
  | .usbBufPhys => ⟨true, true, true, true, false⟩
  | .setIntfdata => ⟨true, true, true, true, true⟩
  | .ret => ⟨true, true, true, true, true⟩

/-- What is freed before a statement of the disconnect. -/
def DisconnectPc.freed : DisconnectPc → Freed
  | .bound => ⟨false, false, false, false⟩
  | .killUrb => ⟨false, false, false, false⟩
  | .freeUrb => ⟨false, false, false, false⟩
  | .freeCoherent => ⟨true, false, false, false⟩
  | .unregister => ⟨true, true, false, false⟩
  | .kfree => ⟨true, true, true, false⟩
  | .ret => ⟨true, true, true, true⟩

/-- Whether the URB may still be with the core or its handler. -/
def DisconnectPc.live : DisconnectPc → Bool
  | .bound | .killUrb => true
  | _ => false

structure Lifetime.Kept (life : Lifetime) : Prop where
  filled : life.uKey = life.probe.filled
  freed : life.freed = life.disconnect.freed
  unsubmitted : life.probe = .submitUrb →
    life.active = false ∧ life.handler = none
  unbound : life.disconnect ≠ .bound → life.probe = .ret
  reject : life.reject = true ↔ life.disconnect = .killUrb
  single : life.active = true → life.handler = none
  idle : life.disconnect.live = false →
    life.active = false ∧ life.handler = none
  read : life.handler = some (.readInputDev true) → life.uKey.usbBufVir = true
  both : ∀ ukInputDev, life.handler = some (.inputEvents true ukInputDev) →
    ukInputDev = true
  wild : life.wild = false

section Kept

variable {life next : Lifetime}

theorem kept_start (buf preVal : BitVec 8) :
    (Lifetime.start buf preVal).Kept where
  filled := rfl
  freed := rfl
  unsubmitted _ := ⟨rfl, rfl⟩
  unbound bound := absurd rfl bound
  reject := by simp [Lifetime.start]
  single active := by cases active
  idle live := by cases live
  read here := by cases here
  both _ here := by cases here
  wild := rfl

/-- The probe fills in one pointer after the other, the input device before the
buffer. -/
theorem Lifetime.Kept.probe (kept : life.Kept)
    (taken : life.probeStep = some next) : next.Kept := by
  obtain ⟨filled, freed, unsubmitted, unbound, reject, single, idle, read,
    both, wild⟩ := kept
  have bound : life.probe ≠ .ret → life.disconnect = .bound := by
    intro busy
    by_contra begun
    exact busy (unbound begun)
  cases here : life.probe with
  | submitUrb =>
      simp only [probeStep, here] at taken
      cases taken
      have alive := bound (by rw [here]; decide)
      have quiet := (unsubmitted here).2
      refine ⟨?_, freed, nofun, ?_, reject, fun _ => quiet, ?_, ?_, ?_, wild⟩
      · rw [here] at filled
        exact filled
      · intro begun
        exact absurd alive begun
      · intro past
        simp [submit, alive, DisconnectPc.live] at past
      · intro loaded
        simp [submit, quiet] at loaded
      · intro _ loaded
        simp [submit, quiet] at loaded
  | ret =>
      simp only [probeStep, here] at taken
      cases taken
  | usbdev | ukInputDev | ukUrb | usbBufVir | usbBufPhys | setIntfdata =>
      have alive := bound (by rw [here]; decide)
      rw [here] at filled
      simp only [probeStep, here] at taken
      cases taken
      refine ⟨?_, freed, nofun, fun begun => absurd alive begun, reject,
        single, idle, ?_, both, wild⟩
      · simp [filled, ProbePc.filled]
      · intro loaded
        simp [read loaded]

/-- The core calls the handler when the transfer ends, one way or other. -/
theorem Lifetime.Kept.called (kept : life.Kept) (active : life.active = true)
    (buf : BitVec 8) :
    ({ life with
        active := false, handler := some .readBuf, buf := buf } :
      Lifetime).Kept := by
  obtain ⟨filled, freed, unsubmitted, unbound, reject, single, idle, read,
    both, wild⟩ := kept
  refine ⟨filled, freed, ?_, unbound, reject, nofun, ?_, nofun, nofun, wild⟩
  · intro early
    have quiet := (unsubmitted early).1
    rw [active] at quiet
    cases quiet
  · intro past
    have quiet := (idle past).1
    rw [active] at quiet
    cases quiet

theorem Lifetime.Kept.freed_of_live (kept : life.Kept)
    (live : life.disconnect.live = true) :
    life.freed = ⟨false, false, false, false⟩ := by
  rw [kept.freed]
  cases here : life.disconnect <;> rw [here] at live <;>
    first | rfl | cases live

theorem Lifetime.Kept.live_of_handler (kept : life.Kept) {pc : IrqPc}
    (running : life.handler = some pc) : life.disconnect.live = true := by
  by_contra past
  have none := (kept.idle (Bool.not_eq_true _ ▸ past)).2
  rw [running] at none
  cases none

theorem Lifetime.Kept.irq (kept : life.Kept) {pc : IrqPc}
    (running : life.handler = some pc) : (life.irq pc).Kept := by
  have live := kept.live_of_handler running
  have whole := kept.freed_of_live live
  obtain ⟨filled, freed, unsubmitted, unbound, reject, single, idle, read,
    both, wild⟩ := kept
  have submitted : life.probe ≠ .submitUrb := by
    intro early
    have none := (unsubmitted early).2
    rw [running] at none
    cases none
  have inactive : life.active ≠ true := by
    intro active
    have none := single active
    rw [running] at none
    cases none
  have alive : life.disconnect.live ≠ false := by simp [live]
  cases pc with
  | readBuf =>
      refine ⟨filled, freed, fun early => absurd early submitted, unbound,
        reject, fun active => absurd active inactive,
        fun past => absurd past alive, ?_, nofun, ?_⟩
      · intro loaded
        simpa [Lifetime.irq] using loaded
      · simp [Lifetime.irq, wild, whole]
  | readInputDev usbBufVir =>
      refine ⟨filled, freed, fun early => absurd early submitted, unbound,
        reject, fun active => absurd active inactive,
        fun past => absurd past alive, nofun, ?_, ?_⟩
      · intro ukInputDev loaded
        simp only [Lifetime.irq, Option.some.injEq, IrqPc.inputEvents.injEq]
          at loaded
        obtain ⟨rfl, rfl⟩ := loaded
        -- The input device was filled in before the buffer was read.
        have buffer := read running
        rw [filled] at buffer ⊢
        cases here : life.probe <;> rw [here] at buffer <;>
          first | rfl | cases buffer
      · simp [Lifetime.irq, wild, whole]
  | inputEvents usbBufVir ukInputDev =>
      simp only [Lifetime.irq]
      split
      · exact ⟨filled, freed, unsubmitted, unbound, reject, single, idle, read,
          both, wild⟩
      · refine ⟨filled, freed, fun early => absurd early submitted, unbound,
          reject, fun active => absurd active inactive,
          fun past => absurd past alive, nofun, nofun, ?_⟩
        simp [wild, whole]
  | submitUrb =>
      refine ⟨filled, freed, fun early => absurd early submitted, unbound,
        reject, fun _ => rfl, fun past => absurd past alive, nofun, nofun, ?_⟩
      simp [Lifetime.irq, wild, whole]

/-- What is freed is freed once nothing can use it. -/
theorem Lifetime.Kept.disconnect (kept : life.Kept)
    (taken : life.disconnectStep = some next) : next.Kept := by
  obtain ⟨filled, freed, unsubmitted, unbound, reject, single, idle, read,
    both, wild⟩ := kept
  cases here : life.disconnect with
  | bound =>
      simp only [disconnectStep, here] at taken
      obtain ⟨done, taken⟩ := Option.ite_none_right_eq_some.mp taken
      cases taken
      rw [here] at freed
      exact ⟨filled, freed, unsubmitted, fun _ => done, by simp, single,
        fun past => by simp [DisconnectPc.live] at past, read, both, wild⟩
  | killUrb =>
      simp only [disconnectStep, here] at taken
      obtain ⟨quiet, taken⟩ := Option.ite_none_right_eq_some.mp taken
      cases taken
      have done := unbound (by rw [here]; decide)
      rw [here] at freed
      exact ⟨filled, freed, unsubmitted, fun _ => done, by simp, single,
        fun _ => quiet, read, both, wild⟩
  | ret =>
      simp only [disconnectStep, here] at taken
      cases taken
  | freeUrb | freeCoherent | unregister | kfree =>
      simp only [disconnectStep, here] at taken
      cases taken
      have done := unbound (by rw [here]; decide)
      have quiet := idle (by rw [here]; rfl)
      have accepts : life.reject = false := by
        cases rejects : life.reject with
        | false => rfl
        | true =>
            rw [reject.mp rejects] at here
            cases here
      rw [here] at freed
      exact ⟨filled, by simp [freed, DisconnectPc.freed], unsubmitted,
        fun _ => done, by simp [accepts], single, fun _ => quiet, read, both,
        wild⟩

theorem Lifetime.Kept.step (kept : life.Kept) {event : LifeEvent}
    (taken : life.step event = some next) : next.Kept := by
  obtain ⟨-, taken⟩ := Option.ite_none_left_eq_some.mp taken
  cases event with
  | probe => exact kept.probe taken
  | complete report =>
      obtain ⟨active, taken⟩ := Option.ite_none_right_eq_some.mp taken
      cases taken
      have live : life.disconnect.live = true := by
        by_contra past
        have none := (kept.idle (Bool.not_eq_true _ ▸ past)).1
        rw [active] at none
        cases none
      have whole := kept.freed_of_live live
      have called := kept.called active report
      exact ⟨called.filled, called.freed, called.unsubmitted, called.unbound,
        called.reject, called.single, called.idle, called.read, called.both,
        by simp [kept.wild, whole]⟩
  | giveback =>
      obtain ⟨active, taken⟩ := Option.ite_none_right_eq_some.mp taken
      cases taken
      exact kept.called active life.buf
  | irq =>
      obtain ⟨pc, running, same⟩ := Option.map_eq_some_iff.mp taken
      rw [← same]
      exact kept.irq running
  | unplug =>
      cases taken
      exact ⟨kept.filled, kept.freed, kept.unsubmitted, kept.unbound,
        kept.reject, kept.single, kept.idle, kept.read, kept.both, kept.wild⟩
  | disconnect => exact kept.disconnect taken

theorem kept_run {buf preVal : BitVec 8} {events : List LifeEvent}
    (run : Run Lifetime.step (fun _ _ => True) (.start buf preVal) events
      life) : life.Kept := by
  apply run.invariant (kept_start buf preVal)
  intro state event next kept _ taken
  exact kept.step taken

end Kept

/-- The handler read the buffer's pointer before the probe had filled it in,
and went on for as many statements. -/
def NullRead (start : Lifetime) (events : List LifeEvent) (further : Nat) :
    Prop :=
  ∃ earlier later middle, events = earlier ++ .irq :: later ∧
    Run Lifetime.step (fun _ _ => True) start earlier middle ∧
    middle.handler = some .readBuf ∧ middle.uKey.usbBufVir = false ∧
    later.count .irq = further

section NullRead

variable {start life next : Lifetime} {events : List LifeEvent}
variable {further : Nat}

theorem NullRead.snoc (null : NullRead start events further)
    (event : LifeEvent) :
    NullRead start (events ++ [event])
      (if event = .irq then further + 1 else further) := by
  obtain ⟨earlier, later, middle, rfl, run, reads, empty, count⟩ := null
  refine ⟨earlier, later ++ [event], middle, by simp, run, reads, empty, ?_⟩
  rw [List.count_append, count]
  split
  · rename_i same
    simp [same]
  · rename_i other
    rw [List.count_singleton, if_neg (by simpa using other), Nat.add_zero]

/-- What a handler that holds a null pointer has done. -/
structure Traced (start : Lifetime) (events : List LifeEvent)
    (life : Lifetime) : Prop where
  read : life.handler = some (.readInputDev false) → NullRead start events 0
  both : ∀ ukInputDev, life.oops = false →
    life.handler = some (.inputEvents false ukInputDev) →
    NullRead start events 1
  oops : life.oops = true → NullRead start events 2

/-- The other events do not move a handler that runs. -/
theorem step_handler {event : LifeEvent} (kept : life.Kept) {pc : IrqPc}
    (running : life.handler = some pc) (other : event ≠ .irq)
    (taken : life.step event = some next) :
    next.handler = some pc ∧ next.oops = life.oops := by
  obtain ⟨-, taken⟩ := Option.ite_none_left_eq_some.mp taken
  have inactive : life.active ≠ true := by
    intro active
    have none := kept.single active
    rw [running] at none
    cases none
  cases event with
  | probe =>
      have submitted : life.probe ≠ .submitUrb := by
        intro early
        have none := (kept.unsubmitted early).2
        rw [running] at none
        cases none
      simp only [Lifetime.probeStep] at taken
      split at taken <;> cases taken <;> exact ⟨running, rfl⟩
  | complete report | giveback =>
      obtain ⟨active, -⟩ := Option.ite_none_right_eq_some.mp taken
      exact absurd active inactive
  | irq => exact absurd rfl other
  | unplug =>
      cases taken
      exact ⟨running, rfl⟩
  | disconnect =>
      simp only [Lifetime.disconnectStep] at taken
      split at taken
      · obtain ⟨-, taken⟩ := Option.ite_none_right_eq_some.mp taken
        cases taken
        exact ⟨running, rfl⟩
      · obtain ⟨-, taken⟩ := Option.ite_none_right_eq_some.mp taken
        cases taken
        exact ⟨running, rfl⟩
      all_goals
        cases taken <;> exact ⟨running, rfl⟩

theorem step_irq {pc : IrqPc} (sound : life.oops = false)
    (running : life.handler = some pc) :
    life.step .irq = some (life.irq pc) := by
  rw [Lifetime.step, if_neg (by simp [sound]), running, Option.map_some]

/-- Without a handler there is none after a step, or it starts. -/
theorem step_idle {event : LifeEvent} (idle : life.handler = none)
    (taken : life.step event = some next) :
    (next.handler = none ∨ next.handler = some .readBuf) ∧
      next.oops = false := by
  obtain ⟨sound, taken⟩ := Option.ite_none_left_eq_some.mp taken
  have sound : life.oops = false := Bool.not_eq_true _ ▸ sound
  cases event with
  | probe =>
      simp only [Lifetime.probeStep] at taken
      split at taken <;> cases taken <;> exact ⟨.inl idle, sound⟩
  | complete report | giveback =>
      obtain ⟨-, taken⟩ := Option.ite_none_right_eq_some.mp taken
      cases taken
      exact ⟨.inr rfl, sound⟩
  | irq =>
      obtain ⟨pc, running, -⟩ := Option.map_eq_some_iff.mp taken
      rw [idle] at running
      cases running
  | unplug =>
      cases taken
      exact ⟨.inl idle, sound⟩
  | disconnect =>
      simp only [Lifetime.disconnectStep] at taken
      split at taken
      · obtain ⟨-, taken⟩ := Option.ite_none_right_eq_some.mp taken
        cases taken
        exact ⟨.inl idle, sound⟩
      · obtain ⟨-, taken⟩ := Option.ite_none_right_eq_some.mp taken
        cases taken
        exact ⟨.inl idle, sound⟩
      all_goals
        cases taken <;> exact ⟨.inl idle, sound⟩

theorem Traced.step
    (run : Run Lifetime.step (fun _ _ => True) start events life)
    (kept : life.Kept) (traced : Traced start events life)
    {event : LifeEvent} (taken : life.step event = some next) :
    Traced start (events ++ [event]) next := by
  have sound : life.oops = false := by
    have sound := (Option.ite_none_left_eq_some.mp taken).1
    exact Bool.not_eq_true _ ▸ sound
  cases running : life.handler with
  | none =>
      obtain ⟨idle, sound'⟩ := step_idle running taken
      constructor
      · intro here
        simp [here] at idle
      · intro ukInputDev _ here
        simp [here] at idle
      · intro oops
        rw [sound'] at oops
        cases oops
  | some pc =>
      by_cases moves : event = .irq
      · subst moves
        rw [step_irq sound running] at taken
        cases taken
        cases pc with
        | readBuf =>
            constructor
            · intro here
              simp only [Lifetime.irq, Option.some.injEq,
                IrqPc.readInputDev.injEq] at here
              exact ⟨events, [], life, rfl, run, running, here, rfl⟩
            · intro ukInputDev _ here
              simp [Lifetime.irq] at here
            · intro oops
              exact absurd oops (by simp [Lifetime.irq, sound])
        | readInputDev usbBufVir =>
            constructor
            · intro here
              simp [Lifetime.irq] at here
            · intro ukInputDev _ here
              simp only [Lifetime.irq, Option.some.injEq,
                IrqPc.inputEvents.injEq] at here
              rw [here.1] at running
              exact (traced.read running).snoc .irq
            · intro oops
              exact absurd oops (by simp [Lifetime.irq, sound])
        | inputEvents usbBufVir ukInputDev =>
            cases usbBufVir with
            | false =>
                have null := (traced.both ukInputDev sound running).snoc .irq
                constructor
                · intro here
                  simp [Lifetime.irq, running] at here
                · intro _ alive
                  simp [Lifetime.irq] at alive
                · intro _
                  exact null
            | true =>
                have whole := kept.both ukInputDev running
                subst whole
                constructor
                · intro here
                  simp [Lifetime.irq] at here
                · intro _ _ here
                  simp [Lifetime.irq] at here
                · intro oops
                  exact absurd oops (by simp [Lifetime.irq, sound])
        | submitUrb =>
            constructor
            · intro here
              simp [Lifetime.irq] at here
            · intro _ _ here
              simp [Lifetime.irq] at here
            · intro oops
              exact absurd oops (by simp [Lifetime.irq, Lifetime.submit, sound])
      · obtain ⟨same, same'⟩ := step_handler kept running moves taken
        constructor
        · intro here
          rw [same] at here
          have null := (traced.read (running.trans here)).snoc event
          rwa [if_neg moves] at null
        · intro ukInputDev _ here
          rw [same] at here
          have null :=
            (traced.both ukInputDev sound (running.trans here)).snoc event
          rwa [if_neg moves] at null
        · intro oops
          rw [same', sound] at oops
          cases oops

theorem traced_run {buf preVal : BitVec 8}
    (run : Run Lifetime.step (fun _ _ => True) (.start buf preVal) events
      life) : Traced (.start buf preVal) events life := by
  induction run with
  | nil => exact ⟨nofun, nofun, nofun⟩
  | snoc run _ taken traced => exact traced.step run (kept_run run) taken

/-- A handler that holds a null pointer follows it, unless it is not let run. -/
theorem oops_of_inputEvents {ukInputDev : Bool} (kept : life.Kept)
    (running : life.handler = some (.inputEvents false ukInputDev))
    (run : Run Lifetime.step (fun _ _ => True) life events next)
    (further : 1 ≤ events.count .irq) : next.oops = true := by
  induction events generalizing life with
  | nil => simp at further
  | cons event events induction =>
      obtain ⟨middle, taken, run⟩ := run.of_cons
      by_cases moves : event = .irq
      · subst moves
        have sound := (Option.ite_none_left_eq_some.mp taken).1
        rw [step_irq (Bool.not_eq_true _ ▸ sound) running] at taken
        cases taken
        cases events with
        | nil =>
            rw [← run.of_nil]
            simp [Lifetime.irq]
        | cons event events =>
            obtain ⟨_, stuck, -⟩ := run.of_cons
            exact absurd rfl (Option.ite_none_left_eq_some.mp stuck).1
      · obtain ⟨same, -⟩ := step_handler kept running moves taken
        apply induction (kept.step taken) same run
        rwa [List.count_cons_of_ne moves] at further

theorem oops_of_readInputDev (kept : life.Kept)
    (running : life.handler = some (.readInputDev false))
    (run : Run Lifetime.step (fun _ _ => True) life events next)
    (further : 2 ≤ events.count .irq) : next.oops = true := by
  induction events generalizing life with
  | nil => simp at further
  | cons event events induction =>
      obtain ⟨middle, taken, run⟩ := run.of_cons
      by_cases moves : event = .irq
      · subst moves
        have sound := (Option.ite_none_left_eq_some.mp taken).1
        have after := kept.step taken
        rw [step_irq (Bool.not_eq_true _ ▸ sound) running] at taken
        cases taken
        apply oops_of_inputEvents after rfl run
        rw [List.count_cons_self] at further
        exact Nat.le_of_succ_le_succ further
      · obtain ⟨same, -⟩ := step_handler kept running moves taken
        apply induction (kept.step taken) same run
        rwa [List.count_cons_of_ne moves] at further

end NullRead

/-- Whatever the order of the probe, the reports, the unplugging and the
disconnect: nothing is used that was freed, and a null pointer is followed
exactly if a report came before the probe had filled in the buffer, the handler
read it then, and went on to use it. -/
theorem lifetime_sound {buf preVal : BitVec 8} {events : List LifeEvent}
    {life : Lifetime}
    (run : Run Lifetime.step (fun _ _ => True) (.start buf preVal) events
      life) :
    life.wild = false ∧
      (life.oops = true ↔
        ∃ further, 2 ≤ further ∧
          NullRead (.start buf preVal) events further) := by
  refine ⟨(kept_run run).wild, ?_⟩
  constructor
  · intro oops
    exact ⟨2, Nat.le_refl 2, (traced_run run).oops oops⟩
  · rintro ⟨further, enough, earlier, later, middle, rfl, before, reads, empty,
      count⟩
    obtain ⟨next, taken, later_run⟩ := (run.of_append before).of_cons
    have kept := kept_run before
    have after := kept.step taken
    have sound := (Option.ite_none_left_eq_some.mp taken).1
    rw [step_irq (Bool.not_eq_true _ ▸ sound) reads] at taken
    cases taken
    apply oops_of_readInputDev after
    · simp [Lifetime.irq, empty]
    · exact later_run
    · rw [count]
      exact enough

/-- A report between the submission and the first assignment. -/
theorem lifetime_sound_early :
    ∃ life, Run Lifetime.step (fun _ _ => True) (.start 0 0)
        [.probe, .complete 1, .irq, .probe, .irq, .irq] life ∧
      life.wild = false ∧ life.oops = true ∧
      ∃ further, 2 ≤ further ∧ NullRead (.start 0 0)
        [.probe, .complete 1, .irq, .probe, .irq, .irq] further := by
  have ends : (execute Lifetime.step (fun _ _ => True) (.start 0 0)
      [.probe, .complete 1, .irq, .probe, .irq, .irq]).any
      Lifetime.oops = true := by
    decide
  obtain ⟨life, run, oops⟩ := Run.exists_of_execute ends
  obtain ⟨tame, null⟩ := lifetime_sound run
  exact ⟨life, run, tame, oops, null.mp oops⟩

/-- The statements that a handler has left. -/
def IrqPc.left : Option IrqPc → Nat
  | none => 0
  | some .readBuf => 4
  | some (.readInputDev _) => 3
  | some (.inputEvents _ _) => 2
  | some .submitUrb => 1

/-- The statements that a disconnect has left. -/
def DisconnectPc.left : DisconnectPc → Nat
  | .bound => 6
  | .killUrb => 5
  | .freeUrb => 4
  | .freeCoherent => 3
  | .unregister => 2
  | .kfree => 1
  | .ret => 0

/-- All that is left once the disconnect has begun, with a whole call of the
handler for a URB that the core has to give back; nothing is, where a null
pointer was followed. -/
def Lifetime.left (life : Lifetime) : Nat :=
  if life.oops then 0
  else (if life.active then 5 else 0) + IrqPc.left life.handler +
    life.disconnect.left

/-- The core gives the URB back and calls the handler. -/
def LifeEvent.calls : LifeEvent → Bool
  | .complete _ | .giveback => true
  | _ => false

/-- A step of the driver or of the core, and none of the user. -/
def LifeEvent.works (event : LifeEvent) : Bool :=
  event ≠ .unplug

/-- The disconnect has begun. -/
structure Lifetime.Ending (life : Lifetime) : Prop where
  kept : life.Kept
  begun : life.disconnect ≠ .bound

section Ends

variable {life next : Lifetime} {event : LifeEvent}

theorem Lifetime.Ending.rejects (ending : life.Ending) {pc : IrqPc}
    (running : life.handler = some pc) : life.reject = true := by
  have live := ending.kept.live_of_handler running
  have begun := ending.begun
  rw [ending.kept.reject]
  cases here : life.disconnect <;> rw [here] at live begun <;>
    first | rfl | contradiction

theorem disconnectStep_left (taken : life.disconnectStep = some next) :
    next.disconnect ≠ .bound ∧
      next.disconnect.left + 1 = life.disconnect.left ∧
      next.active = life.active ∧ next.handler = life.handler ∧
      next.oops = life.oops := by
  cases here : life.disconnect with
  | bound | killUrb =>
      simp only [Lifetime.disconnectStep, here] at taken
      obtain ⟨-, taken⟩ := Option.ite_none_right_eq_some.mp taken
      cases taken
      exact ⟨nofun, rfl, rfl, rfl, rfl⟩
  | ret =>
      simp only [Lifetime.disconnectStep, here] at taken
      cases taken
  | freeUrb | freeCoherent | unregister | kfree =>
      simp only [Lifetime.disconnectStep, here] at taken
      cases taken
      exact ⟨nofun, rfl, rfl, rfl, rfl⟩

theorem Lifetime.left_eq (sound : life.oops = false) :
    life.left = (if life.active then 5 else 0) + IrqPc.left life.handler +
      life.disconnect.left := by
  rw [Lifetime.left, sound, if_neg (by decide)]

theorem Lifetime.left_idle (sound : life.oops = false)
    (inactive : life.active = false) :
    life.left = IrqPc.left life.handler + life.disconnect.left := by
  rw [Lifetime.left_eq sound, inactive, if_neg (by decide), Nat.zero_add]

/-- Each statement of the handler is one of those that are left, and the last
one does not submit the URB again. -/
theorem Lifetime.Ending.irq (ending : life.Ending) (sound : life.oops = false)
    {pc : IrqPc} (running : life.handler = some pc) :
    (life.irq pc).disconnect = life.disconnect ∧
      (life.irq pc).active = false ∧ (life.irq pc).left + 1 ≤ life.left := by
  have rejects := ending.rejects running
  have inactive : life.active = false := by
    cases active : life.active with
    | false => rfl
    | true =>
        rw [ending.kept.single active] at running
        cases running
  have before := Lifetime.left_idle sound inactive
  rw [running] at before
  cases pc with
  | inputEvents usbBufVir ukInputDev =>
      simp only [Lifetime.irq]
      split
      · refine ⟨rfl, inactive, ?_⟩
        rw [before, IrqPc.left]
        simp only [left, if_true]
        omega
      · refine ⟨rfl, inactive, ?_⟩
        rw [before, Lifetime.left_idle]
        · simp only [IrqPc.left]
          omega
        · exact sound
        · exact inactive
  | readBuf | readInputDev usbBufVir =>
      refine ⟨rfl, inactive, ?_⟩
      rw [before, Lifetime.left_idle]
      · simp only [Lifetime.irq, IrqPc.left]
        omega
      · exact sound
      · exact inactive
  | submitUrb =>
      have refused : (life.irq .submitUrb).active = false := by
        simp [Lifetime.irq, Lifetime.submit, rejects]
      refine ⟨rfl, refused, ?_⟩
      rw [before, Lifetime.left_idle]
      · simp only [Lifetime.irq, Lifetime.submit, IrqPc.left]
        omega
      · exact sound
      · exact refused

/-- A step goes on with what is left, and the URB that comes back does not go
out again. -/
theorem Lifetime.Ending.step (ending : life.Ending)
    (taken : life.step event = some next) :
    next.Ending ∧ next.left + event.works.toNat ≤ life.left ∧
      next.active.toNat + event.calls.toNat ≤ life.active.toNat := by
  obtain ⟨runs, event_taken⟩ := Option.ite_none_left_eq_some.mp taken
  have sound : life.oops = false := Bool.not_eq_true _ ▸ runs
  have kept := ending.kept.step taken
  have counted := Bool.toNat_le event.works
  cases event with
  | probe =>
      have returned := ending.kept.unbound ending.begun
      simp [probeStep, returned] at event_taken
  | complete report | giveback =>
      obtain ⟨active, same⟩ := Option.ite_none_right_eq_some.mp event_taken
      cases same
      have quiet := ending.kept.single active
      refine ⟨⟨kept, ending.begun⟩, ?_, ?_⟩
      · rw [Lifetime.left_eq sound, active, quiet, Lifetime.left_idle]
        · simp only [IrqPc.left, if_true]
          omega
        · exact sound
        · rfl
      · simp [active, LifeEvent.calls]
  | irq =>
      obtain ⟨pc, running, rfl⟩ := Option.map_eq_some_iff.mp event_taken
      obtain ⟨same, inactive, less⟩ := ending.irq sound running
      refine ⟨⟨kept, ?_⟩, less, ?_⟩
      · rw [same]
        exact ending.begun
      · rw [inactive]
        exact Nat.zero_le _
  | unplug =>
      cases event_taken
      exact ⟨⟨kept, ending.begun⟩, Nat.le_refl _, Nat.le_refl _⟩
  | disconnect =>
      obtain ⟨begun, own, active, handler, oops⟩ :=
        disconnectStep_left event_taken
      refine ⟨⟨kept, begun⟩, ?_, ?_⟩
      · rw [Lifetime.left_eq (oops.trans sound), Lifetime.left_eq sound, active,
          handler]
        omega
      · rw [active]
        exact Nat.le_refl _

theorem Lifetime.Ending.advance (ending : life.Ending)
    (sound : life.oops = false) (busy : life.disconnect ≠ .ret) :
    ∃ event, event.works = true ∧ life.step event ≠ none := by
  have runs : ¬life.oops = true := by simp [sound]
  cases active : life.active with
  | true =>
      refine ⟨.giveback, rfl, ?_⟩
      simp [Lifetime.step, sound, active]
  | false =>
      cases running : life.handler with
      | some pc =>
          refine ⟨.irq, rfl, ?_⟩
          simp [Lifetime.step, sound, running]
      | none =>
          refine ⟨.disconnect, rfl, ?_⟩
          have begun := ending.begun
          cases here : life.disconnect <;>
            simp_all [Lifetime.step, Lifetime.disconnectStep]

/-- At the end everything is freed, and the mouse can only be pulled out. -/
theorem Lifetime.Ending.ended (ending : life.Ending)
    (past : life.disconnect = .ret) :
    life.freed = ⟨true, true, true, true⟩ ∧
      ∀ event, event.works = true → life.step event = none := by
  have quiet := ending.kept.idle (by rw [past]; rfl)
  have returned := ending.kept.unbound ending.begun
  refine ⟨by rw [ending.kept.freed, past]; rfl, ?_⟩
  intro event works
  cases event with
  | probe => simp [Lifetime.step, Lifetime.probeStep, returned]
  | complete report | giveback => simp [Lifetime.step, quiet.1]
  | irq => simp [Lifetime.step, quiet.2]
  | unplug => cases works
  | disconnect => simp [Lifetime.step, Lifetime.disconnectStep, past]

theorem Lifetime.Ending.left_le (ending : life.Ending) : life.left ≤ 10 := by
  have core : (if life.active then 5 else 0) + IrqPc.left life.handler ≤ 5 := by
    cases active : life.active with
    | true => simp [ending.kept.single active, IrqPc.left]
    | false =>
        cases life.handler with
        | none => simp [IrqPc.left]
        | some pc => cases pc <;> simp [IrqPc.left]
  have own : life.disconnect.left ≤ 5 := by
    have begun := ending.begun
    cases here : life.disconnect <;> rw [here] at begun <;>
      first | contradiction | simp [DisconnectPc.left]
  unfold left
  split
  · exact Nat.zero_le _
  · exact Nat.add_le_add core own

/-- What any continuation of a disconnect that has begun can do. -/
structure EndsSoon (life : Lifetime) (later : List LifeEvent)
    (final : Lifetime) : Prop where
  steps : later.countP LifeEvent.works ≤ 10
  calls : later.countP LifeEvent.calls ≤ 1
  submitted : life.active = false → final.active = false
  stops : (final.oops = true ∨ final.disconnect = .ret) ↔
    ∀ event, event.works = true → final.step event = none
  freed : final.disconnect = .ret → final.freed = ⟨true, true, true, true⟩

theorem Lifetime.Ending.endsSoon {final : Lifetime} {later : List LifeEvent}
    {guard : Lifetime → LifeEvent → Prop} (ending : life.Ending)
    (run : Run Lifetime.step guard life later final) :
    EndsSoon life later final := by
  have still : final.Ending := run.invariant ending
    fun _ _ _ ending _ taken => (ending.step taken).1
  have steps : final.left + later.countP LifeEvent.works ≤ life.left :=
    run.countP_le ending fun _ _ _ ending taken =>
      ⟨(ending.step taken).1, (ending.step taken).2.1⟩
  have calls : final.active.toNat + later.countP LifeEvent.calls ≤
      life.active.toNat :=
    run.countP_le ending fun _ _ _ ending taken =>
      ⟨(ending.step taken).1, (ending.step taken).2.2⟩
  have bound := ending.left_le
  refine ⟨by omega, ?_, ?_, ?_, fun past => (still.ended past).1⟩
  · have one := Bool.toNat_le life.active
    omega
  · intro inactive
    rw [inactive, Bool.toNat_false] at calls
    exact Bool.toNat_eq_zero.mp (by omega)
  · constructor
    · rintro (oops | past)
      · intro event _
        exact if_pos oops
      · exact (still.ended past).2
    · intro stuck
      by_contra busy
      rw [not_or, Bool.not_eq_true] at busy
      obtain ⟨event, works, moves⟩ := still.advance busy.1 busy.2
      exact moves (stuck event works)

/-- Once the disconnect has begun, every continuation has at most ten steps of
the driver and the core, and at most one more call of the handler among them;
the URB, once it is back, is never with the core again; and the steps go on
until everything is freed or a null pointer was followed. -/
theorem disconnect_ends {buf preVal : BitVec 8}
    {events later : List LifeEvent} {final : Lifetime}
    (run : Run Lifetime.step (fun _ _ => True) (.start buf preVal) events life)
    (begun : life.disconnect ≠ .bound)
    (rest : Run Lifetime.step (fun _ _ => True) life later final) :
    EndsSoon life later final :=
  Lifetime.Ending.endsSoon ⟨kept_run run, begun⟩ rest

/-- The whole of a probe, a report that is being handled, and a disconnect that
waits for the handler, pulling out among its steps. -/
theorem disconnect_ends_handled :
    ∃ life, Run Lifetime.step (fun _ _ => True) (.start 0 0)
        [.probe, .probe, .probe, .probe, .probe, .probe, .probe, .complete 1,
          .irq, .disconnect] life ∧
      ∃ final, final.disconnect = .ret ∧
        EndsSoon life [.irq, .unplug, .irq, .irq, .disconnect, .disconnect,
          .disconnect, .disconnect, .disconnect] final := by
  have starts : (execute Lifetime.step (fun _ _ => True) (.start 0 0)
      [.probe, .probe, .probe, .probe, .probe, .probe, .probe, .complete 1,
        .irq, .disconnect]).any
      (fun life => (life.disconnect = .killUrb) ∧
        (execute Lifetime.step (fun _ _ => True) life
          [.irq, .unplug, .irq, .irq, .disconnect, .disconnect, .disconnect,
            .disconnect, .disconnect]).any
          (fun final => final.disconnect = .ret)) = true := by
    decide
  obtain ⟨life, run, here⟩ := Run.exists_of_execute starts
  obtain ⟨begun, ends⟩ := of_decide_eq_true here
  obtain ⟨final, rest, past⟩ := Run.exists_of_execute ends
  have waits : life.disconnect ≠ .bound := by
    rw [begun]
    decide
  exact ⟨life, run, final, of_decide_eq_true past,
    disconnect_ends run waits rest⟩

end Ends

end KernelDrivers.Input
