import KernelDrivers.Library.Transition

/-!
# An interrupt that is served by a work

`test_irq_handler` and `hp_det_irq_handler` disable their line and schedule a
work, which enables the line again when it is done.  The handler and the worker
may run at the same time on two processors.
-/

namespace KernelDrivers.Deferred

open KernelDrivers.Library

/-- What the two drivers differ in: whether the work is initialised before the
interrupt is requested, and whether the work may end early. -/
structure Driver where
  initFirst : Bool
  mayFail : Bool

/-- `int_probe` requests the interrupt first. -/
def testPlatform : Driver := ⟨false, false⟩

/-- `hp_detect_work` returns where `irq_set_irq_type` fails. -/
def es8323 : Driver := ⟨true, true⟩

/-- The next thing the handler does. -/
inductive HandlerPc where
  | disableIrqNosync
  | scheduleWork
  | ret
deriving DecidableEq

/-- The next thing the work does. -/
inductive WorkPc where
  | body
  | enableIrq
  | ret
deriving DecidableEq

/-- The line with its depth, the handler and the work.  `handled` counts the
works that were scheduled and `served` those whose body ran; `wiped` and
`failed` are works that will not enable the line.  The last three are what the
kernel would complain of: `wild` is a work that runs when the driver is gone, or
that is called without a function. -/
structure Line where
  requested : Bool
  removed : Bool
  initialised : Bool
  depth : Nat
  handler : Option HandlerPc
  pending : Bool
  running : Option WorkPc
  handled : Nat
  served : Nat
  wiped : Nat
  failed : Nat
  unbalanced : Bool
  dropped : Bool
  wild : Bool

def Line.start : Line :=
  { requested := false, removed := false, initialised := false, depth := 0
    handler := none, pending := false, running := none, handled := 0
    served := 0, wiped := 0, failed := 0, unbalanced := false
    dropped := false, wild := false }

inductive Action where
  | requestIrq
  | initWork
  | interrupt
  | handler
  | worker (fails : Bool)
  | remove
deriving DecidableEq

/-- `test_irq_handler`, one call at a time. -/
def Line.handle (line : Line) : HandlerPc → Line
  | .disableIrqNosync =>
      { line with depth := line.depth + 1, handler := some .scheduleWork }
  | .scheduleWork =>
      { line with
        pending := true
        dropped := line.dropped || line.pending
        handled := line.handled + 1
        handler := some .ret }
  | .ret => { line with handler := none }

/-- `test_irq_work`, one call at a time. -/
def Line.work (line : Line) (fails : Bool) : WorkPc → Line
  | .body =>
      { line with
        served := line.served + 1
        failed := if fails then line.failed + 1 else line.failed
        wild := line.wild || line.removed
        running := if fails then some .ret else some .enableIrq }
  | .enableIrq =>
      { line with
        depth := line.depth - 1
        unbalanced := line.unbalanced || decide (line.depth = 0)
        wild := line.wild || line.removed
        running := some .ret }
  | .ret => { line with running := none }

/-- A worker goes on with the work, or takes it off the queue. -/
def Line.runWork (line : Line) (fails : Bool) : Option Line :=
  match line.running with
  | some pc => some (line.work fails pc)
  | none =>
      if line.pending then
        if line.initialised then
          some { line with pending := false, running := some .body }
        else some { line with wild := true }
      else none

/-- `free_irq` waits for the handler, and for nothing else. -/
def step (driver : Driver) (line : Line) : Action → Option Line
  | .requestIrq =>
      if line.requested = false ∧ line.removed = false ∧
          (driver.initFirst = true → line.initialised = true) then
        some { line with requested := true }
      else none
  | .initWork =>
      if line.initialised = false ∧ line.removed = false ∧
          (driver.initFirst = false → line.requested = true) then
        some { line with
          initialised := true
          pending := false
          wiped := if line.pending then line.wiped + 1 else line.wiped }
      else none
  | .interrupt =>
      if line.requested = true ∧ line.depth = 0 ∧ line.handler = none then
        some { line with handler := some .disableIrqNosync }
      else none
  | .handler => line.handler.map line.handle
  | .worker fails =>
      if fails = true ∧ driver.mayFail = false then none
      else line.runWork fails
  | .remove =>
      if line.requested = true ∧ line.initialised = true ∧
          line.handler = none then
        some { line with requested := false, removed := true }
      else none

def HandlerPc.holds : Option HandlerPc → Nat
  | some .scheduleWork => 1
  | _ => 0

def WorkPc.holds : Option WorkPc → Nat
  | some .body => 1
  | some .enableIrq => 1
  | _ => 0

def WorkPc.unserved : Option WorkPc → Nat
  | some .body => 1
  | _ => 0

/-- Who has to enable the line: the handler that has disabled it, the work that
is scheduled, or the work that runs and has not enabled it. -/
def Line.holders (line : Line) : Nat :=
  HandlerPc.holds line.handler + line.pending.toNat +
    WorkPc.holds line.running

/-- Each time the line was disabled there is one to enable it or one that was
lost, and no handler starts before. -/
structure Balanced (line : Line) : Prop where
  depth : line.depth = line.holders + (line.wiped + line.failed)
  once : line.depth ≤ 1
  starting : line.handler = some .disableIrqNosync → line.depth = 0
  served : line.handled = line.served + line.wiped + line.pending.toNat +
    WorkPc.unserved line.running
  enabled : line.unbalanced = false
  scheduled : line.dropped = false

section Balanced

variable {driver : Driver} {line next : Line}

theorem balanced_start : Balanced .start := by
  constructor <;> simp [Line.start, Line.holders, HandlerPc.holds,
    WorkPc.holds, WorkPc.unserved]

theorem Balanced.idle (balanced : Balanced line)
    (here : line.handler = some .scheduleWork) : line.pending = false := by
  have depth := balanced.depth
  have once := balanced.once
  rw [Line.holders, here] at depth
  cases pending : line.pending with
  | false => rfl
  | true =>
      simp only [HandlerPc.holds, pending, Bool.toNat_true] at depth
      omega

theorem Balanced.handle (balanced : Balanced line) {pc : HandlerPc}
    (here : line.handler = some pc) : Balanced (line.handle pc) := by
  have depth := balanced.depth
  have once := balanced.once
  have served := balanced.served
  rw [Line.holders, here] at depth
  cases pc with
  | disableIrqNosync =>
      have zero := balanced.starting here
      refine ⟨?_, ?_, ?_, served, balanced.enabled, balanced.scheduled⟩
      · simp only [Line.handle, Line.holders, HandlerPc.holds] at depth ⊢
        omega
      · simp only [Line.handle]
        omega
      · intro starting
        cases starting
  | scheduleWork =>
      have idle := balanced.idle here
      rw [idle] at depth served
      refine ⟨?_, once, ?_, ?_, balanced.enabled, ?_⟩
      · simp only [Line.handle, Line.holders, HandlerPc.holds,
          Bool.toNat_true, Bool.toNat_false] at depth ⊢
        omega
      · intro starting
        cases starting
      · simp only [Line.handle, Bool.toNat_true, Bool.toNat_false] at served ⊢
        omega
      · simp only [Line.handle, idle, Bool.or_false]
        exact balanced.scheduled
  | ret =>
      refine ⟨depth, once, ?_, served, balanced.enabled, balanced.scheduled⟩
      intro starting
      cases starting

theorem Balanced.work (balanced : Balanced line) {pc : WorkPc}
    (here : line.running = some pc) (fails : Bool) :
    Balanced (line.work fails pc) := by
  have depth := balanced.depth
  have once := balanced.once
  have served := balanced.served
  rw [Line.holders, here] at depth
  rw [here] at served
  cases pc with
  | body =>
      refine ⟨?_, once, balanced.starting, ?_, balanced.enabled,
        balanced.scheduled⟩
      · cases fails <;> simp only [Line.work, Line.holders, WorkPc.holds,
          Bool.false_eq_true, if_false, if_true] at depth ⊢ <;> omega
      · cases fails <;> simp only [Line.work, WorkPc.unserved,
          Bool.false_eq_true, if_false, if_true] at served ⊢ <;> omega
  | enableIrq =>
      simp only [WorkPc.holds] at depth
      have positive : line.depth ≠ 0 := by omega
      refine ⟨?_, ?_, ?_, served, ?_, balanced.scheduled⟩
      · simp only [Line.work, Line.holders, WorkPc.holds]
        omega
      · simp only [Line.work]
        omega
      · intro starting
        exact absurd (balanced.starting starting) positive
      · simp only [Line.work, decide_eq_false positive, Bool.or_false]
        exact balanced.enabled
  | ret =>
      exact ⟨depth, once, balanced.starting, served, balanced.enabled,
        balanced.scheduled⟩

theorem Balanced.dispatch (balanced : Balanced line)
    (pending : line.pending = true) (here : line.running = none) :
    Balanced { line with pending := false, running := some .body } := by
  have depth := balanced.depth
  have served := balanced.served
  rw [Line.holders, pending, here] at depth
  rw [pending, here] at served
  refine ⟨?_, balanced.once, balanced.starting, ?_, balanced.enabled,
    balanced.scheduled⟩
  · simp only [Line.holders, WorkPc.holds, Bool.toNat_true, Bool.toNat_false]
      at depth ⊢
    omega
  · simp only [WorkPc.unserved, Bool.toNat_true, Bool.toNat_false] at served ⊢
    omega

/-- `INIT_WORK` takes a work that is pending off the queue for good. -/
theorem Balanced.initWork (balanced : Balanced line) :
    Balanced { line with
      initialised := true
      pending := false
      wiped := if line.pending then line.wiped + 1 else line.wiped } := by
  have depth := balanced.depth
  have served := balanced.served
  rw [Line.holders] at depth
  refine ⟨?_, balanced.once, balanced.starting, ?_, balanced.enabled,
    balanced.scheduled⟩
  · cases pending : line.pending <;> simp only [Line.holders, pending,
      Bool.toNat_true, Bool.toNat_false, Bool.false_eq_true, if_false, if_true]
      at depth ⊢ <;> omega
  · cases pending : line.pending <;> simp only [pending, Bool.toNat_true,
      Bool.toNat_false, Bool.false_eq_true, if_false, if_true] at served ⊢ <;>
      omega

theorem Balanced.wild (balanced : Balanced line) :
    Balanced { line with wild := true } :=
  ⟨balanced.depth, balanced.once, balanced.starting, balanced.served,
    balanced.enabled, balanced.scheduled⟩

theorem Balanced.runWork (balanced : Balanced line) {fails : Bool}
    (taken : line.runWork fails = some next) : Balanced next := by
  rw [Line.runWork] at taken
  split at taken
  · rename_i here
    cases taken
    exact balanced.work here fails
  · rename_i here
    obtain ⟨pending, taken⟩ := Option.ite_none_right_eq_some.mp taken
    split at taken
    · cases taken
      exact balanced.dispatch pending here
    · cases taken
      exact balanced.wild

theorem Balanced.step (balanced : Balanced line) {action : Action}
    (taken : Deferred.step driver line action = some next) :
    Balanced next := by
  cases action with
  | requestIrq =>
      obtain ⟨-, taken⟩ := Option.ite_none_right_eq_some.mp taken
      cases taken
      exact ⟨balanced.depth, balanced.once, balanced.starting,
        balanced.served, balanced.enabled, balanced.scheduled⟩
  | initWork =>
      obtain ⟨-, taken⟩ := Option.ite_none_right_eq_some.mp taken
      cases taken
      exact balanced.initWork
  | interrupt =>
      obtain ⟨⟨-, zero, idle⟩, taken⟩ :=
        Option.ite_none_right_eq_some.mp taken
      cases taken
      have depth := balanced.depth
      rw [Line.holders, idle] at depth
      exact ⟨depth, balanced.once, fun _ => zero, balanced.served,
        balanced.enabled, balanced.scheduled⟩
  | handler =>
      obtain ⟨pc, here, rfl⟩ := Option.map_eq_some_iff.mp taken
      exact balanced.handle here
  | worker fails =>
      obtain ⟨-, taken⟩ := Option.ite_none_left_eq_some.mp taken
      exact balanced.runWork taken
  | remove =>
      obtain ⟨-, taken⟩ := Option.ite_none_right_eq_some.mp taken
      cases taken
      exact ⟨balanced.depth, balanced.once, balanced.starting,
        balanced.served, balanced.enabled, balanced.scheduled⟩

end Balanced

section Runs

variable {driver : Driver} {line next : Line} {actions : List Action}

theorem balanced_run
    (run : Run (step driver) (fun _ _ => True) .start actions line) :
    Balanced line :=
  run.invariant balanced_start fun _ _ _ balanced _ taken =>
    balanced.step taken

theorem lost_work (line : Line) (fails : Bool) (pc : WorkPc) :
    line.wiped + line.failed ≤
      (line.work fails pc).wiped + (line.work fails pc).failed := by
  cases pc with
  | body => cases fails <;> simp [Line.work]
  | enableIrq => exact Nat.le_refl _
  | ret => exact Nat.le_refl _

/-- The line is disabled for the one that has the baton, or for good; a call of
the handler leads to one call of the work, unless `INIT_WORK` comes between. -/
theorem one_holder
    (run : Run (step driver) (fun _ _ => True) .start actions line) :
    line.unbalanced = false ∧ line.dropped = false ∧ line.depth ≤ 1 ∧
      line.depth = line.holders + (line.wiped + line.failed) ∧
      (line.handler = some .disableIrqNosync → line.holders = 0) ∧
      line.handled = line.served + line.wiped + line.pending.toNat +
        WorkPc.unserved line.running := by
  have balanced := balanced_run run
  have depth := balanced.depth
  refine ⟨balanced.enabled, balanced.scheduled, balanced.once, depth, ?_,
    balanced.served⟩
  intro starting
  have zero := balanced.starting starting
  omega

theorem lost_step {action : Action}
    (taken : step driver line action = some next) :
    line.wiped + line.failed ≤ next.wiped + next.failed := by
  cases action with
  | requestIrq =>
      obtain ⟨-, taken⟩ := Option.ite_none_right_eq_some.mp taken
      cases taken
      exact Nat.le_refl _
  | initWork =>
      obtain ⟨-, taken⟩ := Option.ite_none_right_eq_some.mp taken
      cases taken
      dsimp only
      split <;> omega
  | interrupt =>
      obtain ⟨-, taken⟩ := Option.ite_none_right_eq_some.mp taken
      cases taken
      exact Nat.le_refl _
  | handler =>
      obtain ⟨pc, -, rfl⟩ := Option.map_eq_some_iff.mp taken
      cases pc <;> exact Nat.le_refl _
  | worker fails =>
      obtain ⟨-, taken⟩ := Option.ite_none_left_eq_some.mp taken
      rw [Line.runWork] at taken
      split at taken
      · rename_i pc _
        cases taken
        exact lost_work line fails pc
      · obtain ⟨-, taken⟩ := Option.ite_none_right_eq_some.mp taken
        split at taken <;> cases taken <;> exact Nat.le_refl _
  | remove =>
      obtain ⟨-, taken⟩ := Option.ite_none_right_eq_some.mp taken
      cases taken
      exact Nat.le_refl _

theorem no_interrupt {later : List Action} (balanced : Balanced line)
    (lost : line.wiped + line.failed ≠ 0)
    (run : Run (step driver) (fun _ _ => True) line later next) :
    .interrupt ∉ later := by
  have kept : (Balanced next ∧ next.wiped + next.failed ≠ 0) ∧
      .interrupt ∉ later := by
    induction run with
    | nil => exact ⟨⟨balanced, lost⟩, List.not_mem_nil⟩
    | @snoc actions middle final action _ _ taken induction =>
        obtain ⟨⟨balanced, lost⟩, none⟩ := induction
        have more := lost_step taken
        refine ⟨⟨balanced.step taken, by omega⟩, ?_⟩
        rw [List.mem_append, List.mem_singleton]
        rintro (earlier | rfl)
        · exact none earlier
        · obtain ⟨⟨-, zero, -⟩, -⟩ := Option.ite_none_right_eq_some.mp taken
          have depth := balanced.depth
          omega
  exact kept.2

/-- Each driver has one way to lose a work. -/
structure Losses (driver : Driver) (line : Line) : Prop where
  ordered : driver.initFirst = true → line.initialised = false →
    line.requested = false ∧ line.handler = none ∧ line.pending = false
  wiped : driver.initFirst = true → line.wiped = 0
  failed : driver.mayFail = false → line.failed = 0

theorem Losses.runWork (losses : Losses driver line) {fails : Bool}
    (allowed : ¬(fails = true ∧ driver.mayFail = false))
    (taken : line.runWork fails = some next) : Losses driver next := by
  obtain ⟨ordered, wiped, failed⟩ := losses
  rw [Line.runWork] at taken
  split at taken
  · rename_i pc _
    cases taken
    cases pc with
    | body =>
        refine ⟨ordered, wiped, ?_⟩
        intro never
        cases fails with
        | false => exact failed never
        | true => exact absurd ⟨rfl, never⟩ allowed
    | enableIrq => exact ⟨ordered, wiped, failed⟩
    | ret => exact ⟨ordered, wiped, failed⟩
  · obtain ⟨-, taken⟩ := Option.ite_none_right_eq_some.mp taken
    split at taken
    · rename_i initialised
      cases taken
      refine ⟨fun _ missing => ?_, wiped, failed⟩
      rw [initialised] at missing
      cases missing
    · cases taken
      exact ⟨ordered, wiped, failed⟩

theorem Losses.step (losses : Losses driver line) {action : Action}
    (taken : Deferred.step driver line action = some next) :
    Losses driver next := by
  obtain ⟨ordered, wiped, failed⟩ := losses
  cases action with
  | requestIrq =>
      obtain ⟨allowed, taken⟩ := Option.ite_none_right_eq_some.mp taken
      cases taken
      refine ⟨fun first missing => ?_, wiped, failed⟩
      rw [allowed.2.2 first] at missing
      cases missing
  | initWork =>
      obtain ⟨allowed, taken⟩ := Option.ite_none_right_eq_some.mp taken
      cases taken
      refine ⟨fun _ missing => (by cases missing), fun first => ?_, failed⟩
      obtain ⟨-, -, pending⟩ := ordered first allowed.1
      simp only [pending, Bool.false_eq_true, if_false]
      exact wiped first
  | interrupt =>
      obtain ⟨allowed, taken⟩ := Option.ite_none_right_eq_some.mp taken
      cases taken
      refine ⟨fun first missing => ?_, wiped, failed⟩
      rw [(ordered first missing).1] at allowed
      exact absurd allowed.1 Bool.false_ne_true
  | handler =>
      obtain ⟨pc, here, rfl⟩ := Option.map_eq_some_iff.mp taken
      have absent : driver.initFirst = true → line.initialised ≠ false := by
        intro first missing
        rw [(ordered first missing).2.1] at here
        cases here
      cases pc <;> exact ⟨fun first missing => absurd missing (absent first),
        wiped, failed⟩
  | worker fails =>
      obtain ⟨allowed, taken⟩ := Option.ite_none_left_eq_some.mp taken
      exact Losses.runWork ⟨ordered, wiped, failed⟩ allowed taken
  | remove =>
      obtain ⟨-, taken⟩ := Option.ite_none_right_eq_some.mp taken
      cases taken
      exact ⟨fun first missing => ⟨rfl, (ordered first missing).2⟩, wiped,
        failed⟩

theorem losses_run
    (run : Run (step driver) (fun _ _ => True) .start actions line) :
    Losses driver line := by
  have initial : Losses driver .start :=
    ⟨fun _ _ => ⟨rfl, rfl, rfl⟩, fun _ => rfl, fun _ => rfl⟩
  exact run.invariant initial fun _ _ _ losses _ taken => losses.step taken

/-- An upper bound of the steps until the handler and the work are done. -/
def Line.remaining (line : Line) : Nat :=
  (match line.handler with
    | some .disableIrqNosync => 7
    | some .scheduleWork => 6
    | some .ret => 1
    | none => 0) +
  4 * line.pending.toNat +
  match line.running with
    | some .body => 3
    | some .enableIrq => 2
    | some .ret => 1
    | none => 0

/-- The driver has been probed, and nothing was lost. -/
structure InService (line : Line) : Prop where
  requested : line.requested = true
  initialised : line.initialised = true
  removed : line.removed = false
  kept : line.wiped + line.failed = 0

theorem remaining_zero (done : line.remaining = 0) :
    line.handler = none ∧ line.pending = false ∧ line.running = none := by
  rw [Line.remaining] at done
  refine ⟨?_, ?_, ?_⟩
  · cases here : line.handler with
    | none => rfl
    | some pc => cases pc <;> simp [here] at done
  · cases here : line.pending with
    | false => rfl
    | true => simp [here] at done
  · cases here : line.running with
    | none => rfl
    | some pc => cases pc <;> simp [here] at done

/-- Until then one of them has a step to take. -/
theorem InService.advance (service : InService line)
    (balanced : Balanced line) (busy : line.remaining ≠ 0) :
    ∃ action next, step driver line action = some next ∧
      next.remaining < line.remaining ∧ InService next := by
  obtain ⟨requested, initialised, removed, kept⟩ := service
  cases handler : line.handler with
  | some pc =>
      refine ⟨.handler, line.handle pc, by rw [step, handler]; rfl, ?_, ?_⟩
      · cases pc with
        | disableIrqNosync =>
            simp only [Line.remaining, Line.handle, handler]
            omega
        | scheduleWork =>
            have idle := balanced.idle handler
            simp only [Line.remaining, Line.handle, handler, idle,
              Bool.toNat_true, Bool.toNat_false]
            omega
        | ret =>
            simp only [Line.remaining, Line.handle, handler]
            omega
      · cases pc <;> exact ⟨requested, initialised, removed, kept⟩
  | none =>
      cases running : line.running with
      | some pc =>
          refine ⟨.worker false, line.work false pc, ?_, ?_, ?_⟩
          · rw [step, if_neg (by simp), Line.runWork, running]
          · cases pc <;>
              simp only [Line.remaining, Line.work, running,
                Bool.false_eq_true, if_false] <;> omega
          · cases pc <;> exact ⟨requested, initialised, removed, kept⟩
      | none =>
          have pending : line.pending = true := by
            cases here : line.pending with
            | true => rfl
            | false => simp [Line.remaining, handler, running, here] at busy
          refine ⟨.worker false,
            { line with pending := false, running := some .body }, ?_, ?_,
            ⟨requested, initialised, removed, kept⟩⟩
          · rw [step, if_neg (by simp), Line.runWork, running]
            simp only [pending, initialised, if_true]
          · simp only [Line.remaining, running, pending, Bool.toNat_true,
              Bool.toNat_false]
            omega

theorem InService.drains (service : InService line)
    (balanced : Balanced line) :
    ∃ later final, Run (step driver) (fun _ _ => True) line later final ∧
      final.remaining = 0 ∧ InService final ∧ Balanced final := by
  generalize bound : line.remaining = remaining
  induction remaining using Nat.strongRecOn generalizing line with
  | ind remaining induction =>
      by_cases done : line.remaining = 0
      · exact ⟨[], line, .nil, done, service, balanced⟩
      · obtain ⟨action, next, taken, less, service'⟩ :=
          @InService.advance driver line service balanced done
        obtain ⟨later, final, run, rest⟩ := induction next.remaining
          (bound ▸ less) service' (balanced.step taken) rfl
        have first : Run (step driver) (fun _ _ => True) line [action] next :=
          .snoc .nil trivial taken
        exact ⟨_, final, first.trans run, rest⟩

/-- A probed line can take another interrupt exactly if no work was lost: to
`INIT_WORK`, if that comes last, or to an early return, if there is one. -/
theorem interrupt_iff
    (run : Run (step driver) (fun _ _ => True) .start actions line)
    (requested : line.requested = true)
    (initialised : line.initialised = true) (loaded : line.removed = false) :
    ((∃ later next, Run (step driver) (fun _ _ => True) line later next ∧
      .interrupt ∈ later) ↔ line.wiped + line.failed = 0) ∧
      (driver.initFirst = true → line.wiped = 0) ∧
      (driver.mayFail = false → line.failed = 0) := by
  have balanced := balanced_run run
  have losses := losses_run run
  refine ⟨?_, losses.wiped, losses.failed⟩
  constructor
  · rintro ⟨later, next, run, taken⟩
    by_contra lost
    exact no_interrupt balanced lost run taken
  · intro kept
    have service : InService line := ⟨requested, initialised, loaded, kept⟩
    obtain ⟨later, final, run, done, service', balanced'⟩ :=
      @InService.drains driver line service balanced
    obtain ⟨handler, pending, running⟩ := remaining_zero done
    have zero : final.depth = 0 := by
      have depth := balanced'.depth
      have kept' := service'.kept
      rw [Line.holders, handler, pending, running] at depth
      simp only [HandlerPc.holds, WorkPc.holds, Bool.toNat_false] at depth
      omega
    have taken : step driver final .interrupt =
        some { final with handler := some .disableIrqNosync } :=
      if_pos ⟨service'.requested, zero, handler⟩
    exact ⟨later ++ [.interrupt], _, run.snoc trivial taken, by simp⟩

end Runs

/-- `int_probe` with an interrupt before `INIT_WORK`. -/
def Line.early : Line :=
  { Line.start with
    requested := true, initialised := true, depth := 1
    handler := some .ret, handled := 1, wiped := 1 }

theorem early_run :
    Run (step testPlatform) (fun _ _ => True) .start
      [.requestIrq, .interrupt, .handler, .handler, .initWork] .early :=
  .snoc (.snoc (.snoc (.snoc (.snoc .nil trivial rfl) trivial rfl) trivial rfl)
    trivial rfl) trivial rfl

theorem one_holder_early :
    Line.early.unbalanced = false ∧ Line.early.dropped = false ∧
      Line.early.depth ≤ 1 ∧
      Line.early.depth =
        Line.early.holders + (Line.early.wiped + Line.early.failed) ∧
      (Line.early.handler = some .disableIrqNosync →
        Line.early.holders = 0) ∧
      Line.early.handled = Line.early.served + Line.early.wiped +
        Line.early.pending.toNat + WorkPc.unserved Line.early.running :=
  one_holder early_run

/-- `es8323` with one interrupt that was served. -/
def Line.servedOnce : Line :=
  { Line.start with
    requested := true, initialised := true, handled := 1, served := 1 }

theorem servedOnce_run :
    Run (step es8323) (fun _ _ => True) .start
      [.initWork, .requestIrq, .interrupt, .handler, .handler, .handler,
        .worker false, .worker false, .worker false, .worker false]
      .servedOnce :=
  .snoc (.snoc (.snoc (.snoc (.snoc (.snoc (.snoc (.snoc (.snoc (.snoc .nil
    trivial rfl) trivial rfl) trivial rfl) trivial rfl) trivial rfl) trivial
    rfl) trivial rfl) trivial rfl) trivial rfl) trivial rfl

/-- The work of the one was lost, and the other takes a further interrupt. -/
theorem interrupt_iff_early :
    (¬∃ later next,
      Run (step testPlatform) (fun _ _ => True) .early later next ∧
        .interrupt ∈ later) ∧
    ∃ later next,
      Run (step es8323) (fun _ _ => True) .servedOnce later next ∧
        .interrupt ∈ later :=
  ⟨mt (interrupt_iff early_run rfl rfl rfl).1.mp (by decide),
    (interrupt_iff servedOnce_run rfl rfl rfl).1.mpr rfl⟩

section Removal

variable {driver : Driver} {line next : Line} {actions : List Action}

/-- The driver is gone, and no work is left that would run. -/
structure Gone (line : Line) : Prop where
  removed : line.removed = true
  requested : line.requested = false
  handler : line.handler = none
  pending : line.pending = false
  running : line.running = none ∨ line.running = some .ret
  quiet : line.wild = false

theorem Gone.step (gone : Gone line) {action : Action}
    (taken : Deferred.step driver line action = some next) : Gone next := by
  obtain ⟨removed, requested, handler, pending, running, quiet⟩ := gone
  cases action with
  | requestIrq =>
      obtain ⟨⟨-, loaded, -⟩, -⟩ := Option.ite_none_right_eq_some.mp taken
      rw [removed] at loaded
      cases loaded
  | initWork =>
      obtain ⟨⟨-, loaded, -⟩, -⟩ := Option.ite_none_right_eq_some.mp taken
      rw [removed] at loaded
      cases loaded
  | interrupt =>
      obtain ⟨⟨some, -⟩, -⟩ := Option.ite_none_right_eq_some.mp taken
      rw [requested] at some
      cases some
  | handler =>
      obtain ⟨pc, here, -⟩ := Option.map_eq_some_iff.mp taken
      rw [handler] at here
      cases here
  | worker fails =>
      obtain ⟨-, taken⟩ := Option.ite_none_left_eq_some.mp taken
      rw [Line.runWork] at taken
      rcases running with none | last
      · rw [none, pending] at taken
        cases taken
      · rw [last] at taken
        cases taken
        exact ⟨removed, requested, handler, pending, .inl rfl, quiet⟩
  | remove =>
      obtain ⟨⟨some, -⟩, -⟩ := Option.ite_none_right_eq_some.mp taken
      rw [requested] at some
      cases some

/-- The work may yet run in a driver that is gone. -/
def Line.mayRun (driver : Driver) (line : Line) : Prop :=
  ∃ later final, Run (step driver) (fun _ _ => True) line later final ∧
    final.wild = true

theorem Line.mayRun.of_work (runs : next.mayRun driver)
    (taken : line.runWork false = some next) : line.mayRun driver := by
  obtain ⟨later, final, run, wild⟩ := runs
  have worked : step driver line (.worker false) = some next := by
    rw [step, if_neg (by simp), taken]
  have first : Run (step driver) (fun _ _ => True) line [.worker false] next :=
    .snoc .nil trivial worked
  exact ⟨_, final, first.trans run, wild⟩

theorem mayRun_of_running {pc : WorkPc} (removed : line.removed = true)
    (here : line.running = some pc) (busy : pc ≠ .ret) :
    line.mayRun driver := by
  have taken : line.runWork false = some (line.work false pc) := by
    rw [Line.runWork, here]
  refine .of_work ⟨[], _, .nil, ?_⟩ taken
  cases pc with
  | body => simp [Line.work, removed]
  | enableIrq => simp [Line.work, removed]
  | ret => exact absurd rfl busy

theorem mayRun_of_idle (removed : line.removed = true)
    (initialised : line.initialised = true) (pending : line.pending = true)
    (idle : line.running = none) : line.mayRun driver := by
  have taken : line.runWork false =
      some { line with pending := false, running := some .body } := by
    rw [Line.runWork, idle]
    simp only [pending, initialised, if_true]
  have later : Line.mayRun driver
      { line with pending := false, running := some .body } :=
    mayRun_of_running removed rfl nofun
  exact later.of_work taken

theorem mayRun_of_pending (removed : line.removed = true)
    (initialised : line.initialised = true) (pending : line.pending = true) :
    line.mayRun driver := by
  cases running : line.running with
  | none => exact mayRun_of_idle removed initialised pending running
  | some pc =>
      cases pc with
      | ret =>
          have taken : line.runWork false = some (line.work false .ret) := by
            rw [Line.runWork, running]
          have later : (line.work false .ret).mayRun driver :=
            mayRun_of_idle removed initialised pending rfl
          exact later.of_work taken
      | _ => exact mayRun_of_running removed running nofun

/-- The work runs in a driver that is gone exactly if the line is disabled when
it goes and no work was lost: somebody still has to enable it, and
`int_remove` waits for nobody. -/
theorem wild_iff
    (run : Run (step driver) (fun _ _ => True) .start actions line)
    (quiet : line.wild = false)
    (removes : step driver line .remove = some next) :
    (∃ later final, Run (step driver) (fun _ _ => True) next later final ∧
      final.wild = true) ↔
      line.depth = 1 ∧ line.wiped + line.failed = 0 := by
  have balanced := balanced_run run
  have depth := balanced.depth
  have once := balanced.once
  obtain ⟨⟨-, initialised, handler⟩, same⟩ :=
    Option.ite_none_right_eq_some.mp removes
  cases same
  rw [Line.holders, handler] at depth
  simp only [HandlerPc.holds] at depth
  constructor
  · rintro ⟨later, final, run, wild⟩
    by_contra enabled
    have idle : line.pending.toNat = 0 ∧ WorkPc.holds line.running = 0 := by
      omega
    have gone : Gone { line with requested := false, removed := true } := by
      refine ⟨rfl, rfl, handler, ?_, ?_, quiet⟩
      · exact Bool.toNat_eq_zero.mp idle.1
      · cases running : line.running with
        | none => exact .inl rfl
        | some pc =>
            rw [running] at idle
            cases pc with
            | ret => exact .inr rfl
            | _ => cases idle.2
    have still := run.invariant gone fun _ _ _ gone _ taken => gone.step taken
    rw [still.quiet] at wild
    cases wild
  · rintro ⟨disabled, kept⟩
    cases pending : line.pending with
    | true => exact mayRun_of_pending rfl initialised rfl
    | false =>
        rw [pending] at depth
        cases running : line.running with
        | none =>
            simp only [running, WorkPc.holds, Bool.toNat_false] at depth
            omega
        | some pc =>
            refine mayRun_of_running rfl rfl ?_
            rintro rfl
            simp only [running, WorkPc.holds, Bool.toNat_false] at depth
            omega

end Removal

/-- The work is scheduled and the handler has returned. -/
def Line.scheduled : Line :=
  { Line.start with
    requested := true, initialised := true, depth := 1, pending := true
    handled := 1 }

theorem scheduled_run :
    Run (step testPlatform) (fun _ _ => True) .start
      [.requestIrq, .initWork, .interrupt, .handler, .handler, .handler]
      .scheduled :=
  .snoc (.snoc (.snoc (.snoc (.snoc (.snoc .nil trivial rfl) trivial rfl)
    trivial rfl) trivial rfl) trivial rfl) trivial rfl

theorem wild_iff_scheduled :
    ∃ later final, Run (step testPlatform) (fun _ _ => True)
      { Line.scheduled with requested := false, removed := true } later final ∧
        final.wild = true :=
  (wild_iff scheduled_run rfl rfl).mpr ⟨rfl, rfl⟩

end KernelDrivers.Deferred
