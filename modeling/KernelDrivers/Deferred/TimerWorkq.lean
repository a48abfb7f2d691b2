import KernelDrivers.Library.Transition

/-!
# A timer and a work that start each other

`timeout_handler` schedules the work, and `mywork_handler` adds the timer again.
The module adds the timer for the first time before it initialises the work, and
when it exits it deletes the timer and frees both.
-/

namespace KernelDrivers.Deferred

open KernelDrivers.Library

/-- The next thing `timeout_handler` does. -/
inductive TimeoutPc where
  | printk
  | scheduleWork
  | ret
deriving DecidableEq

/-- The next thing `mywork_handler` does. -/
inductive MyworkPc where
  | printk
  | addTimer
  | ret
deriving DecidableEq

/-- A line of the log, with `g_cnt`. -/
inductive Printed where
  | timeout (cnt : BitVec 32)
  | doWork (cnt : BitVec 32)
deriving DecidableEq

/-- The timer and the work of `g_sds`, where the two functions are, and how far
the module has come.  `bug` is an `add_timer` of a timer that is pending,
`dropped` a work that was scheduled twice, `lost` one that `INIT_WORK` took off
the queue, and `wild` a use of `g_sds` behind the `kfree`, or a call of a work
without a function. -/
structure Sds where
  mytimer : Bool
  timeout : Option TimeoutPc
  initialised : Bool
  mywork : Bool
  running : Option MyworkPc
  gCnt : BitVec 32
  log : List Printed
  deleted : Bool
  freed : Bool
  bug : Bool
  dropped : Bool
  lost : Bool
  wild : Bool

/-- `timer_workq_init` up to `add_timer`. -/
def Sds.init : Sds :=
  { mytimer := true, timeout := none, initialised := false, mywork := false
    running := none, gCnt := 1, log := [], deleted := false, freed := false
    bug := false, dropped := false, lost := false, wild := false }

/-- `timeout_handler`, one call at a time. -/
def Sds.timeoutHandler (sds : Sds) : TimeoutPc → Sds
  | .printk =>
      { sds with
        log := sds.log ++ [.timeout sds.gCnt]
        timeout := some .scheduleWork }
  | .scheduleWork =>
      { sds with
        mywork := true
        dropped := sds.dropped || sds.mywork
        wild := sds.wild || sds.freed
        timeout := some .ret }
  | .ret => { sds with timeout := none }

/-- `mywork_handler`, one call at a time. -/
def Sds.myworkHandler (sds : Sds) : MyworkPc → Sds
  | .printk =>
      { sds with
        log := sds.log ++ [.doWork sds.gCnt]
        gCnt := sds.gCnt + 1
        running := some .addTimer }
  | .addTimer =>
      { sds with
        mytimer := true
        bug := sds.bug || sds.mytimer
        wild := sds.wild || sds.freed
        running := some .ret }
  | .ret => { sds with running := none }

inductive Event where
  | expire
  | timeout
  | worker
  | initWork
  | delTimer
  | kfree
deriving DecidableEq

/-- `INIT_WORK` makes a work that is queued one that is not, and `del_timer`
waits for nobody. -/
def Sds.step (sds : Sds) : Event → Option Sds
  | .expire =>
      if sds.mytimer = true ∧ sds.timeout = none then
        some { sds with
          mytimer := false
          wild := sds.wild || sds.freed
          timeout := some .printk }
      else none
  | .timeout => sds.timeout.map sds.timeoutHandler
  | .worker =>
      match sds.running with
      | some pc => some (sds.myworkHandler pc)
      | none =>
          if sds.mywork then
            if sds.initialised then
              some { sds with
                mywork := false
                wild := sds.wild || sds.freed
                running := some .printk }
            else some { sds with wild := true }
          else none
  | .initWork =>
      if sds.initialised then none
      else some { sds with
        initialised := true
        mywork := false
        lost := sds.lost || sds.mywork }
  | .delTimer =>
      if sds.initialised = true ∧ sds.deleted = false then
        some { sds with mytimer := false, deleted := true }
      else none
  | .kfree =>
      if sds.deleted = true ∧ sds.freed = false then
        some { sds with freed := true }
      else none

/-- The lines of the rounds that are complete. -/
def rounds (count : Nat) : List Printed :=
  (List.range count).flatMap fun index =>
    [.timeout (.ofNat 32 (index + 1)), .doWork (.ofNat 32 (index + 1))]

theorem rounds_succ (count : Nat) :
    rounds (count + 1) = rounds count ++
      [.timeout (.ofNat 32 (count + 1)), .doWork (.ofNat 32 (count + 1))] := by
  simp [rounds, List.range_succ]

/-- The place of the baton: the timer, the two functions, and the queue; or
nowhere, where `INIT_WORK` has lost it or `del_timer` taken it away. -/
inductive Place where
  | timer
  | timeout
  | scheduling
  | queue
  | work
  | adding
  | lost
  | deleted
deriving DecidableEq

/-- Whether the line of the timeout is the last one. -/
def Place.half : Place → Bool
  | .scheduling | .queue | .work | .lost => true
  | _ => false

/-- What the timer, the work and the functions have to be if the baton is at a
place; a function that has passed it on may still have to return. -/
def Place.Agrees (sds : Sds) : Place → Prop
  | .timer =>
      sds.mytimer = true ∧ (sds.timeout = none ∨ sds.timeout = some .ret) ∧
        sds.mywork = false ∧ (sds.running = none ∨ sds.running = some .ret)
  | .timeout =>
      sds.mytimer = false ∧ sds.timeout = some .printk ∧
        sds.mywork = false ∧ (sds.running = none ∨ sds.running = some .ret)
  | .scheduling =>
      sds.mytimer = false ∧ sds.timeout = some .scheduleWork ∧
        sds.mywork = false ∧ (sds.running = none ∨ sds.running = some .ret)
  | .queue =>
      sds.mytimer = false ∧ (sds.timeout = none ∨ sds.timeout = some .ret) ∧
        sds.mywork = true ∧ (sds.running = none ∨ sds.running = some .ret)
  | .work =>
      sds.mytimer = false ∧ (sds.timeout = none ∨ sds.timeout = some .ret) ∧
        sds.mywork = false ∧ sds.running = some .printk
  | .adding =>
      sds.mytimer = false ∧ (sds.timeout = none ∨ sds.timeout = some .ret) ∧
        sds.mywork = false ∧ sds.running = some .addTimer
  | .lost =>
      sds.mytimer = false ∧ (sds.timeout = none ∨ sds.timeout = some .ret) ∧
        sds.mywork = false ∧ (sds.running = none ∨ sds.running = some .ret) ∧
        sds.lost = true
  | .deleted =>
      sds.mytimer = false ∧ (sds.timeout = none ∨ sds.timeout = some .ret) ∧
        sds.mywork = false ∧ (sds.running = none ∨ sds.running = some .ret) ∧
        sds.lost = false

/-- The baton is at a place, and the log has come as far. -/
structure At (sds : Sds) (place : Place) : Prop where
  agrees : place.Agrees sds
  log : ∃ complete, sds.gCnt = .ofNat 32 (complete + 1) ∧
    sds.log = rounds complete ++
      if place.half then [.timeout (.ofNat 32 (complete + 1))] else []
  lost : sds.lost = true → place = .lost
  initialised : sds.initialised = false → sds.lost = false
  deleted : place = .deleted → sds.deleted = true
  loaded : sds.freed = false
  bug : sds.bug = false
  dropped : sds.dropped = false

section Rounds

variable {sds next : Sds} {place : Place}

theorem at_init : At .init .timer where
  agrees := ⟨rfl, .inl rfl, rfl, .inl rfl⟩
  log := ⟨0, rfl, rfl⟩
  lost lost := by cases lost
  initialised _ := rfl
  deleted gone := by cases gone
  loaded := rfl
  bug := rfl
  dropped := rfl

theorem Place.Agrees.timer (agrees : place.Agrees sds)
    (armed : sds.mytimer = true) : place = .timer := by
  cases place <;> simp [Place.Agrees, armed] at agrees ⊢

theorem Place.Agrees.queue (agrees : place.Agrees sds)
    (queued : sds.mywork = true) : place = .queue := by
  cases place <;> simp [Place.Agrees, queued] at agrees ⊢

theorem Place.Agrees.timeout (agrees : place.Agrees sds) :
    (sds.timeout = some .printk → place = .timeout) ∧
      (sds.timeout = some .scheduleWork → place = .scheduling) := by
  constructor <;> intro here <;> cases place <;>
    simp [Place.Agrees, here] at agrees ⊢

theorem Place.Agrees.running (agrees : place.Agrees sds) :
    (sds.running = some .printk → place = .work) ∧
      (sds.running = some .addTimer → place = .adding) := by
  constructor <;> intro here <;> cases place <;>
    simp [Place.Agrees, here] at agrees ⊢

theorem Place.Agrees.timeout_returns (agrees : place.Agrees sds)
    (here : sds.timeout = some .ret) :
    place.Agrees { sds with timeout := none } := by
  cases place <;> simp [Place.Agrees, here] at agrees ⊢ <;> exact agrees

theorem Place.Agrees.mywork_returns (agrees : place.Agrees sds)
    (here : sds.running = some .ret) :
    place.Agrees { sds with running := none } := by
  cases place <;> simp [Place.Agrees, here] at agrees ⊢ <;> exact agrees

/-- The baton is where it was, and nothing it is told by has changed. -/
theorem At.congr (here : At sds place) (agrees : place.Agrees next)
    (count : next.gCnt = sds.gCnt) (lines : next.log = sds.log)
    (lost : next.lost = sds.lost)
    (initialised : next.initialised = false → sds.initialised = false)
    (deleted : sds.deleted = true → next.deleted = true)
    (loaded : next.freed = sds.freed) (bug : next.bug = sds.bug)
    (dropped : next.dropped = sds.dropped) :
    At next place where
  agrees := agrees
  log := by
    rw [count, lines]
    exact here.log
  lost gone := here.lost (lost ▸ gone)
  initialised before := lost.trans (here.initialised (initialised before))
  deleted gone := deleted (here.deleted gone)
  loaded := loaded.trans here.loaded
  bug := bug.trans here.bug
  dropped := dropped.trans here.dropped

theorem At.kept (here : At sds place) (other : place ≠ .lost) :
    sds.lost = false :=
  Bool.eq_false_iff.mpr fun lost => other (here.lost lost)

/-- The baton goes to another place, with the line of a timeout behind it or
not. -/
theorem At.passes {place' : Place} (here : At sds place)
    (other : place ≠ .lost) (agrees : place'.Agrees next)
    (log : ∃ complete, next.gCnt = .ofNat 32 (complete + 1) ∧
      next.log = rounds complete ++
        if place'.half then [.timeout (.ofNat 32 (complete + 1))] else [])
    (lost : next.lost = sds.lost) (still : place' ≠ .deleted)
    (loaded : next.freed = sds.freed) (bug : next.bug = sds.bug)
    (dropped : next.dropped = sds.dropped) :
    At next place' where
  agrees := agrees
  log := log
  lost gone := by
    rw [lost, here.kept other] at gone
    cases gone
  initialised _ := lost.trans (here.kept other)
  deleted gone := absurd gone still
  loaded := loaded.trans here.loaded
  bug := bug.trans here.bug
  dropped := dropped.trans here.dropped

theorem At.expire (here : At sds place)
    (taken : sds.step .expire = some next) : At next .timeout := by
  obtain ⟨⟨armed, idle⟩, taken⟩ := Option.ite_none_right_eq_some.mp taken
  cases taken
  obtain rfl := here.agrees.timer armed
  obtain ⟨-, -, rest⟩ := here.agrees
  exact here.passes nofun ⟨rfl, rfl, rest⟩ here.log rfl nofun rfl rfl rfl

theorem At.timeoutHandler (here : At sds place) {pc : TimeoutPc}
    (runs : sds.timeout = some pc) :
    ∃ place', At (sds.timeoutHandler pc) place' := by
  cases pc with
  | printk =>
      obtain rfl := here.agrees.timeout.1 runs
      obtain ⟨timer, -, rest⟩ := here.agrees
      obtain ⟨complete, count, lines⟩ := here.log
      refine ⟨.scheduling, here.passes nofun ⟨timer, rfl, rest⟩
        ⟨complete, count, ?_⟩ rfl nofun rfl rfl rfl⟩
      simp only [Sds.timeoutHandler, lines, count, Place.half,
        Bool.false_eq_true, if_false, if_true, List.append_nil]
  | scheduleWork =>
      obtain rfl := here.agrees.timeout.2 runs
      obtain ⟨timer, -, idle, rest⟩ := here.agrees
      refine ⟨.queue, here.passes nofun ⟨timer, .inr rfl, rfl, rest⟩ here.log
        rfl nofun rfl rfl ?_⟩
      simp only [Sds.timeoutHandler, idle, Bool.or_false]
  | ret =>
      exact ⟨place, here.congr (here.agrees.timeout_returns runs) rfl rfl rfl
        id id rfl rfl rfl⟩

theorem At.myworkHandler (here : At sds place) {pc : MyworkPc}
    (runs : sds.running = some pc) :
    ∃ place', At (sds.myworkHandler pc) place' := by
  cases pc with
  | printk =>
      obtain rfl := here.agrees.running.1 runs
      obtain ⟨timer, timeout, idle, -⟩ := here.agrees
      obtain ⟨complete, count, lines⟩ := here.log
      refine ⟨.adding, here.passes nofun ⟨timer, timeout, idle, rfl⟩
        ⟨complete + 1, ?_, ?_⟩ rfl nofun rfl rfl rfl⟩
      · simp only [Sds.myworkHandler, count]
        exact (BitVec.ofNat_add _ _).symm
      · simp [Sds.myworkHandler, lines, count, Place.half, rounds_succ]
  | addTimer =>
      obtain rfl := here.agrees.running.2 runs
      obtain ⟨timer, timeout, idle, -⟩ := here.agrees
      refine ⟨.timer, here.passes nofun ⟨rfl, timeout, idle, .inr rfl⟩ here.log
        rfl nofun rfl ?_ rfl⟩
      simp only [Sds.myworkHandler, timer, Bool.or_false]
  | ret =>
      exact ⟨place, here.congr (here.agrees.mywork_returns runs) rfl rfl rfl
        id id rfl rfl rfl⟩

theorem At.worker (here : At sds place)
    (taken : sds.step .worker = some next) : ∃ place', At next place' := by
  rw [Sds.step] at taken
  split at taken
  · rename_i pc runs
    cases taken
    exact here.myworkHandler runs
  · obtain ⟨queued, taken⟩ := Option.ite_none_right_eq_some.mp taken
    obtain rfl := here.agrees.queue queued
    split at taken
    · cases taken
      obtain ⟨timer, timeout, -⟩ := here.agrees
      exact ⟨.work, here.passes nofun ⟨timer, timeout, rfl, rfl⟩ here.log rfl
        nofun rfl rfl rfl⟩
    · cases taken
      exact ⟨.queue, here.congr here.agrees rfl rfl rfl id id rfl rfl rfl⟩

theorem At.initWork (here : At sds place)
    (taken : sds.step .initWork = some next) : ∃ place', At next place' := by
  obtain ⟨before, taken⟩ := Option.ite_none_left_eq_some.mp taken
  rw [Bool.not_eq_true] at before
  have kept := here.initialised before
  cases taken
  cases queued : sds.mywork with
  | false =>
      refine ⟨place, here.congr ?_ rfl rfl ?_ nofun id rfl rfl rfl⟩
      · have agrees := here.agrees
        cases place <;> simp [Place.Agrees, queued, kept] at agrees ⊢ <;>
          exact agrees
      · simp
  | true =>
      obtain rfl := here.agrees.queue queued
      obtain ⟨timer, timeout, -, running⟩ := here.agrees
      refine ⟨.lost, ⟨timer, timeout, rfl, running, by simp⟩, here.log,
        fun _ => rfl, nofun, nofun, here.loaded, here.bug, here.dropped⟩

theorem At.delTimer (here : At sds place)
    (taken : sds.step .delTimer = some next) :
    At next (if place = .timer then .deleted else place) := by
  obtain ⟨⟨initialised, loaded⟩, taken⟩ :=
    Option.ite_none_right_eq_some.mp taken
  cases taken
  by_cases armed : place = .timer
  · subst armed
    obtain ⟨-, timeout, rest⟩ := here.agrees
    have kept := here.kept nofun
    rw [if_pos rfl]
    exact ⟨⟨rfl, timeout, rest.1, rest.2, kept⟩, here.log,
      fun lost => by simp [kept] at lost, fun _ => kept, fun _ => rfl,
      here.loaded, here.bug, here.dropped⟩
  · rw [if_neg armed]
    have idle : sds.mytimer = false :=
      Bool.eq_false_iff.mpr fun set => armed (here.agrees.timer set)
    refine here.congr ?_ rfl rfl rfl id (fun _ => rfl) rfl rfl rfl
    have agrees := here.agrees
    cases place <;> simp [Place.Agrees, idle] at agrees armed ⊢ <;> exact agrees

theorem At.step (here : At sds place) {event : Event} (stays : event ≠ .kfree)
    (taken : sds.step event = some next) : ∃ place', At next place' := by
  cases event with
  | expire => exact ⟨.timeout, here.expire taken⟩
  | timeout =>
      obtain ⟨pc, runs, rfl⟩ := Option.map_eq_some_iff.mp taken
      exact here.timeoutHandler runs
  | worker => exact here.worker taken
  | initWork => exact here.initWork taken
  | delTimer => exact ⟨_, here.delTimer taken⟩
  | kfree => exact absurd rfl stays

theorem at_run {events : List Event}
    (run : Run Sds.step (fun _ event => event ≠ .kfree) .init events sds) :
    ∃ place, At sds place := by
  apply run.invariant ⟨.timer, at_init⟩
  intro state event next here stays taken
  obtain ⟨place, here⟩ := here
  exact here.step stays taken

theorem Place.Agrees.unique {other : Place} (first : place.Agrees sds)
    (second : other.Agrees sds) : other = place := by
  cases place <;> cases other <;>
    simp only [Place.Agrees] at first second <;> simp_all

/-- Until the module frees them the baton is in one place, or nowhere once
`INIT_WORK` has taken a work off the queue or `del_timer` the timer: no timer is
added that is pending and no work scheduled that is, and the lines alternate,
with `g_cnt` counting the rounds. -/
theorem one_baton {events : List Event}
    (run : Run Sds.step (fun _ event => event ≠ .kfree) .init events sds) :
    ∃ place : Place, (∀ other : Place, other.Agrees sds ↔ other = place) ∧
      (place = .lost ↔ sds.lost = true) ∧
      (place = .deleted → sds.deleted = true) ∧
      sds.bug = false ∧ sds.dropped = false ∧
      ∃ complete, sds.gCnt = .ofNat 32 (complete + 1) ∧
        sds.log = rounds complete ++
          if place.half then [.timeout (.ofNat 32 (complete + 1))] else [] := by
  obtain ⟨place, here⟩ := at_run run
  refine ⟨place, fun other => ?_, ⟨?_, here.lost⟩, here.deleted, here.bug,
    here.dropped, here.log⟩
  · constructor
    · exact here.agrees.unique
    · rintro rfl
      exact here.agrees
  · rintro rfl
    obtain ⟨-, -, -, -, lost⟩ := here.agrees
    exact lost

/-- Nobody has the baton, and `g_sds` has not been used since it was freed. -/
structure Ended (sds : Sds) : Prop where
  timer : sds.mytimer = false
  timeout : sds.timeout = none ∨ sds.timeout = some .ret
  mywork : sds.mywork = false
  running : sds.running = none ∨ sds.running = some .ret
  initialised : sds.initialised = true
  quiet : sds.wild = false

theorem Ended.step (ended : Ended sds) {event : Event}
    (taken : sds.step event = some next) : Ended next := by
  obtain ⟨timer, timeout, mywork, running, initialised, quiet⟩ := ended
  cases event with
  | expire =>
      obtain ⟨⟨armed, -⟩, -⟩ := Option.ite_none_right_eq_some.mp taken
      rw [timer] at armed
      cases armed
  | timeout =>
      obtain ⟨pc, here, rfl⟩ := Option.map_eq_some_iff.mp taken
      obtain rfl : pc = .ret := by
        rcases timeout with none | last
        · rw [none] at here
          cases here
        · rw [last] at here
          cases here
          rfl
      exact ⟨timer, .inl rfl, mywork, running, initialised, quiet⟩
  | worker =>
      rw [Sds.step] at taken
      rcases running with none | last
      · rw [none, mywork] at taken
        cases taken
      · rw [last] at taken
        cases taken
        exact ⟨timer, timeout, mywork, .inl rfl, initialised, quiet⟩
  | initWork =>
      rw [Sds.step, if_pos initialised] at taken
      cases taken
  | delTimer =>
      obtain ⟨-, taken⟩ := Option.ite_none_right_eq_some.mp taken
      cases taken
      exact ⟨rfl, timeout, mywork, running, initialised, quiet⟩
  | kfree =>
      obtain ⟨-, taken⟩ := Option.ite_none_right_eq_some.mp taken
      cases taken
      exact ⟨timer, timeout, mywork, running, initialised, quiet⟩

/-- Memory that was freed may be used. -/
def Sds.mayUse (sds : Sds) : Prop :=
  ∃ later final, Run Sds.step (fun _ _ => True) sds later final ∧
    final.wild = true

theorem Sds.mayUse.of_step {event : Event} (uses : next.mayUse)
    (taken : sds.step event = some next) : sds.mayUse := by
  obtain ⟨later, final, run, wild⟩ := uses
  have first : Run Sds.step (fun _ _ => True) sds [event] next :=
    .snoc .nil trivial taken
  exact ⟨_, final, first.trans run, wild⟩

theorem Sds.mayUse.now (wild : sds.wild = true) : sds.mayUse :=
  ⟨[], sds, .nil, wild⟩

/-- Behind the `kfree` the function that has the baton touches the timer or the
work before it passes it on. -/
theorem mayUse_of_scheduleWork (freed : sds.freed = true)
    (here : sds.timeout = some .scheduleWork) : sds.mayUse := by
  have taken : sds.step .timeout = some (sds.timeoutHandler .scheduleWork) := by
    rw [Sds.step, here]
    rfl
  refine .of_step (.now ?_) taken
  simp [Sds.timeoutHandler, freed]

theorem mayUse_of_timeout {pc : TimeoutPc} (freed : sds.freed = true)
    (here : sds.timeout = some pc) (busy : pc ≠ .ret) : sds.mayUse := by
  cases pc with
  | printk =>
      have taken : sds.step .timeout = some (sds.timeoutHandler .printk) := by
        rw [Sds.step, here]
        rfl
      have later : (sds.timeoutHandler .printk).mayUse :=
        mayUse_of_scheduleWork freed rfl
      exact later.of_step taken
  | scheduleWork => exact mayUse_of_scheduleWork freed here
  | ret => exact absurd rfl busy

theorem mayUse_of_addTimer (freed : sds.freed = true)
    (here : sds.running = some .addTimer) : sds.mayUse := by
  have taken : sds.step .worker = some (sds.myworkHandler .addTimer) := by
    rw [Sds.step, here]
  refine .of_step (.now ?_) taken
  simp [Sds.myworkHandler, freed]

theorem mayUse_of_running {pc : MyworkPc} (freed : sds.freed = true)
    (here : sds.running = some pc) (busy : pc ≠ .ret) : sds.mayUse := by
  cases pc with
  | printk =>
      have taken : sds.step .worker = some (sds.myworkHandler .printk) := by
        rw [Sds.step, here]
      have later : (sds.myworkHandler .printk).mayUse :=
        mayUse_of_addTimer freed rfl
      exact later.of_step taken
  | addTimer => exact mayUse_of_addTimer freed here
  | ret => exact absurd rfl busy

theorem mayUse_of_dispatch (freed : sds.freed = true)
    (initialised : sds.initialised = true) (queued : sds.mywork = true)
    (idle : sds.running = none) : sds.mayUse := by
  have taken : sds.step .worker = some { sds with
      mywork := false, wild := sds.wild || sds.freed,
      running := some .printk } := by
    rw [Sds.step, idle]
    simp only [queued, initialised, if_true]
  refine .of_step (.now ?_) taken
  simp [freed]

theorem mayUse_of_queue (freed : sds.freed = true)
    (initialised : sds.initialised = true) (queued : sds.mywork = true)
    (running : sds.running = none ∨ sds.running = some .ret) :
    sds.mayUse := by
  rcases running with idle | last
  · exact mayUse_of_dispatch freed initialised queued idle
  · have taken : sds.step .worker = some (sds.myworkHandler .ret) := by
      rw [Sds.step, last]
    have later : (sds.myworkHandler .ret).mayUse :=
      mayUse_of_dispatch freed initialised queued rfl
    exact later.of_step taken

/-- The timer and the work are used when they have been freed exactly if
`del_timer` finds no timer to delete, the baton being elsewhere, and
`INIT_WORK` has not lost it. -/
theorem freed_used_iff {events : List Event}
    (run : Run Sds.step (fun _ event => event ≠ .kfree) .init events sds)
    (quiet : sds.wild = false) (exits : sds.step .delTimer = some next) :
    (∃ later final, Run Sds.step (fun _ _ => True) next later final ∧
      final.wild = true) ↔ sds.mytimer = false ∧ sds.lost = false := by
  obtain ⟨place, here⟩ := at_run run
  obtain ⟨⟨initialised, present⟩, same⟩ :=
    Option.ite_none_right_eq_some.mp exits
  cases same
  constructor
  · rintro ⟨later, final, run, wild⟩
    by_contra elsewhere
    have gone : place = .timer ∨ place = .lost := by
      by_cases armed : sds.mytimer = true
      · exact .inl (here.agrees.timer armed)
      · rw [Bool.not_eq_true] at armed
        apply Or.inr
        apply here.lost
        by_contra kept
        rw [Bool.not_eq_true] at kept
        exact elsewhere ⟨armed, kept⟩
    have ended : Ended { sds with mytimer := false, deleted := true } := by
      have agrees := here.agrees
      rcases gone with rfl | rfl
      · exact ⟨rfl, agrees.2.1, agrees.2.2.1, agrees.2.2.2, initialised, quiet⟩
      · exact ⟨rfl, agrees.2.1, agrees.2.2.1, agrees.2.2.2.1, initialised,
          quiet⟩
    have still := run.invariant ended fun _ _ _ ended _ taken =>
      ended.step taken
    rw [still.quiet] at wild
    cases wild
  · rintro ⟨timer, kept⟩
    have frees : Sds.step { sds with mytimer := false, deleted := true }
        .kfree = some { sds with
          mytimer := false, deleted := true, freed := true } :=
      if_pos ⟨rfl, here.loaded⟩
    refine Sds.mayUse.of_step ?_ frees
    have agrees := here.agrees
    cases place with
    | timer => simp [Place.Agrees, timer] at agrees
    | timeout => exact mayUse_of_timeout rfl agrees.2.1 nofun
    | scheduling => exact mayUse_of_timeout rfl agrees.2.1 nofun
    | queue => exact mayUse_of_queue rfl initialised agrees.2.2.1 agrees.2.2.2
    | work => exact mayUse_of_running rfl agrees.2.2.2 nofun
    | adding => exact mayUse_of_running rfl agrees.2.2.2 nofun
    | lost => simp [Place.Agrees, kept] at agrees
    | deleted =>
        rw [here.deleted rfl] at present
        cases present

end Rounds

/-- The work has been scheduled for the first time. -/
def Sds.queued : Sds :=
  { Sds.init with
    mytimer := false, timeout := some .ret, initialised := true, mywork := true
    log := [.timeout 1] }

theorem queued_run :
    Run Sds.step (fun _ event => event ≠ .kfree) .init
      [.initWork, .expire, .timeout, .timeout] .queued :=
  .snoc (.snoc (.snoc (.snoc .nil (by decide) rfl) (by decide) rfl) (by decide)
    rfl) (by decide) rfl

theorem one_baton_queued :
    ∃ place : Place,
      (∀ other : Place, other.Agrees .queued ↔ other = place) ∧
      (place = .lost ↔ Sds.queued.lost = true) ∧
      (place = .deleted → Sds.queued.deleted = true) ∧
      Sds.queued.bug = false ∧ Sds.queued.dropped = false ∧
      ∃ complete, Sds.queued.gCnt = .ofNat 32 (complete + 1) ∧
        Sds.queued.log = rounds complete ++
          if place.half then [.timeout (.ofNat 32 (complete + 1))] else [] :=
  one_baton queued_run

theorem freed_used_iff_queued :
    ∃ later final, Run Sds.step (fun _ _ => True)
      { Sds.queued with mytimer := false, deleted := true } later final ∧
        final.wild = true :=
  (@freed_used_iff .queued _ _ queued_run rfl rfl).mpr ⟨rfl, rfl⟩

end KernelDrivers.Deferred
