import KernelDrivers.Library.Transition

/-!
# A thread that waits for an attribute to be written

`BBBBB_debug_store` copies what is written and sets `g_condition`;
`A_test_kthread` waits for it, clears it, and only then reads the data.
-/

namespace KernelDrivers.Deferred

open KernelDrivers.Library

/-- `sizeof(sdd.data)`. -/
abbrev sizeofData : Nat := 1024

/-- The next thing `BBBBB_debug_store` does. -/
inductive StorePc where
  | memset
  | memcpy
  | setCondition
  | wakeUp
deriving DecidableEq

/-- The next thing `A_test_kthread` does; it is in `wait_event_interruptible`
before and while it sleeps. -/
inductive ThreadPc where
  | wait
  | asleep
  | clear
  | printk
deriving DecidableEq

/-- The shared data, the store that is under way with what it was given, the
thread and its lines, and the stores that have returned. -/
structure Sdd where
  data : List UInt8
  gCondition : Bool
  store : Option (StorePc × List UInt8)
  thread : ThreadPc
  log : List (List UInt8)
  stored : List (List UInt8)

def Sdd.start : Sdd :=
  { data := List.replicate sizeofData 0, gCondition := false, store := none
    thread := .wait, log := [], stored := [] }

/-- `%s`. -/
def string (data : List UInt8) : List UInt8 :=
  data.takeWhile fun byte => decide (byte ≠ 0)

inductive Turn where
  | write (buf : List UInt8)
  | store
  | thread
deriving DecidableEq

/-- `BBBBB_debug_store`, one statement at a time. -/
def Sdd.storeStep (sdd : Sdd) (buf : List UInt8) : StorePc → Sdd
  | .memset =>
      { sdd with
        data := List.replicate sizeofData 0
        store := some (.memcpy, buf) }
  | .memcpy =>
      { sdd with
        data := buf ++ sdd.data.drop buf.length
        store := some (.setCondition, buf) }
  | .setCondition =>
      { sdd with gCondition := true, store := some (.wakeUp, buf) }
  | .wakeUp =>
      { sdd with
        thread := if sdd.thread = .asleep then .wait else sdd.thread
        store := none
        stored := sdd.stored ++ [buf] }

/-- `A_test_kthread`, which no signal interrupts. -/
def Sdd.threadStep (sdd : Sdd) : Option Sdd :=
  match sdd.thread with
  | .wait =>
      some { sdd with thread := if sdd.gCondition then .clear else .asleep }
  | .asleep => none
  | .clear => some { sdd with gCondition := false, thread := .printk }
  | .printk =>
      some { sdd with log := sdd.log ++ [string sdd.data], thread := .wait }

/-- Stores come one after the other. -/
def Sdd.step (sdd : Sdd) : Turn → Option Sdd
  | .write buf =>
      if sdd.store = none then some { sdd with store := some (.memset, buf) }
      else none
  | .store => sdd.store.map fun store => sdd.storeStep store.2 store.1
  | .thread => sdd.threadStep

/-- What is written leaves room for the NUL. -/
def Fits (_ : Sdd) : Turn → Prop
  | .write buf => buf.length < sizeofData
  | _ => True

instance decidableFits : (sdd : Sdd) → (turn : Turn) → Decidable (Fits sdd turn)
  | _, .write buf => inferInstanceAs (Decidable (buf.length < sizeofData))
  | _, .store => isTrue trivial
  | _, .thread => isTrue trivial

/-- The thread still has to read the data, or has read them last. -/
def Sdd.Seen (sdd : Sdd) : Prop :=
  sdd.gCondition = true ∨ sdd.thread = .clear ∨ sdd.thread = .printk ∨
    sdd.log.getLast? = some (string sdd.data)

/-- What is known of a store at each of its statements, and between stores. -/
def Sdd.Stage (sdd : Sdd) : Prop :=
  match sdd.store with
  | none => ∀ last, sdd.stored.getLast? = some last →
      string sdd.data = string last ∧ sdd.Seen
  | some (.memset, buf) => buf.length < sizeofData
  | some (.memcpy, buf) =>
      buf.length < sizeofData ∧ sdd.data = List.replicate sizeofData 0
  | some (.setCondition, buf) => string sdd.data = string buf
  | some (.wakeUp, buf) => string sdd.data = string buf ∧ sdd.Seen

/-- A thread that sleeps although the condition is set is about to be woken. -/
structure Attentive (sdd : Sdd) : Prop where
  stage : sdd.Stage
  woken : sdd.thread = .asleep → sdd.gCondition = true →
    ∃ buf, sdd.store = some (.wakeUp, buf)

section Attentive

variable {sdd next : Sdd}

theorem string_append_zero (buf rest : List UInt8) :
    string (buf ++ 0 :: rest) = string buf := by
  induction buf with
  | nil => rfl
  | cons byte buf induction =>
      simp only [string, List.cons_append, List.takeWhile_cons] at induction ⊢
      rw [induction]

theorem string_copied {buf : List UInt8} (fits : buf.length < sizeofData) :
    string (buf ++ (List.replicate sizeofData 0).drop buf.length) =
      string buf := by
  obtain ⟨rest, zeros⟩ : ∃ rest, sizeofData - buf.length = rest + 1 :=
    ⟨_, (Nat.succ_pred_eq_of_pos (Nat.sub_pos_of_lt fits)).symm⟩
  rw [List.drop_replicate, zeros, List.replicate_succ]
  exact string_append_zero buf _

theorem attentive_start : Attentive .start where
  stage := by
    intro last stored
    cases stored
  woken := by
    intro asleep
    cases asleep

/-- The condition is set before the wake-up, so a thread that goes to sleep
without it is woken later. -/
theorem Attentive.storeStep (attentive : Attentive sdd) {pc : StorePc}
    {buf : List UInt8} (under : sdd.store = some (pc, buf)) :
    Attentive (sdd.storeStep buf pc) := by
  obtain ⟨stage, woken⟩ := attentive
  rw [Sdd.Stage, under] at stage
  cases pc with
  | memset =>
      constructor
      · exact ⟨stage, rfl⟩
      · intro asleep set
        obtain ⟨other, waking⟩ := woken asleep set
        rw [under] at waking
        cases waking
  | memcpy =>
      obtain ⟨fits, zero⟩ := stage
      constructor
      · simp only [Sdd.Stage, Sdd.storeStep, zero]
        exact string_copied fits
      · intro asleep set
        obtain ⟨other, waking⟩ := woken asleep set
        rw [under] at waking
        cases waking
  | setCondition =>
      constructor
      · exact ⟨stage, .inl rfl⟩
      · intro _ _
        exact ⟨buf, rfl⟩
  | wakeUp =>
      obtain ⟨copied, seen⟩ := stage
      constructor
      · intro last stored
        simp only [Sdd.storeStep, List.getLast?_concat,
          Option.some.injEq] at stored
        rw [← stored]
        refine ⟨copied, seen.imp_right fun seen => ?_⟩
        refine seen.imp (fun clear => ?_) (.imp_left fun printk => ?_)
        · exact (if_neg (by simp [clear])).trans clear
        · exact (if_neg (by simp [printk])).trans printk
      · intro asleep
        simp only [Sdd.storeStep] at asleep
        split at asleep
        · cases asleep
        · contradiction

theorem Sdd.Seen.threadStep (seen : sdd.Seen)
    (taken : sdd.threadStep = some next) : next.Seen := by
  rw [Sdd.threadStep] at taken
  split at taken
  · cases taken
    rename_i waits
    rcases seen with set | clear | printk | logged
    · exact .inl set
    · exact absurd clear (by simp [waits])
    · exact absurd printk (by simp [waits])
    · exact .inr (.inr (.inr logged))
  · cases taken
  · cases taken
    exact .inr (.inr (.inl rfl))
  · cases taken
    exact .inr (.inr (.inr (by simp)))

theorem threadStep_keeps (taken : sdd.threadStep = some next) :
    next.data = sdd.data ∧ next.store = sdd.store ∧
      next.stored = sdd.stored := by
  rw [Sdd.threadStep] at taken
  split at taken <;> cases taken <;> exact ⟨rfl, rfl, rfl⟩

theorem threadStep_asleep (taken : sdd.threadStep = some next)
    (asleep : next.thread = .asleep) : next.gCondition = false := by
  rw [Sdd.threadStep] at taken
  split at taken <;> cases taken <;> simp at asleep ⊢
  exact asleep

theorem Attentive.threadStep (attentive : Attentive sdd)
    (taken : sdd.threadStep = some next) : Attentive next := by
  obtain ⟨stage, woken⟩ := attentive
  obtain ⟨data, store, stored⟩ := threadStep_keeps taken
  constructor
  · rw [Sdd.Stage, store, data, stored]
    rw [Sdd.Stage] at stage
    split at stage
    · intro last latest
      obtain ⟨copied, seen⟩ := stage last latest
      exact ⟨copied, seen.threadStep taken⟩
    · exact stage
    · exact stage
    · exact stage
    · exact ⟨stage.1, stage.2.threadStep taken⟩
  · intro asleep set
    rw [threadStep_asleep taken asleep] at set
    cases set

theorem Attentive.step (attentive : Attentive sdd) {turn : Turn}
    (fits : Fits sdd turn) (taken : sdd.step turn = some next) :
    Attentive next := by
  cases turn with
  | write buf =>
      obtain ⟨idle, taken⟩ := Option.ite_none_right_eq_some.mp taken
      cases taken
      constructor
      · exact fits
      · intro asleep set
        obtain ⟨other, waking⟩ := attentive.woken asleep set
        rw [idle] at waking
        cases waking
  | store =>
      obtain ⟨⟨pc, buf⟩, under, same⟩ := Option.map_eq_some_iff.mp taken
      rw [← same]
      exact attentive.storeStep under
  | thread => exact attentive.threadStep taken

theorem attentive_run {turns : List Turn}
    (run : Run Sdd.step Fits .start turns sdd) : Attentive sdd := by
  apply run.invariant attentive_start
  intro state turn next attentive fits taken
  exact attentive.step fits taken

/-- A thread that sleeps between stores has read what was stored last. -/
theorem Attentive.read (attentive : Attentive sdd) (idle : sdd.store = none)
    {last : List UInt8} (stored : sdd.stored.getLast? = some last)
    (asleep : sdd.thread = .asleep) :
    sdd.log.getLast? = some (string last) := by
  have stage := attentive.stage
  rw [Sdd.Stage, idle] at stage
  obtain ⟨copied, seen⟩ := stage last stored
  rw [← copied]
  rcases seen with set | clear | printk | logged
  · obtain ⟨buf, waking⟩ := attentive.woken asleep set
    rw [idle] at waking
    cases waking
  · exact absurd clear (by simp [asleep])
  · exact absurd printk (by simp [asleep])
  · exact logged

/-- Left alone for at most so many turns the thread goes to sleep. -/
def Sdd.Sleeps (sdd : Sdd) (count : Nat) : Prop :=
  ∃ turns ≤ count, ∃ final,
    Run Sdd.step (fun _ _ => True) sdd (List.replicate turns .thread) final ∧
      final.thread = .asleep

theorem Sdd.Sleeps.earlier {count : Nat} (taken : sdd.threadStep = some next)
    (sleeps : next.Sleeps count) : sdd.Sleeps (count + 1) := by
  obtain ⟨turns, few, final, run, asleep⟩ := sleeps
  refine ⟨turns + 1, Nat.succ_le_succ few, final, ?_, asleep⟩
  have first : Run Sdd.step (fun _ _ => True) sdd [.thread] next :=
    .snoc .nil trivial taken
  exact first.trans run

theorem Sdd.Sleeps.mono {count more : Nat} (sleeps : sdd.Sleeps count)
    (le : count ≤ more) : sdd.Sleeps more := by
  obtain ⟨turns, few, rest⟩ := sleeps
  exact ⟨turns, Nat.le_trans few le, rest⟩

theorem sleeps_clear (clear : sdd.thread = .clear) : sdd.Sleeps 3 := by
  have first : sdd.threadStep =
      some { sdd with gCondition := false, thread := .printk } := by
    rw [Sdd.threadStep, clear]
  refine .earlier first (.earlier rfl (.earlier rfl ?_))
  exact ⟨0, Nat.le_refl 0, _, .nil, rfl⟩

theorem sleeps_wait (wait : sdd.thread = .wait) : sdd.Sleeps 4 := by
  have first : sdd.threadStep = some { sdd with
      thread := if sdd.gCondition then .clear else .asleep } := by
    rw [Sdd.threadStep, wait]
  refine .earlier first ?_
  cases set : sdd.gCondition with
  | true => exact sleeps_clear rfl
  | false => exact ⟨0, Nat.zero_le 3, _, .nil, rfl⟩

theorem sleeps (sdd : Sdd) : sdd.Sleeps 5 := by
  cases here : sdd.thread with
  | wait => exact (sleeps_wait here).mono (by decide)
  | asleep => exact ⟨0, Nat.zero_le 5, sdd, .nil, here⟩
  | clear => exact (sleeps_clear here).mono (by decide)
  | printk =>
      have first : sdd.threadStep = some { sdd with
          log := sdd.log ++ [string sdd.data], thread := .wait } := by
        rw [Sdd.threadStep, here]
      exact .earlier first (sleeps_wait rfl)

theorem Attentive.alone (attentive : Attentive sdd) (idle : sdd.store = none)
    {count : Nat} {final : Sdd}
    (run : Run Sdd.step (fun _ _ => True) sdd (List.replicate count .thread)
      final) :
    Attentive final ∧ final.store = none ∧ final.stored = sdd.stored := by
  induction count generalizing final with
  | zero =>
      rw [← run.of_nil]
      exact ⟨attentive, idle, rfl⟩
  | succ count induction =>
      rw [List.replicate_succ'] at run
      obtain ⟨middle, run, taken⟩ := run.of_snoc
      obtain ⟨here, rests, same⟩ := induction run
      obtain ⟨-, store, stored⟩ := threadStep_keeps taken
      exact ⟨here.threadStep taken, store.trans rests, stored.trans same⟩

/-- What is stored last is printed.  However the stores and the thread take
turns, between stores a thread that sleeps has printed it last, and a thread
that does not will have, within five turns of its own. -/
theorem last_store_printed {turns : List Turn} {last : List UInt8}
    (run : Run Sdd.step Fits .start turns sdd) (idle : sdd.store = none)
    (stored : sdd.stored.getLast? = some last) :
    (sdd.thread = .asleep → sdd.log.getLast? = some (string last)) ∧
      ∃ count ≤ 5, ∃ final,
        Run Sdd.step (fun _ _ => True) sdd (List.replicate count .thread)
          final ∧
        final.thread = .asleep ∧ final.log.getLast? = some (string last) := by
  have attentive := attentive_run run
  refine ⟨attentive.read idle stored, ?_⟩
  obtain ⟨count, few, final, alone, asleep⟩ := sleeps sdd
  obtain ⟨here, rests, same⟩ := attentive.alone idle alone
  refine ⟨count, few, final, alone, asleep, ?_⟩
  exact here.read rests (by rw [same]; exact stored) asleep

end Attentive

/-- The thread went to sleep before anything was stored, and the store has
woken it. -/
theorem last_store_printed_woken :
    ∃ count ≤ 5, ∃ final,
      Run Sdd.step (fun _ _ => True)
        { Sdd.start with
          data := 104 :: (List.replicate sizeofData 0).drop 1
          gCondition := true, stored := [[104]] }
        (List.replicate count .thread) final ∧
      final.thread = .asleep ∧ final.log.getLast? = some [104] :=
  (@last_store_printed
    { Sdd.start with
      data := 104 :: (List.replicate sizeofData 0).drop 1
      gCondition := true, stored := [[104]] }
    [.thread, .write [104], .store, .store, .store, .store] [104]
    (.of_execute rfl) rfl rfl).2

end KernelDrivers.Deferred
