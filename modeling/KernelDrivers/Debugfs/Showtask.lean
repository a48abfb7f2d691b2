import Mathlib.Dynamics.PeriodicPts.Lemmas
import KernelDrivers.Library.SeqFile
import Mathlib.Algebra.GroupWithZero.Nat

/-!
# The task list of showtask

The iterator of `seq_test2.c` over the ring of tasks.  `start` walks the ring
from its head, `next` recognizes the end by coming back to it.
-/

namespace KernelDrivers.Debugfs

open KernelDrivers.Library

/-- The circular list of tasks; `initTask` is its head, with which the
iterator starts. -/
structure TaskRing (Task : Type) where
  nextTask : Task → Task
  initTask : Task
  circular : initTask ∈ Function.periodicPts nextTask

/-- Three tasks, the last of which leads back to the head. -/
def threeTasks : TaskRing (Fin 3) where
  nextTask task := task + 1
  initTask := 0
  circular := ⟨3, by decide, by decide⟩

variable {Task : Type} [DecidableEq Task] (ring : TaskRing Task)

/-- `for (i = 0, task = head; i < n; i++) task = next_task(task)`. -/
def walk : Nat → Task → Task
  | 0, task => task
  | n + 1, task => walk n (ring.nextTask task)

/-- `myseq_start`.  The heading that it prints at position 0 is not an
element. -/
def myseqStart (pos : Nat) : Option Task :=
  if pos = 0 then some ring.initTask
  else
    let task := walk ring pos ring.initTask
    if task = ring.initTask then none else some task

/-- `myseq_next`. -/
def myseqNext (element : Task) (pos : Nat) : Option Task × Nat :=
  let task := ring.nextTask element
  let pos := pos + 1
  if pos ≠ 0 ∧ task = ring.initTask then (none, pos) else (some task, pos)

def myseqSops : SeqOperations Task :=
  { start := myseqStart ring
    next := myseqNext ring }

/-- A read of the file from its beginning, by where its sessions are cut off:
the tasks delivered and the position after them. -/
def readShowtask (cuts : List Nat) : List Task × Nat :=
  (myseqSops ring).sessions 0 cuts

namespace TaskRing

variable {ring}

omit [DecidableEq Task]

/-- The number of tasks. -/
noncomputable def size (ring : TaskRing Task) : Nat :=
  Function.minimalPeriod ring.nextTask ring.initTask

/-- The tasks in the order of the ring. -/
noncomputable def tasks (ring : TaskRing Task) : List Task :=
  (List.range ring.size).map fun k => ring.nextTask^[k] ring.initTask

theorem size_pos : 0 < ring.size :=
  Function.minimalPeriod_pos_of_mem_periodicPts ring.circular

theorem length_tasks : ring.tasks.length = ring.size := by
  simp [tasks]

theorem tasks_get {k : Nat} (inside : k < ring.size) :
    ring.tasks[k]? = some (ring.nextTask^[k] ring.initTask) := by
  simp [tasks, inside]

theorem tasks_end : ring.tasks[ring.size]? = none := by
  simp [tasks]

theorem iterate_eq_head {k : Nat} (atMost : k ≤ ring.size) (some : k ≠ 0) :
    ring.nextTask^[k] ring.initTask = ring.initTask ↔ k = ring.size := by
  constructor
  · intro back
    have whole : ring.size ∣ k :=
      Function.isPeriodicPt_iff_minimalPeriod_dvd.mp back
    exact Nat.le_antisymm atMost (Nat.le_of_dvd (Nat.pos_of_ne_zero some) whole)
  · rintro rfl
    exact Function.iterate_minimalPeriod

theorem size_threeTasks : threeTasks.size = 3 := by
  apply Function.minimalPeriod_eq_prime
  · exact (by decide : threeTasks.nextTask^[3] 0 = 0)
  · exact (by decide : threeTasks.nextTask 0 ≠ 0)

theorem mem_tasks {task : Task} :
    task ∈ ring.tasks ↔ ∃ k, task = ring.nextTask^[k] ring.initTask := by
  constructor
  · intro listed
    obtain ⟨k, -, rfl⟩ := List.mem_map.mp listed
    exact ⟨k, rfl⟩
  · rintro ⟨k, rfl⟩
    apply List.mem_map.mpr
    refine ⟨k % ring.size, List.mem_range.mpr (Nat.mod_lt _ ring.size_pos), ?_⟩
    exact Function.iterate_mod_minimalPeriod_eq

theorem nodup_tasks : ring.tasks.Nodup := by
  refine List.Nodup.map_on ?_ List.nodup_range
  intro first inFirst second inSecond same
  exact Function.iterate_injOn_Iio_minimalPeriod (List.mem_range.mp inFirst)
    (List.mem_range.mp inSecond) same

end TaskRing

omit [DecidableEq Task] in
theorem walk_eq (n : Nat) (task : Task) :
    walk ring n task = ring.nextTask^[n] task := by
  induction n generalizing task with
  | zero => rfl
  | succ n induction => rw [walk, induction, Function.iterate_succ_apply]

theorem myseqStart_eq {pos : Nat} (atMost : pos ≤ ring.size) :
    myseqStart ring pos = ring.tasks[pos]? := by
  have some := ring.size_pos
  unfold myseqStart
  split
  · rename_i first
    rw [first]
    exact (ring.tasks_get some).symm
  · rename_i later
    have back := ring.iterate_eq_head atMost later
    rw [walk_eq]
    by_cases ended : pos = ring.size
    · rw [if_pos (back.mpr ended), ended, ring.tasks_end]
    · rw [if_neg (mt back.mp ended), ring.tasks_get (by omega)]

theorem myseqNext_eq {pos : Nat} {element : Task}
    (current : ring.tasks[pos]? = some element) :
    myseqNext ring element pos = (ring.tasks[pos + 1]?, pos + 1) := by
  have inside : pos < ring.size := by
    rw [← ring.length_tasks]
    exact (List.getElem?_eq_some_iff.mp current).1
  obtain rfl : ring.nextTask^[pos] ring.initTask = element :=
    Option.some.inj ((ring.tasks_get inside).symm.trans current)
  have moved : pos + 1 ≠ 0 := Nat.succ_ne_zero pos
  have back := ring.iterate_eq_head inside moved
  unfold myseqNext
  rw [← Function.iterate_succ_apply' ring.nextTask]
  by_cases ended : pos + 1 = ring.size
  · rw [if_pos ⟨moved, back.mpr ended⟩, ended, ring.tasks_end]
  · rw [if_neg (fun met => ended (back.mp met.2)), ring.tasks_get (by omega)]

theorem myseqSops_enumerates : (myseqSops ring).Enumerates ring.tasks := by
  refine ⟨?_, ?_⟩
  · intro pos atMost
    rw [ring.length_tasks] at atMost
    exact myseqStart_eq ring atMost
  · intro pos element current
    exact myseqNext_eq ring current

/-- Wherever the sessions of a read are cut off, the tasks come in the order of
the ring, each of them once; a read ends at the position after the last task,
and from there no session delivers anything. -/
theorem showtask_lists_ring (cuts : List Nat) :
    ring.tasks.Nodup ∧ ring.tasks[0]? = some ring.initTask ∧
      (∀ task, task ∈ ring.tasks ↔
        ∃ k, task = ring.nextTask^[k] ring.initTask) ∧
      (readShowtask ring cuts).1 =
        ring.tasks.take (readShowtask ring cuts).2 ∧
      (readShowtask ring cuts).2 = min cuts.sum ring.size ∧
      (myseqStart ring (readShowtask ring cuts).2 = none ↔
        (readShowtask ring cuts).2 = ring.size) ∧
      ((readShowtask ring cuts).2 = ring.size →
        (readShowtask ring cuts).1 = ring.tasks) ∧
      ∀ more, (myseqSops ring).sessions ring.size more = ([], ring.size) := by
  have enumerates := myseqSops_enumerates ring
  have whole := enumerates.sessions cuts (Nat.zero_le _)
  rw [readShowtask, whole, ring.length_tasks, List.drop_zero, Nat.zero_add]
  dsimp only
  have ended := myseqStart_eq ring (Nat.min_le_right cuts.sum ring.size)
  refine ⟨ring.nodup_tasks, ring.tasks_get ring.size_pos,
    fun _ => ring.mem_tasks, ?_, rfl, ?_, ?_, ?_⟩
  · rw [← ring.length_tasks, List.take_eq_take_min]
  · rw [ended, List.getElem?_eq_none_iff, ring.length_tasks]
    omega
  · intro all
    apply List.take_of_length_le
    rw [ring.length_tasks]
    omega
  · intro more
    have beyond := enumerates.sessions more (Nat.le_refl _)
    rw [List.drop_length, List.take_nil, ring.length_tasks] at beyond
    rw [beyond, Nat.min_eq_right (Nat.le_add_right _ _)]

/-- Two sessions, the first cut off behind the second task, list all three. -/
theorem showtask_lists_ring_threeTasks :
    (readShowtask threeTasks [2, 5]).1 = threeTasks.tasks ∧
      threeTasks.tasks.length = 3 ∧ threeTasks.tasks.Nodup ∧
      myseqStart threeTasks (readShowtask threeTasks [2, 5]).2 = none := by
  have three := TaskRing.size_threeTasks
  obtain ⟨nodup, -, -, -, position, ended, whole, -⟩ :=
    showtask_lists_ring threeTasks [2, 5]
  have last : (readShowtask threeTasks [2, 5]).2 = threeTasks.size := by
    rw [position, three]
    decide
  exact ⟨whole last, threeTasks.length_tasks.trans three, nodup, ended.mpr last⟩

end KernelDrivers.Debugfs
