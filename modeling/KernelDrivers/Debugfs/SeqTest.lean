import KernelDrivers.Library.SeqFile
import KernelDrivers.Library.Transition
import Mathlib.Data.List.Nodup

/-!
# Records that are added while they are read

`seq_test.c`: a write adds a record at the head of the list, a read goes on at
the position where the last one was cut off.  Both take the mutex.
-/

namespace KernelDrivers.Debugfs

open KernelDrivers.Library

/-- `seq_list_start`. -/
def seqListStart : List Nat → Nat → Option Nat
  | [], _ => none
  | record :: _, 0 => some record
  | _ :: records, pos + 1 => seqListStart records pos

/-- `seq_list_next`, from the record on. -/
def seqListNext : List Nat → Nat → Option Nat
  | [], _ => none
  | first :: records, record =>
      if first = record then records.head? else seqListNext records record

/-- `myseq_start` and `myseq_next` over a list of records, by their
addresses. -/
def myseqOps (head : List Nat) : SeqOperations Nat :=
  { start := fun pos => seqListStart head pos
    next := fun record pos => (seqListNext head record, pos + 1) }

theorem seqListStart_eq (head : List Nat) (pos : Nat) :
    seqListStart head pos = head[pos]? := by
  induction head generalizing pos with
  | nil => rfl
  | cons record head induction =>
      cases pos with
      | zero => rfl
      | succ pos =>
          rw [seqListStart, induction, List.getElem?_cons_succ]

theorem seqListNext_eq {head : List Nat} (nodup : head.Nodup) {pos record : Nat}
    (current : head[pos]? = some record) :
    seqListNext head record = head[pos + 1]? := by
  induction head generalizing pos with
  | nil => cases current
  | cons first head induction =>
      obtain ⟨apart, nodup⟩ := List.nodup_cons.mp nodup
      cases pos with
      | zero =>
          cases current
          rw [seqListNext, if_pos rfl, List.getElem?_cons_succ,
            List.head?_eq_getElem?]
      | succ pos =>
          rw [List.getElem?_cons_succ] at current
          have other : first ≠ record := by
            rintro rfl
            exact apart (List.mem_of_getElem? current)
          rw [seqListNext, if_neg other, induction nodup current,
            List.getElem?_cons_succ]

theorem myseqOps_enumerates {head : List Nat} (nodup : head.Nodup) :
    (myseqOps head).Enumerates head := by
  refine ⟨?_, ?_⟩
  · intro pos _
    exact seqListStart_eq head pos
  · intro pos record current
    exact congrArg (·, pos + 1) (seqListNext_eq nodup current)

/-- The next thing `add_one_record` does. -/
inductive WriterPc where
  | idle
  | kmalloc
  | setValue (record : Nat)
  | unlock
deriving DecidableEq

/-- An open file: its position, the element of a session that is under way, and
what was shown; beside them the list as it was when the reading began, and when
a session came to its end. -/
structure Reader where
  pos : Nat
  session : Option (Option Nat)
  shown : List (Nat × Option (BitVec 32))
  began : Option (List Nat)
  ended : Option (List Nat)

inductive Owner where
  | writer (thread : Nat)
  | reader (thread : Nat)
deriving DecidableEq

/-- The mutex, the list, and the values of the records, as far as they are
set. -/
structure SeqTest where
  lock : Option Owner
  head : List Nat
  value : Nat → Option (BitVec 32)
  allocated : Nat
  writers : Nat → WriterPc
  readers : Nat → Reader

def myseqOpen : Reader :=
  { pos := 0, session := none, shown := [], began := none, ended := none }

/-- `seq_test_init`, with the values of the records that could be allocated. -/
def SeqTest.init (values : List (BitVec 32)) : SeqTest :=
  { lock := none
    head := (List.range values.length).reverse
    value := fun record => values[record]?
    allocated := values.length
    writers := fun _ => .idle
    readers := fun _ => myseqOpen }

/-- `add_one_record`: whether `kmalloc` returns a record, and the random
value. -/
def SeqTest.addOneRecord (test : SeqTest) (thread : Nat) (allocates : Bool)
    (v : BitVec 32) : Option SeqTest :=
  let next (pc : WriterPc) := Function.update test.writers thread pc
  match test.writers thread with
  | .idle =>
      if test.lock = none then
        some { test with
          lock := some (.writer thread), writers := next .kmalloc }
      else none
  | .kmalloc =>
      if allocates then
        some { test with
          head := test.allocated :: test.head
          allocated := test.allocated + 1
          writers := next (.setValue test.allocated) }
      else some { test with writers := next .unlock }
  | .setValue record =>
      some { test with
        value := Function.update test.value record (some v)
        writers := next .unlock }
  | .unlock => some { test with lock := none, writers := next .idle }

/-- One call of the iterator, from `myseq_start` to `myseq_stop`; a session may
be cut off before an element. -/
def SeqTest.seqRead (test : SeqTest) (thread : Nat) (cut : Bool) :
    Option SeqTest :=
  let reader := test.readers thread
  let next (reader : Reader) := Function.update test.readers thread reader
  match reader.session with
  | none =>
      if test.lock = none then
        some { test with
          lock := some (.reader thread)
          readers := next { reader with
            session := some ((myseqOps test.head).start reader.pos)
            began := some (reader.began.getD test.head)
            ended := none } }
      else none
  | some none =>
      some { test with
        lock := none
        readers := next { reader with
          session := none, ended := some test.head } }
  | some (some record) =>
      if cut then
        some { test with
          lock := none, readers := next { reader with session := none } }
      else
        let following := (myseqOps test.head).next record reader.pos
        some { test with
          readers := next { reader with
            pos := following.2
            session := some following.1
            shown := reader.shown ++ [(record, test.value record)] } }

inductive SeqTurn where
  | write (thread : Nat) (allocates : Bool) (v : BitVec 32)
  | read (thread : Nat) (cut : Bool)
deriving DecidableEq

def SeqTest.step (test : SeqTest) : SeqTurn → Option SeqTest
  | .write thread allocates v => test.addOneRecord thread allocates v
  | .read thread cut => test.seqRead thread cut

/-- What was shown, by the addresses of the records. -/
def Reader.records (reader : Reader) : List Nat :=
  reader.shown.map Prod.fst

/-- Nothing of the list that a reader began with is lost: it was shown, or it
is still behind the position. -/
structure Reading (test : SeqTest) (reader : Reader) : Prop where
  length : reader.shown.length = reader.pos
  inside : reader.pos ≤ test.head.length
  fresh : reader.began = none → reader.pos = 0
  kept : ∀ first, reader.began = some first → first <:+ test.head ∧
    first.Sublist (reader.records ++ test.head.drop reader.pos)
  valued : ∀ record ∈ reader.shown,
    record.2 ≠ none ∧ test.value record.1 = record.2
  ended : ∀ last, reader.ended = some last → last.length = reader.pos ∧
    ∃ first, reader.began = some first ∧ first <:+ last ∧
      first.Sublist reader.records
  element : ∀ current, reader.session = some current →
    current = test.head[reader.pos]? ∧ reader.began ≠ none ∧
      reader.ended = none

/-- The mutex is taken by whoever is inside, and a record in the list has its
value unless its writer is. -/
structure Kept (test : SeqTest) : Prop where
  fresh : ∀ record ∈ test.head, record < test.allocated
  nodup : test.head.Nodup
  writer : ∀ thread, test.writers thread ≠ .idle ↔
    test.lock = some (.writer thread)
  reader : ∀ thread, (test.readers thread).session ≠ none ↔
    test.lock = some (.reader thread)
  valued : ∀ record ∈ test.head, test.value record = none →
    ∃ thread, test.writers thread = .setValue record
  unset : ∀ record, test.allocated ≤ record → test.value record = none
  written : ∀ thread record, test.writers thread = .setValue record →
    record ∈ test.head ∧ test.value record = none
  reading : ∀ thread, Reading test (test.readers thread)

section Kept

variable {test next : SeqTest} {thread : Nat}

theorem reading_open (test : SeqTest) : Reading test myseqOpen where
  length := rfl
  inside := Nat.zero_le _
  fresh := fun _ => rfl
  kept := nofun
  valued := nofun
  ended := nofun
  element := nofun

theorem kept_init (values : List (BitVec 32)) : Kept (.init values) where
  fresh := by
    intro record among
    exact List.mem_range.mp (List.mem_reverse.mp among)
  nodup := List.nodup_reverse.mpr List.nodup_range
  writer := fun _ => ⟨fun moved => absurd rfl moved, nofun⟩
  reader := fun _ => ⟨fun moved => absurd rfl moved, nofun⟩
  valued := by
    intro record among unset
    have below := List.mem_range.mp (List.mem_reverse.mp among)
    have beyond := List.getElem?_eq_none_iff.mp unset
    exact absurd below (Nat.not_lt.mpr beyond)
  unset := fun _ beyond => List.getElem?_eq_none_iff.mpr beyond
  written := nofun
  reading := fun _ => reading_open _

theorem Reading.congr {reader : Reader} (reading : Reading test reader)
    (head : next.head = test.head) (value : next.value = test.value) :
    Reading next reader := by
  obtain ⟨length, inside, fresh, kept, valued, ended, element⟩ := reading
  constructor
  · exact length
  · rw [head]
    exact inside
  · exact fresh
  · rw [head]
    exact kept
  · rw [value]
    exact valued
  · exact ended
  · rw [head]
    exact element

theorem drop_sublist_cons (record : Nat) (head : List Nat) (pos : Nat) :
    (head.drop pos).Sublist ((record :: head).drop pos) := by
  cases pos with
  | zero => exact List.sublist_cons_self record head
  | succ pos =>
      rw [List.drop_succ_cons, ← List.drop_drop]
      exact List.drop_sublist 1 _

/-- A new record at the head shifts what a reader still has to show. -/
theorem Reading.insert {reader : Reader} (reading : Reading test reader)
    (rests : reader.session = none) {record : Nat}
    (head : next.head = record :: test.head)
    (value : next.value = test.value) : Reading next reader := by
  obtain ⟨length, inside, fresh, kept, valued, ended, -⟩ := reading
  constructor
  · exact length
  · rw [head]
    exact Nat.le_succ_of_le inside
  · exact fresh
  · intro first began
    obtain ⟨suffix, sublist⟩ := kept first began
    rw [head]
    refine ⟨suffix.trans (List.suffix_cons _ _), sublist.trans ?_⟩
    exact (List.Sublist.refl _).append (drop_sublist_cons _ _ _)
  · rw [value]
    exact valued
  · exact ended
  · rw [rests]
    nofun

theorem Reading.setValue {reader : Reader} (reading : Reading test reader)
    {record : Nat} {v : BitVec 32} (unset : test.value record = none)
    (head : next.head = test.head)
    (value : next.value = Function.update test.value record (some v)) :
    Reading next reader := by
  obtain ⟨length, inside, fresh, kept, valued, ended, element⟩ := reading
  constructor
  · exact length
  · rw [head]
    exact inside
  · exact fresh
  · rw [head]
    exact kept
  · intro shown among
    obtain ⟨set, same⟩ := valued shown among
    have other : shown.1 ≠ record := by
      intro equal
      rw [equal, unset] at same
      exact set same.symm
    rw [value, Function.update_of_ne other]
    exact ⟨set, same⟩
  · exact ended
  · rw [head]
    exact element

theorem Kept.session_none (kept : Kept test)
    (unlocked : ∀ thread, test.lock ≠ some (.reader thread)) :
    (test.readers thread).session = none := by
  by_contra inside
  exact unlocked thread ((kept.reader thread).mp inside)

theorem Kept.writer_unique (kept : Kept test) {other : Nat}
    (inside : test.writers thread ≠ .idle)
    (also : test.writers other ≠ .idle) : other = thread := by
  have first := (kept.writer thread).mp inside
  have second := (kept.writer other).mp also
  rw [first] at second
  cases second
  rfl

theorem Kept.value_set (kept : Kept test) {record : Nat}
    (among : record ∈ test.head)
    (no : ∀ thread, test.writers thread ≠ .setValue record) :
    test.value record ≠ none := by
  intro unset
  obtain ⟨thread, sets⟩ := kept.valued record among unset
  exact no thread sets

theorem Kept.writer_update (kept : Kept test) {pc : WriterPc}
    (inside : test.writers thread ≠ .idle) (stays : pc ≠ .idle)
    (other : Nat) :
    Function.update test.writers thread pc other ≠ .idle ↔
      test.lock = some (.writer other) := by
  by_cases same : other = thread
  · rw [same, Function.update_self]
    exact ⟨fun _ => (kept.writer thread).mp inside, fun _ => stays⟩
  · rw [Function.update_of_ne same]
    exact kept.writer other

/-- Of a function that is changed where the one writer is, only the new value
can be a `setValue`. -/
theorem Kept.setValue_update (kept : Kept test) {pc : WriterPc}
    (inside : test.writers thread ≠ .idle) {other record : Nat}
    (sets : Function.update test.writers thread pc other = .setValue record) :
    other = thread ∧ pc = .setValue record := by
  by_cases same : other = thread
  · rw [same, Function.update_self] at sets
    exact ⟨same, sets⟩
  · rw [Function.update_of_ne same] at sets
    exact absurd (kept.writer_unique inside (by simp [sets])) same

theorem Kept.lock (kept : Kept test) (free : test.lock = none) :
    Kept { test with
      lock := some (.writer thread)
      writers := Function.update test.writers thread .kmalloc } := by
  have outside (other : Nat) : test.writers other = .idle := by
    by_contra inside
    have owner := (kept.writer other).mp inside
    rw [free] at owner
    cases owner
  constructor
  · exact kept.fresh
  · exact kept.nodup
  · intro other
    by_cases same : other = thread
    · rw [same]
      exact ⟨fun _ => rfl, fun _ => by simp⟩
    · constructor
      · intro inside
        dsimp only at inside
        rw [Function.update_of_ne same] at inside
        exact absurd (outside other) inside
      · intro owner
        cases owner
        exact absurd rfl same
  · intro other
    constructor
    · intro inside
      have owner := (kept.reader other).mp inside
      rw [free] at owner
      cases owner
    · nofun
  · intro record among unset
    exact absurd unset (kept.value_set among fun other => by simp [outside])
  · exact kept.unset
  · intro other record sets
    dsimp only at sets
    by_cases same : other = thread
    · rw [same, Function.update_self] at sets
      cases sets
    · rw [Function.update_of_ne same, outside] at sets
      cases sets
  · exact fun other => (kept.reading other).congr rfl rfl

theorem Kept.kmalloc (kept : Kept test)
    (here : test.writers thread = .kmalloc) :
    Kept { test with
      head := test.allocated :: test.head
      allocated := test.allocated + 1
      writers := Function.update test.writers thread
        (.setValue test.allocated) } := by
  have inside : test.writers thread ≠ .idle := by simp [here]
  have owner := (kept.writer thread).mp inside
  constructor
  · intro record among
    rcases List.mem_cons.mp among with same | among
    · rw [same]
      exact Nat.lt_succ_self _
    · exact Nat.lt_succ_of_lt (kept.fresh record among)
  · refine List.nodup_cons.mpr ⟨fun among => ?_, kept.nodup⟩
    exact absurd (kept.fresh _ among) (Nat.lt_irrefl _)
  · exact kept.writer_update inside nofun
  · exact kept.reader
  · intro record among unset
    rcases List.mem_cons.mp among with same | among
    · rw [same]
      exact ⟨thread, Function.update_self _ _ _⟩
    · refine absurd unset (kept.value_set among fun other sets => ?_)
      have same := kept.writer_unique inside
        (show test.writers other ≠ .idle by simp [sets])
      rw [same, here] at sets
      cases sets
  · exact fun record beyond => kept.unset record (Nat.le_of_succ_le beyond)
  · intro other record sets
    obtain ⟨-, same⟩ := kept.setValue_update inside sets
    cases same
    exact ⟨List.mem_cons_self, kept.unset _ (Nat.le_refl _)⟩
  · intro other
    refine (kept.reading other).insert ?_ rfl rfl
    exact kept.session_none fun reader => by simp [owner]

theorem Kept.unlocking (kept : Kept test)
    (inside : test.writers thread ≠ .idle)
    (no : ∀ record, test.writers thread ≠ .setValue record) :
    Kept { test with
      writers := Function.update test.writers thread .unlock } := by
  constructor
  · exact kept.fresh
  · exact kept.nodup
  · exact kept.writer_update inside nofun
  · exact kept.reader
  · intro record among unset
    refine absurd unset (kept.value_set among fun other sets => ?_)
    have same := kept.writer_unique inside
      (show test.writers other ≠ .idle by simp [sets])
    rw [same] at sets
    exact no record sets
  · exact kept.unset
  · intro other record sets
    cases (kept.setValue_update inside sets).2
  · exact fun other => (kept.reading other).congr rfl rfl

theorem Kept.setValue (kept : Kept test) {record : Nat}
    (here : test.writers thread = .setValue record) (v : BitVec 32) :
    Kept { test with
      value := Function.update test.value record (some v)
      writers := Function.update test.writers thread .unlock } := by
  have inside : test.writers thread ≠ .idle := by simp [here]
  obtain ⟨listed, unset⟩ := kept.written thread record here
  constructor
  · exact kept.fresh
  · exact kept.nodup
  · exact kept.writer_update inside nofun
  · exact kept.reader
  · intro other among missing
    dsimp only at missing
    by_cases same : other = record
    · rw [same, Function.update_self] at missing
      cases missing
    · rw [Function.update_of_ne same] at missing
      refine absurd missing (kept.value_set among fun writer sets => ?_)
      have only := kept.writer_unique inside
        (show test.writers writer ≠ .idle by simp [sets])
      rw [only, here] at sets
      cases sets
      exact same rfl
  · intro other beyond
    have below := kept.fresh record listed
    have apart : other ≠ record :=
      Nat.ne_of_gt (Nat.lt_of_lt_of_le below beyond)
    dsimp only
    rw [Function.update_of_ne apart]
    exact kept.unset other beyond
  · intro other written sets
    cases (kept.setValue_update inside sets).2
  · exact fun other => (kept.reading other).setValue unset rfl rfl

theorem Kept.unlock (kept : Kept test)
    (here : test.writers thread = .unlock) :
    Kept { test with
      lock := none
      writers := Function.update test.writers thread .idle } := by
  have inside : test.writers thread ≠ .idle := by simp [here]
  have owner := (kept.writer thread).mp inside
  have no : ∀ other record, test.writers other ≠ .setValue record := by
    intro other record sets
    have same := kept.writer_unique inside
      (show test.writers other ≠ .idle by simp [sets])
    rw [same, here] at sets
    cases sets
  constructor
  · exact kept.fresh
  · exact kept.nodup
  · intro other
    refine ⟨fun also => ?_, nofun⟩
    dsimp only at also
    by_cases same : other = thread
    · rw [same, Function.update_self] at also
      exact absurd rfl also
    · rw [Function.update_of_ne same] at also
      exact absurd (kept.writer_unique inside also) same
  · intro other
    refine ⟨fun also => ?_, nofun⟩
    have other := (kept.reader other).mp also
    rw [owner] at other
    cases other
  · intro record among unset
    exact absurd unset (kept.value_set among fun other => no other record)
  · exact kept.unset
  · intro other record sets
    cases (kept.setValue_update inside sets).2
  · exact fun other => (kept.reading other).congr rfl rfl

theorem Kept.addOneRecord (kept : Kept test) {allocates : Bool}
    {v : BitVec 32}
    (taken : test.addOneRecord thread allocates v = some next) : Kept next := by
  rw [SeqTest.addOneRecord] at taken
  split at taken
  · obtain ⟨free, taken⟩ := Option.ite_none_right_eq_some.mp taken
    cases taken
    exact kept.lock free
  · rename_i here
    split at taken <;> cases taken
    · exact kept.kmalloc here
    · exact kept.unlocking (by simp [here]) (by simp [here])
  · rename_i record here
    cases taken
    exact kept.setValue here v
  · rename_i here
    cases taken
    exact kept.unlock here

section Reading

variable {reader : Reader}

theorem Reading.start (reading : Reading test reader)
    (nodup : test.head.Nodup) :
    Reading test { reader with
      session := some ((myseqOps test.head).start reader.pos)
      began := some (reader.began.getD test.head)
      ended := none } := by
  obtain ⟨length, inside, fresh, kept, valued, -, -⟩ := reading
  constructor
  · exact length
  · exact inside
  · nofun
  · intro first began
    cases began
    cases before : reader.began with
    | none =>
        have first := fresh before
        rw [Option.getD_none, first]
        exact ⟨List.suffix_rfl, List.sublist_append_right _ _⟩
    | some first => exact kept first before
  · exact valued
  · nofun
  · intro current session
    cases session
    exact ⟨(myseqOps_enumerates nodup).start reader.pos inside, nofun, rfl⟩

theorem Reading.cut (reading : Reading test reader)
    (ended : reader.ended = none) :
    Reading test { reader with session := none } := by
  obtain ⟨length, inside, fresh, kept, valued, -, -⟩ := reading
  refine ⟨length, inside, fresh, kept, valued, ?_, nofun⟩
  rw [ended]
  nofun

theorem Reading.stop (reading : Reading test reader)
    (session : reader.session = some none) :
    Reading test { reader with session := none, ended := some test.head } := by
  obtain ⟨length, inside, fresh, kept, valued, -, element⟩ := reading
  obtain ⟨beyond, began, -⟩ := element none session
  have passed := List.getElem?_eq_none_iff.mp beyond.symm
  refine ⟨length, inside, fresh, kept, valued, ?_, nofun⟩
  intro last ended
  cases ended
  obtain ⟨first, began⟩ := Option.ne_none_iff_exists'.mp began
  obtain ⟨suffix, sublist⟩ := kept first began
  rw [List.drop_eq_nil_of_le passed, List.append_nil] at sublist
  exact ⟨Nat.le_antisymm passed inside, first, began, suffix, sublist⟩

theorem Reading.show (reading : Reading test reader)
    (nodup : test.head.Nodup) {record : Nat}
    (session : reader.session = some (some record))
    (set : test.value record ≠ none) :
    Reading test { reader with
      pos := ((myseqOps test.head).next record reader.pos).2
      session := some ((myseqOps test.head).next record reader.pos).1
      shown := reader.shown ++ [(record, test.value record)] } := by
  obtain ⟨length, -, -, kept, valued, -, element⟩ := reading
  obtain ⟨current, began, ended⟩ := element (some record) session
  obtain ⟨below, here⟩ := List.getElem?_eq_some_iff.mp current.symm
  rw [(myseqOps_enumerates nodup).next reader.pos record current.symm]
  constructor
  · rw [List.length_append, length]
    rfl
  · exact below
  · exact fun none => absurd none began
  · intro first before
    obtain ⟨suffix, sublist⟩ := kept first before
    refine ⟨suffix, ?_⟩
    rw [List.drop_eq_getElem_cons below, here] at sublist
    simpa [Reader.records] using sublist
  · intro shown among
    rcases List.mem_append.mp among with before | last
    · exact valued shown before
    · cases List.mem_singleton.mp last
      exact ⟨set, rfl⟩
  · rw [ended]
    nofun
  · intro current session
    cases session
    exact ⟨rfl, began, ended⟩

end Reading

/-- The mutex passes between nobody and a reader, and only that one moves. -/
theorem Kept.of_reader (kept : Kept test) {lock : Option Owner}
    {reader : Reader} (reading : Reading test reader)
    (before : test.lock = none ∨ test.lock = some (.reader thread))
    (after : lock = none ∧ reader.session = none ∨
      lock = some (.reader thread) ∧ reader.session ≠ none) :
    Kept { test with
      lock, readers := Function.update test.readers thread reader } := by
  constructor
  · exact kept.fresh
  · exact kept.nodup
  · intro other
    constructor
    · intro inside
      have owner := (kept.writer other).mp inside
      rcases before with free | taken
      · rw [free] at owner
        cases owner
      · rw [taken] at owner
        cases owner
    · intro owner
      dsimp only at owner
      rcases after with ⟨free, -⟩ | ⟨taken, -⟩
      · rw [free] at owner
        cases owner
      · rw [taken] at owner
        cases owner
  · intro other
    dsimp only
    by_cases same : other = thread
    · rw [same, Function.update_self]
      rcases after with ⟨free, rests⟩ | ⟨taken, inside⟩
      · simp [free, rests]
      · simp [taken, inside]
    · have outside : (test.readers other).session = none := by
        by_contra inside
        have owner := (kept.reader other).mp inside
        rcases before with free | taken
        · rw [free] at owner
          cases owner
        · rw [taken] at owner
          cases owner
          exact same rfl
      have apart : thread ≠ other := fun equal => same equal.symm
      rw [Function.update_of_ne same]
      rcases after with ⟨free, -⟩ | ⟨taken, -⟩
      · simp [free, outside]
      · simp [taken, outside, apart]
  · exact kept.valued
  · exact kept.unset
  · exact kept.written
  · intro other
    dsimp only
    by_cases same : other = thread
    · rw [same, Function.update_self]
      exact reading.congr rfl rfl
    · rw [Function.update_of_ne same]
      exact (kept.reading other).congr rfl rfl

theorem Kept.seqRead (kept : Kept test) {cut : Bool}
    (taken : test.seqRead thread cut = some next) : Kept next := by
  have reading := kept.reading thread
  rw [SeqTest.seqRead] at taken
  split at taken
  · obtain ⟨free, taken⟩ := Option.ite_none_right_eq_some.mp taken
    cases taken
    exact kept.of_reader (reading.start kept.nodup) (.inl free)
      (.inr ⟨rfl, nofun⟩)
  · rename_i session
    cases taken
    have owner := (kept.reader thread).mp (by simp [session])
    exact kept.of_reader (reading.stop session) (.inr owner) (.inl ⟨rfl, rfl⟩)
  · rename_i record session
    have owner := (kept.reader thread).mp (by simp [session])
    obtain ⟨current, -, ended⟩ := reading.element _ session
    split at taken <;> cases taken
    · exact kept.of_reader (reading.cut ended) (.inr owner) (.inl ⟨rfl, rfl⟩)
    · have set : test.value record ≠ none := by
        apply kept.value_set (List.mem_of_getElem? current.symm)
        intro writer sets
        have also := (kept.writer writer).mp (by simp [sets])
        rw [owner] at also
        cases also
      have here := kept.of_reader (reading.show kept.nodup session set)
        (.inr owner) (.inr ⟨owner, nofun⟩)
      exact here

theorem Kept.step (kept : Kept test) {turn : SeqTurn}
    (taken : test.step turn = some next) : Kept next := by
  cases turn with
  | write thread allocates v => exact kept.addOneRecord taken
  | read thread cut => exact kept.seqRead taken

theorem kept_run {values : List (BitVec 32)} {turns : List SeqTurn}
    (run : Run SeqTest.step (fun _ _ => True) (.init values) turns test) :
    Kept test := by
  apply run.invariant (kept_init values)
  intro test turn next kept _ taken
  exact kept.step taken

/-- A reader misses nothing.  Whatever is added while it reads, what a reader
that came to the end has shown are as many records as the list had then, among
them, in their order, all those that the list had when the reading began; and
each was shown with its value. -/
theorem reader_misses_nothing {values : List (BitVec 32)}
    {turns : List SeqTurn} {last : List Nat}
    (run : Run SeqTest.step (fun _ _ => True) (.init values) turns test)
    (ended : (test.readers thread).ended = some last) :
    ∃ first, (test.readers thread).began = some first ∧ first <:+ last ∧
      first.Sublist (test.readers thread).records ∧
      (test.readers thread).records.length = last.length ∧
      (first = last → (test.readers thread).records = first) ∧
      ∀ record ∈ (test.readers thread).shown,
        record.2 ≠ none ∧ test.value record.1 = record.2 := by
  have reading := (kept_run run).reading thread
  obtain ⟨all, first, began, suffix, sublist⟩ := reading.ended last ended
  have length : (test.readers thread).records.length = last.length := by
    rw [Reader.records, List.length_map, reading.length, all]
  refine ⟨first, began, suffix, sublist, length, ?_, reading.valued⟩
  intro same
  exact (sublist.eq_of_length (by rw [length, same])).symm

end Kept

/-- A record is added after one was shown, which is then shown again. -/
def shiftedRead : List SeqTurn :=
  [.read 0 false, .read 0 false, .read 0 true, .write 0 true 9, .write 0 true 9,
    .write 0 true 9, .write 0 true 9, .read 0 false, .read 0 false,
    .read 0 false, .read 0 false]

theorem reader_misses_nothing_shifted :
    ∃ test : SeqTest, ∃ first, (test.readers 0).began = some first ∧
      first <:+ [2, 1, 0] ∧ first.Sublist (test.readers 0).records ∧
      (test.readers 0).records.length = [2, 1, 0].length ∧
      (first = [2, 1, 0] → (test.readers 0).records = first) ∧
      ∀ record ∈ (test.readers 0).shown,
        record.2 ≠ none ∧ test.value record.1 = record.2 := by
  have passed : (execute SeqTest.step (fun _ _ => True) (.init [7, 8])
      shiftedRead).any (fun test =>
        decide ((test.readers 0).ended = some [2, 1, 0])) = true := rfl
  obtain ⟨test, run, ended⟩ := Run.exists_of_execute passed
  exact ⟨test, reader_misses_nothing run (of_decide_eq_true ended)⟩

end KernelDrivers.Debugfs
