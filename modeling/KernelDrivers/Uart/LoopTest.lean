import KernelDrivers.Library.Transition
import KernelDrivers.Uart.Record

/-!
# Both threads of the loopback test

`uart_loop_test.c`: one thread writes the alphabet to the line again and again,
another one writes what comes back to a file, and `main` compares their counts.
-/

namespace KernelDrivers.Uart

open KernelDrivers.Library

abbrev dataNr : Nat := 500

/-- `data_size`. -/
abbrev dataSize : Nat := dataNr * alphabetLen

def alphabetTable : List UInt8 :=
  (List.range alphabetLen).map fun i => UInt8.ofNat (i + 65)

def txBuf : List UInt8 := (List.replicate dataNr alphabetTable).flatten

/-- The next thing `Uartsend` does. -/
inductive UartsendPc where
  | start
  | whileTrun
  | write
  | speed
  | count
  | done
deriving DecidableEq

/-- The next thing `Uartread` does, with `iocount` and the bytes in `rx_buf`. -/
inductive UartreadPc where
  | start
  | whileRrun
  | ioctl
  | read (iocount : Nat)
  | store (iocount : Nat) (rxBuf : List UInt8)
  | done
deriving DecidableEq

/-- The next thing `main` does, with the seconds it still waits. -/
inductive MainPc where
  | getchar
  | joinUartsend
  | wait (i : Nat)
  | joinUartread
  | done (testResult : String)
deriving DecidableEq

/-- The program and the line behind it: the bytes on the wire and those that
`FIONREAD` counts.  `rounds` are the calls of `write`, `trapped` is a division
by zero and `overflowed` a byte stored behind `rx_buf`. -/
structure LoopTest where
  xferOnly : Bool
  recvOnly : Bool
  trun : Bool
  rrun : Bool
  tcount : BitVec 32
  rcount : BitVec 32
  uartsend : UartsendPc
  uartread : UartreadPc
  main : MainPc
  wire : List UInt8
  queue : List UInt8
  file : List UInt8
  screen : List (List UInt8)
  rounds : Nat
  trapped : Bool
  overflowed : Bool

/-- `main` has started the threads. -/
def LoopTest.start (xferOnly recvOnly : Bool) : LoopTest :=
  let trun := xferOnly || !recvOnly
  let rrun := !xferOnly
  { xferOnly, recvOnly, trun, rrun, tcount := 0, rcount := 0
    uartsend := if trun then .start else .done
    uartread := if rrun then .start else .done
    main := .getchar, wire := [], queue := [], file := [], screen := []
    rounds := 0, trapped := false, overflowed := false }

/-- `Uartsend`.  The answer is what `write` returns, and then the seconds it
took. -/
def LoopTest.uartsendStep (test : LoopTest) (answer : Nat) : Option LoopTest :=
  match test.uartsend with
  | .start => some { test with tcount := 0, uartsend := .whileTrun }
  | .whileTrun =>
      some { test with uartsend := if test.trun then .write else .done }
  | .write =>
      some { test with
        wire := test.wire ++ txBuf.take answer
        rounds := test.rounds + 1
        uartsend := .speed }
  | .speed =>
      if answer = 0 then some { test with trapped := true }
      else some { test with uartsend := .count }
  | .count =>
      some { test with
        tcount := test.tcount + BitVec.ofNat 32 dataSize
        uartsend := .whileTrun }
  | .done => none

/-- `Uartread`.  The answer is what `read` returns. -/
def LoopTest.uartreadStep (test : LoopTest) (answer : Nat) : Option LoopTest :=
  match test.uartread with
  | .start => some { test with rcount := 0, uartread := .whileRrun }
  | .whileRrun =>
      some { test with uartread := if test.rrun then .ioctl else .done }
  | .ioctl =>
      let iocount := test.queue.length
      some { test with
        uartread := if iocount = 0 then .whileRrun else .read iocount }
  | .read iocount =>
      if 0 < answer ∧ answer ≤ iocount ∧ answer ≤ test.queue.length then
        some { test with
          uartread := .store iocount (test.queue.take answer)
          queue := test.queue.drop answer }
      else none
  | .store iocount rxBuf =>
      let rcount := test.rcount + BitVec.ofNat 32 rxBuf.length
      if test.recvOnly then
        some { test with
          rcount
          overflowed := test.overflowed || decide (rxBuf.length = iocount)
          screen := test.screen ++ [rxBuf.takeWhile (· ≠ 0)]
          uartread := .whileRrun }
      else
        some { test with
          rcount, file := test.file ++ rxBuf, uartread := .whileRrun }
  | .done => none

/-- `main`.  The answer is what `getchar` returns. -/
def LoopTest.mainStep (test : LoopTest) (answer : Nat) : Option LoopTest :=
  match test.main with
  | .getchar =>
      if answer = 'c'.toNat then
        if test.xferOnly then
          some { test with trun := false, main := .joinUartsend }
        else if test.recvOnly then
          some { test with rrun := false, main := .joinUartread }
        else some { test with trun := false, main := .joinUartsend }
      else some test
  | .joinUartsend =>
      if test.uartsend = .done then
        some { test with
          main := if test.xferOnly then .done "Done" else .wait 5 }
      else none
  | .wait i =>
      if test.tcount > test.rcount ∧ i ≠ 0 then
        some { test with main := .wait (i - 1) }
      else some { test with rrun := false, main := .joinUartread }
  | .joinUartread =>
      if test.uartread = .done then
        some { test with
          main := .done
            (if test.recvOnly then "Done"
            else testResult test.tcount test.rcount) }
      else none
  | .done _ => none

inductive LoopAction where
  | uartsend (answer : Nat)
  | uartread (answer : Nat)
  | main (answer : Nat)
  | arrive
  | lose
deriving DecidableEq

/-- The line brings the bytes back in order. -/
def LoopTest.arrive (test : LoopTest) : Option LoopTest :=
  match test.wire with
  | [] => none
  | byte :: wire => some { test with queue := test.queue ++ [byte], wire }

def LoopTest.lose (test : LoopTest) : Option LoopTest :=
  match test.wire with
  | [] => none
  | _ :: wire => some { test with wire }

def LoopTest.step (test : LoopTest) (action : LoopAction) : Option LoopTest :=
  if test.trapped then none
  else
    match action with
    | .uartsend answer => test.uartsendStep answer
    | .uartread answer => test.uartreadStep answer
    | .main answer => test.mainStep answer
    | .arrive => test.arrive
    | .lose => test.lose

/-- What the calls of `write` were given. -/
def asked (rounds : Nat) : List UInt8 := (List.replicate rounds txBuf).flatten

theorem asked_succ (rounds : Nat) :
    asked (rounds + 1) = asked rounds ++ txBuf := by
  rw [asked, List.replicate_succ', List.flatten_concat, asked]

theorem length_txBuf : txBuf.length = dataSize := by
  rw [txBuf, List.length_flatten, List.map_replicate, List.sum_replicate_nat]
  rfl

theorem length_asked (rounds : Nat) :
    (asked rounds).length = dataSize * rounds := by
  rw [asked, List.length_flatten, List.map_replicate, List.sum_replicate_nat,
    length_txBuf, Nat.mul_comm]

/-- The rounds that are not in `tcount` yet. -/
def UartsendPc.pending : UartsendPc → Nat
  | .speed | .count => 1
  | _ => 0

/-- The bytes in `rx_buf`. -/
def UartreadPc.held : UartreadPc → List UInt8
  | .store _ rxBuf => rxBuf
  | _ => []

/-- Every byte that is somewhere, in the order in which it was written. -/
def LoopTest.bytes (test : LoopTest) : List UInt8 :=
  test.file ++ (test.uartread.held ++ (test.queue ++ test.wire))

/-- What `main` has waited for. -/
def MainPc.Joined (main : MainPc) (test : LoopTest) : Prop :=
  match main with
  | .getchar | .joinUartsend => True
  | .wait _ | .joinUartread => test.uartsend = .done
  | .done result =>
      test.uartsend = .done ∧ test.uartread = .done ∧
        result = testResult test.tcount test.rcount

/-- Both counts agree with what was written and read, and the bytes are some of
those that were written. -/
structure Accounts (test : LoopTest) : Prop where
  both : test.xferOnly = false ∧ test.recvOnly = false
  sent : ∃ counted, counted + test.uartsend.pending = test.rounds ∧
    test.tcount = BitVec.ofNat 32 (dataSize * counted)
  unsent : test.uartsend = .start → test.rounds = 0
  received : test.rcount = BitVec.ofNat 32 test.file.length
  unread : test.uartread = .start → test.file = []
  bytes : test.bytes.Sublist (asked test.rounds)
  joined : test.main.Joined test

section Accounts

variable {test next : LoopTest} {answer : Nat}

theorem accounts_start : Accounts (.start false false) where
  both := ⟨rfl, rfl⟩
  sent := ⟨0, rfl, rfl⟩
  unsent := fun _ => rfl
  received := rfl
  unread := fun _ => rfl
  bytes := List.Sublist.refl []
  joined := trivial

theorem MainPc.Joined.uartsend_of_ne {main : MainPc} (joined : main.Joined test)
    (runs : test.uartsend ≠ .done) : main.Joined next := by
  cases main with
  | getchar => trivial
  | joinUartsend => trivial
  | wait i => exact absurd joined runs
  | joinUartread => exact absurd joined runs
  | done result => exact absurd joined.1 runs

theorem MainPc.Joined.uartread_of_ne {main : MainPc} (joined : main.Joined test)
    (runs : test.uartread ≠ .done) (same : next.uartsend = test.uartsend) :
    main.Joined next := by
  cases main with
  | getchar => trivial
  | joinUartsend => trivial
  | wait i => exact same.trans joined
  | joinUartread => exact same.trans joined
  | done result => exact absurd joined.2.1 runs

theorem ofNat_counted (counted : Nat) :
    BitVec.ofNat 32 (dataSize * counted) + BitVec.ofNat 32 dataSize =
      BitVec.ofNat 32 (dataSize * (counted + 1)) := by
  rw [← BitVec.ofNat_add, Nat.mul_succ]

theorem Accounts.uartsendStep (accounts : Accounts test)
    (taken : test.uartsendStep answer = some next) : Accounts next := by
  obtain ⟨both, ⟨counted, rounds, tcount⟩, unsent, received, unread, bytes,
    joined⟩ := accounts
  rw [LoopTest.uartsendStep] at taken
  split at taken
  · rename_i here
    cases taken
    have none := unsent here
    refine ⟨both, ⟨0, none.symm, rfl⟩, fun _ => none, received, unread, bytes,
      joined.uartsend_of_ne (by simp [here])⟩
  · rename_i here
    cases taken
    refine ⟨both, ⟨counted, ?_, tcount⟩, ?_, received, unread, bytes,
      joined.uartsend_of_ne (by simp [here])⟩
    · rw [here] at rounds
      split <;> exact rounds
    · split <;> intro impossible <;> cases impossible
  · rename_i here
    cases taken
    rw [here] at rounds
    refine ⟨both, ⟨counted, congrArg (· + 1) rounds, tcount⟩, nofun, received,
      unread, ?_, joined.uartsend_of_ne (by simp [here])⟩
    rw [asked_succ, LoopTest.bytes]
    simp only [← List.append_assoc]
    apply List.Sublist.append _ (List.take_sublist _ _)
    simpa only [LoopTest.bytes, List.append_assoc] using bytes
  · rename_i here
    rw [here] at rounds
    split at taken <;> cases taken
    · exact ⟨both, ⟨counted, by rw [here]; exact rounds, tcount⟩, unsent,
        received, unread, bytes, joined.uartsend_of_ne (by simp [here])⟩
    · exact ⟨both, ⟨counted, rounds, tcount⟩, nofun, received, unread, bytes,
        joined.uartsend_of_ne (by simp [here])⟩
  · rename_i here
    cases taken
    rw [here, UartsendPc.pending] at rounds
    have sum := ofNat_counted counted
    rw [← tcount] at sum
    rw [LoopTest.bytes] at bytes
    exact ⟨both, ⟨counted + 1, rounds, sum⟩, nofun, received, unread, bytes,
      joined.uartsend_of_ne (by simp [here])⟩
  · cases taken

theorem Accounts.uartreadStep (accounts : Accounts test)
    (taken : test.uartreadStep answer = some next) : Accounts next := by
  obtain ⟨both, sent, unsent, received, unread, bytes, joined⟩ := accounts
  rw [LoopTest.uartreadStep] at taken
  rw [LoopTest.bytes] at bytes
  split at taken
  · rename_i here
    cases taken
    have empty := unread here
    rw [here] at bytes
    refine ⟨both, sent, unsent, ?_, nofun, bytes,
      joined.uartread_of_ne (by simp [here]) rfl⟩
    rw [empty]
    rfl
  · rename_i here
    cases taken
    rw [here] at bytes
    refine ⟨both, sent, unsent, received, ?_, ?_,
      joined.uartread_of_ne (by simp [here]) rfl⟩
    · split <;> nofun
    · rw [LoopTest.bytes]
      split <;> exact bytes
  · rename_i here
    cases taken
    rw [here] at bytes
    refine ⟨both, sent, unsent, received, ?_, ?_,
      joined.uartread_of_ne (by simp [here]) rfl⟩
    · split <;> nofun
    · rw [LoopTest.bytes]
      split <;> exact bytes
  · rename_i iocount here
    obtain ⟨-, taken⟩ := Option.ite_none_right_eq_some.mp taken
    cases taken
    rw [here] at bytes
    refine ⟨both, sent, unsent, received, nofun, ?_,
      joined.uartread_of_ne (by simp [here]) rfl⟩
    simp only [LoopTest.bytes, UartreadPc.held]
    rw [← List.append_assoc (test.queue.take answer), List.take_append_drop]
    exact bytes
  · rename_i iocount rxBuf here
    rw [if_neg (by simp [both.2])] at taken
    cases taken
    rw [here] at bytes
    refine ⟨both, sent, unsent, ?_, nofun, ?_,
      joined.uartread_of_ne (by simp [here]) rfl⟩
    · simp only [received, List.length_append, BitVec.ofNat_add]
    · simpa only [LoopTest.bytes, UartreadPc.held, List.nil_append,
        List.append_assoc] using bytes
  · cases taken

/-- `main` changes nothing but the switches, and joins only what is done. -/
theorem Accounts.mainStep (accounts : Accounts test)
    (taken : test.mainStep answer = some next) : Accounts next := by
  obtain ⟨both, sent, unsent, received, unread, bytes, joined⟩ := accounts
  rw [LoopTest.mainStep] at taken
  rw [LoopTest.bytes] at bytes
  split at taken
  · split at taken
    · rw [if_neg (by simp [both.1]), if_neg (by simp [both.2])] at taken
      cases taken
      exact ⟨both, sent, unsent, received, unread, bytes, trivial⟩
    · cases taken
      exact ⟨both, sent, unsent, received, unread, bytes, joined⟩
  · obtain ⟨sender, taken⟩ := Option.ite_none_right_eq_some.mp taken
    rw [if_neg (by simp [both.1])] at taken
    cases taken
    exact ⟨both, sent, unsent, received, unread, bytes, sender⟩
  · rename_i i here
    rw [here] at joined
    split at taken <;> cases taken <;>
      exact ⟨both, sent, unsent, received, unread, bytes, joined⟩
  · rename_i here
    rw [here] at joined
    obtain ⟨reader, taken⟩ := Option.ite_none_right_eq_some.mp taken
    rw [if_neg (by simp [both.2])] at taken
    cases taken
    exact ⟨both, sent, unsent, received, unread, bytes, joined, reader, rfl⟩
  · cases taken

theorem Accounts.arrive (accounts : Accounts test)
    (taken : test.arrive = some next) : Accounts next := by
  obtain ⟨both, sent, unsent, received, unread, bytes, joined⟩ := accounts
  rw [LoopTest.bytes] at bytes
  rw [LoopTest.arrive] at taken
  split at taken
  · cases taken
  · rename_i byte wire here
    cases taken
    refine ⟨both, sent, unsent, received, unread, ?_, joined⟩
    rw [here] at bytes
    simpa only [LoopTest.bytes, List.append_assoc, List.singleton_append]
      using bytes

theorem Accounts.lose (accounts : Accounts test)
    (taken : test.lose = some next) : Accounts next := by
  obtain ⟨both, sent, unsent, received, unread, bytes, joined⟩ := accounts
  rw [LoopTest.bytes] at bytes
  rw [LoopTest.lose] at taken
  split at taken
  · cases taken
  · rename_i byte wire here
    cases taken
    refine ⟨both, sent, unsent, received, unread, ?_, joined⟩
    rw [here] at bytes
    refine List.Sublist.trans ?_ bytes
    apply List.Sublist.append (List.Sublist.refl _)
    apply List.Sublist.append (List.Sublist.refl _)
    apply List.Sublist.append (List.Sublist.refl _)
    exact List.sublist_cons_self byte wire

theorem Accounts.step (accounts : Accounts test) {action : LoopAction}
    (taken : test.step action = some next) : Accounts next := by
  obtain ⟨-, taken⟩ := Option.ite_none_left_eq_some.mp taken
  cases action with
  | uartsend answer => exact accounts.uartsendStep taken
  | uartread answer => exact accounts.uartreadStep taken
  | main answer => exact accounts.mainStep taken
  | arrive => exact accounts.arrive taken
  | lose => exact accounts.lose taken

theorem accounts_run {actions : List LoopAction}
    (run : Run LoopTest.step (fun _ _ => True) (.start false false) actions
      test) : Accounts test := by
  apply run.invariant accounts_start
  intro test action next accounts _ taken
  exact accounts.step taken

theorem ofNat_eq_iff {received sent : Nat} (le : received ≤ sent) :
    BitVec.ofNat 32 received = BitVec.ofNat 32 sent ↔
      2 ^ 32 ∣ sent - received := by
  rw [← BitVec.toNat_inj, BitVec.toNat_ofNat, BitVec.toNat_ofNat]
  omega

/-- The verdict of the loopback test.  Whatever the order of the threads and
the losses of the line, the file holds bytes that were written, in their order;
the test has succeeded if a multiple of 4 GiB is missing, which is none at all
if less than that was written. -/
theorem loopTest_verdict {actions : List LoopAction} {result : String}
    (run : Run LoopTest.step (fun _ _ => True) (.start false false) actions
      test) (ended : test.main = .done result) :
    test.file.Sublist (asked test.rounds) ∧
      (result = "Successed" ∨ result = "Failed") ∧
      (result = "Successed" ↔
        2 ^ 32 ∣ dataSize * test.rounds - test.file.length) ∧
      (dataSize * test.rounds < 2 ^ 32 →
        (result = "Successed" ↔ test.file = asked test.rounds)) := by
  have accounts := accounts_run run
  obtain ⟨counted, rounds, tcount⟩ := accounts.sent
  have joined := accounts.joined
  rw [ended] at joined
  obtain ⟨sender, reader, rfl⟩ := joined
  rw [sender] at rounds
  obtain rfl : counted = test.rounds := rounds
  have kept : test.file.Sublist (asked test.rounds) :=
    (List.sublist_append_left _ _).trans accounts.bytes
  have le : test.file.length ≤ dataSize * test.rounds := by
    rw [← length_asked]
    exact kept.length_le
  have agree : testResult test.tcount test.rcount = "Successed" ↔
      2 ^ 32 ∣ dataSize * test.rounds - test.file.length := by
    rw [← ofNat_eq_iff le, ← tcount, ← accounts.received, testResult]
    split
    · rename_i same
      exact ⟨fun _ => same, fun _ => rfl⟩
    · rename_i differ
      exact ⟨fun success => absurd success (by decide),
        fun same => absurd same differ⟩
  refine ⟨kept, ?_, agree, fun small => ?_⟩
  · rw [testResult]
    split
    · exact .inl rfl
    · exact .inr rfl
  · rw [agree]
    constructor
    · intro divides
      apply kept.eq_of_length
      rw [length_asked]
      have none := Nat.eq_zero_of_dvd_of_lt divides
        (Nat.lt_of_le_of_lt (Nat.sub_le _ _) small)
      exact Nat.le_antisymm le (Nat.le_of_sub_eq_zero none)
    · intro all
      rw [all, length_asked, Nat.sub_self]
      exact Nat.dvd_zero _

end Accounts

/-- One call of `write` took a single byte, and that came back. -/
def LoopTest.failed : LoopTest :=
  { xferOnly := false, recvOnly := false, trun := false, rrun := false
    tcount := 13000, rcount := 1, uartsend := .done, uartread := .done
    main := .done "Failed", wire := [], queue := [], file := [65], screen := []
    rounds := 1, trapped := false, overflowed := false }

theorem loopTest_verdict_failed :
    LoopTest.failed.file.Sublist (asked 1) ∧
      ("Failed" = "Successed" ∨ "Failed" = "Failed") ∧
      ("Failed" = "Successed" ↔ 2 ^ 32 ∣ dataSize * 1 - [65].length) ∧
      (dataSize * 1 < 2 ^ 32 →
        ("Failed" = "Successed" ↔ LoopTest.failed.file = asked 1)) :=
  @loopTest_verdict .failed
    [.uartsend 0, .uartsend 0, .uartsend 1, .uartsend 1, .uartsend 0, .arrive,
      .uartread 0, .uartread 0, .uartread 0, .uartread 1, .uartread 0,
      .main 99, .uartsend 0, .main 0, .main 0, .main 0, .main 0, .main 0,
      .main 0, .main 0, .uartread 0, .main 0] "Failed"
    (.of_execute rfl) rfl

/-- What lets `main` join the threads: `read` is called for bytes that are
there, and the switch of the thread it waits for is off. -/
structure Orderly (test : LoopTest) : Prop where
  announced : ∀ iocount, test.uartread = .read iocount →
    0 < iocount ∧ iocount ≤ test.queue.length
  joins : test.main = .joinUartsend → test.trun = false
  joinsRead : test.main = .joinUartread → test.rrun = false

section Orderly

variable {test next : LoopTest} {answer : Nat}

theorem orderly_start (xferOnly recvOnly : Bool) :
    Orderly (.start xferOnly recvOnly) where
  announced := by
    intro iocount reads
    cases xferOnly <;> cases reads
  joins := nofun
  joinsRead := nofun

theorem uartsendStep_keeps (taken : test.uartsendStep answer = some next) :
    next.uartread = test.uartread ∧ next.queue = test.queue ∧
      next.main = test.main ∧ next.trun = test.trun ∧
      next.rrun = test.rrun := by
  rw [LoopTest.uartsendStep] at taken
  split at taken
  · cases taken
    exact ⟨rfl, rfl, rfl, rfl, rfl⟩
  · cases taken
    exact ⟨rfl, rfl, rfl, rfl, rfl⟩
  · cases taken
    exact ⟨rfl, rfl, rfl, rfl, rfl⟩
  · split at taken <;> cases taken <;> exact ⟨rfl, rfl, rfl, rfl, rfl⟩
  · cases taken
    exact ⟨rfl, rfl, rfl, rfl, rfl⟩
  · cases taken

theorem uartreadStep_announced (taken : test.uartreadStep answer = some next) :
    (∀ iocount, next.uartread = .read iocount →
      0 < iocount ∧ iocount ≤ next.queue.length) ∧
      next.main = test.main ∧ next.trun = test.trun ∧
      next.rrun = test.rrun := by
  rw [LoopTest.uartreadStep] at taken
  split at taken
  · cases taken
    exact ⟨nofun, rfl, rfl, rfl⟩
  · cases taken
    refine ⟨?_, rfl, rfl, rfl⟩
    intro iocount reads
    split at reads <;> cases reads
  · cases taken
    refine ⟨?_, rfl, rfl, rfl⟩
    intro iocount reads
    split at reads
    · cases reads
    · rename_i some
      cases reads
      exact ⟨Nat.pos_of_ne_zero some, Nat.le_refl _⟩
  · obtain ⟨-, taken⟩ := Option.ite_none_right_eq_some.mp taken
    cases taken
    exact ⟨nofun, rfl, rfl, rfl⟩
  · split at taken <;> cases taken <;> exact ⟨nofun, rfl, rfl, rfl⟩
  · cases taken

theorem Orderly.mainStep (orderly : Orderly test)
    (taken : test.mainStep answer = some next) : Orderly next := by
  obtain ⟨announced, joins, joinsRead⟩ := orderly
  rw [LoopTest.mainStep] at taken
  split at taken
  · split at taken
    · split at taken
      · cases taken
        exact ⟨announced, fun _ => rfl, nofun⟩
      · split at taken <;> cases taken
        · exact ⟨announced, nofun, fun _ => rfl⟩
        · exact ⟨announced, fun _ => rfl, nofun⟩
    · cases taken
      exact ⟨announced, joins, joinsRead⟩
  · obtain ⟨-, taken⟩ := Option.ite_none_right_eq_some.mp taken
    cases taken
    constructor
    · exact announced
    · intro here
      simp only at here
      split at here <;> cases here
    · intro here
      simp only at here
      split at here <;> cases here
  · split at taken <;> cases taken
    · exact ⟨announced, nofun, nofun⟩
    · exact ⟨announced, nofun, fun _ => rfl⟩
  · obtain ⟨-, taken⟩ := Option.ite_none_right_eq_some.mp taken
    cases taken
    exact ⟨announced, nofun, nofun⟩
  · cases taken

theorem Orderly.step (orderly : Orderly test) {action : LoopAction}
    (taken : test.step action = some next) : Orderly next := by
  obtain ⟨-, taken⟩ := Option.ite_none_left_eq_some.mp taken
  cases action with
  | uartsend answer =>
      obtain ⟨reader, queue, main, trun, rrun⟩ := uartsendStep_keeps taken
      constructor
      · rw [reader, queue]
        exact orderly.announced
      · rw [main, trun]
        exact orderly.joins
      · rw [main, rrun]
        exact orderly.joinsRead
  | uartread answer =>
      obtain ⟨announced, main, trun, rrun⟩ := uartreadStep_announced taken
      constructor
      · exact announced
      · rw [main, trun]
        exact orderly.joins
      · rw [main, rrun]
        exact orderly.joinsRead
  | main answer => exact orderly.mainStep taken
  | arrive =>
      change test.arrive = some next at taken
      rw [LoopTest.arrive] at taken
      split at taken <;> cases taken
      refine ⟨?_, orderly.joins, orderly.joinsRead⟩
      intro iocount reads
      obtain ⟨some, there⟩ := orderly.announced iocount reads
      refine ⟨some, ?_⟩
      rw [List.length_append]
      exact Nat.le_add_right_of_le there
  | lose =>
      change test.lose = some next at taken
      rw [LoopTest.lose] at taken
      split at taken <;> cases taken
      exact ⟨orderly.announced, orderly.joins, orderly.joinsRead⟩

theorem orderly_run {xferOnly recvOnly : Bool} {actions : List LoopAction}
    (run : Run LoopTest.step (fun _ _ => True) (.start xferOnly recvOnly)
      actions test) : Orderly test := by
  apply run.invariant (orderly_start xferOnly recvOnly)
  intro test action next orderly _ taken
  exact orderly.step taken

/-- The program can come to its end without the line. -/
def LoopTest.Ends (test : LoopTest) : Prop :=
  ∃ actions final result,
    Run LoopTest.step (fun _ action => action ≠ .arrive ∧ action ≠ .lose) test
      actions final ∧
    final.main = .done result

theorem LoopTest.Ends.of_step {action : LoopAction}
    (own : action ≠ .arrive ∧ action ≠ .lose)
    (taken : test.step action = some next) (ends : next.Ends) : test.Ends := by
  obtain ⟨actions, final, result, run, done⟩ := ends
  have first : Run LoopTest.step
      (fun _ action => action ≠ .arrive ∧ action ≠ .lose) test [action] next :=
    .snoc .nil own taken
  exact ⟨_, final, result, first.trans run, done⟩

theorem LoopTest.Ends.uartsend (answer : Nat) (alive : test.trapped = false)
    (taken : test.uartsendStep answer = some next) (ends : next.Ends) :
    test.Ends := by
  have same : test.step (.uartsend answer) = test.uartsendStep answer := by
    rw [LoopTest.step, alive]
    rfl
  refine .of_step ?_ (same.trans taken) ends
  exact ⟨nofun, nofun⟩

theorem LoopTest.Ends.uartread (answer : Nat) (alive : test.trapped = false)
    (taken : test.uartreadStep answer = some next) (ends : next.Ends) :
    test.Ends := by
  have same : test.step (.uartread answer) = test.uartreadStep answer := by
    rw [LoopTest.step, alive]
    rfl
  refine .of_step ?_ (same.trans taken) ends
  exact ⟨nofun, nofun⟩

theorem LoopTest.Ends.main (alive : test.trapped = false)
    (taken : test.mainStep 0 = some next) (ends : next.Ends) : test.Ends := by
  have same : test.step (.main 0) = test.mainStep 0 := by
    rw [LoopTest.step, alive]
    rfl
  refine .of_step ?_ (same.trans taken) ends
  exact ⟨nofun, nofun⟩

/-- `main` waits for `Uartread`, whose switch is off. -/
structure JoinsRead (test : LoopTest) : Prop where
  alive : test.trapped = false
  main : test.main = .joinUartread
  rrun : test.rrun = false

theorem JoinsRead.done (joins : JoinsRead test)
    (here : test.uartread = .done) : test.Ends := by
  have taken : test.mainStep 0 = some { test with
      main := .done (if test.recvOnly then "Done"
        else testResult test.tcount test.rcount) } := by
    rw [LoopTest.mainStep, joins.main]
    exact if_pos here
  exact .main joins.alive taken ⟨[], _, _, .nil, rfl⟩

theorem JoinsRead.whileRrun (joins : JoinsRead test)
    (here : test.uartread = .whileRrun) : test.Ends := by
  have taken : test.uartreadStep 0 =
      some { test with uartread := .done } := by
    rw [LoopTest.uartreadStep, here, joins.rrun]
    rfl
  exact .uartread 0 joins.alive taken
    (JoinsRead.done ⟨joins.alive, joins.main, joins.rrun⟩ rfl)

theorem JoinsRead.store (joins : JoinsRead test) {iocount : Nat}
    {rxBuf : List UInt8} (here : test.uartread = .store iocount rxBuf) :
    test.Ends := by
  obtain ⟨next, taken, alive, main, rrun, returns⟩ :
      ∃ next, test.uartreadStep 0 = some next ∧ next.trapped = test.trapped ∧
        next.main = test.main ∧ next.rrun = test.rrun ∧
        next.uartread = .whileRrun := by
    rw [LoopTest.uartreadStep, here]
    by_cases only : test.recvOnly = true
    · exact ⟨_, if_pos only, rfl, rfl, rfl, rfl⟩
    · exact ⟨_, if_neg only, rfl, rfl, rfl, rfl⟩
  exact .uartread 0 joins.alive taken (JoinsRead.whileRrun
    ⟨alive.trans joins.alive, main.trans joins.main, rrun.trans joins.rrun⟩
    returns)

theorem JoinsRead.read (joins : JoinsRead test) {iocount : Nat}
    (here : test.uartread = .read iocount) (some : 0 < iocount)
    (there : iocount ≤ test.queue.length) : test.Ends := by
  have allowed : 0 < 1 ∧ 1 ≤ iocount ∧ 1 ≤ test.queue.length :=
    ⟨Nat.one_pos, some, Nat.le_trans some there⟩
  have taken : test.uartreadStep 1 = .some { test with
      uartread := .store iocount (test.queue.take 1)
      queue := test.queue.drop 1 } := by
    rw [LoopTest.uartreadStep, here]
    exact if_pos allowed
  exact .uartread 1 joins.alive taken
    (JoinsRead.store ⟨joins.alive, joins.main, joins.rrun⟩ rfl)

theorem JoinsRead.ends (joins : JoinsRead test) (orderly : Orderly test) :
    test.Ends := by
  cases here : test.uartread with
  | start =>
      have taken : test.uartreadStep 0 =
          some { test with rcount := 0, uartread := .whileRrun } := by
        rw [LoopTest.uartreadStep, here]
      exact .uartread 0 joins.alive taken
        (JoinsRead.whileRrun ⟨joins.alive, joins.main, joins.rrun⟩ rfl)
  | whileRrun => exact joins.whileRrun here
  | ioctl =>
      have taken : test.uartreadStep 0 = some { test with
          uartread := if test.queue.length = 0 then .whileRrun
            else .read test.queue.length } := by
        rw [LoopTest.uartreadStep, here]
      refine .uartread 0 joins.alive taken ?_
      by_cases empty : test.queue.length = 0
      · rw [if_pos empty]
        exact JoinsRead.whileRrun ⟨joins.alive, joins.main, joins.rrun⟩ rfl
      · rw [if_neg empty]
        exact JoinsRead.read ⟨joins.alive, joins.main, joins.rrun⟩ rfl
          (Nat.pos_of_ne_zero empty) (Nat.le_refl _)
  | read iocount =>
      obtain ⟨some, there⟩ := orderly.announced iocount here
      exact joins.read here some there
  | store iocount rxBuf => exact joins.store here
  | done => exact joins.done here

/-- `main` waits for at most so many seconds before it joins `Uartread`. -/
theorem ends_wait {i : Nat} (alive : test.trapped = false)
    (main : test.main = .wait i) (orderly : Orderly test) : test.Ends := by
  induction i generalizing test with
  | zero =>
      have taken : test.mainStep 0 =
          some { test with rrun := false, main := .joinUartread } := by
        rw [LoopTest.mainStep, main]
        exact if_neg fun waits => waits.2 rfl
      exact .main alive taken
        (JoinsRead.ends ⟨alive, rfl, rfl⟩ (orderly.mainStep taken))
  | succ i induction =>
      by_cases waits : test.tcount > test.rcount
      · have taken : test.mainStep 0 = some { test with main := .wait i } := by
          rw [LoopTest.mainStep, main]
          exact if_pos ⟨waits, Nat.succ_ne_zero i⟩
        have next : Orderly { test with main := .wait i } :=
          orderly.mainStep taken
        exact .main alive taken (induction alive rfl next)
      · have taken : test.mainStep 0 =
            some { test with rrun := false, main := .joinUartread } := by
          rw [LoopTest.mainStep, main]
          exact if_neg fun waiting => waits waiting.1
        exact .main alive taken
          (JoinsRead.ends ⟨alive, rfl, rfl⟩ (orderly.mainStep taken))

/-- `main` waits for `Uartsend`, whose switch is off. -/
structure JoinsSend (test : LoopTest) : Prop where
  alive : test.trapped = false
  main : test.main = .joinUartsend
  trun : test.trun = false
  orderly : Orderly test

theorem JoinsSend.done (joins : JoinsSend test)
    (here : test.uartsend = .done) : test.Ends := by
  have taken : test.mainStep 0 = some { test with
      main := if test.xferOnly then .done "Done" else .wait 5 } := by
    rw [LoopTest.mainStep, joins.main]
    exact if_pos here
  have orderly := joins.orderly.mainStep taken
  refine .main joins.alive taken ?_
  by_cases only : test.xferOnly = true
  · rw [if_pos only]
    exact ⟨[], _, "Done", .nil, rfl⟩
  · rw [if_neg only] at orderly ⊢
    exact ends_wait joins.alive rfl orderly

theorem JoinsSend.step (joins : JoinsSend test)
    (taken : test.uartsendStep answer = some next)
    (alive : next.trapped = false) : JoinsSend next := by
  obtain ⟨-, -, main, trun, -⟩ := uartsendStep_keeps taken
  have step : test.step (.uartsend answer) = some next := by
    rw [LoopTest.step, joins.alive]
    exact taken
  exact ⟨alive, main.trans joins.main, trun.trans joins.trun,
    joins.orderly.step step⟩

theorem JoinsSend.whileTrun (joins : JoinsSend test)
    (here : test.uartsend = .whileTrun) : test.Ends := by
  have taken : test.uartsendStep 0 = some { test with uartsend := .done } := by
    rw [LoopTest.uartsendStep, here, joins.trun]
    rfl
  exact .uartsend 0 joins.alive taken
    ((joins.step taken joins.alive).done rfl)

theorem JoinsSend.count (joins : JoinsSend test)
    (here : test.uartsend = .count) : test.Ends := by
  have taken : test.uartsendStep 0 = some { test with
      tcount := test.tcount + BitVec.ofNat 32 dataSize
      uartsend := .whileTrun } := by
    rw [LoopTest.uartsendStep, here]
  exact .uartsend 0 joins.alive taken
    ((joins.step taken joins.alive).whileTrun rfl)

theorem JoinsSend.speed (joins : JoinsSend test)
    (here : test.uartsend = .speed) : test.Ends := by
  have taken : test.uartsendStep 1 = some { test with uartsend := .count } := by
    rw [LoopTest.uartsendStep, here]
    rfl
  exact .uartsend 1 joins.alive taken
    ((joins.step taken joins.alive).count rfl)

theorem JoinsSend.ends (joins : JoinsSend test) : test.Ends := by
  cases here : test.uartsend with
  | start =>
      have taken : test.uartsendStep 0 =
          some { test with tcount := 0, uartsend := .whileTrun } := by
        rw [LoopTest.uartsendStep, here]
      exact .uartsend 0 joins.alive taken
        ((joins.step taken joins.alive).whileTrun rfl)
  | whileTrun => exact joins.whileTrun here
  | write =>
      have taken : test.uartsendStep 0 = some { test with
          wire := test.wire ++ txBuf.take 0
          rounds := test.rounds + 1
          uartsend := .speed } := by
        rw [LoopTest.uartsendStep, here]
      exact .uartsend 0 joins.alive taken
        ((joins.step taken joins.alive).speed rfl)
  | speed => exact joins.speed here
  | count => exact joins.count here
  | done => exact joins.done here

/-- The test can be ended.  In every mode, once 'c' was typed, the threads come
to their ends and are joined: `read` is called only for bytes that are there. -/
theorem loopTest_ends {xferOnly recvOnly : Bool} {actions : List LoopAction}
    (run : Run LoopTest.step (fun _ _ => True) (.start xferOnly recvOnly)
      actions test) (typed : test.main ≠ .getchar)
    (alive : test.trapped = false) : test.Ends := by
  have orderly := orderly_run run
  cases main : test.main with
  | getchar => exact absurd main typed
  | joinUartsend =>
      exact JoinsSend.ends ⟨alive, main, orderly.joins main, orderly⟩
  | wait i => exact ends_wait alive main orderly
  | joinUartread =>
      exact JoinsRead.ends ⟨alive, main, orderly.joinsRead main⟩ orderly
  | done result => exact ⟨[], test, result, .nil, main⟩

end Orderly

/-- The letter was typed while a byte was waiting in the queue. -/
def LoopTest.typed : LoopTest :=
  { xferOnly := false, recvOnly := false, trun := false, rrun := true
    tcount := 0, rcount := 0, uartsend := .speed, uartread := .read 1
    main := .joinUartsend, wire := [], queue := [65], file := [], screen := []
    rounds := 1, trapped := false, overflowed := false }

theorem loopTest_ends_typed : LoopTest.typed.Ends :=
  @loopTest_ends .typed false false
    [.uartsend 0, .uartsend 0, .uartsend 1, .arrive, .uartread 0, .uartread 0,
      .uartread 0, .main 99]
    (.of_execute rfl) nofun rfl

end KernelDrivers.Uart
