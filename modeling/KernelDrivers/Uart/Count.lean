import KernelDrivers.Library.Transition
import KernelDrivers.Uart.Record

/-!
# The verdict of the loopback test

`read_select` leaves the result of `select` in place of a record that could not
be read, and that is added to `rcount`.
-/

namespace KernelDrivers.Uart

open KernelDrivers.Library

/-- A round counts what was delivered, reports a failure by ending the program,
and only writes a record's bytes. -/
structure RoundExact (rxBuf : Nat) (receiver : Receiver)
    (select : SelectOutcome) : Prop where
  count : ∀ after, uartreadRound rxBuf receiver select = .looped after ∨
      uartreadRound rxBuf receiver select = .exited after →
    after.rcount.toNat = after.delivered
  reported : ∀ after, uartreadRound rxBuf receiver select = .looped after →
    after.failures = receiver.failures
  buffer : ∀ record, readSelect receiver.mem rxBuf alphabetLen select
      receiver.reads = some record →
    ∀ address, address < rxBuf ∨ rxBuf + alphabetLen ≤ address →
      record.mem address = receiver.mem address

/-- Every round is exact, and the test only succeeds if as many bytes were
received as were sent. -/
structure TestSound (rxBuf : Nat) (mem : Memory) (reads : List ReadOutcome)
    (selects : List SelectOutcome) : Prop where
  rounds : Along (uartread rxBuf) (RoundExact rxBuf) (.start mem reads) selects
  verdict : ∀ tcount after, Run (uartread rxBuf) (fun _ _ => True)
      (.start mem reads) selects after →
    testResult tcount after.rcount = "Successed" →
      after.delivered = tcount.toNat

/-- No call fails in the record, and the counter holds the sum. -/
def RoundFits (receiver : Receiver) (select : SelectOutcome) : Prop :=
  select = .ready → ∀ record,
    fullRead alphabetLen receiver.reads = some record →
      record.ending ≠ .failed ∧
        receiver.delivered + record.bytes.length < 2 ^ 32

/-- The count of the rounds before. -/
def Receiver.Counted (receiver : Receiver) : Prop :=
  receiver.rcount.toNat = receiver.delivered

/-- What a record of `bytes` leaves, where `ret` is counted for it. -/
def Receiver.next (rxBuf : Nat) (receiver : Receiver) (read : FullRead)
    (ret failures : Nat) : Receiver :=
  { mem := (receiver.mem.storeList rxBuf read.bytes).storeList
      (rxBuf + alphabetLen) [0]
    rcount := receiver.rcount + BitVec.ofNat 32 ret
    reads := read.rest
    delivered := receiver.delivered + read.bytes.length
    failures := receiver.failures + failures }

theorem uartreadRound_ready (rxBuf : Nat) (receiver : Receiver) :
    uartreadRound rxBuf receiver .ready =
      match fullRead alphabetLen receiver.reads with
      | none => .blocked
      | some read =>
          if read.ending = .failed then
            .looped (receiver.next rxBuf read 1 1)
          else .looped (receiver.next rxBuf read read.bytes.length 0) := by
  rw [uartreadRound, readSelect, recordRead_eq]
  cases fullRead alphabetLen receiver.reads with
  | none => rfl
  | some read =>
      by_cases failed : read.ending = .failed
      · simp [failed, Receiver.next]
      · have counted : ¬((read.bytes.length : Int) = -1) := by omega
        simp [failed, counted, Receiver.next]

theorem uartreadRound_timeout (rxBuf : Nat) (receiver : Receiver) :
    uartreadRound rxBuf receiver .timeout =
      .looped { receiver with
        mem := receiver.mem.storeList (rxBuf + alphabetLen) [0] } := by
  simp [uartreadRound, readSelect]

theorem uartreadRound_error (rxBuf : Nat) (receiver : Receiver) :
    uartreadRound rxBuf receiver .error = .exited receiver := by
  simp [uartreadRound, readSelect]

theorem readSelect_outside {mem : Memory} {rxBuf : Nat}
    {select : SelectOutcome} {reads : List ReadOutcome} {record : Record}
    (done : readSelect mem rxBuf alphabetLen select reads = some record)
    {address : Nat}
    (outside : address < rxBuf ∨ rxBuf + alphabetLen ≤ address) :
    record.mem address = mem address := by
  cases select with
  | error =>
      cases done
      rfl
  | timeout =>
      cases done
      rfl
  | ready =>
      rw [readSelect, recordRead_eq] at done
      cases full : fullRead alphabetLen reads with
      | none =>
          rw [full] at done
          cases done
      | some read =>
          have bound := fullRead_length_le full
          have stored : record.mem = mem.storeList rxBuf read.bytes := by
            rw [full] at done
            dsimp only [Option.map_some] at done
            split at done <;> cases done <;> rfl
          rw [stored]
          apply Memory.storeList_outside
          omega

theorem roundExact_iff (rxBuf : Nat) {receiver : Receiver}
    (counted : receiver.Counted) (select : SelectOutcome) :
    RoundExact rxBuf receiver select ↔ RoundFits receiver select := by
  have buffer : ∀ record, readSelect receiver.mem rxBuf alphabetLen select
      receiver.reads = some record →
      ∀ address, address < rxBuf ∨ rxBuf + alphabetLen ≤ address →
        record.mem address = receiver.mem address := by
    intro record done address outside
    exact readSelect_outside done outside
  cases select with
  | error =>
      refine ⟨fun _ => nofun, fun _ => ⟨?_, ?_, buffer⟩⟩
      · rw [uartreadRound_error]
        rintro after (impossible | same)
        · cases impossible
        · cases same
          exact counted
      · rw [uartreadRound_error]
        rintro after ⟨⟩
  | timeout =>
      refine ⟨fun _ => nofun, fun _ => ⟨?_, ?_, buffer⟩⟩
      · rw [uartreadRound_timeout]
        rintro after (same | impossible)
        · cases same
          exact counted
        · cases impossible
      · rw [uartreadRound_timeout]
        rintro after ⟨⟩
        rfl
  | ready =>
      have round := uartreadRound_ready rxBuf receiver
      cases full : fullRead alphabetLen receiver.reads with
      | none =>
          rw [full] at round
          refine ⟨fun _ _ record done => ?_, fun _ => ⟨?_, ?_, buffer⟩⟩
          · rw [full] at done
            cases done
          · rw [round]
            rintro after (impossible | impossible) <;> cases impossible
          · rw [round]
            rintro after ⟨⟩
      | some read =>
          rw [full] at round
          dsimp only at round
          constructor
          · intro exact _ record done
            rw [full] at done
            cases done
            by_cases failed : read.ending = .failed
            · rw [if_pos failed] at round
              have kept := exact.reported _ round
              exact absurd kept (Nat.succ_ne_self receiver.failures)
            · rw [if_neg failed] at round
              have count := exact.count _ (.inl round)
              refine ⟨failed, ?_⟩
              have bound :=
                (receiver.next rxBuf read read.bytes.length 0).rcount.isLt
              rw [count] at bound
              exact bound
          · intro fits
            obtain ⟨complete, small⟩ := fits rfl read full
            rw [if_neg complete] at round
            refine ⟨?_, ?_, buffer⟩
            · rw [round]
              rintro after (same | impossible)
              · cases same
                have sum : (receiver.rcount +
                    BitVec.ofNat 32 read.bytes.length).toNat =
                      receiver.delivered + read.bytes.length := by
                  rw [BitVec.toNat_add, BitVec.toNat_ofNat, counted]
                  omega
                exact sum
              · cases impossible
            · rw [round]
              rintro after ⟨⟩
              rfl

theorem uartread_counted {rxBuf : Nat} {receiver next : Receiver}
    {select : SelectOutcome} (exact : RoundExact rxBuf receiver select)
    (taken : uartread rxBuf receiver select = some next) : next.Counted := by
  rw [uartread] at taken
  split at taken
  · cases taken
  · cases taken
  · rename_i after round
    cases taken
    exact exact.count next (.inl round)

/-- The test is sound exactly if no call fails within a record and the counter
does not wrap. -/
theorem testSound_iff (rxBuf : Nat) (mem : Memory) (reads : List ReadOutcome)
    (selects : List SelectOutcome) :
    TestSound rxBuf mem reads selects ↔
      Along (uartread rxBuf) RoundFits (.start mem reads) selects := by
  have initial : (Receiver.start mem reads).Counted := rfl
  have same : Along (uartread rxBuf) (RoundExact rxBuf) (.start mem reads)
      selects ↔
        Along (uartread rxBuf) RoundFits (.start mem reads) selects := by
    refine along_congr initial ?_ ?_
    · intro receiver select next _ exact taken
      exact uartread_counted exact taken
    · intro receiver select counted
      exact roundExact_iff rxBuf counted select
  rw [← same]
  constructor
  · intro sound
    exact sound.rounds
  · intro rounds
    refine ⟨rounds, ?_⟩
    intro tcount after run success
    have counted : after.Counted := by
      apply rounds.invariant_of_run initial _ run
      intro receiver select next _ exact taken
      exact uartread_counted exact taken
    rw [testResult] at success
    split at success
    · rename_i equal
      rw [← equal]
      exact counted.symm
    · exact absurd success (by decide)

theorem run_failures (rxBuf count : Nat) {receiver : Receiver}
    (failing : receiver.reads = List.replicate count .failed) :
    ∃ after, Run (uartread rxBuf) (fun _ _ => True) receiver
        (List.replicate count .ready) after ∧
      after.delivered = receiver.delivered ∧
      after.rcount = receiver.rcount + BitVec.ofNat 32 count := by
  induction count generalizing receiver with
  | zero => exact ⟨receiver, .nil, rfl, (BitVec.add_zero _).symm⟩
  | succ count induction =>
      let read : FullRead :=
        { bytes := [], ending := .failed, rest := List.replicate count .failed }
      have full : fullRead alphabetLen receiver.reads = some read := by
        rw [failing]
        rfl
      have round : uartreadRound rxBuf receiver .ready =
          .looped (receiver.next rxBuf read 1 1) := by
        rw [uartreadRound_ready, full]
        rfl
      have taken : uartread rxBuf receiver .ready =
          some (receiver.next rxBuf read 1 1) := by
        rw [uartread, round]
      have failing' : (receiver.next rxBuf read 1 1).reads =
          List.replicate count .failed := rfl
      obtain ⟨after, run, delivered, rcount⟩ := induction failing'
      have first : Run (uartread rxBuf) (fun _ _ => True) receiver [.ready]
          (receiver.next rxBuf read 1 1) := .snoc .nil trivial taken
      refine ⟨after, first.trans run, delivered, ?_⟩
      have step : (receiver.next rxBuf read 1 1).rcount =
          receiver.rcount + 1 := rfl
      rw [rcount, step, BitVec.add_assoc]
      congr 1
      apply BitVec.eq_of_toNat_eq
      rw [BitVec.toNat_add, BitVec.toNat_ofNat, BitVec.toNat_ofNat]
      have one : (1 : BitVec 32).toNat = 1 := rfl
      omega

/-- A transfer is sent and every call fails, once for each of its bytes: the
test succeeds. -/
theorem not_testSound_failed :
    ¬TestSound 0 (fun _ => 0) (List.replicate 13000 .failed)
      (List.replicate 13000 .ready) := by
  intro sound
  obtain ⟨after, run, delivered, rcount⟩ := run_failures 0 13000
    (show (Receiver.start (fun _ => 0) (List.replicate 13000 .failed)).reads =
      List.replicate 13000 .failed from rfl)
  have none : after.delivered = 0 := delivered
  have success : testResult 13000 after.rcount = "Successed" := by
    rw [rcount]
    rfl
  have verdict := sound.verdict 13000 after run success
  rw [none] at verdict
  exact absurd verdict (by decide)

end KernelDrivers.Uart
