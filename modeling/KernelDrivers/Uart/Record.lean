import KernelDrivers.Library.FullRead
import KernelDrivers.Library.Memory

/-!
# The loopback test of a UART

The receiving half of `uart_record_rw.c`: records are read behind a `select`,
and their lengths are added up.  A byte that `read` delivers is counted beside,
as is a call of `read` that fails.
-/

namespace KernelDrivers.Uart

open KernelDrivers.Library

abbrev alphabetLen : Nat := 26

/-- What a call returns, and what it has done until then. -/
structure Record where
  ret : Int
  mem : Memory
  reads : List ReadOutcome
  delivered : List UInt8
  failures : Nat

/-- The variables of the loop in `record_read`. -/
structure Reading where
  mem : Memory
  rxBuf : Nat
  nleft : Nat
  delivered : List UInt8

def Reading.stop (reading : Reading) (ret : Int) (reads : List ReadOutcome)
    (failures : Nat) : Record :=
  { ret, mem := reading.mem, reads, delivered := reading.delivered, failures }

/-- `nleft -= nread` and `rx_buf += nread`. -/
def Reading.store (reading : Reading) (got : List UInt8) : Reading :=
  { mem := reading.mem.storeList reading.rxBuf got
    rxBuf := reading.rxBuf + got.length
    nleft := reading.nleft - got.length
    delivered := reading.delivered ++ got }

/-- The loop.  It blocks where there is no outcome for a call. -/
def recordReadLoop (n : Nat) : List ReadOutcome → Reading → Option Record
  | [], reading =>
      if reading.nleft > 0 then none
      else some (reading.stop (n - reading.nleft : Nat) [] 0)
  | outcome :: reads, reading =>
      if reading.nleft > 0 then
        match outcome with
        | .interrupted => recordReadLoop n reads reading
        | .failed => some (reading.stop (-1) reads 1)
        | .delivered bytes =>
            let got := bytes.take reading.nleft
            if got.length = 0 then
              some (reading.stop (n - reading.nleft : Nat) reads 0)
            else recordReadLoop n reads (reading.store got)
      else some (reading.stop (n - reading.nleft : Nat) (outcome :: reads) 0)

def recordRead (mem : Memory) (rxBuf n : Nat) (reads : List ReadOutcome) :
    Option Record :=
  recordReadLoop n reads { mem, rxBuf, nleft := n, delivered := [] }

inductive SelectOutcome where
  | error
  | timeout
  | ready
  deriving DecidableEq

/-- `read_select`.  With one descriptor `select` returns 1 when it is ready,
and that stays in `ret` if the record is not read. -/
def readSelect (mem : Memory) (rxBuf len : Nat) (select : SelectOutcome)
    (reads : List ReadOutcome) : Option Record :=
  match select with
  | .error => some { ret := -1, mem, reads, delivered := [], failures := 0 }
  | .timeout => some { ret := 0, mem, reads, delivered := [], failures := 0 }
  | .ready =>
      match recordRead mem rxBuf len reads with
      | none => none
      | some record =>
          let cnt := record.ret
          if cnt = -1 then some { record with ret := 1 }
          else some { record with ret := cnt }

/-- `rcount` and the memory, with what the line has delivered. -/
structure Receiver where
  mem : Memory
  rcount : BitVec 32
  reads : List ReadOutcome
  delivered : Nat
  failures : Nat

inductive Round where
  | blocked
  | exited (receiver : Receiver)
  | looped (receiver : Receiver)

/-- One round of the loop in `Uartread`. -/
def uartreadRound (rxBuf : Nat) (receiver : Receiver)
    (select : SelectOutcome) : Round :=
  match readSelect receiver.mem rxBuf alphabetLen select receiver.reads with
  | none => .blocked
  | some record =>
      let receiver :=
        { receiver with
          mem := record.mem
          reads := record.reads
          delivered := receiver.delivered + record.delivered.length
          failures := receiver.failures + record.failures }
      if record.ret = -1 then .exited receiver
      else
        .looped { receiver with
          mem := receiver.mem.storeList (rxBuf + alphabetLen) [0]
          rcount := receiver.rcount + BitVec.ofInt 32 record.ret }

/-- The loop goes on as long as `rrun` is set. -/
def uartread (rxBuf : Nat) (receiver : Receiver) (select : SelectOutcome) :
    Option Receiver :=
  match uartreadRound rxBuf receiver select with
  | .blocked => none
  | .exited _ => none
  | .looped receiver => some receiver

def Receiver.start (mem : Memory) (reads : List ReadOutcome) : Receiver :=
  { mem, rcount := 0, reads, delivered := 0, failures := 0 }

/-- The end of `main`, when the threads are joined. -/
def testResult (tcount rcount : BitVec 32) : String :=
  if rcount = tcount then "Successed" else "Failed"

/-- What a full read leaves behind, from a loop that has begun. -/
def Reading.finish (n : Nat) (reading : Reading) (read : FullRead) : Record :=
  { ret := if read.ending = .failed then -1
      else (n - reading.nleft + read.bytes.length : Nat)
    mem := reading.mem.storeList reading.rxBuf read.bytes
    reads := read.rest
    delivered := reading.delivered ++ read.bytes
    failures := if read.ending = .failed then 1 else 0 }

theorem stop_eq_finish (n : Nat) (reading : Reading) (ending : Ending)
    (reads : List ReadOutcome) :
    reading.finish n { bytes := [], ending, rest := reads } =
      reading.stop (if ending = .failed then -1 else (n - reading.nleft : Nat))
        reads (if ending = .failed then 1 else 0) := by
  simp [Reading.finish, Reading.stop]

theorem finish_store {n : Nat} {reading : Reading} {got : List UInt8}
    (started : reading.nleft ≤ n) (fits : got.length ≤ reading.nleft)
    (read : FullRead) :
    (reading.store got).finish n read = reading.finish n (read.after got) := by
  have count : n - (reading.nleft - got.length) + read.bytes.length =
      n - reading.nleft + (got ++ read.bytes).length := by
    rw [List.length_append]
    omega
  rw [Reading.finish, Reading.finish, FullRead.after, Reading.store]
  dsimp only
  rw [count, Memory.storeList_append, List.append_assoc]

theorem recordReadLoop_full {n : Nat} (reads : List ReadOutcome)
    {reading : Reading} (full : reading.nleft = 0) :
    recordReadLoop n reads reading =
      some (reading.stop (n - reading.nleft : Nat) reads 0) := by
  have none : ¬reading.nleft > 0 := by omega
  cases reads with
  | nil => rw [recordReadLoop, if_neg none]
  | cons outcome reads =>
      cases outcome with
      | delivered bytes => rw [recordReadLoop, if_neg none]
      | interrupted => rw [recordReadLoop, if_neg none]
      | failed => rw [recordReadLoop, if_neg none]

/-- The loop is a full read of what is left. -/
theorem recordReadLoop_eq {n : Nat} (reads : List ReadOutcome)
    {reading : Reading} (started : reading.nleft ≤ n) :
    recordReadLoop n reads reading =
      (fullRead reading.nleft reads).map (reading.finish n) := by
  induction reads generalizing reading with
  | nil =>
      cases left : reading.nleft with
      | zero =>
          rw [recordReadLoop_full [] left, fullRead, Option.map_some,
            stop_eq_finish]
          rfl
      | succ missing =>
          have more : reading.nleft > 0 := by omega
          rw [recordReadLoop, if_pos more]
          rfl
  | cons outcome reads induction =>
      cases left : reading.nleft with
      | zero =>
          rw [recordReadLoop_full _ left, fullRead, Option.map_some,
            stop_eq_finish]
          rfl
      | succ missing =>
          have more : reading.nleft > 0 := by omega
          cases outcome with
          | interrupted =>
              rw [recordReadLoop, if_pos more, fullRead, ← left]
              exact induction started
          | failed =>
              rw [recordReadLoop, if_pos more, fullRead, Option.map_some,
                stop_eq_finish]
              rfl
          | delivered bytes =>
              cases bytes with
              | nil =>
                  rw [recordReadLoop, if_pos more, List.take_nil,
                    if_pos List.length_nil, fullRead, Option.map_some,
                    stop_eq_finish]
                  rfl
              | cons byte bytes =>
                  have fits : (byte :: bytes.take missing).length ≤
                      reading.nleft := by
                    rw [left, List.length_cons, List.length_take]
                    omega
                  have later : (reading.store
                      (byte :: bytes.take missing)).nleft ≤ n :=
                    Nat.le_trans (Nat.sub_le _ _) started
                  have some : ¬(byte :: bytes.take missing).length = 0 :=
                    Nat.succ_ne_zero _
                  rw [recordReadLoop, if_pos more, left, List.take_succ_cons,
                    if_neg some, induction later, fullRead, Option.map_map]
                  have nleft : (reading.store
                      (byte :: bytes.take missing)).nleft =
                        missing + 1 - (byte :: bytes.take missing).length := by
                    rw [Reading.store, left]
                  rw [nleft]
                  congr 1
                  funext read
                  exact finish_store started fits read

theorem recordRead_eq (mem : Memory) (rxBuf n : Nat)
    (reads : List ReadOutcome) :
    recordRead mem rxBuf n reads = (fullRead n reads).map fun read =>
      { ret := if read.ending = .failed then -1 else read.bytes.length
        mem := mem.storeList rxBuf read.bytes
        reads := read.rest
        delivered := read.bytes
        failures := if read.ending = .failed then 1 else 0 } := by
  rw [recordRead, recordReadLoop_eq reads (Nat.le_refl n)]
  congr 1
  funext read
  simp [Reading.finish]

end KernelDrivers.Uart
