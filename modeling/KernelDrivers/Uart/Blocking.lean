import KernelDrivers.Uart.Words

/-!
# `record_read` as a blocking read

What a record is, against the sequence of calls that ends it.  The number of
bytes is converted to an `ssize_t` when it is returned.
-/

namespace KernelDrivers.Uart

open KernelDrivers.Library

variable {width : Nat}

/-- The result for the calls that have ended a read of `wanted` bytes. -/
structure Returned (wanted : Nat) (used : List ReadOutcome) (ending : Ending)
    (ret : Int) : Prop where
  full : ending = .full → ret = wanted
  endOfFile : ending = .endOfFile →
    ret = (received used).length ∧ (received used).length < wanted
  failed : ret = -1 ↔ ending = .failed

/-- The bytes that are delivered, and no others, are in the buffer, and the
result is as given for the calls. -/
structure BlockingRead
    (result : List ReadOutcome → Ending → BitVec width → Prop) (mem : Memory)
    (rxBuf : Nat) (n : BitVec width) (reads : List ReadOutcome) : Prop where
  blocks : recordReadWords mem rxBuf n reads = none ↔
    Unfinished n.toNat reads
  stores : ∀ used rest ending, reads = used ++ rest →
    Ends n.toNat used ending →
      ∃ record, recordReadWords mem rxBuf n reads = some record ∧
        record.reads = rest ∧
        record.mem = mem.storeList rxBuf ((received used).take n.toNat) ∧
        result used ending record.ret
  inside : ∀ record, recordReadWords mem rxBuf n reads = some record →
    ∀ address, address < rxBuf ∨ rxBuf + n.toNat ≤ address →
      record.mem address = mem address
  interruptions : recordReadWords mem rxBuf n (uninterrupted reads) =
    (recordReadWords mem rxBuf n reads).map fun record =>
      { record with reads := uninterrupted record.reads }

/-- The result as a number of type `ssize_t`. -/
def ReturnsExactly (n : BitVec width) (used : List ReadOutcome)
    (ending : Ending) (ret : BitVec width) : Prop :=
  Returned n.toNat used ending ret.toInt

/-- The result is converted, and up to `SSIZE_MAX` that makes no difference. -/
def ReturnsConverted (n : BitVec width) (used : List ReadOutcome)
    (ending : Ending) (ret : BitVec width) : Prop :=
  (∃ value, Returned n.toNat used ending value ∧
      ret = .ofInt width value) ∧
    (FitsSsize width n.toNat → ReturnsExactly n used ending ret)

/-- The result before the conversion. -/
def readResult (bytes : List UInt8) (ending : Ending) : Int :=
  if ending = .failed then -1 else bytes.length

theorem recordReadWords_full (mem : Memory) (rxBuf : Nat) (n : BitVec width)
    (reads : Reads width) :
    recordReadWords mem rxBuf n reads.outcomes =
      (fullRead n.toNat reads.outcomes).map fun read =>
        { ret := .ofInt width (readResult read.bytes read.ending)
          mem := mem.storeList rxBuf read.bytes
          reads := read.rest } := by
  rw [recordReadWords_eq, recordRead_eq, Option.map_map]
  rfl

theorem returned_readResult {wanted : Nat} {used : List ReadOutcome}
    {ending : Ending} (ends : Ends wanted used ending) :
    Returned wanted used ending
      (readResult ((received used).take wanted) ending) := by
  unfold readResult
  constructor
  · rintro rfl
    rw [if_neg (by decide), List.length_take, Nat.min_eq_left ends.full_le]
  · rintro rfl
    have short := ends.short (by decide)
    rw [if_neg (by decide), List.take_of_length_le (Nat.le_of_lt short)]
    exact ⟨rfl, short⟩
  · constructor
    · intro negative
      by_contra fine
      rw [if_neg fine] at negative
      omega
    · intro failed
      exact if_pos failed

theorem toInt_readResult {n : BitVec width} (fits : FitsSsize width n.toNat)
    {used : List ReadOutcome} {ending : Ending}
    (ends : Ends n.toNat used ending) :
    (BitVec.ofInt width
      (readResult ((received used).take n.toNat) ending)).toInt =
        readResult ((received used).take n.toNat) ending := by
  unfold readResult
  by_cases failed : ending = .failed
  · have wanted := ends.short (by rw [failed]; decide)
    have signed : 0 < width := by
      rcases Nat.eq_zero_or_pos width with rfl | positive
      · have none := n.isLt
        omega
      · exact positive
    rw [if_pos failed, ← neg_one_eq_ofInt]
    exact (congrArg BitVec.toInt BitVec.neg_one_eq_allOnes).trans
      (by rw [BitVec.toInt_allOnes, if_pos signed])
  · have less := fits.mono (List.length_take_le n.toNat (received used))
    have count := toNat_of_fits less
    rw [if_neg failed, BitVec.ofInt_natCast, BitVec.toInt_eq_toNat_of_lt, count]
    rw [count]
    exact less

/-- Up to `SSIZE_MAX` the word that is returned has the value of the number. -/
theorem recordReadWords_toInt (mem : Memory) (rxBuf : Nat) {n : BitVec width}
    (fits : FitsSsize width n.toNat) (reads : Reads width) :
    (recordReadWords mem rxBuf n reads.outcomes).map (·.ret.toInt) =
      (recordRead mem rxBuf n.toNat reads.outcomes).map Record.ret := by
  rw [recordReadWords_full, recordRead_eq, Option.map_map, Option.map_map]
  cases done : fullRead n.toNat reads.outcomes with
  | none => rfl
  | some read =>
      obtain ⟨used, _, ends, bytes⟩ := fullRead_eq_some_iff.mp done
      have value := toInt_readResult fits ends
      rw [← bytes] at value
      exact congrArg some value

/-- A record is a blocking read for every size, with the number of bytes
converted on return. -/
theorem recordRead_blocking (mem : Memory) (rxBuf : Nat) (n : BitVec width)
    (reads : Reads width) :
    BlockingRead (ReturnsConverted n) mem rxBuf n reads.outcomes := by
  have full := recordReadWords_full mem rxBuf n reads
  constructor
  · rw [full, Option.map_eq_none_iff, fullRead_eq_none_iff]
  · intro used rest ending split ends
    have done := fullRead_eq_some ends rest
    rw [← split] at done
    rw [full, done]
    refine ⟨_, rfl, rfl, rfl, ⟨_, returned_readResult ends, rfl⟩, ?_⟩
    intro fits
    rw [ReturnsExactly, toInt_readResult fits ends]
    exact returned_readResult ends
  · intro record done address outside
    rw [full] at done
    obtain ⟨read, ended, rfl⟩ := Option.map_eq_some_iff.mp done
    have bound := fullRead_length_le ended
    apply Memory.storeList_outside
    omega
  · have counts : ∀ bytes, .delivered bytes ∈ uninterrupted reads.outcomes →
        FitsSsize width bytes.length := by
      intro bytes member
      exact reads.counts bytes (List.mem_of_mem_filter member)
    have without := recordReadWords_full mem rxBuf n
      { outcomes := uninterrupted reads.outcomes, counts }
    dsimp only at without
    rw [without, full, fullRead_uninterrupted, Option.map_map, Option.map_map]
    rfl

/-- Two halves of a request for 2 ^ 31 bytes. -/
def halves : Reads 32 :=
  { outcomes := List.replicate 2 (.delivered (List.replicate (2 ^ 30) 0x41))
    counts := by
      intro bytes member
      cases List.eq_of_mem_replicate member
      rw [FitsSsize, List.length_replicate]
      decide }

/-- All of them are delivered, and the result is negative. -/
theorem not_blockingRead_halves :
    ¬BlockingRead (ReturnsExactly (0x80000000 : BitVec 32)) (fun _ => 0) 0
      0x80000000 halves.outcomes := by
  intro blocking
  have length : (List.replicate (2 ^ 30) (0x41 : UInt8)).length = 2 ^ 30 :=
    List.length_replicate
  have split : halves.outcomes = List.replicate 2
      (.delivered (List.replicate (2 ^ 30) 0x41)) := rfl
  generalize List.replicate (2 ^ 30) (0x41 : UInt8) = half at length split
  have wanted : (0x80000000 : BitVec 32).toNat = 2 ^ 31 := rfl
  have first : Unfinished (2 ^ 31) [.delivered half] := by
    constructor
    · simp [length]
    · intro outcome member
      rw [List.mem_singleton.mp member]
      refine ⟨by simp, ?_⟩
      intro none
      cases none
      simp at length
  have ends : Ends (2 ^ 31) ([.delivered half] ++ [.delivered half]) .full := by
    apply Ends.full first
    simp [length]
  obtain ⟨record, -, -, -, returned⟩ :=
    blocking.stores _ [] .full split ends
  have all := returned.full rfl
  have bound := BitVec.toInt_lt (x := record.ret)
  rw [wanted] at all
  omega

end KernelDrivers.Uart
