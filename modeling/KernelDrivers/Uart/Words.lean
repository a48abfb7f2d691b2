import KernelDrivers.Uart.Record

/-!
# A record in machine words

`record_read` with the types of its source.  `n` and `nleft` are of type
`size_t`, and what `read` and `record_read` return is of type `ssize_t`.
-/

namespace KernelDrivers.Uart

open KernelDrivers.Library

variable {width : Nat}

/-- The counts up to `SSIZE_MAX`. -/
def FitsSsize (width count : Nat) : Prop :=
  2 * count < 2 ^ width

/-- Outcomes whose counts `read` can return. -/
structure Reads (width : Nat) where
  outcomes : List ReadOutcome
  counts : ∀ bytes, .delivered bytes ∈ outcomes →
    FitsSsize width bytes.length

structure ReadingWords (width : Nat) where
  mem : Memory
  rxBuf : Nat
  nleft : BitVec width

structure RecordWords (width : Nat) where
  ret : BitVec width
  mem : Memory
  reads : List ReadOutcome

/-- What `read` returns, with the bytes that it has delivered. -/
def readWords (nleft : BitVec width) : ReadOutcome → BitVec width × List UInt8
  | .delivered bytes =>
      let got := bytes.take nleft.toNat
      (.ofNat width got.length, got)
  | .interrupted => (-1, [])
  | .failed => (-1, [])

/-- `nleft -= nread` and `rx_buf += nread`. -/
def ReadingWords.store (reading : ReadingWords width) (nread : BitVec width)
    (got : List UInt8) : ReadingWords width :=
  { mem := reading.mem.storeList reading.rxBuf got
    rxBuf := reading.rxBuf + nread.toNat
    nleft := reading.nleft - nread }

def recordReadLoopWords (n : BitVec width) :
    List ReadOutcome → ReadingWords width → Option (RecordWords width)
  | [], reading =>
      if reading.nleft > 0 then none
      else some { ret := n - reading.nleft, mem := reading.mem, reads := [] }
  | outcome :: reads, reading =>
      if reading.nleft > 0 then
        let call := readWords reading.nleft outcome
        if call.1.slt 0 then
          if outcome = .interrupted then
            recordReadLoopWords n reads (reading.store 0 call.2)
          else some { ret := -1, mem := reading.mem, reads }
        else if call.1 = 0 then
          some { ret := n - reading.nleft, mem := reading.mem, reads }
        else recordReadLoopWords n reads (reading.store call.1 call.2)
      else
        some {
          ret := n - reading.nleft
          mem := reading.mem
          reads := outcome :: reads }

def recordReadWords (mem : Memory) (rxBuf : Nat) (n : BitVec width)
    (reads : List ReadOutcome) : Option (RecordWords width) :=
  recordReadLoopWords n reads { mem, rxBuf, nleft := n }

/-- The result is converted to a word. -/
def RecordWords.ofRecord (width : Nat) (record : Record) :
    RecordWords width :=
  { ret := .ofInt width record.ret
    mem := record.mem
    reads := record.reads }

/-- The variables, as numbers. -/
def ReadingWords.numbers (reading : ReadingWords width)
    (delivered : List UInt8) : Reading :=
  { mem := reading.mem
    rxBuf := reading.rxBuf
    nleft := reading.nleft.toNat
    delivered }

theorem sub_eq_ofInt {n nleft : BitVec width} (started : nleft ≤ n) :
    n - nleft = .ofInt width (n.toNat - nleft.toNat : Nat) := by
  rw [BitVec.ofInt_natCast]
  apply BitVec.eq_of_toNat_eq
  have bound := n.isLt
  rw [BitVec.toNat_sub_of_le started, BitVec.toNat_ofNat, Nat.mod_eq_of_lt]
  omega

theorem neg_one_eq_ofInt : (-1 : BitVec width) = .ofInt width (-1) := by
  rw [BitVec.ofInt_neg]
  rfl

theorem neg_one_slt {nleft : BitVec width} (more : nleft > 0) :
    (-1 : BitVec width).slt 0 = true := by
  cases width with
  | zero =>
      rw [BitVec.eq_nil nleft] at more
      exact absurd more (by decide)
  | succ width =>
      have negative : (-1#(width + 1)).msb = true := by
        rw [BitVec.neg_one_eq_allOnes, BitVec.msb_allOnes (Nat.succ_pos width)]
      exact BitVec.slt_zero_iff_msb_cond.mpr negative

theorem FitsSsize.mono {count less : Nat} (fits : FitsSsize width count)
    (below : less ≤ count) : FitsSsize width less :=
  Nat.lt_of_le_of_lt (Nat.mul_le_mul_left 2 below) fits

theorem toNat_of_fits {count : Nat} (fits : FitsSsize width count) :
    (BitVec.ofNat width count).toNat = count := by
  unfold FitsSsize at fits
  rw [BitVec.toNat_ofNat]
  apply Nat.mod_eq_of_lt
  omega

theorem ofNat_not_slt {count : Nat} (fits : FitsSsize width count) :
    ¬(BitVec.ofNat width count).slt 0 = true := by
  intro negative
  have sign := BitVec.slt_zero_iff_msb_cond.mp negative
  have same := toNat_of_fits fits
  unfold FitsSsize at fits
  rw [BitVec.msb_eq_true_iff_two_mul_ge, same] at sign
  omega

theorem store_nleft (reading : ReadingWords width) {bytes : List UInt8}
    (fits : FitsSsize width bytes.length)
    (less : bytes.length ≤ reading.nleft.toNat) :
    (reading.store (.ofNat width bytes.length) bytes).nleft.toNat =
      reading.nleft.toNat - bytes.length := by
  have count := toNat_of_fits fits
  have below : BitVec.ofNat width bytes.length ≤ reading.nleft := by
    rw [BitVec.le_def, count]
    exact less
  rw [ReadingWords.store, BitVec.toNat_sub_of_le below, count]

theorem store_numbers (reading : ReadingWords width)
    {bytes delivered : List UInt8} (fits : FitsSsize width bytes.length)
    (less : bytes.length ≤ reading.nleft.toNat) :
    (reading.store (.ofNat width bytes.length) bytes).numbers
        (delivered ++ bytes) =
      (reading.numbers delivered).store bytes := by
  have rest := store_nleft reading fits less
  have count := toNat_of_fits fits
  rw [ReadingWords.numbers, rest]
  simp only [ReadingWords.store, ReadingWords.numbers, Reading.store, count]

theorem recordReadLoopWords_delivered {n : BitVec width}
    {reading : ReadingWords width} (more : reading.nleft > 0)
    {bytes : List UInt8} (fits : FitsSsize width bytes.length)
    (reads : List ReadOutcome) :
    recordReadLoopWords n (.delivered bytes :: reads) reading =
      let got := bytes.take reading.nleft.toNat
      if got.length = 0 then
        some { ret := n - reading.nleft, mem := reading.mem, reads }
      else
        recordReadLoopWords n reads
          (reading.store (.ofNat width got.length) got) := by
  have fits := fits.mono (List.length_take_le' reading.nleft.toNat bytes)
  have count := toNat_of_fits fits
  have zero : BitVec.ofNat width (bytes.take reading.nleft.toNat).length = 0 ↔
      (bytes.take reading.nleft.toNat).length = 0 := by
    rw [← BitVec.toNat_inj, count]
    simp
  rw [recordReadLoopWords, if_pos more, readWords]
  simp only [if_neg (ofNat_not_slt fits), zero]

theorem recordReadLoopWords_full {n : BitVec width} (reads : List ReadOutcome)
    {reading : ReadingWords width} (started : reading.nleft ≤ n)
    (full : ¬reading.nleft > 0) (delivered : List UInt8) :
    recordReadLoopWords n reads reading =
      (recordReadLoop n.toNat reads (reading.numbers delivered)).map
        (.ofRecord width) := by
  have none : (reading.numbers delivered).nleft = 0 :=
    Nat.eq_zero_of_not_pos full
  have words : recordReadLoopWords n reads reading =
      some { ret := n - reading.nleft, mem := reading.mem, reads } := by
    cases reads with
    | nil => rw [recordReadLoopWords, if_neg full]
    | cons outcome reads => rw [recordReadLoopWords, if_neg full]
  rw [words, recordReadLoop_full reads none, sub_eq_ofInt started]
  rfl

/-- The loops do the same, as long as `read` returns no more than an `ssize_t`
can hold. -/
theorem recordReadLoopWords_eq {n : BitVec width} (reads : List ReadOutcome)
    (counts : ∀ bytes, .delivered bytes ∈ reads →
      FitsSsize width bytes.length)
    {reading : ReadingWords width} (started : reading.nleft ≤ n)
    (delivered : List UInt8) :
    recordReadLoopWords n reads reading =
      (recordReadLoop n.toNat reads (reading.numbers delivered)).map
        (.ofRecord width) := by
  induction reads generalizing reading delivered with
  | nil =>
      by_cases more : reading.nleft > 0
      · have some : (reading.numbers delivered).nleft > 0 := more
        rw [recordReadLoopWords, recordReadLoop, if_pos more, if_pos some]
        rfl
      · exact recordReadLoopWords_full _ started more delivered
  | cons outcome reads induction =>
      have later : ∀ bytes, .delivered bytes ∈ reads →
          FitsSsize width bytes.length := by
        intro bytes member
        exact counts bytes (List.mem_cons_of_mem _ member)
      by_cases more : reading.nleft > 0
      · have some : (reading.numbers delivered).nleft > 0 := more
        cases outcome with
        | interrupted =>
            have again : (reading.store 0 []).numbers delivered =
                reading.numbers delivered := by
              simp [ReadingWords.store, ReadingWords.numbers]
            have before : (reading.store 0 []).nleft ≤ n := by
              simpa [ReadingWords.store] using started
            rw [recordReadLoopWords, if_pos more, recordReadLoop, if_pos some]
            dsimp only [readWords]
            rw [if_pos (neg_one_slt more), if_pos rfl,
              induction later before delivered, again]
        | failed =>
            rw [recordReadLoopWords, if_pos more, recordReadLoop, if_pos some]
            dsimp only [readWords]
            rw [if_pos (neg_one_slt more), if_neg (by simp), Option.map_some,
              RecordWords.ofRecord, Reading.stop, neg_one_eq_ofInt]
            rfl
        | delivered bytes =>
            have fits := counts bytes List.mem_cons_self
            have less : (bytes.take reading.nleft.toNat).length ≤
                reading.nleft.toNat := List.length_take_le _ _
            have taken := fits.mono
              (List.length_take_le' reading.nleft.toNat bytes)
            have same : (reading.numbers delivered).nleft =
                reading.nleft.toNat := rfl
            rw [recordReadLoopWords_delivered more fits, recordReadLoop,
              if_pos some]
            dsimp only
            rw [same]
            by_cases none : (bytes.take reading.nleft.toNat).length = 0
            · rw [if_pos none, if_pos none, sub_eq_ofInt started]
              rfl
            · rw [if_neg none, if_neg none, ← store_numbers reading taken less]
              apply induction later
              rw [BitVec.le_def] at started ⊢
              rw [store_nleft reading taken less]
              omega
      · exact recordReadLoopWords_full _ started more delivered

theorem recordReadWords_eq (mem : Memory) (rxBuf : Nat) (n : BitVec width)
    (reads : Reads width) :
    recordReadWords mem rxBuf n reads.outcomes =
      (recordRead mem rxBuf n.toNat reads.outcomes).map (.ofRecord width) :=
  recordReadLoopWords_eq reads.outcomes reads.counts (BitVec.le_refl n) []

end KernelDrivers.Uart
