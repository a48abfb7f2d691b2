import KernelDrivers.Rockusb.MediaRead

/-!
# What a read asks the storage for

A chunk that is followed by another one has that one read ahead, and the number
of blocks read ahead is that of the chunk just sent.  It is too large by what
the last chunk lacks to 128 blocks.
-/

namespace KernelDrivers.Rockusb

open KernelDrivers.Library

variable {σ : Type} {P : Platform σ} {Stable : σ → Prop}
variable {machine start : Machine σ} {cbw : CbWrap} {actions : List Action}

/-- The media blocks that a call reads: the first of them and their number. -/
def Call.mediaRange : Call → Option (Nat × Nat)
  | .storageReadLba lba blocks => some (lba, blocks)
  | .storageReadPba lba blocks => some (lba, blocks)
  | _ => none

/-- The media ranges read in a log. -/
def mediaReads (log : List (Event σ)) : List (Nat × Nat) :=
  (calls log).filterMap fun entry => entry.1.mediaRange

@[simp] theorem mediaReads_append (first second : List (Event σ)) :
    mediaReads (first ++ second) = mediaReads first ++ mediaReads second := by
  simp [mediaReads]

/-- The ranges lie within the request, and no two of them share a block. -/
structure CbWrap.Covers (cbw : CbWrap) (ranges : List (Nat × Nat)) : Prop where
  inside : ∀ range ∈ ranges, cbw.offset ≤ range.1 ∧
    range.1 + range.2 ≤ cbw.offset + cbw.nsectors
  disjoint : ranges.Pairwise fun first second =>
    first.1 + first.2 ≤ second.1 ∨ second.1 + second.2 ≤ first.1

/-- The range that is read for the chunk of the given number. -/
def CbWrap.fillRange (cbw : CbWrap) (chunk : Nat) : Nat × Nat :=
  (cbw.offset + 128 * chunk, cbw.fillBlocks (128 * chunk))

theorem Call.mediaRange_of_other {call : Call} (other : ¬call.isLoad = true) :
    call.mediaRange = none := by
  cases call <;> first | rfl | exact absurd rfl other

theorem mediaReads_eq_loads (log : List (Event σ)) :
    mediaReads log = ((loads log).map Prod.fst).filterMap Call.mediaRange := by
  unfold mediaReads loads
  induction calls log with
  | nil => rfl
  | cons entry rest induction =>
      by_cases load : entry.1.isLoad = true
      · rw [List.filter_cons, if_pos load, List.map_cons, List.filterMap_cons,
          List.filterMap_cons, induction]
      · rw [List.filter_cons, if_neg load, List.filterMap_cons,
          Call.mediaRange_of_other load, induction]

theorem CbWrap.mediaRange_fillCall (read : cbw.isRead) {chunk : Nat}
    (ordinary : cbw.offset + 128 * chunk < cbw.readLimit) :
    (cbw.fillCall (128 * chunk)).mediaRange = some (cbw.fillRange chunk) := by
  rw [fillCall_media read ordinary]
  unfold readCall
  split <;> rfl

theorem CbWrap.mediaRange_fillCalls (read : cbw.isRead) {count : Nat}
    (ordinary : ∀ chunk < count, cbw.offset + 128 * chunk < cbw.readLimit) :
    (cbw.fillCalls count).filterMap Call.mediaRange =
      (List.range count).map cbw.fillRange := by
  induction count with
  | zero => rfl
  | succ count induction =>
      have earlier := induction fun chunk before =>
        ordinary chunk (Nat.lt_succ_of_lt before)
      have last := mediaRange_fillCall read (ordinary count (Nat.lt_succ_self _))
      unfold fillCalls at earlier ⊢
      rw [List.range_succ, List.map_append, List.filterMap_append, earlier,
        List.map_append]
      simp [last]

theorem Phase.started {Good : Nat → Memory → Prop} {ahead : Nat}
    {chunks : List (List UInt8)} {statuses : List CsWrap}
    (phase : Phase Good cbw machine chunks statuses ahead) :
    ∀ chunk < chunks.length + ahead, 128 * chunk < cbw.nsectors := by
  intro chunk before
  cases phase with
  | streaming _ sent streaming =>
      have count := sent.count
      have left := streaming.reading.left
      omega
  | streamed sent _ =>
      have count := sent.count
      omega
  | answered sent _ _ _ _ =>
      have count := sent.count
      omega

theorem Phase.finished {Good : Nat → Memory → Prop} {ahead : Nat}
    {chunks : List (List UInt8)} {statuses : List CsWrap}
    (phase : Phase Good cbw machine chunks statuses ahead)
    (answered : statuses ≠ []) :
    cbw.nsectors ≤ 128 * (chunks.length + ahead) := by
  cases phase with
  | streaming => exact absurd rfl answered
  | streamed => exact absurd rfl answered
  | answered sent _ _ _ _ =>
      have count := sent.covered
      omega

theorem ReadProgress.mediaReads {Good : Nat → Memory → Prop}
    {chunks : List (List UInt8)} {statuses : List CsWrap}
    (progress : ReadProgress Stable Good cbw start actions machine chunks
      statuses) (read : cbw.isRead) (some : 0 < cbw.nsectors)
    (range : cbw.offset + cbw.nsectors ≤ cbw.readLimit)
    (empty : start.usbcmd.preRead.preBlocks = 0) :
    ∃ events count, machine.log = start.log ++ events ∧
      mediaReads events = (List.range count).map cbw.fillRange ∧
      (∀ chunk < count, 128 * chunk < cbw.nsectors) ∧
      (statuses ≠ [] → cbw.nsectors ≤ 128 * count) := by
  obtain ⟨ahead, filled, phase, ⟨events, grown, -, -, loaded⟩, calls⟩ :=
    progress.phase
  have started := phase.started
  refine ⟨events, chunks.length + ahead, grown, ?_, started, phase.finished⟩
  rw [if_neg (cbw.not_hits some empty), List.drop_zero] at calls
  rw [mediaReads_eq_loads, loaded, calls]
  apply CbWrap.mediaRange_fillCalls read
  intro chunk before
  have inside := started chunk before
  omega

theorem CbWrap.covers_fillRanges
    (whole : cbw.nsectors ≤ 128 ∨ 128 ∣ cbw.nsectors) {count : Nat}
    (started : ∀ chunk < count, 128 * chunk < cbw.nsectors) :
    cbw.Covers ((List.range count).map cbw.fillRange) := by
  constructor
  · intro range member
    obtain ⟨chunk, before, rfl⟩ := List.mem_map.mp member
    have inside := started chunk (List.mem_range.mp before)
    unfold fillRange fillBlocks
    dsimp only
    split <;> omega
  · rw [List.pairwise_map]
    apply List.pairwise_lt_range.imp
    intro first second earlier
    have atMost := cbw.fillBlocks_le (128 * first)
    left
    unfold fillRange
    dsimp only
    omega

/-- The blocks read ahead for an incomplete last chunk leave the request. -/
theorem CbWrap.whole_of_covers {count : Nat}
    (covers : cbw.Covers ((List.range count).map cbw.fillRange))
    (finished : cbw.nsectors ≤ 128 * count) :
    cbw.nsectors ≤ 128 ∨ 128 ∣ cbw.nsectors := by
  by_contra incomplete
  have last : cbw.nsectors / 128 < count := by omega
  have member : cbw.fillRange (cbw.nsectors / 128) ∈
      (List.range count).map cbw.fillRange :=
    List.mem_map_of_mem (List.mem_range.mpr last)
  have inside := (covers.inside _ member).2
  unfold fillRange fillBlocks at inside
  rw [if_neg (by omega)] at inside
  dsimp only at inside
  omega

/-- What a run over one read asks the storage for: disjoint ranges within the
request.  A storage that has the blocks of the request then only reads blocks
it has, and they are what the read returns. -/
def ReadContained (P : Platform σ) (cbw : CbWrap) (start : Machine σ)
    (actions : List Action) (machine : Machine σ) : Prop :=
  ∃ events, machine.log = start.log ++ events ∧
    cbw.Covers (mediaReads events) ∧
    ∀ (Stable : σ → Prop) (media : Memory) (capacity : Nat),
      ReadsUpTo P Stable cbw media capacity → Stable start.platform →
      cbw.offset + cbw.nsectors ≤ capacity →
      (∀ range ∈ mediaReads events, range.1 + range.2 ≤ capacity) ∧
      ReadOutcome media cbw start actions machine

theorem CbWrap.fills_within
    (whole : cbw.nsectors ≤ 128 ∨ 128 ∣ cbw.nsectors) {capacity : Nat}
    (within : cbw.offset + cbw.nsectors ≤ capacity) :
    ∀ c < cbw.nsectors, 128 ∣ c →
      cbw.offset + c + cbw.fillBlocks c ≤ capacity := by
  intro c left aligned
  unfold fillBlocks
  split <;> omega

/-- In every run the storage is asked for blocks of the request only, each of
them once, exactly if no incomplete chunk follows a full one. -/
theorem read_contained_iff (read : cbw.isRead) (some : 0 < cbw.nsectors)
    (range : cbw.offset + cbw.nsectors ≤ cbw.readLimit)
    (received : CommandReceived cbw start)
    (empty : start.usbcmd.preRead.preBlocks = 0) :
    (∀ actions machine,
      Run (step P) (fun _ action => action.servesRead) start actions machine →
      ReadContained P cbw start actions machine) ↔
      cbw.nsectors ≤ 128 ∨ 128 ∣ cbw.nsectors := by
  have fills := fillsGood_any P cbw
  constructor
  · intro contained
    obtain ⟨actions, machine, chunks, statuses, run, progress, answered⟩ :=
      exists_answered (P := P) read some received trivial fills
        fun _ => trivial
    obtain ⟨events, grown, covers, -⟩ := contained actions machine run
    obtain ⟨events', count, grown', ranges, -, finished⟩ :=
      progress.mediaReads read some range empty
    obtain rfl : events = events' :=
      List.append_cancel_left (grown.symm.trans grown')
    rw [ranges] at covers
    exact CbWrap.whole_of_covers covers (finished answered)
  · intro whole actions machine run
    have found : ∃ events count, machine.log = start.log ++ events ∧
        mediaReads events = (List.range count).map cbw.fillRange ∧
        ∀ chunk < count, 128 * chunk < cbw.nsectors := by
      rcases readProgress_of_run read some received trivial fills
        (fun _ => trivial) run with ⟨rfl, rfl⟩ | ⟨_, _, progress⟩
      · exact ⟨[], 0, by simp, rfl, by simp⟩
      · obtain ⟨events, count, grown, ranges, started, -⟩ :=
          progress.mediaReads read some range empty
        exact ⟨events, count, grown, ranges, started⟩
    obtain ⟨events, count, grown, ranges, started⟩ := found
    have covers := CbWrap.covers_fillRanges whole started
    rw [← ranges] at covers
    refine ⟨events, grown, covers, ?_⟩
    intro Stable media capacity platform stable within
    refine ⟨?_, ?_⟩
    · intro asked member
      exact Nat.le_trans (covers.inside asked member).2 within
    · have good := fillsGood_media read range (CbWrap.fills_within whole within)
        platform
      exact readOutcome_of_run read some good stable received empty run

private def readPacket (nsectors : Nat) : List UInt8 :=
  cbwPacket 7 (512 * nsectors) 0x14 0 5 nsectors

theorem read_contained_whole :
    ∃ machine : Machine Unit, csws machine.log ≠ [] ∧
      ReadContained (readOnlyStorage 0 numberedMedia)
        (CbWrap.ofBuffer (Memory.storeList (fun _ => 0) 0 (readPacket 256)))
        (receivedMachine (readPacket 256) ())
        [.iterate, .inDone 0 0 65536, .iterate, .inDone 0 0 65536, .iterate]
        machine := by
  have passed : (execute (step (readOnlyStorage 0 numberedMedia))
      (fun _ action => action.servesRead)
      (receivedMachine (readPacket 256) ())
      [.iterate, .inDone 0 0 65536, .iterate, .inDone 0 0 65536,
        .iterate]).any
        (fun machine => decide (csws machine.log ≠ [])) = true := by
    decide +kernel
  obtain ⟨final, run, answered⟩ := Run.exists_of_execute passed
  refine ⟨final, by simpa using answered, ?_⟩
  refine (read_contained_iff (.inr ?_) ?_ ?_ ?_ rfl).mpr (.inr ?_) _ _ run
  · decide
  · decide
  · decide
  · exact ⟨rfl, by decide, rfl, by decide, ⟨0, rfl, rfl⟩, rfl, rfl, rfl⟩
  · decide

/-- A read of the blocks 5 to 133 reads the blocks 133 to 260 ahead. -/
theorem not_read_contained_incomplete :
    ¬∀ actions machine, Run (step (readOnlyStorage 0 numberedMedia))
        (fun _ action => action.servesRead)
        (receivedMachine (readPacket 129) ()) actions machine →
      ReadContained (readOnlyStorage 0 numberedMedia)
        (CbWrap.ofBuffer (Memory.storeList (fun _ => 0) 0 (readPacket 129)))
        (receivedMachine (readPacket 129) ()) actions machine := by
  intro contained
  have passed : (execute (step (readOnlyStorage 0 numberedMedia))
      (fun _ action => action.servesRead)
      (receivedMachine (readPacket 129) ()) [.iterate]).any
        (fun machine => decide ((133, 128) ∈ mediaReads machine.log)) =
          true := by
    decide +kernel
  obtain ⟨final, run, ahead⟩ := Run.exists_of_execute passed
  obtain ⟨events, grown, covers, -⟩ := contained _ final run
  have asked : (133, 128) ∈ mediaReads events := by
    have member := of_decide_eq_true ahead
    rwa [grown, mediaReads_append] at member
  have inside := (covers.inside _ asked).2
  revert inside
  decide

end KernelDrivers.Rockusb
