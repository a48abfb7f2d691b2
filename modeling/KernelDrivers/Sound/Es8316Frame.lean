import Mathlib.Algebra.GroupWithZero.Nat
import KernelDrivers.Sound.Es8316Power

/-!
# The other direction of the ES8316

A stream that is open shares the codec with streams of the other direction that
come and go.  They leave its registers, its clocks and the power alone, but not
the divider of the master clock.
-/

namespace KernelDrivers.Sound

open KernelDrivers.Library

/-- The clocks that a stream needs. -/
def neededClocks (stream : Stream) : List Nat :=
  dacMclk :: ownClocks stream

/-- What an open stream relies on. -/
structure StreamKept (stream : Stream) (before after : Es8316Chip) : Prop where
  divider : after.regs.bit es8316Clksw mclkDiv =
    before.regs.bit es8316Clksw mclkDiv
  clocks : ∀ index ∈ neededClocks stream,
    after.regs.bit es8316Clksw index = true
  power : after.regs es8316SysPdn = 0
  own : ∀ reg ∈ ownRegs stream, after.regs reg = before.regs reg

/-- Startups (`true`) and shutdowns of the other direction. -/
def oppositeStep (stream : Stream) (card : Es8316Card) (up : Bool) :
    Option Es8316Card :=
  es8316Step card
    (if up then .startup stream.other else .shutdown stream.other)

/-- The stream still has after the call what it relied on in `before`. -/
def OppositeKept (stream : Stream) (before : Es8316Chip) (card : Es8316Card)
    (up : Bool) : Prop :=
  ∀ next, oppositeStep stream card up = some next →
    StreamKept stream before next.chip

/-- The shutdown of one of two open streams is not taken for the last one:
`pwr_count` has not run over. -/
def CountedOpen (card : Es8316Card) : Es8316Call → Prop
  | .shutdown stream => card.opened stream = true →
      card.opened stream.other = true → card.chip.pwrCount ≠ 1
  | _ => True

def Es8316Call.isStartup : Es8316Call → Bool
  | .startup _ => true
  | _ => false

/-- The other direction is not opened while the master clock is divided, nor
taken for the last one when it is closed. -/
def OppositeSafe (stream : Stream) (card : Es8316Card) : Bool → Prop
  | true => card.opened stream.other = false →
      card.chip.regs.bit es8316Clksw mclkDiv = false
  | false => card.opened stream.other = true → card.chip.pwrCount ≠ 1

instance (stream : Stream) (card : Es8316Card) :
    (up : Bool) → Decidable (OppositeSafe stream card up)
  | true => inferInstanceAs (Decidable (_ → _))
  | false => inferInstanceAs (Decidable (_ → _))

/-- `pwr_count` counts the open streams and the startups that were refused. -/
structure Counted (startups : Nat) (card : Es8316Card) : Prop where
  opened : openCount card.opened ≤ card.chip.pwrCount
  atMost : card.chip.pwrCount.toNat ≤ startups

theorem Counted.countedOpen {startups : Nat} {card : Es8316Card}
    (counted : Counted startups card) (call : Es8316Call) :
    CountedOpen card call := by
  cases call with
  | shutdown stream =>
      intro isOpen otherOpen one
      have two := openCount_other isOpen
      rw [otherOpen, if_pos rfl] at two
      have opened := counted.opened
      rw [two, one] at opened
      exact absurd opened (by decide)
  | _ => trivial

theorem Counted.step {startups : Nat} {card next : Es8316Card}
    {call : Es8316Call} (counted : Counted startups card)
    (few : startups + call.isStartup.toNat < 2 ^ 32)
    (taken : es8316Step card call = some next) :
    Counted (startups + call.isStartup.toNat) next := by
  obtain ⟨opened, atMost⟩ := counted
  cases call with
  | setDaiSysclk freq =>
      cases taken
      have same := (setDaiSysclk_kept card.chip freq).2
      exact ⟨same ▸ opened, same ▸ atMost⟩
  | hwParams stream rate format =>
      rw [es8316Step] at taken
      split at taken
      · cases taken
        have same := (hwParams_kept card.chip rate format).1
        exact ⟨same ▸ opened, same ▸ atMost⟩
      · cases taken
  | startup stream =>
      cases isClosed : card.opened stream with
      | true => simp [es8316Step, isClosed] at taken
      | false =>
          rw [startup_step isClosed, startup_eq] at taken
          cases taken
          have fits : startups + 1 < 2 ^ 32 := few
          refine ⟨?_, ?_⟩ <;> dsimp only [Es8316Call.isStartup, Bool.toNat_true]
          · split
            · bv_omega
            · rw [openCount_open isClosed]
              bv_omega
          · bv_omega
  | shutdown stream =>
      cases isOpen : card.opened stream with
      | false => simp [es8316Step, isOpen] at taken
      | true =>
          rw [es8316Step, if_pos isOpen] at taken
          cases taken
          have fewer := openCount_close isOpen
          have one : 1 ≤ openCount card.opened := by
            rw [openCount_other isOpen]
            split <;> decide
          by_cases last : card.chip.pwrCount - 1 = 0
          · obtain ⟨zero, -, -⟩ := shutdown_last card.chip stream last
            refine ⟨?_, ?_⟩ <;> dsimp only
            · rw [zero, fewer]
              bv_omega
            · rw [zero]
              exact Nat.zero_le _
          · rw [shutdown_running _ _ last]
            refine ⟨?_, ?_⟩ <;> dsimp only
            · rw [fewer]
              bv_omega
            · bv_omega

/-- Every run with fewer than 2^32 startups is one whose shutdowns are counted
right. -/
theorem countedOpen_of_few {regs : Codec} {sysclk : Nat}
    {calls : List Es8316Call} {card : Es8316Card}
    (run : Run es8316Step (fun _ _ => True) (.start regs sysclk) calls card)
    (few : calls.countP Es8316Call.isStartup < 2 ^ 32) :
    Run es8316Step CountedOpen (.start regs sysclk) calls card ∧
      Counted (calls.countP Es8316Call.isStartup) card := by
  induction run with
  | nil => exact ⟨.nil, ⟨Nat.le_refl 0, Nat.le_refl 0⟩⟩
  | @snoc calls middle final call _ _ taken induction =>
      have more : (calls ++ [call]).countP Es8316Call.isStartup =
          calls.countP Es8316Call.isStartup + call.isStartup.toNat := by
        rw [List.countP_append, List.countP_singleton]
        cases call.isStartup <;> rfl
      rw [more] at few ⊢
      obtain ⟨before, counted⟩ := induction (by omega)
      exact ⟨before.snoc (counted.countedOpen call) taken,
        counted.step few taken⟩

/-- Streams that are open have power and clocks. -/
structure StreamsServed (card : Es8316Card) : Prop where
  power : ∀ stream, card.opened stream = true →
    card.chip.regs es8316SysPdn = 0
  clocks : ∀ stream, card.opened stream = true →
    ∀ index ∈ neededClocks stream,
      card.chip.regs.bit es8316Clksw index = true

theorem neededClocks_inside {stream : Stream} {index : Nat}
    (needed : index ∈ neededClocks stream) :
    index < 8 ∧ index ≠ mclkDiv := by
  rcases List.mem_cons.mp needed with rfl | own
  · decide
  · obtain ⟨inside, notDiv, -⟩ := ownClocks_inside own
    exact ⟨inside, notDiv⟩

/-- A startup keeps the clocks that were enabled, but for the divider. -/
theorem startup_clocks {regs : Codec} {stream : Stream} {index : Nat}
    (inside : index < 8) (notDiv : index ≠ mclkDiv)
    (enabled : regs.bit es8316Clksw index = true ∨
      index ∈ neededClocks stream) :
    (startupStream (startupCommon regs) stream).bit es8316Clksw index =
      true := by
  rw [startup_bit _ _ inside, if_neg notDiv]
  rcases enabled with enabled | needed
  · split
    · rfl
    · exact enabled
  · exact if_pos (List.mem_cons.mp needed)

theorem shutdown_clocks {regs : Codec} {stream : Stream} {index : Nat}
    (needed : index ∈ neededClocks stream.other) :
    (shutdownStream regs stream).bit es8316Clksw index =
      regs.bit es8316Clksw index := by
  have foreign : index ∉ ownClocks stream := by
    rcases List.mem_cons.mp needed with rfl | own
    · cases stream <;> decide
    · exact ownClocks_apart own
  rw [shutdownStream_bit _ _ (neededClocks_inside needed).1, if_neg foreign]

theorem StreamsServed.startup {card next : Es8316Card} {stream : Stream}
    (served : StreamsServed card)
    (taken : es8316Step card (.startup stream) = some next) :
    StreamsServed next := by
  cases isClosed : card.opened stream with
  | true => simp [es8316Step, isClosed] at taken
  | false =>
      rw [startup_step isClosed, startup_eq] at taken
      cases taken
      refine ⟨?_, ?_⟩ <;> dsimp only
      · intro _ _
        exact startup_sysPdn _ _
      · intro either isOpen index needed
        obtain ⟨inside, notDiv⟩ := neededClocks_inside needed
        apply startup_clocks inside notDiv
        by_cases same : either = stream
        · exact .inr (same ▸ needed)
        · left
          apply served.clocks either _ index needed
          split at isOpen
          · exact isOpen
          · rwa [Function.update_of_ne same] at isOpen

theorem StreamsServed.shutdown {card next : Es8316Card} {stream : Stream}
    (served : StreamsServed card)
    (counted : CountedOpen card (.shutdown stream))
    (taken : es8316Step card (.shutdown stream) = some next) :
    StreamsServed next := by
  cases isOpen : card.opened stream with
  | false => simp [es8316Step, isOpen] at taken
  | true =>
      rw [es8316Step, if_pos isOpen] at taken
      cases taken
      have different : ∀ either,
          Function.update card.opened stream false either = true →
            either = stream.other ∧ card.opened either = true := by
        intro either still
        rcases eq_or_other stream either with rfl | rfl
        · simp at still
        · rw [Function.update_of_ne (other_ne stream)] at still
          exact ⟨rfl, still⟩
      by_cases last : card.chip.pwrCount = 1
      · have noMore : ∀ either,
            Function.update card.opened stream false either ≠ true := by
          intro either still
          obtain ⟨rfl, otherOpen⟩ := different either still
          exact counted isOpen otherOpen last
        refine ⟨?_, ?_⟩ <;> dsimp only
        · intro either still
          exact absurd still (noMore either)
        · intro either still
          exact absurd still (noMore either)
      · rw [shutdown_running _ _ (by bv_omega)]
        refine ⟨?_, ?_⟩ <;> dsimp only
        · intro _ _
          exact shutdownStream_sysPdn _ _ (served.power stream isOpen)
        · intro either still index needed
          obtain ⟨rfl, wasOpen⟩ := different either still
          rw [shutdown_clocks needed]
          exact served.clocks _ wasOpen index needed

theorem StreamsServed.step {card next : Es8316Card} {call : Es8316Call}
    (served : StreamsServed card) (counted : CountedOpen card call)
    (taken : es8316Step card call = some next) : StreamsServed next := by
  cases call with
  | setDaiSysclk freq =>
      cases taken
      obtain ⟨regs, -⟩ := setDaiSysclk_kept card.chip freq
      refine ⟨?_, ?_⟩ <;> dsimp only
      · rw [regs]
        exact served.power
      · rw [regs]
        exact served.clocks
  | startup stream => exact served.startup taken
  | hwParams stream rate format =>
      rw [es8316Step] at taken
      split at taken
      · cases taken
        obtain ⟨-, -, regs, clocks⟩ := hwParams_kept card.chip rate format
        refine ⟨?_, ?_⟩ <;> dsimp only
        · intro either isOpen
          rw [regs _ (by decide)]
          exact served.power either isOpen
        · intro either isOpen index needed
          obtain ⟨inside, notDiv⟩ := neededClocks_inside needed
          rw [clocks _ inside notDiv]
          exact served.clocks either isOpen index needed
      · cases taken
  | shutdown stream => exact served.shutdown counted taken

theorem streamsServed_of_run {regs : Codec} {sysclk : Nat}
    {calls : List Es8316Call} {card : Es8316Card}
    (run : Run es8316Step CountedOpen (.start regs sysclk) calls card) :
    StreamsServed card := by
  have initial : StreamsServed (.start regs sysclk) := by
    refine ⟨?_, ?_⟩
    · rintro _ ⟨⟩
    · rintro _ ⟨⟩
  refine run.invariant initial ?_
  intro card call next served counted taken
  exact served.step counted taken

theorem other_other (stream : Stream) : stream.other.other = stream := by
  cases stream <;> rfl

/-- A call for the other direction does not close the stream. -/
theorem opposite_opened {stream : Stream} {card next : Es8316Card} {up : Bool}
    (taken : oppositeStep stream card up = some next) :
    next.opened stream = card.opened stream := by
  have different : stream ≠ stream.other := (other_ne stream).symm
  cases up with
  | true =>
      cases isClosed : card.opened stream.other with
      | true => simp [oppositeStep, es8316Step, isClosed] at taken
      | false =>
          have step := startup_step isClosed
          simp only [oppositeStep, if_true, step, Option.some.injEq] at taken
          rw [← taken]
          dsimp only
          split
          · rfl
          · rw [Function.update_of_ne different]
  | false =>
      simp only [oppositeStep, Bool.false_eq_true, if_false, es8316Step] at taken
      split at taken
      · cases taken
        exact Function.update_of_ne different _ _
      · cases taken

/-- The stream is open and has what it relied on in `before`. -/
structure StreamHeld (stream : Stream) (before : Es8316Chip)
    (card : Es8316Card) : Prop where
  isOpen : card.opened stream = true
  kept : StreamKept stream before card.chip

theorem StreamHeld.startup_iff {stream : Stream} {before : Es8316Chip}
    {card : Es8316Card} (held : StreamHeld stream before card) :
    OppositeKept stream before card true ↔ OppositeSafe stream card true := by
  cases isClosed : card.opened stream.other with
  | true =>
      simp [OppositeKept, oppositeStep, OppositeSafe, es8316Step, isClosed]
  | false =>
      simp only [OppositeKept, oppositeStep, OppositeSafe, if_true,
        startup_step isClosed, startup_eq, Option.some.injEq, forall_eq',
        isClosed, true_imp_iff]
      obtain ⟨divider, clocks, -, own⟩ := held.kept
      have cleared := startup_bit card.chip.regs stream.other
        (by decide : mclkDiv < 8)
      rw [if_pos rfl] at cleared
      constructor
      · intro kept
        rw [divider, ← kept.divider]
        exact cleared
      · intro undivided
        refine ⟨?_, ?_, startup_sysPdn _ _, ?_⟩
        · rw [← divider, undivided]
          exact cleared
        · intro index needed
          obtain ⟨inside, notDiv⟩ := neededClocks_inside needed
          exact startup_clocks inside notDiv (.inl (clocks index needed))
        · intro reg member
          rw [← own reg member]
          apply startup_other
          rwa [other_other]

theorem StreamHeld.shutdown_iff {stream : Stream} {before : Es8316Chip}
    {card : Es8316Card} (held : StreamHeld stream before card) :
    OppositeKept stream before card false ↔ OppositeSafe stream card false := by
  cases otherOpen : card.opened stream.other with
  | false =>
      simp [OppositeKept, oppositeStep, OppositeSafe, es8316Step, otherOpen]
  | true =>
      simp only [OppositeKept, oppositeStep, OppositeSafe, Bool.false_eq_true,
        if_false, es8316Step, otherOpen, if_true, Option.some.injEq, forall_eq',
        true_imp_iff]
      obtain ⟨divider, clocks, power, own⟩ := held.kept
      by_cases last : card.chip.pwrCount = 1
      · -- The codec goes off although the stream is open.
        refine iff_of_false ?_ (fun running => running last)
        intro kept
        obtain ⟨-, off, -⟩ :=
          shutdown_last card.chip stream.other (by rw [last]; decide)
        rw [kept.power] at off
        exact absurd off (by decide)
      · refine iff_of_true ?_ last
        have notOwn : mclkDiv ∉ ownClocks stream.other := by
          cases stream <;> decide
        have apart : ∀ reg ∈ ownRegs stream,
            reg ∉ [es8316Clksw, es8316SysPdn] ++ ownRegs stream.other := by
          cases stream <;> decide
        rw [shutdown_running _ _ (by bv_omega)]
        refine ⟨?_, ?_, shutdownStream_sysPdn _ _ power, ?_⟩
        · rw [shutdownStream_bit _ _ (by decide), if_neg notOwn, divider]
        · intro index needed
          rw [shutdown_clocks (by rwa [other_other])]
          exact clocks index needed
        · intro reg member
          have outside := apart reg member
          simp only [List.mem_append, List.mem_cons, List.not_mem_nil,
            or_false, not_or] at outside
          rw [← own reg member]
          exact shutdownStream_other _ outside.1.1 outside.1.2 outside.2

/-- In every state that is reached without a miscounted shutdown, an open
stream keeps what it relies on along exactly those calls for the other
direction that are all safe. -/
theorem opposite_kept_iff (regs : Codec) (sysclk : Nat)
    (calls : List Es8316Call) (card : Es8316Card)
    (run : Run es8316Step CountedOpen (.start regs sysclk) calls card)
    (stream : Stream) (isOpen : card.opened stream = true)
    (following : List Bool) :
    Along (oppositeStep stream) (OppositeKept stream card.chip) card
        following ↔
      Along (oppositeStep stream) (OppositeSafe stream) card following := by
  have served := streamsServed_of_run run
  have initial : StreamHeld stream card.chip card :=
    ⟨isOpen, rfl, served.clocks stream isOpen, served.power stream isOpen,
      fun _ _ => rfl⟩
  refine along_congr initial ?_ ?_
  · intro now up next held kept taken
    exact ⟨(opposite_opened taken).trans held.isOpen, kept next taken⟩
  · intro now up held
    cases up with
    | true => exact held.startup_iff
    | false => exact held.shutdown_iff

/-- A capture stream comes and goes while the clock is not divided. -/
theorem opposite_kept_44100 :
    ∃ card, card.opened .playback = true ∧
      Along (oppositeStep .playback) (OppositeKept .playback card.chip) card
        [true, false] := by
  have run : Run es8316Step (fun _ _ => True) (.start (fun _ => 0) 11289600)
      [.startup .playback, .hwParams .playback 44100 .s16Le] _ :=
    (Run.nil.snoc trivial rfl).snoc trivial rfl
  have counted := (countedOpen_of_few run (by decide)).1
  exact ⟨_, rfl, (opposite_kept_iff _ _ _ _ counted .playback rfl _).mpr
    (by decide)⟩

/-- A capture stream that is opened changes the clock of a playing one. -/
theorem not_opposite_kept_divided :
    ∃ card, Run es8316Step CountedOpen (.start (fun _ => 0) 24000000)
        [.startup .playback, .hwParams .playback 44100 .s16Le] card ∧
      card.opened .playback = true ∧
      ¬Along (oppositeStep .playback) (OppositeKept .playback card.chip) card
        [true] := by
  refine ⟨_, (Run.nil.snoc trivial rfl).snoc trivial rfl, rfl, ?_⟩
  rw [along_cons]
  rintro ⟨kept, -⟩
  exact absurd (kept _ rfl).divider (by decide)

end KernelDrivers.Sound
