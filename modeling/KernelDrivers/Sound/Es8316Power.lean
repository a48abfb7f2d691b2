import KernelDrivers.Library.Transition
import KernelDrivers.Sound.Es8316

/-!
# Power accounting of the ES8316

At most one stream of either direction is open, and only an open stream is
configured or closed.
-/

namespace KernelDrivers.Sound

open KernelDrivers.Library

/-- The streams that are open, and whether any stream has been closed. -/
structure Es8316Card where
  chip : Es8316Chip
  opened : Stream → Bool
  closed : Bool

/-- No stream has been opened; the registers may hold anything. -/
def Es8316Card.start (regs : Codec) (sysclk : Nat) : Es8316Card :=
  { chip := { regs, sysclk, sysclkConstraints := [], pwrCount := 0 }
    opened := fun _ => false
    closed := false }

inductive Es8316Call where
  | setDaiSysclk (freq : Nat)
  | startup (stream : Stream)
  | hwParams (stream : Stream) (rate : Nat) (format : PcmFormat)
  | shutdown (stream : Stream)

def es8316Step (card : Es8316Card) : Es8316Call → Option Es8316Card
  | .setDaiSysclk freq =>
      some { card with chip := (es8316SetDaiSysclk card.chip freq).2 }
  | .startup stream =>
      if card.opened stream then none
      else
        let started := es8316PcmStartup card.chip stream
        some { card with
          chip := started.2
          opened := if started.1 = 0 then
            Function.update card.opened stream true else card.opened }
  | .hwParams stream rate format =>
      if card.opened stream then
        some { card with chip := (es8316PcmHwParams card.chip rate format).2 }
      else none
  | .shutdown stream =>
      if card.opened stream then
        some { chip := es8316PcmShutdown card.chip stream
               opened := Function.update card.opened stream false
               closed := true }
      else none

/-- The number of open streams. -/
def openCount (opened : Stream → Bool) : BitVec 32 :=
  (if opened .playback then 1 else 0) + (if opened .capture then 1 else 0)

structure PowerHolds (card : Es8316Card) : Prop where
  count : card.chip.pwrCount = openCount card.opened
  idle : card.closed = true → (∀ stream, card.opened stream = false) →
    card.chip.regs es8316SysPdn = 0x3f ∧ card.chip.regs es8316Clksw = 0xf3
  power : ∀ stream, card.opened stream = true →
    card.chip.regs es8316SysPdn = 0 ∧
      card.chip.regs.bit es8316Clksw dacMclk = true
  clocks : ∀ stream, card.opened stream = true →
    ∀ either, ∀ index ∈ ownClocks either,
      card.chip.regs.bit es8316Clksw index = card.opened either

/-- After the call the accounts are right. -/
def PowerKept (card : Es8316Card) (call : Es8316Call) : Prop :=
  ∀ next, es8316Step card call = some next → PowerHolds next

/-- A stream is opened once the clock is known, and while the other stream, if
it is closed, has its clocks off. -/
def PowerSafe (card : Es8316Card) : Es8316Call → Prop
  | .startup stream => card.opened stream = false →
      card.chip.sysclk ≠ 0 ∧ (card.opened stream.other = false →
        ∀ index ∈ ownClocks stream.other,
          card.chip.regs.bit es8316Clksw index = false)
  | _ => True

theorem openCount_open {opened : Stream → Bool} {stream : Stream}
    (isClosed : opened stream = false) :
    openCount (Function.update opened stream true) = openCount opened + 1 := by
  cases stream with
  | playback => simp [openCount, isClosed, BitVec.add_comm]
  | capture => simp [openCount, isClosed]

theorem openCount_close {opened : Stream → Bool} {stream : Stream}
    (isOpen : opened stream = true) :
    openCount (Function.update opened stream false) = openCount opened - 1 := by
  cases stream with
  | playback =>
      cases other : opened .capture <;> simp [openCount, isOpen, other]
  | capture =>
      cases other : opened .playback <;> simp [openCount, isOpen, other]

theorem openCount_other {opened : Stream → Bool} {stream : Stream}
    (isOpen : opened stream = true) :
    openCount opened = if opened stream.other then 2 else 1 := by
  cases stream <;> cases other : opened (Stream.other _) <;>
    simp_all [openCount, Stream.other]

theorem eq_or_other (stream either : Stream) :
    either = stream ∨ either = stream.other := by
  cases stream <;> cases either <;> decide

theorem other_ne (stream : Stream) : stream.other ≠ stream := by
  cases stream <;> decide

theorem ownClocks_inside {stream : Stream} {index : Nat}
    (own : index ∈ ownClocks stream) :
    index < 8 ∧ index ≠ mclkDiv ∧ index ≠ dacMclk := by
  revert own
  revert index
  cases stream <;> decide

theorem ownClocks_apart {stream : Stream} {index : Nat}
    (own : index ∈ ownClocks stream.other) : index ∉ ownClocks stream := by
  revert own
  revert index
  cases stream <;> decide

theorem startup_step {card : Es8316Card} {stream : Stream}
    (isClosed : card.opened stream = false) :
    es8316Step card (.startup stream) = some { card with
      chip := (es8316PcmStartup card.chip stream).2
      opened := if card.chip.sysclk = 0 then card.opened
        else Function.update card.opened stream true } := by
  have ret : (es8316PcmStartup card.chip stream).1 = 0 ↔
      card.chip.sysclk ≠ 0 := by
    rw [startup_eq]
    by_cases known : card.chip.sysclk = 0 <;> simp [known]
  rw [es8316Step, isClosed]
  by_cases known : card.chip.sysclk = 0 <;> simp [ret, known]

theorem powerKept_startup {card : Es8316Card} (holds : PowerHolds card)
    (stream : Stream) :
    PowerKept card (.startup stream) ↔ PowerSafe card (.startup stream) := by
  cases isClosed : card.opened stream with
  | true => simp [PowerKept, PowerSafe, es8316Step, isClosed]
  | false =>
      simp only [PowerKept, PowerSafe, startup_step isClosed, startup_eq,
        Option.some.injEq, forall_eq', isClosed, true_imp_iff]
      constructor
      · intro after
        have known : card.chip.sysclk ≠ 0 := by
          intro unknown
          have count := after.count
          dsimp only at count
          rw [if_pos unknown, holds.count] at count
          exact absurd count (by bv_omega)
        refine ⟨known, ?_⟩
        intro otherClosed index own
        have clocks := after.clocks stream (by simp [known]) stream.other index
          own
        have foreign := ownClocks_apart own
        obtain ⟨inside, notDiv, notDac⟩ := ownClocks_inside own
        dsimp only at clocks
        rw [startup_bit _ _ inside, if_neg notDiv,
          if_neg (by simp [foreign, notDac]), if_neg known,
          Function.update_of_ne (other_ne stream), otherClosed] at clocks
        exact clocks
      · rintro ⟨known, otherClocks⟩
        rw [if_neg known]
        refine ⟨?_, ?_, ?_, ?_⟩ <;> dsimp only
        · rw [openCount_open isClosed, holds.count]
        · intro _ allClosed
          have now := allClosed stream
          simp at now
        · intro either _
          refine ⟨startup_sysPdn _ _, ?_⟩
          rw [startup_bit _ _ (by decide), if_neg (by decide),
            if_pos (.inl rfl)]
        · intro _ _ either index own
          obtain ⟨inside, notDiv, notDac⟩ := ownClocks_inside own
          rw [startup_bit _ _ inside, if_neg notDiv]
          rcases eq_or_other stream either with rfl | rfl
          · rw [if_pos (.inr own), Function.update_self]
          · have foreign := ownClocks_apart own
            rw [if_neg (by simp [foreign, notDac]),
              Function.update_of_ne (other_ne stream)]
            cases otherOpen : card.opened stream.other with
            | false => exact otherClocks otherOpen index own
            | true =>
                rw [holds.clocks stream.other otherOpen _ _ own, otherOpen]

theorem powerKept_hwParams {card : Es8316Card} (holds : PowerHolds card)
    (stream : Stream) (rate : Nat) (format : PcmFormat) :
    PowerKept card (.hwParams stream rate format) := by
  obtain ⟨count, -, regs, clocks⟩ := hwParams_kept card.chip rate format
  cases isOpen : card.opened stream with
  | false => simp [PowerKept, es8316Step, isOpen]
  | true =>
      simp only [PowerKept, es8316Step, isOpen, if_true, Option.some.injEq,
        forall_eq']
      refine ⟨?_, ?_, ?_, ?_⟩ <;> dsimp only
      · rw [count]
        exact holds.count
      · intro _ allClosed
        rw [allClosed stream] at isOpen
        cases isOpen
      · intro either eitherOpen
        obtain ⟨power, dac⟩ := holds.power either eitherOpen
        exact ⟨(regs _ (by decide)).trans power,
          (clocks _ (by decide) (by decide)).trans dac⟩
      · intro open' isOpen' either index own
        obtain ⟨inside, notDiv, -⟩ := ownClocks_inside own
        exact (clocks _ inside notDiv).trans
          (holds.clocks open' isOpen' either index own)

theorem powerKept_shutdown {card : Es8316Card} (holds : PowerHolds card)
    (stream : Stream) : PowerKept card (.shutdown stream) := by
  cases isOpen : card.opened stream with
  | false => simp [PowerKept, es8316Step, isOpen]
  | true =>
      simp only [PowerKept, es8316Step, isOpen, if_true, Option.some.injEq,
        forall_eq']
      have count := openCount_other isOpen
      have different := other_ne stream
      obtain ⟨power, dac⟩ := holds.power stream isOpen
      cases otherOpen : card.opened stream.other with
      | true =>
          rw [otherOpen, if_pos rfl, ← holds.count] at count
          rw [shutdown_running _ _ (by rw [count]; decide)]
          refine ⟨?_, ?_, ?_, ?_⟩ <;> dsimp only
          · rw [openCount_close isOpen, holds.count]
          · intro _ allClosed
            have now := allClosed stream.other
            rw [Function.update_of_ne different, otherOpen] at now
            cases now
          · intro _ _
            refine ⟨shutdownStream_sysPdn _ _ power, ?_⟩
            have shared : dacMclk ∉ ownClocks stream := by
              cases stream <;> decide
            rw [shutdownStream_bit _ _ (by decide), if_neg shared, dac]
          · intro _ _ either index own
            obtain ⟨inside, -, -⟩ := ownClocks_inside own
            rw [shutdownStream_bit _ _ inside]
            rcases eq_or_other stream either with rfl | rfl
            · rw [if_pos own, Function.update_self]
            · have foreign := ownClocks_apart own
              rw [if_neg foreign, Function.update_of_ne different,
                holds.clocks stream isOpen _ _ own]
      | false =>
          rw [otherOpen, if_neg (by decide), ← holds.count] at count
          obtain ⟨zero, off, switches⟩ :=
            shutdown_last card.chip stream (by rw [count]; decide)
          have allClosed : ∀ either,
              Function.update card.opened stream false either = false := by
            intro either
            rcases eq_or_other stream either with rfl | rfl
            · exact Function.update_self ..
            · rw [Function.update_of_ne different, otherOpen]
          refine ⟨?_, ?_, ?_, ?_⟩ <;> dsimp only
          · rw [openCount_close isOpen, zero, ← holds.count, count]
            decide
          · intro _ _
            exact ⟨off, switches⟩
          · intro either isOpen
            rw [allClosed either] at isOpen
            cases isOpen
          · intro either isOpen
            rw [allClosed either] at isOpen
            cases isOpen

theorem powerKept_setDaiSysclk {card : Es8316Card} (holds : PowerHolds card)
    (freq : Nat) : PowerKept card (.setDaiSysclk freq) := by
  have kept := setDaiSysclk_kept card.chip freq
  simp only [PowerKept, es8316Step, Option.some.injEq, forall_eq']
  refine ⟨?_, ?_, ?_, ?_⟩ <;> dsimp only
  · rw [kept.2]
    exact holds.count
  · rw [kept.1]
    exact holds.idle
  · rw [kept.1]
    exact holds.power
  · rw [kept.1]
    exact holds.clocks

/-- The accounts stay right along exactly those calls that are all safe. -/
theorem power_kept_iff (regs : Codec) (sysclk : Nat)
    (calls : List Es8316Call) :
    Along es8316Step PowerKept (.start regs sysclk) calls ↔
      Along es8316Step PowerSafe (.start regs sysclk) calls := by
  have initial : PowerHolds (.start regs sysclk) := by
    refine ⟨rfl, ?_, ?_, ?_⟩
    · rintro ⟨⟩
    · rintro _ ⟨⟩
    · rintro _ ⟨⟩
  refine along_congr initial ?_ ?_
  · intro card call next holds kept taken
    exact kept next taken
  · intro card call holds
    cases call with
    | setDaiSysclk freq =>
        exact iff_of_true (powerKept_setDaiSysclk holds freq) trivial
    | startup stream => exact powerKept_startup holds stream
    | hwParams stream rate format =>
        exact iff_of_true (powerKept_hwParams holds stream rate format) trivial
    | shutdown stream =>
        exact iff_of_true (powerKept_shutdown holds stream) trivial

/-- A stream that cannot be opened stays counted. -/
theorem not_power_kept_unclocked :
    ¬Along es8316Step PowerKept (.start (fun _ => 0) 0) [.startup .playback] := by
  rw [along_cons]
  rintro ⟨kept, -⟩
  exact absurd (kept _ rfl).count (by decide)

end KernelDrivers.Sound
