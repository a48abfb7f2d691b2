import KernelDrivers.Library.Purge
import KernelDrivers.Library.Transition
import KernelDrivers.Regulator.Rk818
import Mathlib.Data.List.FinRange

/-!
# Interrupts of the RK818

The irq chip of the driver between the irq core, which locks, requests and
synchronises, and the chip, whose status bits are cleared by writing ones.
-/

namespace KernelDrivers.Rk818

open KernelDrivers.Library

abbrev rtcStatusReg : Nat := 0x11
abbrev intStsReg1 : Nat := 0x4c
abbrev intStsMskReg1 : Nat := 0x4d
abbrev intStsReg2 : Nat := 0x4e
abbrev intStsMskReg2 : Nat := 0x4f

/-- `irq_find_mapping`: the virtual number of each hardware interrupt, 0 for
none. -/
structure IrqDomain where
  findMapping : Fin 16 → Nat
  distinct : ∀ first second, findMapping first = findMapping second →
    findMapping first ≠ 0 → first = second

/-- The driver's data and the chip.  `last` is the last request for each
interrupt, `synced` the last one that was synchronised. -/
structure IrqState where
  chip : Chip
  irqMask : BitVec 32
  chipIrq : Nat
  locked : Bool
  last : Fin 16 → Option Bool
  synced : Fin 16 → Option Bool

/-- `reg1 | reg2 << 8`. -/
def word (first second : BitVec 8) : BitVec 32 :=
  first.setWidth 32 ||| (second.setWidth 32 <<< 8)

/-- `1 << irq_to_rk818_irq(chip, irq)`. -/
def irqBit (chipIrq irq : Nat) : BitVec 32 :=
  1#32 <<< (BitVec.ofInt 32 ((irq : Int) - chipIrq)).toNat

def irqEnable (state : IrqState) (irq : Nat) : IrqState :=
  { state with irqMask := state.irqMask &&& ~~~irqBit state.chipIrq irq }

def irqDisable (state : IrqState) (irq : Nat) : IrqState :=
  { state with irqMask := state.irqMask ||| irqBit state.chipIrq irq }

/-- `rk818_irq_sync_unlock`: the mask registers are read and compared, and the
two halves of the cached mask are computed, but nothing is written. -/
def irqSyncUnlock (state : IrqState) : IrqState :=
  { state with locked := false }

/-- `irq_sts & ~irq_mask` as the handler computes it. -/
def pendingUnmasked (chip : Chip) : BitVec 32 :=
  word (chip intStsReg1) (chip intStsReg2) &&&
    ~~~word (chip intStsMskReg1) (chip intStsMskReg2)

/-- A status register is cleared where a one is written to it. -/
def clearStatus (chip : Chip) (reg : Nat) (ones : BitVec 8) : Chip :=
  chip.write reg (chip reg &&& ~~~ones)

/-- `rk818_irq`: the chip afterwards and the interrupts that were handled. -/
def rk818Irq (domain : IrqDomain) (chip : Chip) : Chip × List Nat :=
  let irqSts := pendingUnmasked chip
  if irqSts = 0 then (chip, [])
  else
    let handled := (List.finRange 16).filterMap fun i : Fin 16 =>
      if irqSts.getLsbD i ∧ domain.findMapping i ≠ 0 then
        some (domain.findMapping i)
      else none
    let chip := clearStatus chip intStsReg1 (irqSts.setWidth 8)
    (clearStatus chip intStsReg2 ((irqSts >>> 8).setWidth 8), handled)

/-- `rk818_irq_init`: the status registers are cleared and every interrupt is
masked in the cached mask; the mask registers stay as they were. -/
def irqInit (chip : Chip) (chipIrq : Nat) : IrqState :=
  let chip := clearStatus chip intStsReg1 (chip intStsReg1)
  let chip := clearStatus chip intStsReg2 (chip intStsReg2)
  let chip := clearStatus chip rtcStatusReg (chip rtcStatusReg)
  { chip, chipIrq, irqMask := 0xFFFFFF, locked := false,
    last := fun _ => none, synced := fun _ => none }

inductive IrqAction where
  | lock
  | request (hwirq : Fin 16) (on : Bool)
  | syncUnlock
  | pend (hwirq : Fin 16)
  | interrupt
  deriving DecidableEq

/-- The status register of an interrupt, its mask register, and its bit. -/
def statusPlace (hwirq : Fin 16) : Nat × Nat :=
  if hwirq.val < 8 then (intStsReg1, hwirq) else (intStsReg2, hwirq.val - 8)

def maskPlace (hwirq : Fin 16) : Nat × Nat :=
  if hwirq.val < 8 then (intStsMskReg1, hwirq) else (intStsMskReg2, hwirq.val - 8)

def pending (chip : Chip) (hwirq : Fin 16) : Bool :=
  chip.bit (statusPlace hwirq).1 (statusPlace hwirq).2

def masked (chip : Chip) (hwirq : Fin 16) : Bool :=
  chip.bit (maskPlace hwirq).1 (maskPlace hwirq).2

/-- One action.  The irq core requests only between lock and unlock, and only
for interrupts that have a virtual number. -/
def irqStep (domain : IrqDomain) (state : IrqState) :
    IrqAction → Option IrqState
  | .lock => if state.locked then none else some { state with locked := true }
  | .request hwirq on =>
      let irq := domain.findMapping hwirq
      if state.locked ∧ irq ≠ 0 then
        let state := if on then irqEnable state irq else irqDisable state irq
        some { state with last := Function.update state.last hwirq (some on) }
      else none
  | .syncUnlock =>
      if state.locked then
        some { irqSyncUnlock state with synced := state.last }
      else none
  | .pend hwirq =>
      let place := statusPlace hwirq
      some { state with
        chip := state.chip.setBits place.1 (flag place.2) (flag place.2) }
  | .interrupt => some { state with chip := (rk818Irq domain state.chip).1 }

/-- The irq core's view: the last synchronised request, or what the chip was
left with if there was none. -/
def IrqState.enabled (state : IrqState) (hwirq : Fin 16) : Bool :=
  (state.synced hwirq).getD !masked state.chip hwirq

/-- The mask registers hold every synchronised request. -/
def MasksReachChip (state : IrqState) : Prop :=
  ∀ hwirq on, state.synced hwirq = some on →
    masked state.chip hwirq = !on

/-- A run of the handler in this state calls the nested handler once for each
enabled pending interrupt and for no other, and clears just these. -/
def HandlesExactly (domain : IrqDomain) (state : IrqState) : Prop :=
  ∀ hwirq,
    (rk818Irq domain state.chip).2.count (domain.findMapping hwirq) =
        (if pending state.chip hwirq && state.enabled hwirq then 1 else 0) ∧
      pending (rk818Irq domain state.chip).1 hwirq =
        (pending state.chip hwirq && !state.enabled hwirq)

/-- What is asked of each step: the unlock leaves the masks on the chip, and
the handler runs what is enabled and pending. -/
def Delivers (domain : IrqDomain) (state : IrqState) : IrqAction → Prop
  | .syncUnlock => ∀ next, irqStep domain state .syncUnlock = some next →
      MasksReachChip next
  | .interrupt => HandlesExactly domain state
  | _ => True

/-- What an action asks for an interrupt. -/
def IrqAction.asks (hwirq : Fin 16) : IrqAction → Option Bool
  | .request other on => if other = hwirq then some on else none
  | _ => none

/-- The last request for an interrupt among some actions. -/
def lastRequest (hwirq : Fin 16) (actions : List IrqAction) : Option Bool :=
  lastWritten (IrqAction.asks hwirq) actions

/-- Before an unlock, each interrupt was last asked for what the mask registers
held when the chip was found; before a run of the handler, nothing became
pending that they leave open and that has no virtual number. -/
def askedAsFound (domain : IrqDomain) (chip : Chip)
    (earlier : List IrqAction) : IrqAction → Prop
  | .syncUnlock => ∀ hwirq on, lastRequest hwirq earlier = some on →
      masked chip hwirq = !on
  | .interrupt => ∀ hwirq, .pend hwirq ∈ earlier →
      masked chip hwirq = false → domain.findMapping hwirq ≠ 0
  | _ => True

instance (domain : IrqDomain) (chip : Chip) (earlier : List IrqAction) :
    ∀ action, Decidable (askedAsFound domain chip earlier action)
  | .syncUnlock => inferInstanceAs (Decidable (∀ _ _, _ → _))
  | .interrupt => inferInstanceAs (Decidable (∀ _, _ → _ → _))
  | .lock | .request _ _ | .pend _ => .isTrue trivial

/-- The requests of a run change nothing of the masks that the chip was found
with, and all that gets through them can be handled. -/
def IrqSound (domain : IrqDomain) (chip : Chip) (actions : List IrqAction) :
    Prop :=
  Throughout (askedAsFound domain chip) actions

instance (domain : IrqDomain) (chip : Chip) (actions : List IrqAction) :
    Decidable (IrqSound domain chip actions) :=
  inferInstanceAs (Decidable (Throughout _ _))

private theorem word_bit (first second : BitVec 8) (hwirq : Fin 16) :
    (word first second).getLsbD hwirq =
      if hwirq.val < 8 then first.getLsbD hwirq
      else second.getLsbD (hwirq.val - 8) := by
  have bound := hwirq.isLt
  have wide : hwirq.val < 32 := by omega
  by_cases low : hwirq.val < 8
  · simp [word, low, wide]
  · have beyond : 8 ≤ hwirq.val := by omega
    simp [word, low, wide, BitVec.getLsbD_of_ge first _ beyond]

theorem pendingUnmasked_bit (chip : Chip) (hwirq : Fin 16) :
    (pendingUnmasked chip).getLsbD hwirq =
      (pending chip hwirq && !masked chip hwirq) := by
  have bound := hwirq.isLt
  have wide : hwirq.val < 32 := by omega
  rw [pendingUnmasked, BitVec.getLsbD_and, BitVec.getLsbD_not, word_bit,
    word_bit]
  unfold pending masked statusPlace maskPlace RegisterFile.bit
  split <;> simp [wide]

private theorem clearStatus_bit (chip : Chip) (reg other index : Nat)
    (ones : BitVec 8) :
    (clearStatus chip reg ones).bit other index =
      if other = reg then chip.bit reg index && !ones.getLsbD index
      else chip.bit other index := by
  have same : clearStatus chip reg ones = chip.setBits reg ones 0 := by
    simp [clearStatus, RegisterFile.setBits]
  rw [same, RegisterFile.bit_setBits]
  simp

private theorem statusPlace_cases (hwirq : Fin 16) :
    (hwirq.val < 8 ∧ statusPlace hwirq = (intStsReg1, hwirq.val)) ∨
      (¬hwirq.val < 8 ∧ statusPlace hwirq = (intStsReg2, hwirq.val - 8)) := by
  unfold statusPlace
  by_cases low : hwirq.val < 8
  · exact .inl ⟨low, if_pos low⟩
  · exact .inr ⟨low, if_neg low⟩

/-- The handler clears what was pending and not masked, and nothing else. -/
theorem pending_rk818Irq (domain : IrqDomain) (chip : Chip)
    (hwirq : Fin 16) :
    pending (rk818Irq domain chip).1 hwirq =
      (pending chip hwirq && masked chip hwirq) := by
  have bit := pendingUnmasked_bit chip hwirq
  have bound := hwirq.isLt
  have apart : intStsReg1 ≠ intStsReg2 := by decide
  by_cases quiet : pendingUnmasked chip = 0
  · have clear : (pendingUnmasked chip).getLsbD hwirq = false := by
      rw [quiet]
      exact BitVec.getLsbD_zero
    rw [rk818Irq, if_pos quiet]
    cases present : pending chip hwirq <;> simp_all
  · rw [rk818Irq, if_neg quiet]
    rcases statusPlace_cases hwirq with ⟨low, place⟩ | ⟨high, place⟩
    · simp only [pending, place, clearStatus_bit] at bit ⊢
      simp [low, bit, apart]
      cases chip.bit intStsReg1 hwirq <;> simp
    · have index : 8 + (hwirq.val - 8) = hwirq.val := by omega
      have inside : hwirq.val - 8 < 8 := by omega
      simp only [pending, place, clearStatus_bit] at bit ⊢
      simp [inside, index, bit, apart.symm]
      cases chip.bit intStsReg2 (hwirq.val - 8) <;> simp

private theorem maskPlace_ne (hwirq : Fin 16) :
    (maskPlace hwirq).1 ≠ intStsReg1 ∧ (maskPlace hwirq).1 ≠ intStsReg2 := by
  have first : intStsMskReg1 ≠ intStsReg1 ∧ intStsMskReg1 ≠ intStsReg2 := by
    decide
  have second : intStsMskReg2 ≠ intStsReg1 ∧ intStsMskReg2 ≠ intStsReg2 := by
    decide
  by_cases low : hwirq.val < 8
  · rw [maskPlace, if_pos low]
    exact first
  · rw [maskPlace, if_neg low]
    exact second

theorem masked_rk818Irq (domain : IrqDomain) (chip : Chip)
    (hwirq : Fin 16) :
    masked (rk818Irq domain chip).1 hwirq = masked chip hwirq := by
  obtain ⟨first, second⟩ := maskPlace_ne hwirq
  unfold rk818Irq
  dsimp only
  split
  · rfl
  · simp only [masked, clearStatus_bit, if_neg first, if_neg second]

/-- The nested handler runs once for each interrupt that is pending, not
masked and mapped. -/
theorem count_rk818Irq (domain : IrqDomain) (chip : Chip)
    (hwirq : Fin 16) :
    (rk818Irq domain chip).2.count (domain.findMapping hwirq) =
      if pending chip hwirq && !masked chip hwirq &&
        domain.findMapping hwirq != 0 then 1 else 0 := by
  have bit := pendingUnmasked_bit chip hwirq
  by_cases quiet : pendingUnmasked chip = 0
  · have clear : (pendingUnmasked chip).getLsbD hwirq = false := by
      rw [quiet]
      exact BitVec.getLsbD_zero
    rw [rk818Irq, if_pos quiet, ← bit, clear]
    simp
  · rw [rk818Irq, if_neg quiet, ← bit]
    dsimp only
    have single : ((List.finRange 16).filterMap fun i : Fin 16 =>
        if (pendingUnmasked chip).getLsbD i ∧ domain.findMapping i ≠ 0 then
          some (domain.findMapping i)
        else none).Nodup := by
      apply List.Nodup.filterMap _ (List.nodup_finRange 16)
      intro first second irq inFirst inSecond
      simp only [Option.mem_def, Option.ite_none_right_eq_some,
        Option.some.injEq] at inFirst inSecond
      obtain ⟨⟨-, mapped⟩, rfl⟩ := inFirst
      exact domain.distinct _ _ inSecond.2.symm mapped
    rw [single.count]
    congr 1
    simp only [List.mem_filterMap, List.mem_finRange, true_and,
      Option.ite_none_right_eq_some, Option.some.injEq, Bool.and_eq_true,
      bne_iff_ne, eq_iff_iff]
    constructor
    · rintro ⟨other, ⟨set, mapped⟩, same⟩
      obtain rfl := domain.distinct other hwirq same mapped
      exact ⟨set, mapped⟩
    · rintro ⟨set, mapped⟩
      exact ⟨hwirq, ⟨set, mapped⟩, rfl⟩

/-- While the masks are on the chip, an interrupt is enabled exactly when its
mask bit is clear. -/
theorem MasksReachChip.enabled {state : IrqState}
    (reach : MasksReachChip state) (hwirq : Fin 16) :
    state.enabled hwirq = !masked state.chip hwirq := by
  unfold IrqState.enabled
  cases last : state.synced hwirq with
  | none => rfl
  | some on => simp [reach hwirq on last]

private theorem flag_bit {place index : Nat} (bound : index < 8) :
    (flag place).getLsbD index = decide (place = index) := by
  rw [flag, BitVec.getLsbD_twoPow]
  by_cases here : place = index
  · subst here
    simp [bound]
  · simp [here]

private theorem pending_pend (chip : Chip) (hwirq other : Fin 16) :
    pending (chip.setBits (statusPlace hwirq).1 (flag (statusPlace hwirq).2)
        (flag (statusPlace hwirq).2)) other =
      (hwirq == other || pending chip other) := by
  have bound := other.isLt
  have first : intStsReg1 ≠ intStsReg2 := by decide
  have same : (hwirq == other) = decide (hwirq.val = other.val) := by
    rw [Bool.eq_iff_iff, beq_iff_eq, decide_eq_true_iff, Fin.ext_iff]
  unfold pending
  rw [RegisterFile.bit_setBits, same]
  rcases statusPlace_cases hwirq with ⟨low, place⟩ | ⟨high, place⟩
  · rcases statusPlace_cases other with ⟨low', place'⟩ | ⟨high', place'⟩
    · rw [place, place', if_pos rfl, flag_bit low']
      cases decide (hwirq.val = other.val) <;> simp
    · have apart : hwirq.val ≠ other.val := by omega
      rw [place, place', if_neg first.symm, decide_eq_false apart]
      rfl
  · rcases statusPlace_cases other with ⟨low', place'⟩ | ⟨high', place'⟩
    · have apart : hwirq.val ≠ other.val := by omega
      rw [place, place', if_neg first, decide_eq_false apart]
      rfl
    · have shifted : decide (hwirq.val - 8 = other.val - 8) =
          decide (hwirq.val = other.val) := by
        rw [Bool.eq_iff_iff, decide_eq_true_iff, decide_eq_true_iff]
        omega
      rw [place, place', if_pos rfl, flag_bit (by omega), shifted]
      cases decide (hwirq.val = other.val) <;> simp

private theorem clearStatus_read_bit (chip : Chip) (reg other index : Nat) :
    (clearStatus chip reg (chip reg)).bit other index =
      if other = reg then false else chip.bit other index := by
  rw [clearStatus_bit]
  split
  · simp [RegisterFile.bit]
  · rfl

theorem masked_irqInit (chip : Chip) (chipIrq : Nat) (hwirq : Fin 16) :
    masked (irqInit chip chipIrq).chip hwirq = masked chip hwirq := by
  obtain ⟨first, second⟩ := maskPlace_ne hwirq
  have clock : (maskPlace hwirq).1 ≠ rtcStatusReg := by
    rw [maskPlace]
    split
    · exact (by decide : intStsMskReg1 ≠ rtcStatusReg)
    · exact (by decide : intStsMskReg2 ≠ rtcStatusReg)
  simp only [irqInit, masked, clearStatus_read_bit, if_neg first,
    if_neg second, if_neg clock]

theorem pending_irqInit (chip : Chip) (chipIrq : Nat) (hwirq : Fin 16) :
    pending (irqInit chip chipIrq).chip hwirq = false := by
  simp only [irqInit, pending, clearStatus_read_bit]
  rcases statusPlace_cases hwirq with ⟨low, place⟩ | ⟨high, place⟩
  · simp [place]
  · simp [place]

/-- What each action may lead to. -/
def IrqLeads (domain : IrqDomain) (state next : IrqState) : IrqAction → Prop
  | .lock => next = { state with locked := true }
  | .request hwirq on => ∃ irqMask, next =
      { state with irqMask, last := Function.update state.last hwirq on }
  | .syncUnlock => next = { state with locked := false, synced := state.last }
  | .pend hwirq => next = { state with
      chip := state.chip.setBits (statusPlace hwirq).1
        (flag (statusPlace hwirq).2) (flag (statusPlace hwirq).2) }
  | .interrupt => next = { state with
      chip := (rk818Irq domain state.chip).1 }

theorem irqStep_leads {domain : IrqDomain} {state next : IrqState}
    {action : IrqAction} (taken : irqStep domain state action = some next) :
    IrqLeads domain state next action := by
  cases action with
  | lock =>
      simp only [irqStep, Option.ite_none_left_eq_some, Option.some.injEq]
        at taken
      exact taken.2.symm
  | request hwirq on =>
      simp only [irqStep, Option.ite_none_right_eq_some, Option.some.injEq]
        at taken
      refine ⟨next.irqMask, taken.2.symm.trans ?_⟩
      rw [← taken.2]
      cases on <;> rfl
  | syncUnlock =>
      simp only [irqStep, Option.ite_none_right_eq_some, Option.some.injEq]
        at taken
      exact taken.2.symm
  | _ =>
      simp only [irqStep, Option.some.injEq] at taken
      exact taken.symm

section Steps

variable {domain : IrqDomain} {state next : IrqState} {action : IrqAction}

theorem masked_irqStep (taken : irqStep domain state action = some next)
    (hwirq : Fin 16) :
    masked next.chip hwirq = masked state.chip hwirq := by
  have leads := irqStep_leads taken
  cases action with
  | lock | syncUnlock =>
      obtain rfl : next = _ := leads
      rfl
  | request other on =>
      obtain ⟨irqMask, rfl⟩ := leads
      rfl
  | pend other =>
      obtain rfl : next = _ := leads
      obtain ⟨first, second⟩ := maskPlace_ne hwirq
      unfold masked
      rw [RegisterFile.bit_setBits]
      rcases statusPlace_cases other with ⟨low, place⟩ | ⟨high, place⟩
      · rw [place, if_neg first]
      · rw [place, if_neg second]
  | interrupt =>
      obtain rfl : next = _ := leads
      exact masked_rk818Irq domain state.chip hwirq

theorem last_irqStep (taken : irqStep domain state action = some next)
    (hwirq : Fin 16) :
    next.last hwirq = (action.asks hwirq).or (state.last hwirq) := by
  have leads := irqStep_leads taken
  cases action with
  | request other on =>
      obtain ⟨irqMask, rfl⟩ := leads
      by_cases here : other = hwirq
      · subst here
        simp [IrqAction.asks]
      · have apart : hwirq ≠ other := fun equal => here equal.symm
        simp [IrqAction.asks, here, apart]
  | _ =>
      obtain rfl : next = _ := leads
      rfl

theorem synced_irqStep (taken : irqStep domain state action = some next)
    (other : action ≠ .syncUnlock) :
    next.synced = state.synced := by
  have leads := irqStep_leads taken
  cases action with
  | request hwirq on =>
      obtain ⟨irqMask, rfl⟩ := leads
      rfl
  | syncUnlock => exact absurd rfl other
  | _ =>
      obtain rfl : next = _ := leads
      rfl

/-- A status bit is set when its interrupt becomes pending, and cleared by the
handler unless it is masked. -/
theorem pending_irqStep (taken : irqStep domain state action = some next)
    (hwirq : Fin 16) :
    pending next.chip hwirq = match action with
      | .pend other => other == hwirq || pending state.chip hwirq
      | .interrupt => pending state.chip hwirq && masked state.chip hwirq
      | _ => pending state.chip hwirq := by
  have leads := irqStep_leads taken
  cases action with
  | lock | syncUnlock =>
      obtain rfl : next = _ := leads
      rfl
  | request other on =>
      obtain ⟨irqMask, rfl⟩ := leads
      rfl
  | pend other =>
      obtain rfl : next = _ := leads
      exact pending_pend state.chip other hwirq
  | interrupt =>
      obtain rfl : next = _ := leads
      exact pending_rk818Irq domain state.chip hwirq

end Steps

theorem MasksReachChip.step {domain : IrqDomain} {state next : IrqState}
    {action : IrqAction} (reach : MasksReachChip state)
    (delivers : Delivers domain state action)
    (taken : irqStep domain state action = some next) :
    MasksReachChip next := by
  by_cases unlock : action = .syncUnlock
  · subst unlock
    exact delivers next taken
  · intro hwirq on last
    rw [masked_irqStep taken]
    apply reach hwirq on
    rwa [← synced_irqStep taken unlock]

/-- The handler calls and clears what it should if nothing gets through the
masks that has no virtual number. -/
theorem MasksReachChip.handlesExactly_iff {state : IrqState}
    (reach : MasksReachChip state) (domain : IrqDomain) :
    HandlesExactly domain state ↔ ∀ hwirq, pending state.chip hwirq = true →
      masked state.chip hwirq = false → domain.findMapping hwirq ≠ 0 := by
  constructor
  · intro exactly hwirq present clear mapped
    have once := (exactly hwirq).1
    rw [reach.enabled, count_rk818Irq] at once
    simp [present, clear, mapped] at once
  · intro sound hwirq
    rw [reach.enabled, count_rk818Irq, pending_rk818Irq, Bool.not_not]
    refine ⟨?_, rfl⟩
    cases present : pending state.chip hwirq with
    | false => simp
    | true =>
        cases clear : masked state.chip hwirq with
        | true => simp
        | false => simp [sound hwirq present clear]

section Histories

variable {domain : IrqDomain} {chip : Chip} {chipIrq : Nat}
variable {earlier : List IrqAction} {state : IrqState}

/-- What a run of the irq chip does to the masks, the requests and the status
bits. -/
structure IrqHistory (chip : Chip) (earlier : List IrqAction)
    (state : IrqState) : Prop where
  masks : ∀ hwirq, masked state.chip hwirq = masked chip hwirq
  last : ∀ hwirq, state.last hwirq = lastRequest hwirq earlier
  pended : ∀ hwirq, pending state.chip hwirq = true →
    .pend hwirq ∈ earlier

theorem irqHistory_init : IrqHistory chip [] (irqInit chip chipIrq) := by
  refine ⟨?_, fun _ => rfl, ?_⟩
  · intro hwirq
    exact masked_irqInit chip chipIrq hwirq
  · intro hwirq present
    rw [pending_irqInit] at present
    cases present

theorem IrqHistory.step {next : IrqState} {action : IrqAction}
    (history : IrqHistory chip earlier state)
    (taken : irqStep domain state action = some next) :
    IrqHistory chip (earlier ++ [action]) next := by
  constructor
  case masks =>
    intro hwirq
    rw [masked_irqStep taken, history.masks]
  case last =>
    intro hwirq
    rw [last_irqStep taken, history.last, lastRequest, lastRequest,
      lastWritten_snoc]
  case pended =>
    intro hwirq present
    rw [pending_irqStep taken] at present
    rw [List.mem_append, List.mem_singleton]
    cases action with
    | pend other =>
        rw [Bool.or_eq_true, beq_iff_eq] at present
        rcases present with rfl | before
        · exact .inr rfl
        · exact .inl (history.pended hwirq before)
    | interrupt =>
        rw [Bool.and_eq_true] at present
        exact .inl (history.pended hwirq present.1)
    | _ => exact .inl (history.pended hwirq present)

theorem irqHistory_of_run {guard : IrqState → IrqAction → Prop}
    (run : Run (irqStep domain) guard (irqInit chip chipIrq) earlier state) :
    IrqHistory chip earlier state := by
  induction run with
  | nil => exact irqHistory_init
  | snoc _ _ taken induction => exact induction.step taken

/-- As long as everything is delivered, the requests that were synchronised are
on the chip. -/
theorem masksReachChip_of_run {guard : IrqState → IrqAction → Prop}
    (run : Run (irqStep domain) guard (irqInit chip chipIrq) earlier state)
    (delivers : Along (irqStep domain) (Delivers domain)
      (irqInit chip chipIrq) earlier) : MasksReachChip state := by
  refine delivers.invariant_of_run ?_ ?_ (run.mono fun _ _ _ => trivial)
  · intro hwirq on last
    cases last
  · intro state action next reach delivered taken
    exact reach.step delivered taken

/-- As long as everything is delivered, an interrupt that gets through the masks
and has no virtual number stays pending: the handler has not run since. -/
theorem pending_of_unmapped {guard : IrqState → IrqAction → Prop}
    (run : Run (irqStep domain) guard (irqInit chip chipIrq) earlier state)
    (delivers : Along (irqStep domain) (Delivers domain)
      (irqInit chip chipIrq) earlier) {hwirq : Fin 16}
    (pended : .pend hwirq ∈ earlier) (clear : masked chip hwirq = false)
    (unmapped : domain.findMapping hwirq = 0) :
    pending state.chip hwirq = true := by
  induction run with
  | nil => cases pended
  | @snoc earlier middle final action run _ taken induction =>
      obtain ⟨before, now⟩ := (along_snoc run).mp delivers
      rw [List.mem_append, List.mem_singleton] at pended
      rw [pending_irqStep taken]
      rcases pended with pended | rfl
      · have waiting := induction before pended
        cases action with
        | pend other => simp [waiting]
        | interrupt =>
            have reach := masksReachChip_of_run run before
            have open' : masked middle.chip hwirq = false := by
              rw [(irqHistory_of_run run).masks, clear]
            have mapped := (reach.handlesExactly_iff domain).mp now hwirq
              waiting open'
            exact absurd unmapped mapped
        | _ => exact waiting
      · simp

end Histories

/-- In a run of the irq chip the masks reach the chip and every interrupt is
delivered exactly if the run asks for nothing but the masks that the chip was
found with. -/
theorem delivers_iff_irqSound {domain : IrqDomain} {chip : Chip}
    {chipIrq : Nat} {actions : List IrqAction} {final : IrqState}
    (run : Run (irqStep domain) (fun _ _ => True) (irqInit chip chipIrq)
      actions final) :
    Along (irqStep domain) (Delivers domain) (irqInit chip chipIrq) actions ↔
      IrqSound domain chip actions := by
  apply along_iff_throughout run
  intro earlier state action next reached taken before
  have history := irqHistory_of_run reached
  have reach := masksReachChip_of_run reached before
  cases action with
  | syncUnlock =>
      have masks := masked_irqStep taken
      have synced : next = _ := irqStep_leads taken
      rw [Delivers, askedAsFound]
      constructor
      · intro delivers hwirq on asked
        rw [← history.last] at asked
        rw [← history.masks, ← masks]
        apply delivers next taken
        rwa [synced]
      · intro asked other leads hwirq on last
        obtain rfl := Option.some.inj (taken.symm.trans leads)
        rw [masks, history.masks]
        apply asked
        rw [← history.last, ← last, synced]
  | interrupt =>
      rw [Delivers, reach.handlesExactly_iff, askedAsFound]
      constructor
      · intro sound hwirq pended clear unmapped
        have waiting := pending_of_unmapped reached before pended clear unmapped
        exact sound hwirq waiting (by rw [history.masks, clear]) unmapped
      · intro sound hwirq present clear
        rw [history.masks] at clear
        exact sound hwirq (history.pended hwirq present) clear
  | _ => exact Iff.rfl

/-- Virtual numbers from 101 on; 100 is the interrupt of the chip itself. -/
def linearDomain : IrqDomain where
  findMapping hwirq := hwirq + 101
  distinct := by
    intro first second same _
    omega

/-- A chip that was left with interrupt 1 alone masked. -/
private def foundChip : Chip :=
  fun reg => if reg = intStsMskReg1 then 2 else 0

private def foundActions : List IrqAction :=
  [.lock, .request 0 true, .request 1 false, .syncUnlock, .pend 0, .pend 1,
    .interrupt]

/-- Interrupt 0 is enabled and 1 disabled, as they were found; both become
pending, and the handler clears the first. -/
theorem delivers_iff_irqSound_found :
    ∃ state, pending state.chip 0 = false ∧ pending state.chip 1 = true ∧
      Run (irqStep linearDomain) (fun _ _ => True) (irqInit foundChip 100)
        foundActions state ∧
      Along (irqStep linearDomain) (Delivers linearDomain)
        (irqInit foundChip 100) foundActions := by
  have passed : (execute (irqStep linearDomain) (fun _ _ => True)
      (irqInit foundChip 100) foundActions).any (fun state =>
        !pending state.chip 0 && pending state.chip 1) = true := by
    decide
  obtain ⟨final, run, bits⟩ := Run.exists_of_execute passed
  rw [Bool.and_eq_true, Bool.not_eq_true'] at bits
  exact ⟨final, bits.1, bits.2, run,
    (delivers_iff_irqSound run).mpr (by decide)⟩

/-- An interrupt that is enabled stays masked on the chip. -/
theorem not_delivers_enable :
    ¬Along (irqStep linearDomain) (Delivers linearDomain)
      (irqInit (fun _ => 0xff) 100)
      [.lock, .request 0 true, .syncUnlock] := by
  intro delivers
  have locked : Run (irqStep linearDomain) (fun _ _ => True)
      (irqInit (fun _ => 0xff) 100) [.lock] _ :=
    .snoc .nil trivial rfl
  have requested : Run (irqStep linearDomain) (fun _ _ => True)
      (irqInit (fun _ => 0xff) 100) [.lock, .request 0 true] _ :=
    locked.snoc trivial rfl
  have reach := delivers _ .syncUnlock [] _ rfl requested _ rfl 0 true rfl
  revert reach
  decide

end KernelDrivers.Rk818
