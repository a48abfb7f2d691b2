import KernelDrivers.Library.RegisterFile
import KernelDrivers.Library.Transition

/-!
# What a domain sees of a run

Each action belongs to a domain, and each domain has a relation between the
states that it cannot tell apart.  When the actions of the others change
nothing that a domain sees, it sees of a run what it sees of the run of its own
actions.
-/

namespace KernelDrivers.Library

universe u v w

variable {State : Type u} {Action : Type v} {Domain : Type w}

/-- The unwinding conditions: the actions of other domains are not seen where
the guard allows them, and an action does the same to what its domain sees. -/
structure Unwinds (step : State → Action → Option State)
    (guard : State → Action → Prop) (domain : Action → Domain)
    (alike : Domain → State → State → Prop) : Prop where
  same : ∀ observer state, alike observer state state
  respects : ∀ observer state other action next, alike observer state other →
    domain action ≠ observer → guard state action →
    step state action = some next → alike observer next other
  consistent : ∀ state other action next,
    alike (domain action) state other → step state action = some next →
    ∃ next', step other action = some next' ∧
      alike (domain action) next next'

/-- The actions of one domain. -/
def purge [DecidableEq Domain] (domain : Action → Domain) (observer : Domain)
    (actions : List Action) : List Action :=
  actions.filter fun action => domain action = observer

section Purge

variable [DecidableEq Domain] {domain : Action → Domain} {observer : Domain}
variable {actions : List Action} {action : Action}

theorem purge_snoc_own (own : domain action = observer) :
    purge domain observer (actions ++ [action]) =
      purge domain observer actions ++ [action] := by
  simp [purge, own]

theorem purge_snoc_other (other : domain action ≠ observer) :
    purge domain observer (actions ++ [action]) =
      purge domain observer actions := by
  simp [purge, other]

/-- A domain's own actions can be taken alone, and lead to what it sees at the
end of the whole run. -/
theorem Unwinds.run_purge {step : State → Action → Option State}
    {guard : State → Action → Prop} {alike : Domain → State → State → Prop}
    (unwinds : Unwinds step guard domain alike) {start final : State}
    (run : Run step guard start actions final) (observer : Domain) :
    ∃ alone, Run step (fun _ _ => True) start
        (purge domain observer actions) alone ∧
      alike observer final alone := by
  induction run with
  | nil => exact ⟨start, .nil, unwinds.same observer start⟩
  | @snoc actions middle final action _ allowed taken induction =>
      obtain ⟨alone, own, alike⟩ := induction
      by_cases mine : domain action = observer
      · rw [purge_snoc_own mine]
        subst mine
        obtain ⟨next, step, after⟩ :=
          unwinds.consistent middle alone action final alike taken
        exact ⟨next, own.snoc trivial step, after⟩
      · rw [purge_snoc_other mine]
        have after := unwinds.respects observer middle alone action final
          alike mine allowed taken
        exact ⟨alone, own, after⟩

end Purge

/-- What the last of the actions that write anything wrote. -/
def lastWritten {Value : Type w} (written : Action → Option Value)
    (actions : List Action) : Option Value :=
  actions.reverse.findSome? written

theorem lastWritten_snoc {Value : Type w} (written : Action → Option Value)
    (actions : List Action) (action : Action) :
    lastWritten written (actions ++ [action]) =
      (written action).or (lastWritten written actions) := by
  have single : [action].reverse.findSome? written = written action := by
    cases found : written action <;> simp [found]
  rw [lastWritten, List.reverse_append, List.findSome?_append, single,
    lastWritten]

/-- What every action either writes or leaves as it was is, after a run, what
was last written, or what it was at the start. -/
theorem Run.lastWritten_eq {Value : Type w}
    {step : State → Action → Option State} {guard : State → Action → Prop}
    (read : State → Value) (written : Action → Option Value)
    (writes : ∀ state action next, step state action = some next →
      read next = (written action).getD (read state))
    {start final : State} {actions : List Action}
    (run : Run step guard start actions final) :
    read final = (lastWritten written actions).getD (read start) := by
  induction run with
  | nil => rfl
  | @snoc actions middle final action _ _ taken induction =>
      rw [writes middle action final taken, induction, lastWritten_snoc]
      cases written action with
      | none => rfl
      | some value => rfl

section Registers

variable {width : Nat} {Own : Domain → Nat → Nat → Prop}

/-- The register files that have the same bits where a domain owns them. -/
def AlikeOn (Own : Domain → Nat → Nat → Prop) (observer : Domain)
    (regs other : RegisterFile width) : Prop :=
  ∀ reg index, Own observer reg index →
    regs.bit reg index = other.bit reg index

theorem AlikeOn.setBits {observer : Domain} {regs other : RegisterFile width}
    (alike : AlikeOn Own observer regs other) (reg : Nat)
    (mask value : BitVec width) :
    AlikeOn Own observer (regs.setBits reg mask value)
      (other.setBits reg mask value) := by
  intro target index owned
  rw [RegisterFile.bit_setBits, RegisterFile.bit_setBits,
    alike target index owned]
  split
  · rename_i here
    rw [← here, alike target index owned]
  · rfl

theorem AlikeOn.field {observer : Domain} {regs other : RegisterFile width}
    (alike : AlikeOn Own observer regs other) {reg : Nat}
    {mask : BitVec width}
    (owned : ∀ index, mask.getLsbD index = true → Own observer reg index) :
    regs reg &&& mask = other reg &&& mask := by
  apply RegisterFile.field_congr
  intro index inside
  exact alike reg index (owned index inside)

/-- Where no bit has two owners, it is enough that an allowed action changes
the bits of its domain alone. -/
theorem unwinds_of_framed
    {step : RegisterFile width → Action → Option (RegisterFile width)}
    {guard : RegisterFile width → Action → Prop} {domain : Action → Domain}
    (disjoint : ∀ observer other reg index, Own observer reg index →
      Own other reg index → observer = other)
    (framed : ∀ regs action next, guard regs action →
      step regs action = some next → ∀ reg index,
        ¬Own (domain action) reg index →
          next.bit reg index = regs.bit reg index)
    (consistent : ∀ regs other action next,
      AlikeOn Own (domain action) regs other → step regs action = some next →
      ∃ next', step other action = some next' ∧
        AlikeOn Own (domain action) next next') :
    Unwinds step guard domain (AlikeOn Own) where
  same _ _ _ _ _ := rfl
  respects := by
    intro observer regs other action next alike foreign allowed taken
      reg index owned
    have unowned : ¬Own (domain action) reg index := by
      intro both
      exact foreign (disjoint _ _ reg index both owned)
    have kept := framed regs action next allowed taken reg index unowned
    exact kept.trans (alike reg index owned)
  consistent := consistent

end Registers

end KernelDrivers.Library
