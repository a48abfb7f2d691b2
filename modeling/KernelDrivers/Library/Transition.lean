import Mathlib.Data.List.Induction

/-!
# Runs of a guarded partial transition function

A component is a partial function on states and actions.  A run may be
restricted by a guard on the state before each action, which is how an
assumption about the environment, or a condition under which the component
works, is attached to every step of a run.
-/

namespace KernelDrivers.Library

universe u v

variable {State : Type u} {Action : Type v}
variable {step : State → Action → Option State}
variable {guard guard' : State → Action → Prop}

/-- `Run step guard start actions final`: the actions are taken one after the
other, each of them enabled and allowed by the guard where it is taken. -/
inductive Run (step : State → Action → Option State)
    (guard : State → Action → Prop) (start : State) :
    List Action → State → Prop where
  | nil : Run step guard start [] start
  | snoc {actions : List Action} {middle final : State} {action : Action} :
      Run step guard start actions middle →
      guard middle action →
      step middle action = some final →
      Run step guard start (actions ++ [action]) final

namespace Run

variable {start middle final : State} {actions first second : List Action}

theorem mono (weaker : ∀ state action, guard state action →
      guard' state action)
    (run : Run step guard start actions final) :
    Run step guard' start actions final := by
  induction run with
  | nil => exact .nil
  | snoc _ allowed taken induction =>
      exact .snoc induction (weaker _ _ allowed) taken

theorem trans (left : Run step guard start first middle)
    (right : Run step guard middle second final) :
    Run step guard start (first ++ second) final := by
  induction right with
  | nil => simpa using left
  | snoc _ allowed taken induction =>
      rw [← List.append_assoc]
      exact .snoc induction allowed taken

/-- The induction rule for runs: a property of the start state that every
guarded step keeps holds wherever a guarded run ends. -/
theorem invariant {property : State → Prop} (initial : property start)
    (preserved : ∀ state action next, property state →
      guard state action → step state action = some next → property next)
    (run : Run step guard start actions final) : property final := by
  induction run with
  | nil => exact initial
  | snoc _ allowed taken induction =>
      exact preserved _ _ _ induction allowed taken

/-- A measure that each counted action uses up bounds their number. -/
theorem countP_le {property : State → Prop} {measure : State → Nat}
    {counted : Action → Bool} (run : Run step guard start actions final)
    (initial : property start)
    (drops : ∀ state action next, property state →
      step state action = some next →
      property next ∧ measure next + (counted action).toNat ≤ measure state) :
    measure final + actions.countP counted ≤ measure start := by
  have bounded : property final ∧
      measure final + actions.countP counted ≤ measure start := by
    induction run with
    | nil => exact ⟨initial, Nat.le_refl _⟩
    | snoc _ _ taken induction =>
        obtain ⟨holds, before⟩ := induction
        obtain ⟨kept, less⟩ := drops _ _ _ holds taken
        refine ⟨kept, ?_⟩
        rw [List.countP_append, List.countP_singleton]
        split
        · rename_i yes
          rw [yes, Bool.toNat_true] at less
          omega
        · omega
  exact bounded.2

theorem of_nil (run : Run step guard start [] final) : start = final := by
  generalize none : ([] : List Action) = actions at run
  cases run with
  | nil => rfl
  | snoc _ _ _ => simp at none

theorem of_snoc {action : Action}
    (run : Run step guard start (actions ++ [action]) final) :
    ∃ middle, Run step guard start actions middle ∧
      step middle action = some final := by
  generalize all : actions ++ [action] = taken at run
  cases run with
  | nil => simp at all
  | snoc run _ taken =>
      obtain ⟨rfl, rfl⟩ := List.append_singleton_inj.mp all
      exact ⟨_, run, taken⟩

theorem unique (run : Run step guard start actions middle)
    (other : Run step guard' start actions final) : middle = final := by
  induction run generalizing final with
  | nil => exact other.of_nil
  | snoc _ _ taken induction =>
      obtain ⟨before, earlier, last⟩ := other.of_snoc
      cases induction earlier
      exact Option.some.inj (taken.symm.trans last)

theorem of_cons {action : Action}
    (run : Run step guard start (action :: actions) final) :
    ∃ next, step start action = some next ∧
      Run step guard next actions final := by
  generalize all : action :: actions = taken at run
  induction run generalizing actions with
  | nil => simp at all
  | @snoc before middle final last run allowed taken induction =>
      cases actions using List.reverseRecOn with
      | nil =>
          obtain ⟨rfl, rfl⟩ : before = [] ∧ action = last := by
            cases before <;> simp_all
          cases run.of_nil
          exact ⟨final, taken, .nil⟩
      | append_singleton actions _ =>
          rw [← List.cons_append] at all
          obtain ⟨same, rfl⟩ := List.append_singleton_inj.mp all
          obtain ⟨next, first, others⟩ := induction same
          exact ⟨next, first, others.snoc allowed taken⟩

/-- What follows the first actions of a run is a run from where they lead. -/
theorem of_append (run : Run step guard start (first ++ second) final)
    (before : Run step guard' start first middle) :
    Run step guard middle second final := by
  induction first generalizing start with
  | nil =>
      cases before.of_nil
      exact run
  | cons action first induction =>
      obtain ⟨next, taken, run⟩ := run.of_cons
      obtain ⟨next', taken', before⟩ := before.of_cons
      cases taken.symm.trans taken'
      exact induction run before

/-- Where a property of the actions taken can always be advanced by one more
action, every sequence of actions is a run. -/
theorem exists_of_advance {property : List Action → State → Prop}
    (initial : property [] start)
    (advance : ∀ actions state action, property actions state →
      ∃ next, step state action = some next ∧
        property (actions ++ [action]) next) (actions : List Action) :
    ∃ final, Run step (fun _ _ => True) start actions final ∧
      property actions final := by
  induction actions using List.reverseRecOn with
  | nil => exact ⟨start, .nil, initial⟩
  | append_singleton actions action induction =>
      obtain ⟨state, run, holds⟩ := induction
      obtain ⟨next, taken, further⟩ := advance actions state action holds
      exact ⟨next, run.snoc trivial taken, further⟩

end Run

/-- A property of all the steps that the actions lead through, from whatever
state each of them is taken. -/
def Along (step : State → Action → Option State)
    (property : State → Action → Prop) (start : State)
    (actions : List Action) : Prop :=
  ∀ earlier action later state, actions = earlier ++ action :: later →
    Run step (fun _ _ => True) start earlier state → property state action

section Along

variable {property property' : State → Action → Prop} {invariant : State → Prop}
variable {start final : State} {actions : List Action}

theorem Along.of_append {later : List Action}
    (along : Along step property start (actions ++ later)) :
    Along step property start actions := by
  intro earlier action after state split
  exact along earlier action (after ++ later) state (by simp [split])

theorem Along.invariant_of_run (initial : invariant start)
    (preserved : ∀ state action next, invariant state →
      property state action → step state action = some next →
      invariant next)
    (run : Run step (fun _ _ => True) start actions final)
    (along : Along step property start actions) : invariant final := by
  induction run with
  | nil => exact initial
  | @snoc actions middle final action run _ taken induction =>
      apply preserved middle action final
      · exact induction along.of_append
      · exact along actions action [] middle rfl run
      · exact taken

/-- Two properties that imply each other wherever the invariant holds hold
along the same actions. -/
theorem Along.mono (initial : invariant start)
    (preserved : ∀ state action next, invariant state →
      property state action → step state action = some next →
      invariant next)
    (weaker : ∀ state action, invariant state → property state action →
      property' state action)
    (along : Along step property start actions) :
    Along step property' start actions := by
  intro earlier action later state split run
  have before : Along step property start earlier := by
    rw [split] at along
    exact along.of_append
  apply weaker state action
  · exact before.invariant_of_run initial preserved run
  · exact along earlier action later state split run

theorem along_congr (initial : invariant start)
    (preserved : ∀ state action next, invariant state →
      property state action → step state action = some next →
      invariant next)
    (agree : ∀ state action, invariant state →
      (property state action ↔ property' state action)) :
    Along step property start actions ↔ Along step property' start actions := by
  constructor
  · intro along
    refine along.mono initial preserved ?_
    intro state action holds
    exact (agree state action holds).mp
  · intro along
    refine along.mono initial ?_ ?_
    · intro state action next holds sound
      have kept := (agree state action holds).mpr sound
      exact preserved state action next holds kept
    · intro state action holds
      exact (agree state action holds).mpr

theorem along_snoc {action : Action}
    (run : Run step guard start actions final) :
    Along step property start (actions ++ [action]) ↔
      Along step property start actions ∧ property final action := by
  constructor
  · intro along
    refine ⟨along.of_append, along actions action [] final rfl ?_⟩
    exact run.mono fun _ _ _ => trivial
  · rintro ⟨before, last⟩ earlier next later state split reached
    cases later using List.reverseRecOn with
    | nil =>
        obtain ⟨rfl, rfl⟩ := List.append_singleton_inj.mp split
        cases run.unique reached
        exact last
    | append_singleton later _ =>
        rw [← List.cons_append, ← List.append_assoc] at split
        obtain ⟨same, -⟩ := List.append_singleton_inj.mp split
        exact before earlier next later state same reached

theorem along_nil : Along step property start [] := by
  intro earlier action later state split
  simp at split

/-- A property of every action and the actions before it. -/
def Throughout (history : List Action → Action → Prop)
    (actions : List Action) : Prop :=
  ∀ earlier action later, actions = earlier ++ action :: later →
    history earlier action

theorem throughout_nil {history : List Action → Action → Prop} :
    Throughout history [] := by
  intro earlier action later split
  simp at split

theorem throughout_snoc {history : List Action → Action → Prop}
    {action : Action} :
    Throughout history (actions ++ [action]) ↔
      Throughout history actions ∧ history actions action := by
  constructor
  · intro throughout
    refine ⟨?_, throughout actions action [] rfl⟩
    intro earlier next later split
    exact throughout earlier next (later ++ [action]) (by simp [split])
  · rintro ⟨before, last⟩ earlier next later split
    cases later using List.reverseRecOn with
    | nil =>
        obtain ⟨rfl, rfl⟩ := List.append_singleton_inj.mp split
        exact last
    | append_singleton later _ =>
        rw [← List.cons_append, ← List.append_assoc] at split
        obtain ⟨same, -⟩ := List.append_singleton_inj.mp split
        exact before earlier next later same

instance decidableThroughout {history : List Action → Action → Prop}
    [∀ earlier action, Decidable (history earlier action)]
    (actions : List Action) : Decidable (Throughout history actions) :=
  decidable_of_iff
    (∀ place : Fin actions.length, history (actions.take place) actions[place])
    (by
      constructor
      · rintro all earlier action later rfl
        simpa using all ⟨earlier.length, by simp⟩
      · intro throughout place
        apply throughout _ _ (actions.drop (place + 1))
        rw [Fin.getElem_fin, ← List.drop_eq_getElem_cons place.isLt,
          List.take_append_drop])

/-- What is asked of the states of a run may be asked of its actions, where the
two agree as long as it has held. -/
theorem along_iff_throughout {history : List Action → Action → Prop}
    (run : Run step guard start actions final)
    (agree : ∀ earlier state action next,
      Run step (fun _ _ => True) start earlier state →
      step state action = some next →
      Along step property start earlier →
      (property state action ↔ history earlier action)) :
    Along step property start actions ↔ Throughout history actions := by
  induction run with
  | nil => exact iff_of_true along_nil throughout_nil
  | snoc run _ taken induction =>
      rw [along_snoc run, throughout_snoc, ← induction]
      apply and_congr_right
      intro before
      exact agree _ _ _ _ (run.mono fun _ _ _ => trivial) taken before

/-- The first action, and then the others from where it leads. -/
theorem along_cons {action : Action} :
    Along step property start (action :: actions) ↔
      property start action ∧ ∀ next, step start action = some next →
        Along step property next actions := by
  constructor
  · intro along
    refine ⟨along [] action actions start rfl .nil, ?_⟩
    intro next taken earlier later after state split run
    have first : Run step (fun _ _ => True) start [action] next :=
      .snoc .nil trivial taken
    exact along (action :: earlier) later after state (by simp [split])
      (first.trans run)
  · rintro ⟨first, others⟩ earlier later after state split run
    cases earlier with
    | nil =>
        cases split
        cases run.of_nil
        exact first
    | cons head earlier =>
        obtain ⟨rfl, rest⟩ := List.cons.inj split
        obtain ⟨next, taken, run⟩ := run.of_cons
        exact others next taken earlier later after state rest run

instance decidableAlong
    [decide : ∀ state action, Decidable (property state action)] :
    (start : State) → (actions : List Action) →
      Decidable (Along step property start actions)
  | _, [] => isTrue along_nil
  | start, action :: actions =>
      match taken : step start action with
      | none => decidable_of_iff (property start action) (by
          simp [along_cons, taken])
      | some next =>
          have := decidableAlong next actions
          decidable_of_iff (property start action ∧
            Along step property next actions) (by simp [along_cons, taken])

end Along

/-- The sum of the weights of the actions, each in the state where it is
taken. -/
def total (step : State → Action → Option State)
    (weight : State → Action → Nat) : State → List Action → Nat
  | _, [] => 0
  | state, action :: actions =>
      weight state action +
        match step state action with
        | none => 0
        | some next => total step weight next actions

section Total

variable {weight : State → Action → Nat}
variable {start middle final : State} {actions first second : List Action}

theorem total_cons {action : Action} {next : State}
    (taken : step start action = some next) :
    total step weight start (action :: actions) =
      weight start action + total step weight next actions := by
  rw [total, taken]

theorem total_append (run : Run step guard start first middle) :
    total step weight start (first ++ second) =
      total step weight start first + total step weight middle second := by
  induction first generalizing start with
  | nil =>
      cases run.of_nil
      rw [total, List.nil_append, Nat.zero_add]
  | cons action first induction =>
      obtain ⟨next, taken, run⟩ := run.of_cons
      rw [List.cons_append, total_cons taken, total_cons taken, induction run,
        Nat.add_assoc]

theorem total_snoc {action : Action}
    (run : Run step guard start actions final) :
    total step weight start (actions ++ [action]) =
      total step weight start actions + weight final action := by
  rw [total_append run, total]
  cases step final action <;> rfl

end Total

/-- Evaluate a list of actions, checking the guard before each of them. -/
def execute (step : State → Action → Option State)
    (guard : State → Action → Prop)
    [∀ state action, Decidable (guard state action)] :
    State → List Action → Option State
  | state, [] => some state
  | state, action :: actions =>
      if guard state action then
        match step state action with
        | none => none
        | some next => execute step guard next actions
      else none

theorem Run.of_execute [∀ state action, Decidable (guard state action)]
    {start final : State} {actions : List Action}
    (evaluated : execute step guard start actions = some final) :
    Run step guard start actions final := by
  induction actions generalizing start with
  | nil =>
      simp only [execute, Option.some.injEq] at evaluated
      exact evaluated ▸ .nil
  | cons action actions induction =>
      rw [execute] at evaluated
      split at evaluated
      · rename_i allowed
        cases taken : step start action with
        | none => simp [taken] at evaluated
        | some next =>
            simp only [taken] at evaluated
            have empty : Run step guard start [] start := .nil
            have first := empty.snoc allowed taken
            exact first.trans (induction evaluated)
      · simp at evaluated

/-- A decidable test on the state an evaluation ends in gives a run to a state
with that property. -/
theorem Run.exists_of_execute
    [∀ state action, Decidable (guard state action)]
    {start : State} {actions : List Action} {test : State → Bool}
    (passed : (execute step guard start actions).any test = true) :
    ∃ final, Run step guard start actions final ∧ test final = true := by
  cases evaluated : execute step guard start actions with
  | none => simp [evaluated] at passed
  | some final =>
      exact ⟨final, .of_execute evaluated, by simpa [evaluated] using passed⟩

end KernelDrivers.Library
