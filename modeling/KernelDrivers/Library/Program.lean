import Mathlib.Logic.Basic
import Mathlib.Data.List.Basic

/-!
# Programs that make requests

A program either ends with a result or makes a request and goes on with the
answer.  An environment answers requests and changes its state, or never
answers.  A run ends with a result unless a request is never answered; the
states after the answered requests are seen in either case.
-/

namespace KernelDrivers.Library

inductive Program (Request : Type) (Answer : Request → Type) (α : Type) where
  | done (result : α)
  | ask (request : Request)
      (next : Answer request → Program Request Answer α)

namespace Program

variable {Request : Type} {Answer : Request → Type} {α β σ : Type}

def bind : Program Request Answer α → (α → Program Request Answer β) →
    Program Request Answer β
  | done result, rest => rest result
  | ask request next, rest => ask request fun answer => (next answer).bind rest

/-- One request. -/
def request (request : Request) : Program Request Answer (Answer request) :=
  ask request done

instance : Monad (Program Request Answer) where
  pure := done
  bind := bind

@[simp] theorem pure_eq (result : α) :
    (pure result : Program Request Answer α) = done result :=
  rfl

@[simp] theorem done_bind (result : α)
    (rest : α → Program Request Answer β) :
    (done result >>= rest) = rest result :=
  rfl

@[simp] theorem ask_bind (request : Request)
    (next : Answer request → Program Request Answer α)
    (rest : α → Program Request Answer β) :
    (ask request next >>= rest) = ask request fun answer =>
      next answer >>= rest :=
  rfl

@[simp] theorem request_bind (asked : Request)
    (rest : Answer asked → Program Request Answer β) :
    (request asked >>= rest) = ask asked rest :=
  rfl

/-- How the requests are answered; `none` is a request that never is. -/
abbrev Environment (Answer : Request → Type) (σ : Type) :=
  (request : Request) → σ → Option (Answer request × σ)

variable (serve : Environment Answer σ)

def run : Program Request Answer α → σ → Option (α × σ)
  | done result, state => some (result, state)
  | ask request next, state =>
      match serve request state with
      | none => none
      | some (answer, state) => (next answer).run state

/-- The states after the requests that are answered. -/
def states : Program Request Answer α → σ → List σ
  | done _, _ => []
  | ask request next, state =>
      match serve request state with
      | none => []
      | some (answer, state) => state :: (next answer).states state

variable {serve} {state next : σ} {asked : Request} {answer : Answer asked}
variable {rest : Answer asked → Program Request Answer α}

@[simp] theorem run_done (result : α) :
    (done result : Program Request Answer α).run serve state =
      some (result, state) :=
  rfl

theorem run_ask (served : serve asked state = some (answer, next)) :
    (ask asked rest).run serve state = (rest answer).run serve next := by
  simp only [run, served]

theorem states_ask (served : serve asked state = some (answer, next)) :
    (ask asked rest).states serve state =
      next :: (rest answer).states serve next := by
  simp only [states, served]

theorem run_bind (program : Program Request Answer α)
    (following : α → Program Request Answer β) :
    (program >>= following).run serve state =
      (program.run serve state).bind fun after =>
        (following after.1).run serve after.2 := by
  induction program generalizing state with
  | done result => rfl
  | ask asked rest induction =>
      cases served : serve asked state with
      | none => simp [run, served]
      | some after =>
          obtain ⟨answer, next⟩ := after
          rw [ask_bind, run_ask served, run_ask served]
          exact induction answer

theorem run_invariant (Inv : σ → Prop)
    (kept : ∀ request state answer next, Inv state →
      serve request state = some (answer, next) → Inv next)
    (program : Program Request Answer α) (initial : Inv state) :
    ∀ after ∈ program.states serve state, Inv after := by
  induction program generalizing state with
  | done result =>
      intro after member
      cases member
  | ask asked rest induction =>
      cases served : serve asked state with
      | none =>
          intro after member
          simp [states, served] at member
      | some answered =>
          obtain ⟨answer, next⟩ := answered
          have holds := kept asked state answer next initial served
          rw [states_ask served]
          exact List.forall_mem_cons.mpr ⟨holds, induction answer holds⟩

section Truthful

variable (Asks : Request → Prop) (Truthful : ∀ request, Answer request → Prop)

/-- As long as the answers are truthful, every request is as it should be. -/
def AllAsk : Program Request Answer α → Prop
  | done _ => True
  | ask request next =>
      Asks request ∧ ∀ answer, Truthful request answer → (next answer).AllAsk

variable {Asks Truthful}

theorem AllAsk.bind {program : Program Request Answer α}
    {following : α → Program Request Answer β}
    (first : program.AllAsk Asks Truthful)
    (second : ∀ result, (following result).AllAsk Asks Truthful) :
    (program >>= following).AllAsk Asks Truthful := by
  induction program with
  | done result => exact second result
  | ask asked rest induction =>
      refine ⟨first.1, ?_⟩
      intro answer truthful
      exact induction answer (first.2 answer truthful)

/-- If the environment answers whenever the invariant holds, and answers
truthfully and keeps the invariant unless the state afterwards is bad, then a
run without bad states ends and keeps the invariant. -/
theorem AllAsk.run (Inv : σ → Prop) {Good : σ → Prop}
    (answered : ∀ request state, Inv state → serve request state ≠ none)
    (kept : ∀ request state answer next, Inv state → Asks request →
      serve request state = some (answer, next) → Good next →
        Truthful request answer ∧ Inv next)
    {program : Program Request Answer α}
    (asks : program.AllAsk Asks Truthful) (initial : Inv state)
    (good : ∀ after ∈ program.states serve state, Good after) :
    program.run serve state ≠ none ∧
      ∀ after ∈ program.states serve state, Inv after := by
  induction program generalizing state with
  | done result =>
      refine ⟨Option.some_ne_none _, ?_⟩
      intro after member
      cases member
  | ask asked rest induction =>
      cases served : serve asked state with
      | none => exact absurd served (answered asked state initial)
      | some answer =>
          obtain ⟨answer, next⟩ := answer
          rw [states_ask served] at good ⊢
          rw [run_ask served]
          obtain ⟨here, later⟩ := List.forall_mem_cons.mp good
          obtain ⟨truthful, holds⟩ :=
            kept asked state answer next initial asks.1 served here
          obtain ⟨ends, keeps⟩ :=
            induction answer (asks.2 answer truthful) holds later
          exact ⟨ends, List.forall_mem_cons.mpr ⟨holds, keeps⟩⟩

end Truthful

end Program

end KernelDrivers.Library
