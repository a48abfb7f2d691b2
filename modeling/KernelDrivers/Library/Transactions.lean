import KernelDrivers.Library.Memory

/-!
# Sequential transactions on byte arrays

What a history of whole reads and writes says when the arrays are accessed one
transaction after the other.
-/

namespace KernelDrivers.Library

universe u

variable {α : Type u}

/-- A completed transaction on a range of one of the arrays. -/
inductive Transaction (α : Type u) where
  | read (array : α) (start count : Nat) (answer : List UInt8)
  | write (array : α) (start count : Nat) (data : List UInt8)
  deriving DecidableEq, Repr

variable [DecidableEq α]

/-- The arrays after bytes of one of them have been overwritten. -/
def overwrite (arrays : α → Memory) (array : α) (start : Nat)
    (data : List UInt8) : α → Memory :=
  Function.update arrays array ((arrays array).storeList start data)

/-- Each read answers with what the transactions before it left. -/
inductive Serializes : (α → Memory) → List (Transaction α) → (α → Memory) →
    Prop where
  | nil {arrays : α → Memory} : Serializes arrays [] arrays
  | read {arrays final : α → Memory} {array : α} {start count : Nat}
      {answer : List UInt8} {rest : List (Transaction α)} :
      answer = (arrays array).bytes start count →
      Serializes arrays rest final →
      Serializes arrays (.read array start count answer :: rest) final
  | write {arrays final : α → Memory} {array : α} {start count : Nat}
      {data : List UInt8} {rest : List (Transaction α)} :
      data.length = count →
      Serializes (overwrite arrays array start data) rest final →
      Serializes arrays (.write array start count data :: rest) final

/-- The transaction leaves the range alone. -/
def Transaction.avoids (array : α) (start count : Nat) : Transaction α → Prop
  | .read .. => True
  | .write other first length _ =>
      other = array → first + length ≤ start ∨ start + count ≤ first

instance (array : α) (start count : Nat) :
    ∀ transaction : Transaction α,
      Decidable (transaction.avoids array start count)
  | .read .. => .isTrue trivial
  | .write .. => inferInstanceAs (Decidable (_ → _))

variable {initial middle final : α → Memory}
variable {transactions : List (Transaction α)}
variable {array : α} {start count : Nat} {data answer : List UInt8}

theorem bytes_overwrite :
    (overwrite initial array start data array).bytes start data.length =
      data := by
  rw [overwrite, Function.update_self]
  exact Memory.bytes_storeList data

theorem bytes_overwrite_of_avoids {other : α} {first length : Nat}
    (avoids : (Transaction.write other first length data).avoids array start
      count)
    (whole : data.length = length) :
    (overwrite initial other first data array).bytes start count =
      (initial array).bytes start count := by
  by_cases same : other = array
  · subst same
    have apart := avoids rfl
    rw [overwrite, Function.update_self]
    apply Memory.bytes_congr
    intro offset inside
    apply Memory.storeList_outside
    omega
  · rw [overwrite, Function.update_of_ne (Ne.symm same)]

namespace Serializes

variable {first second : List (Transaction α)}

theorem append (before : Serializes initial first middle)
    (after : Serializes middle second final) :
    Serializes initial (first ++ second) final := by
  induction before with
  | nil => exact after
  | read same _ induction => exact .read same (induction after)
  | write whole _ induction => exact .write whole (induction after)

theorem of_append (history : Serializes initial (first ++ second) final) :
    ∃ middle, Serializes initial first middle ∧
      Serializes middle second final := by
  induction first generalizing initial with
  | nil => exact ⟨initial, .nil, history⟩
  | cons transaction first induction =>
      cases history with
      | read same rest =>
          obtain ⟨middle, before, after⟩ := induction rest
          exact ⟨middle, .read same before, after⟩
      | write whole rest =>
          obtain ⟨middle, before, after⟩ := induction rest
          exact ⟨middle, .write whole before, after⟩

theorem kept (history : Serializes initial transactions final)
    (avoids : ∀ transaction ∈ transactions,
      transaction.avoids array start count) :
    (final array).bytes start count = (initial array).bytes start count := by
  induction history with
  | nil => rfl
  | read _ _ induction =>
      exact induction fun transaction member =>
        avoids transaction (List.mem_cons_of_mem _ member)
  | write whole _ induction =>
      have later := induction fun transaction member =>
        avoids transaction (List.mem_cons_of_mem _ member)
      have here := avoids _ List.mem_cons_self
      rw [later, bytes_overwrite_of_avoids here whole]

/-- A read of a range that was written, and not since, answers with what was
written. -/
theorem reads_back {between rest : List (Transaction α)}
    (history : Serializes initial (first ++ .write array start count data ::
      (between ++ .read array start count answer :: rest)) final)
    (avoids : ∀ transaction ∈ between, transaction.avoids array start count) :
    answer = data := by
  obtain ⟨before, -, history⟩ := history.of_append
  cases history with
  | write whole history =>
      obtain ⟨middle, quiet, history⟩ := history.of_append
      cases history with
      | read same _ =>
          rw [same, quiet.kept avoids, ← whole]
          exact bytes_overwrite

end Serializes

end KernelDrivers.Library
