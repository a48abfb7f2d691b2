import Mathlib.Data.List.Basic
import Mathlib.Algebra.GroupWithZero.Nat

/-!
# Reading a sequence through an iterator with positions

A read is a series of sessions.  A session starts at a saved position and is
cut off after some elements; the position saved is that of the first element
that was not delivered.
-/

namespace KernelDrivers.Library

/-- `start` and `next` of an iterator; `next` also advances the position. -/
structure SeqOperations (α : Type) where
  start : Nat → Option α
  next : α → Nat → Option α × Nat

namespace SeqOperations

variable {α : Type} (ops : SeqOperations α)

/-- What is delivered, at most `count` elements, and the position after it. -/
def deliver : Nat → Option α → Nat → List α × Nat
  | 0, _, pos => ([], pos)
  | _ + 1, none, pos => ([], pos)
  | count + 1, some element, pos =>
      let following := ops.next element pos
      let rest := deliver count following.1 following.2
      (element :: rest.1, rest.2)

/-- One session, cut off after `count` elements. -/
def session (pos count : Nat) : List α × Nat :=
  ops.deliver count (ops.start pos) pos

/-- The sessions of a read from `pos` on, by where they are cut off. -/
def sessions : Nat → List Nat → List α × Nat
  | pos, [] => ([], pos)
  | pos, count :: cuts =>
      let first := ops.session pos count
      let rest := sessions first.2 cuts
      (first.1 ++ rest.1, rest.2)

/-- The iterator and a list agree on what each position up to the end means. -/
structure Enumerates (list : List α) : Prop where
  start : ∀ pos ≤ list.length, ops.start pos = list[pos]?
  next : ∀ pos element, list[pos]? = some element →
    ops.next element pos = (list[pos + 1]?, pos + 1)

variable {ops} {list : List α}

theorem Enumerates.deliver (enumerates : ops.Enumerates list) (count : Nat)
    {pos : Nat} (inside : pos ≤ list.length) :
    ops.deliver count list[pos]? pos =
      ((list.drop pos).take count, min (pos + count) list.length) := by
  induction count generalizing pos with
  | zero => simp [SeqOperations.deliver, inside]
  | succ count induction =>
      cases element : list[pos]? with
      | none =>
          have ended : pos = list.length :=
            Nat.le_antisymm inside (List.getElem?_eq_none_iff.mp element)
          simp [SeqOperations.deliver, ended]
      | some value =>
          obtain ⟨below, read⟩ := List.getElem?_eq_some_iff.mp element
          rw [SeqOperations.deliver, enumerates.next pos value element,
            induction below, List.drop_eq_getElem_cons below, read]
          have moved : pos + 1 + count = pos + (count + 1) := by omega
          rw [List.take_succ_cons, moved]

theorem Enumerates.session (enumerates : ops.Enumerates list) {pos : Nat}
    (inside : pos ≤ list.length) (count : Nat) :
    ops.session pos count =
      ((list.drop pos).take count, min (pos + count) list.length) := by
  rw [SeqOperations.session, enumerates.start pos inside,
    enumerates.deliver count inside]

/-- Whatever the cuts are, the sessions go through the list once. -/
theorem Enumerates.sessions (enumerates : ops.Enumerates list)
    (cuts : List Nat) {pos : Nat} (inside : pos ≤ list.length) :
    ops.sessions pos cuts =
      ((list.drop pos).take cuts.sum, min (pos + cuts.sum) list.length) := by
  induction cuts generalizing pos with
  | nil => simp [SeqOperations.sessions, inside]
  | cons count cuts induction =>
      have first := enumerates.session inside count
      have saved : min (pos + count) list.length ≤ list.length :=
        Nat.min_le_right _ _
      rw [SeqOperations.sessions, first, induction saved]
      refine Prod.ext ?_ ?_
      · rw [List.sum_cons, List.take_add, List.drop_drop]
        rcases Nat.le_total (pos + count) list.length with below | beyond
        · rw [Nat.min_eq_left below]
        · rw [Nat.min_eq_right beyond, List.drop_eq_nil_of_le (Nat.le_refl _),
            List.drop_eq_nil_of_le beyond]
      · simp only [List.sum_cons]
        omega

end SeqOperations

end KernelDrivers.Library
