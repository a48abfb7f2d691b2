import Mathlib.Logic.Function.Basic

/-!
# Ring buffers

Elements are queued at the head and taken from the tail.  The elements between
the two, in the order in which they were queued, are the pending ones.
-/

namespace KernelDrivers.Library

universe u

structure Ring (α : Type u) (size : Nat) where
  buf : Fin size → α
  head : Fin size
  tail : Fin size

namespace Ring

variable {α : Type u} {size : Nat}

def next (index : Fin size) : Fin size :=
  if inside : index.val + 1 < size then ⟨index.val + 1, inside⟩
  else ⟨0, Nat.lt_of_le_of_lt (Nat.zero_le _) index.isLt⟩

def count (ring : Ring α size) : Nat :=
  if ring.tail ≤ ring.head then ring.head - ring.tail
  else ring.head + size - ring.tail

/-- The elements of `count` places from an index on. -/
def walk (buf : Fin size → α) : Nat → Fin size → List α
  | 0, _ => []
  | count + 1, index => buf index :: walk buf count (next index)

def pending (ring : Ring α size) : List α :=
  walk ring.buf ring.count ring.tail

def pop (ring : Ring α size) : Ring α size :=
  { ring with tail := next ring.tail }

def push (ring : Ring α size) (element : α) : Ring α size :=
  { ring with
    buf := Function.update ring.buf ring.head element
    head := next ring.head }

theorem val_next (index : Fin size) :
    (next index).val =
      if index.val + 1 < size then index.val + 1 else 0 := by
  unfold next
  split <;> rfl

theorem count_lt (ring : Ring α size) : ring.count < size := by
  have head := ring.head.isLt
  unfold count
  split <;> omega

@[simp] theorem length_walk (buf : Fin size → α) (count : Nat)
    (index : Fin size) : (walk buf count index).length = count := by
  induction count generalizing index with
  | zero => rfl
  | succ count induction => simp [walk, induction]

@[simp] theorem length_pending (ring : Ring α size) :
    ring.pending.length = ring.count :=
  length_walk _ _ _

theorem count_eq_zero_iff (ring : Ring α size) :
    ring.count = 0 ↔ ring.head = ring.tail := by
  have tail := ring.tail.isLt
  rw [Fin.ext_iff]
  unfold count
  split <;> omega

theorem pending_eq_nil_iff (ring : Ring α size) :
    ring.pending = [] ↔ ring.head = ring.tail := by
  rw [← ring.count_eq_zero_iff, ← ring.length_pending, List.length_eq_zero_iff]

theorem count_pop {ring : Ring α size} (filled : ring.head ≠ ring.tail) :
    ring.count = ring.pop.count + 1 := by
  have head := ring.head.isLt
  have tail := ring.tail.isLt
  have different : ring.head.val ≠ ring.tail.val := by
    intro same
    exact filled (Fin.ext same)
  simp only [count, pop, Fin.le_def, val_next]
  split <;> split <;> split <;> omega

theorem pending_pop {ring : Ring α size} (filled : ring.head ≠ ring.tail) :
    ring.pending = ring.buf ring.tail :: ring.pop.pending := by
  rw [pending, count_pop filled]
  rfl

theorem count_push {ring : Ring α size} (element : α)
    (free : next ring.head ≠ ring.tail) :
    (ring.push element).count = ring.count + 1 := by
  have head := ring.head.isLt
  have tail := ring.tail.isLt
  have different : (next ring.head).val ≠ ring.tail.val := by
    intro same
    exact free (Fin.ext same)
  rw [val_next] at different
  simp only [count, push, Fin.le_def, val_next]
  split at different <;> split <;> split <;> split <;> omega

/-- Walking up to an index and storing there appends one element. -/
private theorem walk_update (buf : Fin size → α) (element : α)
    (head : Fin size) (count : Nat) (index : Fin size)
    (distance : index.val + count = head ∨ index.val + count = head + size)
    (short : count < size) :
    walk (Function.update buf head element) (count + 1) index =
      walk buf count index ++ [element] := by
  induction count generalizing index with
  | zero =>
      have here : index = head := by
        apply Fin.ext
        have bound := index.isLt
        omega
      simp [walk, here]
  | succ count induction =>
      have elsewhere : index ≠ head := by
        intro same
        rw [same] at distance
        omega
      have further : (next index).val + count = head ∨
          (next index).val + count = head + size := by
        have bound := head.isLt
        rw [val_next]
        split <;> omega
      rw [walk, Function.update_of_ne elsewhere,
        induction (next index) further (by omega)]
      rfl

theorem pending_push {ring : Ring α size} (element : α)
    (free : next ring.head ≠ ring.tail) :
    (ring.push element).pending = ring.pending ++ [element] := by
  have tail := ring.tail.isLt
  have distance : ring.tail.val + ring.count = ring.head ∨
      ring.tail.val + ring.count = ring.head + size := by
    unfold count
    split <;> omega
  rw [pending, count_push element free]
  exact walk_update ring.buf element ring.head ring.count ring.tail distance
    ring.count_lt

/-- Taking `number` elements one after the other. -/
def popMany : Nat → Ring α size → Ring α size
  | 0, ring => ring
  | number + 1, ring => popMany number ring.pop

theorem pending_popMany {number : Nat} {ring : Ring α size}
    (enough : number ≤ ring.count) :
    (popMany number ring).pending = ring.pending.drop number := by
  induction number generalizing ring with
  | zero => rfl
  | succ number induction =>
      have filled : ring.head ≠ ring.tail := by
        intro empty
        have none := ring.count_eq_zero_iff.mpr empty
        omega
      have rest := count_pop filled
      rw [popMany, induction (by omega), pending_pop filled,
        List.drop_succ_cons]

theorem popMany_tail (number : Nat) (ring : Ring α size) :
    (popMany number ring).tail.val = (ring.tail + number) % size := by
  induction number generalizing ring with
  | zero => exact (Nat.mod_eq_of_lt ring.tail.isLt).symm
  | succ number induction =>
      have bound := ring.tail.isLt
      rw [popMany, induction, pop, val_next]
      split
      · congr 1
        omega
      · have wrapped : ring.tail.val + (number + 1) = number + size := by
          omega
        rw [wrapped, Nat.add_mod_right, Nat.zero_add]

end Ring

end KernelDrivers.Library
