import Mathlib.Data.List.Basic

/-!
# A loop with a counter of fixed width

`for (i = 0; i < bound; i++)`, where every round adds to what the loop has
done.
-/

namespace KernelDrivers.Library

universe u

variable {Event : Type u} {width : Nat}

theorem toNat_succ_of_lt {counter bound : BitVec width}
    (below : counter < bound) :
    (counter + 1).toNat = counter.toNat + 1 := by
  have bounded := bound.isLt
  rw [BitVec.lt_def] at below
  have one : (1 : BitVec width).toNat = 1 % 2 ^ width := BitVec.toNat_ofNat 1 _
  rw [BitVec.toNat_add, one, Nat.add_mod_mod]
  apply Nat.mod_eq_of_lt
  omega

/-- The rounds from `counter` on. -/
def forLoop (bound : BitVec width) (body : BitVec width → List Event)
    (counter : BitVec width) : List Event :=
  if counter < bound then
    body counter ++ forLoop bound body (counter + 1)
  else []
termination_by bound.toNat - counter.toNat
decreasing_by
  rename_i below
  have next := toNat_succ_of_lt below
  rw [BitVec.lt_def] at below
  omega

variable {bound : BitVec width} {body : BitVec width → List Event}

/-- The rounds are those of the numbers up to the bound, in order. -/
theorem forLoop_eq (counter : BitVec width) :
    forLoop bound body counter =
      (List.range' counter.toNat (bound.toNat - counter.toNat)).flatMap
        fun index => body (BitVec.ofNat width index) := by
  fun_induction forLoop bound body counter with
  | case1 counter below induction =>
      have next := toNat_succ_of_lt below
      rw [BitVec.lt_def] at below
      have rounds : bound.toNat - counter.toNat =
          bound.toNat - (counter.toNat + 1) + 1 := by
        omega
      rw [induction, next, rounds, List.range'_succ, List.flatMap_cons,
        BitVec.ofNat_toNat, BitVec.setWidth_eq]
  | case2 counter above =>
      rw [BitVec.lt_def] at above
      have none : bound.toNat - counter.toNat = 0 := by
        omega
      rw [none]
      rfl

theorem mem_forLoop {event : Event} :
    event ∈ forLoop bound body 0 ↔
      ∃ counter, counter < bound ∧ event ∈ body counter := by
  have zero : (0 : BitVec width).toNat = 0 := BitVec.toNat_zero
  rw [forLoop_eq, zero, Nat.sub_zero, List.mem_flatMap]
  constructor
  · rintro ⟨index, inside, member⟩
    have below : index < bound.toNat := by
      simpa using (List.mem_range'_1.mp inside).2
    have small : index < 2 ^ width :=
      Nat.lt_trans below bound.isLt
    refine ⟨BitVec.ofNat width index, ?_, member⟩
    rw [BitVec.lt_def, BitVec.toNat_ofNat, Nat.mod_eq_of_lt small]
    exact below
  · rintro ⟨counter, below, member⟩
    refine ⟨counter.toNat, ?_, ?_⟩
    · rw [BitVec.lt_def] at below
      apply List.mem_range'_1.mpr
      omega
    · rw [BitVec.ofNat_toNat, BitVec.setWidth_eq]
      exact member

end KernelDrivers.Library
