import Mathlib.Order.Basic

/-!
# Three-way binary search

The search of a half-open interval with a test that says on which side of an
index to go on.  Some facts about its result need no order at all.
-/

namespace KernelDrivers.Library.BinarySearch

/-- Where a search ends. -/
inductive Found where
  | hit (index : Nat)
  | gap (index : Nat)
  deriving DecidableEq, Repr

/-- The loop.  The test is positive where the key lies behind the index, and
`none` is a loop that has not ended. -/
def search (test : Nat → Int) : Nat → Nat → Nat → Option Found
  | 0, _, _ => none
  | fuel + 1, start, stop =>
      if start < stop then
        let mid := start + (stop - start) / 2
        if test mid < 0 then search test fuel start mid
        else if test mid > 0 then search test fuel (mid + 1) stop
        else some (.hit mid)
      else some (.gap start)

/-- The indices at which the loop tests. -/
def probes (test : Nat → Int) : Nat → Nat → Nat → List Nat
  | 0, _, _ => []
  | fuel + 1, start, stop =>
      if start < stop then
        let mid := start + (stop - start) / 2
        if test mid < 0 then mid :: probes test fuel start mid
        else if test mid > 0 then mid :: probes test fuel (mid + 1) stop
        else [mid]
      else []

variable {test : Nat → Int} {fuel start stop : Nat} {found : Found}

theorem probes_inside :
    ∀ index ∈ probes test fuel start stop, start ≤ index ∧ index < stop := by
  fun_induction probes test fuel start stop with
  | case1 start stop => simp
  | case2 fuel start stop some mid before induction =>
      have inside : start ≤ mid ∧ mid < stop := by
        omega
      intro index member
      cases List.mem_cons.mp member with
      | inl here => exact here ▸ inside
      | inr later =>
          have bounds := induction index later
          exact ⟨bounds.1, Nat.lt_trans bounds.2 inside.2⟩
  | case3 fuel start stop some mid notBefore behind induction =>
      have inside : start ≤ mid ∧ mid < stop := by
        omega
      intro index member
      cases List.mem_cons.mp member with
      | inl here => exact here ▸ inside
      | inr later =>
          have bounds := induction index later
          exact ⟨Nat.le_trans inside.1 (Nat.le_of_succ_le bounds.1), bounds.2⟩
  | case4 fuel start stop some mid notBefore notBehind =>
      intro index member
      rw [List.mem_singleton.mp member]
      omega
  | case5 => simp

theorem search_ends (enough : stop - start < fuel) :
    ∃ found, search test fuel start stop = some found := by
  fun_induction search test fuel start stop with
  | case1 => omega
  | case2 fuel start stop some mid before induction =>
      apply induction
      omega
  | case3 fuel start stop some mid notBefore behind induction =>
      apply induction
      omega
  | case4 fuel start stop some mid => exact ⟨.hit mid, rfl⟩
  | case5 fuel start stop empty => exact ⟨.gap start, rfl⟩

/-- What is known of a result, whatever the test: a hit is one, and the tests
next to a gap, unless it lies at an end, point at it. -/
structure Bracketed (test : Nat → Int) (start stop gap : Nat) : Prop where
  inside : start ≤ gap ∧ gap ≤ stop
  before : start < gap → 0 < test (gap - 1)
  behind : gap < stop → test gap < 0

/-- A result of the search of an interval, for any test. -/
def Sound (test : Nat → Int) (start stop : Nat) : Found → Prop
  | .hit index => (start ≤ index ∧ index < stop) ∧ test index = 0
  | .gap index => Bracketed test start stop index

theorem search_sound (ordered : start ≤ stop)
    (ended : search test fuel start stop = some found) :
    Sound test start stop found := by
  fun_induction search test fuel start stop with
  | case1 => cases ended
  | case2 fuel start stop some mid before induction =>
      have sound := induction (by omega) ended
      cases found with
      | hit index =>
          obtain ⟨inside, exact⟩ := sound
          exact ⟨by omega, exact⟩
      | gap index =>
          obtain ⟨inside, earlier, later⟩ := sound
          refine ⟨by omega, earlier, ?_⟩
          intro below
          by_cases last : index = mid
          · rw [last]
            exact before
          · exact later (by omega)
  | case3 fuel start stop some mid notBefore behind induction =>
      have sound := induction (by omega) ended
      cases found with
      | hit index =>
          obtain ⟨inside, exact⟩ := sound
          exact ⟨by omega, exact⟩
      | gap index =>
          obtain ⟨inside, earlier, later⟩ := sound
          refine ⟨by omega, ?_, later⟩
          intro above
          by_cases least : index = mid + 1
          · rw [least, Nat.add_sub_cancel]
            exact behind
          · exact earlier (by omega)
  | case4 fuel start stop some mid notBefore notBehind =>
      cases ended
      exact ⟨by omega, by omega⟩
  | case5 fuel start stop empty =>
      cases ended
      refine ⟨by omega, ?_, ?_⟩
      all_goals
        intro
        omega

/-- The test of an ordered table: it does not grow with the index. -/
def Falling (test : Nat → Int) (start stop : Nat) : Prop :=
  ∀ low high, start ≤ low → low ≤ high → high < stop →
    (test low ≤ 0 → test high ≤ 0) ∧ (test low < 0 → test high < 0)

/-- In an ordered table a gap has the smaller entries before it and the larger
ones behind it. -/
theorem Bracketed.split {gap : Nat} (falling : Falling test start stop)
    (bracketed : Bracketed test start stop gap) :
    (∀ index, start ≤ index → index < gap → 0 < test index) ∧
      ∀ index, gap ≤ index → index < stop → test index < 0 := by
  obtain ⟨inside, before, behind⟩ := bracketed
  constructor
  · intro index above below
    have last := before (by omega)
    apply Int.not_le.mp
    intro notBehind
    have contrary := (falling index (gap - 1) above (by omega)
      (by omega)).1 notBehind
    omega
  · intro index above below
    have first := behind (by omega)
    exact (falling gap index inside.1 above below).2 first

end KernelDrivers.Library.BinarySearch
