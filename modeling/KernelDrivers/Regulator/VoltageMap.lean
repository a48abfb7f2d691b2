import Mathlib.Order.Basic
import Mathlib.Data.Int.Order.Basic

/-!
# Voltage maps

Both PMIC drivers keep ascending tables of millivolts, search them for the
first entry that is large enough, and read them back in microvolts.
-/

namespace KernelDrivers.Regulator

/-- The loop over `val`: the first of the entries up to index `num` that is at
least `minVol`. -/
def firstAtLeast (volMap : List Int) (num : Nat) (minVol : Int) : Nat :=
  (volMap.take (num + 1)).findIdx fun vol => decide (vol ≥ minVol)

/-- `1000 * vol_map[reg]`; `none` is an index outside the table. -/
def microvolts (volMap : List Int) (reg : Nat) : Option Int :=
  volMap[reg]?.map fun vol => 1000 * vol

variable {volMap : List Int} {num : Nat} {minVol minUV maxUV : Int}

private theorem firstAtLeast_le (length : volMap.length = num + 1)
    (enough : ∃ vol ∈ volMap, minVol ≤ vol) :
    firstAtLeast volMap num minVol ≤ num := by
  obtain ⟨vol, member, large⟩ := enough
  have whole : volMap.take (num + 1) = volMap := by
    rw [← length, List.take_length]
  have found := List.findIdx_lt_length_of_exists
    (p := fun vol => decide (vol ≥ minVol)) ⟨vol, member, by simpa using large⟩
  rw [firstAtLeast, whole]
  omega

/-- In an ascending table the entry found is the least that is large enough. -/
theorem firstAtLeast_spec (length : volMap.length = num + 1)
    (ascending : volMap.Pairwise (· < ·))
    (enough : ∃ vol ∈ volMap, minVol ≤ vol) :
    firstAtLeast volMap num minVol ≤ num ∧
      ∃ vol ∈ volMap, volMap[firstAtLeast volMap num minVol]? = some vol ∧
        minVol ≤ vol ∧ ∀ other ∈ volMap, minVol ≤ other → vol ≤ other := by
  have atMost := firstAtLeast_le length enough
  refine ⟨atMost, ?_⟩
  have whole : volMap.take (num + 1) = volMap := by
    rw [← length, List.take_length]
  unfold firstAtLeast at atMost ⊢
  rw [whole] at atMost ⊢
  have found : volMap.findIdx (fun vol => decide (vol ≥ minVol)) <
      volMap.length := by omega
  refine ⟨_, List.getElem_mem found, List.getElem?_eq_getElem found, ?_, ?_⟩
  · have passed := List.findIdx_getElem (w := found)
    simpa using passed
  · intro other member large
    obtain ⟨index, inside, rfl⟩ := List.mem_iff_getElem.mp member
    rcases Nat.lt_trichotomy index
      (volMap.findIdx fun vol => decide (vol ≥ minVol)) with
      before | same | after
    · have failed := List.not_of_lt_findIdx before
      have small : volMap[index] < minVol := by simpa using failed
      omega
    · simp [same]
    · exact Int.le_of_lt (List.pairwise_iff_getElem.mp ascending _ _ _ _ after)

/-- Some voltage of the table lies in the window, and the minimum does not lie
less than a millivolt above one. -/
def Requestable (volMap : List Int) (minUV maxUV : Int) : Prop :=
  (∃ vol ∈ volMap, minUV ≤ 1000 * vol ∧ 1000 * vol ≤ maxUV) ∧
    ¬(minUV.tdiv 1000 ∈ volMap ∧ minUV % 1000 ≠ 0)

/-- The entry found lies in the window exactly for requestable windows. -/
theorem firstAtLeast_window (maxUV : Int) (length : volMap.length = num + 1)
    (ascending : volMap.Pairwise (· < ·)) (nonneg : 0 ≤ minUV)
    (enough : ∃ vol ∈ volMap, minUV.tdiv 1000 ≤ vol) :
    ∃ vol, volMap[firstAtLeast volMap num (minUV.tdiv 1000)]? = some vol ∧
      (minUV ≤ 1000 * vol ∧ 1000 * vol ≤ maxUV ↔
        Requestable volMap minUV maxUV) := by
  obtain ⟨-, vol, member, read, large, least⟩ :=
    firstAtLeast_spec length ascending enough
  have quotient : minUV.tdiv 1000 = minUV / 1000 :=
    Int.tdiv_eq_ediv_of_nonneg nonneg
  refine ⟨vol, read, ?_⟩
  constructor
  · intro window
    refine ⟨⟨vol, member, window⟩, ?_⟩
    rintro ⟨inTable, fraction⟩
    have exact := least _ inTable (Int.le_refl _)
    omega
  · rintro ⟨⟨other, inTable, window⟩, whole⟩
    have closest := least other inTable (by omega)
    have aligned : vol = minUV.tdiv 1000 → minUV % 1000 = 0 := by
      intro same
      by_contra fraction
      exact whole ⟨same ▸ member, fraction⟩
    constructor
    · by_cases same : vol = minUV.tdiv 1000
      · have zero := aligned same
        omega
      · omega
    · omega

end KernelDrivers.Regulator
