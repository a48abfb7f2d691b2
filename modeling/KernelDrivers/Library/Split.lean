import Mathlib.Data.List.Basic

/-!
# Splitting a list at an element

The parts before and behind the first or the last occurrence of an element.
-/

namespace KernelDrivers.Library

universe u

variable {α : Type u} [DecidableEq α]

def splitFirst (mark : α) : List α → Option (List α × List α)
  | [] => none
  | head :: rest =>
      if head = mark then some ([], rest)
      else (splitFirst mark rest).map fun parts => (head :: parts.1, parts.2)

def splitLast (mark : α) : List α → Option (List α × List α)
  | [] => none
  | head :: rest =>
      match splitLast mark rest with
      | some parts => some (head :: parts.1, parts.2)
      | none => if head = mark then some ([], rest) else none

variable {mark : α} {whole before behind : List α}

theorem splitFirst_eq_none_iff : splitFirst mark whole = none ↔
    mark ∉ whole := by
  induction whole with
  | nil => simp [splitFirst]
  | cons head rest induction =>
      rw [splitFirst]
      by_cases here : head = mark
      · simp [here]
      · rw [if_neg here, Option.map_eq_none_iff, induction, List.mem_cons,
          not_or]
        exact ⟨fun absent => ⟨Ne.symm here, absent⟩, fun absent => absent.2⟩

theorem splitFirst_append (absent : mark ∉ before) :
    splitFirst mark (before ++ mark :: behind) = some (before, behind) := by
  induction before with
  | nil => simp [splitFirst]
  | cons head rest induction =>
      rw [List.mem_cons, not_or] at absent
      obtain ⟨different, later⟩ := absent
      rw [List.cons_append, splitFirst, if_neg (Ne.symm different),
        induction later]
      rfl

theorem splitFirst_eq_some_iff :
    splitFirst mark whole = some (before, behind) ↔
      whole = before ++ mark :: behind ∧ mark ∉ before := by
  constructor
  · intro found
    induction whole generalizing before with
    | nil => cases found
    | cons head rest induction =>
        rw [splitFirst] at found
        by_cases here : head = mark
        · rw [if_pos here] at found
          cases found
          exact ⟨by rw [here]; rfl, List.not_mem_nil⟩
        · rw [if_neg here] at found
          obtain ⟨⟨before', behind'⟩, later, same⟩ :=
            Option.map_eq_some_iff.mp found
          cases same
          obtain ⟨shape, absent⟩ := induction later
          refine ⟨by rw [shape]; rfl, ?_⟩
          rw [List.mem_cons, not_or]
          exact ⟨Ne.symm here, absent⟩
  · rintro ⟨rfl, absent⟩
    exact splitFirst_append absent

theorem splitLast_eq_none_iff : splitLast mark whole = none ↔
    mark ∉ whole := by
  induction whole with
  | nil => simp [splitLast]
  | cons head rest induction =>
      rw [splitLast, List.mem_cons, not_or]
      cases later : splitLast mark rest with
      | some parts =>
          rw [later] at induction
          simp only [reduceCtorEq, false_iff, Decidable.not_not] at induction
          simp [induction]
      | none =>
          have absent := induction.mp later
          by_cases here : head = mark
          · simp [here]
          · simp [here, Ne.symm here, absent]

theorem splitLast_append (absent : mark ∉ behind) :
    splitLast mark (before ++ mark :: behind) = some (before, behind) := by
  induction before with
  | nil =>
      rw [List.nil_append, splitLast, splitLast_eq_none_iff.mpr absent]
      exact if_pos rfl
  | cons head rest induction =>
      rw [List.cons_append, splitLast, induction]

theorem splitLast_eq_some_iff :
    splitLast mark whole = some (before, behind) ↔
      whole = before ++ mark :: behind ∧ mark ∉ behind := by
  constructor
  · intro found
    induction whole generalizing before with
    | nil => cases found
    | cons head rest induction =>
        rw [splitLast] at found
        cases later : splitLast mark rest with
        | some parts =>
            obtain ⟨before', behind'⟩ := parts
            rw [later] at found
            cases found
            obtain ⟨shape, absent⟩ := induction later
            exact ⟨by rw [shape]; rfl, absent⟩
        | none =>
            rw [later] at found
            dsimp only at found
            by_cases here : head = mark
            · rw [if_pos here] at found
              cases found
              exact ⟨by rw [here]; rfl, splitLast_eq_none_iff.mp later⟩
            · rw [if_neg here] at found
              cases found
  · rintro ⟨rfl, absent⟩
    exact splitLast_append absent

theorem splitFirst_eq_splitLast_iff
    (found : splitLast mark whole = some (before, behind)) :
    splitFirst mark whole = some (before, behind) ↔ mark ∉ before := by
  obtain ⟨rfl, -⟩ := splitLast_eq_some_iff.mp found
  rw [splitFirst_eq_some_iff]
  exact ⟨fun shape => shape.2, fun absent => ⟨rfl, absent⟩⟩

end KernelDrivers.Library
