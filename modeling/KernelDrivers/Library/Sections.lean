import Mathlib.Data.List.TakeWhile

/-!
# A trace cut at its marks

Some events of a trace carry a mark.  A section is a mark with the events that
follow it, up to the next one.
-/

namespace KernelDrivers.Library

universe u v

variable {Event : Type u} {Mark : Type v} {mark : Event → Option Mark}
variable {trace before after : List Event} {event : Event}

/-- The events before the first mark. -/
def preamble (mark : Event → Option Mark) (trace : List Event) : List Event :=
  trace.takeWhile fun event => (mark event).isNone

/-- The marks, each with the events up to the next one. -/
def sections (mark : Event → Option Mark) :
    List Event → List (Mark × List Event)
  | [] => []
  | event :: rest =>
      match mark event with
      | some found => (found, preamble mark rest) :: sections mark rest
      | none => sections mark rest

private theorem mark_of_filterMap (unmarked : after.filterMap mark = []) :
    ∀ event ∈ after, mark event = none :=
  List.filterMap_eq_nil_iff.mp unmarked

theorem preamble_unmarked (unmarked : after.filterMap mark = []) :
    preamble mark after = after := by
  apply List.takeWhile_eq_self_iff.mpr
  intro event member
  rw [mark_of_filterMap unmarked event member]
  rfl

theorem preamble_append_marked {found : Mark} (marked : mark event = some found) :
    preamble mark (before ++ event :: after) = preamble mark before := by
  induction before with
  | nil => simp [preamble, marked]
  | cons head rest induction =>
      unfold preamble at induction ⊢
      rw [List.cons_append, List.takeWhile_cons, List.takeWhile_cons, induction]

/-- More events without a mark belong to the preamble of a trace that has no
mark yet. -/
theorem preamble_append (before : List Event)
    (unmarked : after.filterMap mark = []) :
    preamble mark (before ++ after) = preamble mark before ∨
      preamble mark (before ++ after) = preamble mark before ++ after := by
  induction before with
  | nil => exact .inr (preamble_unmarked unmarked)
  | cons head rest induction =>
      unfold preamble at induction ⊢
      rw [List.cons_append, List.takeWhile_cons, List.takeWhile_cons]
      split
      · cases induction with
        | inl same => exact .inl (by rw [same])
        | inr more => exact .inr (by rw [more, List.cons_append])
      · exact .inl rfl

theorem sections_unmarked (unmarked : after.filterMap mark = []) :
    sections mark after = [] := by
  induction after with
  | nil => rfl
  | cons head rest induction =>
      rw [List.filterMap_eq_nil_iff] at unmarked induction
      rw [sections, unmarked head List.mem_cons_self]
      exact induction fun event member =>
        unmarked event (List.mem_cons_of_mem _ member)

theorem sections_append_marked {found : Mark}
    (marked : mark event = some found) (unmarked : after.filterMap mark = []) :
    sections mark (before ++ event :: after) =
      sections mark before ++ [(found, after)] := by
  induction before with
  | nil =>
      simp [sections, marked, sections_unmarked unmarked,
        preamble_unmarked unmarked]
  | cons head rest induction =>
      rw [List.cons_append, sections, sections, induction]
      cases mark head with
      | none => rfl
      | some first => simp [preamble_append_marked marked]

/-- More events without a mark belong to the last section. -/
theorem sections_append (unmarked : after.filterMap mark = [])
    {found : Mark × List Event}
    (member : found ∈ sections mark (before ++ after)) :
    found ∈ sections mark before ∨
      ∃ old ∈ sections mark before, found = (old.1, old.2 ++ after) := by
  induction before with
  | nil =>
      rw [List.nil_append, sections_unmarked unmarked] at member
      cases member
  | cons head rest induction =>
      rw [List.cons_append, sections] at member
      rw [sections]
      cases marked : mark head with
      | none =>
          rw [marked] at member
          exact induction member
      | some first =>
          rw [marked] at member
          cases List.mem_cons.mp member with
          | inl head =>
              subst head
              cases preamble_append rest unmarked with
              | inl same =>
                  rw [same]
                  exact .inl List.mem_cons_self
              | inr more =>
                  rw [more]
                  exact .inr ⟨_, List.mem_cons_self, rfl⟩
          | inr later =>
              cases induction later with
              | inl old => exact .inl (List.mem_cons_of_mem _ old)
              | inr grown =>
                  obtain ⟨old, inside, shape⟩ := grown
                  exact .inr ⟨old, List.mem_cons_of_mem _ inside, shape⟩

/-- More events without a mark leave a reading of the sections alone that does
not look at them. -/
theorem filterMap_sections_append {Entry : Type*}
    {entry : Mark × List Event → Option Entry}
    (unmarked : after.filterMap mark = [])
    (neutral : ∀ found events, entry (found, events ++ after) =
      entry (found, events)) (before : List Event) :
    (sections mark (before ++ after)).filterMap entry =
      (sections mark before).filterMap entry := by
  induction before with
  | nil =>
      rw [List.nil_append, sections_unmarked unmarked]
      rfl
  | cons head rest induction =>
      rw [List.cons_append, sections, sections]
      cases mark head with
      | none => exact induction
      | some first =>
          have same : entry (first, preamble mark (rest ++ after)) =
              entry (first, preamble mark rest) := by
            cases preamble_append rest unmarked with
            | inl same => rw [same]
            | inr more => rw [more, neutral]
          rw [List.filterMap_cons, List.filterMap_cons, same, induction]

end KernelDrivers.Library
