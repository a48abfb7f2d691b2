import Mathlib.Data.List.Induction

/-!
# Responses that answer a request of their own

A trace is read from left to right.  `Answered` says that each response in it
is preceded by a request that it fits, with no barrier event in between.  When
every response is itself a barrier, no two responses share a request.
-/

namespace KernelDrivers.Library

universe u

variable {Event : Type u}

/-- Which events ask, which answer, which separate, and when an answer fits
the request `request` that followed the trace `before`. -/
structure Discipline (Event : Type u) where
  request : Event → Prop
  response : Event → Prop
  barrier : Event → Prop
  fits : (before : List Event) → (request response : Event) → Prop
  response_barrier : ∀ event, response event → barrier event
  response_not_request : ∀ event, response event → ¬request event

variable {rules : Discipline Event} {trace before after : List Event}
variable {event asked : Event}

/-- `asked` follows `before` in the trace and nothing has closed it since. -/
def Pending (rules : Discipline Event) (trace before : List Event)
    (asked : Event) : Prop :=
  rules.request asked ∧
    ∃ since, trace = before ++ asked :: since ∧
      ∀ event ∈ since, ¬rules.barrier event

/-- Every response of the trace answers a request that was pending. -/
def Answered (rules : Discipline Event) (trace : List Event) : Prop :=
  ∀ earlier answer later, trace = earlier ++ answer :: later →
    rules.response answer →
    ∃ before asked, Pending rules earlier before asked ∧
      rules.fits before asked answer

theorem Pending.open (asks : rules.request asked) :
    Pending rules (trace ++ [asked]) trace asked :=
  ⟨asks, [], by simp, by simp⟩

theorem Pending.append (pending : Pending rules trace before asked)
    (harmless : ∀ event ∈ after, ¬rules.barrier event) :
    Pending rules (trace ++ after) before asked := by
  obtain ⟨asks, since, split, quiet⟩ := pending
  refine ⟨asks, since ++ after, by simp [split], ?_⟩
  intro event member
  rcases List.mem_append.mp member with old | new
  · exact quiet event old
  · exact harmless event new

theorem Answered.nil : Answered rules [] := by
  intro earlier answer later split
  simp at split

private theorem split_snoc {left right : List Event} {last : Event}
    (split : trace ++ [last] = left ++ event :: right) :
    (right = [] ∧ left = trace ∧ event = last) ∨
      ∃ rest, right = rest ++ [last] ∧ trace = left ++ event :: rest := by
  rcases List.eq_nil_or_concat right with empty | ⟨rest, final, shape⟩
  · subst empty
    have same := List.append_inj' split rfl
    simp only [List.cons.injEq, and_true] at same
    exact .inl ⟨rfl, same.1.symm, same.2.symm⟩
  · subst shape
    rw [List.concat_eq_append, ← List.cons_append, ← List.append_assoc]
      at split
    have same := List.append_inj' split rfl
    simp only [List.cons.injEq, and_true] at same
    exact .inr ⟨rest, by simp [same.2], same.1⟩

theorem Answered.snoc (answered : Answered rules trace)
    (fits : rules.response event → ∃ before asked,
      Pending rules trace before asked ∧ rules.fits before asked event) :
    Answered rules (trace ++ [event]) := by
  intro earlier answer later split responds
  rcases split_snoc split with ⟨-, rfl, rfl⟩ | ⟨rest, -, inside⟩
  · exact fits responds
  · exact answered _ _ _ inside responds

theorem Answered.append_silent (answered : Answered rules trace)
    (silent : ∀ event ∈ after, ¬rules.response event) :
    Answered rules (trace ++ after) := by
  induction after using List.reverseRecOn with
  | nil => simpa using answered
  | append_singleton initial last induction =>
      rw [← List.append_assoc]
      have quiet : ∀ event ∈ initial, ¬rules.response event :=
        fun event member => silent event (by simp [member])
      exact (induction quiet).snoc
        fun responds => (silent last (by simp) responds).elim

theorem Answered.prefix (answered : Answered rules (before ++ after)) :
    Answered rules before := by
  intro earlier answer later split responds
  refine answered earlier answer (later ++ after) ?_ responds
  rw [split, List.append_assoc, List.cons_append]

section Counting

variable [DecidablePred rules.request] [DecidablePred rules.response]

/-- No request is answered twice, so there are not more responses. -/
theorem Answered.count_le (answered : Answered rules trace) :
    trace.countP (rules.response ·) ≤ trace.countP (rules.request ·) := by
  induction size : trace.length using Nat.strongRecOn
    generalizing trace with
  | ind length induction =>
      rcases List.eq_nil_or_concat trace with rfl | ⟨initial, last, rfl⟩
      · simp
      · rw [List.concat_eq_append] at answered size ⊢
        rw [List.length_append, List.length_singleton] at size
        by_cases responds : rules.response last
        · obtain ⟨before, asked, ⟨asks, since, shape, quiet⟩, -⟩ :=
            answered initial last [] rfl responds
          -- The responses before `last` are among those before its request.
          have noResponse : since.countP (rules.response ·) = 0 := by
            rw [List.countP_eq_zero]
            intro event member
            have open_ := quiet event member
            simpa using fun closes => open_ (rules.response_barrier _ closes)
          have notAsked : ¬rules.response asked := fun answers =>
            rules.response_not_request _ answers asks
          subst shape
          have fewer := induction before.length
            (by simp only [List.length_append, List.length_cons] at size; omega)
            (by simpa using answered.prefix.prefix) rfl
          simp only [List.countP_append, List.countP_cons, List.countP_nil,
            noResponse, notAsked, asks, responds, decide_true, decide_false]
          simp only [Bool.false_eq_true, if_false, if_true]
          omega
        · have fewer := induction initial.length (by omega) answered.prefix rfl
          simp only [List.countP_append, List.countP_cons, List.countP_nil,
            responds, decide_false]
          simp only [Bool.false_eq_true, if_false]
          omega

end Counting

end KernelDrivers.Library
