import Mathlib.Data.List.Basic
import Mathlib.Algebra.GroupWithZero.Nat

/-!
# A full read from interrupted and short reads

A reader that wants a number of bytes calls `read` until it has them.  What the
calls do is given beforehand, one outcome for each of them.
-/

namespace KernelDrivers.Library

/-- What one call does.  It delivers the bytes that were asked for at most, and
none at the end of the file. -/
inductive ReadOutcome where
  | delivered (bytes : List UInt8)
  | interrupted
  | failed
  deriving DecidableEq

inductive Ending where
  | full
  | endOfFile
  | failed
  deriving DecidableEq

/-- The bytes delivered, what came after them, and the outcomes that are
left. -/
structure FullRead where
  bytes : List UInt8
  ending : Ending
  rest : List ReadOutcome
  deriving DecidableEq

def FullRead.after (front : List UInt8) (read : FullRead) : FullRead :=
  { read with bytes := front ++ read.bytes }

/-- Ask for what is missing, again after an interruption.  There is no result
where the outcomes do not suffice. -/
def fullRead : Nat → List ReadOutcome → Option FullRead
  | 0, outcomes => some { bytes := [], ending := .full, rest := outcomes }
  | _ + 1, [] => none
  | missing + 1, outcome :: rest =>
      match outcome with
      | .interrupted => fullRead (missing + 1) rest
      | .failed => some { bytes := [], ending := .failed, rest }
      | .delivered [] => some { bytes := [], ending := .endOfFile, rest }
      | .delivered (byte :: bytes) =>
          let got := byte :: bytes.take missing
          (fullRead (missing + 1 - got.length) rest).map (.after got)

variable {missing : Nat} {outcomes : List ReadOutcome} {read : FullRead}

theorem fullRead_length_le (done : fullRead missing outcomes = some read) :
    read.bytes.length ≤ missing := by
  induction outcomes generalizing missing read with
  | nil =>
      cases missing with
      | zero =>
          cases done
          exact Nat.le_refl 0
      | succ missing => cases done
  | cons outcome outcomes induction =>
      cases missing with
      | zero =>
          cases done
          exact Nat.le_refl 0
      | succ missing =>
          cases outcome with
          | interrupted => exact induction done
          | failed =>
              cases done
              exact Nat.zero_le _
          | delivered bytes =>
              cases bytes with
              | nil =>
                  cases done
                  exact Nat.zero_le _
              | cons byte bytes =>
                  obtain ⟨later, rest, same⟩ := Option.map_eq_some_iff.mp done
                  cases same
                  have bound := induction rest
                  have front : (byte :: bytes.take missing).length ≤
                      missing + 1 := by
                    rw [List.length_cons, List.length_take]
                    omega
                  rw [FullRead.after, List.length_append]
                  omega

def ReadOutcome.bytes : ReadOutcome → List UInt8
  | .delivered bytes => bytes
  | .interrupted => []
  | .failed => []

@[simp] theorem ReadOutcome.bytes_delivered (bytes : List UInt8) :
    (ReadOutcome.delivered bytes).bytes = bytes :=
  rfl

@[simp] theorem ReadOutcome.bytes_interrupted :
    ReadOutcome.interrupted.bytes = [] :=
  rfl

@[simp] theorem ReadOutcome.bytes_failed : ReadOutcome.failed.bytes = [] :=
  rfl

/-- All that the calls deliver, one after the other. -/
def received (outcomes : List ReadOutcome) : List UInt8 :=
  outcomes.flatMap ReadOutcome.bytes

/-- The calls have not ended the read. -/
structure Unfinished (wanted : Nat) (outcomes : List ReadOutcome) : Prop where
  short : (received outcomes).length < wanted
  undecided : ∀ outcome ∈ outcomes,
    outcome ≠ .failed ∧ outcome ≠ .delivered []

/-- The last of the calls ends the read. -/
inductive Ends (wanted : Nat) : List ReadOutcome → Ending → Prop where
  | nothing : wanted = 0 → Ends wanted [] .full
  | full {front : List ReadOutcome} {bytes : List UInt8} :
      Unfinished wanted front →
      wanted ≤ (received front).length + bytes.length →
      Ends wanted (front ++ [.delivered bytes]) .full
  | endOfFile {front : List ReadOutcome} :
      Unfinished wanted front →
      Ends wanted (front ++ [.delivered []]) .endOfFile
  | failed {front : List ReadOutcome} :
      Unfinished wanted front →
      Ends wanted (front ++ [.failed]) .failed

variable {wanted : Nat} {front used rest : List ReadOutcome} {ending : Ending}

@[simp] theorem received_nil : received [] = [] :=
  rfl

@[simp] theorem received_cons (outcome : ReadOutcome) :
    received (outcome :: outcomes) = outcome.bytes ++ received outcomes :=
  rfl

@[simp] theorem received_append :
    received (front ++ rest) = received front ++ received rest :=
  List.flatMap_append

@[simp] theorem FullRead.after_nil : read.after [] = read :=
  rfl

theorem FullRead.after_after (first second : List UInt8) :
    (read.after second).after first = read.after (first ++ second) := by
  simp [FullRead.after]

theorem Unfinished.exists_missing (unfinished : Unfinished wanted front) :
    ∃ missing, wanted - (received front).length = missing + 1 :=
  Nat.exists_eq_succ_of_ne_zero (Nat.sub_ne_zero_of_lt unfinished.short)

theorem Unfinished.take_eq (unfinished : Unfinished wanted front) :
    (received front).take wanted = received front :=
  List.take_of_length_le (Nat.le_of_lt unfinished.short)

theorem Unfinished.snoc (unfinished : Unfinished wanted front)
    {outcome : ReadOutcome}
    (undecided : outcome ≠ .failed ∧ outcome ≠ .delivered [])
    (short : (received front).length + outcome.bytes.length < wanted) :
    Unfinished wanted (front ++ [outcome]) := by
  constructor
  · simpa using short
  · intro other member
    rcases List.mem_append.mp member with before | last
    · exact unfinished.undecided other before
    · rw [List.mem_singleton.mp last]
      exact undecided

theorem Ends.full_le (ends : Ends wanted used .full) :
    wanted ≤ (received used).length := by
  cases ends with
  | nothing none =>
      rw [none]
      exact Nat.zero_le _
  | full unfinished enough => simpa using enough

theorem Ends.short (ends : Ends wanted used ending) (less : ending ≠ .full) :
    (received used).length < wanted := by
  cases ends with
  | nothing none => exact absurd rfl less
  | full unfinished enough => exact absurd rfl less
  | endOfFile unfinished => simpa using unfinished.short
  | failed unfinished => simpa using unfinished.short

/-- Either the calls leave the read open, or some of them end it. -/
theorem unfinished_or_ends (wanted : Nat) (outcomes : List ReadOutcome) :
    Unfinished wanted outcomes ∨ ∃ used rest ending,
      outcomes = used ++ rest ∧ Ends wanted used ending := by
  have extend : ∀ front, Unfinished wanted front →
      Unfinished wanted (front ++ outcomes) ∨ ∃ used rest ending,
        front ++ outcomes = used ++ rest ∧ Ends wanted used ending := by
    induction outcomes with
    | nil =>
        intro front unfinished
        left
        simpa using unfinished
    | cons outcome outcomes induction =>
        intro front unfinished
        have later (undecided : outcome ≠ .failed ∧ outcome ≠ .delivered [])
            (short : (received front).length + outcome.bytes.length <
              wanted) := induction _ (unfinished.snoc undecided short)
        simp only [List.append_assoc, List.singleton_append] at later
        cases outcome with
        | interrupted => exact later (by simp) unfinished.short
        | failed =>
            right
            exact ⟨front ++ [.failed], outcomes, .failed, by simp,
              .failed unfinished⟩
        | delivered bytes =>
            by_cases none : bytes = []
            · subst none
              right
              exact ⟨front ++ [.delivered []], outcomes, .endOfFile, by simp,
                .endOfFile unfinished⟩
            by_cases short : (received front).length + bytes.length < wanted
            · exact later (by simpa using none) short
            · right
              exact ⟨front ++ [.delivered bytes], outcomes, .full, by simp,
                .full unfinished (Nat.le_of_not_lt short)⟩
  cases wanted with
  | zero => exact .inr ⟨[], outcomes, .full, rfl, .nothing rfl⟩
  | succ missing =>
      have unfinished : Unfinished (missing + 1) [] :=
        ⟨Nat.succ_pos missing, fun _ member => nomatch member⟩
      exact extend [] unfinished

/-- Calls that leave the read open only make what is missing less. -/
theorem fullRead_unfinished (unfinished : Unfinished wanted front)
    (rest : List ReadOutcome) :
    fullRead wanted (front ++ rest) =
      (fullRead (wanted - (received front).length) rest).map
        (.after (received front)) := by
  induction front generalizing wanted with
  | nil =>
      have same : FullRead.after [] = id := rfl
      simp [same]
  | cons outcome front induction =>
      have short := unfinished.short
      have undecided := unfinished.undecided outcome List.mem_cons_self
      have later : ∀ other ∈ front,
          other ≠ .failed ∧ other ≠ .delivered [] := by
        intro other member
        exact unfinished.undecided other (List.mem_cons_of_mem _ member)
      rw [received_cons, List.length_append] at short
      obtain ⟨missing, rfl⟩ := Nat.exists_eq_succ_of_ne_zero
        (Nat.ne_zero_of_lt short)
      cases outcome with
      | interrupted => exact induction ⟨by simpa using short, later⟩
      | failed => exact absurd rfl undecided.1
      | delivered bytes =>
          cases bytes with
          | nil => exact absurd rfl undecided.2
          | cons byte bytes =>
              rw [ReadOutcome.bytes, List.length_cons] at short
              have whole : bytes.take missing = bytes := by
                apply List.take_of_length_le
                omega
              have still : Unfinished (missing + 1 - (byte :: bytes).length)
                  front := by
                refine ⟨?_, later⟩
                rw [List.length_cons]
                omega
              rw [List.cons_append, fullRead, whole, induction still,
                Option.map_map, received_cons, List.length_append,
                ReadOutcome.bytes, Nat.sub_sub]
              congr 1
              funext read
              exact FullRead.after_after _ _

theorem fullRead_eq_none (unfinished : Unfinished wanted outcomes) :
    fullRead wanted outcomes = none := by
  have more := fullRead_unfinished unfinished []
  obtain ⟨missing, left⟩ := unfinished.exists_missing
  rw [List.append_nil, left, fullRead] at more
  exact more

/-- The calls that end a read determine it. -/
theorem fullRead_eq_some (ends : Ends wanted used ending)
    (rest : List ReadOutcome) :
    fullRead wanted (used ++ rest) =
      some { bytes := (received used).take wanted, ending, rest } := by
  cases ends with
  | nothing none =>
      subst none
      rw [List.nil_append, fullRead]
      rfl
  | @full front bytes unfinished enough =>
      obtain ⟨missing, left⟩ := unfinished.exists_missing
      cases bytes with
      | nil =>
          have short := unfinished.short
          rw [List.length_nil] at enough
          omega
      | cons byte bytes =>
          have all : (byte :: bytes.take missing).length = missing + 1 := by
            rw [List.length_cons] at enough
            rw [List.length_cons, List.length_take]
            omega
          have got : (received front ++ byte :: bytes).take wanted =
              received front ++ byte :: bytes.take missing := by
            rw [List.take_append, left, List.take_succ_cons,
              unfinished.take_eq]
          rw [List.append_assoc, fullRead_unfinished unfinished, left,
            List.singleton_append, fullRead, all, Nat.sub_self, fullRead,
            received_append, received_cons, ReadOutcome.bytes, received_nil,
            List.append_nil, got]
          simp [FullRead.after]
  | @endOfFile front unfinished =>
      obtain ⟨missing, left⟩ := unfinished.exists_missing
      rw [List.append_assoc, fullRead_unfinished unfinished, left,
        List.singleton_append, fullRead]
      simp [FullRead.after, unfinished.take_eq]
  | @failed front unfinished =>
      obtain ⟨missing, left⟩ := unfinished.exists_missing
      rw [List.append_assoc, fullRead_unfinished unfinished, left,
        List.singleton_append, fullRead]
      simp [FullRead.after, unfinished.take_eq]

theorem fullRead_eq_none_iff :
    fullRead wanted outcomes = none ↔ Unfinished wanted outcomes := by
  refine ⟨fun none => ?_, fullRead_eq_none⟩
  rcases unfinished_or_ends wanted outcomes with
    unfinished | ⟨used, rest, ending, rfl, ends⟩
  · exact unfinished
  · rw [fullRead_eq_some ends] at none
    cases none

theorem fullRead_eq_some_iff :
    fullRead wanted outcomes = some read ↔
      ∃ used, outcomes = used ++ read.rest ∧ Ends wanted used read.ending ∧
        read.bytes = (received used).take wanted := by
  constructor
  · intro done
    rcases unfinished_or_ends wanted outcomes with
      unfinished | ⟨used, rest, ending, rfl, ends⟩
    · rw [fullRead_eq_none unfinished] at done
      cases done
    · rw [fullRead_eq_some ends] at done
      cases done
      exact ⟨used, rfl, ends, rfl⟩
  · rintro ⟨used, rfl, ends, bytes⟩
    rw [fullRead_eq_some ends, ← bytes]

def uninterrupted (outcomes : List ReadOutcome) : List ReadOutcome :=
  outcomes.filter (· ≠ .interrupted)

theorem fullRead_uninterrupted (missing : Nat) (outcomes : List ReadOutcome) :
    fullRead missing (uninterrupted outcomes) =
      (fullRead missing outcomes).map fun read =>
        { read with rest := uninterrupted read.rest } := by
  induction outcomes generalizing missing with
  | nil =>
      cases missing with
      | zero => rfl
      | succ missing => rfl
  | cons outcome outcomes induction =>
      cases missing with
      | zero => simp [fullRead]
      | succ missing =>
          cases outcome with
          | interrupted => exact induction (missing + 1)
          | failed => rfl
          | delivered bytes =>
              have kept : uninterrupted (.delivered bytes :: outcomes) =
                  .delivered bytes :: uninterrupted outcomes := rfl
              cases bytes with
              | nil => rfl
              | cons byte bytes =>
                  rw [kept, fullRead, fullRead, induction, Option.map_map,
                    Option.map_map]
                  rfl

end KernelDrivers.Library
