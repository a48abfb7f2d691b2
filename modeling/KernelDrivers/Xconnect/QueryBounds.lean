import KernelDrivers.Xconnect.Query

/-!
# The bounds of the query

Where `fillip` and the copy of `query` write, which lengths they store, and
for which strings the request stays inside `buffer`.
-/

namespace KernelDrivers.Xconnect

open KernelDrivers.Library
open KernelDrivers.Library.Dns

/-- `sizeof(req.buffer)`. -/
abbrev sizeofBuffer : Nat := 256

/-- An assignment to an element of `buffer`; a length before it is cut to a
byte. -/
inductive BufferWrite where
  | character (index : Nat) (value : UInt8)
  | length (index value : Nat)
  deriving DecidableEq

def BufferWrite.index : BufferWrite → Nat
  | .character index _ => index
  | .length index _ => index

def BufferWrite.perform (buffer : Nat) (memory : Memory) :
    BufferWrite → Memory
  | .character index value => memory.storeList (buffer + index) [value]
  | .length index value => memory.storeList (buffer + index) [.ofNat value]

/-- The assignments of the loop of `fillip`. -/
def fillipWritesFrom (i j : Nat) : List UInt8 → List BufferWrite
  | [] => [.length j (i - j)]
  | c :: ip =>
      if c ≠ 46 then .character (i + 1) c :: fillipWritesFrom (i + 1) j ip
      else .length j (i - j) :: fillipWritesFrom (i + 1) (i + 1) ip

def fillipWrites (ip : List UInt8) : List BufferWrite :=
  fillipWritesFrom 0 0 ip

theorem fillip_writes (buffer : Nat) (memory : Memory) (ip : List UInt8) :
    fillip buffer memory ip =
      (fillipWrites ip).foldl (BufferWrite.perform buffer) memory := by
  have loop : ∀ i j, fillipLoop buffer memory i j ip =
      (fillipWritesFrom i j ip).foldl (BufferWrite.perform buffer) memory := by
    induction ip generalizing memory with
    | nil =>
        intro i j
        rfl
    | cons c ip induction =>
        intro i j
        rw [fillipLoop, fillipWritesFrom]
        split
        · exact induction _ (i + 1) j
        · exact induction _ (i + 1) (i + 1)
  exact loop 0 0

/-- A list of labels, with or without a dot at its end; no label is the
root. -/
structure Encodes (node : List UInt8) (labels : List Label) : Prop where
  valid : ∀ label ∈ labels, LabelValid label
  text : ∃ rooted : Bool,
    node = [dot].intercalate labels ++ if rooted then [dot] else []

/-- The string names labels that take at most 255 bytes with the empty one. -/
def Encodable (node : List UInt8) : Prop :=
  ∃ labels, Encodes node labels ∧ (encodeLabels labels).length + 1 ≤ 255

/-- Every assignment and the copy of `query` stay inside `buffer`, every length
is that of a label, and a string that cannot be encoded is not sent. -/
structure QueryBounded (node : List UInt8) : Prop where
  inside : ∀ write ∈ fillipWrites node, write.index < sizeofBuffer
  lengths : ∀ index value,
    .length index value ∈ fillipWrites node → value ≤ 63
  trailer : ∃ length,
    (request node).strlen bufferAt (sizeofReq - bufferAt) = some length ∧
      length + 1 + 4 ≤ sizeofBuffer
  rejects : ¬Encodable node → sent node = none

/-- Labels that leave room for `query`. -/
def QueryCondition (node : List UInt8) : Prop :=
  ∃ labels, Encodes node labels ∧ (encodeLabels labels).length ≤ 251

/-- No assignment is further behind than the string is long. -/
theorem fillipWritesFrom_index {i j : Nat} {ip : List UInt8} (behind : j ≤ i) :
    ∀ write ∈ fillipWritesFrom i j ip, write.index ≤ i + ip.length := by
  induction ip generalizing i j with
  | nil =>
      intro write member
      rw [fillipWritesFrom, List.mem_singleton] at member
      subst member
      exact behind
  | cons c ip induction =>
      intro write member
      have total : i + (c :: ip).length = i + 1 + ip.length := by
        simp only [List.length_cons]
        omega
      rw [total]
      rw [fillipWritesFrom] at member
      split at member
      · rcases List.mem_cons.mp member with rfl | later
        · exact Nat.le_add_right _ _
        · exact induction (Nat.le_succ_of_le behind) write later
      · rcases List.mem_cons.mp member with rfl | later
        · simp only [BufferWrite.index]
          omega
        · exact induction (Nat.le_refl _) write later

theorem fillipWritesFrom_label {label : Label}
    (plain : ∀ byte ∈ label, byte ≠ dot) {i j index value : Nat}
    {rest : List UInt8}
    (member : .length index value ∈ fillipWritesFrom i j (label ++ rest)) :
    .length index value ∈ fillipWritesFrom (i + label.length) j rest := by
  induction label generalizing i with
  | nil => exact member
  | cons byte label induction =>
      rw [List.cons_append, fillipWritesFrom,
        if_pos (plain byte List.mem_cons_self)] at member
      rcases List.mem_cons.mp member with differ | later
      · cases differ
      · have shorter := induction
          (fun byte member => plain byte (List.mem_cons_of_mem _ member)) later
        rwa [List.length_cons, Nat.add_comm label.length, ← Nat.add_assoc]

/-- At the end the length that is pending is stored, and a zero after a dot. -/
theorem fillipWritesFrom_end {rooted : Bool} {i j index value : Nat}
    (member : .length index value ∈
      fillipWritesFrom i j (if rooted then [dot] else [])) :
    value ≤ i - j := by
  cases rooted with
  | false =>
      rw [if_neg Bool.false_ne_true, fillipWritesFrom,
        List.mem_singleton] at member
      cases member
      exact Nat.le_refl _
  | true =>
      rw [if_pos rfl, fillipWritesFrom, if_neg (fun differ => differ rfl),
        fillipWritesFrom, Nat.sub_self] at member
      rcases List.mem_cons.mp member with pending | zero
      · cases pending
        exact Nat.le_refl _
      · rw [List.mem_singleton] at zero
        cases zero
        exact Nat.zero_le _

/-- Every length of a name is that of a label, or of the empty one. -/
theorem fillipWritesFrom_lengths {labels : List Label}
    (valid : ∀ label ∈ labels, LabelValid label) (rooted : Bool) {i : Nat} :
    ∀ index value, .length index value ∈ fillipWritesFrom i i
        ([dot].intercalate labels ++ if rooted then [dot] else []) →
      value ≤ 63 := by
  intro index value member
  induction labels generalizing i with
  | nil =>
      have atEnd := fillipWritesFrom_end member
      omega
  | cons label labels induction =>
      have here := valid label List.mem_cons_self
      have plain : ∀ byte ∈ label, byte ≠ dot :=
        fun byte member => (here.2 byte member).1
      have short := here.1.2
      cases labels with
      | nil =>
          rw [List.intercalate_singleton] at member
          have atEnd :=
            fillipWritesFrom_end (fillipWritesFrom_label plain member)
          omega
      | cons next labels =>
          rw [List.intercalate_cons_cons, List.append_assoc, List.append_assoc,
            List.singleton_append] at member
          have tail := fillipWritesFrom_label plain member
          rw [fillipWritesFrom, if_neg (fun differ => differ rfl)] at tail
          rcases List.mem_cons.mp tail with first | later
          · cases first
            omega
          · exact induction
              (fun label member => valid label (List.mem_cons_of_mem _ member))
              later

variable {node : List UInt8} {labels : List Label}

theorem Encodes.strlen_request (encodes : Encodes node labels)
    (short : (encodeLabels labels).length + 1 ≤ 255) :
    (request node).strlen bufferAt (sizeofReq - bufferAt) =
      some (encodeLabels labels).length := by
  obtain ⟨rooted, rfl⟩ := encodes.text
  cases labels with
  | nil =>
      cases rooted with
      | false => rfl
      | true => rfl
  | cons label labels =>
      have nonempty := List.cons_ne_nil label labels
      rw [length_encodeLabels nonempty] at short
      exact Xconnect.strlen_request
        ⟨_, rooted, nonempty, encodes.valid, by omega⟩

theorem Encodes.length_le (encodes : Encodes node labels) :
    node.length ≤ (encodeLabels labels).length + 1 := by
  obtain ⟨rooted, rfl⟩ := encodes.text
  have ended : (if rooted then [dot] else []).length ≤ 1 := by
    cases rooted <;> decide
  rw [List.length_append]
  cases labels with
  | nil => exact Nat.add_le_add (Nat.zero_le _) ended
  | cons label labels =>
      rw [length_encodeLabels (List.cons_ne_nil label labels)]
      omega

/-- The copy of `query` leaves the zero where it is, so the name is sent. -/
theorem sent_of_trailer {length : Nat}
    (measured : (request node).strlen bufferAt (sizeofReq - bufferAt) =
      some length) :
    sent node ≠ none := by
  have kept : ∀ offset ≤ length,
      copyQuery (request node) length (bufferAt + offset) =
        request node (bufferAt + offset) := by
    intro offset inside
    exact Memory.store_outside (.inl (by omega))
  unfold sent
  simp only [measured, Memory.strlen_congr measured kept]
  exact Option.some_ne_none _

/-- The query is built in bounds, and refused where it has to be, exactly for
labels that leave room for the trailer. -/
theorem queryBounded_iff (node : List UInt8) :
    QueryBounded node ↔ QueryCondition node := by
  constructor
  · intro bounded
    obtain ⟨length, measured, room⟩ := bounded.trailer
    have size : sizeofBuffer = 256 := rfl
    have encodable : Encodable node := by
      by_contra foreign
      exact sent_of_trailer measured (bounded.rejects foreign)
    obtain ⟨labels, encodes, short⟩ := encodable
    rw [encodes.strlen_request short] at measured
    cases measured
    exact ⟨labels, encodes, by omega⟩
  · rintro ⟨labels, encodes, short⟩
    have ended := encodes.length_le
    have size : sizeofBuffer = 256 := rfl
    refine ⟨?_, ?_, ?_, ?_⟩
    · intro write member
      have index := fillipWritesFrom_index (Nat.le_refl 0) write member
      omega
    · intro index value member
      obtain ⟨rooted, rfl⟩ := encodes.text
      exact fillipWritesFrom_lengths encodes.valid rooted index value member
    · exact ⟨_, encodes.strlen_request (by omega), by omega⟩
    · intro foreign
      exact absurd ⟨labels, encodes, by omega⟩ foreign

/-- `w.xy.`. -/
example : QueryCondition [119, dot, 120, 121, dot] :=
  ⟨[[119], [120, 121]], ⟨by decide, true, rfl⟩, by decide⟩

/-- A label of 64 bytes has its length stored. -/
theorem not_queryBounded_label :
    ¬QueryBounded (List.replicate 64 97) := by
  intro bounded
  have length := bounded.lengths 0 64 (by decide)
  exact absurd length (by decide)

end KernelDrivers.Xconnect
