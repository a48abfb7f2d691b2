import KernelDrivers.Library.Dns
import KernelDrivers.Xconnect.Name2ip

/-!
# The response

The walk of `name2ip` goes from record to record and stops at the first one of
type A.
-/

namespace KernelDrivers.Xconnect

open KernelDrivers.Library
open KernelDrivers.Library.Dns

/-- The type and the length of the answer at an index of the buffer. -/
def recordType (res : Memory) (index : Nat) : Nat :=
  be16 (res (bufferAt + index + 2)) (res (bufferAt + index + 3))

def recordLength (res : Memory) (index : Nat) : Nat :=
  be16 (res (bufferAt + index + 10)) (res (bufferAt + index + 11))

/-- `res.resp` overlaid on the answer at an index of the buffer. -/
def overlay (res : Memory) (index : Nat) : Memory :=
  res.store respAt 12 fun offset => res (bufferAt + index + offset)

theorem overlay_kept {res : Memory} {start length : Nat} (index : Nat)
    (room : start + length ≤ respAt) :
    (overlay res index).bytes start length = res.bytes start length := by
  apply Memory.bytes_congr
  intro offset inside
  exact Memory.store_outside (.inl (by omega))

theorem overlay_resp (res : Memory) (index : Nat) {offset : Nat}
    (inside : offset < 12) :
    overlay res index (respAt + offset) = res (bufferAt + index + offset) := by
  rw [overlay, Memory.store_inside (Nat.le_add_right _ _)
    (Nat.add_lt_add_left inside _), Nat.add_sub_cancel_left]

section Round

variable {res : Memory} {index : Nat}

private theorem overlay_type :
    be16 (overlay res index (respAt + 2)) (overlay res index (respAt + 3)) =
      recordType res index := by
  rw [overlay_resp res index (by decide), overlay_resp res index (by decide)]
  rfl

private theorem overlay_len :
    be16 (overlay res index (respAt + 10)) (overlay res index (respAt + 11)) =
      recordLength res index := by
  rw [overlay_resp res index (by decide), overlay_resp res index (by decide)]
  rfl

theorem walkLoop_next (other : recordType res index ≠ typeA) (rounds : Nat)
    (examined : List Nat) :
    walkLoop (rounds + 1) res index examined =
      walkLoop rounds (overlay res index)
        (index + (recordLength res index + 12))
        (examined ++ List.range' (bufferAt + index) 12) := by
  have type := @overlay_type res index
  have len := @overlay_len res index
  unfold overlay at type len
  rw [walkLoop]
  simp only [type, len, if_neg other]
  rfl

/-- The walk ends with four bytes behind an answer of type A, read when `resp`
has been overlaid. -/
theorem walkLoop_stop (found : recordType res index = typeA) (rounds : Nat)
    (examined : List Nat) :
    ∃ walk, walkLoop (rounds + 1) res index examined = some walk ∧
      walk.addr = (overlay res index).bytes (bufferAt + index + 12) 4 ∧
      walk.examined = examined ++ List.range' (bufferAt + index) 12 ++
        List.range' (bufferAt + index + 12) 4 := by
  have type := @overlay_type res index
  unfold overlay at type
  rw [walkLoop]
  simp only [type, if_pos found]
  refine ⟨_, rfl, ?_, rfl⟩
  apply Memory.bytes_congr
  intro offset inside
  have stored := @Memory.store_inside (overlay res index)
    (fun offset => overlay res index (bufferAt + index + 12 + offset))
    (respAt + 12) 4 _ (Nat.le_add_right _ offset) (Nat.add_lt_add_left inside _)
  rwa [Nat.add_sub_cancel_left] at stored

end Round

theorem length_fixed (record : Record) : record.fixed.length = 12 := rfl

section Record

variable {res : Memory} {index : Nat} {record : Record}

private theorem recordType_fixed
    (held : res.bytes (bufferAt + index) 12 = record.fixed) :
    recordType res index = record.type.toNat := by
  unfold recordType
  rw [Nat.add_assoc, Nat.add_assoc, ← Nat.add_assoc bufferAt,
    ← Nat.add_assoc bufferAt, Memory.eq_getD_of_bytes held (by decide),
    Memory.eq_getD_of_bytes held (by decide)]
  exact be16_bytes record.type.toNat_lt

private theorem recordLength_fixed
    (held : res.bytes (bufferAt + index) 12 = record.fixed) :
    recordLength res index = record.rdata.length := by
  unfold recordLength
  rw [Nat.add_assoc, Nat.add_assoc, ← Nat.add_assoc bufferAt,
    ← Nat.add_assoc bufferAt, Memory.eq_getD_of_bytes held (by decide),
    Memory.eq_getD_of_bytes held (by decide)]
  exact be16_bytes record.short

theorem walkLoop_other
    (held : res.bytes (bufferAt + index) 12 = record.fixed)
    (other : record.type.toNat ≠ typeA) (rounds : Nat) (examined : List Nat) :
    walkLoop (rounds + 1) res index examined =
      walkLoop rounds (overlay res index) (index + (record.rdata.length + 12))
        (examined ++ List.range' (bufferAt + index) 12) := by
  rw [← recordType_fixed held] at other
  rw [walkLoop_next other, recordLength_fixed held]

theorem walkLoop_found
    (held : res.bytes (bufferAt + index) 12 = record.fixed)
    (rdata : res.bytes (bufferAt + index + 12) 4 = record.rdata)
    (found : record.type.toNat = typeA)
    (room : bufferAt + index + 16 ≤ respAt)
    (rounds : Nat) (examined : List Nat) :
    ∃ walk, walkLoop (rounds + 1) res index examined = some walk ∧
      walk.addr = record.rdata ∧
      walk.examined = examined ++ List.range' (bufferAt + index) 12 ++
        List.range' (bufferAt + index + 12) 4 := by
  rw [← recordType_fixed held] at found
  obtain ⟨walk, stops, addr, examines⟩ := walkLoop_stop found rounds examined
  have before : bufferAt + index + 12 + 4 ≤ respAt := room
  rw [overlay_kept index before, rdata] at addr
  exact ⟨walk, stops, addr, examines⟩

end Record

theorem encodeRecords_cons (record : Record) (records : List Record)
    (rest : List UInt8) :
    encodeRecords (record :: records) ++ rest =
      record.fixed ++ (record.rdata ++ (encodeRecords records ++ rest)) := by
  simp [encodeRecords, Record.encode]

/-- Nothing is examined behind the first answer of type A. -/
theorem walkLoop_answers {a : Record} (found : a.type.toNat = typeA)
    (four : a.rdata.length = 4) (after : List Record) (rest : List UInt8)
    {before : List Record} (others : ∀ record ∈ before,
      record.type.toNat ≠ typeA)
    {res : Memory} {index : Nat} (rounds : Nat) (examined : List Nat)
    (held : res.bytes (bufferAt + index)
        (encodeRecords (before ++ a :: after) ++ rest).length =
      encodeRecords (before ++ a :: after) ++ rest)
    (room : bufferAt + index +
      (encodeRecords (before ++ a :: after) ++ rest).length ≤ respAt)
    (enough : before.length < rounds) :
    ∃ walk, walkLoop rounds res index examined = some walk ∧
      walk.addr = a.rdata ∧
      ∀ address ∈ walk.examined, address ∈ examined ∨
        address < bufferAt + index + (encodeRecords (before ++ [a])).length := by
  obtain ⟨rounds, rfl⟩ :=
    Nat.exists_eq_succ_of_ne_zero (Nat.ne_zero_of_lt enough)
  induction before generalizing res index rounds examined with
  | nil =>
      rw [List.nil_append, encodeRecords_cons] at held room
      obtain ⟨fixed, later⟩ := Memory.bytes_eq_append held
      obtain ⟨rdata, -⟩ := Memory.bytes_eq_append later
      rw [four, length_fixed] at rdata
      have inside : bufferAt + index + 16 ≤ respAt := by
        simp only [List.length_append, length_fixed, four] at room
        omega
      obtain ⟨walk, stops, addr, examines⟩ := walkLoop_found
        fixed rdata found inside rounds examined
      refine ⟨walk, stops, addr, fun address member => ?_⟩
      have size : (encodeRecords [a]).length = 16 := by
        simp [encodeRecords, Record.encode, length_fixed, four]
      rw [examines, List.append_assoc, List.mem_append, List.mem_append,
        List.mem_range'_1, List.mem_range'_1] at member
      rw [List.nil_append, size]
      exact member.imp_right (fun either => by omega)
  | cons record before induction =>
      rw [List.cons_append, encodeRecords_cons] at held room
      obtain ⟨fixed, later⟩ := Memory.bytes_eq_append held
      obtain ⟨-, answers⟩ := Memory.bytes_eq_append later
      have place : bufferAt + (index + (record.rdata.length + 12)) =
          bufferAt + index + record.fixed.length + record.rdata.length := by
        rw [length_fixed]
        omega
      rw [← place] at answers
      have less := Nat.lt_of_succ_lt_succ enough
      obtain ⟨rounds, rfl⟩ :=
        Nat.exists_eq_succ_of_ne_zero (Nat.ne_zero_of_lt less)
      have size := congrArg List.length
        (encodeRecords_cons record (before ++ [a]) [])
      simp only [List.append_nil, List.length_append, length_fixed] at size room
      have inside : bufferAt + (index + (record.rdata.length + 12)) +
          (encodeRecords (before ++ a :: after) ++ rest).length ≤ respAt := by
        rw [place, length_fixed, List.length_append]
        omega
      obtain ⟨walk, walks, addr, examines⟩ := induction
        (fun record member => others record (List.mem_cons_of_mem _ member))
        _ ((overlay_kept index inside).trans answers) inside rounds less
      rw [place, length_fixed] at examines
      refine ⟨walk, ?_, addr, fun address member => ?_⟩
      · rw [Nat.succ_eq_add_one, walkLoop_other fixed
          (others record List.mem_cons_self)]
        exact walks
      · rw [List.cons_append, size]
        cases examines address member with
        | inl reached =>
            rw [List.mem_append, List.mem_range'_1] at reached
            exact reached.imp_right (fun resp => by omega)
        | inr later => exact .inr (by omega)

section Datagram

variable (response : Response)

private theorem encode_eq :
    response.encode =
      response.header ++ (encodeLabels response.question.labels ++
        ([0] ++ ((be16Bytes typeA ++ be16Bytes classIN) ++
          (encodeRecords response.answers ++ response.sections)))) := by
  simp only [Response.encode, encodeQuestion, List.append_assoc]

theorem length_question :
    (encodeQuestion response.question).length =
      (encodeLabels response.question.labels).length + 5 := by
  simp [encodeQuestion, be16Bytes]

theorem length_encode :
    response.encode.length =
      12 + ((encodeLabels response.question.labels).length + 5) +
        (encodeRecords response.answers).length + response.sections.length := by
  rw [← length_question]
  simp only [Response.encode, List.length_append]
  rfl

theorem received_parts (res : Memory) :
    (res.storeList 0 response.encode).strlen bufferAt (sizeofRes - bufferAt) =
        some (encodeLabels response.question.labels).length ∧
      (res.storeList 0 response.encode).bytes
        (bufferAt + ((encodeLabels response.question.labels).length + 5))
        (encodeRecords response.answers ++ response.sections).length =
          encodeRecords response.answers ++ response.sections := by
  have held := @Memory.bytes_storeList res 0 response.encode
  generalize res.storeList 0 response.encode = received at held
  rw [encode_eq] at held
  obtain ⟨-, body⟩ := Memory.bytes_eq_append held
  obtain ⟨labels, behind⟩ := Memory.bytes_eq_append body
  obtain ⟨zero, query⟩ := Memory.bytes_eq_append behind
  obtain ⟨-, answers⟩ := Memory.bytes_eq_append query
  have short := response.question.length_encodeLabels
  constructor
  · exact Memory.strlen_of_bytes labels
      (encodeLabels_ne_zero response.question.valid)
      (List.head_eq_of_cons_eq zero)
      (by simp only [sizeofRes, bufferAt]; omega)
  · exact answers

end Datagram

theorem length_le_encodeRecords (records : List Record) :
    records.length ≤ (encodeRecords records).length := by
  induction records with
  | nil => exact Nat.zero_le _
  | cons record records induction =>
      have size := congrArg List.length (encodeRecords_cons record records [])
      simp only [List.append_nil, List.length_append, length_fixed] at size
      simp only [List.length_cons]
      omega

/-- The walk finds the first answer of type A, if it has four bytes, and
examines no byte behind it. -/
theorem walk_first (res : Memory) (response : Response)
    {before after : List Record} {a : Record}
    (answers : response.answers = before ++ a :: after)
    (others : ∀ record ∈ before, record.type.toNat ≠ typeA)
    (found : a.type.toNat = typeA) (four : a.rdata.length = 4)
    (fits : response.encode.length ≤ 12 + 1024) :
    ∃ walk, Xconnect.walk res response.encode = some walk ∧
      walk.addr = a.rdata ∧
      received res response.encode = some (inetNtoa a.rdata) ∧
      ∀ address ∈ walk.examined, address < response.encode.length ∧
        address < (response.header ++ encodeQuestion response.question ++
          encodeRecords (before ++ [a])).length := by
  obtain ⟨strlen, held⟩ := received_parts response res
  have size := length_encode response
  have split : encodeRecords response.answers =
      encodeRecords (before ++ [a]) ++ encodeRecords after := by
    simp [answers, encodeRecords]
  have longer := congrArg List.length split
  have count := length_le_encodeRecords response.answers
  rw [List.length_append] at longer
  rw [answers, List.length_append, List.length_cons] at count
  rw [answers] at held
  obtain ⟨walk, walks, addr, examines⟩ := walkLoop_answers
    found four after response.sections others sizeofRes
    (List.range' bufferAt
      ((encodeLabels response.question.labels).length + 1)) held
    (by
      rw [List.length_append, ← answers]
      simp only [bufferAt, respAt]
      omega)
    (by
      rw [← answers] at count
      simp only [sizeofRes]
      omega)
  have whole : response.encode.take sizeofRes = response.encode :=
    List.take_of_length_le (by simp only [sizeofRes]; omega)
  have walked : Xconnect.walk res response.encode = some walk := by
    rw [Xconnect.walk, whole]
    simp only [strlen]
    exact walks
  refine ⟨walk, walked, addr, ?_, fun address member => ?_⟩
  · rw [received, walked, ← addr]
    rfl
  · rw [List.length_append, List.length_append, length_question]
    have inside := examines address member
    rw [List.mem_range'_1] at inside
    have header : response.header.length = 12 := rfl
    simp only [bufferAt] at inside
    omega

/-- In a well-formed response the address is that of the first answer of type A,
and no byte behind it is examined. -/
theorem walk_response (res : Memory) (response : Response)
    {before after : List Record} {a : Record}
    (answers : response.answers = before ++ a :: after)
    (others : ∀ record ∈ before, record.type.toNat ≠ typeA)
    (found : a.type.toNat = typeA) (wellFormed : response.WellFormed)
    (fits : response.encode.length ≤ 12 + 1024) :
    ∃ walk, Xconnect.walk res response.encode = some walk ∧
      walk.addr = a.rdata ∧
      received res response.encode = some (inetNtoa a.rdata) ∧
      ∀ address ∈ walk.examined, address < response.encode.length ∧
        address < (response.header ++ encodeQuestion response.question ++
          encodeRecords (before ++ [a])).length := by
  have listed : a ∈ response.answers := by
    rw [answers]
    exact List.mem_append_cons_self
  exact walk_first res response answers others found
    (wellFormed a listed found).2
    fits

/-- An alias in front of the address. -/
private def aliased : Response where
  id := 0x4419
  flags := 0x8180
  question := ⟨[[119], [120, 121]], false, by decide, by decide, by decide⟩
  answers :=
    [⟨0xc00c, 5, 1, 60, [1, 122, 0], by decide, by decide⟩,
      ⟨0xc00c, 1, 1, 60, [192, 0, 2, 7], by decide, by decide⟩]
  authorityCount := 0
  additionalCount := 0
  sections := []

theorem walk_response_aliased :
    ∃ walk, Xconnect.walk (fun _ => 0) aliased.encode = some walk ∧
      walk.addr = [192, 0, 2, 7] ∧
      received (fun _ => 0) aliased.encode =
        some (inetNtoa [192, 0, 2, 7]) ∧
      ∀ address ∈ walk.examined, address < aliased.encode.length ∧
        address < (aliased.header ++ encodeQuestion aliased.question ++
          encodeRecords aliased.answers).length :=
  @walk_response (fun _ => 0) aliased
    [⟨0xc00c, 5, 1, 60, [1, 122, 0], by decide, by decide⟩] [] _
    rfl (by decide) rfl (by decide) (by decide)

end KernelDrivers.Xconnect
