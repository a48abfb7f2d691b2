import KernelDrivers.Library.Dns
import KernelDrivers.Xconnect.Name2ip

/-!
# The query

`fillip` turns the dots of a name into lengths, and the datagram decodes as one
question for the address of that name.
-/

namespace KernelDrivers.Xconnect

open KernelDrivers.Library
open KernelDrivers.Library.Dns

section Fillip

variable {buffer : Nat}

theorem fillipLoop_label {label : Label} (plain : ∀ byte ∈ label, byte ≠ dot)
    (memory : Memory) (i j : Nat) (rest : List UInt8) :
    fillipLoop buffer memory i j (label ++ rest) =
      fillipLoop buffer (memory.storeList (buffer + (i + 1)) label)
        (i + label.length) j rest := by
  induction label generalizing memory i with
  | nil => rw [Memory.storeList_nil]; rfl
  | cons byte label induction =>
      have later := induction
        (fun byte member => plain byte (List.mem_cons_of_mem _ member))
        (memory.storeList (buffer + (i + 1)) [byte]) (i + 1)
      have stored := @Memory.storeList_append memory (buffer + (i + 1))
        [byte] label
      have moved : i + 1 + label.length = i + (byte :: label).length := by
        simp only [List.length_cons]
        omega
      rw [List.cons_append, fillipLoop,
        if_pos (plain byte List.mem_cons_self), later, moved]
      exact congrArg (fun memory => fillipLoop buffer memory
        (i + (byte :: label).length) j rest) stored.symm

theorem label_with_length (memory : Memory) (i : Nat) (label : Label) :
    (memory.storeList (buffer + (i + 1)) label).storeList (buffer + i)
        [.ofNat (i + label.length - i)] =
      memory.storeList (buffer + i) (.ofNat label.length :: label) := by
  rw [Nat.add_sub_cancel_left]
  exact Memory.storeList_head_last _ label

theorem fillipLoop_dot {label : Label} (valid : LabelValid label)
    (memory : Memory) (i : Nat) (rest : List UInt8) :
    fillipLoop buffer memory i i (label ++ dot :: rest) =
      fillipLoop buffer
        (memory.storeList (buffer + i) (.ofNat label.length :: label))
        (i + label.length + 1) (i + label.length + 1) rest := by
  rw [fillipLoop_label (fun byte member => (valid.2 byte member).1),
    fillipLoop, if_neg (fun differ => differ rfl), label_with_length]

theorem fillipLoop_end {label : Label} (valid : LabelValid label)
    (memory : Memory) (i : Nat) :
    fillipLoop buffer memory i i label =
      memory.storeList (buffer + i) (.ofNat label.length :: label) := by
  have whole := @fillipLoop_label buffer label
    (fun byte member => (valid.2 byte member).1) memory i i []
  rw [List.append_nil] at whole
  rw [whole, fillipLoop, label_with_length]

/-- A dot at the end writes the empty label, where the buffer is zero. -/
theorem fillipLoop_labels {labels : List Label} (nonempty : labels ≠ [])
    (valid : ∀ label ∈ labels, LabelValid label) (rooted : Bool)
    (memory : Memory) (i : Nat) :
    fillipLoop buffer memory i i
        ([dot].intercalate labels ++ if rooted then [dot] else []) =
      memory.storeList (buffer + i)
        (encodeLabels labels ++ if rooted then [0] else []) := by
  induction labels generalizing memory i with
  | nil => exact absurd rfl nonempty
  | cons label labels induction =>
      have here := valid label List.mem_cons_self
      have place : buffer + (i + label.length + 1) =
          buffer + i + (UInt8.ofNat label.length :: label).length := by
        simp only [List.length_cons]
        omega
      rw [encodeLabels_cons]
      cases labels with
      | nil =>
          rw [List.intercalate_singleton]
          cases rooted with
          | false =>
              simpa [encodeLabels] using fillipLoop_end here memory i
          | true =>
              rw [if_pos rfl, if_pos rfl, fillipLoop_dot here, fillipLoop,
                Nat.sub_self, place, ← Memory.storeList_append]
              simp [encodeLabels]
      | cons next labels =>
          have later := induction (List.cons_ne_nil next labels)
            (fun label member => valid label (List.mem_cons_of_mem _ member))
          rw [List.intercalate_cons_cons, List.append_assoc, List.append_assoc,
            List.singleton_append, fillipLoop_dot here, later, place,
            ← Memory.storeList_append]
          simp

end Fillip

theorem fillip_text (name : HostName) (memory : Memory) (buffer : Nat) :
    fillip buffer memory name.text =
      memory.storeList buffer
        (encodeLabels name.labels ++ if name.rooted then [0] else []) :=
  fillipLoop_labels name.nonempty name.valid name.rooted memory 0

/-- The header that `name2ip` fills in. -/
private def questionHeader : Memory :=
  ((Memory.storeList (fun _ => 0) 0 (be16Bytes 0x4419)).storeList 2
    (be16Bytes 0x0100)).storeList 4 (be16Bytes 1)

private theorem questionHeader_zero {address : Nat} (behind : 6 ≤ address) :
    questionHeader address = 0 := by
  unfold questionHeader
  rw [Memory.storeList_outside (.inr behind),
    Memory.storeList_outside (.inr (Nat.le_trans (by decide) behind)),
    Memory.storeList_outside (.inr (Nat.le_trans (by decide) behind))]

/-- The name as the message has it. -/
def wireName (name : HostName) : List UInt8 :=
  encodeLabels name.labels ++ [0]

theorem length_wireName (name : HostName) :
    (wireName name).length = (encodeLabels name.labels).length + 1 := by
  simp [wireName]

/-- The buffer is zero behind the labels with and without a dot at the end. -/
private theorem fillip_header (name : HostName) :
    fillip bufferAt questionHeader name.text =
      questionHeader.storeList bufferAt (wireName name) := by
  rw [fillip_text, wireName, Memory.storeList_append, Memory.storeList_append]
  cases name.rooted with
  | true => rfl
  | false =>
      have outside := @Memory.storeList_outside questionHeader bufferAt
        _ (encodeLabels name.labels) (.inr (Nat.le_refl _))
      have zero := outside.trans
        (questionHeader_zero (Nat.le_add_right_of_le (by decide)))
      rw [if_neg Bool.false_ne_true, Memory.storeList_nil]
      refine (Memory.storeList_same ?_).symm
      exact congrArg (fun byte => [byte]) zero

section Request

variable (name : HostName)

private theorem request_below {address : Nat} (below : address < queryAt) :
    request name.text address =
      questionHeader.storeList bufferAt (wireName name) address := by
  rw [← fillip_header]
  unfold request
  rw [Memory.storeList_outside (.inl (Nat.lt_add_right 2 below)),
    Memory.storeList_outside (.inl below)]
  rfl

private theorem request_header :
    (request name.text).bytes 0 12 =
      [0x44, 0x19, 1, 0, 0, 1, 0, 0, 0, 0, 0, 0] := by
  have kept : (request name.text).bytes 0 12 = questionHeader.bytes 0 12 := by
    apply Memory.bytes_congr
    intro offset inside
    rw [request_below name (by simp only [queryAt]; omega),
      Memory.storeList_outside (.inl (by simp only [bufferAt]; omega))]
  rw [kept]
  rfl

private theorem request_name :
    (request name.text).bytes bufferAt (wireName name).length =
      wireName name := by
  have short := name.length_encodeLabels
  have length := length_wireName name
  have kept : (request name.text).bytes bufferAt (wireName name).length =
      (questionHeader.storeList bufferAt (wireName name)).bytes bufferAt
        (wireName name).length := by
    apply Memory.bytes_congr
    intro offset inside
    exact request_below name (by simp only [bufferAt, queryAt]; omega)
  rw [kept, Memory.bytes_storeList]

private theorem request_query :
    (request name.text).bytes queryAt 4 =
      be16Bytes typeA ++ be16Bytes classIN := by
  have stored := fun req => @Memory.bytes_storeList req queryAt
    (be16Bytes typeA ++ be16Bytes classIN)
  simp only [Memory.storeList_append] at stored
  exact stored _

private theorem strlen_name {memory : Memory}
    (held : memory.bytes bufferAt (wireName name).length = wireName name) :
    memory.strlen bufferAt (sizeofReq - bufferAt) =
      some (encodeLabels name.labels).length := by
  have short := name.length_encodeLabels
  rw [wireName] at held
  obtain ⟨labels, ended⟩ := Memory.bytes_eq_append held
  have zero : memory (bufferAt + (encodeLabels name.labels).length) = 0 :=
    List.head_eq_of_cons_eq ended
  exact Memory.strlen_of_bytes labels (encodeLabels_ne_zero name.valid) zero
    (by simp only [sizeofReq, bufferAt]; omega)

theorem strlen_request :
    (request name.text).strlen bufferAt (sizeofReq - bufferAt) =
      some (encodeLabels name.labels).length :=
  strlen_name name (request_name name)

private def copied : Memory :=
  copyQuery (request name.text) (encodeLabels name.labels).length

private theorem copied_below {address : Nat}
    (below : address < bufferAt + (wireName name).length) :
    copied name address = request name.text address := by
  rw [length_wireName] at below
  unfold copied copyQuery
  exact Memory.store_outside (.inl below)

private theorem copied_header :
    (copied name).bytes 0 12 = (request name.text).bytes 0 12 := by
  apply Memory.bytes_congr
  intro offset inside
  exact copied_below name (by simp only [bufferAt]; omega)

private theorem copied_name :
    (copied name).bytes bufferAt (wireName name).length = wireName name := by
  rw [← request_name name]
  rw [length_wireName, Memory.length_bytes, ← length_wireName]
  apply Memory.bytes_congr
  intro offset inside
  exact copied_below name (Nat.add_lt_add_left inside _)

private theorem copied_query :
    (copied name).bytes (bufferAt + (wireName name).length) 4 =
      be16Bytes typeA ++ be16Bytes classIN := by
  rw [← request_query name, length_wireName]
  apply Memory.bytes_congr
  intro offset inside
  have stored := @Memory.store_inside (request name.text)
    (fun offset => request name.text (queryAt + offset))
    (bufferAt + (encodeLabels name.labels).length + 1) 4 _
    (Nat.le_add_right _ offset) (Nat.add_lt_add_left inside _)
  rw [Nat.add_sub_cancel_left] at stored
  exact stored

theorem sent_text :
    sent name.text =
      some ([0x44, 0x19, 1, 0, 0, 1, 0, 0, 0, 0, 0, 0] ++ wireName name ++
        (be16Bytes typeA ++ be16Bytes classIN)) := by
  have length : (encodeLabels name.labels).length + 17 =
      12 + (wireName name).length + 4 := by
    rw [length_wireName]
    omega
  rw [sent, strlen_request]
  simp only
  have again := strlen_name name (copied_name name)
  rw [copied] at again
  rw [again, Option.map_some, length, Memory.bytes_append, Memory.bytes_append]
  have header := (copied_header name).trans (request_header name)
  have body := copied_name name
  have query := copied_query name
  rw [copied] at header body query
  rw [header, Nat.zero_add, Nat.zero_add, body, query]

end Request

/-- The datagram is one question for the address of the name, and it ends in
the object. -/
theorem decodeQuery_sent (name : HostName) :
    ∃ datagram header question, sent name.text = some datagram ∧
      datagram.length ≤ sizeofReq ∧
      decodeQuery datagram = some (header, question) ∧
      header.recursionDesired = true ∧
      header.questions = 1 ∧ header.answers = 0 ∧ header.authority = 0 ∧
      header.additional = 0 ∧
      question = ⟨name.labels, typeA, classIN⟩ := by
  have decoded := decodeName_encodeLabels name
    (be16Bytes typeA ++ be16Bytes classIN)
  refine ⟨_, ⟨0x4419, 0x0100, 1, 0, 0, 0⟩, _, sent_text name, ?_, ?_, rfl, rfl,
    rfl, rfl, rfl, rfl⟩
  · have short := name.length_encodeLabels
    simp only [List.length_append, length_wireName, be16Bytes,
      List.length_cons, List.length_nil, sizeofReq]
    omega
  have body : wireName name ++ (be16Bytes typeA ++ be16Bytes classIN) =
      encodeLabels name.labels ++
        0 :: (be16Bytes typeA ++ be16Bytes classIN) := by
    rw [wireName, List.append_assoc]
    rfl
  rw [List.append_assoc, body]
  have question : decodeQuestion (encodeLabels name.labels ++
      0 :: (be16Bytes typeA ++ be16Bytes classIN)) =
        some (⟨name.labels, typeA, classIN⟩, []) := by
    rw [decodeQuestion, decoded]
    rfl
  unfold decodeQuery
  simp only [List.cons_append, List.nil_append, decodeHeader, question]
  rfl

end KernelDrivers.Xconnect
