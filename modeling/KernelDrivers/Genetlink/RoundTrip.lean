import KernelDrivers.Genetlink.Dispatch

/-!
# Round trip

A message of `genlmsg_send` that is given to `genlmsg_dispatch` comes back as
its payload, cut to the caller's capacity.
-/

namespace KernelDrivers.Genetlink

open KernelDrivers.Library

theorem align_spec (length : Nat) :
    align length % 4 = 0 ∧ length ≤ align length ∧ align length < length + 4 := by
  unfold align
  omega

theorem align_of_dvd {length : Nat} (aligned : length % 4 = 0) :
    align length = length := by
  unfold align
  omega

theorem genlmsgSize_eq (payload : Nat) :
    genlmsgSize payload =
      nlmsgHdrlen + genlHdrlen + nlaTotalSize payload := by
  obtain ⟨aligned, -⟩ := align_spec (nlaAttrSize payload)
  unfold genlmsgSize nlmsgSpace nlaTotalSize
  rw [align_of_dvd]
  · omega
  · simp only [nlmsgHdrlen, genlHdrlen]
    omega

theorem nlmsgAlign_of_dvd {length : Nat} (aligned : length % 4 = 0)
    (bound : length < 4294967292) : nlmsgAlign length = length := by
  unfold nlmsgAlign
  rw [wrap32_of_lt (by omega)]
  omega

section Build

variable (request : Request)

theorem build_nlmsgLen
    (bound : genlmsgSize request.nlaData.length < 4294967296) :
    nlmsgLen request.build 0 = genlmsgSize request.nlaData.length := by
  rw [← le32_bytes bound]
  simp [nlmsgLen, u32At, Request.build, Memory.storeList, Memory.store,
    le32Bytes, le16Bytes, nlmsgHdrlen, genlHdrlen, nlaHdrlen]

theorem build_nlmsgType :
    nlmsgType request.build 0 = request.nlmsgType.toNat := by
  rw [← le16_bytes request.nlmsgType.toNat_lt]
  simp [nlmsgType, u16At, Request.build, Memory.storeList, Memory.store,
    le32Bytes, le16Bytes, nlmsgHdrlen, genlHdrlen, nlaHdrlen]

theorem build_nlaLen (short : nlaAttrSize request.nlaData.length < 65536) :
    nlaLen request.build 20 = nlaAttrSize request.nlaData.length := by
  rw [← le16_bytes short]
  simp [nlaLen, u16At, Request.build, Memory.storeList, Memory.store,
    le32Bytes, le16Bytes, nlmsgHdrlen, genlHdrlen, nlaHdrlen]

theorem build_nlaType :
    nlaType request.build 20 = request.nlaType.toNat := by
  rw [← le16_bytes request.nlaType.toNat_lt]
  simp [nlaType, u16At, Request.build, Memory.storeList, Memory.store,
    le32Bytes, le16Bytes, nlmsgHdrlen, genlHdrlen, nlaHdrlen]

theorem build_nlaData {offset : Nat}
    (inside : offset < request.nlaData.length) :
    request.build (24 + offset) = request.nlaData[offset] :=
  Memory.storeList_inside inside

end Build

/-- The bytes that `sendto` is handed. -/
def Request.message (request : Request) : List UInt8 :=
  request.build.bytes 0 (genlmsgSize request.nlaData.length)

theorem length_message (request : Request) :
    request.message.length = genlmsgSize request.nlaData.length :=
  Memory.length_bytes

theorem sendLoop_head (memory : Memory) (len : Nat)
    {outcomes : List SendOutcome} {ret : Int} {handed : List (List UInt8)}
    (sent : sendLoop memory len outcomes 0 = some (ret, handed)) :
    handed.head? = some (memory.bytes 0 len) := by
  cases outcomes with
  | nil => cases sent
  | cons outcome more =>
      cases outcome with
      | failed =>
          cases sent
          rfl
      | _ =>
          rw [sendLoop] at sent
          dsimp only at sent
          split at sent
          · split at sent
            · cases sent
            · cases sent
              rfl
          · cases sent
            rfl

section Dispatch

variable {request : Request} {memory : Memory}

/-- The received bytes are those of the message. -/
def Received (request : Request) (memory : Memory) : Prop :=
  ∀ address < genlmsgSize request.nlaData.length,
    memory address = request.build address

theorem received_of_bytes
    (same : memory.bytes 0 request.message.length = request.message) :
    Received request memory := by
  rw [length_message] at same
  intro address inside
  have equal := Memory.eq_of_bytes same inside
  simpa using equal

theorem Received.u16At (received : Received request memory) {address : Nat}
    (inside : address + 1 < genlmsgSize request.nlaData.length) :
    u16At memory address = Genetlink.u16At request.build address := by
  unfold Genetlink.u16At
  rw [received _ (by omega), received _ inside]

theorem Received.u32At (received : Received request memory) {address : Nat}
    (inside : address + 3 < genlmsgSize request.nlaData.length) :
    u32At memory address = Genetlink.u32At request.build address := by
  unfold Genetlink.u32At
  rw [received _ (by omega), received _ (by omega), received _ (by omega),
    received _ inside]

/-- The payload, cut to the capacity, is copied to the front of the buffer. -/
theorem Received.copyAttribute (received : Received request memory)
    (short : nlaAttrSize request.nlaData.length < 65536) (cap : Nat)
    (buf : Memory) :
    copyAttribute memory 20 { buf, len := cap } =
      { buf := buf.storeList 0
          (request.nlaData.take (min cap request.nlaData.length))
        len := (min cap request.nlaData.length : Nat) } := by
  obtain ⟨-, padded, -⟩ := align_spec (nlaAttrSize request.nlaData.length)
  have size := genlmsgSize_eq request.nlaData.length
  simp only [nlaTotalSize, nlaAttrSize, nlmsgHdrlen, genlHdrlen, nlaHdrlen]
    at size padded short
  have read : nlaLen memory 20 = nlaAttrSize request.nlaData.length := by
    rw [nlaLen, received.u16At (by omega)]
    exact build_nlaLen request short
  have len : (if (cap : Int) > (nlaLen memory 20 : Int) - (nlaHdrlen : Nat) then
      (nlaLen memory 20 : Int) - (nlaHdrlen : Nat) else (cap : Int)) =
        (min cap request.nlaData.length : Nat) := by
    rw [read, nlaAttrSize]
    split <;> omega
  unfold Genetlink.copyAttribute
  simp only [len, Int.toNat_natCast]
  congr 1
  have length : (request.nlaData.take
      (min cap request.nlaData.length)).length =
        min cap request.nlaData.length := by
    rw [List.length_take]
    omega
  rw [Memory.storeList, length]
  apply Memory.store_congr
  intro offset inside
  have within : offset < request.nlaData.length := by omega
  have place : 20 + nlaHdrlen + offset = 24 + offset := by
    simp only [nlaHdrlen]
  rw [place, received _ (by omega), build_nlaData request within]
  simp [List.getD, inside]

/-- The first message holds the attribute, and there is no second one. -/
theorem Received.genlmsgDispatch (received : Received request memory)
    (short : nlaAttrSize request.nlaData.length < 65536)
    (notError : request.nlmsgType.toNat ≠ nlmsgError)
    (notDone : request.nlmsgType.toNat ≠ nlmsgDone) {fuel : Nat}
    (enough : 2 ≤ fuel) (output : Output) :
    genlmsgDispatch fuel memory (genlmsgSize request.nlaData.length)
        request.nlmsgType.toNat request.nlaType.toNat output =
      some (0, Genetlink.copyAttribute memory 20 output) := by
  obtain ⟨aligned, padded, tight⟩ :=
    align_spec (nlaAttrSize request.nlaData.length)
  have size := genlmsgSize_eq request.nlaData.length
  have header : 4 ≤ nlaAttrSize request.nlaData.length :=
    Nat.le_add_right 4 _
  simp only [nlaTotalSize, nlmsgHdrlen, genlHdrlen] at size
  have length : nlmsgLen memory 0 = genlmsgSize request.nlaData.length := by
    rw [nlmsgLen, received.u32At (by omega)]
    exact build_nlmsgLen request (by omega)
  have type : nlmsgType memory 0 = request.nlmsgType.toNat := by
    rw [nlmsgType, received.u16At (by omega)]
    exact build_nlmsgType request
  have attrLength : nlaLen memory 20 = nlaAttrSize request.nlaData.length := by
    rw [nlaLen, received.u16At (by omega)]
    exact build_nlaLen request short
  have attrType : nlaType memory 20 = request.nlaType.toNat := by
    rw [nlaType, received.u16At (by omega)]
    exact build_nlaType request
  have first : nlmsgOk memory 0 (genlmsgSize request.nlaData.length) := by
    rw [nlmsgOk, length]
    omega
  have remaining : toInt32 (sub32 (nlmsgLen memory 0) genlHdrlen) =
      (16 + align (nlaAttrSize request.nlaData.length) : Nat) := by
    have less : genlHdrlen ≤ genlmsgSize request.nlaData.length := by
      simp only [genlHdrlen]
      omega
    rw [length, sub32_of_le less (by omega), toInt32]
    simp only [genlHdrlen]
    rw [if_pos (by omega)]
    omega
  have ok : nlaOk memory 20
      (16 + align (nlaAttrSize request.nlaData.length) : Nat) := by
    rw [nlaOk, attrLength]
    simp only [nlaAttrSize, nlaHdrlen] at padded ⊢
    omega
  have step : nlmsgAlign (nlmsgLen memory 0) =
      genlmsgSize request.nlaData.length := by
    rw [length]
    exact nlmsgAlign_of_dvd (by omega) (by omega)
  obtain ⟨rounds, rfl⟩ := Nat.exists_eq_add_of_le' enough
  have last : ¬nlmsgOk memory (0 + genlmsgSize request.nlaData.length) 0 := by
    intro second
    exact absurd second.1 (by decide)
  have walked : walkAttributes memory request.nlaType.toNat output
      (rounds + 1) (0 + nlmsgHdrlen + genlHdrlen)
        (16 + align (nlaAttrSize request.nlaData.length) : Nat) =
      some (some (Genetlink.copyAttribute memory 20 output)) := by
    have place : 0 + nlmsgHdrlen + genlHdrlen = 20 := rfl
    rw [place, walkAttributes, if_pos ok, attrType, if_pos rfl]
  have empty : sub32 (genlmsgSize request.nlaData.length)
      (genlmsgSize request.nlaData.length) = 0 := by
    rw [sub32_of_le (Nat.le_refl _) (by omega), Nat.sub_self]
  rw [Genetlink.genlmsgDispatch, type, if_neg (fun both => both.2 rfl),
    walkMessages, if_pos first, type, if_neg notDone, if_neg notError]
  simp only [remaining, step]
  rw [walked, empty]
  simp only
  rw [walkMessages, if_neg last]

end Dispatch

/-- Round trip: what `sendto` is handed is dispatched to the first bytes of
the payload, as many as the caller has room for. -/
theorem genlmsgDispatch_genlmsgSend (request : Request)
    (nonempty : request.nlaData ≠ [])
    (short : request.nlaData.length + 4 ≤ 65535)
    (known : request.nlmsgType ≠ 0)
    (notError : request.nlmsgType.toNat ≠ nlmsgError)
    (notDone : request.nlmsgType.toNat ≠ nlmsgDone) :
    ∃ message : List UInt8,
      genlmsgSend request [.sent message.length] =
        some ((message.length : Int), [message]) ∧
      (∀ outcomes ret handed, genlmsgSend request outcomes =
        some (ret, handed) → handed.head? = some message) ∧
      (∀ memory : Memory, memory.bytes 0 message.length = message →
        nlmsgLen memory 0 = message.length ∧
        ∀ fuel ≥ 2, ∀ (cap : Nat) (buf : Memory),
          genlmsgDispatch fuel memory message.length request.nlmsgType.toNat
              request.nlaType.toNat { buf, len := cap } =
            some (0, {
              buf := buf.storeList 0
                (request.nlaData.take (min cap request.nlaData.length))
              len := (min cap request.nlaData.length : Nat) })) ∧
      4 ∣ message.length ∧
      message.length = genlmsgSize request.nlaData.length ∧
      nlmsgHdrlen + genlHdrlen + nlaTotalSize request.nlaData.length ≤
        genlmsgSize request.nlaData.length := by
  have size := genlmsgSize_eq request.nlaData.length
  obtain ⟨aligned, padded, tight⟩ :=
    align_spec (nlaAttrSize request.nlaData.length)
  have attr : nlaAttrSize request.nlaData.length < 65536 := by
    simp only [nlaAttrSize, nlaHdrlen]
    omega
  have sends : ∀ outcomes, genlmsgSend request outcomes =
      sendLoop request.build (genlmsgSize request.nlaData.length) outcomes
        0 := by
    intro outcomes
    rw [genlmsgSend, if_neg]
    rintro (zero | empty)
    · exact known zero
    · exact nonempty (List.length_eq_zero_iff.mp empty)
  refine ⟨request.message, ?_, ?_, ?_, ?_, length_message request, ?_⟩
  · rw [sends, length_message, sendLoop]
    simp only [Nat.zero_add, Nat.lt_irrefl, if_false, Nat.sub_zero]
    rfl
  · intro outcomes ret handed sent
    rw [sends] at sent
    exact sendLoop_head _ _ sent
  · intro memory same
    have received := received_of_bytes same
    rw [length_message]
    constructor
    · rw [nlmsgLen, received.u32At (by
        simp only [nlmsgHdrlen] at size
        omega)]
      exact build_nlmsgLen request (by
        simp only [nlaTotalSize, nlmsgHdrlen, genlHdrlen] at size
        omega)
    · intro fuel enough cap buf
      rw [received.genlmsgDispatch attr notError notDone enough,
        received.copyAttribute attr]
  · rw [length_message, size]
    simp only [nlaTotalSize, nlmsgHdrlen, genlHdrlen]
    omega
  · exact Nat.le_of_eq size.symm

theorem genlmsgDispatch_genlmsgSend_byte :
    ∃ message : List UInt8,
      genlmsgSend ⟨16, 1, 1, 1, 1, [0x41]⟩ [.sent message.length] =
        some ((message.length : Int), [message]) ∧
      ∀ memory : Memory, memory.bytes 0 message.length = message →
        genlmsgDispatch 2 memory message.length 16 1 ⟨fun _ => 0, 8⟩ =
          some (0, ⟨Memory.storeList (fun _ => 0) 0 [0x41], 1⟩) := by
  obtain ⟨message, sent, -, received, -⟩ := genlmsgDispatch_genlmsgSend
    ⟨16, 1, 1, 1, 1, [0x41]⟩ (by decide) (by decide) (by decide) (by decide)
      (by decide)
  refine ⟨message, sent, ?_⟩
  intro memory same
  exact (received memory same).2 2 (Nat.le_refl 2) 8 _

end KernelDrivers.Genetlink
