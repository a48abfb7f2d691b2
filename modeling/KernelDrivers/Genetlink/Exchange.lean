import KernelDrivers.Genetlink.Selection

/-!
# Messages between the module and the programs

What the module builds and reads, and what the programs make of one datagram
that arrives at their socket.
-/

namespace KernelDrivers.Genetlink

open KernelDrivers.Library

abbrev docExmplAMsg : UInt16 := 1
abbrev docExmplCEcho : UInt8 := 1

/-- `"Hello from kernel space!!!"`. -/
abbrev testGenlMsgFromKernel : List UInt8 :=
  [72, 101, 108, 108, 111, 32, 102, 114, 111, 109, 32, 107, 101, 114, 110, 101,
    108, 32, 115, 112, 97, 99, 101, 33, 33, 33]

/-- The text with its NUL, which `nla_put` pads. -/
def textAttribute : Attribute where
  type := docExmplAMsg
  payload := testGenlMsgFromKernel ++ [0]
  padding := [0]
  short := by decide
  padded := by decide

/-- A message of the family with the text. -/
def textMessage (id : UInt16) (pid : UInt32) : Message where
  type := id
  flags := 0
  seq := 0
  pid := pid
  content := .genl docExmplCEcho 1 0 [textAttribute]
  known := by
    intro data control
    cases control

/-- What `test_netlink_send` multicasts. -/
def testNetlinkSend (id : UInt16) : Message :=
  textMessage id 0

/-- What `genl_msg_send_to_user` unicasts, with the text as its data. -/
def genlMsgSendToUser (id : UInt16) (pid : UInt32) : Message :=
  textMessage id pid

/-- The string that is printed, and the message with the `pid` it goes to; the
first attribute is taken, whatever its type. -/
def docExmplEcho (id : UInt16) (skb : Memory) (len : Nat) :
    Option (List UInt8 × UInt32 × Message) :=
  (skb.strlen 24 (len - 24)).map fun length =>
    let pid := UInt32.ofNat (u32At skb 12)
    (skb.bytes 24 length, pid, genlMsgSendToUser id pid)

abbrev genlIdCtrl : UInt16 := 16
abbrev ctrlCmdGetfamily : UInt8 := 3
abbrev ctrlAttrFamilyId : Int := 1
abbrev ctrlAttrFamilyName : UInt16 := 2

/-- `"DOC_EXMPL"`. -/
abbrev familyName : List UInt8 := [68, 79, 67, 95, 69, 88, 77, 80, 76]

/-- `"Hello World from user space!"`. -/
abbrev messageToKernel : List UInt8 :=
  [72, 101, 108, 108, 111, 32, 87, 111, 114, 108, 100, 32, 102, 114, 111, 109,
    32, 117, 115, 101, 114, 32, 115, 112, 97, 99, 101, 33]

/-- `BUF_SIZE`, for whose payload the other buffers are allocated too. -/
abbrev bufSize : Nat := 256

def getfamilyRequest : Request :=
  ⟨genlIdCtrl, 0, ctrlCmdGetfamily, 1, ctrlAttrFamilyName, familyName ++ [0]⟩

/-- The message of `test_netlink_unicast`, for the id that it has got. -/
def echoRequest (id : UInt16) (pid : UInt32) : Request :=
  ⟨id, pid, docExmplCEcho, 1, docExmplAMsg, messageToKernel ++ [0]⟩

/-- One `recvmsg` into a zeroed buffer of `genlmsg_alloc`, which cuts a longer
datagram: the buffer and the number of bytes. -/
def genlmsgRecv (datagram : List UInt8) : Memory × Nat :=
  let data := datagram.take (genlmsgSize bufSize)
  (Memory.storeList (fun _ => 0) 0 data, data.length)

/-- As many rounds as the buffer has bytes are enough. -/
def dispatchReceived (datagram : List UInt8) (wantedType wantedNla : Int)
    (cap : Nat) : Option (Int × Output) :=
  let received := genlmsgRecv datagram
  if received.2 = 0 then none
  else
    genlmsgDispatch (genlmsgSize bufSize + 2) received.1 received.2 wantedType
      wantedNla ⟨fun _ => 0, cap⟩

/-- `genlmsg_get_family_id` from `genlmsg_recv` on; whatever `genlmsg_dispatch`
returns, the id counts if it is not 0. -/
def genlmsgGetFamilyId (datagram : List UInt8) : Option UInt16 :=
  (dispatchReceived datagram 0 ctrlAttrFamilyId 2).bind fun dispatched =>
    let id := UInt16.ofNat (u16At dispatched.2.buf 0)
    if id > 0 then some id else none

/-- The string that is printed for a datagram, if one is. -/
def printed (id : UInt16) (datagram : List UInt8) : Option (List UInt8) :=
  (dispatchReceived datagram id.toNat docExmplAMsg.toNat bufSize).bind
    fun dispatched =>
      if dispatched.1 = 0 then
        (dispatched.2.buf.strlen 0 bufSize).map fun length =>
          dispatched.2.buf.bytes 0 length
      else none

section Datagram

variable {message : Message} {wantedType wantedNla : Int} {cap : Nat}
  {payload : List UInt8}

theorem genlmsgRecv_encode
    (fits : message.size ≤ genlmsgSize bufSize) :
    genlmsgRecv message.encode =
        (Memory.storeList (fun _ => 0) 0 message.encode, message.size) := by
  rw [← message.length_encode] at fits ⊢
  simp only [genlmsgRecv, List.take_of_length_le fits]

/-- An attribute of the type is copied where the message may be looked at. -/
theorem dispatchReceived_found (fits : message.size ≤ genlmsgSize bufSize)
    (goesOn : message.ends = false)
    (wanted : wantedType = 0 ∨ wantedType = message.type.toNat)
    (found : firstPayload wantedNla message.attributes = some payload) :
    dispatchReceived message.encode wantedType wantedNla cap =
      some (0, copyPayload ⟨fun _ => 0, cap⟩ payload) := by
  have header : 16 ≤ message.size := Nat.le_add_right _ _
  have size : genlmsgSize bufSize = 280 := rfl
  have whole : encodeMessages [message] = message.encode := by
    simp [encodeMessages]
  have length := message.length_encode
  have held := @Memory.bytes_storeList (fun _ => 0) 0 message.encode
  generalize received : Memory.storeList (fun _ => 0) 0 message.encode = memory
    at held
  have place : message.At memory 0 :=
    Message.at_of_bytes (by omega) held
  have type := place.type
  have allowed : ¬(wantedType ≠ 0 ∧
      (nlmsgType memory 0 : Int) ≠ wantedType) := by
    rw [type]
    rintro ⟨some, other⟩
    exact wanted.elim some fun same => other same.symm
  rw [← whole] at held length
  have walked := @walkMessages_encode memory wantedNla [message]
    (genlmsgSize bufSize + 2) 0 held (by omega) (by omega) (-1)
    ⟨fun _ => 0, cap⟩
  have finding : findings memory wantedNla 0 [message] = [payload] := by
    simp [findings, goesOn, found]
  rw [length, finding, verdict_none goesOn, List.foldl_cons, List.foldl_nil]
    at walked
  simp only [dispatchReceived, genlmsgRecv_encode fits, received]
  rw [if_neg (by omega), genlmsgDispatch, if_neg allowed]
  exact walked

theorem dispatchReceived_other (fits : message.size ≤ genlmsgSize bufSize)
    (some : wantedType ≠ 0) (other : wantedType ≠ message.type.toNat) :
    dispatchReceived message.encode wantedType wantedNla cap =
      Option.some (-1, ⟨fun _ => 0, cap⟩) := by
  have header : 16 ≤ message.size := Nat.le_add_right _ _
  have size : genlmsgSize bufSize = 280 := rfl
  have held := @Memory.bytes_storeList (fun _ => 0) 0 message.encode
  have place : message.At
      (Memory.storeList (fun _ => 0) 0 message.encode) 0 :=
    Message.at_of_bytes (by omega) held
  simp only [dispatchReceived, genlmsgRecv_encode fits]
  rw [if_neg (by omega), genlmsgDispatch, place.type,
    if_pos ⟨some, fun same => other same.symm⟩]

end Datagram

theorem ne_zero_of_all {string : List UInt8}
    (all : string.all (fun byte => byte != 0) = true) :
    ∀ byte ∈ string, byte ≠ 0 := by
  simpa using all

theorem genlmsgGetFamilyId_reply {reply : Message} {id : UInt16}
    (fits : reply.size ≤ genlmsgSize bufSize) (goesOn : reply.ends = false)
    (found : firstPayload ctrlAttrFamilyId reply.attributes =
      some (le16Bytes id.toNat)) (assigned : 0 < id) :
    genlmsgGetFamilyId reply.encode = some id := by
  have dispatched := @dispatchReceived_found reply 0 ctrlAttrFamilyId 2 _ fits
    goesOn (.inl rfl) found
  have bytes : (copyPayload ⟨fun _ => 0, (2 : Nat)⟩
      (le16Bytes id.toNat)).buf.bytes 0 2 = le16Bytes id.toNat :=
    @copyPayload_bytes ⟨fun _ => 0, (2 : Nat)⟩ 2 rfl _
  have read : u16At (copyPayload ⟨fun _ => 0, (2 : Nat)⟩
      (le16Bytes id.toNat)).buf 0 = id.toNat :=
    u16At_of_bytes id.toNat_lt bytes
  simp only [genlmsgGetFamilyId, dispatched, Option.bind_some, read,
    UInt16.ofNat_toNat, gt_iff_lt, if_pos assigned]

section Text

variable {id : UInt16} {pid : UInt32}

theorem textMessage_fits : (textMessage id pid).size ≤ genlmsgSize bufSize := by
  have size : (textMessage id pid).size = 52 := rfl
  rw [size]
  decide

theorem textMessage_payload :
    firstPayload docExmplAMsg.toNat (textMessage id pid).attributes =
      some (testGenlMsgFromKernel ++ [0]) := rfl

/-- The attribute with the text has the type that is looked for as an id, and
the id comes to the first two letters. -/
theorem genlmsgGetFamilyId_text (goesOn : (textMessage id pid).ends = false) :
    genlmsgGetFamilyId (textMessage id pid).encode = some 0x6548 := by
  have dispatched := @dispatchReceived_found (textMessage id pid) 0
    ctrlAttrFamilyId 2 _ textMessage_fits goesOn (.inl rfl) textMessage_payload
  simp only [genlmsgGetFamilyId, dispatched, Option.bind_some]
  decide

theorem printed_text (goesOn : (textMessage id pid).ends = false) :
    printed id (textMessage id pid).encode = some testGenlMsgFromKernel := by
  have dispatched := @dispatchReceived_found (textMessage id pid) id.toNat
    docExmplAMsg.toNat bufSize _ textMessage_fits goesOn (.inr rfl)
    textMessage_payload
  have copied := @copyPayload_bytes ⟨fun _ => 0, (bufSize : Nat)⟩ bufSize rfl
    (testGenlMsgFromKernel ++ [0])
  have whole : min bufSize (testGenlMsgFromKernel ++ [0]).length =
      (testGenlMsgFromKernel ++ [0]).length := rfl
  rw [whole, List.take_length] at copied
  obtain ⟨text, ended⟩ := Memory.bytes_eq_append copied
  have length := Memory.strlen_of_bytes text (ne_zero_of_all rfl)
    (List.head_eq_of_cons_eq ended) (by decide : _ < bufSize)
  simp only [printed, dispatched, Option.bind_some, if_true, length,
    Option.map_some, text]

end Text

theorem printed_other {id : UInt16} {message : Message}
    (fits : message.size ≤ genlmsgSize bufSize) (some : id ≠ 0)
    (other : id ≠ message.type) : printed id message.encode = none := by
  have nonzero : (id.toNat : Int) ≠ 0 := by
    intro zero
    apply some
    exact UInt16.toNat_inj.mp (by simpa using zero)
  have differ : (id.toNat : Int) ≠ message.type.toNat := by
    intro same
    exact other (UInt16.toNat_inj.mp (by exact_mod_cast same))
  have dispatched := @dispatchReceived_other message id.toNat docExmplAMsg.toNat
    bufSize fits nonzero differ
  simp only [printed, dispatched, Option.bind_some]
  exact if_neg (by decide)

theorem build_nlmsgPid (request : Request) :
    u32At request.build 12 = request.nlmsgPid.toNat := by
  rw [← le32_bytes request.nlmsgPid.toNat_lt]
  simp [u32At, Request.build, Memory.storeList, Memory.store, le32Bytes,
    le16Bytes, nlmsgHdrlen, genlHdrlen, nlaHdrlen]

theorem Received.nlaData {request : Request} {memory : Memory}
    (received : Received request memory) :
    memory.bytes 24 request.nlaData.length = request.nlaData := by
  have size := genlmsgSize_eq request.nlaData.length
  obtain ⟨-, padded, -⟩ := align_spec (nlaAttrSize request.nlaData.length)
  simp only [nlaTotalSize, nlaAttrSize, nlmsgHdrlen, genlHdrlen, nlaHdrlen]
    at size padded
  apply List.ext_getElem (by simp)
  intro offset inBytes inData
  simp only [Memory.bytes, List.getElem_map, List.getElem_range]
  rw [received _ (by omega), build_nlaData request inData]

/-- The module reads the text and the `pid` of the program's message. -/
theorem docExmplEcho_request {id : UInt16} {pid : UInt32} {skb : Memory}
    (received : Received (echoRequest id pid) skb) (answered : UInt16) :
    docExmplEcho answered skb (echoRequest id pid).message.length =
      some (messageToKernel, pid, genlMsgSendToUser answered pid) := by
  have payload : (echoRequest id pid).nlaData.length = 29 := rfl
  have size : genlmsgSize (echoRequest id pid).nlaData.length = 56 := by
    rw [payload]
    decide
  have data : skb.bytes 24 (messageToKernel ++ [0]).length =
      messageToKernel ++ [0] := received.nlaData
  obtain ⟨text, ended⟩ := Memory.bytes_eq_append data
  have length := Memory.strlen_of_bytes text (ne_zero_of_all rfl)
    (List.head_eq_of_cons_eq ended) (by decide : _ < 56 - 24)
  have sender : u32At skb 12 = pid.toNat := by
    rw [received.u32At (by rw [size]; decide), build_nlmsgPid]
    rfl
  rw [docExmplEcho, length_message, size, length, Option.map_some, sender, text,
    UInt32.ofNat_toNat]

end KernelDrivers.Genetlink
