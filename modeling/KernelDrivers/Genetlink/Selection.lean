import KernelDrivers.Genetlink.RoundTrip

/-!
# Which attribute is selected

`genlmsg_dispatch` on a buffer of well-formed messages.  It asks for the type of
the first message only, and it looks 16 bytes too far for attributes.
-/

namespace KernelDrivers.Genetlink

open KernelDrivers.Library

structure Attribute where
  type : UInt16
  payload : List UInt8
  padding : List UInt8
  short : nlaHdrlen + payload.length < 65536
  padded : nlaHdrlen + payload.length + padding.length =
    align (nlaHdrlen + payload.length)

def Attribute.encode (attr : Attribute) : List UInt8 :=
  le16Bytes (nlaHdrlen + attr.payload.length) ++
    (le16Bytes attr.type.toNat ++ (attr.payload ++ attr.padding))

def encodeAttributes (attributes : List Attribute) : List UInt8 :=
  attributes.flatMap Attribute.encode

/-- What follows the netlink header: the generic header and attributes, or the
data of a control message. -/
inductive Content where
  | genl (cmd version : UInt8) (reserved : UInt16)
      (attributes : List Attribute)
  | control (data : List UInt8)

def Content.encode : Content → List UInt8
  | .genl cmd version reserved attributes =>
      [cmd, version] ++ le16Bytes reserved.toNat ++ encodeAttributes attributes
  | .control data => data

/-- A message; `NLMSG_DONE` and `NLMSG_ERROR` may carry other data. -/
structure Message where
  type : UInt16
  flags : UInt16
  seq : UInt32
  pid : UInt32
  content : Content
  known : ∀ data, content = .control data →
    (type.toNat = nlmsgDone ∨ type.toNat = nlmsgError) ∧ data.length % 4 = 0

def Message.size (message : Message) : Nat :=
  nlmsgHdrlen + message.content.encode.length

def Message.encode (message : Message) : List UInt8 :=
  le32Bytes message.size ++
    (le16Bytes message.type.toNat ++
      (le16Bytes message.flags.toNat ++
        (le32Bytes message.seq.toNat ++
          (le32Bytes message.pid.toNat ++ message.content.encode))))

def encodeMessages (messages : List Message) : List UInt8 :=
  messages.flatMap Message.encode

def Message.attributes (message : Message) : List Attribute :=
  match message.content with
  | .genl _ _ _ attributes => attributes
  | .control _ => []

/-- The payload of the first attribute of the type. -/
def firstPayload (wanted : Int) (attributes : List Attribute) :
    Option (List UInt8) :=
  (attributes.find? fun attr => decide (wanted = attr.type.toNat)).map
    Attribute.payload

/-- The messages before the first `NLMSG_DONE`. -/
def beforeDone (messages : List Message) : List Message :=
  messages.takeWhile fun message => decide (message.type.toNat ≠ nlmsgDone)

def HasError (messages : List Message) : Prop :=
  ∃ message ∈ beforeDone messages, message.type.toNat = nlmsgError

/-- The first payload of each message of the type; 0 stands for any type. -/
def candidates (wantedType wantedNla : Int) (messages : List Message) :
    List (List UInt8) :=
  (beforeDone messages).filterMap fun message =>
    if wantedType = 0 ∨ (message.type.toNat : Int) = wantedType then
      firstPayload wantedNla message.attributes
    else none

/-- An error is reported, and otherwise a candidate, cut to the capacity,
exactly if there is one. -/
structure Selected (messages : List Message) (wantedType wantedNla : Int)
    (cap : Nat) (ret : Int) (out : Output) : Prop where
  error : HasError messages → ret = -1
  success : ¬HasError messages →
    (ret = 0 ↔ candidates wantedType wantedNla messages ≠ [])
  payload : ret = 0 → ∃ payload ∈ candidates wantedType wantedNla messages,
    out.len = (min cap payload.length : Nat) ∧
      out.buf.bytes 0 (min cap payload.length) = payload.take cap

def SelectsExactly (memory : Memory) (messages : List Message)
    (wantedType wantedNla : Int) (cap : Nat) (buf : Memory) : Prop :=
  ∃ rounds ret out,
    (∀ fuel ≥ rounds, genlmsgDispatch fuel memory
      (encodeMessages messages).length wantedType wantedNla { buf, len := cap } =
        some (ret, out)) ∧
    Selected messages wantedType wantedNla cap ret out

/-- The first attribute of the type in an area of bytes. -/
def searchAttributes (memory : Memory) (wanted : Int) :
    Nat → Nat → Int → Option (List UInt8)
  | 0, _, _ => none
  | fuel + 1, nla, remaining =>
      if nlaOk memory nla remaining then
        if wanted = nlaType memory nla then
          some (memory.bytes (nla + nlaHdrlen) (nlaLen memory nla - nlaHdrlen))
        else
          searchAttributes memory wanted fuel (nla + align (nlaLen memory nla))
            (remaining - align (nlaLen memory nla))
      else none

/-- What the 16 bytes behind a message hold when they are taken for
attributes. -/
def strayPayload (memory : Memory) (wanted : Int) (nlh : Nat) :
    Option (List UInt8) :=
  searchAttributes memory wanted 5 nlh 16

/-- `NLMSG_DONE` or `NLMSG_ERROR`. -/
def Message.ends (message : Message) : Bool :=
  decide (message.type.toNat = nlmsgDone) ||
    decide (message.type.toNat = nlmsgError)

/-- What is found in each message, from an address on, of whatever type up to
the one that ends the walk. -/
def findings (memory : Memory) (wanted : Int) (nlh : Nat) :
    List Message → List (List UInt8)
  | [] => []
  | message :: messages =>
      if message.ends then []
      else
        ((firstPayload wanted message.attributes).or
            (strayPayload memory wanted (nlh + message.size))).toList ++
          findings memory wanted (nlh + message.size) messages

/-- The first message has another type and nothing is asked of it; or, with no
candidate, there is no `NLMSG_DONE` and nothing is found; or a candidate is as
the last finding, as far as the capacity and the shortest one go. -/
def SelectionCondition (memory : Memory) (messages : List Message)
    (wantedType wantedNla : Int) (cap : Nat) : Prop :=
  HasError messages ∨
    if wantedType ≠ 0 ∧ (nlmsgType memory 0 : Int) ≠ wantedType then
      candidates wantedType wantedNla messages = []
    else if candidates wantedType wantedNla messages = [] then
      (∀ message ∈ messages, message.type.toNat ≠ nlmsgDone) ∧
        findings memory wantedNla 0 messages = []
    else
      ∃ payload ∈ candidates wantedType wantedNla messages,
        (∀ found ∈ findings memory wantedNla 0 messages,
          min cap payload.length ≤ found.length) ∧
        ∀ last, (findings memory wantedNla 0 messages).getLast? = some last →
          last.take (min cap payload.length) = payload.take cap

section Fields

variable {memory : Memory} {place value : Nat}

theorem u16At_of_bytes (bound : value < 65536)
    (held : memory.bytes place 2 = le16Bytes value) :
    u16At memory place = value := by
  have first : memory place = .ofNat value :=
    Memory.eq_getD_of_bytes held (Nat.succ_pos 1)
  have second : memory (place + 1) = .ofNat (value / 256) :=
    Memory.eq_getD_of_bytes held (Nat.lt_succ_self 1)
  rw [u16At, first, second]
  exact le16_bytes bound

theorem u32At_of_bytes (bound : value < 4294967296)
    (held : memory.bytes place 4 = le32Bytes value) :
    u32At memory place = value := by
  have byte := fun offset (inside : offset < 4) =>
    Memory.eq_getD_of_bytes held inside
  have first : memory place = .ofNat value := byte 0 (by decide)
  have second : memory (place + 1) = .ofNat (value / 256) := byte 1 (by decide)
  have third : memory (place + 2) = .ofNat (value / 65536) := byte 2 (by decide)
  have fourth : memory (place + 3) = .ofNat (value / 16777216) :=
    byte 3 (by decide)
  rw [u32At, first, second, third, fourth]
  exact le32_bytes bound

end Fields

section Attributes

variable {memory : Memory} {wanted : Int}

theorem Attribute.length_encode (attr : Attribute) :
    attr.encode.length = align (nlaHdrlen + attr.payload.length) := by
  have padded := attr.padded
  simp only [Attribute.encode, le16Bytes, List.length_append,
    List.length_cons, List.length_nil, nlaHdrlen] at padded ⊢
  omega

theorem encodeAttributes_cons (attr : Attribute) (attributes : List Attribute) :
    encodeAttributes (attr :: attributes) =
      attr.encode ++ encodeAttributes attributes :=
  List.flatMap_cons

/-- An attribute in memory. -/
structure Attribute.At (memory : Memory) (attr : Attribute) (nla : Nat) :
    Prop where
  len : nlaLen memory nla = nlaHdrlen + attr.payload.length
  type : nlaType memory nla = attr.type.toNat
  payload : memory.bytes (nla + nlaHdrlen) attr.payload.length = attr.payload

theorem Attribute.at_of_bytes {attr : Attribute} {nla : Nat}
    (held : memory.bytes nla attr.encode.length = attr.encode) :
    attr.At memory nla := by
  obtain ⟨len, rest⟩ := Memory.bytes_eq_append held
  obtain ⟨type, rest⟩ := Memory.bytes_eq_append rest
  obtain ⟨payload, -⟩ := Memory.bytes_eq_append rest
  exact ⟨u16At_of_bytes attr.short len,
    u16At_of_bytes attr.type.toNat_lt type, payload⟩

/-- A search has no use for more rounds than there are headers. -/
theorem searchAttributes_enough {fuel more nla : Nat} {remaining : Int}
    (enough : remaining < 4 * fuel) (plenty : remaining < 4 * more) :
    searchAttributes memory wanted fuel nla remaining =
      searchAttributes memory wanted more nla remaining := by
  induction fuel generalizing more nla remaining with
  | zero =>
      cases more with
      | zero => rfl
      | succ more =>
          have finished : ¬nlaOk memory nla remaining := by
            rintro ⟨room, -⟩
            omega
          rw [searchAttributes, searchAttributes, if_neg finished]
  | succ fuel induction =>
      by_cases ok : nlaOk memory nla remaining
      · obtain ⟨more, rfl⟩ : ∃ fewer, more = fewer + 1 := by
          apply Nat.exists_eq_succ_of_ne_zero
          have room := ok.1
          omega
        have header := ok.2.1
        obtain ⟨-, padded, -⟩ := align_spec (nlaLen memory nla)
        rw [searchAttributes, searchAttributes, if_pos ok, if_pos ok]
        split
        · rfl
        · exact induction (by omega) (by omega)
      · cases more with
        | zero => rw [searchAttributes, searchAttributes, if_neg ok]
        | succ more =>
            rw [searchAttributes, searchAttributes, if_neg ok, if_neg ok]

/-- The attributes of a message are searched first, and then what lies behind
them. -/
theorem searchAttributes_encode {attributes : List Attribute} {fuel nla : Nat}
    {rest : Nat}
    (held : memory.bytes nla (encodeAttributes attributes).length =
      encodeAttributes attributes)
    (enough : (encodeAttributes attributes).length + rest < 4 * fuel) :
    searchAttributes memory wanted fuel nla
        ((encodeAttributes attributes).length + rest : Nat) =
      (firstPayload wanted attributes).or
        (searchAttributes memory wanted fuel
          (nla + (encodeAttributes attributes).length) rest) := by
  induction attributes generalizing fuel nla with
  | nil => simp [encodeAttributes, firstPayload]
  | cons attr attributes induction =>
      rw [encodeAttributes_cons] at held enough ⊢
      obtain ⟨here, behind⟩ := Memory.bytes_eq_append held
      have place := attr.at_of_bytes here
      obtain ⟨fuel, rfl⟩ : ∃ fewer, fuel = fewer + 1 := by
        apply Nat.exists_eq_succ_of_ne_zero
        omega
      obtain ⟨-, padded, -⟩ := align_spec (nlaHdrlen + attr.payload.length)
      have size : nlaHdrlen = 4 := rfl
      rw [List.length_append, attr.length_encode] at enough ⊢
      rw [attr.length_encode] at behind
      have ok : nlaOk memory nla (align (nlaHdrlen + attr.payload.length) +
          (encodeAttributes attributes).length + rest : Nat) := by
        rw [nlaOk, place.len]
        omega
      rw [searchAttributes, if_pos ok, place.len, place.type]
      by_cases found : wanted = attr.type.toNat
      · rw [if_pos found, Nat.add_sub_cancel_left, place.payload]
        simp [firstPayload, found]
      · rw [if_neg found]
        have later := @induction fuel _ behind (by omega)
        have fewer := @searchAttributes_enough memory wanted (fuel + 1) fuel
          (nla + (align (nlaHdrlen + attr.payload.length) +
            (encodeAttributes attributes).length)) rest (by omega) (by omega)
        have passed : ((align (nlaHdrlen + attr.payload.length) +
            (encodeAttributes attributes).length + rest : Nat) : Int) -
              (align (nlaHdrlen + attr.payload.length) : Nat) =
            ((encodeAttributes attributes).length + rest : Nat) := by
          omega
        rw [passed, later, fewer, Nat.add_assoc]
        simp [firstPayload, found]

/-- What is done with a payload that is found. -/
def copyPayload (output : Output) (payload : List UInt8) : Output :=
  let len : Int :=
    if output.len > payload.length then payload.length else output.len
  { buf := output.buf.storeList 0 (payload.take len.toNat), len }

theorem copyAttribute_eq (output : Output) {nla : Nat}
    (header : 4 ≤ nlaLen memory nla) :
    copyAttribute memory nla output =
      copyPayload output
        (memory.bytes (nla + nlaHdrlen) (nlaLen memory nla - nlaHdrlen)) := by
  have size : ((nlaLen memory nla : Int) - (nlaHdrlen : Nat)) =
      (nlaLen memory nla - nlaHdrlen : Nat) := by
    simp only [nlaHdrlen]
    omega
  unfold copyAttribute copyPayload
  dsimp only
  rw [Memory.length_bytes, size]
  generalize shape : (if output.len >
      ((nlaLen memory nla - nlaHdrlen : Nat) : Int) then
        ((nlaLen memory nla - nlaHdrlen : Nat) : Int) else output.len) = len
  have less : len.toNat ≤ nlaLen memory nla - nlaHdrlen := by
    rw [← shape]
    split <;> omega
  rw [Memory.take_bytes less, Memory.storeList, Memory.length_bytes]
  congr 1
  apply Memory.store_congr
  intro offset inside
  simp [Memory.bytes, List.getD, inside]

theorem walkAttributes_eq (output : Output) {rounds nla : Nat}
    {remaining : Int} (enough : remaining < 4 * rounds) :
    walkAttributes memory wanted output (rounds + 1) nla remaining =
      some ((searchAttributes memory wanted (rounds + 1) nla remaining).map
        (copyPayload output)) := by
  induction rounds generalizing nla remaining with
  | zero =>
      have finished : ¬nlaOk memory nla remaining := by
        rintro ⟨room, -⟩
        omega
      rw [walkAttributes, searchAttributes, if_neg finished, if_neg finished]
      rfl
  | succ rounds induction =>
      rw [walkAttributes, searchAttributes]
      by_cases ok : nlaOk memory nla remaining
      · have header := ok.2.1
        obtain ⟨-, padded, -⟩ := align_spec (nlaLen memory nla)
        rw [if_pos ok, if_pos ok]
        split
        · rw [copyAttribute_eq output header, Option.map_some]
        · exact induction (by omega)
      · rw [if_neg ok, if_neg ok, Option.map_none]

end Attributes

section Messages

variable {memory : Memory} {wanted : Int}

theorem encodeMessages_cons (message : Message) (messages : List Message) :
    encodeMessages (message :: messages) =
      message.encode ++ encodeMessages messages :=
  List.flatMap_cons

theorem Message.length_encode (message : Message) :
    message.encode.length = message.size := by
  simp only [Message.encode, le32Bytes, le16Bytes, List.length_append,
    List.length_cons, List.length_nil, Message.size, nlmsgHdrlen]
  omega

theorem encodeAttributes_aligned (attributes : List Attribute) :
    (encodeAttributes attributes).length % 4 = 0 := by
  induction attributes with
  | nil => rfl
  | cons attr attributes induction =>
      obtain ⟨aligned, -⟩ := align_spec (nlaHdrlen + attr.payload.length)
      rw [encodeAttributes_cons, List.length_append, attr.length_encode]
      omega

theorem Message.size_aligned (message : Message) : message.size % 4 = 0 := by
  have known := message.known
  unfold Message.size
  cases content : message.content with
  | genl cmd version reserved attributes =>
      have aligned := encodeAttributes_aligned attributes
      simp only [Content.encode, le16Bytes, List.length_append,
        List.length_cons, List.length_nil, nlmsgHdrlen]
      omega
  | control data =>
      obtain ⟨-, aligned⟩ := known data content
      simp only [Content.encode, nlmsgHdrlen]
      omega

/-- A message in memory. -/
structure Message.At (memory : Memory) (message : Message) (nlh : Nat) :
    Prop where
  len : nlmsgLen memory nlh = message.size
  type : nlmsgType memory nlh = message.type.toNat
  content : memory.bytes (nlh + nlmsgHdrlen) message.content.encode.length =
    message.content.encode

theorem Message.at_of_bytes {message : Message} {nlh : Nat}
    (small : message.size < 4294967296)
    (held : memory.bytes nlh message.encode.length = message.encode) :
    message.At memory nlh := by
  obtain ⟨len, rest⟩ := Memory.bytes_eq_append held
  obtain ⟨type, rest⟩ := Memory.bytes_eq_append rest
  obtain ⟨-, rest⟩ := Memory.bytes_eq_append rest
  obtain ⟨-, rest⟩ := Memory.bytes_eq_append rest
  obtain ⟨-, content⟩ := Memory.bytes_eq_append rest
  exact ⟨u32At_of_bytes small len,
    u16At_of_bytes message.type.toNat_lt type, content⟩

/-- The attributes of a message that does not end the walk, and the 16 bytes
behind it, are searched. -/
theorem Message.At.walkAttributes {message : Message} {nlh : Nat}
    (place : message.At memory nlh) (goesOn : message.ends = false)
    (wanted : Int) (output : Output) {fuel : Nat}
    (enough : message.size < 4 * fuel) :
    walkAttributes memory wanted output fuel (nlh + nlmsgHdrlen + genlHdrlen)
        (message.size - genlHdrlen : Nat) =
      some (((firstPayload wanted message.attributes).or
        (strayPayload memory wanted (nlh + message.size))).map
          (copyPayload output)) := by
  have held := place.content
  cases shape : message.content with
  | control data =>
      obtain ⟨ended, -⟩ := message.known data shape
      simp only [Message.ends, Bool.or_eq_false_iff,
        decide_eq_false_iff_not] at goesOn
      exact absurd ended (by simp [goesOn.1, goesOn.2])
  | genl cmd version reserved attributes =>
      rw [shape, Content.encode] at held
      obtain ⟨-, attributesHeld⟩ := Memory.bytes_eq_append held
      have size : message.size =
          (encodeAttributes attributes).length + 16 + genlHdrlen := by
        simp only [Message.size, shape, Content.encode, le16Bytes,
          List.length_append, List.length_cons, List.length_nil, nlmsgHdrlen,
          genlHdrlen]
        omega
      have inner : message.attributes = attributes := by
        rw [Message.attributes, shape]
      simp only [genlHdrlen] at size
      obtain ⟨rounds, rfl⟩ : ∃ rounds, fuel = rounds + 1 := by
        apply Nat.exists_eq_succ_of_ne_zero
        omega
      have searched := @searchAttributes_encode memory wanted attributes
        (rounds + 1) _ 16 attributesHeld (by omega)
      have stray := @searchAttributes_enough memory wanted (rounds + 1) 5
        (nlh + message.size) 16 (by omega) (by decide)
      have room : ((message.size - genlHdrlen : Nat) : Int) =
          ((encodeAttributes attributes).length + 16 : Nat) := by
        simp only [genlHdrlen]
        omega
      have behind : nlh + nlmsgHdrlen + genlHdrlen +
          (encodeAttributes attributes).length = nlh + message.size := by
        simp only [nlmsgHdrlen, genlHdrlen]
        omega
      rw [room, walkAttributes_eq output (by omega), inner, strayPayload,
        ← stray, ← behind]
      exact congrArg (fun found => some (found.map (copyPayload output)))
        searched

/-- What `ret` is when the walk ends. -/
def verdict (ret : Int) (messages : List Message)
    (found : List (List UInt8)) : Int :=
  match messages.find? Message.ends with
  | some message => if message.type.toNat = nlmsgDone then 0 else -1
  | none => if found = [] then ret else 0

theorem verdict_ended {message : Message} (ends : message.ends = true)
    (ret : Int) (messages : List Message) (found : List (List UInt8)) :
    verdict ret (message :: messages) found =
      if message.type.toNat = nlmsgDone then 0 else -1 := by
  rw [verdict, List.find?_cons_of_pos ends]

theorem verdict_none {message : Message} (goesOn : message.ends = false)
    (ret : Int) (messages : List Message) (found : List (List UInt8)) :
    verdict ret (message :: messages) found = verdict ret messages found := by
  rw [verdict, verdict, List.find?_cons_of_neg (by simp [goesOn])]

theorem verdict_found (ret : Int) (messages : List Message)
    (payload : List UInt8) (found : List (List UInt8)) :
    verdict ret messages (payload :: found) = verdict 0 messages found := by
  unfold verdict
  split
  · rfl
  · rw [if_neg (List.cons_ne_nil _ _), ite_self]

theorem Message.At.remaining {message : Message} {nlh : Nat}
    (place : message.At memory nlh) (small : message.size < 2147483648) :
    toInt32 (sub32 (nlmsgLen memory nlh) genlHdrlen) =
      (message.size - genlHdrlen : Nat) := by
  have header : genlHdrlen ≤ message.size := by
    simp only [Message.size, nlmsgHdrlen, genlHdrlen]
    omega
  rw [place.len, sub32_of_le header (by omega), toInt32, if_pos (by omega)]

/-- Every finding is copied, and the last message that is looked at decides. -/
theorem walkMessages_encode {messages : List Message} {fuel nlh : Nat}
    (held : memory.bytes nlh (encodeMessages messages).length =
      encodeMessages messages)
    (small : (encodeMessages messages).length < 2147483648)
    (enough : (encodeMessages messages).length + 4 < 4 * fuel) (ret : Int)
    (output : Output) :
    walkMessages memory wanted fuel nlh (encodeMessages messages).length ret
        output =
      some (verdict ret messages (findings memory wanted nlh messages),
        (findings memory wanted nlh messages).foldl copyPayload output) := by
  obtain ⟨fuel, rfl⟩ : ∃ fewer, fuel = fewer + 1 := by
    apply Nat.exists_eq_succ_of_ne_zero
    omega
  induction messages generalizing fuel nlh ret output with
  | nil =>
      have finished : ¬nlmsgOk memory nlh 0 := by
        rintro ⟨room, -⟩
        omega
      exact if_neg finished
  | cons message messages induction =>
      rw [encodeMessages_cons] at held small enough ⊢
      obtain ⟨here, behind⟩ := Memory.bytes_eq_append held
      rw [List.length_append, message.length_encode] at small enough ⊢
      rw [message.length_encode] at behind
      have place := Message.at_of_bytes (by omega) here
      have header : 16 ≤ message.size := Nat.le_add_right _ _
      have ok : nlmsgOk memory nlh
          (message.size + (encodeMessages messages).length) := by
        rw [nlmsgOk, place.len]
        omega
      rw [walkMessages, if_pos ok, place.type, findings]
      cases ends : message.ends with
      | true =>
          rw [verdict_ended ends, if_pos rfl, List.foldl_nil]
          split
          · rfl
          · rename_i notDone
            have error : message.type.toNat = nlmsgError := by
              simpa [Message.ends, notDone] using ends
            rw [if_pos error]
      | false =>
          have other : message.type.toNat ≠ nlmsgDone ∧
              message.type.toNat ≠ nlmsgError := by
            simpa [Message.ends] using ends
          have covered : message.size < 4 * fuel := by omega
          have walked := place.walkAttributes ends wanted output covered
          have step : nlmsgAlign (nlmsgLen memory nlh) = message.size := by
            rw [place.len]
            exact nlmsgAlign_of_dvd message.size_aligned (by omega)
          have left : sub32 (message.size + (encodeMessages messages).length)
              message.size = (encodeMessages messages).length := by
            rw [sub32_of_le (Nat.le_add_right _ _) (by omega),
              Nat.add_sub_cancel_left]
          obtain ⟨fewer, rfl⟩ : ∃ fewer, fuel = fewer + 1 := by
            apply Nat.exists_eq_succ_of_ne_zero
            omega
          have later := fun ret output => @induction (nlh + message.size) behind
            (by omega) ret output fewer (by omega)
          rw [if_neg other.1, if_neg other.2]
          simp only [place.remaining (by omega), step, left]
          rw [walked, if_neg Bool.false_ne_true]
          cases (firstPayload wanted message.attributes).or
              (strayPayload memory wanted (nlh + message.size)) with
          | none =>
              simp only [Option.map_none, Option.toList_none, List.nil_append]
              rw [verdict_none ends]
              exact later ret output
          | some payload =>
              simp only [Option.map_some, Option.toList_some,
                List.singleton_append, List.foldl_cons]
              rw [verdict_none ends, verdict_found]
              exact later 0 (copyPayload output payload)

end Messages

section Verdict

variable {message : Message} {messages : List Message}

theorem beforeDone_done (done : message.type.toNat = nlmsgDone) :
    beforeDone (message :: messages) = [] :=
  List.takeWhile_cons_of_neg (by simp [done])

theorem beforeDone_other (other : message.type.toNat ≠ nlmsgDone) :
    beforeDone (message :: messages) = message :: beforeDone messages :=
  List.takeWhile_cons_of_pos (by simp [other])

theorem hasError_cons :
    HasError (message :: messages) ↔ message.type.toNat ≠ nlmsgDone ∧
      (message.type.toNat = nlmsgError ∨ HasError messages) := by
  unfold HasError
  by_cases done : message.type.toNat = nlmsgDone
  · rw [beforeDone_done done]
    simp [done]
  · rw [beforeDone_other done]
    simp [done]

theorem Message.goesOn (notDone : message.type.toNat ≠ nlmsgDone)
    (notError : message.type.toNat ≠ nlmsgError) : message.ends = false := by
  simp [Message.ends, notDone, notError]

theorem verdict_error (error : HasError messages) (ret : Int)
    (found : List (List UInt8)) : verdict ret messages found = -1 := by
  induction messages with
  | nil =>
      obtain ⟨message, member, -⟩ := error
      cases member
  | cons message messages induction =>
      obtain ⟨notDone, here | later⟩ := hasError_cons.mp error
      · rw [verdict_ended (by simp [Message.ends, here]), if_neg notDone]
      · by_cases here : message.type.toNat = nlmsgError
        · rw [verdict_ended (by simp [Message.ends, here]), if_neg notDone]
        · rw [verdict_none (Message.goesOn notDone here)]
          exact induction later

/-- Without an error, a `NLMSG_DONE` or any finding is a success. -/
theorem verdict_quiet (quiet : ¬HasError messages)
    (found : List (List UInt8)) :
    verdict (-1) messages found = 0 ↔
      ¬((∀ message ∈ messages, message.type.toNat ≠ nlmsgDone) ∧
        found = []) := by
  induction messages with
  | nil =>
      simp only [verdict, List.find?_nil]
      by_cases none : found = [] <;> simp [none]
  | cons message messages induction =>
      rw [List.forall_mem_cons]
      by_cases done : message.type.toNat = nlmsgDone
      · rw [verdict_ended (by simp [Message.ends, done]), if_pos done]
        exact iff_of_true rfl (fun both => both.1.1 done)
      · have notError : message.type.toNat ≠ nlmsgError :=
          fun error => quiet (hasError_cons.mpr ⟨done, .inl error⟩)
        have later : ¬HasError messages :=
          fun error => quiet (hasError_cons.mpr ⟨done, .inr error⟩)
        rw [verdict_none (Message.goesOn done notError), induction later]
        simp only [ne_eq, done, not_false_eq_true, true_and]

theorem candidates_found (memory : Memory) (nlh : Nat)
    {wantedType wantedNla : Int} (quiet : ¬HasError messages)
    {payload : List UInt8}
    (candidate : payload ∈ candidates wantedType wantedNla messages) :
    payload ∈ findings memory wantedNla nlh messages := by
  induction messages generalizing nlh with
  | nil => cases candidate
  | cons message messages induction =>
      by_cases done : message.type.toNat = nlmsgDone
      · rw [candidates, beforeDone_done done] at candidate
        cases candidate
      · have notError : message.type.toNat ≠ nlmsgError :=
          fun error => quiet (hasError_cons.mpr ⟨done, .inl error⟩)
        have later : ¬HasError messages :=
          fun error => quiet (hasError_cons.mpr ⟨done, .inr error⟩)
        rw [findings, Message.goesOn done notError,
          if_neg Bool.false_ne_true, List.mem_append]
        rw [candidates, beforeDone_other done, List.mem_filterMap] at candidate
        obtain ⟨holder, member, holds⟩ := candidate
        rcases List.mem_cons.mp member with rfl | behind
        · refine .inl ?_
          split at holds
          · rw [holds]
            simp
          · cases holds
        · refine .inr (induction _ later ?_)
          exact List.mem_filterMap.mpr ⟨holder, behind, holds⟩

end Verdict

section Copies

variable {output : Output} {cap : Nat}

theorem copyPayload_len (room : output.len = cap) (payload : List UInt8) :
    (copyPayload output payload).len = (min cap payload.length : Nat) := by
  simp only [copyPayload, room]
  split <;> omega

theorem copyPayload_bytes (room : output.len = cap) (payload : List UInt8) :
    (copyPayload output payload).buf.bytes 0 (min cap payload.length) =
      payload.take (min cap payload.length) := by
  have len := copyPayload_len room payload
  have stored := @Memory.bytes_storeList output.buf 0
    (payload.take (min cap payload.length))
  rw [List.length_take, Nat.min_eq_left (Nat.min_le_right _ _)] at stored
  have shape : (copyPayload output payload).buf =
      output.buf.storeList 0 (payload.take (min cap payload.length)) := by
    have count : (copyPayload output payload).len.toNat =
        min cap payload.length := by
      rw [len, Int.toNat_natCast]
    rw [← count]
    rfl
  rw [shape]
  exact stored

/-- After all copies the length is the greatest that the capacity and every
payload allow, and the last payload is in front. -/
theorem foldl_copyPayload (room : output.len = cap)
    (found : List (List UInt8)) :
    ∃ count : Nat, (found.foldl copyPayload output).len = count ∧
      count ≤ cap ∧ (∀ payload ∈ found, count ≤ payload.length) ∧
      (∀ other ≤ cap, (∀ payload ∈ found, other ≤ payload.length) →
        other ≤ count) ∧
      ∀ last, found.getLast? = some last →
        (found.foldl copyPayload output).buf.bytes 0 count =
          last.take count := by
  induction found generalizing output cap with
  | nil =>
      refine ⟨cap, room, Nat.le_refl _, ?_, fun other small _ => small, ?_⟩
      · intro payload member
        cases member
      · intro last none
        cases none
  | cons payload found induction =>
      obtain ⟨count, len, within, covered, greatest, front⟩ :=
        induction (copyPayload_len room payload)
      refine ⟨count, len, by omega, ?_, ?_, ?_⟩
      · rw [List.forall_mem_cons]
        exact ⟨by omega, covered⟩
      · intro other small all
        rw [List.forall_mem_cons] at all
        exact greatest other (by omega) all.2
      · intro last ended
        cases found with
        | nil =>
            cases ended
            have whole := greatest (min cap payload.length) (Nat.le_refl _)
              (fun _ none => by cases none)
            have exact : count = min cap payload.length := by omega
            rw [exact]
            exact copyPayload_bytes room payload
        | cons next found =>
            rw [List.getLast?_cons_cons] at ended
            exact front last ended

end Copies

section Selection

variable {memory : Memory} {messages : List Message}
variable {wantedType wantedNla : Int} {cap : Nat} {buf : Memory}

theorem selectsExactly_of_dispatch {rounds : Nat} {ret : Int} {out : Output}
    (dispatched : ∀ fuel ≥ rounds, genlmsgDispatch fuel memory
      (encodeMessages messages).length wantedType wantedNla { buf, len := cap } =
        some (ret, out)) :
    SelectsExactly memory messages wantedType wantedNla cap buf ↔
      Selected messages wantedType wantedNla cap ret out := by
  constructor
  · rintro ⟨rounds', ret', out', dispatched', selected⟩
    have first := dispatched (max rounds rounds') (Nat.le_max_left _ _)
    have second := dispatched' (max rounds rounds') (Nat.le_max_right _ _)
    rw [first] at second
    cases second
    exact selected
  · intro selected
    exact ⟨rounds, ret, out, dispatched, selected⟩

theorem selected_failure (out : Output) :
    Selected messages wantedType wantedNla cap (-1) out ↔
      HasError messages ∨ candidates wantedType wantedNla messages = [] := by
  have negative : ¬(-1 : Int) = 0 := by decide
  constructor
  · intro selected
    by_cases error : HasError messages
    · exact .inl error
    · refine .inr ?_
      by_contra some
      exact negative ((selected.success error).mpr some)
  · intro either
    refine ⟨fun _ => rfl, fun quiet => iff_of_false negative ?_,
      fun zero => absurd zero negative⟩
    intro some
    exact some (either.resolve_left quiet)

/-- What all copies leave is a candidate exactly if it is as the last finding,
and no finding is shorter than what is to be kept of it. -/
theorem copies_payload (quiet : ¬HasError messages) {payload : List UInt8}
    (candidate : payload ∈ candidates wantedType wantedNla messages) :
    (((findings memory wantedNla 0 messages).foldl copyPayload
        { buf, len := cap }).len = (min cap payload.length : Nat) ∧
      ((findings memory wantedNla 0 messages).foldl copyPayload
        { buf, len := cap }).buf.bytes 0 (min cap payload.length) =
          payload.take cap) ↔
    (∀ found ∈ findings memory wantedNla 0 messages,
        min cap payload.length ≤ found.length) ∧
      ∀ last, (findings memory wantedNla 0 messages).getLast? = some last →
        last.take (min cap payload.length) = payload.take cap := by
  have room : ({ buf, len := cap } : Output).len = cap := rfl
  obtain ⟨count, len, within, covered, greatest, front⟩ :=
    foldl_copyPayload room (findings memory wantedNla 0 messages)
  have member := candidates_found memory 0 quiet candidate
  have atMost := covered payload member
  have exact : ((count : Nat) : Int) = (min cap payload.length : Nat) ↔
      ∀ found ∈ findings memory wantedNla 0 messages,
        min cap payload.length ≤ found.length := by
    constructor
    · intro same found isFound
      have bound := covered found isFound
      omega
    · intro all
      have least := greatest (min cap payload.length) (Nat.min_le_left _ _) all
      omega
  rw [len, exact]
  apply and_congr_right
  intro all
  have same : count = min cap payload.length := by
    have cast := exact.mpr all
    omega
  cases ended : (findings memory wantedNla 0 messages).getLast? with
  | none =>
      rw [List.getLast?_eq_none_iff] at ended
      rw [ended] at member
      cases member
  | some last =>
      rw [← same, front last ended]
      constructor
      · rintro kept other ⟨⟩
        exact kept
      · intro kept
        exact kept last rfl

/-- On well-formed messages the right attribute is selected exactly under the
condition above. -/
theorem selectsExactly_iff (memory : Memory) {messages : List Message}
    (held : memory.bytes 0 (encodeMessages messages).length =
      encodeMessages messages)
    (small : (encodeMessages messages).length < 2147483648)
    (wantedType wantedNla : Int) (cap : Nat) (buf : Memory) :
    SelectsExactly memory messages wantedType wantedNla cap buf ↔
      SelectionCondition memory messages wantedType wantedNla cap := by
  unfold SelectionCondition
  by_cases foreign : wantedType ≠ 0 ∧ (nlmsgType memory 0 : Int) ≠ wantedType
  · have refused : ∀ fuel ≥ 0, genlmsgDispatch fuel memory
        (encodeMessages messages).length wantedType wantedNla
          { buf, len := cap } = some (-1, { buf, len := cap }) :=
      fun fuel _ => if_pos foreign
    rw [if_pos foreign, selectsExactly_of_dispatch refused]
    exact selected_failure _
  · have dispatched : ∀ fuel ≥ (encodeMessages messages).length + 2,
        genlmsgDispatch fuel memory (encodeMessages messages).length wantedType
          wantedNla { buf, len := cap } =
            some (verdict (-1) messages (findings memory wantedNla 0 messages),
              (findings memory wantedNla 0 messages).foldl copyPayload
                { buf, len := cap }) := by
      intro fuel enough
      rw [genlmsgDispatch, if_neg foreign]
      exact walkMessages_encode held small (by omega) (-1) _
    rw [selectsExactly_of_dispatch dispatched, if_neg foreign]
    by_cases error : HasError messages
    · rw [verdict_error error]
      exact iff_of_true ((selected_failure _).mpr (.inl error)) (.inl error)
    · have quiet := verdict_quiet error (findings memory wantedNla 0 messages)
      rw [or_iff_right error]
      by_cases missing : candidates wantedType wantedNla messages = []
      · rw [if_pos missing]
        constructor
        · intro selected
          by_contra other
          exact (selected.success error).mp (quiet.mpr other) missing
        · intro silent
          have failed := fun zero => quiet.mp zero silent
          exact ⟨fun found => absurd found error,
            fun _ => iff_of_false failed (fun some => some missing),
            fun zero => absurd zero failed⟩
      · rw [if_neg missing]
        have reported : verdict (-1) messages
            (findings memory wantedNla 0 messages) = 0 := by
          refine quiet.mpr fun both => missing ?_
          rw [List.eq_nil_iff_forall_not_mem]
          intro payload candidate
          have found := candidates_found memory 0 error candidate
          rw [both.2] at found
          cases found
        constructor
        · intro selected
          obtain ⟨payload, candidate, kept⟩ := selected.payload reported
          exact ⟨payload, candidate, (copies_payload error candidate).mp kept⟩
        · rintro ⟨payload, candidate, kept⟩
          exact ⟨fun found => absurd found error,
            fun _ => iff_of_true reported missing,
            fun _ => ⟨payload, candidate,
              (copies_payload error candidate).mpr kept⟩⟩

end Selection

/-- A message of type 16 with one byte in an attribute of type 1. -/
private def byteMessage : Message where
  type := 16
  flags := 0
  seq := 1
  pid := 0
  content := .genl 1 1 0 [⟨1, [0x41], [0, 0, 0], by decide, by decide⟩]
  known := by
    intro data control
    cases control

/-- A message of type 25 with two bytes in an attribute of type 2. -/
private def wordMessage : Message where
  type := 25
  flags := 0
  seq := 2
  pid := 0
  content := .genl 1 1 0 [⟨2, [0x42, 0x43], [0, 0], by decide, by decide⟩]
  known := by
    intro data control
    cases control

/-- `NLMSG_DONE`, with its four bytes. -/
private def doneMessage : Message where
  type := 3
  flags := 0
  seq := 1
  pid := 0
  content := .control [0, 0, 0, 0]
  known := by
    rintro data ⟨⟩
    exact ⟨.inl rfl, rfl⟩

private def mixedMessages : List Message :=
  [byteMessage, wordMessage, doneMessage]

theorem selectsExactly_mixed :
    SelectsExactly (.ofList (encodeMessages mixedMessages)) mixedMessages 16 1 8
      (fun _ => 0) := by
  refine (selectsExactly_iff _ (by decide) (by decide) 16 1 8 _).mpr (.inr ?_)
  have found : findings (.ofList (encodeMessages mixedMessages)) 1 0
      mixedMessages = [[0x41]] := rfl
  rw [if_neg (by decide), if_neg (by decide), found]
  refine ⟨[0x41], .head _, by decide, ?_⟩
  rintro last ⟨⟩
  rfl

/-- A buffer with nothing in it is a success. -/
theorem not_selectsExactly_done :
    ¬SelectsExactly (.ofList (encodeMessages [doneMessage])) [doneMessage] 0 1 8
      (fun _ => 0) := by
  rintro ⟨rounds, ret, out, dispatched, selected⟩
  have quiet : ¬HasError [doneMessage] := by
    rintro ⟨message, none, -⟩
    cases none
  have done : genlmsgDispatch (rounds + 1)
      (.ofList (encodeMessages [doneMessage]))
        (encodeMessages [doneMessage]).length 0 1
          { buf := fun _ => 0, len := 8 } =
        some (0, { buf := fun _ => 0, len := 8 }) := by
    rw [genlmsgDispatch, if_neg (by decide), walkMessages, if_pos (by decide),
      if_pos (by decide)]
  have same := (dispatched (rounds + 1) (Nat.le_succ _)).symm.trans done
  cases same
  exact (selected.success quiet).mp rfl rfl

end KernelDrivers.Genetlink
