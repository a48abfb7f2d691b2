import KernelDrivers.Library.Memory

/-!
# Generic netlink messages

The layout of a message with one attribute, and `genlmsg_send`, which builds
it and hands it to `sendto` until all of it is accepted.
-/

namespace KernelDrivers.Genetlink

open KernelDrivers.Library

abbrev nlmsgHdrlen : Nat := 16
abbrev genlHdrlen : Nat := 4
abbrev nlaHdrlen : Nat := 4

/-- `NLMSG_ALIGN` and `NLA_ALIGN` of a length that does not overflow. -/
def align (length : Nat) : Nat :=
  (length + 3) / 4 * 4

/-- `NLMSG_SPACE`. -/
def nlmsgSpace (length : Nat) : Nat :=
  align (length + nlmsgHdrlen)

def nlaAttrSize (payload : Nat) : Nat :=
  nlaHdrlen + payload

def nlaTotalSize (payload : Nat) : Nat :=
  align (nlaAttrSize payload)

abbrev nlmFRequest : Nat := 1
abbrev nlmsgError : Nat := 2
abbrev nlmsgDone : Nat := 3

section Fields

variable (memory : Memory) (header : Nat)

def u16At : Nat :=
  le16 (memory header) (memory (header + 1))

def u32At : Nat :=
  le32 (memory header) (memory (header + 1)) (memory (header + 2))
    (memory (header + 3))

/-- `nlmsg_len` of the header at an address. -/
def nlmsgLen : Nat :=
  u32At memory header

def nlmsgType : Nat :=
  u16At memory (header + 4)

/-- `nla_len` of the attribute at an address. -/
def nlaLen : Nat :=
  u16At memory header

def nlaType : Nat :=
  u16At memory (header + 2)

end Fields

/-- The arguments of `genlmsg_send` that go into the message. -/
structure Request where
  nlmsgType : UInt16
  nlmsgPid : UInt32
  genlCmd : UInt8
  genlVersion : UInt8
  nlaType : UInt16
  nlaData : List UInt8

/-- The size that `genlmsg_alloc` allocates and returns. -/
def genlmsgSize (payload : Nat) : Nat :=
  nlmsgSpace (nlaTotalSize payload + genlHdrlen)

/-- The stores of `genlmsg_send`, in the zeroed buffer of `genlmsg_alloc`. -/
def Request.build (request : Request) : Memory :=
  let payload := request.nlaData.length
  let glh := nlmsgHdrlen
  let nla := glh + genlHdrlen
  Memory.storeList (fun _ => 0) 0 (le32Bytes (genlmsgSize payload))
    |>.storeList 4 (le16Bytes request.nlmsgType.toNat)
    |>.storeList 6 (le16Bytes nlmFRequest)
    |>.storeList 8 (le32Bytes 0)
    |>.storeList 12 (le32Bytes request.nlmsgPid.toNat)
    |>.storeList glh [request.genlCmd]
    |>.storeList (glh + 1) [request.genlVersion]
    |>.storeList (nla + 2) (le16Bytes request.nlaType.toNat)
    |>.storeList nla (le16Bytes (nlaAttrSize payload))
    |>.storeList (nla + nlaHdrlen) request.nlaData

/-- What a call of `sendto` does. -/
inductive SendOutcome where
  | sent (count : Nat)
  | again
  | failed

/-- The loop over `sendto`: what it returns, and the bytes that each call is
handed.  `none` is a call that has not come back. -/
def sendLoop (message : Memory) (len : Nat) :
    List SendOutcome → Nat → Option (Int × List (List UInt8))
  | [], _ => none
  | outcome :: outcomes, count =>
      let handed := message.bytes count (len - count)
      let next := fun count =>
        if count < len then
          match sendLoop message len outcomes count with
          | none => none
          | some (ret, later) => some (ret, handed :: later)
        else some ((count : Int), [handed])
      match outcome with
      | .failed => some (-1, [handed])
      | .again => next count
      | .sent accepted => next (count + accepted)

/-- `genlmsg_send`, with an allocation that succeeds. -/
def genlmsgSend (request : Request) (outcomes : List SendOutcome) :
    Option (Int × List (List UInt8)) :=
  if request.nlmsgType = 0 ∨ request.nlaData.length = 0 then some (-1, [])
  else
    sendLoop request.build (genlmsgSize request.nlaData.length) outcomes 0

end KernelDrivers.Genetlink
