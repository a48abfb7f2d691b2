import KernelDrivers.Library.Memory

/-!
# The resolver of xconnect

`name2ip` asks for the address of a host name and walks over the answers of
the response.  A string is given by the bytes before its NUL.
-/

namespace KernelDrivers.Xconnect

open KernelDrivers.Library

/-- The loop of `fillip`.  The byte after a dot keeps the place of the length
of its label. -/
def fillipLoop (buffer : Nat) (memory : Memory) (i j : Nat) :
    List UInt8 → Memory
  | [] => memory.storeList (buffer + j) [.ofNat (i - j)]
  | c :: ip =>
      if c ≠ 46 then
        fillipLoop buffer (memory.storeList (buffer + (i + 1)) [c]) (i + 1) j ip
      else
        fillipLoop buffer (memory.storeList (buffer + j) [.ofNat (i - j)])
          (i + 1) (i + 1) ip

def fillip (buffer : Nat) (memory : Memory) (ip : List UInt8) : Memory :=
  fillipLoop buffer memory 0 0 ip

/-- The place of `buffer` in `dns_req` and in `dns_res`. -/
abbrev bufferAt : Nat := 12

/-- The place of `query` in `dns_req`. -/
abbrev queryAt : Nat := 268

abbrev sizeofReq : Nat := 272

/-- The request before `query` is copied behind the name. -/
def request (node : List UInt8) : Memory :=
  let req : Memory := fun _ => 0
  let req := req.storeList 0 (be16Bytes 0x4419)
  let req := req.storeList 2 (be16Bytes 0x0100)
  let req := req.storeList 4 (be16Bytes 1)
  let req := fillip bufferAt req node
  let req := req.storeList queryAt (be16Bytes 1)
  req.storeList (queryAt + 2) (be16Bytes 1)

/-- The `memcpy` loads the four bytes before it stores them: for the longest
names its two ranges overlap. -/
def copyQuery (req : Memory) (length : Nat) : Memory :=
  req.store (bufferAt + length + 1) 4 fun offset => req (queryAt + offset)

/-- What `sendto` is handed. -/
def sent (node : List UInt8) : Option (List UInt8) :=
  let req := request node
  match req.strlen bufferAt (sizeofReq - bufferAt) with
  | none => none
  | some length =>
      let req := copyQuery req length
      (req.strlen bufferAt (sizeofReq - bufferAt)).map fun length =>
        req.bytes 0 (length + 17)

/-- The place of `resp` in `dns_res`. -/
abbrev respAt : Nat := 1036

abbrev sizeofRes : Nat := 1052

/-- The object when the walk ends, and the addresses that were read in it to
search and to copy. -/
structure Walk where
  res : Memory
  examined : List Nat

/-- Each round moves on by 12 bytes or more, and so a walk of more rounds than
the object has bytes has left the object. -/
def walkLoop : Nat → Memory → Nat → List Nat → Option Walk
  | 0, _, _, _ => none
  | rounds + 1, res, index, examined =>
      let res := res.store respAt 12 fun offset =>
        res (bufferAt + index + offset)
      let examined := examined ++ List.range' (bufferAt + index) 12
      if be16 (res (respAt + 2)) (res (respAt + 3)) = 1 then
        some { res := res.store (respAt + 12) 4 fun offset =>
                 res (bufferAt + index + 12 + offset)
               examined :=
                 examined ++ List.range' (bufferAt + index + 12) 4 }
      else
        walkLoop rounds res
          (index + (be16 (res (respAt + 10)) (res (respAt + 11)) + 12)) examined

/-- `name2ip` from `recvfrom` on. -/
def walk (res : Memory) (datagram : List UInt8) : Option Walk :=
  let res := res.storeList 0 (datagram.take sizeofRes)
  match res.strlen bufferAt (sizeofRes - bufferAt) with
  | none => none
  | some length =>
      walkLoop sizeofRes res (length + 5) (List.range' bufferAt (length + 1))

/-- `res.resp.addr`. -/
def Walk.addr (walk : Walk) : List UInt8 :=
  walk.res.bytes (respAt + 12) 4

def inetNtoa (addr : List UInt8) : String :=
  ".".intercalate (addr.map fun byte => toString byte.toNat)

/-- What `name2ip` returns. -/
def received (res : Memory) (datagram : List UInt8) : Option String :=
  (walk res datagram).map fun walk => inetNtoa walk.addr

end KernelDrivers.Xconnect
