import KernelDrivers.Xconnect.Response

/-!
# Responses of any content

The walk of `name2ip` over whatever `recvfrom` delivers.  An answer is taken as
`dns_res` lays it out, with its owner in two bytes.  The walk copies each answer
to `resp`, and that place is part of a datagram that fills the object.
-/

namespace KernelDrivers.Xconnect

open KernelDrivers.Library
open KernelDrivers.Library.Dns

/-- The indices of the answers up to the first one of type A, each with the
index of the answer before it. -/
inductive Reached (datagram : List UInt8) : Option Nat → Nat → Prop where
  | first {length : Nat} (inside : bufferAt + length < datagram.length)
      (ended : Memory.ofList datagram (bufferAt + length) = 0)
      (name : ∀ offset < length, Memory.ofList datagram (bufferAt + offset) ≠ 0) :
      Reached datagram none (length + 5)
  | next {previous : Option Nat} {index : Nat}
      (reached : Reached datagram previous index)
      (inside : bufferAt + index + 12 ≤ datagram.length)
      (other : recordType (Memory.ofList datagram) index ≠ typeA) :
      Reached datagram (some index)
        (index + (recordLength (Memory.ofList datagram) index + 12))

/-- An answer of type A with its four bytes of RDATA, all of them received. -/
structure AddressAt (datagram : List UInt8) (index : Nat) : Prop where
  reached : ∃ previous, Reached datagram previous index
  found : recordType (Memory.ofList datagram) index = typeA
  four : recordLength (Memory.ofList datagram) index = 4
  inside : bufferAt + index + 16 ≤ datagram.length

/-- The datagram when the walk comes to an answer: the answer before it lies in
`resp`. -/
def held (datagram : List UInt8) : Option Nat → Memory
  | none => Memory.ofList datagram
  | some previous => overlay (Memory.ofList datagram) previous

/-- The chain of complete answers comes to an address, and its type and its
RDATA are not covered by `resp`, or covered by equal bytes. -/
def AnswerCondition (datagram : List UInt8) : Prop :=
  ∃ previous index, Reached datagram previous index ∧
    bufferAt + index + 16 ≤ datagram.length ∧
    recordType (Memory.ofList datagram) index = typeA ∧
    recordLength (Memory.ofList datagram) index = 4 ∧
    recordType (held datagram previous) index = typeA ∧
    (overlay (held datagram previous) index).bytes (bufferAt + index + 12) 4 =
      (Memory.ofList datagram).bytes (bufferAt + index + 12) 4

section Held

variable {datagram : List UInt8} {previous : Option Nat} {index : Nat}
variable {res : Memory}

theorem held_before {address : Nat} (before : address < respAt) :
    held datagram previous address = Memory.ofList datagram address := by
  cases previous with
  | none => rfl
  | some previous => rw [held, overlay, Memory.store_outside (.inl before)]

theorem recordType_congr {other : Memory}
    (same : ∀ address < bufferAt + index + 12, res address = other address) :
    recordType res index = recordType other index := by
  unfold recordType
  rw [same _ (by omega), same _ (by omega)]

end Held

section Walked

variable {datagram : List UInt8} {res : Memory} {walk : Walk}

end Walked

section Walks

variable {datagram : List UInt8}

end Walks

/-- In front of `resp`, a chain of complete answers up to an address is
enough. -/
theorem AddressAt.condition {datagram : List UInt8} {index : Nat}
    (answer : AddressAt datagram index)
    (before : bufferAt + index + 16 ≤ respAt) : AnswerCondition datagram := by
  obtain ⟨previous, reached⟩ := answer.reached
  refine ⟨previous, index, reached, answer.inside, answer.found, answer.four,
    ?_, ?_⟩
  · rw [recordType_congr fun address below => held_before (by omega)]
    exact answer.found
  · have rdata : bufferAt + index + 12 + 4 ≤ respAt := before
    rw [overlay_kept index rdata]
    apply Memory.bytes_congr
    intro offset inside
    exact held_before (by omega)

end KernelDrivers.Xconnect
