import KernelDrivers.Genetlink.Message

/-!
# Dispatching received messages

`genlmsg_dispatch` walks the messages of a buffer and the attributes of each
message.  The remaining length of the buffer is unsigned, that of the
attributes is signed.
-/

namespace KernelDrivers.Genetlink

open KernelDrivers.Library

/-- The `int` with the bits of a 32-bit number. -/
def toInt32 (value : Nat) : Int :=
  if value < 2147483648 then value else (value : Int) - 4294967296

/-- `NLMSG_OK`. -/
def nlmsgOk (memory : Memory) (nlh nlhLen : Nat) : Prop :=
  16 ≤ nlhLen ∧ 16 ≤ nlmsgLen memory nlh ∧ nlmsgLen memory nlh ≤ nlhLen

instance (memory : Memory) (nlh nlhLen : Nat) :
    Decidable (nlmsgOk memory nlh nlhLen) :=
  inferInstanceAs (Decidable (_ ∧ _ ∧ _))

/-- `NLMSG_ALIGN` of an unsigned 32-bit length. -/
def nlmsgAlign (length : Nat) : Nat :=
  wrap32 (length + 3) / 4 * 4

/-- `NLA_OK`. -/
def nlaOk (memory : Memory) (nla : Nat) (remaining : Int) : Prop :=
  4 ≤ remaining ∧ 4 ≤ nlaLen memory nla ∧ (nlaLen memory nla : Int) ≤ remaining

instance (memory : Memory) (nla : Nat) (remaining : Int) :
    Decidable (nlaOk memory nla remaining) :=
  inferInstanceAs (Decidable (_ ∧ _ ∧ _))

/-- The caller's buffer and `*len`. -/
structure Output where
  buf : Memory
  len : Int

/-- What is done with an attribute of the type asked for. -/
def copyAttribute (memory : Memory) (nla : Nat) (output : Output) : Output :=
  let l : Int := nlaLen memory nla - nlaHdrlen
  let len := if output.len > l then l else output.len
  { buf := output.buf.store 0 len.toNat
      fun offset => memory (nla + nlaHdrlen + offset)
    len }

/-- The loop over the attributes of a message: the output if one was copied. -/
def walkAttributes (memory : Memory) (wanted : Int) (output : Output) :
    Nat → Nat → Int → Option (Option Output)
  | 0, _, _ => none
  | fuel + 1, nla, remaining =>
      if nlaOk memory nla remaining then
        if wanted = nlaType memory nla then
          some (some (copyAttribute memory nla output))
        else
          walkAttributes memory wanted output fuel
            (nla + align (nlaLen memory nla))
            (remaining - align (nlaLen memory nla))
      else some none

/-- The loop over the messages. -/
def walkMessages (memory : Memory) (wanted : Int) :
    Nat → Nat → Nat → Int → Output → Option (Int × Output)
  | 0, _, _, _, _ => none
  | fuel + 1, nlh, nlhLen, ret, output =>
      if nlmsgOk memory nlh nlhLen then
        if nlmsgType memory nlh = nlmsgDone then some (0, output)
        else if nlmsgType memory nlh = nlmsgError then some (-1, output)
        else
          let nla := nlh + nlmsgHdrlen + genlHdrlen
          let remaining := toInt32 (sub32 (nlmsgLen memory nlh) genlHdrlen)
          let step := nlmsgAlign (nlmsgLen memory nlh)
          match walkAttributes memory wanted output fuel nla remaining with
          | none => none
          | some none =>
              walkMessages memory wanted fuel (nlh + step) (sub32 nlhLen step)
                ret output
          | some (some copied) =>
              walkMessages memory wanted fuel (nlh + step) (sub32 nlhLen step)
                0 copied
      else some (ret, output)

/-- `genlmsg_dispatch` on a buffer at address 0. -/
def genlmsgDispatch (fuel : Nat) (memory : Memory) (nlhLen : Nat)
    (wantedType wantedNla : Int) (output : Output) : Option (Int × Output) :=
  if wantedType ≠ 0 ∧ (nlmsgType memory 0 : Int) ≠ wantedType then
    some (-1, output)
  else walkMessages memory wantedNla fuel 0 nlhLen (-1) output

end KernelDrivers.Genetlink
