import KernelDrivers.Rockusb.Host
import KernelDrivers.Rockusb.Proceeding

/-!
# Accepting a command

The idle test takes whatever has been received for a command: neither the
length of the packet nor the signature is looked at.  A command byte that the
dispatch does not know leaves the loop in `RKUSB_STATUS_CMD`.
-/

namespace KernelDrivers.Rockusb

open KernelDrivers.Library

variable {σ : Type} {P : Platform σ} {machine after : Machine σ}

/-- A packet of `USB_BULK_CB_WRAP_LEN` bytes that begins with
`USB_BULK_CB_SIG`, which spells out 'USBC'. -/
def isCbwPacket (packet : List UInt8) : Prop :=
  packet.length = 31 ∧ packet.take 4 = le32Bytes 0x43425355

instance (packet : List UInt8) : Decidable (isCbwPacket packet) :=
  inferInstanceAs (Decidable (_ ∧ _))

/-- The packet started nothing, and the next CBW can be received. -/
structure Ignored (before after : Machine σ) : Prop where
  calls : calls after.log = calls before.log
  platform : after.platform = before.platform
  preRead : after.usbcmd.preRead = before.usbcmd.preRead
  resetFlag : after.usbcmd.resetFlag = before.usbcmd.resetFlag
  idle : after.usbcmd.status = .idle
  posted : ∃ transfer ∈ after.outs, transfer.isCbw

/-- The UDC has reported the last transfer to the host as sent. -/
def Machine.inFinished (machine : Machine σ) : Machine σ :=
  machine.update fun usbcmd =>
    { usbcmd with
      txGiveback := { usbcmd.txGiveback with status := .sendFinishedOk } }

/-- What the loop does with a packet that has just been reported.  Whether it
proceeds to a CSW is asked of an IN endpoint that works: after a failed transfer
no status sends anything. -/
structure Accepts (P : Platform σ) (packet : List UInt8)
    (received : Machine σ) : Prop where
  executes : (∃ cbw, commands (handleIdle P received).log =
    commands received.log ++ [cbw]) ↔ isCbwPacket packet
  ignores : ¬isCbwPacket packet → Ignored received (handleIdle P received)
  proceeds : isCbwPacket packet → received.inFinished.leadsToCsw P

theorem Dispatched.commands {permitted : Call → Prop}
    (dispatched : Dispatched P permitted machine after) :
    commands after.log = commands machine.log := by
  obtain ⟨events, log, -, -, fills⟩ := dispatched.extends
  rw [log, commands_append, List.append_right_eq_self]
  apply List.filterMap_eq_nil_iff.mpr
  intro event member
  have fill := fills event member
  cases event with
  | command => exact fill.elim
  | _ => rfl

theorem PacketWaits.executed {buf : Fin 2} {cbw : CbWrap}
    (waits : PacketWaits buf cbw machine) :
    commands (KernelDrivers.Rockusb.handleIdle P machine).log =
      commands machine.log ++ [cbw] := by
  rw [waits.handleIdle, (fwDispatch_any _).commands]
  simp only [Machine.accept, Machine.takeCbw_log, commands_append]
  exact congrArg (fun taken => commands machine.log ++ [taken]) waits.packet

end KernelDrivers.Rockusb
