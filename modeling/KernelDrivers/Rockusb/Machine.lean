import KernelDrivers.Rockusb.Interface
import Mathlib.Tactic.Simps.Basic

/-!
# The loop and its environment

The loop runs between two components that are not part of it.  The platform
(storage, vendor storage, secure boot, chip identification) answers calls: it is
any deterministic system over any state.  The USB device controller holds
the posted bulk transfers and completes them when it likes.  A log records
what the loop did, in order.
-/

namespace KernelDrivers.Rockusb

open KernelDrivers.Library

inductive LoaderFlag where
  | sysLoaderErr
  | maskrom
  | rebootNorecover
  deriving DecidableEq, Repr

/-- The external functions the loop calls, with their arguments.  A pointer to
data that the callee reads is replaced by the bytes it may read. -/
inductive Call where
  | storageReadLba (lba blocks : Nat)
  | storageReadPba (lba blocks : Nat)
  | storageVendorSysDataLoad (offset blocks : Nat)
  | secureBootUnlockCheck
  | vendorStorageRead (id size : Nat)
  | storageWriteLba (lba : Nat) (data : List UInt8) (blocks mode : Nat)
  | storageWritePba (lba : Nat) (data : List UInt8) (blocks : Nat)
  | storageVendorSysDataStore (offset blocks : Nat) (data : List UInt8)
  | secureBootUnlock (data : Memory)
  | vendorStorageWrite (id : Nat) (data : List UInt8) (size : Nat)
  | storageEraseBlock (block count mode : Nat)
  | storageReadId
  | storageReadFlashInfo
  | rkGetBootromChipVersion
  | fwStorageGetValid
  | fwGetTotleBlk
  | fwGetCurEraseBlock
  | storageGetCapacity
  | fwSorageLowFormatEn (en : Nat)
  | fwSorageLowFormat
  | iSetLoaderFlag (flag : LoaderFlag)
  | secureBootLockLoader

/-- What a call gives back: its return value, and the first `size` bytes of
`data`, which it stored through the pointer it was given. -/
structure Reply where
  ret : Int
  size : Nat
  data : Memory

/-- The return value read as `uint32_t`. -/
def Reply.u32 (reply : Reply) : Nat :=
  (reply.ret % 4294967296).toNat

/-- The code behind the calls.  `ftlOk` is `FTL_OK`, `secureBootLock` the
global variable `SecureBootLock`. -/
structure Platform (σ : Type) where
  reply : σ → Call → Reply
  next : σ → Call → σ
  secureBootLock : σ → Nat
  ftlOk : Int

/-- A bulk transfer handed to the UDC. -/
structure Transfer where
  buf : Fin 2
  len : Nat
  deriving DecidableEq, Repr

/-- The transfer that waits for a CBW is the one of 31 bytes. -/
def Transfer.isCbw (transfer : Transfer) : Prop :=
  transfer.len = 31

instance (transfer : Transfer) : Decidable transfer.isCbw :=
  inferInstanceAs (Decidable (_ = _))

/-- What happened, in the order in which it happened.  `txStore` and `rxLoad`
are accesses to a buffer by the CPU, with the buffers that the UDC owned then;
`hit` is a passed hit test, with the bytes it sends and the platform's state. -/
inductive Event (σ : Type) where
  | call (call : Call) (reply : Reply)
  | bulkIn (buf : Fin 2) (payload : List UInt8)
  | bulkOut (buf : Fin 2) (len : Nat)
  | rxDone (transfer : Transfer) (status : Int) (packet : List UInt8)
  | txDone (transfer : Transfer) (status : Int)
  | txStore (buf : Fin 2) (owned : List (Fin 2))
  | rxLoad (buf : Fin 2) (owned : List (Fin 2))
  | command (cbw : CbWrap)
  | csw (csw : CsWrap)
  | hit (cmnd lba blocks : Nat) (payload : List UInt8) (platform : σ)

/-- `hung` is a loop that never returns, `fault` a use of a `NULL` buffer and
`cpuReset` a call of `reset_cpu`. -/
inductive Control where
  | running
  | hung
  | fault
  | cpuReset
  deriving DecidableEq, Repr

structure Machine (σ : Type) where
  usbcmd : CmdRockusbInterface
  rxBuffer : Fin 2 → Memory
  txBuffer : Fin 2 → Memory
  ins : List Transfer
  outs : List Transfer
  platform : σ
  log : List (Event σ)
  control : Control

namespace Machine

variable {σ : Type}

/-- Change the global `usbcmd` only. -/
@[simps -fullyApplied usbcmd rxBuffer txBuffer ins outs platform log control]
def update (machine : Machine σ)
    (change : CmdRockusbInterface → CmdRockusbInterface) : Machine σ :=
  { machine with usbcmd := change machine.usbcmd }

@[simps -fullyApplied usbcmd rxBuffer txBuffer ins outs platform log control]
def note (machine : Machine σ) (event : Event σ) : Machine σ :=
  { machine with log := machine.log ++ [event] }

def replyTo (machine : Machine σ) (P : Platform σ) (call : Call) : Reply :=
  P.reply machine.platform call

/-- Make a call: the platform moves on and the call is recorded. -/
@[simps -fullyApplied usbcmd rxBuffer txBuffer ins outs platform log control]
def perform (machine : Machine σ) (P : Platform σ) (call : Call) :
    Machine σ :=
  { machine with
    platform := P.next machine.platform call
    log := machine.log ++ [.call call (P.reply machine.platform call)] }

/-- The CPU stores bytes into a transmit buffer. -/
@[simps -fullyApplied usbcmd rxBuffer txBuffer ins outs platform log control]
def storeTx (machine : Machine σ) (buf : Fin 2) (start length : Nat)
    (data : Memory) : Machine σ :=
  { machine with
    txBuffer := Function.update machine.txBuffer buf
      ((machine.txBuffer buf).store start length data)
    log := machine.log ++ [.txStore buf (machine.ins.map Transfer.buf)] }

/-- The CPU reads a receive buffer. -/
@[simps -fullyApplied usbcmd rxBuffer txBuffer ins outs platform log control]
def loadRx (machine : Machine σ) (buf : Fin 2) : Machine σ :=
  { machine with
    log := machine.log ++ [.rxLoad buf (machine.outs.map Transfer.buf)] }

/-- `rkusb_write_bulk_ep`. -/
@[simps -fullyApplied usbcmd rxBuffer txBuffer ins outs platform log control]
def rkusbWriteBulkEp (machine : Machine σ) (nLen : Nat)
    (buf : Fin 2) : Machine σ :=
  { machine with
    usbcmd :=
      { machine.usbcmd with txGiveback := ⟨.sendInProgress, 0, none⟩ }
    ins := machine.ins ++ [⟨buf, nLen⟩]
    log := machine.log ++ [.bulkIn buf ((machine.txBuffer buf).bytes 0 nLen)] }

/-- `rkusb_read_bulk_ep`. -/
@[simps -fullyApplied usbcmd rxBuffer txBuffer ins outs platform log control]
def rkusbReadBulkEp (machine : Machine σ) (nLen : Nat)
    (buf : Fin 2) : Machine σ :=
  { machine with
    usbcmd := { machine.usbcmd with rxGiveback := ⟨.recvReady, 0, none⟩ }
    outs := machine.outs ++ [⟨buf, nLen⟩]
    log := machine.log ++ [.bulkOut buf nLen] }

@[simps! -fullyApplied usbcmd rxBuffer txBuffer ins outs platform log control]
def setStatus (machine : Machine σ) (status : RkusbStatus) :
    Machine σ :=
  machine.update fun usbcmd => { usbcmd with status := status }

/-- `txbuf_num = (txbuf_num + 1) % 2`. -/
@[simps! -fullyApplied usbcmd rxBuffer txBuffer ins outs platform log control]
def flipTx (machine : Machine σ) : Machine σ :=
  machine.update fun usbcmd => { usbcmd with txbufNum := usbcmd.txbufNum + 1 }

/-- `rxbuf_num = (rxbuf_num + 1) % 2`. -/
@[simps! -fullyApplied usbcmd rxBuffer txBuffer ins outs platform log control]
def flipRx (machine : Machine σ) : Machine σ :=
  machine.update fun usbcmd => { usbcmd with rxbufNum := usbcmd.rxbufNum + 1 }

end Machine

end KernelDrivers.Rockusb
