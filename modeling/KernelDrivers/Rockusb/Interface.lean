import KernelDrivers.Library.Memory
import Mathlib.Algebra.GroupWithZero.Nat

/-!
# Data model of the rockusb command loop

The constants and records of `cmd_rockusb.h` that the DWC3 build of
`cmd_rockusb.c` uses.  A buffer is named by its index in `rx_buffer` or
`tx_buffer`, so that incrementing an index modulo 2 is addition in `Fin 2`.
-/

namespace KernelDrivers.Rockusb

open KernelDrivers.Library

/-- The two buffers of each direction have indices. -/
scoped instance neZeroBuffers : NeZero 2 := ⟨by decide⟩

/-- So have the bytes of the command block. -/
scoped instance neZeroCommand : NeZero 16 := ⟨by decide⟩

@[match_pattern] abbrev kFwTestUnitReady : Nat := 0x00
@[match_pattern] abbrev kFwReadFlashId : Nat := 0x01
@[match_pattern] abbrev kFwTestBadBlock : Nat := 0x03
@[match_pattern] abbrev kFwRead10 : Nat := 0x04
@[match_pattern] abbrev kFwWrite10 : Nat := 0x05
@[match_pattern] abbrev kFwErase10 : Nat := 0x06
@[match_pattern] abbrev kFwErase10Force : Nat := 0x0b
@[match_pattern] abbrev kFwLbaRead10 : Nat := 0x14
@[match_pattern] abbrev kFwLbaWrite10 : Nat := 0x15
@[match_pattern] abbrev kFwEraseSysDisk : Nat := 0x16
@[match_pattern] abbrev kFwReadFlashInfo : Nat := 0x1A
@[match_pattern] abbrev kFwGetChipVer : Nat := 0x1B
@[match_pattern] abbrev kFwLowFormat : Nat := 0x1C
@[match_pattern] abbrev kFwSetResetFlag : Nat := 0x1E
@[match_pattern] abbrev kFwReset : Nat := 0xff

/-- `RKUSB_BUFFER_BLOCK_MAX`, the largest number of blocks in one transfer. -/
abbrev rkusbBufferBlockMax : Nat := 0x80

/-- `USB_BULK_CS_SIG`, which spells out 'USBS'. -/
abbrev usbBulkCsSig : Nat := 0x53425355

abbrev cswGood : Nat := 0x00
abbrev cswFail : Nat := 0x01

/-- `RKUSB_STATUS_IDLE` to `RKUSB_STATUS_TXDATA_PREPARE`. -/
inductive RkusbStatus where
  | idle
  | cmd
  | rxdata
  | txdata
  | csw
  | rxdataPrepare
  | txdataPrepare
  deriving DecidableEq, Repr

/-- The states of a bulk transfer that the UDC reports back. -/
inductive GivebackStatus where
  | sendInProgress
  | sendFinishedError
  | sendFinishedOk
  | recvReady
  | recvOk
  | recvError
  deriving DecidableEq, Repr

/-- `struct dwc3_giveback_data`; `buf` is `none` for `NULL`. -/
structure GivebackData where
  status : GivebackStatus
  actual : Nat
  buf : Option (Fin 2)

/-- `struct fsg_bulk_cb_wrap`. -/
structure CbWrap where
  signature : Nat
  tag : Nat
  dataTransferLength : Nat
  flags : UInt8
  lun : UInt8
  length : UInt8
  cdb : Fin 16 → UInt8

/-- `struct bulk_cs_wrap`, on a little-endian CPU. -/
structure CsWrap where
  signature : Nat
  tag : Nat
  residue : Nat
  status : Nat
  deriving DecidableEq, Repr

/-- `struct cmd_rockusb_preread`. -/
structure Preread where
  preBuffer : Option (Fin 2)
  preLba : Nat
  preBlocks : Nat

/-- The members of `struct cmd_rockusb_interface` that the DWC3 build uses.
The buffers themselves are memory of the machine, not of this record. -/
structure CmdRockusbInterface where
  status : RkusbStatus
  configured : Nat
  rxbufNum : Fin 2
  txbufNum : Fin 2
  dSize : Nat
  dBytes : Nat
  uSize : Nat
  uBytes : Nat
  lba : Nat
  cmnd : Nat
  imgwrMode : Nat
  transferSize : Nat
  resetFlag : Nat
  rxGiveback : GivebackData
  txGiveback : GivebackData
  csw : CsWrap
  cbw : CbWrap
  preRead : Preread

namespace CbWrap

/-- The 31 bytes that `memcpy` puts over the wrapper. -/
def ofBuffer (buffer : Memory) : CbWrap :=
  { signature := le32 (buffer 0) (buffer 1) (buffer 2) (buffer 3)
    tag := le32 (buffer 4) (buffer 5) (buffer 6) (buffer 7)
    dataTransferLength := le32 (buffer 8) (buffer 9) (buffer 10) (buffer 11)
    flags := buffer 12
    lun := buffer 13
    length := buffer 14
    cdb := fun index => buffer (15 + index) }

/-- The command byte, `CDB[0]`. -/
def opcode (cbw : CbWrap) : Nat :=
  (cbw.cdb 0).toNat

/-- `get_unaligned_be32(&CDB[OFFSET_IN_CDB_INDEX])`. -/
def offset (cbw : CbWrap) : Nat :=
  be32 (cbw.cdb 2) (cbw.cdb 3) (cbw.cdb 4) (cbw.cdb 5)

/-- `get_unaligned_be16(&CDB[NSECTORS_IN_CDB_INDEX])`. -/
def nsectors (cbw : CbWrap) : Nat :=
  be16 (cbw.cdb 7) (cbw.cdb 8)

theorem offset_lt (cbw : CbWrap) : cbw.offset < 4294967296 :=
  be32_lt _ _ _ _

theorem nsectors_lt (cbw : CbWrap) : cbw.nsectors < 65536 :=
  be16_lt _ _

theorem ofBuffer_congr {left right : Memory}
    (same : ∀ index < 31, left index = right index) :
    ofBuffer left = ofBuffer right := by
  have cdbSame : (fun index : Fin 16 => left (15 + index)) =
      fun index : Fin 16 => right (15 + index) := by
    funext index
    exact same _ (by omega)
  simp [ofBuffer, cdbSame, same]

end CbWrap

/-- The 13 bytes of a status wrapper as they lie in memory. -/
def CsWrap.bytes (csw : CsWrap) : List UInt8 :=
  le32Bytes csw.signature ++ le32Bytes csw.tag ++ le32Bytes csw.residue ++
    [.ofNat csw.status]

@[simp] theorem CsWrap.length_bytes (csw : CsWrap) : csw.bytes.length = 13 :=
  rfl

/-- `memset(&usbcmd, 0, sizeof usbcmd)`.  `zero` is the giveback status whose
enumerator has the value 0. -/
def CmdRockusbInterface.zeroed (zero : GivebackStatus) : CmdRockusbInterface :=
  { status := .idle
    configured := 0
    rxbufNum := 0
    txbufNum := 0
    dSize := 0
    dBytes := 0
    uSize := 0
    uBytes := 0
    lba := 0
    cmnd := 0
    imgwrMode := 0
    transferSize := 0
    resetFlag := 0
    rxGiveback := ⟨zero, 0, none⟩
    txGiveback := ⟨zero, 0, none⟩
    csw := ⟨0, 0, 0, 0⟩
    cbw := ⟨0, 0, 0, 0, 0, 0, fun _ => 0⟩
    preRead := ⟨none, 0, 0⟩ }

end KernelDrivers.Rockusb
