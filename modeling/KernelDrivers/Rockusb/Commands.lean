import KernelDrivers.Rockusb.Machine

/-!
# Command handlers

The `FW_*` functions and the dispatch of `do_rockusb_cmd`.  Most handlers end
by setting the residue, the status of the CSW and the next protocol status.
-/

namespace KernelDrivers.Rockusb

open KernelDrivers.Library

variable {σ : Type} (P : Platform σ)

/-- The common tail of the handlers: `Residue`, `Status` and `status`. -/
@[simps! -fullyApplied usbcmd rxBuffer txBuffer ins outs platform log control]
def Machine.reply (machine : Machine σ) (residue cswStatus : Nat)
    (status : RkusbStatus) : Machine σ :=
  machine.update fun usbcmd =>
    { usbcmd with
      csw := { usbcmd.csw with
        residue := byteSwap32 residue
        status := cswStatus }
      status := status }

/-- The tail with `Residue = DataTransferLength` and `Status = CSW_GOOD`. -/
@[simps! -fullyApplied usbcmd rxBuffer txBuffer ins outs platform log control]
def Machine.replyGood (machine : Machine σ) (status : RkusbStatus) :
    Machine σ :=
  machine.reply machine.usbcmd.cbw.dataTransferLength cswGood status

/-- `(totleBlock<<16)|currEraseBlk` in 32-bit arithmetic. -/
def eraseProgress (totleBlock currEraseBlk : Nat) : Nat :=
  wrap32 (totleBlock <<< 16) ||| currEraseBlk

def fwTestUnitReady (machine : Machine σ) : Machine σ :=
  let valid := machine.replyTo P .fwStorageGetValid
  let machine := machine.perform P .fwStorageGetValid
  let subCode := (machine.usbcmd.cbw.cdb 1).toNat
  if valid.ret = 0 then
    let totle := machine.replyTo P .fwGetTotleBlk
    let machine := machine.perform P .fwGetTotleBlk
    let currErase := machine.replyTo P .fwGetCurEraseBlock
    let machine := machine.perform P .fwGetCurEraseBlock
    machine.reply (eraseProgress totle.u32 currErase.u32) cswFail .csw
  else if subCode = 0xFD then
    let totle := machine.replyTo P .fwGetTotleBlk
    let machine := machine.perform P .fwGetTotleBlk
    let machine := machine.reply (eraseProgress totle.u32 0) cswFail .csw
    machine.perform P (.fwSorageLowFormatEn 1)
  else if subCode = 0xFA then
    let machine := machine.replyGood .csw
    machine.update fun usbcmd => { usbcmd with resetFlag := 0x10 }
  else if subCode = 0xF9 then
    let capacity := machine.replyTo P .storageGetCapacity
    let machine := machine.perform P .storageGetCapacity
    machine.reply capacity.u32 cswGood .csw
  else if P.secureBootLock machine.platform ≠ 0 then
    machine.reply machine.usbcmd.cbw.dataTransferLength cswFail .csw
  else machine.reply 6 cswGood .csw

/-- Answer from the transmit buffer: the data is in place, `size` bytes of it
are to be sent. -/
@[simps! -fullyApplied usbcmd rxBuffer txBuffer ins outs platform log control]
def Machine.replyData (machine : Machine σ) (size : Nat) : Machine σ :=
  let machine :=
    machine.update fun usbcmd => { usbcmd with transferSize := size }
  machine.replyGood .txdata

/-- Let an external function fill the current transmit buffer. -/
def Machine.fillTx (machine : Machine σ) (call : Call) : Machine σ :=
  let reply := machine.replyTo P call
  (machine.perform P call).storeTx machine.usbcmd.txbufNum 0 reply.size
    reply.data

def fwReadID (machine : Machine σ) : Machine σ :=
  (machine.fillTx P .storageReadId).replyData 5

def fwGetFlashInfo (machine : Machine σ) : Machine σ :=
  (machine.fillTx P .storageReadFlashInfo).replyData 11

/-- `chip_info`: zeroed, filled by the boot ROM query, and its first word
replaced by the identification of the RK3399. -/
def chipInfo (reply : Reply) : Memory :=
  let zeroed : Memory := fun _ => 0
  (zeroed.store 0 reply.size reply.data).storeList 0 (le32Bytes 0x33333043)

def fwGetChipVer (machine : Machine σ) : Machine σ :=
  let reply := machine.replyTo P .rkGetBootromChipVersion
  let machine := machine.perform P .rkGetBootromChipVersion
  let machine :=
    machine.storeTx machine.usbcmd.txbufNum 0 16 (chipInfo reply)
  machine.replyData 16

def fwTestBadBlock (machine : Machine σ) : Machine σ :=
  (machine.storeTx machine.usbcmd.txbufNum 0 64 fun _ => 0).replyData 64

def fwLowFormatSysDisk (machine : Machine σ) : Machine σ :=
  machine.replyGood .csw

/-- `FW_Read10` and `FW_LBARead10`, which differ in the block length. -/
@[simps! -fullyApplied usbcmd rxBuffer txBuffer ins outs platform log control]
def Machine.prepareRead (machine : Machine σ) (blockLength : Nat) :
    Machine σ :=
  machine.update fun usbcmd =>
    { usbcmd with
      uSize := usbcmd.cbw.nsectors * blockLength
      uBytes := 0
      lba := usbcmd.cbw.offset
      status := .txdataPrepare }

def fwRead10 (machine : Machine σ) : Machine σ :=
  machine.prepareRead 528

def fwLBARead10 (machine : Machine σ) : Machine σ :=
  machine.prepareRead 512

/-- The write range `[lba, lba + blocks)` misses the cached blocks, as the
write handlers test it in 32-bit arithmetic. -/
def Preread.misses (preRead : Preread) (lba blocks : Nat) : Prop :=
  wrap32 (lba + blocks) < preRead.preLba ∨
    lba > wrap32 (preRead.preLba + preRead.preBlocks)

instance (preRead : Preread) (lba blocks : Nat) :
    Decidable (preRead.misses lba blocks) :=
  inferInstanceAs (Decidable (_ ∨ _))

/-- The common part of `FW_Write10` and `FW_LBAWrite10`. -/
@[simps! -fullyApplied usbcmd rxBuffer txBuffer ins outs platform log control]
def Machine.prepareWrite (machine : Machine σ) (blockLength : Nat) :
    Machine σ :=
  machine.update fun usbcmd =>
    let size := usbcmd.cbw.nsectors * blockLength
    { usbcmd with
      dSize := size
      dBytes := 0
      lba := usbcmd.cbw.offset
      preRead :=
        if usbcmd.preRead.misses usbcmd.cbw.offset (size / blockLength) then
          usbcmd.preRead
        else { usbcmd.preRead with preBlocks := 0, preLba := 0 }
      rxGiveback := { usbcmd.rxGiveback with actual := 0 }
      status := .rxdataPrepare }

def fwWrite10 (machine : Machine σ) : Machine σ :=
  machine.prepareWrite 528

def fwLBAWrite10 (machine : Machine σ) : Machine σ :=
  let machine := machine.update fun usbcmd =>
    { usbcmd with imgwrMode := (usbcmd.cbw.cdb 1).toNat }
  machine.prepareWrite 512

/-- `FW_Erase10` and `FW_Erase10Force`, which differ in the erase mode. -/
def Machine.erase (machine : Machine σ) (mode : Nat) : Machine σ :=
  let cbw := machine.usbcmd.cbw
  let call := Call.storageEraseBlock cbw.offset cbw.nsectors mode
  if P.secureBootLock machine.platform = 0 then
    let status := machine.replyTo P call
    (machine.perform P call).reply cbw.dataTransferLength
      (if status.ret = 0 then 0 else 1) .csw
  else machine.reply cbw.dataTransferLength 0 .csw

def fwErase10 (machine : Machine σ) : Machine σ :=
  machine.erase P 0

def fwErase10Force (machine : Machine σ) : Machine σ :=
  machine.erase P 1

def fwLowFormat (machine : Machine σ) : Machine σ :=
  (machine.replyGood .csw).perform P (.fwSorageLowFormatEn 1)

def fwSetResetFlag (machine : Machine σ) : Machine σ :=
  let machine :=
    machine.update fun usbcmd => { usbcmd with resetFlag := 1 }
  machine.replyGood .csw

def fwReset (machine : Machine σ) : Machine σ :=
  let machine := machine.update fun usbcmd =>
    { usbcmd with
      resetFlag :=
        if usbcmd.cbw.cdb 1 ≠ 0 then (usbcmd.cbw.cdb 1).toNat else 0xff }
  machine.replyGood .csw

/-- The dispatch on the command byte. -/
def fwDispatch (machine : Machine σ) : Machine σ :=
  match machine.usbcmd.cmnd with
  | kFwTestUnitReady => fwTestUnitReady P machine
  | kFwReadFlashId => fwReadID P machine
  | kFwTestBadBlock => fwTestBadBlock machine
  | kFwRead10 => fwRead10 machine
  | kFwWrite10 => fwWrite10 machine
  | kFwErase10 => fwErase10 P machine
  | kFwErase10Force => fwErase10Force P machine
  | kFwLbaRead10 => fwLBARead10 machine
  | kFwLbaWrite10 => fwLBAWrite10 machine
  | kFwEraseSysDisk => fwLowFormatSysDisk machine
  | kFwReadFlashInfo => fwGetFlashInfo P machine
  | kFwGetChipVer => fwGetChipVer P machine
  | kFwLowFormat => fwLowFormat P machine
  | kFwSetResetFlag => fwSetResetFlag machine
  | kFwReset => fwReset machine
  | _ => machine

/-- Take the wrapper out of a receive buffer. -/
@[simps! -fullyApplied usbcmd rxBuffer txBuffer ins outs platform log control]
def Machine.takeCbw (machine : Machine σ) (buf : Fin 2) : Machine σ :=
  let cbw := CbWrap.ofBuffer (machine.rxBuffer buf)
  let machine := (machine.loadRx buf).note (.command cbw)
  machine.update fun usbcmd => { usbcmd with cbw := cbw, cmnd := cbw.opcode }

def doRockusbCmd (machine : Machine σ) : Machine σ :=
  match machine.usbcmd.rxGiveback.buf with
  | none => { machine with control := .fault }
  | some buf => fwDispatch P (machine.takeCbw buf)

end KernelDrivers.Rockusb
