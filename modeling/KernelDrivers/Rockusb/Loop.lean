import KernelDrivers.Library.Transition
import KernelDrivers.Rockusb.Commands

/-!
# The main loop and its interleavings

The data stages, the CSW, the loop of `do_rockusb`, and the callbacks of the
UDC.  `step` is one action of the system: an iteration of the loop, or an event
that `dwc3_uboot_handle_interrupt` reports between two iterations.
-/

namespace KernelDrivers.Rockusb

open KernelDrivers.Library

variable {σ : Type} (P : Platform σ)

/-- The address windows of `LBA_READ_10` and `LBA_WRITE_10`, in the order in
which the code tests for them. -/
inductive LbaWindow where
  | sysData
  | unlock
  | vendor
  | media
  deriving DecidableEq, Repr

def lbaWindow (lba : Nat) : LbaWindow :=
  if lba ≥ 0xFFFFFF00 then .sysData
  else if lba = 0xFFFFF000 then .unlock
  else if lba &&& 0xFFFF0000 = 0xFFF00000 then .vendor
  else .media

theorem lbaWindow_media {lba : Nat} (below : lba < 0xFFF00000) :
    lbaWindow lba = .media := by
  have masked : lba &&& 0xFFFF0000 ≤ lba := Nat.and_le_left
  unfold lbaWindow
  rw [if_neg (by omega), if_neg (by omega), if_neg (by omega)]

/-- `rkusb_send_csw`; nothing changes when it returns `-EBUSY`. -/
def rkusbSendCsw (machine : Machine σ) : Machine σ :=
  if machine.usbcmd.txGiveback.status ≠ .sendFinishedOk then machine
  else
    let machine := machine.update fun usbcmd =>
      { usbcmd with
        csw := { usbcmd.csw with
          signature := usbBulkCsSig
          tag := usbcmd.cbw.tag } }
    let csw := machine.usbcmd.csw
    let txbuf := machine.usbcmd.txbufNum
    let machine := machine.storeTx txbuf 0 13 fun i => csw.bytes.getD i 0
    let machine := (machine.note (.csw csw)).rkusbWriteBulkEp 13 txbuf
    let machine := machine.flipTx
    let machine := machine.rkusbReadBulkEp 31 machine.usbcmd.rxbufNum
    machine.flipRx.setStatus .idle

/-- `block_length` in `rkusb_handle_datarx`. -/
def rxBlockLength (cmnd : Nat) : Nat :=
  if cmnd = kFwWrite10 then 528 else if cmnd = kFwLbaWrite10 then 512 else 512

/-- Write received blocks to the area that the LBA selects. -/
def writeLba (machine : Machine σ) (buf : Fin 2) (blocks : Nat) :
    Machine σ :=
  let lba := machine.usbcmd.lba
  let rxdata := machine.rxBuffer buf
  let advance := fun machine : Machine σ => machine.update fun usbcmd =>
    { usbcmd with lba := wrap32 (usbcmd.lba + blocks) }
  match lbaWindow lba with
  | .sysData =>
      advance ((machine.loadRx buf).perform P
        (.storageVendorSysDataStore (lba - 0xFFFFFF00) blocks
          (rxdata.bytes 0 (blocks * 512))))
  | .unlock => (machine.loadRx buf).perform P (.secureBootUnlock rxdata)
  | .vendor =>
      let size := le16 (rxdata 4) (rxdata 5)
      advance ((machine.loadRx buf).perform P
        (.vendorStorageWrite (le16 (rxdata 0) (rxdata 1))
          (rxdata.bytes 8 size) size))
  | .media =>
      if P.secureBootLock machine.platform = 0 then
        advance ((machine.loadRx buf).perform P
          (.storageWriteLba lba (rxdata.bytes 0 (blocks * 512)) blocks
            machine.usbcmd.imgwrMode))
      else machine

/-- Write received blocks to the raw pages. -/
def writePba (machine : Machine σ) (buf : Fin 2) (blocks : Nat) :
    Machine σ :=
  let machine := machine.perform P (.iSetLoaderFlag .sysLoaderErr)
  if P.secureBootLock machine.platform = 0 then
    let machine := (machine.loadRx buf).perform P
      (.storageWritePba machine.usbcmd.lba
        ((machine.rxBuffer buf).bytes 0 (blocks * 528)) blocks)
    machine.update fun usbcmd =>
      { usbcmd with lba := wrap32 (usbcmd.lba + blocks) }
  else machine

/-- The last part of `rkusb_handle_datarx`. -/
def writeMedia (machine : Machine σ) (rxdataBuf : Option (Fin 2))
    (blocks : Nat) : Machine σ :=
  if blocks = 0 then machine
  else
    match rxdataBuf with
    | none => { machine with control := .fault }
    | some buf =>
        if machine.usbcmd.cmnd = kFwWrite10 then writePba P machine buf blocks
        else if machine.usbcmd.cmnd = kFwLbaWrite10 then
          writeLba P machine buf blocks
        else machine

/-- Count the bytes of the completion, if there are any. -/
def Machine.countData (machine : Machine σ) : Machine σ :=
  let actual := machine.usbcmd.rxGiveback.actual
  if actual ≠ 0 then
    machine.update fun usbcmd =>
      { usbcmd with dBytes := wrap32 (usbcmd.dBytes + actual) }
  else machine

/-- Post the next OUT transfer of the data stage. -/
def Machine.requestData (machine : Machine σ) : Machine σ :=
  let blockLength := rxBlockLength machine.usbcmd.cmnd
  let remaining := machine.usbcmd.dSize - machine.usbcmd.dBytes
  let rxBlocks := min (remaining / blockLength) rkusbBufferBlockMax
  let machine := machine.rkusbReadBulkEp (rxBlocks * blockLength)
    machine.usbcmd.rxbufNum
  machine.flipRx.setStatus .rxdata

/-- End the data stage: prepare the CSW and try to send it. -/
def Machine.finishData (machine : Machine σ) : Machine σ :=
  rkusbSendCsw (machine.replyGood machine.usbcmd.status)

def rkusbHandleDatarx (machine : Machine σ) : Machine σ :=
  let rxdata := machine.usbcmd.rxGiveback
  let rxdataBlocks := rxdata.actual / rxBlockLength machine.usbcmd.cmnd
  let machine := machine.countData
  let machine :=
    if machine.usbcmd.dBytes < machine.usbcmd.dSize then machine.requestData
    else machine.finishData
  writeMedia P machine rxdata.buf rxdataBlocks

/-- `block_length` in `rkusb_handle_datatx`. -/
def txBlockLength (cmnd : Nat) : Nat :=
  if cmnd = kFwRead10 then 528 else if cmnd = kFwLbaRead10 then 512 else 0

/-- `txdata_size` before it is cut to whole buffers. -/
def CmdRockusbInterface.txRemaining (usbcmd : CmdRockusbInterface) : Nat :=
  sub32 usbcmd.uSize usbcmd.uBytes

/-- `tx_blocks`, the blocks of the next transfer. -/
def CmdRockusbInterface.txBlocks (usbcmd : CmdRockusbInterface) : Nat :=
  min (usbcmd.txRemaining / txBlockLength usbcmd.cmnd) rkusbBufferBlockMax

/-- `txdata_size`, the bytes of the next transfer. -/
def CmdRockusbInterface.txdataSize (usbcmd : CmdRockusbInterface) : Nat :=
  let blockLength := txBlockLength usbcmd.cmnd
  if usbcmd.txRemaining / blockLength ≥ rkusbBufferBlockMax then
    rkusbBufferBlockMax * blockLength
  else usbcmd.txRemaining

/-- The hit test: the next blocks are already in the transmit buffer. -/
def CmdRockusbInterface.prereadHit (usbcmd : CmdRockusbInterface) : Prop :=
  usbcmd.txBlocks ≠ 0 ∧ usbcmd.preRead.preBlocks ≥ usbcmd.txBlocks ∧
    usbcmd.preRead.preLba = usbcmd.lba

instance (usbcmd : CmdRockusbInterface) : Decidable usbcmd.prereadHit :=
  inferInstanceAs (Decidable (_ ∧ _ ∧ _))

/-- Send the blocks that were found in the transmit buffer. -/
def Machine.sendPreread (machine : Machine σ) : Machine σ :=
  let blocks := machine.usbcmd.txBlocks
  let size := machine.usbcmd.txdataSize
  let txbuf := machine.usbcmd.txbufNum
  let machine := machine.note (.hit machine.usbcmd.cmnd machine.usbcmd.lba
    blocks ((machine.txBuffer txbuf).bytes 0 size) machine.platform)
  let machine := machine.update fun usbcmd =>
    { usbcmd with
      uBytes := wrap32 (usbcmd.uBytes + size)
      lba := wrap32 (usbcmd.lba + blocks)
      preRead := { usbcmd.preRead with
        preBlocks := usbcmd.preRead.preBlocks - blocks } }
  (machine.rkusbWriteBulkEp size txbuf).flipTx

/-- Make a call that stores into a transmit buffer from `start` on. -/
def Machine.readInto (machine : Machine σ) (buf : Fin 2) (start : Nat)
    (call : Call) : Machine σ :=
  let reply := machine.replyTo P call
  (machine.perform P call).storeTx buf start reply.size reply.data

/-- The vendor item that an LBA selects, with its identifier and size. -/
def readVendor (machine : Machine σ) (buf : Fin 2) : Machine σ :=
  let reqId := machine.usbcmd.lba &&& 0xFFFF
  let call := Call.vendorStorageRead reqId (sub32 machine.usbcmd.uSize 8)
  let reply := machine.replyTo P call
  let machine := machine.readInto P buf 8 call
  if reply.ret = -1 then machine
  else
    let machine := machine.storeTx buf 0 2 fun i =>
      if i = 0 then .ofNat reqId else .ofNat (reqId >>> 8)
    machine.storeTx buf 4 2 fun i =>
      if i = 0 then .ofNat reply.u32 else .ofNat (reply.u32 >>> 8)

/-- Fill the pre-read buffer from the media. -/
def readMedia (machine : Machine σ) (buf : Fin 2) (blocks : Nat) :
    Machine σ :=
  let preLba := machine.usbcmd.preRead.preLba
  let machine := machine.storeTx buf 0
    (blocks * txBlockLength machine.usbcmd.cmnd) fun _ => 0
  if machine.usbcmd.cmnd = kFwRead10 then
    machine.readInto P buf 0 (.storageReadPba preLba blocks)
  else if machine.usbcmd.cmnd = kFwLbaRead10 then
    match lbaWindow machine.usbcmd.lba with
    | .sysData => machine.readInto P buf 0
        (.storageVendorSysDataLoad (preLba - 0xFFFFFF00) blocks)
    | .unlock => machine.readInto P buf 0 .secureBootUnlockCheck
    | .vendor => readVendor P machine buf
    | .media => machine.readInto P buf 0 (.storageReadLba preLba blocks)
  else machine

/-- Note which blocks the next transfer will find in the transmit buffer. -/
@[simps! -fullyApplied usbcmd rxBuffer txBuffer ins outs platform log control]
def Machine.notePreread (machine : Machine σ) (blocks : Nat) : Machine σ :=
  machine.update fun usbcmd =>
    { usbcmd with preRead := ⟨some usbcmd.txbufNum, usbcmd.lba, blocks⟩ }

/-- Note the blocks and, unless there are none, read them. -/
def preread (machine : Machine σ) (blocks : Nat) : Machine σ :=
  let noted := machine.notePreread blocks
  if blocks = 0 then noted
  else readMedia P noted machine.usbcmd.txbufNum blocks

/-- Clear the pre-read data. -/
@[simps! -fullyApplied usbcmd rxBuffer txBuffer ins outs platform log control]
def Machine.clearPreread (machine : Machine σ) : Machine σ :=
  machine.update fun usbcmd =>
    { usbcmd with
      preRead := { usbcmd.preRead with preLba := 0, preBlocks := 0 } }

/-- Decide, after a hit or a miss, what to read ahead. -/
def planPreread (machine : Machine σ) (blocks : Nat) : Machine σ :=
  if machine.usbcmd.uSize = machine.usbcmd.uBytes then machine.clearPreread
  else if machine.usbcmd.uBytes = 0 ∨ blocks = rkusbBufferBlockMax then
    preread P machine blocks
  else machine

/-- One pass from the label `start` to the test that may go back to it. -/
def datatxRound (machine : Machine σ) : Machine σ :=
  planPreread P
    (if machine.usbcmd.prereadHit then machine.sendPreread else machine)
    machine.usbcmd.txBlocks

/-- Rounds until one leaves `u_bytes` non-zero, at most `fuel` of them. -/
def datatxRounds : Nat → Machine σ → Option (Machine σ)
  | 0, _ => none
  | fuel + 1, machine =>
      let machine := datatxRound P machine
      if machine.usbcmd.uBytes = 0 then datatxRounds fuel machine
      else some machine

/-- The tail of `rkusb_handle_datatx`, after the last round. -/
def Machine.finishDatatx (machine : Machine σ) : Machine σ :=
  if machine.usbcmd.uSize = machine.usbcmd.uBytes then machine.replyGood .csw
  else machine

/-- `rkusb_handle_datatx`.  Two rounds are enough whenever the loop ends. -/
def rkusbHandleDatatx (machine : Machine σ) : Machine σ :=
  (datatxRounds P 2 machine).elim { machine with control := .hung }
    Machine.finishDatatx

def rkusbHandleResponse (machine : Machine σ) : Machine σ :=
  match machine.usbcmd.status with
  | .txdata =>
      let machine := machine.rkusbWriteBulkEp machine.usbcmd.transferSize
        machine.usbcmd.txbufNum
      machine.flipTx.replyGood .csw
  | .rxdata =>
      if machine.usbcmd.rxGiveback.status = .recvOk then
        rkusbHandleDatarx P machine
      else machine
  | .rxdataPrepare => rkusbHandleDatarx P machine
  | .txdataPrepare =>
      if machine.usbcmd.uBytes = 0 ∨
          machine.usbcmd.txGiveback.status = .sendFinishedOk then
        rkusbHandleDatatx P machine
      else machine
  | _ => machine

/-- The idle test: a packet is there, so it is taken as a command. -/
def handleIdle (machine : Machine σ) : Machine σ :=
  if machine.usbcmd.status = .idle ∧ machine.usbcmd.rxGiveback.actual > 0 then
    doRockusbCmd P (machine.setStatus .cmd)
  else machine

def handleCsw (machine : Machine σ) : Machine σ :=
  if machine.usbcmd.status = .csw then rkusbSendCsw machine else machine

def rkusbResetCheck (machine : Machine σ) : Machine σ :=
  let cleared :=
    machine.update fun usbcmd => { usbcmd with resetFlag := 0 }
  match machine.usbcmd.resetFlag with
  | 0x03 =>
      { cleared.perform P (.iSetLoaderFlag .maskrom) with
        control := .cpuReset }
  | 0x10 => cleared.perform P .secureBootLockLoader
  | 0xFF => { cleared with control := .cpuReset }
  | 0x01 =>
      { cleared.perform P (.iSetLoaderFlag .rebootNorecover) with
        control := .cpuReset }
  | _ => machine

/-- Go on with the rest of an iteration unless control has left the loop. -/
def Machine.andThen (machine : Machine σ) (rest : Machine σ → Machine σ) :
    Machine σ :=
  if machine.control = .running then rest machine else machine

/-- `rkusb_reset_check` and `rkusb_lowformat_check`. -/
def endOfIteration (machine : Machine σ) : Machine σ :=
  (rkusbResetCheck P machine).andThen fun machine =>
    machine.perform P .fwSorageLowFormat

/-- One iteration of the loop of `do_rockusb`. -/
def doRockusb (machine : Machine σ) : Machine σ :=
  (handleIdle P machine).andThen fun machine =>
    (rkusbHandleResponse P machine).andThen fun machine =>
      endOfIteration P (handleCsw machine)

@[simps! -fullyApplied usbcmd rxBuffer txBuffer ins outs platform log control]
def dwc3RxHandler (machine : Machine σ) (status : Int) (actual : Nat)
    (buf : Fin 2) : Machine σ :=
  machine.update fun usbcmd =>
    { usbcmd with
      rxGiveback :=
        if status ≠ 0 then { usbcmd.rxGiveback with status := .recvError }
        else ⟨.recvOk, actual, some buf⟩ }

@[simps! -fullyApplied usbcmd rxBuffer txBuffer ins outs platform log control]
def dwc3TxHandler (machine : Machine σ) (status : Int) (actual : Nat)
    (buf : Fin 2) : Machine σ :=
  machine.update fun usbcmd =>
    { usbcmd with
      txGiveback :=
        if status ≠ 0 then
          { usbcmd.txGiveback with status := .sendFinishedError }
        else ⟨.sendFinishedOk, actual, some buf⟩ }

/-- The IN half of an event: `txbuf_num = 0`, transfer finished. -/
@[simps! -fullyApplied usbcmd rxBuffer txBuffer ins outs platform log control]
def Machine.resetIn (machine : Machine σ) : Machine σ :=
  machine.update fun usbcmd =>
    { usbcmd with
      txbufNum := 0
      txGiveback := { usbcmd.txGiveback with
        status := .sendFinishedOk
        actual := 0 } }

/-- The OUT half of an event: `rxbuf_num = 0`, wait for a CBW. -/
def Machine.resetOut (machine : Machine σ) : Machine σ :=
  let machine := machine.update fun usbcmd => { usbcmd with rxbufNum := 0 }
  (machine.rkusbReadBulkEp 31 machine.usbcmd.rxbufNum).flipRx

def rkusbEventHandlerForDwc3 (machine : Machine σ) (nEvent : Int) :
    Machine σ :=
  let event := nEvent % 65536
  let param := nEvent / 65536
  if event = 1 ∨ event = 5 then
    machine.update fun usbcmd => { usbcmd with configured := 0 }
  else if event = 2 then
    let machine :=
      machine.update fun usbcmd => { usbcmd with configured := 1 }
    machine.resetIn.resetOut
  else if event = 3 then machine.setStatus .idle
  else if event = 4 then
    let machine := machine.setStatus .idle
    let machine := if param = 0 then machine.resetIn else machine
    let machine := if param = 1 then machine.resetOut else machine
    if param = 0x10 then machine.resetIn.resetOut else machine
  else machine

/-- `inDone` and `outDone` complete the named outstanding transfer, OK when
`status` is 0, and `outDrop` flushes one that is never reported. -/
inductive Action where
  | iterate
  | inDone (index : Nat) (status : Int) (actual : Nat)
  | outDone (index : Nat) (status : Int) (packet : List UInt8)
  | outDrop (index : Nat)
  | bus (nEvent : Int)

/-- An IN transfer completes and `dwc3_tx_handler` is called. -/
def completeIn (machine : Machine σ) (index : Nat) (transfer : Transfer)
    (status : Int) (actual : Nat) : Machine σ :=
  let machine :=
    { machine with
      ins := machine.ins.eraseIdx index
      log := machine.log ++ [.txDone transfer status] }
  dwc3TxHandler machine status actual transfer.buf

/-- An OUT transfer completes: its packet is in the buffer, and
`dwc3_rx_handler` is called. -/
def completeOut (machine : Machine σ) (index : Nat) (transfer : Transfer)
    (status : Int) (packet : List UInt8) : Machine σ :=
  let machine :=
    { machine with
      outs := machine.outs.eraseIdx index
      rxBuffer := Function.update machine.rxBuffer transfer.buf
        ((machine.rxBuffer transfer.buf).storeList 0 packet)
      log := machine.log ++ [.rxDone transfer status packet] }
  dwc3RxHandler machine status packet.length transfer.buf

/-- One action, if the machine still runs and the transfer is outstanding.  The
UDC never stores or reports more bytes than were asked for. -/
def step (machine : Machine σ) (action : Action) : Option (Machine σ) :=
  if machine.control ≠ .running then none
  else
    match action with
    | .iterate => some (doRockusb P machine)
    | .inDone index status actual =>
        match machine.ins[index]? with
        | none => none
        | some transfer =>
            if actual ≤ transfer.len then
              some (completeIn machine index transfer status actual)
            else none
    | .outDone index status packet =>
        match machine.outs[index]? with
        | none => none
        | some transfer =>
            if packet.length ≤ transfer.len then
              some (completeOut machine index transfer status packet)
            else none
    | .outDrop index =>
        if index < machine.outs.length then
          some { machine with outs := machine.outs.eraseIdx index }
        else none
    | .bus nEvent => some (rkusbEventHandlerForDwc3 machine nEvent)

/-- The state in which `do_rockusb` enters its loop. -/
def startMachine (zero : GivebackStatus) (rx tx : Fin 2 → Memory)
    (platform : σ) : Machine σ :=
  { usbcmd := .zeroed zero
    rxBuffer := rx
    txBuffer := tx
    ins := []
    outs := []
    platform := platform
    log := []
    control := .running }

end KernelDrivers.Rockusb
