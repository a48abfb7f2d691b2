import KernelDrivers.Rockusb.Dispatch
import KernelDrivers.Rockusb.Iteration

/-!
# The data stage of a write

A call of `rkusb_handle_datarx` first posts the next transfer or sends the CSW
and then hands the received blocks to the platform.
-/

namespace KernelDrivers.Rockusb

open KernelDrivers.Library

variable {σ : Type} {P : Platform σ} {machine : Machine σ}

/-- The first part of `rkusb_handle_datarx`. -/
def Machine.answerData (machine : Machine σ) : Machine σ :=
  if machine.countData.usbcmd.dBytes < machine.countData.usbcmd.dSize then
    machine.countData.requestData
  else machine.countData.finishData

theorem rkusbHandleDatarx_eq : rkusbHandleDatarx P machine =
    writeMedia P machine.answerData machine.usbcmd.rxGiveback.buf
      (machine.usbcmd.rxGiveback.actual /
        rxBlockLength machine.usbcmd.cmnd) :=
  rfl

/-- What posting a transfer or the CSW may log. -/
def Event.isPosting : Event σ → Prop
  | .txStore .. => True
  | .csw _ => True
  | .bulkIn .. => True
  | .bulkOut .. => True
  | _ => False

/-- A transfer or the CSW was posted; the received blocks are still there. -/
structure Posted (P : Platform σ) (before after : Machine σ) : Prop where
  lba : after.usbcmd.lba = before.usbcmd.lba
  cmnd : after.usbcmd.cmnd = before.usbcmd.cmnd
  imgwrMode : after.usbcmd.imgwrMode = before.usbcmd.imgwrMode
  rxBuffer : after.rxBuffer = before.rxBuffer
  platform : after.platform = before.platform
  control : after.control = before.control
  log : Extends P Event.isPosting before after

namespace Posted

variable {before middle after : Machine σ}

theorem trans (first : Posted P before middle)
    (second : Posted P middle after) : Posted P before after :=
  ⟨second.lba.trans first.lba, second.cmnd.trans first.cmnd,
    second.imgwrMode.trans first.imgwrMode,
    second.rxBuffer.trans first.rxBuffer,
    second.platform.trans first.platform,
    second.control.trans first.control, first.log.trans second.log⟩

theorem countData (machine : Machine σ) :
    Posted P machine machine.countData := by
  unfold Machine.countData
  dsimp only
  split
  · exact ⟨rfl, rfl, rfl, rfl, rfl, rfl, .of_same rfl rfl rfl⟩
  · exact ⟨rfl, rfl, rfl, rfl, rfl, rfl, .refl machine⟩

theorem requestData (machine : Machine σ) :
    Posted P machine machine.requestData :=
  ⟨rfl, rfl, rfl, rfl, rfl, rfl, [_], rfl, rfl, .of_same rfl,
    by simp [Event.isPosting]⟩

theorem rkusbSendCsw (machine : Machine σ) :
    Posted P machine (rkusbSendCsw machine) := by
  by_cases ready : machine.usbcmd.txGiveback.status = .sendFinishedOk
  · have sent := rkusbSendCsw_ready ready
    have usbcmd := sent.usbcmd
    refine ⟨?_, ?_, ?_, sent.rxBuffer, sent.platform, sent.control,
      _, sent.log, sent.platform, ?_, ?_⟩
    · rw [usbcmd]
    · rw [usbcmd]
    · rw [usbcmd]
    · intro buf untouched
      apply sent.others
      rintro rfl
      exact untouched _ List.mem_cons_self
    · simp [Event.isPosting]
  · rw [rkusbSendCsw_busy ready]
    exact ⟨rfl, rfl, rfl, rfl, rfl, rfl, .refl machine⟩

theorem finishData (machine : Machine σ) :
    Posted P machine machine.finishData := by
  have replied : Posted P machine
      (machine.replyGood machine.usbcmd.status) :=
    ⟨rfl, rfl, rfl, rfl, rfl, rfl, .of_same rfl rfl rfl⟩
  exact replied.trans (rkusbSendCsw _)

theorem answerData (machine : Machine σ) :
    Posted P machine machine.answerData := by
  have counted := countData (P := P) machine
  unfold Machine.answerData
  split
  · exact counted.trans (requestData _)
  · exact counted.trans (finishData _)

end Posted

/-- A property that each part of the event handler keeps is kept by an event
of the bus. -/
theorem busEvent_of_parts {property : Machine σ → Prop}
    (configured : ∀ start value, property start → property
      (start.update fun usbcmd => { usbcmd with configured := value }))
    (idle : ∀ start, property start → property (start.setStatus .idle))
    (resetIn : ∀ start, property start → property start.resetIn)
    (resetOut : ∀ start, property start → property start.resetOut)
    (holds : property machine) (nEvent : Int) :
    property (rkusbEventHandlerForDwc3 machine nEvent) := by
  have either : ∀ (condition : Prop) [Decidable condition]
      {start next : Machine σ}, property start →
      (property start → property next) →
      property (if condition then next else start) := by
    intro condition _ start next here there
    split
    · exact there here
    · exact here
  unfold rkusbEventHandlerForDwc3
  dsimp only
  split
  · exact configured machine 0 holds
  · split
    · exact resetOut _ (resetIn _ (configured machine 1 holds))
    · split
      · exact idle machine holds
      · split
        · have first := either (nEvent / 65536 = 0) (idle machine holds)
            (resetIn _)
          have second := either (nEvent / 65536 = 1) first (resetOut _)
          exact either _ second fun here => resetOut _ (resetIn _ here)
        · exact holds

/-- What may be logged between two iterations. -/
def Event.isReport : Event σ → Prop
  | .bulkOut .. => True
  | .rxDone .. => True
  | .txDone .. => True
  | _ => False

theorem busEvent_extends (machine : Machine σ) (nEvent : Int) :
    Extends P Event.isReport machine
      (rkusbEventHandlerForDwc3 machine nEvent) := by
  refine @busEvent_of_parts σ machine
    (fun next => Extends P Event.isReport machine next) ?_ ?_ ?_ ?_
    (.refl machine) nEvent
  · exact fun start _ grown => grown.trans (.of_same rfl rfl rfl)
  · exact fun start grown => grown.trans (.of_same rfl rfl rfl)
  · exact fun start grown => grown.trans (.of_same rfl rfl rfl)
  · intro start grown
    have posted : Extends P Event.isReport start start.resetOut :=
      ⟨[_], rfl, rfl, .of_same rfl, by simp [Event.isReport]⟩
    exact grown.trans posted

/-- Between two iterations only completions and OUT transfers are logged. -/
theorem step_reports {after : Machine σ} {action : Action}
    (taken : step P machine action = some after)
    (other : action ≠ .iterate) : Extends P Event.isReport machine after := by
  cases action with
  | iterate => exact absurd rfl other
  | inDone index status actual =>
      obtain ⟨transfer, -, rfl⟩ := step_inDone taken
      exact ⟨[_], rfl, rfl, .of_same rfl, by simp [Event.isReport]⟩
  | outDone index status packet =>
      obtain ⟨transfer, -, -, rfl⟩ := step_outDone taken
      exact ⟨[_], rfl, rfl, .of_same rfl, by simp [Event.isReport]⟩
  | outDrop index =>
      obtain rfl := step_outDrop taken
      exact .of_same rfl rfl rfl
  | bus nEvent =>
      obtain rfl := step_bus taken
      exact busEvent_extends machine nEvent

/-- The registers that the callbacks of the UDC set. -/
def CmdRockusbInterface.CalledBack (before after : CmdRockusbInterface) :
    Prop :=
  ∃ status configured rxbufNum txbufNum rxGiveback txGiveback,
    (status = before.status ∨ status = .idle) ∧ after =
      { before with
        status := status
        configured := configured
        rxbufNum := rxbufNum
        txbufNum := txbufNum
        rxGiveback := rxGiveback
        txGiveback := txGiveback }

/-- The UDC reported something between two iterations. -/
structure CalledBack (before after : Machine σ) : Prop where
  usbcmd : before.usbcmd.CalledBack after.usbcmd
  txBuffer : after.txBuffer = before.txBuffer
  platform : after.platform = before.platform
  control : after.control = before.control

namespace CalledBack

variable {before middle after : Machine σ}

theorem trans (first : CalledBack before middle)
    (second : CalledBack middle after) : CalledBack before after := by
  obtain ⟨status, _, _, _, _, _, kept, usbcmd⟩ := first.usbcmd
  obtain ⟨status', _, _, _, _, _, kept', usbcmd'⟩ := second.usbcmd
  refine ⟨⟨status', _, _, _, _, _, ?_, by rw [usbcmd', usbcmd]⟩, ?_, ?_, ?_⟩
  · rcases kept' with same | idle
    · rw [usbcmd] at same
      rwa [same]
    · exact .inr idle
  · rw [second.txBuffer, first.txBuffer]
  · rw [second.platform, first.platform]
  · rw [second.control, first.control]

theorem of_kept
    (usbcmd : ∃ configured rxbufNum txbufNum rxGiveback txGiveback,
      after.usbcmd = { before.usbcmd with
        configured := configured
        rxbufNum := rxbufNum
        txbufNum := txbufNum
        rxGiveback := rxGiveback
        txGiveback := txGiveback })
    (txBuffer : after.txBuffer = before.txBuffer)
    (platform : after.platform = before.platform)
    (control : after.control = before.control) : CalledBack before after := by
  obtain ⟨_, _, _, _, _, usbcmd⟩ := usbcmd
  exact ⟨⟨_, _, _, _, _, _, .inl rfl, usbcmd⟩, txBuffer, platform, control⟩

theorem refl (machine : Machine σ) : CalledBack machine machine :=
  of_kept ⟨_, _, _, _, _, rfl⟩ rfl rfl rfl

theorem busEvent (machine : Machine σ) (nEvent : Int) :
    CalledBack machine (rkusbEventHandlerForDwc3 machine nEvent) := by
  refine @busEvent_of_parts σ machine (CalledBack machine) ?_ ?_ ?_ ?_
    (refl machine) nEvent
  · exact fun start _ called =>
      called.trans (of_kept ⟨_, _, _, _, _, rfl⟩ rfl rfl rfl)
  · exact fun start called =>
      called.trans ⟨⟨_, _, _, _, _, _, .inr rfl, rfl⟩, rfl, rfl, rfl⟩
  · exact fun start called =>
      called.trans (of_kept ⟨_, _, _, _, _, rfl⟩ rfl rfl rfl)
  · exact fun start called =>
      called.trans (of_kept ⟨_, _, _, _, _, rfl⟩ rfl rfl rfl)

theorem of_step {action : Action}
    (taken : step P machine action = some after)
    (other : action ≠ .iterate) : CalledBack machine after := by
  cases action with
  | iterate => exact absurd rfl other
  | inDone index status actual =>
      obtain ⟨transfer, -, rfl⟩ := step_inDone taken
      exact of_kept ⟨_, _, _, _, _, rfl⟩ rfl rfl rfl
  | outDone index status packet =>
      obtain ⟨transfer, -, -, rfl⟩ := step_outDone taken
      exact of_kept ⟨_, _, _, _, _, rfl⟩ rfl rfl rfl
  | outDrop index =>
      obtain rfl := step_outDrop taken
      exact of_kept ⟨_, _, _, _, _, rfl⟩ rfl rfl rfl
  | bus nEvent =>
      obtain rfl := step_bus taken
      exact busEvent machine nEvent

end CalledBack

end KernelDrivers.Rockusb
