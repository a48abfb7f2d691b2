import KernelDrivers.Rockusb.Loop

/-!
# What a command can do

Every handler answers from its registers and the platform, or prepares a data
stage.  The invariants of whole runs are derived from this one case analysis.
-/

namespace KernelDrivers.Rockusb

open KernelDrivers.Library

variable {σ : Type} {P : Platform σ} {machine : Machine σ}

/-- The platform after the calls among some events. -/
def replay (P : Platform σ) (state : σ) (events : List (Event σ)) : σ :=
  events.foldl (fun state event =>
    match event with
    | .call call _ => P.next state call
    | _ => state) state

/-- The transmit buffers that no event stores into are the same. -/
def TxKept (events : List (Event σ)) (before after : Machine σ) : Prop :=
  ∀ buf, (∀ owned, .txStore buf owned ∉ events) →
    after.txBuffer buf = before.txBuffer buf

theorem TxKept.of_same {events : List (Event σ)} {before after : Machine σ}
    (same : after.txBuffer = before.txBuffer) : TxKept events before after :=
  fun _ _ => by rw [same]

/-- The log grew by allowed events, and the platform followed their calls and
the transmit buffers their stores. -/
def Extends (P : Platform σ) (allowed : Event σ → Prop)
    (before after : Machine σ) : Prop :=
  ∃ events, after.log = before.log ++ events ∧
    after.platform = replay P before.platform events ∧
    TxKept events before after ∧
    ∀ event ∈ events, allowed event

namespace Extends

variable {allowed allowed' : Event σ → Prop} {before middle after : Machine σ}

theorem refl (machine : Machine σ) : Extends P allowed machine machine :=
  ⟨[], by simp, rfl, .of_same rfl, by simp⟩

theorem of_same (log : after.log = before.log)
    (platform : after.platform = before.platform)
    (txBuffer : after.txBuffer = before.txBuffer) :
    Extends P allowed before after :=
  ⟨[], by simp [log], platform, .of_same txBuffer, by simp⟩

theorem trans (first : Extends P allowed before middle)
    (second : Extends P allowed middle after) :
    Extends P allowed before after := by
  obtain ⟨events, log, platform, kept, inside⟩ := first
  obtain ⟨events', log', platform', kept', inside'⟩ := second
  refine ⟨events ++ events', ?_, ?_, ?_, ?_⟩
  · rw [log', log, List.append_assoc]
  · rw [platform', platform, replay, replay, replay, List.foldl_append]
  · intro buf untouched
    simp only [List.mem_append, not_or] at untouched
    have early := kept buf fun owned => (untouched owned).1
    have late := kept' buf fun owned => (untouched owned).2
    exact late.trans early
  · exact List.forall_mem_append.mpr ⟨inside, inside'⟩

theorem mono (grown : Extends P allowed before after)
    (weaker : ∀ event, allowed event → allowed' event) :
    Extends P allowed' before after := by
  obtain ⟨events, log, platform, kept, inside⟩ := grown
  exact ⟨events, log, platform, kept,
    fun event member => weaker event (inside event member)⟩

theorem of_event {event : Event σ} (permitted : allowed event)
    (log : after.log = before.log ++ [event])
    (platform : after.platform = replay P before.platform [event])
    (txBuffer : after.txBuffer = before.txBuffer) :
    Extends P allowed before after :=
  ⟨[event], log, platform, .of_same txBuffer, by simpa using permitted⟩

theorem perform {machine : Machine σ} {call : Call}
    (permitted : allowed (.call call (P.reply machine.platform call))) :
    Extends P allowed machine (machine.perform P call) :=
  of_event permitted rfl rfl rfl

theorem storeTx {machine : Machine σ} {buf : Fin 2}
    (permitted : allowed (.txStore buf (machine.ins.map Transfer.buf)))
    (start length : Nat) (data : Memory) :
    Extends P allowed machine (machine.storeTx buf start length data) := by
  refine ⟨[_], rfl, rfl, ?_, by simpa using permitted⟩
  intro other untouched
  have different : other ≠ buf := by
    rintro rfl
    exact untouched _ List.mem_cons_self
  rw [Machine.storeTx_txBuffer, Function.update_of_ne different]

theorem grown (extended : Extends P allowed before after)
    (weaker : ∀ event, allowed event → allowed' event) :
    ∃ events, after.log = before.log ++ events ∧
      ∀ event ∈ events, allowed' event := by
  obtain ⟨events, log, -, -, inside⟩ := extended
  exact ⟨events, log, fun event member => weaker event (inside event member)⟩

theorem forall_log {property : Event σ → Prop}
    (grown : Extends P allowed before after)
    (weaker : ∀ event, allowed event → property event)
    (held : ∀ event ∈ before.log, property event) :
    ∀ event ∈ after.log, property event := by
  obtain ⟨events, log, -, -, inside⟩ := grown
  rw [log]
  refine List.forall_mem_append.mpr ⟨held, ?_⟩
  exact fun event member => weaker event (inside event member)

end Extends

/-- The command of a machine arms the low format. -/
def Machine.armsFormat (P : Platform σ) (machine : Machine σ) : Prop :=
  machine.usbcmd.cmnd = kFwLowFormat ∨
    machine.usbcmd.cmnd = kFwTestUnitReady ∧
      (machine.usbcmd.cbw.cdb 1).toNat = 0xFD ∧
      (P.reply machine.platform .fwStorageGetValid).ret ≠ 0

/-- The calls that hand received blocks to the media. -/
def Call.isWrite : Call → Bool
  | .storageWriteLba .. => true
  | .storageWritePba .. => true
  | _ => false

/-- The calls that read into a transmit buffer. -/
def Call.isLoad : Call → Bool
  | .storageReadLba .. => true
  | .storageReadPba .. => true
  | .storageVendorSysDataLoad .. => true
  | .secureBootUnlockCheck => true
  | .vendorStorageRead .. => true
  | _ => false

/-- The calls that ask for an identification or a state. -/
def Call.isQuery : Call → Bool
  | .storageReadId => true
  | .storageReadFlashInfo => true
  | .rkGetBootromChipVersion => true
  | .fwStorageGetValid => true
  | .fwGetTotleBlk => true
  | .fwGetCurEraseBlock => true
  | .storageGetCapacity => true
  | _ => false

/-- What a handler may log: permitted calls, and stores into one transmit
buffer. -/
def Event.isAnswer (permitted : Call → Prop) (buf : Fin 2)
    (owned : List (Fin 2)) (event : Event σ) : Prop :=
  (∃ call reply, event = .call call reply ∧ permitted call) ∨
    event = .txStore buf owned

/-- The registers that an answer sets. -/
def CmdRockusbInterface.AnswersTo (before after : CmdRockusbInterface) :
    Prop :=
  ∃ size csw flag status, after =
    { before with
      transferSize := size
      csw := csw
      resetFlag := flag
      status := status }

/-- An answer was made and the transfers were left alone. -/
structure Answers (P : Platform σ) (permitted : Call → Prop)
    (before after : Machine σ) : Prop where
  usbcmd : before.usbcmd.AnswersTo after.usbcmd
  rxBuffer : after.rxBuffer = before.rxBuffer
  ins : after.ins = before.ins
  outs : after.outs = before.outs
  control : after.control = before.control
  log : Extends P (Event.isAnswer permitted before.usbcmd.txbufNum
    (before.ins.map Transfer.buf)) before after

namespace Answers

variable {permitted : Call → Prop} {before middle after machine : Machine σ}

theorem trans (first : Answers P permitted before middle)
    (second : Answers P permitted middle after) :
    Answers P permitted before after := by
  obtain ⟨size, csw, flag, status, usbcmd⟩ := first.usbcmd
  obtain ⟨size', csw', flag', status', usbcmd'⟩ := second.usbcmd
  have log := second.log
  rw [usbcmd, first.ins] at log
  refine ⟨⟨size', csw', flag', status', ?_⟩, ?_, ?_, ?_, ?_,
    first.log.trans log⟩
  · rw [usbcmd', usbcmd]
  · rw [second.rxBuffer, first.rxBuffer]
  · rw [second.ins, first.ins]
  · rw [second.outs, first.outs]
  · rw [second.control, first.control]

theorem perform (machine : Machine σ) {call : Call} (may : permitted call) :
    Answers P permitted machine (machine.perform P call) :=
  ⟨⟨_, _, _, _, rfl⟩, rfl, rfl, rfl, rfl, .perform (.inl ⟨_, _, rfl, may⟩)⟩

theorem update {change : CmdRockusbInterface → CmdRockusbInterface}
    (registers : machine.usbcmd.AnswersTo (change machine.usbcmd)) :
    Answers P permitted machine (machine.update change) :=
  ⟨registers, rfl, rfl, rfl, rfl, .of_same rfl rfl rfl⟩

theorem storeTx (machine : Machine σ) (start length : Nat) (data : Memory) :
    Answers P permitted machine
      (machine.storeTx machine.usbcmd.txbufNum start length data) :=
  ⟨⟨_, _, _, _, rfl⟩, rfl, rfl, rfl, rfl, .storeTx (.inr rfl) _ _ _⟩

theorem reply (machine : Machine σ) (residue cswStatus : Nat)
    (status : RkusbStatus) :
    Answers P permitted machine (machine.reply residue cswStatus status) :=
  update ⟨_, _, _, _, rfl⟩

theorem replyData (machine : Machine σ) (size : Nat) :
    Answers P permitted machine (machine.replyData size) :=
  (update ⟨size, _, _, _, rfl⟩).trans (reply _ _ _ _)

theorem fillTx (machine : Machine σ) {call : Call} (may : permitted call) :
    Answers P permitted machine (machine.fillTx P call) :=
  (perform machine may).trans (storeTx _ 0 _ _)

theorem fwTestUnitReady (machine : Machine σ)
    (query : ∀ call, call.isQuery = true → permitted call)
    (format : (machine.usbcmd.cbw.cdb 1).toNat = 0xFD →
      (P.reply machine.platform .fwStorageGetValid).ret ≠ 0 →
      permitted (.fwSorageLowFormatEn 1)) :
    Answers P permitted machine (fwTestUnitReady P machine) := by
  have valid : Answers P permitted machine
      (machine.perform P .fwStorageGetValid) := perform machine (query _ rfl)
  unfold Rockusb.fwTestUnitReady
  dsimp only
  split
  · exact ((valid.trans (perform _ (query _ rfl))).trans
      (perform _ (query _ rfl))).trans (reply _ _ _ _)
  · rename_i invalid
    split
    · rename_i subCode
      exact ((valid.trans (perform _ (query _ rfl))).trans
        (reply _ _ _ _)).trans (perform _ (format subCode invalid))
    · split
      · exact (valid.trans (reply _ _ _ _)).trans
          (update ⟨_, _, 0x10, _, rfl⟩)
      · split
        · exact (valid.trans (perform _ (query _ rfl))).trans (reply _ _ _ _)
        · split
          · exact valid.trans (reply _ _ _ _)
          · exact valid.trans (reply _ _ _ _)

theorem erase (machine : Machine σ) (mode : Nat)
    (erases : P.secureBootLock machine.platform = 0 →
      ∀ block count, permitted (.storageEraseBlock block count mode)) :
    Answers P permitted machine (machine.erase P mode) := by
  unfold Machine.erase
  dsimp only
  split
  · rename_i unlocked
    exact (perform machine (erases unlocked _ _)).trans (reply _ _ _ _)
  · exact reply _ _ _ _

theorem fwReset (machine : Machine σ) :
    Answers P permitted machine (fwReset machine) :=
  (update ⟨_, _, _, _, rfl⟩).trans (reply _ _ _ _)

theorem readInto (machine : Machine σ) (start : Nat) {call : Call}
    (may : permitted call) :
    Answers P permitted machine
      (machine.readInto P machine.usbcmd.txbufNum start call) :=
  (perform machine may).trans (storeTx _ start _ _)

theorem readVendor (machine : Machine σ)
    (load : ∀ call, call.isLoad = true → permitted call) :
    Answers P permitted machine
      (readVendor P machine machine.usbcmd.txbufNum) := by
  unfold Rockusb.readVendor
  dsimp only
  split
  · exact readInto machine 8 (load _ rfl)
  · exact ((readInto machine 8 (load _ rfl)).trans (storeTx _ 0 2 _)).trans
      (storeTx _ 4 2 _)

theorem readMedia (machine : Machine σ) (blocks : Nat)
    (load : ∀ call, call.isLoad = true → permitted call) :
    Answers P permitted machine
      (readMedia P machine machine.usbcmd.txbufNum blocks) := by
  have zeroed : Answers P permitted machine _ := storeTx machine 0
    (blocks * txBlockLength machine.usbcmd.cmnd) fun _ => 0
  unfold Rockusb.readMedia
  dsimp only
  split
  · exact zeroed.trans (readInto _ 0 (load _ rfl))
  · split
    · split
      · exact zeroed.trans (readInto _ 0 (load _ rfl))
      · exact zeroed.trans (readInto _ 0 (load _ rfl))
      · exact zeroed.trans (readVendor _ load)
      · exact zeroed.trans (readInto _ 0 (load _ rfl))
    · exact zeroed

end Answers

theorem readMedia_usbcmd (machine : Machine σ) (buf : Fin 2) (blocks : Nat) :
    (readMedia P machine buf blocks).usbcmd = machine.usbcmd := by
  unfold readMedia readVendor
  dsimp only
  repeat' split
  all_goals rfl

/-- What the dispatch makes of a command. -/
inductive Dispatched (P : Platform σ) (permitted : Call → Prop)
    (machine : Machine σ) : Machine σ → Prop where
  | unknown : Dispatched P permitted machine machine
  | answered {after : Machine σ} : Answers P permitted machine after →
      after.usbcmd.status = .csw → Dispatched P permitted machine after
  | data {after : Machine σ} : Answers P permitted machine after →
      after.usbcmd.status = .txdata →
      after.usbcmd.resetFlag = machine.usbcmd.resetFlag →
      Dispatched P permitted machine after
  | read {block : Nat} : machine.usbcmd.cmnd = kFwRead10 ∨
      machine.usbcmd.cmnd = kFwLbaRead10 →
      block = txBlockLength machine.usbcmd.cmnd →
      Dispatched P permitted machine (machine.prepareRead block)
  | write {block mode : Nat} : machine.usbcmd.cmnd = kFwWrite10 ∨
      machine.usbcmd.cmnd = kFwLbaWrite10 →
      block = rxBlockLength machine.usbcmd.cmnd →
      Dispatched P permitted machine ((machine.update fun usbcmd =>
        { usbcmd with imgwrMode := mode }).prepareWrite block)

theorem fwTestUnitReady_status (machine : Machine σ) :
    (fwTestUnitReady P machine).usbcmd.status = .csw := by
  unfold fwTestUnitReady
  dsimp only
  repeat' split
  all_goals rfl

theorem erase_status (machine : Machine σ) (mode : Nat) :
    (machine.erase P mode).usbcmd.status = .csw := by
  unfold Machine.erase
  split <;> rfl

/-- A command queries the platform; it erases only without the lock, and only
some commands arm the low format. -/
theorem fwDispatch_cases {permitted : Call → Prop} (machine : Machine σ)
    (query : ∀ call, call.isQuery = true → permitted call)
    (erases : P.secureBootLock machine.platform = 0 →
      ∀ block count mode, permitted (.storageEraseBlock block count mode))
    (format : machine.armsFormat P → permitted (.fwSorageLowFormatEn 1)) :
    Dispatched P permitted machine (fwDispatch P machine) := by
  have erase := fun mode => Answers.erase (P := P) machine mode
    (fun unlocked block count => erases unlocked block count mode)
  unfold fwDispatch
  split
  · rename_i opcode
    exact .answered (.fwTestUnitReady machine query
      (fun subCode valid => format (.inr ⟨opcode, subCode, valid⟩)))
      (fwTestUnitReady_status machine)
  · exact .data ((Answers.fillTx machine (query _ rfl)).trans
      (.replyData _ 5)) rfl rfl
  · exact .data ((Answers.storeTx machine 0 64 _).trans (.replyData _ 64)) rfl
      rfl
  · rename_i opcode
    exact .read (.inl opcode) (by rw [opcode]; rfl)
  · rename_i opcode
    exact .write (.inl opcode) (by rw [opcode]; rfl)
  · exact .answered (erase 0) (erase_status machine 0)
  · exact .answered (erase 1) (erase_status machine 1)
  · rename_i opcode
    exact .read (.inr opcode) (by rw [opcode]; rfl)
  · rename_i opcode
    exact .write (.inr opcode) (by rw [opcode]; rfl)
  · exact .answered (.reply machine _ _ .csw) rfl
  · exact .data ((Answers.fillTx machine (query _ rfl)).trans
      (.replyData _ 11)) rfl rfl
  · exact .data (((Answers.perform machine (query _ rfl)).trans
      (.storeTx _ 0 16 _)).trans (.replyData _ 16)) rfl rfl
  · rename_i opcode
    exact .answered ((Answers.reply machine _ _ _).trans
      (.perform _ (format (.inl opcode)))) rfl
  · exact .answered ((Answers.update ⟨_, _, 1, _, rfl⟩).trans
      (.reply _ _ _ _)) rfl
  · exact .answered (.fwReset machine) rfl
  · exact .unknown

theorem fwDispatch_any (machine : Machine σ) :
    Dispatched P (fun _ => True) machine (fwDispatch P machine) :=
  fwDispatch_cases machine (fun _ _ => trivial) (fun _ _ _ _ => trivial)
    (fun _ => trivial)

theorem Dispatched.control {permitted : Call → Prop}
    {machine after : Machine σ}
    (dispatched : Dispatched P permitted machine after) :
    after.control = machine.control := by
  cases dispatched with
  | unknown => rfl
  | answered answers => exact answers.control
  | data answers => exact answers.control
  | read => rfl
  | write => rfl

/-- Calls that are permitted, and stores into a transmit buffer. -/
def Event.isFill (permitted : Call → Prop) : Event σ → Prop
  | .call made _ => permitted made
  | .txStore .. => True
  | _ => False

theorem Answers.extends {permitted : Call → Prop} {before after : Machine σ}
    (answers : Answers P permitted before after) :
    Extends P (Event.isFill permitted) before after := by
  refine answers.log.mono ?_
  intro event allowed
  cases allowed with
  | inl called =>
      obtain ⟨call, reply, rfl, may⟩ := called
      exact may
  | inr stored =>
      subst stored
      trivial

theorem Dispatched.extends {permitted : Call → Prop}
    {machine after : Machine σ}
    (dispatched : Dispatched P permitted machine after) :
    Extends P (Event.isFill permitted) machine after := by
  cases dispatched with
  | unknown => exact .refl machine
  | answered answers => exact answers.extends
  | data answers => exact answers.extends
  | read => exact .of_same rfl rfl rfl
  | write => exact .of_same rfl rfl rfl

@[simp] theorem sendPreread_usbcmd : machine.sendPreread.usbcmd =
    { machine.usbcmd with
      uBytes := wrap32 (machine.usbcmd.uBytes + machine.usbcmd.txdataSize)
      lba := wrap32 (machine.usbcmd.lba + machine.usbcmd.txBlocks)
      preRead := { machine.usbcmd.preRead with
        preBlocks :=
          machine.usbcmd.preRead.preBlocks - machine.usbcmd.txBlocks }
      txGiveback := ⟨.sendInProgress, 0, none⟩
      txbufNum := machine.usbcmd.txbufNum + 1 } := by
  simp [Machine.sendPreread]

/-- The bytes that `sendPreread` hands over. -/
def Machine.prereadPayload (machine : Machine σ) : List UInt8 :=
  (machine.txBuffer machine.usbcmd.txbufNum).bytes 0
    machine.usbcmd.txdataSize

@[simp] theorem sendPreread_log : machine.sendPreread.log = machine.log ++
    [.hit machine.usbcmd.cmnd machine.usbcmd.lba machine.usbcmd.txBlocks
        machine.prereadPayload machine.platform,
      .bulkIn machine.usbcmd.txbufNum machine.prereadPayload] := by
  simp [Machine.sendPreread, Machine.prereadPayload]

@[simp] theorem sendPreread_ins : machine.sendPreread.ins =
    machine.ins ++ [⟨machine.usbcmd.txbufNum, machine.usbcmd.txdataSize⟩] := by
  simp [Machine.sendPreread]

@[simp] theorem sendPreread_outs : machine.sendPreread.outs = machine.outs := by
  simp [Machine.sendPreread]

@[simp] theorem sendPreread_rxBuffer :
    machine.sendPreread.rxBuffer = machine.rxBuffer := by
  simp [Machine.sendPreread]

@[simp] theorem sendPreread_txBuffer :
    machine.sendPreread.txBuffer = machine.txBuffer := by
  simp [Machine.sendPreread]

@[simp] theorem sendPreread_platform :
    machine.sendPreread.platform = machine.platform := by
  simp [Machine.sendPreread]

@[simp] theorem sendPreread_control :
    machine.sendPreread.control = machine.control := by
  simp [Machine.sendPreread]

/-- What a data stage to the host may log. -/
def Event.isSending : Event σ → Prop
  | .call made _ => made.isLoad = true
  | .txStore .. => True
  | .hit .. => True
  | .bulkIn .. => True
  | _ => False

/-- The registers that a data stage to the host sets before it ends. -/
def CmdRockusbInterface.SendsTo (before after : CmdRockusbInterface) : Prop :=
  ∃ uBytes lba preRead txGiveback txbufNum, after =
    { before with
      uBytes := uBytes
      lba := lba
      preRead := preRead
      txGiveback := txGiveback
      txbufNum := txbufNum }

/-- Blocks were sent or read ahead; the OUT direction was left alone. -/
structure Supplied (P : Platform σ) (before after : Machine σ) : Prop where
  usbcmd : before.usbcmd.SendsTo after.usbcmd
  rxBuffer : after.rxBuffer = before.rxBuffer
  outs : after.outs = before.outs
  control : after.control = before.control
  log : Extends P Event.isSending before after

namespace Supplied

variable {before middle after : Machine σ}

theorem refl (machine : Machine σ) : Supplied P machine machine :=
  ⟨⟨_, _, _, _, _, rfl⟩, rfl, rfl, rfl, .refl machine⟩

theorem trans (first : Supplied P before middle)
    (second : Supplied P middle after) : Supplied P before after := by
  obtain ⟨_, _, _, _, _, usbcmd⟩ := first.usbcmd
  obtain ⟨uBytes, lba, preRead, txGiveback, txbufNum, usbcmd'⟩ := second.usbcmd
  refine ⟨⟨uBytes, lba, preRead, txGiveback, txbufNum, ?_⟩,
    second.rxBuffer.trans first.rxBuffer, second.outs.trans first.outs,
    second.control.trans first.control, first.log.trans second.log⟩
  rw [usbcmd', usbcmd]

theorem planPreread (machine : Machine σ) (blocks : Nat) :
    Supplied P machine (planPreread P machine blocks) := by
  have noted : Supplied P machine (machine.notePreread blocks) :=
    ⟨⟨_, _, _, _, _, rfl⟩, rfl, rfl, rfl, .of_same rfl rfl rfl⟩
  unfold Rockusb.planPreread
  split
  · exact ⟨⟨_, _, _, _, _, rfl⟩, rfl, rfl, rfl, .of_same rfl rfl rfl⟩
  · split
    · unfold preread
      dsimp only
      split
      · exact noted
      · have filled : Answers P (fun call => call.isLoad = true)
            (machine.notePreread blocks) _ :=
          .readMedia _ blocks (fun _ load => load)
        refine noted.trans ⟨⟨_, _, _, _, _, readMedia_usbcmd _ _ _⟩,
          filled.rxBuffer, filled.outs, filled.control, ?_⟩
        refine filled.extends.mono ?_
        intro event fill
        cases event <;> trivial
    · exact refl machine

theorem sendPreread (machine : Machine σ) :
    Supplied P machine machine.sendPreread := by
  refine ⟨⟨_, _, _, _, _, sendPreread_usbcmd⟩, sendPreread_rxBuffer,
    sendPreread_outs, sendPreread_control, _, sendPreread_log,
    sendPreread_platform, .of_same sendPreread_txBuffer, ?_⟩
  simp [Event.isSending]

theorem datatxRound (machine : Machine σ) :
    Supplied P machine (datatxRound P machine) := by
  unfold Rockusb.datatxRound
  split
  · exact (sendPreread machine).trans (planPreread _ _)
  · exact planPreread _ _

theorem datatxRounds (fuel : Nat) {machine : Machine σ}
    (ended : datatxRounds P fuel machine = some after) :
    Supplied P machine after := by
  induction fuel generalizing machine with
  | zero => cases ended
  | succ fuel induction =>
      have round := datatxRound (P := P) machine
      rw [Rockusb.datatxRounds] at ended
      split at ended
      · exact round.trans (induction ended)
      · cases ended
        exact round

end Supplied

theorem rkusbHandleDatatx_supplied (machine : Machine σ) :
    ∃ next, Supplied P machine next ∧
      (rkusbHandleDatatx P machine = next ∨
        rkusbHandleDatatx P machine = next.replyGood .csw ∨
        rkusbHandleDatatx P machine = { next with control := .hung }) := by
  unfold rkusbHandleDatatx
  cases ended : datatxRounds P 2 machine with
  | none => exact ⟨machine, .refl machine, .inr (.inr rfl)⟩
  | some after =>
      refine ⟨after, .datatxRounds 2 ended, ?_⟩
      rw [Option.elim_some, Machine.finishDatatx]
      split
      · exact .inr (.inl rfl)
      · exact .inl rfl

theorem rkusbHandleDatatx_extends (machine : Machine σ) :
    Extends P Event.isSending machine (rkusbHandleDatatx P machine) := by
  obtain ⟨next, supplied, same | ended | hung⟩ :=
    rkusbHandleDatatx_supplied (P := P) machine
  · rw [same]
    exact supplied.log
  · rw [ended]
    exact supplied.log.trans (.of_same rfl rfl rfl)
  · rw [hung]
    exact supplied.log.trans (.of_same rfl rfl rfl)

/-- What the last part of a data stage may log: calls, and loads from the
receive buffer `buf`. -/
def Event.isStorage (buf : Option (Fin 2)) (owned : List (Fin 2))
    (event : Event σ) : Prop :=
  (∃ call reply, event = .call call reply) ∨
    ∃ loaded, buf = some loaded ∧ event = .rxLoad loaded owned

/-- Received blocks were handed to the platform. -/
structure Stored (P : Platform σ) (buf : Option (Fin 2))
    (before after : Machine σ) : Prop where
  usbcmd : ∃ lba, after.usbcmd = { before.usbcmd with lba := lba }
  rxBuffer : after.rxBuffer = before.rxBuffer
  txBuffer : after.txBuffer = before.txBuffer
  ins : after.ins = before.ins
  outs : after.outs = before.outs
  control : after.control = before.control ∨ after.control = .fault
  log : Extends P (Event.isStorage buf (before.outs.map Transfer.buf))
    before after

namespace Stored

variable {before middle after machine : Machine σ} {buf : Option (Fin 2)}

theorem refl (machine : Machine σ) : Stored P buf machine machine :=
  ⟨⟨_, rfl⟩, rfl, rfl, rfl, rfl, .inl rfl, .refl machine⟩

theorem trans (first : Stored P buf before middle)
    (second : Stored P buf middle after) : Stored P buf before after := by
  obtain ⟨lba, usbcmd⟩ := first.usbcmd
  obtain ⟨lba', usbcmd'⟩ := second.usbcmd
  have log := second.log
  rw [first.outs] at log
  refine ⟨⟨lba', by rw [usbcmd', usbcmd]⟩, ?_, ?_, ?_, ?_, ?_,
    first.log.trans log⟩
  · rw [second.rxBuffer, first.rxBuffer]
  · rw [second.txBuffer, first.txBuffer]
  · rw [second.ins, first.ins]
  · rw [second.outs, first.outs]
  · cases second.control with
    | inl same => rw [same]; exact first.control
    | inr fault => exact .inr fault

theorem perform (machine : Machine σ) (call : Call) :
    Stored P buf machine (machine.perform P call) :=
  ⟨⟨_, rfl⟩, rfl, rfl, rfl, rfl, .inl rfl, .perform (.inl ⟨_, _, rfl⟩)⟩

theorem loadRx (machine : Machine σ) (loaded : Fin 2) :
    Stored P (some loaded) machine (machine.loadRx loaded) := by
  refine ⟨⟨_, rfl⟩, rfl, rfl, rfl, rfl, .inl rfl, ?_⟩
  exact ⟨[_], rfl, rfl, .of_same rfl, by
    simpa using .inr ⟨loaded, rfl, rfl⟩⟩

theorem advance (machine : Machine σ) (blocks : Nat) :
    Stored P buf machine (machine.update fun usbcmd =>
      { usbcmd with lba := wrap32 (usbcmd.lba + blocks) }) :=
  ⟨⟨_, rfl⟩, rfl, rfl, rfl, rfl, .inl rfl, .of_same rfl rfl rfl⟩

theorem writeLba (machine : Machine σ) (loaded : Fin 2) (blocks : Nat) :
    Stored P (some loaded) machine (writeLba P machine loaded blocks) := by
  unfold Rockusb.writeLba
  dsimp only
  split
  · exact ((loadRx machine loaded).trans (perform _ _)).trans (advance _ _)
  · exact (loadRx machine loaded).trans (perform _ _)
  · exact ((loadRx machine loaded).trans (perform _ _)).trans (advance _ _)
  · split
    · exact ((loadRx machine loaded).trans (perform _ _)).trans (advance _ _)
    · exact refl machine

theorem writePba (machine : Machine σ) (loaded : Fin 2) (blocks : Nat) :
    Stored P (some loaded) machine (writePba P machine loaded blocks) := by
  unfold Rockusb.writePba
  dsimp only
  split
  · exact (((perform machine _).trans (loadRx _ loaded)).trans
      (perform _ _)).trans (advance _ _)
  · exact perform machine _

theorem writeMedia (machine : Machine σ) (buf : Option (Fin 2))
    (blocks : Nat) :
    Stored P buf machine (writeMedia P machine buf blocks) := by
  unfold Rockusb.writeMedia
  split
  · exact refl machine
  · split
    · exact ⟨⟨_, rfl⟩, rfl, rfl, rfl, rfl, .inr rfl, .of_same rfl rfl rfl⟩
    · split
      · exact writePba machine _ blocks
      · split
        · exact writeLba machine _ blocks
        · exact refl machine

end Stored

/-- The calls that the checks at the end of an iteration make. -/
def Call.isCheck : Call → Bool
  | .iSetLoaderFlag _ => true
  | .secureBootLockLoader => true
  | .fwSorageLowFormat => true
  | _ => false

/-- The checks touch no transfer. -/
structure Checked (P : Platform σ) (before after : Machine σ) : Prop where
  usbcmd : ∃ flag, after.usbcmd = { before.usbcmd with resetFlag := flag }
  rxBuffer : after.rxBuffer = before.rxBuffer
  txBuffer : after.txBuffer = before.txBuffer
  ins : after.ins = before.ins
  outs : after.outs = before.outs
  log : Extends P (fun event => ∃ call reply, event = .call call reply ∧
    call.isCheck = true) before after

namespace Checked

variable {before middle after : Machine σ}

theorem trans (first : Checked P before middle)
    (second : Checked P middle after) : Checked P before after := by
  obtain ⟨flag, usbcmd⟩ := first.usbcmd
  obtain ⟨flag', usbcmd'⟩ := second.usbcmd
  refine ⟨⟨flag', by rw [usbcmd', usbcmd]⟩, ?_, ?_, ?_, ?_,
    first.log.trans second.log⟩
  · rw [second.rxBuffer, first.rxBuffer]
  · rw [second.txBuffer, first.txBuffer]
  · rw [second.ins, first.ins]
  · rw [second.outs, first.outs]

theorem rkusbResetCheck (machine : Machine σ) :
    Checked P machine (rkusbResetCheck P machine) := by
  unfold Rockusb.rkusbResetCheck
  dsimp only
  split
  · exact ⟨⟨0, rfl⟩, rfl, rfl, rfl, rfl, .of_event ⟨_, _, rfl, rfl⟩ rfl rfl rfl⟩
  · exact ⟨⟨0, rfl⟩, rfl, rfl, rfl, rfl, .of_event ⟨_, _, rfl, rfl⟩ rfl rfl rfl⟩
  · exact ⟨⟨0, rfl⟩, rfl, rfl, rfl, rfl, .of_same rfl rfl rfl⟩
  · exact ⟨⟨0, rfl⟩, rfl, rfl, rfl, rfl, .of_event ⟨_, _, rfl, rfl⟩ rfl rfl rfl⟩
  · exact ⟨⟨_, rfl⟩, rfl, rfl, rfl, rfl, .refl machine⟩

theorem endOfIteration (machine : Machine σ) :
    Checked P machine (endOfIteration P machine) := by
  have checked := rkusbResetCheck (P := P) machine
  unfold Rockusb.endOfIteration Machine.andThen
  split
  · exact checked.trans ⟨⟨_, rfl⟩, rfl, rfl, rfl, rfl,
      .perform ⟨_, _, rfl, rfl⟩⟩
  · exact checked

end Checked

theorem Machine.andThen_of {property : Machine σ → Prop} {machine : Machine σ}
    {rest : Machine σ → Machine σ} (here : property machine)
    (there : property (rest machine)) : property (machine.andThen rest) := by
  unfold Machine.andThen
  split
  · exact there
  · exact here

theorem doRockusb_of_phases {property : Machine σ → Prop}
    (idle : ∀ machine, property machine → property (handleIdle P machine))
    (response : ∀ machine, property machine →
      property (rkusbHandleResponse P machine))
    (csw : ∀ machine, property machine → property (handleCsw machine))
    (checks : ∀ machine, property machine →
      property (endOfIteration P machine))
    {machine : Machine σ} (holds : property machine) :
    property (doRockusb P machine) := by
  have idled := idle machine holds
  have responded := response _ idled
  unfold doRockusb
  exact Machine.andThen_of idled
    (Machine.andThen_of responded (checks _ (csw _ responded)))

end KernelDrivers.Rockusb
