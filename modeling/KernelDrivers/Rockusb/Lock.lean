import KernelDrivers.Rockusb.Dispatch
import KernelDrivers.Rockusb.Host
import KernelDrivers.Rockusb.Receiving

/-!
# The secure-boot lock

Erasing and writing the media test the lock, but arming the low format and
the vendor windows of a write do not.
-/

namespace KernelDrivers.Rockusb

open KernelDrivers.Library

variable {σ : Type} {P : Platform σ} {machine after : Machine σ}

/-- The calls that erase, write or low-format the storage. -/
def Call.writesStorage : Call → Bool
  | .storageEraseBlock .. => true
  | .storageWriteLba .. => true
  | .storageWritePba .. => true
  | .storageVendorSysDataStore .. => true
  | .vendorStorageWrite .. => true
  | .fwSorageLowFormatEn en => en == 1
  | _ => false

def Event.harmless : Event σ → Prop
  | .call made _ => made.writesStorage = false
  | _ => True

/-- The command that the next iteration executes. -/
def Machine.nextCommand (machine : Machine σ) : Option CbWrap :=
  if machine.usbcmd.status = .idle ∧ machine.usbcmd.rxGiveback.actual > 0 then
    machine.usbcmd.rxGiveback.buf.map fun buf =>
      CbWrap.ofBuffer (machine.rxBuffer buf)
  else none

/-- `LOW_FORMAT`, and `TEST_UNIT_READY` with its sub-code on a storage that is
valid. -/
def Machine.armsNext (P : Platform σ) (machine : Machine σ) : Prop :=
  ∃ cbw ∈ machine.nextCommand, cbw.opcode = kFwLowFormat ∨
    cbw.opcode = kFwTestUnitReady ∧ (cbw.cdb 1).toNat = 0xFD ∧
      (P.reply machine.platform .fwStorageGetValid).ret ≠ 0

/-- A block has been received for one of the vendor windows. -/
def Machine.storesNext (machine : Machine σ) : Prop :=
  (machine.usbcmd.status = .rxdata ∧
      machine.usbcmd.rxGiveback.status = .recvOk ∨
    machine.usbcmd.status = .rxdataPrepare) ∧
  machine.usbcmd.cmnd = kFwLbaWrite10 ∧
  512 ≤ machine.usbcmd.rxGiveback.actual ∧
  machine.usbcmd.rxGiveback.buf ≠ none ∧
  (lbaWindow machine.usbcmd.lba = .sysData ∨
    lbaWindow machine.usbcmd.lba = .vendor)

/-- No iteration meets one of the writers that do not test the lock. -/
def LockSound (P : Platform σ) (machine : Machine σ) : Action → Prop
  | .iterate => ¬machine.armsNext P ∧ ¬machine.storesNext
  | _ => True

/-- The storage behind the platform.  The lock stays set, the contents change
by the calls that write and by a low format that has been armed. -/
structure LockedStorage {γ : Type} (P : Platform σ) (contents : σ → γ)
    (armed : σ → Prop) : Prop where
  lock : ∀ state call, P.secureBootLock state ≠ 0 →
    P.secureBootLock (P.next state call) ≠ 0
  kept : ∀ state call, call.writesStorage = false →
    (call = .fwSorageLowFormat → ¬armed state) →
    contents (P.next state call) = contents state
  unarmed : ∀ state call, call ≠ .fwSorageLowFormatEn 1 → ¬armed state →
    ¬armed (P.next state call)

theorem replay_of {property : σ → Prop}
    (kept : ∀ state call, property state → property (P.next state call))
    {state : σ} (holds : property state) (events : List (Event σ)) :
    property (replay P state events) := by
  induction events generalizing state with
  | nil => exact holds
  | cons event events induction =>
      cases event with
      | call made reply => exact induction (kept _ _ holds)
      | _ => exact induction holds

/-- Harmless calls leave the contents of a storage that is not armed. -/
theorem replay_contents {γ : Type} {contents : σ → γ} {armed : σ → Prop}
    (kept : ∀ state call, call.writesStorage = false →
      (call = .fwSorageLowFormat → ¬armed state) →
      contents (P.next state call) = contents state)
    (unarmed : ∀ state call, call ≠ .fwSorageLowFormatEn 1 → ¬armed state →
      ¬armed (P.next state call)) {events : List (Event σ)}
    (harmless : ∀ event ∈ events, event.harmless) {state : σ}
    (still : ¬armed state) :
    contents (replay P state events) = contents state ∧
      ¬armed (replay P state events) := by
  induction events generalizing state with
  | nil => exact ⟨rfl, still⟩
  | cons event events induction =>
      have rest := fun event member =>
        harmless event (List.mem_cons_of_mem _ member)
      cases event with
      | call made reply =>
          have quiet : made.writesStorage = false :=
            harmless _ List.mem_cons_self
          have next := unarmed state made (by
            rintro rfl
            cases quiet) still
          obtain ⟨same, ended⟩ := induction rest next
          exact ⟨same.trans (kept _ _ quiet fun _ => still), ended⟩
      | _ => exact induction rest still

section Sound

variable (locked : ∀ state call, P.secureBootLock state ≠ 0 →
  P.secureBootLock (P.next state call) ≠ 0)
variable (lock : P.secureBootLock machine.platform ≠ 0)

theorem nextCommand_packet (idle : machine.usbcmd.status = .idle)
    (packet : 0 < machine.usbcmd.rxGiveback.actual) {buf : Fin 2}
    (inBuf : machine.usbcmd.rxGiveback.buf = some buf) :
    machine.nextCommand = some (CbWrap.ofBuffer (machine.rxBuffer buf)) := by
  rw [Machine.nextCommand, if_pos ⟨idle, packet⟩, inBuf]
  rfl

include lock in
theorem handleIdle_harmless (sound : ¬machine.armsNext P) :
    Extends P Event.harmless machine (handleIdle P machine) := by
  rcases handleIdle_cases (P := P) machine with
    same | fault | ⟨buf, idle, received, inBuf, dispatch⟩
  · rw [same]
    exact .refl machine
  · rw [fault]
    exact .of_same rfl rfl rfl
  · have command := nextCommand_packet idle received inBuf
    rw [dispatch]
    have accepted : Extends P Event.harmless machine (machine.accept buf) :=
      ⟨[_, _], List.append_assoc _ [_] [_], rfl, .of_same rfl,
        by simp [Event.harmless]⟩
    have dispatched : Dispatched P (fun call => call.writesStorage = false)
        (machine.accept buf) (fwDispatch P (machine.accept buf)) := by
      refine fwDispatch_cases _ ?_ ?_ ?_
      · intro call query
        cases call <;> cases query <;> rfl
      · exact fun unlocked => absurd unlocked lock
      · intro arms
        exact absurd ⟨_, command, arms⟩ sound
    refine accepted.trans (dispatched.extends.mono ?_)
    intro event fill
    cases event <;> trivial

include locked lock in
theorem writeMedia_harmless {buf : Option (Fin 2)} {blocks : Nat}
    (media : machine.usbcmd.cmnd = kFwLbaWrite10 → blocks ≠ 0 → buf ≠ none →
      lbaWindow machine.usbcmd.lba = .unlock ∨
        lbaWindow machine.usbcmd.lba = .media) :
    Extends P Event.harmless machine (writeMedia P machine buf blocks) := by
  unfold writeMedia
  split
  · exact .refl machine
  · rename_i some
    cases buf with
    | none => exact .of_same rfl rfl rfl
    | some buf =>
        dsimp only
        split
        · have still : P.secureBootLock (machine.perform P
              (.iSetLoaderFlag .sysLoaderErr)).platform ≠ 0 := locked _ _ lock
          unfold writePba
          dsimp only
          rw [if_neg still]
          exact .perform rfl
        · split
          · rename_i write
            cases media write some (Option.some_ne_none buf) with
            | inl unlock =>
                unfold writeLba
                simp only [unlock]
                have loaded : Extends P Event.harmless machine
                    (machine.loadRx buf) := ⟨[_], rfl, rfl, .of_same rfl, by
                  simp [Event.harmless]⟩
                exact loaded.trans (.perform rfl)
            | inr window =>
                unfold writeLba
                simp only [window, if_neg lock]
                exact .refl machine
          · exact .refl machine

include locked lock in
theorem rkusbHandleResponse_harmless (sound : ¬machine.storesNext) :
    Extends P Event.harmless machine (rkusbHandleResponse P machine) := by
  have received : machine.usbcmd.status = .rxdata ∧
        machine.usbcmd.rxGiveback.status = .recvOk ∨
      machine.usbcmd.status = .rxdataPrepare →
      Extends P Event.harmless machine (rkusbHandleDatarx P machine) := by
    intro stage
    have posted := Posted.answerData (P := P) machine
    rw [rkusbHandleDatarx_eq]
    refine (posted.log.mono ?_).trans (writeMedia_harmless locked ?_ ?_)
    · intro event posting
      cases event <;> trivial
    · rw [posted.platform]
      exact lock
    · rw [posted.cmnd, posted.lba]
      intro write some inBuf
      have full : 512 ≤ machine.usbcmd.rxGiveback.actual := by
        rw [write] at some
        exact (Nat.div_ne_zero_iff.mp some).2
      have guarded := fun window =>
        sound ⟨stage, write, full, inBuf, window⟩
      cases window : lbaWindow machine.usbcmd.lba with
      | sysData => exact absurd (.inl window) guarded
      | unlock => exact .inl rfl
      | vendor => exact absurd (.inr window) guarded
      | media => exact .inr rfl
  unfold rkusbHandleResponse
  split
  · exact ⟨[_], rfl, rfl, .of_same rfl, by simp [Event.harmless]⟩
  · rename_i status
    split
    · rename_i ok
      exact received (.inl ⟨status, ok⟩)
    · exact .refl machine
  · rename_i status
    exact received (.inr status)
  · split
    · refine (rkusbHandleDatatx_extends machine).mono ?_
      intro event sending
      cases event with
      | call made reply => cases made <;> cases sending <;> rfl
      | _ => trivial
    · exact .refl machine
  · exact .refl machine

end Sound

theorem handleCsw_extends (machine : Machine σ) :
    Extends P Event.isPosting machine (handleCsw machine) := by
  unfold handleCsw
  split
  · exact (Posted.rkusbSendCsw machine).log
  · exact .refl machine

theorem Event.isPosting.harmless {event : Event σ}
    (posting : event.isPosting) : event.harmless := by
  cases event <;> trivial

theorem storesNext_dispatched {permitted : Call → Prop}
    (cmd : machine.usbcmd.status = .cmd)
    (dispatched : Dispatched P permitted machine after) :
    ¬after.storesNext := by
  rintro ⟨stage, -, full, -⟩
  cases dispatched with
  | unknown => simp [cmd] at stage
  | answered _ csw => simp [csw] at stage
  | data _ txdata => simp [txdata] at stage
  | read => simp at stage
  | write => simp at full

theorem storesNext_handleIdle (stores : (handleIdle P machine).storesNext) :
    machine.storesNext := by
  rcases handleIdle_cases (P := P) machine with
    same | fault | ⟨buf, -, -, -, dispatch⟩
  · rwa [same] at stores
  · rw [fault] at stores
    obtain ⟨stage, -⟩ := stores
    simp at stage
  · rw [dispatch] at stores
    exact absurd stores (storesNext_dispatched rfl (fwDispatch_any _))

section Steps

variable (locked : ∀ state call, P.secureBootLock state ≠ 0 →
  P.secureBootLock (P.next state call) ≠ 0)
variable (lock : P.secureBootLock machine.platform ≠ 0)

include locked lock in
theorem doRockusb_harmless (sound : LockSound P machine .iterate) :
    Extends P Event.harmless machine (doRockusb P machine) := by
  have idle := handleIdle_harmless lock sound.1
  have lockIdle : P.secureBootLock (handleIdle P machine).platform ≠ 0 := by
    obtain ⟨events, -, platform, -, -⟩ := idle
    rw [platform]
    exact replay_of locked lock events
  have response := idle.trans (rkusbHandleResponse_harmless locked lockIdle
    (fun stores => sound.2 (storesNext_handleIdle stores)))
  have csw := response.trans
    ((handleCsw_extends _).mono fun _ => Event.isPosting.harmless)
  have checks := csw.trans ((Checked.endOfIteration _).log.mono (by
    rintro event ⟨call, reply, rfl, check⟩
    cases call <;> cases check <;> rfl : ∀ event, _ → Event.harmless event))
  unfold doRockusb
  exact @Machine.andThen_of σ (Extends P Event.harmless machine) _ _ idle
    (@Machine.andThen_of σ (Extends P Event.harmless machine) _ _ response
      checks)

include locked lock in
theorem step_harmless {action : Action} (sound : LockSound P machine action)
    (taken : step P machine action = some after) :
    Extends P Event.harmless machine after := by
  by_cases iterate : action = .iterate
  · subst iterate
    obtain rfl := step_iterate taken
    exact doRockusb_harmless locked lock sound
  · refine (step_reports taken iterate).mono ?_
    intro event report
    cases event <;> trivial

end Steps

/-- In a run of sound steps the lock is enforced, and the contents of the
storage do not depend on what the host sends. -/
theorem lock_enforced {γ : Type} {contents : σ → γ} {armed : σ → Prop}
    (storage : LockedStorage P contents armed) {zero : GivebackStatus}
    {rx tx : Fin 2 → Memory} {platform : σ}
    (lock : P.secureBootLock platform ≠ 0) (unarmed : ¬armed platform)
    {actions : List Action}
    (run : Run (step P) (LockSound P) (startMachine zero rx tx platform) actions
      machine) :
    (∀ call reply, .call call reply ∈ machine.log →
      call.writesStorage = false) ∧
    contents machine.platform = contents platform := by
  have held : (∀ event ∈ machine.log, event.harmless) ∧
      P.secureBootLock machine.platform ≠ 0 ∧ ¬armed machine.platform ∧
      contents machine.platform = contents platform := by
    induction run with
    | nil => exact ⟨by simp [startMachine], lock, unarmed, rfl⟩
    | snoc _ sound taken induction =>
        obtain ⟨log, stillLocked, stillUnarmed, same⟩ := induction
        have grown := step_harmless storage.lock stillLocked sound taken
        have all := grown.forall_log (fun _ harmless => harmless) log
        obtain ⟨events, -, after, -, harmless⟩ := grown
        obtain ⟨kept, ended⟩ := replay_contents storage.kept storage.unarmed
          harmless stillUnarmed
        rw [after]
        exact ⟨all, replay_of storage.lock stillLocked events, ended,
          kept.trans same⟩
  exact ⟨fun call reply member => held.1 _ member, held.2.2.2⟩

/-- A storage that counts the calls that write, under a lock that stays. -/
def countingStorage (lock : Nat) : Platform Nat :=
  { reply := fun _ _ => ⟨0, 0, fun _ => 0⟩
    next := fun written call =>
      if call.writesStorage then written + 1 else written
    secureBootLock := fun _ => lock
    ftlOk := 0 }

instance (P : Platform σ) (machine : Machine σ) :
    Decidable (machine.armsNext P) :=
  inferInstanceAs (Decidable (∃ cbw ∈ machine.nextCommand, _))

instance (machine : Machine σ) : Decidable machine.storesNext :=
  inferInstanceAs (Decidable (_ ∧ _))

instance (P : Platform σ) (machine : Machine σ) :
    ∀ action, Decidable (LockSound P machine action)
  | .iterate => inferInstanceAs (Decidable (_ ∧ _))
  | .inDone .. => .isTrue trivial
  | .outDone .. => .isTrue trivial
  | .outDrop .. => .isTrue trivial
  | .bus .. => .isTrue trivial

private def lockedStart : Machine Nat :=
  startMachine .sendInProgress (fun _ _ => 0) (fun _ _ => 0) 0

theorem lock_enforced_erase :
    ∃ machine : Machine Nat, csws machine.log ≠ [] ∧
      (∀ call reply, .call call reply ∈ machine.log →
        call.writesStorage = false) ∧
      machine.platform = lockedStart.platform := by
  have passed : (execute (step (countingStorage 1)) (LockSound (countingStorage 1))
      lockedStart [.bus 2, .outDone 0 0 (cbwPacket 7 0 0x06 0 5 2),
        .iterate]).any
          (fun machine => decide (csws machine.log ≠ [])) = true := by
    decide +kernel
  obtain ⟨final, run, answered⟩ := Run.exists_of_execute passed
  have storage : LockedStorage (countingStorage 1) id (fun _ => False) := by
    refine ⟨fun _ _ => id, ?_, fun _ _ _ => id⟩
    intro state call quiet _
    simp [countingStorage, quiet]
  exact ⟨final, by simpa using answered,
    lock_enforced storage (by decide) id run⟩

/-- A low format is armed in spite of the lock. -/
theorem not_lock_enforced_lowFormat :
    ¬∀ actions machine, Run (step (countingStorage 1)) (fun _ _ => True)
        lockedStart actions machine →
      ∀ call reply, .call call reply ∈ machine.log →
        call.writesStorage = false := by
  intro enforced
  have passed : (execute (step (countingStorage 1)) (fun _ _ => True)
      lockedStart [.bus 2, .outDone 0 0 (cbwPacket 7 0 0x1C 0 0 0),
        .iterate]).any (fun machine =>
          (calls machine.log).any fun made => made.1.writesStorage) = true := by
    decide +kernel
  obtain ⟨final, run, armed⟩ := Run.exists_of_execute passed
  obtain ⟨⟨call, reply⟩, member, writes⟩ := List.any_eq_true.mp armed
  obtain ⟨event, inLog, shape⟩ := List.mem_filterMap.mp member
  cases event with
  | call made given =>
      cases shape
      have harmless := enforced _ final run call reply inLog
      simp [harmless] at writes
  | _ => cases shape

end KernelDrivers.Rockusb
