import KernelDrivers.Library.Transition
import KernelDrivers.Sound.I2s

/-!
# The speaker amplifier

Muting a stream and detecting the headphone both switch the speaker, in either
codec driver by rules of its own.  Delays and the registers of the codec are
left out; both GPIOs are there.
-/

namespace KernelDrivers.Sound

open KernelDrivers.Library

/-- The levels from the device tree, those of the GPIOs, the flags of the
drivers, and whether the change of the jack is still to be handled. -/
structure Speaker where
  spkGpioLevel : Bool
  hpGpioLevel : Bool
  hpDetLevel : Bool
  hpDetGpio : Bool
  spkCtlGpio : Bool
  hpCtlGpio : Bool
  muteFlag : Bool
  hpIrqFlag : Bool
  pending : Bool

def Speaker.plugged (speaker : Speaker) : Bool :=
  speaker.hpDetLevel = speaker.hpDetGpio

def Speaker.active (speaker : Speaker) : Bool :=
  speaker.spkCtlGpio = speaker.spkGpioLevel

/-- How a driver mutes, with `dai->playback_active`, and how it handles the
jack, with what `irq_set_irq_type` returns. -/
structure JackDriver where
  mute : Speaker → Bool → Bool → Speaker
  handler : Speaker → Int → Speaker

def es8323Mute (speaker : Speaker) (mute _playbackActive : Bool) : Speaker :=
  let speaker := { speaker with muteFlag := mute }
  if mute then
    { speaker with
      spkCtlGpio := !speaker.spkGpioLevel
      hpCtlGpio := !speaker.hpGpioLevel }
  else if speaker.hpDetLevel ≠ speaker.hpDetGpio then
    { speaker with spkCtlGpio := speaker.spkGpioLevel }
  else { speaker with hpCtlGpio := !speaker.hpGpioLevel }

/-- `hp_detect_work`. -/
def hpDetectWork (speaker : Speaker) (ret : Int) : Speaker :=
  if ret < 0 then speaker
  else if speaker.hpDetLevel = speaker.hpDetGpio then
    { speaker with
      spkCtlGpio := !speaker.spkGpioLevel
      hpCtlGpio := !speaker.hpGpioLevel }
  else
    { speaker with
      spkCtlGpio := speaker.spkGpioLevel
      hpCtlGpio := !speaker.hpGpioLevel }

def es8323Jack : JackDriver :=
  { mute := es8323Mute
    handler := hpDetectWork }

def es8316Mute (speaker : Speaker) (mute playbackActive : Bool) : Speaker :=
  let speaker := { speaker with muteFlag := mute }
  if mute then { speaker with spkCtlGpio := speaker.spkGpioLevel }
  else if playbackActive then
    if speaker.hpIrqFlag = false then
      { speaker with spkCtlGpio := speaker.spkGpioLevel }
    else speaker
  else speaker

/-- `hp_det_irq_handler`. -/
def hpDetIrqHandler (speaker : Speaker) (ret : Int) : Speaker :=
  if ret < 0 then speaker
  else
    let speaker := { speaker with
      hpIrqFlag := if speaker.hpDetLevel ≠ speaker.hpDetGpio then false
        else true }
    if speaker.muteFlag = false then
      if speaker.hpDetLevel = speaker.hpDetGpio then
        { speaker with spkCtlGpio := !speaker.spkGpioLevel }
      else { speaker with spkCtlGpio := speaker.spkGpioLevel }
    else speaker

def es8316Jack : JackDriver :=
  { mute := es8316Mute
    handler := hpDetIrqHandler }

inductive SpeakerEvent where
  | mute (on playbackActive : Bool)
  | insert
  | remove
  | handler (ret : Int)

/-- The jack changes only after the last change was handled. -/
def speakerStep (driver : JackDriver) (speaker : Speaker) :
    SpeakerEvent → Option Speaker
  | .mute on playbackActive => some (driver.mute speaker on playbackActive)
  | .insert =>
      if speaker.pending ∨ speaker.plugged then none
      else some { speaker with
        hpDetGpio := speaker.hpDetLevel
        pending := true }
  | .remove =>
      if speaker.pending ∨ ¬speaker.plugged then none
      else some { speaker with
        hpDetGpio := !speaker.hpDetLevel
        pending := true }
  | .handler ret =>
      if speaker.pending then
        some { driver.handler speaker ret with pending := false }
      else none

/-- After the drivers have set up the GPIOs. -/
def Speaker.probed (spkGpioLevel hpGpioLevel hpDetLevel hpDetGpio : Bool) :
    Speaker :=
  { spkGpioLevel, hpGpioLevel, hpDetLevel, hpDetGpio
    spkCtlGpio := !spkGpioLevel
    hpCtlGpio := !hpGpioLevel
    muteFlag := true
    hpIrqFlag := false
    pending := false }

/-- Where the jack has been handled the speaker is on only if the stream is not
muted and no headphone is plugged in. -/
def Speaker.Safe (speaker : Speaker) : Prop :=
  speaker.pending = false → speaker.active = true →
    speaker.muteFlag = false ∧ speaker.plugged = false

def SpeakerKept (driver : JackDriver) (speaker : Speaker)
    (event : SpeakerEvent) : Prop :=
  ∀ next, speakerStep driver speaker event = some next → next.Safe

/-- `irq_set_irq_type` does not fail while the speaker has to be switched off,
and no headphone is seen to be removed while the stream is muted. -/
def Es8323Safe (speaker : Speaker) : SpeakerEvent → Prop
  | .handler ret => speaker.pending = true →
      if ret < 0 then speaker.active = true →
        speaker.muteFlag = false ∧ speaker.plugged = false
      else speaker.muteFlag = true → speaker.plugged = true
  | _ => True

/-- The stream is muted only between a change of the jack and its handler, which
finds a muted stream with the speaker off; and the stream is not unmuted with
a headphone that no handler has seen. -/
def Es8316Safe (speaker : Speaker) : SpeakerEvent → Prop
  | .mute true _ => speaker.pending = true
  | .mute false playbackActive =>
      playbackActive = true → speaker.hpIrqFlag = false →
        speaker.pending = false → speaker.plugged = false
  | .handler ret => speaker.pending = true →
      if ret < 0 then speaker.active = true →
        speaker.muteFlag = false ∧ speaker.plugged = false
      else speaker.muteFlag = true → speaker.active = false
  | _ => True

theorem speakerKept_jack (driver : JackDriver) (speaker : Speaker) :
    SpeakerKept driver speaker .insert ∧ SpeakerKept driver speaker .remove := by
  constructor
  · intro next taken
    rw [speakerStep] at taken
    split at taken
    · cases taken
    · cases taken
      rintro ⟨⟩
  · intro next taken
    rw [speakerStep] at taken
    split at taken
    · cases taken
    · cases taken
      rintro ⟨⟩

theorem speakerKept_handler (driver : JackDriver) (speaker : Speaker)
    (ret : Int) :
    SpeakerKept driver speaker (.handler ret) ↔ (speaker.pending = true →
      (driver.handler speaker ret).active = true →
        (driver.handler speaker ret).muteFlag = false ∧
          (driver.handler speaker ret).plugged = false) := by
  cases waiting : speaker.pending with
  | false => simp [SpeakerKept, speakerStep, waiting]
  | true =>
      simp only [SpeakerKept, speakerStep, waiting, if_true,
        Option.some.injEq, forall_eq', Speaker.Safe, true_imp_iff]
      rfl

theorem speakerKept_mute (driver : JackDriver) (speaker : Speaker)
    (on playbackActive : Bool) :
    SpeakerKept driver speaker (.mute on playbackActive) ↔
      (driver.mute speaker on playbackActive).Safe := by
  simp [SpeakerKept, speakerStep]

theorem es8323Kept_iff {speaker : Speaker} (safe : speaker.Safe)
    (event : SpeakerEvent) :
    SpeakerKept es8323Jack speaker event ↔ Es8323Safe speaker event := by
  cases event with
  | insert => exact iff_of_true (speakerKept_jack _ _).1 trivial
  | remove => exact iff_of_true (speakerKept_jack _ _).2 trivial
  | mute on playbackActive =>
      rw [speakerKept_mute]
      refine iff_of_true ?_ trivial
      intro waiting active
      cases on with
      | true => simp [es8323Jack, es8323Mute, Speaker.active] at active
      | false =>
          by_cases plugged : speaker.hpDetLevel = speaker.hpDetGpio
          · simp only [es8323Jack, es8323Mute, plugged, Bool.false_eq_true,
              if_false, ne_eq, not_true_eq_false] at waiting active
            have unplugged := (safe waiting active).2
            simp [Speaker.plugged, plugged] at unplugged
          · simp [es8323Jack, es8323Mute, plugged, Speaker.plugged]
  | handler ret =>
      rw [speakerKept_handler, Es8323Safe]
      by_cases failed : ret < 0
      · simp [es8323Jack, hpDetectWork, failed]
      · by_cases plugged : speaker.hpDetLevel = speaker.hpDetGpio
        · simp [es8323Jack, hpDetectWork, failed, plugged, Speaker.active,
            Speaker.plugged]
        · simp [es8323Jack, hpDetectWork, failed, plugged, Speaker.active,
            Speaker.plugged]

theorem es8316Kept_iff {speaker : Speaker} (safe : speaker.Safe)
    (event : SpeakerEvent) :
    SpeakerKept es8316Jack speaker event ↔ Es8316Safe speaker event := by
  cases event with
  | insert => exact iff_of_true (speakerKept_jack _ _).1 trivial
  | remove => exact iff_of_true (speakerKept_jack _ _).2 trivial
  | mute on playbackActive =>
      rw [speakerKept_mute]
      cases on with
      | true =>
          simp [es8316Jack, es8316Mute, Es8316Safe, Speaker.Safe,
            Speaker.active]
      | false =>
          -- Where nothing is switched the old state was safe already.
          have unplugged : speaker.pending = false → speaker.active = true →
              speaker.plugged = false := fun handled active =>
            (safe handled active).2
          cases playbackActive with
          | false =>
              refine iff_of_true ?_ (fun playing => by cases playing)
              intro handled active
              exact ⟨rfl, unplugged handled active⟩
          | true =>
              cases seen : speaker.hpIrqFlag with
              | true =>
                  refine iff_of_true ?_ ?_
                  · simp only [es8316Jack, es8316Mute, seen]
                    intro handled active
                    exact ⟨rfl, unplugged handled active⟩
                  · intro _ unseen
                    rw [seen] at unseen
                    cases unseen
              | false =>
                  simp [es8316Jack, es8316Mute, Es8316Safe, Speaker.Safe,
                    Speaker.active, Speaker.plugged, seen]
  | handler ret =>
      rw [speakerKept_handler, Es8316Safe]
      by_cases failed : ret < 0
      · simp [es8316Jack, hpDetIrqHandler, failed]
      · by_cases plugged : speaker.hpDetLevel = speaker.hpDetGpio
        · cases muted : speaker.muteFlag <;>
            simp [es8316Jack, hpDetIrqHandler, failed, plugged, muted,
              Speaker.active, Speaker.plugged]
        · cases muted : speaker.muteFlag <;>
            simp [es8316Jack, hpDetIrqHandler, failed, plugged, muted,
              Speaker.active, Speaker.plugged]

/-- For either driver, the speaker is off under a muted stream and a plugged
headphone along exactly those events that are all safe. -/
theorem speaker_kept_iff
    (spkGpioLevel hpGpioLevel hpDetLevel hpDetGpio : Bool)
    (events : List SpeakerEvent) :
    let start := Speaker.probed spkGpioLevel hpGpioLevel hpDetLevel hpDetGpio
    (Along (speakerStep es8323Jack) (SpeakerKept es8323Jack) start events ↔
        Along (speakerStep es8323Jack) Es8323Safe start events) ∧
      (Along (speakerStep es8316Jack) (SpeakerKept es8316Jack) start events ↔
        Along (speakerStep es8316Jack) Es8316Safe start events) := by
  intro start
  have initial : start.Safe := by
    intro _ active
    cases spkGpioLevel <;> simp [start, Speaker.active, Speaker.probed] at active
  constructor
  · refine along_congr initial ?_ ?_
    · intro speaker event next safe kept taken
      exact kept next taken
    · intro speaker event safe
      exact es8323Kept_iff safe event
  · refine along_congr initial ?_ ?_
    · intro speaker event next safe kept taken
      exact kept next taken
    · intro speaker event safe
      exact es8316Kept_iff safe event

/-- Muting the stream switches the speaker of the ES8316 on; taking out the
headphone of a muted stream switches that of the ES8323 on. -/
theorem not_speaker_kept :
    (¬Along (speakerStep es8323Jack) (SpeakerKept es8323Jack)
        (.probed true true true false)
        [.mute true false, .insert, .handler 0, .remove, .handler 0]) ∧
      ¬Along (speakerStep es8316Jack) (SpeakerKept es8316Jack)
        (.probed true true true false) [.mute true false] := by
  constructor
  · simp only [along_cons]
    rintro ⟨-, others⟩
    have removed := ((((others _ rfl).2 _ rfl).2 _ rfl).2 _ rfl).1 _ rfl rfl rfl
    exact absurd removed.1 (by decide)
  · simp only [along_cons]
    rintro ⟨kept, -⟩
    have first := kept _ rfl rfl rfl
    exact absurd first.1 (by decide)

end KernelDrivers.Sound
