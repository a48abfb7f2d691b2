import KernelDrivers.Library.Transition
import KernelDrivers.Pwm.Duty

/-!
# What the panel shows

The calls of the driver, taken one after the other, from the probe to the
removal.
-/

namespace KernelDrivers.Pwm

open KernelDrivers.Library

/-- The PWM, the level of the enable line, and every duty cycle with which the
panel has been lit; `misused` is a PWM that is enabled or disabled twice. -/
structure Panel where
  dutyCycle : BitVec 32
  running : Bool
  high : Bool
  lit : List (BitVec 32)
  misused : Bool

/-- The panel is lit if the PWM runs and the enable line, if there is one, is at
its active level. -/
def Panel.on (gpioIsValid : Int → Bool) (pbd : PwmBlData) (panel : Panel) :
    Bool :=
  panel.running && (!gpioIsValid pbd.enableGpio || panel.high != pbd.activeLow)

/-- The effect of one call. -/
def Panel.call (gpioIsValid : Int → Bool) (pbd : PwmBlData) (panel : Panel)
    (call : PwmCall) : Panel :=
  let next :=
    match call with
    | .config dutyCycle _ => { panel with dutyCycle }
    | .enable =>
        { panel with running := true, misused := panel.misused || panel.running }
    | .disable =>
        { panel with
          running := false, misused := panel.misused || !panel.running }
    | .gpioSetValue high => { panel with high }
  if next.on gpioIsValid pbd then
    { next with lit := next.lit ++ [next.dutyCycle] }
  else next

/-- The driver and the panel, and the brightnesses that were asked for. -/
structure Backlight where
  pbd : PwmBlData
  panel : Panel
  asked : List (BitVec 32)
  gone : Bool

/-- The probe has requested the enable line at its inactive level. -/
def Backlight.probed (device : BacklightDevice) : Backlight :=
  { pbd := device.pbd
    panel :=
      { dutyCycle := 0, running := false, high := device.pbd.activeLow
        lit := [], misused := false }
    asked := []
    gone := false }

/-- `remove` and `shutdown` do the same. -/
inductive PanelAction where
  | updateStatus (brightness : BitVec 32)
  | remove
deriving DecidableEq

def Backlight.step (gpioIsValid : Int → Bool) (backlight : Backlight) :
    PanelAction → Option Backlight
  | .updateStatus brightness =>
      if backlight.gone then none
      else
        let (pbd, calls) :=
          pwmBacklightUpdateStatus gpioIsValid backlight.pbd brightness
        some { backlight with
          pbd
          panel := calls.foldl (Panel.call gpioIsValid pbd) backlight.panel
          asked := backlight.asked ++ [brightness] }
  | .remove =>
      if backlight.gone then none
      else
        let (pbd, calls) := pwmBacklightPowerOff gpioIsValid backlight.pbd
        some { backlight with
          pbd
          panel := calls.foldl (Panel.call gpioIsValid pbd) backlight.panel
          gone := true }

/-- The duty cycle that a brightness asks for, if it asks for light. -/
def wanted (pbd : PwmBlData) (brightness : BitVec 32) : Option (BitVec 32) :=
  if brightness.toInt > 0 then some (computeDutyCycle pbd brightness) else none

/-- The panel shows what it is to show: it is lit with that duty cycle, or it is
dark and its enable line inactive. -/
structure Panel.Shows (gpioIsValid : Int → Bool) (pbd : PwmBlData)
    (panel : Panel) (duty : Option (BitVec 32)) : Prop where
  running : panel.running = duty.isSome
  dutyCycle : ∀ dutyCycle, duty = some dutyCycle → panel.dutyCycle = dutyCycle
  line : gpioIsValid pbd.enableGpio = true →
    panel.high = (duty.isSome != pbd.activeLow)

/-- What holds between two calls of the driver. -/
structure Settled (gpioIsValid : Int → Bool) (device : BacklightDevice)
    (backlight : Backlight) : Prop where
  same : backlight.pbd = { device.pbd with enabled := backlight.pbd.enabled }
  enabled : backlight.pbd.enabled = backlight.panel.running
  shows : backlight.panel.Shows gpioIsValid device.pbd
    (if backlight.gone then none
      else backlight.asked.getLast?.bind (wanted device.pbd))
  used : backlight.panel.misused = false
  lit : ∀ duty ∈ backlight.panel.lit, duty = 0 ∨
    ∃ brightness ∈ backlight.asked, wanted device.pbd brightness = some duty

section Settled

variable {gpioIsValid : Int → Bool} {pbd : PwmBlData} {panel : Panel}
variable {duty : Option (BitVec 32)} {brightness : BitVec 32}

/-- What a part of the driver does to the panel. -/
structure Effect (gpioIsValid : Int → Bool) (pbd : PwmBlData) (panel : Panel)
    (result : PwmBlData × List PwmCall) (duty : Option (BitVec 32)) :
    Prop where
  data : result.1 = { pbd with enabled := duty.isSome }
  shows : (result.2.foldl (Panel.call gpioIsValid result.1) panel).Shows
    gpioIsValid pbd duty
  used : (result.2.foldl (Panel.call gpioIsValid result.1) panel).misused =
    panel.misused
  lit : ∀ shown ∈
    (result.2.foldl (Panel.call gpioIsValid result.1) panel).lit,
    shown ∈ panel.lit ∨ some shown = duty ∨ shown = 0

theorem foldl_powerOff (running : panel.running = true)
    (line : gpioIsValid pbd.enableGpio = true →
      panel.high = !pbd.activeLow) (enabled : Bool) :
    ([PwmCall.config 0 pbd.period, .disable] ++
        setEnableGpio gpioIsValid pbd false).foldl
      (Panel.call gpioIsValid { pbd with enabled }) panel =
      { dutyCycle := 0, running := false
        high := if gpioIsValid pbd.enableGpio then pbd.activeLow
          else panel.high
        lit := panel.lit ++ [0]
        misused := panel.misused } := by
  cases valid : gpioIsValid pbd.enableGpio with
  | false => simp [setEnableGpio, valid, Panel.call, Panel.on, running]
  | true =>
      have active := line valid
      simp [setEnableGpio, valid, Panel.call, Panel.on, running, active]

theorem effect_powerOff (enabled : pbd.enabled = panel.running)
    (shows : panel.Shows gpioIsValid pbd duty) :
    Effect gpioIsValid pbd panel (pwmBacklightPowerOff gpioIsValid pbd)
      none := by
  obtain ⟨running, -, line⟩ := shows
  rw [← running] at line
  cases lit : panel.running with
  | false =>
      rw [lit] at enabled line
      have unchanged : pwmBacklightPowerOff gpioIsValid pbd = (pbd, []) := by
        rw [pwmBacklightPowerOff, enabled]
        rfl
      rw [unchanged]
      refine ⟨?_, ⟨lit, nofun, line⟩, rfl, fun shown among => .inl among⟩
      rw [Option.isSome_none, ← enabled]
  | true =>
      rw [lit] at enabled line
      have calls : pwmBacklightPowerOff gpioIsValid pbd =
          ({ pbd with enabled := false },
            [.config 0 pbd.period, .disable] ++
              setEnableGpio gpioIsValid pbd false) := by
        rw [pwmBacklightPowerOff, enabled]
        rfl
      have active := fun valid => (line valid).trans (Bool.true_bne _)
      have final := foldl_powerOff lit active false
      rw [calls]
      constructor
      · rfl
      · rw [final]
        refine ⟨rfl, nofun, fun valid => ?_⟩
        simp [valid]
      · rw [final]
      · rw [final]
        intro shown among
        rcases List.mem_append.mp among with before | zero
        · exact .inl before
        · exact .inr (.inr (List.mem_singleton.mp zero))

theorem foldl_powerOn (running : panel.running = false) (dutyCycle : BitVec 32)
    (enabled : Bool) :
    (PwmCall.config dutyCycle pbd.period ::
        (setEnableGpio gpioIsValid pbd true ++ [.enable])).foldl
      (Panel.call gpioIsValid { pbd with enabled }) panel =
      { dutyCycle, running := true
        high := if gpioIsValid pbd.enableGpio then !pbd.activeLow
          else panel.high
        lit := panel.lit ++ [dutyCycle]
        misused := panel.misused } := by
  cases valid : gpioIsValid pbd.enableGpio with
  | false => simp [setEnableGpio, valid, Panel.call, Panel.on, running]
  | true => simp [setEnableGpio, valid, Panel.call, Panel.on, running]

theorem foldl_config (running : panel.running = true)
    (line : gpioIsValid pbd.enableGpio = true →
      panel.high = !pbd.activeLow) (dutyCycle period : BitVec 32) :
    [PwmCall.config dutyCycle period].foldl (Panel.call gpioIsValid pbd) panel =
      { panel with dutyCycle, lit := panel.lit ++ [dutyCycle] } := by
  cases valid : gpioIsValid pbd.enableGpio with
  | false => simp [valid, Panel.call, Panel.on, running]
  | true =>
      have active := line valid
      simp [Panel.call, Panel.on, running, active]

/-- The panel is lit with the duty cycle of the brightness, or it goes dark. -/
theorem effect_updateStatus (enabled : pbd.enabled = panel.running)
    (shows : panel.Shows gpioIsValid pbd duty) :
    Effect gpioIsValid pbd panel
      (pwmBacklightUpdateStatus gpioIsValid pbd brightness)
      (wanted pbd brightness) := by
  rw [pwmBacklightUpdateStatus, wanted]
  by_cases light : brightness.toInt > 0
  · rw [if_pos light, if_pos light]
    obtain ⟨running, -, line⟩ := shows
    rw [← running] at line
    cases lit : panel.running with
    | false =>
        rw [lit] at enabled
        have final := @foldl_powerOn gpioIsValid pbd panel lit
          (computeDutyCycle pbd brightness) true
        simp only [pwmBacklightPowerOn, enabled, Bool.false_eq_true, if_false]
        constructor
        · rfl
        · rw [final]
          refine ⟨rfl, fun _ same => Option.some.inj same, fun valid => ?_⟩
          simp [valid]
        · rw [final]
        · rw [final]
          intro shown among
          rcases List.mem_append.mp among with before | last
          · exact .inl before
          · exact .inr (.inl (congrArg some (List.mem_singleton.mp last)))
    | true =>
        rw [lit] at enabled line
        have active := fun valid => (line valid).trans (Bool.true_bne _)
        have final := foldl_config lit active (computeDutyCycle pbd brightness)
          pbd.period
        simp only [pwmBacklightPowerOn, enabled, if_true]
        constructor
        · rw [Option.isSome_some, ← enabled]
        · rw [final]
          exact ⟨lit, fun _ same => Option.some.inj same, line⟩
        · rw [final]
        · rw [final]
          intro shown among
          rcases List.mem_append.mp among with before | last
          · exact .inl before
          · exact .inr (.inl (congrArg some (List.mem_singleton.mp last)))
  · rw [if_neg light, if_neg light]
    exact effect_powerOff enabled shows

variable {device : BacklightDevice} {backlight next : Backlight}

theorem settled_probed (off : device.pbd.enabled = false) :
    Settled gpioIsValid device (.probed device) where
  same := rfl
  enabled := off
  shows := ⟨rfl, nofun, fun _ => (Bool.false_bne _).symm⟩
  used := rfl
  lit := nofun

/-- One part of the driver takes the panel to what it is to show next. -/
theorem Settled.of_effect (settled : Settled gpioIsValid device backlight)
    {result : PwmBlData × List PwmCall} {asked : List (BitVec 32)}
    (more : ∀ brightness ∈ backlight.asked, brightness ∈ asked) {gone : Bool}
    (effect : Effect gpioIsValid backlight.pbd backlight.panel result
      (if gone then none else asked.getLast?.bind (wanted device.pbd))) :
    Settled gpioIsValid device
      { pbd := result.1
        panel := result.2.foldl (Panel.call gpioIsValid result.1)
          backlight.panel
        asked, gone } := by
  obtain ⟨same, -, -, used, lit⟩ := settled
  obtain ⟨data, shows, still, shown⟩ := effect
  rw [same] at data shows
  constructor
  · dsimp only
    rw [data]
  · dsimp only
    rw [shows.running, data]
  · exact ⟨shows.running, shows.dutyCycle, shows.line⟩
  · exact still.trans used
  · intro duty among
    rcases shown duty among with before | last | zero
    · rcases lit duty before with zero | ⟨brightness, among, asks⟩
      · exact .inl zero
      · exact .inr ⟨brightness, more brightness among, asks⟩
    · refine .inr ?_
      split at last
      · cases last
      · obtain ⟨brightness, here, asks⟩ := Option.bind_eq_some_iff.mp last.symm
        exact ⟨brightness, List.mem_of_getLast? here, asks⟩
    · exact .inl zero

theorem Settled.step (settled : Settled gpioIsValid device backlight)
    {action : PanelAction}
    (taken : backlight.step gpioIsValid action = some next) :
    Settled gpioIsValid device next := by
  have enabled := settled.enabled
  have shows : backlight.panel.Shows gpioIsValid backlight.pbd
      (if backlight.gone then none
        else backlight.asked.getLast?.bind (wanted device.pbd)) := by
    obtain ⟨running, dutyCycle, line⟩ := settled.shows
    refine ⟨running, dutyCycle, ?_⟩
    rw [settled.same]
    exact line
  cases action with
  | updateStatus brightness =>
      obtain ⟨stays, taken⟩ := Option.ite_none_left_eq_some.mp taken
      cases taken
      have effect := @effect_updateStatus _ _ _ _ brightness enabled shows
      have asks : wanted backlight.pbd brightness =
          (backlight.asked ++ [brightness]).getLast?.bind
            (wanted device.pbd) := by
        rw [List.getLast?_concat, settled.same]
        rfl
      have shown : (if backlight.gone = true then none
          else (backlight.asked ++ [brightness]).getLast?.bind
            (wanted device.pbd)) = _ :=
        if_neg stays
      rw [asks, ← shown] at effect
      refine settled.of_effect ?_ effect
      exact fun _ among => List.mem_append_left _ among
  | remove =>
      obtain ⟨-, taken⟩ := Option.ite_none_left_eq_some.mp taken
      cases taken
      exact settled.of_effect (fun _ among => among)
        (effect_powerOff enabled shows)

theorem settled_run {actions : List PanelAction}
    (off : device.pbd.enabled = false)
    (run : Run (Backlight.step gpioIsValid) (fun _ _ => True)
      (.probed device) actions backlight) :
    Settled gpioIsValid device backlight := by
  apply run.invariant (settled_probed off)
  intro backlight action next settled _ taken
  exact settled.step taken

theorem enabled_probed {env : ProbeEnv} {platformData : Option PlatformData}
    {node : Option DtNode}
    (probed : pwmBacklightProbe env platformData node = some (.ok device)) :
    device.pbd.enabled = false := by
  rcases pwmBacklightProbe_spec env platformData node with
    ⟨ret, failed, -⟩ | ⟨data, period, -, -, ⟨-, trapped⟩ | ⟨divides, -, ok⟩⟩
  · rw [failed] at probed
    cases probed
  · rw [trapped] at probed
    cases probed
  · rw [ok] at probed
    cases probed
    rfl

/-- Only the last brightness counts.  Whatever was set since the probe, the
panel is lit with the duty cycle of the last brightness if that is positive,
and dark otherwise, and when the driver is gone; the PWM was enabled and
disabled in turn, and the panel never lit with a duty cycle that nobody had
asked for. -/
theorem panel_shows_last {env : ProbeEnv} {platformData : Option PlatformData}
    {node : Option DtNode} {actions : List PanelAction}
    (probed : pwmBacklightProbe env platformData node = some (.ok device))
    (run : Run (Backlight.step env.gpioIsValid) (fun _ _ => True)
      (.probed device) actions backlight) :
    backlight.panel.Shows env.gpioIsValid device.pbd
        (if backlight.gone then none
          else backlight.asked.getLast?.bind (wanted device.pbd)) ∧
      backlight.panel.misused = false ∧
      ∀ duty ∈ backlight.panel.lit, duty = 0 ∨
        ∃ brightness ∈ backlight.asked,
          wanted device.pbd brightness = some duty := by
  have settled := settled_run (enabled_probed probed) run
  exact ⟨settled.shows, settled.used, settled.lit⟩

end Settled

/-- A panel with 255 brightnesses and an enable line that is active low. -/
def panelData : PlatformData :=
  { levels := none
    maxBrightness := 255
    lthBrightness := 0
    enableGpio := 7
    activeLow := true
    covers := nofun
    low := Nat.zero_le _ }

def panelEnv : ProbeEnv :=
  { sampleEnv 1000 with gpioIsValid := fun _ => true }

theorem scaleOf_panelData :
    scaleOf panelData.levels panelData.maxBrightness ≠ 0 := by
  decide

theorem panel_shows_last_dimmed :
    ∃ backlight : Backlight,
      backlight.panel.Shows (fun _ => true)
        (panelData.driverData 1000 scaleOf_panelData)
        (if backlight.gone then none
          else backlight.asked.getLast?.bind
            (wanted (panelData.driverData 1000 scaleOf_panelData))) ∧
      backlight.panel.misused = false ∧
      ∀ duty ∈ backlight.panel.lit, duty = 0 ∨
        ∃ brightness ∈ backlight.asked,
          wanted (panelData.driverData 1000 scaleOf_panelData) brightness =
            some duty := by
  have probed : pwmBacklightProbe panelEnv (some panelData) none =
      some (.ok ⟨255, panelData.driverData 1000 scaleOf_panelData⟩) := rfl
  have lit : (execute (Backlight.step panelEnv.gpioIsValid) (fun _ _ => True)
      (.probed ⟨255, panelData.driverData 1000 scaleOf_panelData⟩)
      [.updateStatus 255, .updateStatus 0, .updateStatus 51]).any
        (fun backlight => decide (backlight.panel.dutyCycle = 200)) = true :=
    rfl
  obtain ⟨backlight, run, -⟩ := Run.exists_of_execute lit
  exact ⟨backlight, panel_shows_last probed run⟩

end KernelDrivers.Pwm
