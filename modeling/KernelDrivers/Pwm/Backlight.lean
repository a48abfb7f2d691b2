import KernelDrivers.Library.Scaling

/-!
# The PWM backlight

Probe and brightness of `pwm_backlight.c`.  All quantities are 32-bit words;
what the kernel answers is given beforehand.
-/

namespace KernelDrivers.Pwm

open KernelDrivers.Library

abbrev enodev : Int := -19
abbrev enomem : Int := -12
abbrev einval : Int := -22
abbrev eprobeDefer : Int := -517

/-- The loop over the levels: the largest so far. -/
def larger (scale level : BitVec 32) : BitVec 32 :=
  if level > scale then level else scale

/-- The divisor: the largest level, or the largest brightness if the levels
are `NULL`. -/
def scaleOf (levels : Option (List (BitVec 32))) (maxBrightness : BitVec 32) :
    BitVec 32 :=
  match levels with
  | some table => table.foldl larger 0
  | none => maxBrightness

/-- `platform_pwm_backlight_data`: a table has an entry for every brightness,
and the threshold is on the scale of the levels. -/
structure PlatformData where
  levels : Option (List (BitVec 32))
  maxBrightness : BitVec 32
  lthBrightness : BitVec 32
  enableGpio : Int
  activeLow : Bool
  covers : ∀ table, levels = some table →
    table.length = maxBrightness.toNat + 1
  low : lthBrightness.toNat ≤ (scaleOf levels maxBrightness).toNat

/-- The property `brightness-levels`, whose length in bytes is an `int`. -/
structure LevelsProperty where
  bytes : Nat
  entries : List (BitVec 32)
  inside : bytes < 2 ^ 31
  whole : entries.length = bytes / 4

/-- The node, with the results of the allocation and of both reads. -/
structure DtNode where
  levels : Option LevelsProperty
  allocated : Bool
  arrayRet : Int
  defaultRet : Int
  enableGpio : Int
  activeLow : Bool

theorem LevelsProperty.length_pred (property : LevelsProperty)
    (nonempty : 0 < property.entries.length) :
    property.entries.length =
      (BitVec.ofNat 32 property.entries.length - 1).toNat + 1 := by
  have inside := property.inside
  have whole := property.whole
  rw [BitVec.toNat_sub, BitVec.toNat_ofNat]
  have one : (1 : BitVec 32).toNat = 1 := rfl
  omega

/-- The data of `memset` with the levels that were read: `max_brightness` is
their number, less one if there are any. -/
def LevelsProperty.data (property : LevelsProperty) (enableGpio : Int)
    (activeLow : Bool) : PlatformData :=
  if nonempty : 0 < property.entries.length then
    { levels := some property.entries
      maxBrightness := BitVec.ofNat 32 property.entries.length - 1
      lthBrightness := 0
      enableGpio
      activeLow
      covers := by
        rintro table ⟨⟩
        exact property.length_pred nonempty
      low := Nat.zero_le _ }
  else
    { levels := none
      maxBrightness := 0
      lthBrightness := 0
      enableGpio
      activeLow
      covers := by
        rintro table ⟨⟩
      low := Nat.zero_le _ }

/-- The error of the part that is only run for a table with entries. -/
def readLevels (node : DtNode) (property : LevelsProperty) : Option Int :=
  if property.entries.length = 0 then none
  else if ¬node.allocated then some enomem
  else if node.arrayRet < 0 then some node.arrayRet
  else if node.defaultRet < 0 then some node.defaultRet
  else none

def pwmBacklightParseDt (gpioIsValid : Int → Bool) (node : Option DtNode) :
    Except Int PlatformData :=
  match node with
  | none => .error enodev
  | some node =>
      match node.levels with
      | none => .error einval
      | some property =>
          match readLevels node property with
          | some ret => .error ret
          | none =>
              if node.enableGpio = eprobeDefer then .error eprobeDefer
              else
                .ok (property.data node.enableGpio
                  (gpioIsValid node.enableGpio && node.activeLow))

/-- `pwm_bl_data`, with a divisor that is not zero. -/
structure PwmBlData where
  period : BitVec 32
  lthBrightness : BitVec 32
  levels : Option (List (BitVec 32))
  enabled : Bool
  enableGpio : Int
  activeLow : Bool
  scale : BitVec 32
  divides : scale ≠ 0

/-- Calls of the PWM and GPIO interfaces. -/
inductive PwmCall where
  | config (dutyCycle period : BitVec 32)
  | enable
  | disable
  | gpioSetValue (high : Bool)

/-- What the driver does to the enable line, if there is one. -/
def setEnableGpio (gpioIsValid : Int → Bool) (pbd : PwmBlData) (on : Bool) :
    List PwmCall :=
  if gpioIsValid pbd.enableGpio then
    [.gpioSetValue (if pbd.activeLow then !on else on)]
  else []

def pwmBacklightPowerOn (gpioIsValid : Int → Bool) (pbd : PwmBlData) :
    PwmBlData × List PwmCall :=
  if pbd.enabled then (pbd, [])
  else
    ({ pbd with enabled := true },
      setEnableGpio gpioIsValid pbd true ++ [.enable])

def pwmBacklightPowerOff (gpioIsValid : Int → Bool) (pbd : PwmBlData) :
    PwmBlData × List PwmCall :=
  if pbd.enabled then
    ({ pbd with enabled := false },
      [.config 0 pbd.period, .disable] ++ setEnableGpio gpioIsValid pbd false)
  else (pbd, [])

/-- The level that a brightness stands for. -/
def levelOf (levels : Option (List (BitVec 32))) (brightness : BitVec 32) :
    BitVec 32 :=
  match levels with
  | some table => table.getD brightness.toNat 0
  | none => brightness

/-- `compute_duty_cycle`: the arithmetic is unsigned, the result an `int`. -/
def computeDutyCycle (pbd : PwmBlData) (brightness : BitVec 32) : BitVec 32 :=
  let lth := pbd.lthBrightness
  let dutyCycle := levelOf pbd.levels brightness
  dutyCycle * (pbd.period - lth) / pbd.scale + lth

def pwmBacklightUpdateStatus (gpioIsValid : Int → Bool) (pbd : PwmBlData)
    (brightness : BitVec 32) : PwmBlData × List PwmCall :=
  if brightness.toInt > 0 then
    let dutyCycle := computeDutyCycle pbd brightness
    let on := pwmBacklightPowerOn gpioIsValid pbd
    (on.1, .config dutyCycle pbd.period :: on.2)
  else pwmBacklightPowerOff gpioIsValid pbd

/-- The answers of the kernel.  A PWM comes with its period. -/
structure ProbeEnv where
  gpioIsValid : Int → Bool
  allocated : Bool
  gpioRequest : Int
  devmPwmGet : Except Int (BitVec 32)
  pwmRequest : Except Int (BitVec 32)
  register : Int

/-- The part up to the first division: the period, or an error. -/
def probeSetup (env : ProbeEnv) (data : PlatformData) :
    Except Int (BitVec 32) :=
  if ¬env.allocated then .error enomem
  else if env.gpioIsValid data.enableGpio ∧ env.gpioRequest < 0 then
    .error env.gpioRequest
  else
    match env.devmPwmGet with
    | .ok period => .ok period
    | .error _ => env.pwmRequest

/-- `data`: what the platform gives, or else what the device tree says. -/
def probeData (env : ProbeEnv) (platformData : Option PlatformData)
    (node : Option DtNode) : Except Int PlatformData :=
  match platformData with
  | some data => .ok data
  | none => pwmBacklightParseDt env.gpioIsValid node

/-- The driver's data, once the PWM is there. -/
def PlatformData.driverData (data : PlatformData) (period : BitVec 32)
    (divides : scaleOf data.levels data.maxBrightness ≠ 0) : PwmBlData :=
  let scale := scaleOf data.levels data.maxBrightness
  { period
    lthBrightness := data.lthBrightness * (period / scale)
    levels := data.levels
    enabled := false
    enableGpio := data.enableGpio
    activeLow := data.activeLow
    scale
    divides }

/-- The registered device: its properties and the driver's data. -/
structure BacklightDevice where
  maxBrightness : BitVec 32
  pbd : PwmBlData

/-- `pwm_backlight_probe`.  A divisor of 0 is a division by zero. -/
def pwmBacklightProbe (env : ProbeEnv) (platformData : Option PlatformData)
    (node : Option DtNode) : Option (Except Int BacklightDevice) :=
  match probeData env platformData node with
  | .error ret => some (.error ret)
  | .ok data =>
      match probeSetup env data with
      | .error ret => some (.error ret)
      | .ok period =>
          if zero : scaleOf data.levels data.maxBrightness = 0 then none
          else
            let pbd := data.driverData period zero
            if env.register ≠ 0 then some (.error env.register)
            else
              some (.ok
                { maxBrightness := data.maxBrightness
                  pbd := (pwmBacklightUpdateStatus env.gpioIsValid pbd 0).1 })

end KernelDrivers.Pwm
