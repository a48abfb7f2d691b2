import KernelDrivers.Pwm.Backlight

/-!
# The duty cycle

The duty cycle is a scaled level above the threshold.  It is exact as long as
the product fits into 32 bits and the result into an `int`.
-/

namespace KernelDrivers.Pwm

open KernelDrivers.Library

/-- A duty cycle that a brightness programs, whether the light is on or off
before. -/
def Programs (gpioIsValid : Int → Bool) (pbd : PwmBlData)
    (brightness dutyCycle : BitVec 32) : Prop :=
  brightness.toInt > 0 ∧ ∃ enabled, PwmCall.config dutyCycle pbd.period ∈
    (pwmBacklightUpdateStatus gpioIsValid { pbd with enabled } brightness).2

/-- The duty cycle without any limits of the arithmetic, rounded down. -/
def exactDuty (period lth scale level : Nat) : Nat :=
  scaled (period - lth) scale level + lth

/-- The product of `compute_duty_cycle`, in full. -/
def product (pbd : PwmBlData) (brightness : BitVec 32) : Nat :=
  (levelOf pbd.levels brightness).toNat *
    (pbd.period.toNat - pbd.lthBrightness.toNat)

structure DutySafe (gpioIsValid : Int → Bool) (pbd : PwmBlData)
    (maxBrightness : BitVec 32) : Prop where
  threshold : pbd.lthBrightness.toNat ≤ pbd.period.toNat
  exact : ∀ brightness dutyCycle, brightness.toNat ≤ maxBrightness.toNat →
    Programs gpioIsValid pbd brightness dutyCycle →
      product pbd brightness < 2 ^ 32 ∨ dutyCycle.toInt =
        exactDuty pbd.period.toNat pbd.lthBrightness.toNat pbd.scale.toNat
          (levelOf pbd.levels brightness).toNat
  bounds : ∀ brightness dutyCycle, brightness.toNat ≤ maxBrightness.toNat →
    Programs gpioIsValid pbd brightness dutyCycle →
      pbd.lthBrightness.toNat ≤ dutyCycle.toInt ∧
        dutyCycle.toInt ≤ pbd.period.toNat
  monotone : ∀ brightness dutyCycle brightness' dutyCycle',
    brightness.toNat ≤ maxBrightness.toNat →
    brightness'.toNat ≤ maxBrightness.toNat →
    Programs gpioIsValid pbd brightness dutyCycle →
    Programs gpioIsValid pbd brightness' dutyCycle' →
    levelOf pbd.levels brightness ≤ levelOf pbd.levels brightness' →
      dutyCycle.toInt ≤ dutyCycle'.toInt
  top : ∀ brightness dutyCycle, brightness.toNat ≤ maxBrightness.toNat →
    Programs gpioIsValid pbd brightness dutyCycle →
    (∀ brightness', brightness'.toNat ≤ maxBrightness.toNat →
      levelOf pbd.levels brightness' ≤ levelOf pbd.levels brightness) →
      dutyCycle.toInt = pbd.period.toNat

/-- The probe does not divide by zero, and where it succeeds every duty cycle
is safe. -/
def ProbeSafe (env : ProbeEnv) (platformData : Option PlatformData)
    (node : Option DtNode) : Prop :=
  match pwmBacklightProbe env platformData node with
  | none => False
  | some (.error _) => True
  | some (.ok device) =>
      DutySafe env.gpioIsValid device.pbd device.maxBrightness

/-- Neither a product nor a duty cycle is too large. -/
def DutyFits (data : PlatformData) (period : BitVec 32) : Prop :=
  let scale := (scaleOf data.levels data.maxBrightness).toNat
  let lth := data.lthBrightness.toNat * (period.toNat / scale)
  ∀ brightness : BitVec 32, brightness.toInt > 0 →
    brightness.toNat ≤ data.maxBrightness.toNat →
      (levelOf data.levels brightness).toNat * (period.toNat - lth) < 2 ^ 32 ∧
        exactDuty period.toNat lth scale
          (levelOf data.levels brightness).toNat < 2 ^ 31

theorem foldl_larger (table : List (BitVec 32)) (scale : BitVec 32) :
    scale ≤ table.foldl larger scale ∧
      (∀ level ∈ table, level ≤ table.foldl larger scale) ∧
      (table.foldl larger scale = scale ∨
        table.foldl larger scale ∈ table) := by
  induction table generalizing scale with
  | nil =>
      refine ⟨BitVec.le_refl scale, ?_, .inl rfl⟩
      intro level member
      cases member
  | cons level table induction =>
      obtain ⟨grows, bound, attained⟩ := induction (larger scale level)
      have both : scale ≤ larger scale level ∧ level ≤ larger scale level ∧
          (larger scale level = scale ∨ larger scale level = level) := by
        unfold larger
        split
        · rename_i above
          exact ⟨BitVec.le_of_lt above, BitVec.le_refl level, .inr rfl⟩
        · rename_i below
          exact ⟨BitVec.le_refl scale, BitVec.not_lt.mp below, .inl rfl⟩
      rw [List.foldl_cons]
      refine ⟨BitVec.le_trans both.1 grows, ?_, ?_⟩
      · intro other member
        rcases List.mem_cons.mp member with rfl | later
        · exact BitVec.le_trans both.2.1 grows
        · exact bound other later
      · rcases attained with same | later
        · rw [same]
          rcases both.2.2 with old | new
          · exact .inl old
          · exact .inr (by rw [new]; exact List.mem_cons_self)
        · exact .inr (List.mem_cons_of_mem level later)

theorem levelOf_table {table : List (BitVec 32)} {brightness : BitVec 32}
    (inside : brightness.toNat < table.length) :
    levelOf (some table) brightness = table[brightness.toNat] := by
  rw [levelOf, List.getD_eq_getElem?_getD, List.getElem?_eq_getElem inside,
    Option.getD_some]

theorem levelOf_le_scale (data : PlatformData) {brightness : BitVec 32}
    (inside : brightness.toNat ≤ data.maxBrightness.toNat) :
    (levelOf data.levels brightness).toNat ≤
      (scaleOf data.levels data.maxBrightness).toNat := by
  cases source : data.levels with
  | none => exact inside
  | some table =>
      have covers := data.covers table source
      have index : brightness.toNat < table.length := by omega
      rw [levelOf_table index]
      exact (foldl_larger table 0).2.1 _ (List.getElem_mem index)

theorem exists_levelOf_scale (data : PlatformData)
    (divides : scaleOf data.levels data.maxBrightness ≠ 0) :
    ∃ brightness : BitVec 32,
      brightness.toNat ≤ data.maxBrightness.toNat ∧
        levelOf data.levels brightness =
          scaleOf data.levels data.maxBrightness := by
  cases source : data.levels with
  | none => exact ⟨data.maxBrightness, Nat.le_refl _, rfl⟩
  | some table =>
      rw [source] at divides
      rcases (foldl_larger table 0).2.2 with zero | member
      · exact absurd zero divides
      · obtain ⟨index, inside, same⟩ := List.getElem_of_mem member
        have covers := data.covers table source
        have small := data.maxBrightness.isLt
        have value : (BitVec.ofNat 32 index).toNat = index := by
          rw [BitVec.toNat_ofNat]
          omega
        have within : (BitVec.ofNat 32 index).toNat < table.length := by
          rw [value]
          exact inside
        refine ⟨BitVec.ofNat 32 index, by omega, ?_⟩
        rw [levelOf_table within]
        simp only [value]
        exact same

theorem powerOn_config (gpioIsValid : Int → Bool) (pbd : PwmBlData)
    (dutyCycle period : BitVec 32) :
    PwmCall.config dutyCycle period ∉
      (pwmBacklightPowerOn gpioIsValid pbd).2 := by
  unfold pwmBacklightPowerOn setEnableGpio
  split
  · exact List.not_mem_nil
  · split <;> simp

/-- A brightness programs what is computed for it, unless it is 0. -/
theorem programs_iff (gpioIsValid : Int → Bool) (pbd : PwmBlData)
    (brightness dutyCycle : BitVec 32) :
    Programs gpioIsValid pbd brightness dutyCycle ↔
      brightness.toInt > 0 ∧ dutyCycle = computeDutyCycle pbd brightness := by
  unfold Programs pwmBacklightUpdateStatus
  constructor
  · rintro ⟨positive, enabled, member⟩
    rw [if_pos positive] at member
    refine ⟨positive, ?_⟩
    rcases List.mem_cons.mp member with same | later
    · cases same
      rfl
    · exact absurd later (powerOn_config _ _ _ _)
  · rintro ⟨positive, rfl⟩
    refine ⟨positive, pbd.enabled, ?_⟩
    rw [if_pos positive]
    exact List.mem_cons_self

theorem toInt_eq_toNat_iff (word : BitVec 32) :
    word.toInt = word.toNat ↔ word.toNat < 2 ^ 31 := by
  have cases := BitVec.toInt_eq_toNat_cond word
  have bound := word.isLt
  split at cases <;> omega

theorem toInt_nonneg_iff (word : BitVec 32) :
    0 ≤ word.toInt ↔ word.toNat < 2 ^ 31 := by
  have cases := BitVec.toInt_eq_toNat_cond word
  have bound := word.isLt
  split at cases <;> omega

/-- Threshold and levels are within their ranges. -/
structure Ranged (pbd : PwmBlData) (maxBrightness : BitVec 32) : Prop where
  threshold : pbd.lthBrightness.toNat ≤ pbd.period.toNat
  level : ∀ brightness : BitVec 32,
    brightness.toNat ≤ maxBrightness.toNat →
      (levelOf pbd.levels brightness).toNat ≤ pbd.scale.toNat
  top : ∃ brightness : BitVec 32,
    brightness.toNat ≤ maxBrightness.toNat ∧
      levelOf pbd.levels brightness = pbd.scale

theorem scale_pos (pbd : PwmBlData) : 0 < pbd.scale.toNat := by
  apply Nat.pos_of_ne_zero
  intro zero
  exact pbd.divides (BitVec.eq_of_toNat_eq zero)

def exactDutyOf (pbd : PwmBlData) (brightness : BitVec 32) : Nat :=
  exactDuty pbd.period.toNat pbd.lthBrightness.toNat pbd.scale.toNat
    (levelOf pbd.levels brightness).toNat

theorem exactDuty_le {period lth scale level : Nat} (low : lth ≤ period)
    (inside : level ≤ scale) : exactDuty period lth scale level ≤ period := by
  have part : scaled (period - lth) scale level ≤ period - lth :=
    scaled_le inside
  rw [exactDuty]
  omega

variable {pbd : PwmBlData} {maxBrightness brightness : BitVec 32}

theorem computeDutyCycle_toNat (ranged : Ranged pbd maxBrightness)
    (inside : brightness.toNat ≤ maxBrightness.toNat) :
    (computeDutyCycle pbd brightness).toNat =
      product pbd brightness % 2 ^ 32 / pbd.scale.toNat +
        pbd.lthBrightness.toNat := by
  have level := ranged.level brightness inside
  have threshold := ranged.threshold
  have reduced : product pbd brightness % 2 ^ 32 / pbd.scale.toNat ≤
      pbd.period.toNat - pbd.lthBrightness.toNat := by
    have part : scaled (pbd.period.toNat - pbd.lthBrightness.toNat)
        pbd.scale.toNat (levelOf pbd.levels brightness).toNat ≤
          pbd.period.toNat - pbd.lthBrightness.toNat := scaled_le level
    have less : product pbd brightness % 2 ^ 32 / pbd.scale.toNat ≤
        product pbd brightness / pbd.scale.toNat :=
      Nat.div_le_div_right (Nat.mod_le _ _)
    exact less.trans part
  have small := pbd.period.isLt
  rw [computeDutyCycle, BitVec.toNat_add, BitVec.toNat_udiv, BitVec.toNat_mul,
    BitVec.toNat_sub_of_le threshold, Nat.mod_eq_of_lt]
  · rfl
  · rw [product] at reduced
    omega

theorem computeDutyCycle_exact_iff (ranged : Ranged pbd maxBrightness)
    (inside : brightness.toNat ≤ maxBrightness.toNat) :
    (computeDutyCycle pbd brightness).toNat = exactDutyOf pbd brightness ↔
      product pbd brightness < 2 ^ 32 := by
  have small : pbd.scale.toNat ≤ 2 ^ 32 := Nat.le_of_lt pbd.scale.isLt
  rw [computeDutyCycle_toNat ranged inside, exactDutyOf, exactDuty,
    Nat.add_right_cancel_iff]
  exact mod_div_eq_iff (scale_pos pbd) small

theorem exactDutyOf_le (ranged : Ranged pbd maxBrightness)
    (inside : brightness.toNat ≤ maxBrightness.toNat) :
    pbd.lthBrightness.toNat ≤ exactDutyOf pbd brightness ∧
      exactDutyOf pbd brightness ≤ pbd.period.toNat :=
  ⟨Nat.le_add_left _ _,
    exactDuty_le ranged.threshold (ranged.level brightness inside)⟩

/-- A brightness whose duty cycle is safe. -/
def Fits (pbd : PwmBlData) (brightness : BitVec 32) : Prop :=
  product pbd brightness < 2 ^ 32 ∧ exactDutyOf pbd brightness < 2 ^ 31

theorem computeDutyCycle_toInt (ranged : Ranged pbd maxBrightness)
    (inside : brightness.toNat ≤ maxBrightness.toNat)
    (fits : Fits pbd brightness) :
    (computeDutyCycle pbd brightness).toInt = exactDutyOf pbd brightness := by
  have exact := (computeDutyCycle_exact_iff ranged inside).mpr fits.1
  have same : (computeDutyCycle pbd brightness).toInt =
      (computeDutyCycle pbd brightness).toNat := by
    rw [toInt_eq_toNat_iff, exact]
    exact fits.2
  rw [same, exact]

theorem fits_of_safe {gpioIsValid : Int → Bool}
    (ranged : Ranged pbd maxBrightness)
    (safe : DutySafe gpioIsValid pbd maxBrightness)
    (inside : brightness.toNat ≤ maxBrightness.toNat)
    (positive : brightness.toInt > 0) : Fits pbd brightness := by
  have programs : Programs gpioIsValid pbd brightness
      (computeDutyCycle pbd brightness) :=
    (programs_iff _ _ _ _).mpr ⟨positive, rfl⟩
  have lower := (safe.bounds brightness _ inside programs).1
  have nonneg : 0 ≤ (computeDutyCycle pbd brightness).toInt :=
    (Int.natCast_nonneg _).trans lower
  have small := (toInt_nonneg_iff _).mp nonneg
  have value := (toInt_eq_toNat_iff _).mpr small
  have exact : (computeDutyCycle pbd brightness).toNat =
      exactDutyOf pbd brightness := by
    rcases safe.exact brightness _ inside programs with fits | same
    · exact (computeDutyCycle_exact_iff ranged inside).mpr fits
    · rw [value] at same
      exact Int.ofNat_inj.mp same
  refine ⟨(computeDutyCycle_exact_iff ranged inside).mp exact, ?_⟩
  rw [← exact]
  exact small

theorem safe_of_fits (gpioIsValid : Int → Bool)
    (ranged : Ranged pbd maxBrightness)
    (fits : ∀ brightness : BitVec 32, brightness.toInt > 0 →
      brightness.toNat ≤ maxBrightness.toNat → Fits pbd brightness) :
    DutySafe gpioIsValid pbd maxBrightness := by
  have value : ∀ brightness dutyCycle : BitVec 32,
      brightness.toNat ≤ maxBrightness.toNat →
      Programs gpioIsValid pbd brightness dutyCycle →
      dutyCycle.toInt = exactDutyOf pbd brightness := by
    intro brightness dutyCycle inside programs
    obtain ⟨positive, same⟩ := (programs_iff _ _ _ _).mp programs
    rw [same]
    exact computeDutyCycle_toInt ranged inside (fits brightness positive inside)
  constructor
  · exact ranged.threshold
  · intro brightness dutyCycle inside programs
    exact .inr (value brightness dutyCycle inside programs)
  · intro brightness dutyCycle inside programs
    obtain ⟨lower, upper⟩ := exactDutyOf_le ranged inside
    rw [value brightness dutyCycle inside programs]
    exact ⟨Int.ofNat_le.mpr lower, Int.ofNat_le.mpr upper⟩
  · intro brightness dutyCycle brightness' dutyCycle' inside inside' programs
      programs' below
    rw [value brightness dutyCycle inside programs,
      value brightness' dutyCycle' inside' programs']
    apply Int.ofNat_le.mpr
    apply Nat.add_le_add_right
    exact scaled_mono below
  · intro brightness dutyCycle inside programs largest
    obtain ⟨brightness', inside', scale⟩ := ranged.top
    have above : pbd.scale ≤ levelOf pbd.levels brightness := by
      rw [← scale]
      exact largest brightness' inside'
    have same : (levelOf pbd.levels brightness).toNat = pbd.scale.toNat :=
      Nat.le_antisymm (ranged.level brightness inside) above
    have whole : exactDutyOf pbd brightness = pbd.period.toNat := by
      rw [exactDutyOf, same, exactDuty, scaled_top (scale_pos pbd)]
      exact Nat.sub_add_cancel ranged.threshold
    rw [value brightness dutyCycle inside programs, whole]

theorem threshold_toNat (data : PlatformData) (period : BitVec 32)
    (divides : scaleOf data.levels data.maxBrightness ≠ 0) :
    (data.driverData period divides).lthBrightness.toNat =
      data.lthBrightness.toNat * (period.toNat /
        (scaleOf data.levels data.maxBrightness).toNat) ∧
      (data.driverData period divides).lthBrightness.toNat ≤
        period.toNat := by
  have whole : data.lthBrightness.toNat * (period.toNat /
      (scaleOf data.levels data.maxBrightness).toNat) ≤ period.toNat :=
    mul_div_le data.low
  have small := period.isLt
  have value : (data.driverData period divides).lthBrightness.toNat =
      data.lthBrightness.toNat * (period.toNat /
        (scaleOf data.levels data.maxBrightness).toNat) := by
    rw [PlatformData.driverData, BitVec.toNat_mul, BitVec.toNat_udiv,
      Nat.mod_eq_of_lt (by omega)]
  exact ⟨value, value.symm ▸ whole⟩

theorem driverData_ranged (data : PlatformData) (period : BitVec 32)
    (divides : scaleOf data.levels data.maxBrightness ≠ 0) :
    Ranged (data.driverData period divides) data.maxBrightness := by
  refine ⟨(threshold_toNat data period divides).2, ?_, ?_⟩
  · intro brightness inside
    exact levelOf_le_scale data inside
  · exact exists_levelOf_scale data divides

theorem dutyFits_iff (data : PlatformData) (period : BitVec 32)
    (divides : scaleOf data.levels data.maxBrightness ≠ 0) :
    DutyFits data period ↔ ∀ brightness : BitVec 32, brightness.toInt > 0 →
      brightness.toNat ≤ data.maxBrightness.toNat →
        Fits (data.driverData period divides) brightness := by
  have value := (threshold_toNat data period divides).1
  unfold DutyFits Fits product exactDutyOf
  rw [value]
  rfl

theorem dutySafe_iff (gpioIsValid : Int → Bool) (data : PlatformData)
    (period : BitVec 32)
    (divides : scaleOf data.levels data.maxBrightness ≠ 0) :
    DutySafe gpioIsValid (data.driverData period divides)
      data.maxBrightness ↔ DutyFits data period := by
  have ranged := driverData_ranged data period divides
  rw [dutyFits_iff data period divides]
  constructor
  · intro safe brightness positive inside
    exact fits_of_safe ranged safe inside positive
  · intro fits
    exact safe_of_fits gpioIsValid ranged fits

theorem pwmBacklightProbe_spec (env : ProbeEnv)
    (platformData : Option PlatformData) (node : Option DtNode) :
    (∃ ret, pwmBacklightProbe env platformData node = some (.error ret) ∧
      ∀ data period, probeData env platformData node = .ok data →
        probeSetup env data = .ok period →
          scaleOf data.levels data.maxBrightness ≠ 0 ∧ env.register ≠ 0) ∨
    ∃ data period, probeData env platformData node = .ok data ∧
      probeSetup env data = .ok period ∧
      ((scaleOf data.levels data.maxBrightness = 0 ∧
        pwmBacklightProbe env platformData node = none) ∨
      ∃ divides, env.register = 0 ∧
        pwmBacklightProbe env platformData node =
          some (.ok { maxBrightness := data.maxBrightness
                      pbd := data.driverData period divides })) := by
  unfold pwmBacklightProbe
  cases source : probeData env platformData node with
  | error ret =>
      refine .inl ⟨ret, rfl, ?_⟩
      rintro data period ⟨⟩
  | ok data =>
      cases setup : probeSetup env data with
      | error ret =>
          refine .inl ⟨ret, by simp only [setup], ?_⟩
          rintro data' period ⟨⟩ reached
          rw [setup] at reached
          cases reached
      | ok period =>
          simp only [setup]
          by_cases zero : scaleOf data.levels data.maxBrightness = 0
          · refine .inr ⟨data, period, rfl, setup, .inl ⟨zero, ?_⟩⟩
            rw [dif_pos zero]
          · rw [dif_neg zero]
            by_cases registered : env.register = 0
            · refine .inr
                ⟨data, period, rfl, setup, .inr ⟨zero, registered, ?_⟩⟩
              rw [if_neg (not_not.mpr registered)]
              rfl
            · refine .inl ⟨env.register, if_pos registered, ?_⟩
              rintro data' period' ⟨⟩ _
              exact ⟨zero, registered⟩

/-- A probe is safe exactly if it is refused beforehand, or some level is not 0
and every product and duty cycle fits. -/
theorem probeSafe_iff (env : ProbeEnv) (platformData : Option PlatformData)
    (node : Option DtNode) :
    ProbeSafe env platformData node ↔
      ∀ data period, probeData env platformData node = .ok data →
        probeSetup env data = .ok period →
          scaleOf data.levels data.maxBrightness ≠ 0 ∧
            (env.register = 0 → DutyFits data period) := by
  unfold ProbeSafe
  rcases pwmBacklightProbe_spec env platformData node with
    ⟨ret, failed, ends⟩ | ⟨data, period, source, setup, ⟨zero, crash⟩ |
      ⟨divides, registered, done⟩⟩
  · rw [failed]
    refine ⟨fun _ data period source setup => ?_, fun _ => trivial⟩
    obtain ⟨divides, unregistered⟩ := ends data period source setup
    exact ⟨divides, fun registered => absurd registered unregistered⟩
  · rw [crash]
    refine ⟨False.elim, fun condition => ?_⟩
    exact (condition data period source setup).1 zero
  · rw [done]
    dsimp only
    rw [dutySafe_iff]
    constructor
    · intro fits data' period' source' setup'
      rw [source] at source'
      cases source'
      rw [setup] at setup'
      cases setup'
      exact ⟨divides, fun _ => fits⟩
    · intro condition
      exact (condition data period source setup).2 registered

/-- A kernel that grants everything, with a PWM of the period. -/
def sampleEnv (period : BitVec 32) : ProbeEnv :=
  { gpioIsValid := fun _ => false
    allocated := true
    gpioRequest := 0
    devmPwmGet := .ok period
    pwmRequest := .error enodev
    register := 0 }

def sampleLevels (level : BitVec 32) : LevelsProperty :=
  { bytes := 8
    entries := [0, level]
    inside := by decide
    whole := rfl }

def sampleNode (level : BitVec 32) : DtNode :=
  { levels := some (sampleLevels level)
    allocated := true
    arrayRet := 0
    defaultRet := 0
    enableGpio := -1
    activeLow := false }

/-- 255 of 255 levels at 50 Hz is programmed as 3.2 of 20 milliseconds; two
levels of 0 divide by zero. -/
theorem not_probeSafe_wrap :
    ¬ProbeSafe (sampleEnv 20000000) none (some (sampleNode 255)) ∧
      ¬ProbeSafe (sampleEnv 25000) none (some (sampleNode 0)) := by
  constructor
  · intro safe
    let data := (sampleLevels 255).data (-1) false
    have divides : scaleOf data.levels data.maxBrightness ≠ 0 := by
      decide
    have reached : DutySafe (fun _ => false) (data.driverData 20000000 divides)
        data.maxBrightness := safe
    rw [dutySafe_iff] at reached
    exact absurd (reached 1 (by decide) (by decide)).1 (by decide)
  · exact id

end KernelDrivers.Pwm
