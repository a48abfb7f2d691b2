import KernelDrivers.Library.Transition
import KernelDrivers.Sound.CodecParams

/-!
# The master clock of the card

The machine driver chooses the CPU clock by the sample rate, and tells the codec
about one frequency once and for all.  Both have to mean the same clock.
-/

namespace KernelDrivers.Sound

open KernelDrivers.Library

/-- `clk` is the rate of the CPU clock. -/
structure Card where
  chip : Es8323Chip
  codec : Codec
  regs : Controller
  clk : Nat

/-- `rockchip_i2s_set_sysclk`, where `clk_set_rate` returns `clkRet`. -/
def rockchipI2sSetSysclk (card : Card) (freq : Nat) (clkRet : Int) :
    Int × Card :=
  (clkRet, if clkRet = 0 then { card with clk := freq } else card)

/-- `rk3288_hw_params` with the clock.  The result of setting it is ignored. -/
def rk3288HwParams (card : Card) (fmt : BitVec 32) (rate : Nat)
    (clkRet : Int) : Option (Int × Card) :=
  let codecSet := es8323SetDaiFmt card.codec fmt
  let card := { card with codec := codecSet.2 }
  if codecSet.1 < 0 then some (codecSet.1, card)
  else
    let cpuSet := rockchipI2sSetFmt card.regs fmt
    let card := { card with regs := cpuSet.2 }
    if cpuSet.1 < 0 then some (cpuSet.1, card)
    else if rate = 0 then none
    else
      let pll := pllOut rate
      if fmt &&& daifmtMasterMask = daifmtCbsCfs then
        let card := (rockchipI2sSetSysclk card pll.1 clkRet).2
        let div := BitVec.ofInt 32 (((pll.1 / 4 / rate : Nat) : Int) - 1)
        let regs := (rockchipI2sSetClkdiv card.regs rockchipDivBclk div).2
        let regs := (rockchipI2sSetClkdiv regs rockchipDivMclk 3).2
        some (pll.2, { card with regs := regs })
      else some (pll.2, card)

/-- `rk3288_es8323_init`. -/
def rk3288Es8323Init (card : Card) : Int × Card :=
  let set := es8323SetDaiSysclk card.chip 11289600
  (set.1, { card with chip := set.2 })

/-- The parameters of a stream that is opened, and what `clk_set_rate`
returns. -/
structure Opening where
  rate : Nat
  format : PcmFormat
  clkRet : Int

/-- The codec's parameters are set after those of the machine driver, unless
these failed. -/
def openStep (fmt : BitVec 32) (card : Card) (opening : Opening) :
    Option Card :=
  match rk3288HwParams card fmt opening.rate opening.clkRet with
  | none => none
  | some (ret, card) =>
      if ret < 0 then some card
      else
        let set := es8323PcmHwParams card.chip card.codec opening.rate
          opening.format
        some { card with codec := set.2 }

/-- TSD, RSD and MDIV of CKR. -/
def dividers (regs : Controller) : BitVec 32 :=
  regs i2sCkr &&& 0xffffff

/-- The codec is set for the clock that it gets, at the rate requested. -/
structure SameClock (card : Card) (codec : Codec) (rate : Nat) (row : CoeffDiv)
    (half : Bool) : Prop where
  sysclk : card.clk = card.chip.sysclk
  rate : row.rate = rate
  mclk : (if half then row.mclk * 2 else row.mclk) = card.clk
  half : codec.bit es8323Iface 6 = half
  adcRate : codec es8323AdcControl5 = row.code
  dacRate : codec es8323DacControl2 = row.code

/-- Success at both ends is on one clock; failure of the machine driver leaves
the clock and the dividers alone. -/
def ClockAgrees (fmt : BitVec 32) (card : Card) (opening : Opening) : Prop :=
  ∀ ret after, rk3288HwParams card fmt opening.rate opening.clkRet =
      some (ret, after) →
    (ret = 0 → ∀ codec, es8323PcmHwParams after.chip after.codec opening.rate
        opening.format = (0, codec) →
      ∃ row half, SameClock after codec opening.rate row half) ∧
    (ret < 0 → after.clk = card.clk ∧
      dividers after.regs = dividers card.regs)

/-- The format is refused, or the rate is one of those that the clock of the
codec is for and the CPU gets that clock, or the codec refuses the rate.  At
8000 the CPU may only keep the clock that it has; at a rate that is unsupported
the clock has to be off and the dividers what they become. -/
def ClockSafe (fmt : BitVec 32) (card : Card) (opening : Opening) : Prop :=
  CodecAccepts fmt → opening.rate ≠ 0 →
    if opening.rate ∈ rates11289 then
      opening.clkRet = 0 ∨ card.clk = 11289600
    else if opening.rate ∈ rates12288 then
      opening.rate = 8000 → opening.clkRet ≠ 0 ∧ card.clk = 11289600
    else
      (opening.clkRet = 0 → card.clk = 0) ∧ dividers card.regs = 0x3ffff

theorem rk3288HwParams_spec {fmt : BitVec 32}
    (slave : fmt &&& daifmtMasterMask = daifmtCbsCfs) (card : Card)
    (rate : Nat) (clkRet : Int) :
    (¬CodecAccepts fmt ∧
      rk3288HwParams card fmt rate clkRet = some (einval, card)) ∨
    (CodecAccepts fmt ∧ rate = 0 ∧
      rk3288HwParams card fmt rate clkRet = none) ∨
    (CodecAccepts fmt ∧ rate ≠ 0 ∧ ∃ after,
      rk3288HwParams card fmt rate clkRet = some ((pllOut rate).2, after) ∧
      after.chip = card.chip ∧
      after.clk = (if clkRet = 0 then (pllOut rate).1 else card.clk) ∧
      after.regs = setClocks (rockchipI2sSetFmt card.regs fmt).2 fmt rate) := by
  have cpu := rockchipI2sSetFmt_ret card.regs fmt
  have clocks : ∀ regs, setClocks regs fmt rate =
      (rockchipI2sSetClkdiv (rockchipI2sSetClkdiv regs rockchipDivBclk
        (BitVec.ofInt 32 ((((pllOut rate).1 / 4 / rate : Nat) : Int) - 1))).2
        rockchipDivMclk 3).2 := fun regs => if_pos slave
  unfold rk3288HwParams
  rcases es8323SetDaiFmt_spec card.codec fmt with
    ⟨accepts, codec, set, -⟩ | ⟨refuses, refused⟩
  · right
    by_cases zero : rate = 0
    · exact .inl ⟨accepts, zero, by simp [set, cpu, zero]⟩
    · refine .inr ⟨accepts, zero, ?_⟩
      simp only [set, cpu, Int.lt_irrefl, if_false, zero, slave, if_true,
        Option.some.injEq, Prod.mk.injEq, true_and, exists_eq_left']
      by_cases works : clkRet = 0
      · simp [rockchipI2sSetSysclk, works, clocks]
      · simp [rockchipI2sSetSysclk, works, clocks]
  · left
    exact ⟨refuses, by simp [refused]⟩

/-- At an unsupported rate the dividers get the code of -1 and 3. -/
theorem dividers_unsupported {fmt : BitVec 32} {rate : Nat}
    (slave : fmt &&& daifmtMasterMask = daifmtCbsCfs)
    (unsupported : (pllOut rate).1 = 0) (regs : Controller) :
    dividers (setClocks regs fmt rate) = 0x3ffff := by
  have minusOne : BitVec.ofInt 32 (((0 / 4 / rate : Nat) : Int) - 1) = -1 := by
    simp
  have split : ∀ value : BitVec 32, value &&& 0xffffff =
      (value &&& 0xffff) ||| (value &&& 0xff0000) := by
    intro value
    rw [← BitVec.and_or_distrib_left]
    rfl
  have bclk : ∀ (regs : Controller) div,
      (rockchipI2sSetClkdiv regs rockchipDivBclk div).2 =
        regs.updateBits i2sCkr 0xffff ((div <<< 0) ||| (div <<< 8)) :=
    fun _ _ => rfl
  have mclk : ∀ (regs : Controller) div,
      (rockchipI2sSetClkdiv regs rockchipDivMclk div).2 =
        regs.updateBits i2sCkr 0xff0000 (div <<< 16) := fun _ _ => rfl
  rw [setClocks, if_pos slave, unsupported, minusOne]
  dsimp only
  rw [dividers, split]
  rw [mclk, RegisterFile.field_updateBits,
    RegisterFile.field_updateBits_disjoint (by decide), bclk,
    RegisterFile.field_updateBits]
  decide

theorem sameClock_of_params {card : Card} {codec : Codec} {rate : Nat}
    {row : CoeffDiv} {half : Bool} {format : PcmFormat}
    (initialized : card.chip.sysclk = 11289600) (clock : card.clk = 11289600)
    (chosen : chooseCoeff card.chip.sysclk rate = some (row, half))
    (fields : ParamFields card.codec codec row half format) :
    SameClock card codec rate row half := by
  obtain ⟨same, mclk⟩ := chooseCoeff_row chosen
  rw [initialized] at mclk
  refine ⟨clock.trans initialized.symm, same, ?_, fields.half, fields.adcRate,
    fields.dacRate⟩
  rw [clock, mclk]
  cases half <;> decide

/-- At a supported rate the ends agree exactly if the codec refuses the rate or
the CPU clock is the one that the codec was told about. -/
theorem sameClock_iff {card : Card} (initialized : card.chip.sysclk = 11289600)
    (rate : Nat) (format : PcmFormat) :
    (∀ codec, es8323PcmHwParams card.chip card.codec rate format = (0, codec) →
      ∃ row half, SameClock card codec rate row half) ↔
      ((chooseCoeff 11289600 rate).isSome = true → card.clk = 11289600) := by
  rcases es8323PcmHwParams_spec card.chip card.codec rate format with
    ⟨row, half, after, chosen, set, fields⟩ | ⟨refused, unchanged⟩
  · have known : (chooseCoeff 11289600 rate).isSome = true := by
      rw [← initialized, chosen]
      rfl
    constructor
    · intro agree _
      obtain ⟨_, _, same⟩ := agree after set
      exact same.sysclk.trans initialized
    · intro clock codec result
      rw [set] at result
      cases result
      exact ⟨row, half,
        sameClock_of_params initialized (clock known) chosen fields⟩
  · rw [initialized] at refused
    constructor
    · intro _ known
      rw [refused] at known
      cases known
    · intro _ codec result
      rw [unchanged] at result
      cases result

theorem rate_cases (rate : Nat) :
    (rate ∈ rates11289 ∧ pllOut rate = (11289600, 0) ∧
      (chooseCoeff 11289600 rate).isSome = true) ∨
    (rate ∉ rates11289 ∧ rate ∈ rates12288 ∧ pllOut rate = (12288000, 0) ∧
      ((chooseCoeff 11289600 rate).isSome = true ↔ rate = 8000)) ∨
    (rate ∉ rates11289 ∧ rate ∉ rates12288 ∧ pllOut rate = (0, -1)) := by
  by_cases first : rate ∈ rates11289
  · left
    refine ⟨first, ?_⟩
    simp only [rates11289, List.mem_cons, List.not_mem_nil, or_false] at first
    rcases first with rfl | rfl | rfl <;> decide
  · right
    by_cases second : rate ∈ rates12288
    · left
      refine ⟨first, second, ?_⟩
      simp only [rates12288, List.mem_cons, List.not_mem_nil, or_false] at second
      rcases second with rfl | rfl | rfl | rfl | rfl <;> decide
    · right
      exact ⟨first, second, by rw [pllOut, if_neg second, if_neg first]⟩

theorem clockAgrees_iff {fmt : BitVec 32}
    (slave : fmt &&& daifmtMasterMask = daifmtCbsCfs) {card : Card}
    (initialized : card.chip.sysclk = 11289600) (opening : Opening) :
    ClockAgrees fmt card opening ↔ ClockSafe fmt card opening := by
  rcases rk3288HwParams_spec slave card opening.rate opening.clkRet with
    ⟨refuses, refused⟩ | ⟨accepts, zero, crash⟩ |
      ⟨accepts, positive, after, set, chip, clk, regs⟩
  · constructor
    · intro _ accepts
      exact absurd accepts refuses
    · intro _ ret after result
      rw [refused] at result
      cases result
      refine ⟨?_, fun _ => ⟨rfl, rfl⟩⟩
      intro impossible
      exact absurd impossible (by decide)
  · constructor
    · intro _ _ positive
      exact absurd zero positive
    · intro _ ret after result
      rw [crash] at result
      cases result
  · rw [← chip] at initialized
    have own := sameClock_iff initialized opening.rate opening.format
    have agrees : ClockAgrees fmt card opening ↔
        ((pllOut opening.rate).2 = 0 → (chooseCoeff 11289600
            opening.rate).isSome = true → after.clk = 11289600) ∧
          ((pllOut opening.rate).2 < 0 → after.clk = card.clk ∧
            dividers after.regs = dividers card.regs) := by
      rw [← own]
      constructor
      · intro agrees
        exact agrees _ _ set
      · intro both ret result reached
        rw [set] at reached
        cases reached
        exact both
    rw [agrees]
    simp only [ClockSafe, accepts, positive, true_imp_iff, ne_eq,
      not_false_eq_true]
    rcases rate_cases opening.rate with
      ⟨first, pll, known⟩ | ⟨first, second, pll, known⟩ | ⟨first, second, pll⟩
    · rw [if_pos first, clk, pll, known]
      by_cases works : opening.clkRet = 0 <;> simp [works]
    · rw [if_neg first, if_pos second, clk, pll, known]
      by_cases works : opening.clkRet = 0 <;> simp [works]
    · have unsupported : (pllOut opening.rate).1 = 0 := by rw [pll]
      rw [if_neg first, if_neg second, clk, regs,
        dividers_unsupported slave unsupported, pll,
        @eq_comm _ 0x3ffff (dividers card.regs)]
      by_cases works : opening.clkRet = 0
      · simp [works, @eq_comm _ 0 card.clk]
      · simp [works]

theorem openStep_chip {fmt : BitVec 32}
    (slave : fmt &&& daifmtMasterMask = daifmtCbsCfs) {card next : Card}
    {opening : Opening} (taken : openStep fmt card opening = some next) :
    next.chip = card.chip := by
  rw [openStep] at taken
  rcases rk3288HwParams_spec slave card opening.rate opening.clkRet with
    ⟨-, refused⟩ | ⟨-, -, crash⟩ | ⟨-, -, after, set, chip, -⟩
  · have negative : einval < 0 := by decide
    simp only [refused, negative, if_true] at taken
    cases taken
    rfl
  · rw [crash] at taken
    cases taken
  · simp only [set] at taken
    split at taken
    · cases taken
      exact chip
    · cases taken
      exact chip

/-- The codec's clock is the one that the card's initialization sets. -/
def Card.Clocked (card : Card) : Prop :=
  card.chip.sysclk = 11289600

/-- Codec and CPU are on one clock along exactly those sequences of openings
that are all safe. -/
theorem clock_agrees_iff (fmt : BitVec 32)
    (slave : fmt &&& daifmtMasterMask = daifmtCbsCfs) (card : Card)
    (openings : List Opening) :
    Along (openStep fmt) (ClockAgrees fmt) (rk3288Es8323Init card).2 openings ↔
      Along (openStep fmt) (ClockSafe fmt) (rk3288Es8323Init card).2
        openings := by
  have initial : (rk3288Es8323Init card).2.Clocked := rfl
  refine along_congr initial ?_ ?_
  · intro card opening next clocked _ taken
    rw [Card.Clocked, openStep_chip slave taken]
    exact clocked
  · intro card opening clocked
    exact clockAgrees_iff slave clocked opening

/-- A card that supplies the codec's clock already. -/
def sampleCard : Card :=
  { chip := { sysclk := 0, sysclkConstraints := [] }
    codec := fun _ => 0
    regs := fun _ => 0
    clk := 11289600 }

theorem clock_agrees_44100 :
    Along (openStep (daifmtI2s ||| daifmtNbNf ||| daifmtCbsCfs))
      (ClockAgrees (daifmtI2s ||| daifmtNbNf ||| daifmtCbsCfs))
      (rk3288Es8323Init sampleCard).2 [⟨44100, .s16Le, 0⟩] := by
  apply (clock_agrees_iff _ (by decide) sampleCard _).mpr
  rw [along_cons]
  refine ⟨?_, fun _ _ => along_nil⟩
  intro _ _
  rw [if_pos (by decide)]
  exact .inl rfl

/-- At 8000 both ends succeed on different clocks. -/
theorem not_clock_agrees_8000 :
    ¬Along (openStep (daifmtI2s ||| daifmtNbNf ||| daifmtCbsCfs))
      (ClockAgrees (daifmtI2s ||| daifmtNbNf ||| daifmtCbsCfs))
      (rk3288Es8323Init sampleCard).2 [⟨8000, .s16Le, 0⟩] := by
  rw [along_cons]
  rintro ⟨agrees, -⟩
  obtain ⟨row, half, same⟩ := (agrees 0 _ rfl).1 rfl _ rfl
  exact absurd same.sysclk (by decide)

end KernelDrivers.Sound
