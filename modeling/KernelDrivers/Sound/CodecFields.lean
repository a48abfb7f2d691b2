import KernelDrivers.Library.Transition
import KernelDrivers.Sound.CodecParams

/-!
# The fields of the codec's interface registers

`es8323_set_dai_fmt` and `es8323_pcm_hw_params` update the same registers and
are called in any order.  Each is followed by what the last successful call of
either kind asked for.
-/

namespace KernelDrivers.Sound

open KernelDrivers.Library

structure ParamRequest where
  chip : Es8323Chip
  rate : Nat
  format : PcmFormat

inductive CodecCall where
  | setDaiFmt (fmt : BitVec 32)
  | hwParams (request : ParamRequest)

/-- The registers, and what the last successful call of each kind asked for. -/
structure CodecHistory where
  codec : Codec
  fmt : Option (BitVec 32)
  params : Option ParamRequest

def CodecHistory.start (codec : Codec) : CodecHistory :=
  { codec, fmt := none, params := none }

def codecStep (state : CodecHistory) : CodecCall → Option CodecHistory
  | .setDaiFmt fmt =>
      let set := es8323SetDaiFmt state.codec fmt
      some { state with
        codec := set.2
        fmt := if set.1 = 0 then some fmt else state.fmt }
  | .hwParams request =>
      let set := es8323PcmHwParams request.chip state.codec request.rate
        request.format
      some { state with
        codec := set.2
        params := if set.1 = 0 then some request else state.params }

structure FormatHolds (encoding : CodecFormat) (codec : Codec)
    (fmt : BitVec 32) : Prop where
  master : codec.bit es8323Iface 7 = isMaster fmt
  bitClock : codec.bit es8323Iface 5 = bitClockInverted fmt
  adcFrame : codec.bit es8323AdcIface 5 = frameInverted fmt
  dacFrame : codec.bit es8323DacIface 6 = frameInverted fmt
  adc : encoding.format (adcField codec) = requested fmt
  dac : encoding.format (dacField codec) = requested fmt

structure ParamsHold (codec : Codec) (request : ParamRequest) (row : CoeffDiv)
    (half : Bool) : Prop where
  chosen : chooseCoeff request.chip.sysclk request.rate = some (row, half)
  half : codec.bit es8323Iface 6 = half
  adcWord : (codec es8323AdcIface).extractLsb' 2 3 = wordCode request.format
  dacWord : (codec es8323DacIface).extractLsb' 3 3 = wordCode request.format
  adcRate : codec es8323AdcControl5 = row.code
  dacRate : codec es8323DacControl2 = row.code

/-- Every field is as the last call that it belongs to asked for. -/
structure CodecHistory.Holds (encoding : CodecFormat) (state : CodecHistory) :
    Prop where
  fmt : ∀ fmt, state.fmt = some fmt → FormatHolds encoding state.codec fmt
  params : ∀ request, state.params = some request →
    ∃ row half, ParamsHold state.codec request row half

/-- After the call, whether it succeeds or not, all fields are as asked for. -/
def FieldsKept (encoding : CodecFormat) (state : CodecHistory)
    (call : CodecCall) : Prop :=
  ∀ next, codecStep state call = some next → next.Holds encoding

/-- A format word is refused, or asks for I2S or the format that the codec has;
parameters are refused, or set while the bit clock is not to be inverted. -/
def FieldsSafe (encoding : CodecFormat) (state : CodecHistory) :
    CodecCall → Prop
  | .setDaiFmt fmt =>
      CodecAccepts fmt → requested fmt = some .i2s ∨
        (encoding.format (adcField state.codec) = requested fmt ∧
          encoding.format (dacField state.codec) = requested fmt)
  | .hwParams request =>
      (chooseCoeff request.chip.sysclk request.rate).isSome = true →
        ∀ fmt, state.fmt = some fmt → bitClockInverted fmt = false

theorem ParamsHold.formatFields {before after : Codec} {fmt : BitVec 32}
    {request : ParamRequest} {row : CoeffDiv} {half : Bool}
    (holds : ParamsHold before request row half)
    (fields : FormatFields before after fmt)
    (other : ∀ reg ∉ [es8323Iface, es8323AdcIface, es8323DacIface],
      after reg = before reg) : ParamsHold after request row half where
  chosen := holds.chosen
  half := fields.half.trans holds.half
  adcWord := fields.adcWord.trans holds.adcWord
  dacWord := fields.dacWord.trans holds.dacWord
  adcRate := (other _ (by decide)).trans holds.adcRate
  dacRate := (other _ (by decide)).trans holds.dacRate

theorem FormatFields.holds_iff {before after : Codec} {fmt : BitVec 32}
    (fields : FormatFields before after fmt) (encoding : CodecFormat) :
    FormatHolds encoding after fmt ↔ requested fmt = some .i2s ∨
      (encoding.format (adcField before) = requested fmt ∧
        encoding.format (dacField before) = requested fmt) := by
  have adc := fields.adc
  have dac := fields.dac
  by_cases normal : requested fmt = some .i2s
  · rw [if_pos normal] at adc dac
    constructor
    · intro _
      exact .inl normal
    · intro _
      refine ⟨fields.master, fields.bitClock, fields.adcFrame, fields.dacFrame,
        ?_, ?_⟩
      · rw [adc, normal, encoding.normal]
      · rw [dac, normal, encoding.normal]
  · rw [if_neg normal] at adc dac
    constructor
    · intro holds
      exact .inr ⟨adc ▸ holds.adc, dac ▸ holds.dac⟩
    · rintro (isI2s | ⟨adcSet, dacSet⟩)
      · exact absurd isI2s normal
      · exact ⟨fields.master, fields.bitClock, fields.adcFrame,
          fields.dacFrame, adc ▸ adcSet, dac ▸ dacSet⟩

/-- Parameters keep the fields of the format word unless it asked for an
inverted bit clock. -/
theorem ParamFields.format_iff {encoding : CodecFormat} {before after : Codec}
    {row : CoeffDiv} {half : Bool} {format : PcmFormat} {fmt : BitVec 32}
    (fields : ParamFields before after row half format)
    (holds : FormatHolds encoding before fmt) :
    FormatHolds encoding after fmt ↔ bitClockInverted fmt = false := by
  constructor
  · intro kept
    exact kept.bitClock.symm.trans fields.bitClock
  · intro normal
    refine ⟨fields.master.trans holds.master, ?_,
      fields.adcFrame.trans holds.adcFrame,
      fields.dacFrame.trans holds.dacFrame, ?_, ?_⟩
    · rw [fields.bitClock, normal]
    · rw [fields.adc, holds.adc]
    · rw [fields.dac, holds.dac]

theorem fieldsKept_setDaiFmt {encoding : CodecFormat} {state : CodecHistory}
    (holds : state.Holds encoding) (fmt : BitVec 32) :
    FieldsKept encoding state (.setDaiFmt fmt) ↔
      FieldsSafe encoding state (.setDaiFmt fmt) := by
  rcases es8323SetDaiFmt_spec state.codec fmt with
    ⟨accepts, after, set, fields, other⟩ | ⟨refuses, unchanged⟩
  · have programmed := formatFields_of_set fields
    have format := programmed.holds_iff encoding
    simp only [FieldsKept, FieldsSafe, codecStep, set, Option.some.injEq,
      forall_eq', if_true, accepts, true_imp_iff]
    rw [← format]
    constructor
    · intro kept
      exact kept.fmt fmt rfl
    · intro kept
      refine ⟨?_, ?_⟩
      · rintro _ ⟨⟩
        exact kept
      · intro request asked
        obtain ⟨row, half, before⟩ := holds.params request asked
        exact ⟨row, half, before.formatFields programmed other⟩
  · have failed : einval ≠ 0 := by decide
    simp only [FieldsKept, FieldsSafe, codecStep, unchanged, failed,
      Option.some.injEq, forall_eq', if_false, refuses, false_imp_iff,
      iff_true]
    exact holds

theorem fieldsKept_hwParams {encoding : CodecFormat} {state : CodecHistory}
    (holds : state.Holds encoding) (request : ParamRequest) :
    FieldsKept encoding state (.hwParams request) ↔
      FieldsSafe encoding state (.hwParams request) := by
  rcases es8323PcmHwParams_spec request.chip state.codec request.rate
      request.format with
    ⟨row, half, after, chosen, set, fields⟩ | ⟨refused, unchanged⟩
  · simp only [FieldsKept, FieldsSafe, codecStep, set, chosen,
      Option.some.injEq, forall_eq', if_true, Option.isSome_some,
      true_imp_iff]
    constructor
    · intro kept fmt last
      exact (fields.format_iff (holds.fmt fmt last)).mp (kept.fmt fmt last)
    · intro normal
      refine ⟨?_, ?_⟩
      · intro fmt last
        exact (fields.format_iff (holds.fmt fmt last)).mpr (normal fmt last)
      · rintro _ ⟨⟩
        exact ⟨row, half, chosen, fields.half, fields.adcWord, fields.dacWord,
          fields.adcRate, fields.dacRate⟩
  · have failed : einval ≠ 0 := by decide
    simp only [FieldsKept, FieldsSafe, codecStep, unchanged, failed, refused,
      Option.some.injEq, forall_eq', if_false, Option.isSome_none,
      Bool.false_eq_true, false_imp_iff, iff_true]
    exact holds

/-- The fields stay as they were asked for along exactly those sequences of
calls that are all safe. -/
theorem fields_kept_iff (encoding : CodecFormat) (codec : Codec)
    (calls : List CodecCall) :
    Along codecStep (FieldsKept encoding) (.start codec) calls ↔
      Along codecStep (FieldsSafe encoding) (.start codec) calls := by
  have initial : (CodecHistory.start codec).Holds encoding := by
    constructor
    · rintro _ ⟨⟩
    · rintro _ ⟨⟩
  refine along_congr initial ?_ ?_
  · intro state call next holds kept taken
    exact kept next taken
  · intro state call holds
    cases call with
    | setDaiFmt fmt => exact fieldsKept_setDaiFmt holds fmt
    | hwParams request => exact fieldsKept_hwParams holds request

/-- An inverted bit clock does not survive the parameters of the stream. -/
theorem not_fields_kept_inverted :
    ¬Along codecStep (FieldsKept sampleEncoding) (.start fun _ => 0)
      [.setDaiFmt (daifmtI2s ||| daifmtIbNf ||| daifmtCbsCfs),
       .hwParams ⟨⟨11289600, constraints112896⟩, 44100, .s16Le⟩] := by
  simp only [along_cons]
  rintro ⟨-, others⟩
  have params := (others _ rfl).1 _ rfl
  exact absurd (params.fmt _ rfl).bitClock (by decide)

end KernelDrivers.Sound
