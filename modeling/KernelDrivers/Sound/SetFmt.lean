import KernelDrivers.Sound.Agreement

/-!
# The format call of the controller

`rockchip_i2s_set_fmt` writes three registers between three switches.  A word
that a later switch refuses has passed the earlier ones.
-/

namespace KernelDrivers.Sound

open KernelDrivers.Library

/-- Both parts of the word are ones that the controller can be set to. -/
structure FmtSupported (fmt : BitVec 32) : Prop where
  master : fmt &&& daifmtMasterMask ∈ [daifmtCbmCfm, daifmtCbsCfs]
  format : ∃ format, requested fmt = some format ∧ format.hasIbm = true

/-- MSS of CKR, and IBM of TXCR and RXCR. -/
def isFmtBit (reg index : Nat) : Bool :=
  (reg = i2sCkr ∧ index = 27) ∨
    ((reg = i2sTxcr ∨ reg = i2sRxcr) ∧ (index = 9 ∨ index = 10))

/-- The registers hold what the word asks for, and otherwise what they held. -/
structure FmtHolds (before after : Controller) (fmt : BitVec 32) : Prop where
  mode : after.bit i2sCkr 27 = isMaster fmt
  tx : ibmFormat (ibmField after i2sTxcr) = requested fmt
  rx : ibmFormat (ibmField after i2sRxcr) = requested fmt
  agree : ibmField after i2sTxcr = ibmField after i2sRxcr
  kept : ∀ reg index, isFmtBit reg index = false →
    after.bit reg index = before.bit reg index

structure FmtUntouched (before after : Controller) : Prop where
  ckr : after i2sCkr = before i2sCkr
  txcr : after i2sTxcr = before i2sTxcr
  rxcr : after i2sRxcr = before i2sRxcr

/-- The call sets all that a supported word asks for, and refuses any other
word before it writes. -/
structure SetFmtAtomic (regs : Controller) (fmt : BitVec 32) : Prop where
  done : FmtSupported fmt → (rockchipI2sSetFmt regs fmt).1 = 0 ∧
    FmtHolds regs (rockchipI2sSetFmt regs fmt).2 fmt
  refused : ¬FmtSupported fmt → (rockchipI2sSetFmt regs fmt).1 < 0 ∧
    FmtUntouched regs (rockchipI2sSetFmt regs fmt).2

theorem mssMask_isFmtBit : ∀ index < 32,
    i2sCkrMssMask.getLsbD index = true → isFmtBit i2sCkr index = true := by
  decide

theorem mssValue_none {fmt : BitVec 32}
    (unknown : fmt &&& daifmtMasterMask ∉ [daifmtCbmCfm, daifmtCbsCfs]) :
    mssValue fmt = none := by
  simp only [List.mem_cons, List.not_mem_nil, or_false, not_or] at unknown
  rw [mssValue, if_neg unknown.2, if_neg unknown.1]

theorem ibmValue_none {fmt : BitVec 32}
    (unknown : ¬∃ format, requested fmt = some format ∧
      format.hasIbm = true) :
    ibmValue fmt = none := by
  cases asked : requested fmt with
  | none =>
      rw [requested] at asked
      rw [ibmValue]
      grind
  | some format =>
      rcases ibmValue_spec asked with ⟨known, -⟩ | ⟨-, none⟩
      · exact absurd ⟨format, asked, known⟩ unknown
      · exact none

/-- Where the mode is known the call sets it, and nothing else in CKR. -/
theorem rockchipI2sSetFmt_ckr (regs : Controller) {fmt : BitVec 32}
    (master : fmt &&& daifmtMasterMask ∈ [daifmtCbmCfm, daifmtCbsCfs])
    (index : Nat) :
    (rockchipI2sSetFmt regs fmt).2.bit i2sCkr index =
      if index = 27 then isMaster fmt else regs.bit i2sCkr index := by
  obtain ⟨mss, mssSet, bit⟩ := mssValue_spec master
  have mode : (regs.updateBits i2sCkr i2sCkrMssMask mss).bit i2sCkr index =
      if index = 27 then isMaster fmt else regs.bit i2sCkr index := by
    by_cases same : index = 27
    · rw [if_pos same, same, RegisterFile.bit_updateBits,
        if_pos ⟨rfl, by decide⟩, bit, isMaster]
    · rw [if_neg same]
      apply RegisterFile.bit_updateBits_outside isFmtBit mssMask_isFmtBit
      have apart : i2sCkr ≠ i2sTxcr ∧ i2sCkr ≠ i2sRxcr := by
        decide
      simp [isFmtBit, same, apart.1, apart.2]
  rw [← mode, rockchipI2sSetFmt, mssSet]
  dsimp only
  split
  · rfl
  · apply RegisterFile.bit_congr
    have txcr : i2sCkr ≠ i2sTxcr := by decide
    have rxcr : i2sCkr ≠ i2sRxcr := by decide
    dsimp only
    rw [RegisterFile.updateBits_other rxcr, RegisterFile.updateBits_other txcr]

theorem rockchipI2sSetFmt_outside (regs : Controller) (fmt : BitVec 32)
    {reg index : Nat} (outside : isFmtBit reg index = false) :
    (rockchipI2sSetFmt regs fmt).2.bit reg index = regs.bit reg index := by
  have tx : ∀ index < 32, i2sIbmMask.getLsbD index = true →
      isFmtBit i2sTxcr index = true := by
    decide
  have rx : ∀ index < 32, i2sIbmMask.getLsbD index = true →
      isFmtBit i2sRxcr index = true := by
    decide
  unfold rockchipI2sSetFmt
  split
  · rfl
  · dsimp only
    split
    · exact RegisterFile.bit_updateBits_outside _ mssMask_isFmtBit outside
    · dsimp only
      rw [RegisterFile.bit_updateBits_outside _ rx outside,
        RegisterFile.bit_updateBits_outside _ tx outside,
        RegisterFile.bit_updateBits_outside _ mssMask_isFmtBit outside]

theorem rockchipI2sSetFmt_supported (regs : Controller) {fmt : BitVec 32}
    (supported : FmtSupported fmt) :
    (rockchipI2sSetFmt regs fmt).1 = 0 ∧
      FmtHolds regs (rockchipI2sSetFmt regs fmt).2 fmt := by
  obtain ⟨format, asked, known⟩ := supported.format
  obtain ⟨set, eq, mode, fields⟩ :=
    rockchipI2sSetFmt_spec regs asked supported.master
  obtain ⟨mss, mssSet, -⟩ := mssValue_spec supported.master
  rcases ibmValue_spec asked with ⟨-, ibm, ibmSet, -⟩ | ⟨unknown, -⟩
  · have written : rockchipI2sSetFmt regs fmt =
        (0, ((regs.updateBits i2sCkr i2sCkrMssMask mss).updateBits i2sTxcr
          i2sIbmMask ibm).updateBits i2sRxcr i2sIbmMask ibm) := by
      rw [rockchipI2sSetFmt, mssSet]
      dsimp only
      rw [ibmSet]
    have result := written.symm.trans eq
    obtain ⟨tx, rx⟩ := fields known
    rw [eq]
    refine ⟨rfl, mode, ?_, ?_, ?_, ?_⟩
    · rw [tx, asked]
    · rw [rx, asked]
    · rw [← (Prod.mk.inj result).2, ibmField_other _ (by decide),
        ibmField_updateBits, ibmField_updateBits]
    · intro reg index other
      have outside := rockchipI2sSetFmt_outside regs fmt other
      rw [eq] at outside
      exact outside
  · exact absurd (known.symm.trans unknown) (by decide)

/-- The call is all or nothing exactly for the words that it supports: any
other word ends at the shared label, which returns 0. -/
theorem setFmtAtomic_iff (regs : Controller) (fmt : BitVec 32) :
    SetFmtAtomic regs fmt ↔ FmtSupported fmt := by
  constructor
  · intro atomic
    by_contra unsupported
    have failed := (atomic.refused unsupported).1
    rw [rockchipI2sSetFmt_ret] at failed
    exact absurd failed (Int.lt_irrefl 0)
  · intro supported
    refine ⟨fun _ => rockchipI2sSetFmt_supported regs supported, ?_⟩
    intro unsupported
    exact absurd supported unsupported

/-- DSP mode A with the codec as master: CKR changes, and 0 is returned. -/
theorem not_setFmtAtomic_dspA :
    ¬SetFmtAtomic (fun _ => 0) (daifmtDspA ||| daifmtNbNf ||| daifmtCbmCfm) ∧
      ¬FmtUntouched (fun _ => 0) (rockchipI2sSetFmt (fun _ => 0)
        (daifmtDspA ||| daifmtNbNf ||| daifmtCbmCfm)).2 := by
  have unsupported :
      ¬FmtSupported (daifmtDspA ||| daifmtNbNf ||| daifmtCbmCfm) := by
    intro supported
    obtain ⟨format, asked, known⟩ := supported.format
    have dspA : requested (daifmtDspA ||| daifmtNbNf ||| daifmtCbmCfm) =
        some .dspA := by
      decide
    rw [dspA] at asked
    cases asked
    cases known
  constructor
  · intro atomic
    exact absurd (atomic.refused unsupported).1 (by decide)
  · intro untouched
    exact absurd untouched.ckr (by decide)

end KernelDrivers.Sound
