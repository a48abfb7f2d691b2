import KernelDrivers.Library.RegisterFile

/-!
# The Rockchip I2S controller

The register updates of `rk_i2s.c`: starting and stopping the two streams and
the data format.  The CLR register clears itself when it likes, so its reads
are an arbitrary sequence.
-/

namespace KernelDrivers.Sound

open KernelDrivers.Library

abbrev i2sTxcr : Nat := 0x0000
abbrev i2sRxcr : Nat := 0x0004
abbrev i2sCkr : Nat := 0x0008
abbrev i2sDmacr : Nat := 0x0010
abbrev i2sXfer : Nat := 0x001c
abbrev i2sClr : Nat := 0x0020

abbrev i2sXferTxsMask : BitVec 32 := 1 <<< 0
abbrev i2sXferRxsMask : BitVec 32 := 1 <<< 1
abbrev i2sClrTxc : BitVec 32 := 1 <<< 0
abbrev i2sClrRxc : BitVec 32 := 1 <<< 1

/-- `-EINVAL`. -/
abbrev einval : Int := -22

inductive Stream where
  | playback
  | capture
  deriving DecidableEq

def Stream.other : Stream → Stream
  | .playback => .capture
  | .capture => .playback

/-- `I2S_DMACR_TDE_SHIFT` and `I2S_DMACR_RDE_SHIFT`. -/
def deShift : Stream → Nat
  | .playback => 8
  | .capture => 24

/-- `I2S_DMACR_TDE_MASK` and `I2S_DMACR_RDE_MASK`. -/
def deMask (stream : Stream) : BitVec 32 :=
  BitVec.twoPow 32 (deShift stream)

/-- A write on the bus, with the flags of the driver at that moment. -/
structure Write where
  reg : Nat
  value : BitVec 32
  start : Stream → Bool

/-- `start` is `tx_start` and `rx_start`.  `reads` counts the reads of CLR, and
`waits` has the polls of every wait for it. -/
structure I2s where
  regs : RegisterFile 32
  start : Stream → Bool
  reads : Nat
  writes : List Write
  waits : List Nat

/-- What CLR reads each time. -/
abbrev ClrReads := Nat → BitVec 32

def regmapRead (clr : ClrReads) (i2s : I2s) (reg : Nat) : BitVec 32 × I2s :=
  if reg = i2sClr then (clr i2s.reads, { i2s with reads := i2s.reads + 1 })
  else (i2s.regs reg, i2s)

def regmapWrite (i2s : I2s) (reg : Nat) (value : BitVec 32) : I2s :=
  { i2s with
    regs := i2s.regs.write reg value
    writes := i2s.writes ++ [{ reg, value, start := i2s.start }] }

def regmapUpdateBits (clr : ClrReads) (i2s : I2s) (reg : Nat)
    (mask value : BitVec 32) : I2s :=
  let read := regmapRead clr i2s reg
  regmapWrite read.2 reg ((read.1 &&& ~~~mask) ||| (value &&& mask))

/-- The loop `while (val)`: the polls that it makes, unless the fuel runs
out. -/
def waitClear (clr : ClrReads) : Nat → Int → Nat → BitVec 32 → I2s →
    Option (Nat × I2s)
  | 0, _, _, _, _ => none
  | fuel + 1, retry, polls, val, i2s =>
      if val = 0 then some (polls, i2s)
      else
        let read := regmapRead clr i2s i2sClr
        let retry := retry - 1
        if retry = 0 then some (polls + 1, read.2)
        else waitClear clr fuel retry (polls + 1) read.1 read.2

abbrev waitFuel : Nat := 16

/-- The common body of `rockchip_snd_txctrl` and `rockchip_snd_rxctrl`. -/
def sndCtrl (stream : Stream) (clr : ClrReads) (i2s : I2s) (on : Bool) :
    Option I2s :=
  if on then
    let i2s := regmapUpdateBits clr i2s i2sDmacr (deMask stream)
      (deMask stream)
    let i2s := regmapUpdateBits clr i2s i2sXfer
      (i2sXferTxsMask ||| i2sXferRxsMask) (i2sXferTxsMask ||| i2sXferRxsMask)
    some { i2s with start := Function.update i2s.start stream true }
  else
    let i2s := { i2s with start := Function.update i2s.start stream false }
    let i2s := regmapUpdateBits clr i2s i2sDmacr (deMask stream) 0
    if i2s.start stream.other then some i2s
    else
      let i2s := regmapUpdateBits clr i2s i2sXfer
        (i2sXferTxsMask ||| i2sXferRxsMask) 0
      let i2s := regmapUpdateBits clr i2s i2sClr (i2sClrTxc ||| i2sClrRxc)
        (i2sClrTxc ||| i2sClrRxc)
      let read := regmapRead clr i2s i2sClr
      match waitClear clr waitFuel 10 0 read.1 read.2 with
      | none => none
      | some (polls, i2s) => some { i2s with waits := i2s.waits ++ [polls] }

def sndTxctrl : ClrReads → I2s → Bool → Option I2s :=
  sndCtrl .playback

def sndRxctrl : ClrReads → I2s → Bool → Option I2s :=
  sndCtrl .capture

abbrev triggerStop : Int := 0
abbrev triggerStart : Int := 1
abbrev triggerPausePush : Int := 3
abbrev triggerPauseRelease : Int := 4
abbrev triggerSuspend : Int := 5
abbrev triggerResume : Int := 6

def isStart (cmd : Int) : Bool :=
  cmd = triggerStart ∨ cmd = triggerResume ∨ cmd = triggerPauseRelease

def isStop (cmd : Int) : Bool :=
  cmd = triggerSuspend ∨ cmd = triggerStop ∨ cmd = triggerPausePush

/-- `rockchip_i2s_trigger`. -/
def trigger (clr : ClrReads) (i2s : I2s) (stream : Stream) (cmd : Int) :
    Option (Int × I2s) :=
  if isStart cmd then
    (if stream = .capture then sndRxctrl clr i2s true
      else sndTxctrl clr i2s true).map fun i2s => (0, i2s)
  else if isStop cmd then
    (if stream = .capture then sndRxctrl clr i2s false
      else sndTxctrl clr i2s false).map fun i2s => (0, i2s)
  else some (einval, i2s)

/-- What `rockchip_i2s_probe` does to the registers when it succeeds. -/
def probe (clr : ClrReads) (regs : RegisterFile 32) : Option I2s :=
  let i2s : I2s := { regs, start := fun _ => false, reads := 0, writes := [],
                     waits := [] }
  match sndTxctrl clr i2s false with
  | none => none
  | some i2s => sndRxctrl clr i2s false

end KernelDrivers.Sound
