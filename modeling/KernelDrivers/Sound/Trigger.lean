import KernelDrivers.Library.Transition
import KernelDrivers.Sound.I2s

/-!
# Starting and stopping the I2S streams

Along every sequence of triggers the enable bits of the controller follow the
last effective command of each stream.
-/

namespace KernelDrivers.Sound

open KernelDrivers.Library

/-- Nothing but the number of CLR reads differs. -/
structure SameButReads (before after : I2s) : Prop where
  regs : after.regs = before.regs
  start : after.start = before.start
  writes : after.writes = before.writes
  waits : after.waits = before.waits

theorem SameButReads.trans {first second third : I2s}
    (left : SameButReads first second) (right : SameButReads second third) :
    SameButReads first third :=
  ⟨right.regs.trans left.regs, right.start.trans left.start,
    right.writes.trans left.writes, right.waits.trans left.waits⟩

theorem regmapRead_same (clr : ClrReads) (i2s : I2s) (reg : Nat) :
    SameButReads i2s (regmapRead clr i2s reg).2 := by
  unfold regmapRead
  split <;> exact ⟨rfl, rfl, rfl, rfl⟩

theorem regmapRead_value (clr : ClrReads) (i2s : I2s) {reg : Nat}
    (stored : reg ≠ i2sClr) : (regmapRead clr i2s reg).1 = i2s.regs reg := by
  rw [regmapRead, if_neg stored]

theorem regmapUpdateBits_start (clr : ClrReads) (i2s : I2s) (reg : Nat)
    (mask value : BitVec 32) :
    (regmapUpdateBits clr i2s reg mask value).start = i2s.start :=
  (regmapRead_same clr i2s reg).start

theorem regmapUpdateBits_waits (clr : ClrReads) (i2s : I2s) (reg : Nat)
    (mask value : BitVec 32) :
    (regmapUpdateBits clr i2s reg mask value).waits = i2s.waits :=
  (regmapRead_same clr i2s reg).waits

theorem regmapUpdateBits_writes (clr : ClrReads) (i2s : I2s) (reg : Nat)
    (mask value : BitVec 32) {write : Write}
    (member : write ∈ (regmapUpdateBits clr i2s reg mask value).writes) :
    write ∈ i2s.writes ∨ (write.reg = reg ∧ write.start = i2s.start) := by
  have same := regmapRead_same clr i2s reg
  simp only [regmapUpdateBits, regmapWrite, List.mem_append,
    List.mem_singleton, same.writes, same.start] at member
  rcases member with old | rfl
  · exact .inl old
  · exact .inr ⟨rfl, rfl⟩

theorem regmapUpdateBits_bit (clr : ClrReads) (i2s : I2s) (reg : Nat)
    (mask value : BitVec 32) {other : Nat} (stored : other ≠ i2sClr)
    (index : Nat) :
    (regmapUpdateBits clr i2s reg mask value).regs.bit other index =
      if other = reg ∧ mask.getLsbD index = true then value.getLsbD index
      else i2s.regs.bit other index := by
  have same := (regmapRead_same clr i2s reg).regs
  by_cases own : other = reg
  · have read := regmapRead_value clr i2s (own ▸ stored)
    have updated : (regmapUpdateBits clr i2s reg mask value).regs =
        i2s.regs.updateBits reg mask value := by
      simp only [regmapUpdateBits, regmapWrite, same, read,
        RegisterFile.updateBits, RegisterFile.setBits]
    rw [updated, RegisterFile.bit_updateBits]
  · have kept : (regmapUpdateBits clr i2s reg mask value).regs other =
        i2s.regs other := by
      simp only [regmapUpdateBits, regmapWrite, same]
      exact RegisterFile.write_other own
    rw [if_neg (fun both => own both.1), RegisterFile.bit, kept]
    rfl

theorem waitClear_ends (clr : ClrReads) {fuel : Nat} {retry : Int}
    (positive : 0 < retry) (enough : retry < fuel) (polls : Nat)
    (val : BitVec 32) (i2s : I2s) :
    ∃ total after, waitClear clr fuel retry polls val i2s =
        some (total, after) ∧
      (total : Int) ≤ polls + retry ∧ SameButReads i2s after := by
  induction fuel generalizing retry polls val i2s with
  | zero => omega
  | succ fuel induction =>
      rw [waitClear]
      have same := regmapRead_same clr i2s i2sClr
      by_cases done : val = 0
      · exact ⟨polls, i2s, if_pos done, by omega, rfl, rfl, rfl, rfl⟩
      · rw [if_neg done]
        by_cases last : retry - 1 = 0
        · exact ⟨polls + 1, _, if_pos last, by omega, same⟩
        · obtain ⟨total, after, ends, bound, rest⟩ :=
            induction (by omega : 0 < retry - 1) (by omega) (polls + 1)
              (regmapRead clr i2s i2sClr).1 (regmapRead clr i2s i2sClr).2
          simp only [if_neg last]
          exact ⟨total, after, ends, by omega, same.trans rest⟩

/-- What `sndCtrl` does. -/
structure Effect (stream : Stream) (on : Bool) (i2s next : I2s) : Prop where
  start : next.start = Function.update i2s.start stream on
  bit : ∀ reg index, reg ≠ i2sClr → next.regs.bit reg index =
    if reg = i2sDmacr ∧ index = deShift stream then on
    else if reg = i2sXfer ∧ index < 2 ∧
      (on = true ∨ i2s.start stream.other = false) then on
    else i2s.regs.bit reg index
  writes : ∀ write ∈ next.writes, write ∈ i2s.writes ∨
    (write.reg = i2sClr → ∀ stream, write.start stream = false)
  waits : ∀ polls ∈ next.waits, polls ∈ i2s.waits ∨ polls ≤ 10

private theorem deMask_bit (stream : Stream) (index : Nat) :
    (deMask stream).getLsbD index = decide (index = deShift stream) := by
  have inside : deShift stream < 32 := by
    cases stream <;> decide
  rw [deMask, BitVec.getLsbD_twoPow]
  simp [inside, eq_comm]

private theorem xferMask_bit (index : Nat) :
    (i2sXferTxsMask ||| i2sXferRxsMask).getLsbD index =
      decide (index < 2) := by
  have mask : i2sXferTxsMask ||| i2sXferRxsMask =
      BitVec.twoPow 32 0 ||| BitVec.twoPow 32 1 := by
    decide
  rw [mask, BitVec.getLsbD_or, BitVec.getLsbD_twoPow, BitVec.getLsbD_twoPow,
    Bool.eq_iff_iff]
  simp
  omega

private theorem updateDma_bit (clr : ClrReads) (i2s : I2s) (stream : Stream)
    (on : Bool) {reg : Nat} (stored : reg ≠ i2sClr) (index : Nat) :
    (regmapUpdateBits clr i2s i2sDmacr (deMask stream)
        (if on then deMask stream else 0)).regs.bit reg index =
      if reg = i2sDmacr ∧ index = deShift stream then on
      else i2s.regs.bit reg index := by
  rw [regmapUpdateBits_bit clr _ _ _ _ stored, deMask_bit]
  simp only [decide_eq_true_eq]
  by_cases own : reg = i2sDmacr ∧ index = deShift stream
  · rw [if_pos own, if_pos own]
    cases on
    · exact BitVec.getLsbD_zero
    · simp [deMask_bit, own.2]
  · rw [if_neg own, if_neg own]

private theorem updateXfer_bit (clr : ClrReads) (i2s : I2s) (on : Bool)
    {reg : Nat} (stored : reg ≠ i2sClr) (index : Nat) :
    (regmapUpdateBits clr i2s i2sXfer (i2sXferTxsMask ||| i2sXferRxsMask)
        (if on then i2sXferTxsMask ||| i2sXferRxsMask else 0)).regs.bit reg
          index =
      if reg = i2sXfer ∧ index < 2 then on else i2s.regs.bit reg index := by
  rw [regmapUpdateBits_bit clr _ _ _ _ stored, xferMask_bit]
  simp only [decide_eq_true_eq]
  by_cases own : reg = i2sXfer ∧ index < 2
  · rw [if_pos own, if_pos own]
    cases on
    · exact BitVec.getLsbD_zero
    · rw [if_pos rfl, xferMask_bit]
      exact decide_eq_true own.2
  · rw [if_neg own, if_neg own]

private theorem updateBoth_bit (clr : ClrReads) (i2s : I2s) (stream : Stream)
    (on : Bool) {reg : Nat} (stored : reg ≠ i2sClr) (index : Nat) :
    (regmapUpdateBits clr
        (regmapUpdateBits clr i2s i2sDmacr (deMask stream)
          (if on then deMask stream else 0))
        i2sXfer (i2sXferTxsMask ||| i2sXferRxsMask)
        (if on then i2sXferTxsMask ||| i2sXferRxsMask else 0)).regs.bit reg
          index =
      if reg = i2sDmacr ∧ index = deShift stream then on
      else if reg = i2sXfer ∧ index < 2 then on
      else i2s.regs.bit reg index := by
  have apart : i2sDmacr ≠ i2sXfer := by decide
  rw [updateXfer_bit clr _ on stored, updateDma_bit clr i2s stream on stored]
  by_cases own : reg = i2sXfer ∧ index < 2
  · have other : ¬(reg = i2sDmacr ∧ index = deShift stream) := fun both =>
      apart (both.1.symm.trans own.1)
    rw [if_pos own, if_neg other, if_pos own]
  · rw [if_neg own, if_neg own]

private theorem stored_write {write : Write} {reg : Nat}
    (same : write.reg = reg) (stored : reg ≠ i2sClr) :
    write.reg = i2sClr → ∀ stream, write.start stream = false :=
  fun clear => absurd (same.symm.trans clear) stored

theorem sndCtrl_start (stream : Stream) (clr : ClrReads) (i2s : I2s) :
    ∃ next, sndCtrl stream clr i2s true = some next ∧
      Effect stream true i2s next := by
  refine ⟨_, rfl, ?_, ?_, ?_, ?_⟩
  · simp only [regmapUpdateBits_start]
  · intro reg index stored
    have both := updateBoth_bit clr i2s stream true stored index
    simpa using both
  · intro write member
    rcases regmapUpdateBits_writes _ _ _ _ _ member with member | ⟨reg, -⟩
    · rcases regmapUpdateBits_writes _ _ _ _ _ member with old | ⟨reg, -⟩
      · exact .inl old
      · exact .inr (stored_write reg (by decide))
    · exact .inr (stored_write reg (by decide))
  · intro polls member
    simp only [regmapUpdateBits_waits] at member
    exact .inl member

private theorem sndCtrl_stop_running {stream : Stream} (clr : ClrReads)
    {i2s : I2s} (running : i2s.start stream.other = true) :
    ∃ next, sndCtrl stream clr i2s false = some next ∧
      Effect stream false i2s next := by
  have different : stream.other ≠ stream := by
    cases stream <;> decide
  have flag : Function.update i2s.start stream false stream.other = true := by
    rw [Function.update_of_ne different]
    exact running
  refine ⟨regmapUpdateBits clr
    { i2s with start := Function.update i2s.start stream false } i2sDmacr
      (deMask stream) 0, ?_, ?_, ?_, ?_, ?_⟩
  · simp only [sndCtrl, regmapUpdateBits_start, flag, if_true]
    rfl
  · simp only [regmapUpdateBits_start]
  · intro reg index stored
    have first := updateDma_bit clr
      { i2s with start := Function.update i2s.start stream false } stream false
      stored index
    simpa [running] using first
  · intro write member
    rcases regmapUpdateBits_writes _ _ _ _ _ member with old | ⟨reg, -⟩
    · exact .inl old
    · exact .inr (stored_write reg (by decide))
  · intro polls member
    simp only [regmapUpdateBits_waits] at member
    exact .inl member

/-- Stopping the last stream: only here is CLR written. -/
private theorem sndCtrl_stop_last {stream : Stream} (clr : ClrReads)
    {i2s : I2s} (stopped : i2s.start stream.other = false) :
    ∃ next, sndCtrl stream clr i2s false = some next ∧
      Effect stream false i2s next := by
  have different : stream.other ≠ stream := by
    cases stream <;> decide
  have both : ∀ other, Function.update i2s.start stream false other =
      false := by
    intro other
    by_cases own : other = stream
    · rw [own, Function.update_self]
    · have same : other = stream.other := by
        cases stream <;> cases other <;> first | rfl | exact absurd rfl own
      rw [Function.update_of_ne own, same]
      exact stopped
  obtain ⟨first, isFirst⟩ : ∃ first : I2s, first =
      { i2s with start := Function.update i2s.start stream false } := ⟨_, rfl⟩
  obtain ⟨third, isThird⟩ : ∃ third, third = regmapUpdateBits clr
      (regmapUpdateBits clr first i2sDmacr (deMask stream) 0) i2sXfer
      (i2sXferTxsMask ||| i2sXferRxsMask) 0 := ⟨_, rfl⟩
  obtain ⟨fourth, isFourth⟩ : ∃ fourth, fourth = regmapUpdateBits clr third
      i2sClr (i2sClrTxc ||| i2sClrRxc) (i2sClrTxc ||| i2sClrRxc) := ⟨_, rfl⟩
  have looked := regmapRead_same clr fourth i2sClr
  obtain ⟨polls, after, ends, bound, waited⟩ :=
    waitClear_ends clr (by decide : (0 : Int) < 10)
      (by decide : (10 : Int) < (waitFuel : Nat)) 0
      (regmapRead clr fourth i2sClr).1 (regmapRead clr fourth i2sClr).2
  have same := looked.trans waited
  have start : first.start = Function.update i2s.start stream false := by
    rw [isFirst]
  have flags : third.start = first.start := by
    rw [isThird, regmapUpdateBits_start, regmapUpdateBits_start]
  have quiet : ¬(regmapUpdateBits clr first i2sDmacr (deMask stream) 0).start
      stream.other = true := by
    rw [regmapUpdateBits_start, start, both]
    decide
  refine ⟨{ after with waits := after.waits ++ [polls] }, ?_, ?_, ?_, ?_, ?_⟩
  · rw [sndCtrl, if_neg (by decide), ← isFirst]
    simp only
    rw [if_neg quiet, ← isThird, ← isFourth, ends]
  · rw [← start, ← flags]
    exact same.start.trans (by rw [isFourth, regmapUpdateBits_start])
  · intro reg index stored
    have updates := updateBoth_bit clr first stream false stored index
    have kept := regmapUpdateBits_bit clr third i2sClr (i2sClrTxc ||| i2sClrRxc)
      (i2sClrTxc ||| i2sClrRxc) stored index
    have regs : first.regs = i2s.regs := by
      rw [isFirst]
    simp only [Bool.false_eq_true, if_false, ← isThird, regs] at updates
    rw [if_neg (fun own => stored own.1), updates, ← isFourth] at kept
    rw [same.regs, kept]
    simp [stopped]
  · intro write member
    rw [same.writes, isFourth] at member
    rcases regmapUpdateBits_writes _ _ _ _ _ member with member | ⟨-, flag⟩
    · rw [isThird] at member
      rcases regmapUpdateBits_writes _ _ _ _ _ member with member | ⟨reg, -⟩
      · rcases regmapUpdateBits_writes _ _ _ _ _ member with old | ⟨reg, -⟩
        · rw [isFirst] at old
          exact .inl old
        · exact .inr (stored_write reg (by decide))
      · exact .inr (stored_write reg (by decide))
    · refine .inr fun _ other => ?_
      rw [flag, flags, start]
      exact both other
  · intro count member
    have old : after.waits = i2s.waits := by
      rw [same.waits, isFourth, regmapUpdateBits_waits, isThird,
        regmapUpdateBits_waits, regmapUpdateBits_waits, isFirst]
    rw [old] at member
    rcases List.mem_append.mp member with earlier | last
    · exact .inl earlier
    · rw [List.mem_singleton] at last
      subst last
      exact .inr (by omega)

theorem sndCtrl_effect (stream : Stream) (clr : ClrReads) (i2s : I2s)
    (on : Bool) :
    ∃ next, sndCtrl stream clr i2s on = some next ∧
      Effect stream on i2s next := by
  cases on with
  | true => exact sndCtrl_start stream clr i2s
  | false =>
      cases running : i2s.start stream.other with
      | true => exact sndCtrl_stop_running clr running
      | false => exact sndCtrl_stop_last clr running

/-- What a command makes of a stream, if it is for that stream and known. -/
def effective (stream : Stream) (command : Stream × Int) : Option Bool :=
  if command.1 = stream then
    if isStart command.2 then some true
    else if isStop command.2 then some false
    else none
  else none

/-- The last effective command for a stream was a start. -/
def wanted (stream : Stream) (commands : List (Stream × Int)) : Bool :=
  commands.foldl (fun on command => (effective stream command).getD on) false

def step (clr : ClrReads) (i2s : I2s) (command : Stream × Int) : Option I2s :=
  (trigger clr i2s command.1 command.2).map Prod.snd

/-- The flags and the enable bits follow the commands, the other bits are those
from before the probe, CLR was written only while both streams were stopped,
and no wait polled it more than ten times. -/
structure Follows (regs : RegisterFile 32) (commands : List (Stream × Int))
    (i2s : I2s) : Prop where
  start : ∀ stream, i2s.start stream = wanted stream commands
  dma : ∀ stream, i2s.regs.bit i2sDmacr (deShift stream) = i2s.start stream
  xfer : ∀ index < 2, i2s.regs.bit i2sXfer index =
    (i2s.start .playback || i2s.start .capture)
  otherDma : ∀ index, (∀ stream, index ≠ deShift stream) →
    i2s.regs.bit i2sDmacr index = regs.bit i2sDmacr index
  otherXfer : ∀ index, 2 ≤ index →
    i2s.regs.bit i2sXfer index = regs.bit i2sXfer index
  clear : ∀ write ∈ i2s.writes, write.reg = i2sClr →
    ∀ stream, write.start stream = false
  waits : ∀ polls ∈ i2s.waits, polls ≤ 10

theorem deShift_injective {first second : Stream}
    (same : deShift first = deShift second) : first = second := by
  cases first <;> cases second <;> first | rfl | cases same

section Effect

variable {stream : Stream} {on : Bool} {i2s next : I2s}

theorem Effect.dma_own (effect : Effect stream on i2s next) :
    next.regs.bit i2sDmacr (deShift stream) = on := by
  rw [effect.bit _ _ (by decide), if_pos ⟨rfl, rfl⟩]

theorem Effect.dma_other (effect : Effect stream on i2s next) {index : Nat}
    (other : index ≠ deShift stream) :
    next.regs.bit i2sDmacr index = i2s.regs.bit i2sDmacr index := by
  have apart : i2sDmacr ≠ i2sXfer := by decide
  rw [effect.bit _ _ (by decide), if_neg (fun own => other own.2),
    if_neg (fun own => apart own.1)]

theorem Effect.xfer_other (effect : Effect stream on i2s next) {index : Nat}
    (other : 2 ≤ index) :
    next.regs.bit i2sXfer index = i2s.regs.bit i2sXfer index := by
  have apart : i2sXfer ≠ i2sDmacr := by decide
  rw [effect.bit _ _ (by decide), if_neg (fun own => apart own.1),
    if_neg (fun own => by omega)]

theorem Effect.xfer (effect : Effect stream on i2s next) {index : Nat}
    (inside : index < 2) :
    next.regs.bit i2sXfer index =
      if on = true ∨ i2s.start stream.other = false then on
      else i2s.regs.bit i2sXfer index := by
  have apart : i2sXfer ≠ i2sDmacr := by decide
  rw [effect.bit _ _ (by decide), if_neg (fun own => apart own.1)]
  simp [inside]

end Effect

private theorem either_started (start : Stream → Bool) (stream : Stream)
    (on : Bool) :
    (Function.update start stream on .playback ||
        Function.update start stream on .capture) =
      (on || start stream.other) := by
  cases stream with
  | playback => simp [Stream.other]
  | capture => simp [Stream.other, Bool.or_comm]

private theorem started_either {start : Stream → Bool} {stream : Stream}
    (started : start stream = true) :
    (start .playback || start .capture) = true := by
  cases stream <;> simp [started]

private theorem Follows.effect {regs : RegisterFile 32}
    {commands : List (Stream × Int)} {i2s next : I2s}
    (follows : Follows regs commands i2s) {command : Stream × Int} {on : Bool}
    (means : effective command.1 command = some on)
    (effect : Effect command.1 on i2s next) :
    Follows regs (commands ++ [command]) next := by
  constructor
  · intro stream
    rw [effect.start, wanted, List.foldl_append]
    by_cases own : stream = command.1
    · subst own
      simp [means]
    · have foreign : effective stream command = none := by
        rw [effective, if_neg (fun same => own same.symm)]
      rw [Function.update_of_ne own, follows.start]
      simp [foreign, wanted]
  · intro stream
    rw [effect.start]
    by_cases own : stream = command.1
    · rw [own, effect.dma_own, Function.update_self]
    · rw [effect.dma_other (fun same => own (deShift_injective same)),
        follows.dma, Function.update_of_ne own]
  · intro index inside
    rw [effect.xfer inside, effect.start, either_started,
      follows.xfer index inside]
    cases on with
    | true => simp
    | false =>
        cases running : i2s.start command.1.other with
        | false => simp
        | true =>
            have either := started_either running
            simpa using either
  · intro index other
    rw [effect.dma_other (other command.1), follows.otherDma index other]
  · intro index other
    rw [effect.xfer_other other, follows.otherXfer index other]
  · intro write member
    rcases effect.writes write member with old | stopped
    · exact follows.clear write old
    · exact stopped
  · intro polls member
    rcases effect.waits polls member with old | bound
    · exact follows.waits polls old
    · exact bound

private theorem Follows.ignored {regs : RegisterFile 32}
    {commands : List (Stream × Int)} {i2s : I2s}
    (follows : Follows regs commands i2s) {command : Stream × Int}
    (none : ∀ stream, effective stream command = none) :
    Follows regs (commands ++ [command]) i2s := by
  refine { follows with start := ?_ }
  intro stream
  rw [follows.start, wanted, wanted, List.foldl_append]
  simp [none]

theorem trigger_cases (clr : ClrReads) (i2s : I2s) (command : Stream × Int) :
    (∃ on next, effective command.1 command = some on ∧
        trigger clr i2s command.1 command.2 = some (0, next) ∧
        Effect command.1 on i2s next) ∨
      ((∀ stream, effective stream command = none) ∧
        trigger clr i2s command.1 command.2 = some (einval, i2s)) := by
  obtain ⟨stream, cmd⟩ := command
  have dispatch : ∀ on, (if stream = .capture then sndRxctrl clr i2s on
      else sndTxctrl clr i2s on) = sndCtrl stream clr i2s on := by
    intro on
    cases stream <;> rfl
  by_cases start : isStart cmd = true
  · obtain ⟨next, done, effect⟩ := sndCtrl_effect stream clr i2s true
    refine .inl ⟨true, next, ?_, ?_, effect⟩
    · simp [effective, start]
    · rw [trigger, if_pos start, dispatch, done, Option.map_some]
  · by_cases stop : isStop cmd = true
    · obtain ⟨next, done, effect⟩ := sndCtrl_effect stream clr i2s false
      refine .inl ⟨false, next, ?_, ?_, effect⟩
      · simp [effective, start, stop]
      · rw [trigger, if_neg start, if_pos stop, dispatch, done,
          Option.map_some]
    · refine .inr ⟨?_, ?_⟩
      · intro other
        simp [effective, start, stop]
      · rw [trigger, if_neg start, if_neg stop]

theorem probe_follows (clr : ClrReads) (regs : RegisterFile 32) :
    ∃ probed, probe clr regs = some probed ∧ Follows regs [] probed := by
  obtain ⟨first, txDone, tx⟩ := sndCtrl_effect .playback clr
    { regs, start := fun _ => false, reads := 0, writes := [], waits := [] }
    false
  obtain ⟨probed, rxDone, rx⟩ := sndCtrl_effect .capture clr first false
  have stopped : ∀ stream, probed.start stream = false := by
    intro stream
    rw [rx.start, tx.start]
    cases stream <;> rfl
  refine ⟨probed, ?_, ?_, ?_, ?_, ?_, ?_, ?_, ?_⟩
  · rw [probe, sndTxctrl, txDone]
    exact rxDone
  · exact stopped
  · intro stream
    rw [stopped]
    cases stream with
    | capture => exact rx.dma_own
    | playback =>
        rw [rx.dma_other (by decide)]
        exact tx.dma_own
  · intro index inside
    have quiet : first.start Stream.capture.other = false := by
      rw [tx.start]
      rfl
    rw [rx.xfer inside, if_pos (.inr quiet), stopped, stopped]
    rfl
  · intro index other
    rw [rx.dma_other (other .capture), tx.dma_other (other .playback)]
  · intro index other
    rw [rx.xfer_other other, tx.xfer_other other]
  · intro write member
    rcases rx.writes write member with member | clear
    · rcases tx.writes write member with none | clear
      · cases none
      · exact clear
    · exact clear
  · intro polls member
    rcases rx.waits polls member with member | bound
    · rcases tx.waits polls member with none | bound
      · cases none
      · exact bound
    · exact bound

/-- After the probe every sequence of triggers runs through, the controller
follows it, and a command that is not supported is refused without effect. -/
theorem triggers_followed (clr : ClrReads) (regs : RegisterFile 32) :
    ∃ probed, probe clr regs = some probed ∧
      ∀ commands, ∃ i2s, Run (step clr) (fun _ _ => True) probed commands i2s ∧
        Follows regs commands i2s ∧
        ∀ stream cmd, isStart cmd = false → isStop cmd = false →
          trigger clr i2s stream cmd = some (einval, i2s) := by
  obtain ⟨probed, done, initial⟩ := probe_follows clr regs
  have advance : ∀ commands i2s command, Follows regs commands i2s →
      ∃ next, step clr i2s command = some next ∧
        Follows regs (commands ++ [command]) next := by
    intro commands i2s command follows
    rcases trigger_cases clr i2s command with
      ⟨on, next, means, switched, effect⟩ | ⟨none, refused⟩
    · refine ⟨next, ?_, follows.effect means effect⟩
      rw [step, switched, Option.map_some]
    · refine ⟨i2s, ?_, follows.ignored none⟩
      rw [step, refused, Option.map_some]
  refine ⟨probed, done, ?_⟩
  intro commands
  obtain ⟨i2s, run, follows⟩ := Run.exists_of_advance initial advance commands
  refine ⟨i2s, run, follows, ?_⟩
  intro stream cmd start stop
  rw [trigger, start, stop]
  rfl

end KernelDrivers.Sound
