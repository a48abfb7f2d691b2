import KernelDrivers.Library.Transition
import Mathlib.Algebra.GroupWithZero.Nat

/-!
# A serial flash

`w25q128fv.c` turns each call into one message of a command buffer that all
calls share.
-/

namespace KernelDrivers.Spi

open KernelDrivers.Library

abbrev maxCmdSize : Nat := 6

/-- `SPINOR_OP_AAI_WP`. -/
abbrev aaiWp : UInt8 := 0xad

inductive FlashRead where
  | normal
  | fast
  | dual
  | quad
deriving DecidableEq

/-- What the driver reads of a `struct spi_nor`. -/
structure Nor where
  addrWidth : Nat
  programOpcode : UInt8
  readOpcode : UInt8
  eraseOpcode : UInt8
  readDummy : Nat
  flashRead : FlashRead
  sstWriteSecond : Bool
deriving DecidableEq

/-- What one `spi_sync` sends, and what it is to receive. -/
structure Message where
  tx : List UInt8
  rxNbits : Nat
  rxLen : Nat

/-- The controller and the chip: an error, or the bytes received. -/
abbrev SpiSync (Chip : Type) : Type :=
  Chip → Message → Except Int (List UInt8 × Chip)

/-- What a call returns: `ret`, `*retlen` and the bytes in the buffer. -/
structure Reply where
  ret : Int
  retlen : BitVec 64
  data : List UInt8
deriving DecidableEq

abbrev Command : Type := Vector UInt8 maxCmdSize

section Driver

-- What a shift by a count that is not the number of a bit gives.
variable (undefined : BitVec 32 → Int → UInt8)

def shiftRight (addr : BitVec 32) (count : Int) : UInt8 :=
  if 0 ≤ count ∧ count < 32 then
    UInt8.ofBitVec ((addr >>> count.toNat).setWidth 8)
  else undefined addr count

def m25pAddr2cmd (nor : Nor) (addr : BitVec 32) (cmd : Command) : Command :=
  let bits : Int := nor.addrWidth * 8
  let cmd := cmd.set 1 (shiftRight undefined addr (bits - 8))
  let cmd := cmd.set 2 (shiftRight undefined addr (bits - 16))
  let cmd := cmd.set 3 (shiftRight undefined addr (bits - 24))
  cmd.set 4 (shiftRight undefined addr (bits - 32))

def m25pCmdsz (nor : Nor) : Nat :=
  1 + nor.addrWidth

/-- The first bytes of the command buffer, if it has so many. -/
def sent (command : Command) (size : Nat) : Option (List UInt8) :=
  if size ≤ maxCmdSize then some (command.toList.take size) else none

/-- `memcpy` to the bytes behind the opcode. -/
def copied (command : Command) (buf : List UInt8) (len : Nat) : Command :=
  Vector.ofFn fun index =>
    if 1 ≤ index.val ∧ index.val ≤ len then buf.getD (index.val - 1) 0
    else command[index]

def m25p80RxNbits (nor : Nor) : Nat :=
  match nor.flashRead with
  | .dual => 2
  | .quad => 4
  | _ => 0

/-- The driver, the chip, and what the calls have returned. -/
structure Flash (Chip : Type) where
  command : Command
  chip : Chip
  replies : List Reply

variable {Chip : Type} (spiSync : SpiSync Chip)

def Flash.reply (flash : Flash Chip) (command : Command) (chip : Chip)
    (reply : Reply) : Flash Chip :=
  { command, chip, replies := flash.replies ++ [reply] }

def m25p80ReadReg (flash : Flash Chip) (code : UInt8) (len : Nat) :
    Flash Chip :=
  match spiSync flash.chip { tx := [code], rxNbits := 0, rxLen := len } with
  | .error ret =>
      flash.reply flash.command flash.chip { ret, retlen := 0, data := [] }
  | .ok (val, chip) =>
      flash.reply flash.command chip { ret := 0, retlen := 0, data := val }

/-- A buffer that is NULL leaves the bytes of an earlier command. -/
def m25p80WriteReg (flash : Flash Chip) (opcode : UInt8)
    (buf : Option (List UInt8)) (len : Nat) : Option (Flash Chip) :=
  let command := flash.command.set 0 opcode
  let command :=
    match buf with
    | none => command
    | some buf => copied command buf len
  (sent command (len + 1)).map fun tx =>
    match spiSync flash.chip { tx, rxNbits := 0, rxLen := 0 } with
    | .error ret =>
        flash.reply command flash.chip { ret, retlen := 0, data := [] }
    | .ok (_, chip) =>
        flash.reply command chip { ret := 0, retlen := 0, data := [] }

/-- `retlen` is what `*retlen` was.  An error of `spi_sync` is not looked at;
nothing was transferred then. -/
def m25p80Write (flash : Flash Chip) (nor : Nor) (offset : BitVec 64)
    (buf : List UInt8) (retlen : BitVec 64) : Option (Flash Chip) :=
  let cmdSz :=
    if nor.programOpcode = aaiWp ∧ nor.sstWriteSecond = true then 1
    else m25pCmdsz nor
  let command := flash.command.set 0 nor.programOpcode
  let command := m25pAddr2cmd undefined nor (offset.setWidth 32) command
  (sent command cmdSz).map fun cmd =>
    let tx := cmd ++ buf.take (buf.length % 2 ^ 32)
    let returned (actualLength : BitVec 32) : Reply :=
      { ret := 0
        retlen := retlen +
          (actualLength - BitVec.ofNat 32 cmdSz).setWidth 64
        data := [] }
    match spiSync flash.chip { tx, rxNbits := 0, rxLen := 0 } with
    | .error _ => flash.reply command flash.chip (returned 0)
    | .ok (_, chip) =>
        flash.reply command chip (returned (BitVec.ofNat 32 tx.length))

/-- The buffer of a read that fails keeps its bytes. -/
def m25p80Read (flash : Flash Chip) (nor : Nor) (offset : BitVec 64)
    (len : Nat) (buf : List UInt8) : Option (Flash Chip) :=
  let dummy := nor.readDummy / 8
  let command := flash.command.set 0 nor.readOpcode
  let command := m25pAddr2cmd undefined nor (offset.setWidth 32) command
  (sent command (m25pCmdsz nor + dummy)).map fun tx =>
    let rxLen := len % 2 ^ 32
    let returned (actualLength : BitVec 32) (data : List UInt8) : Reply :=
      { ret := 0
        retlen := (actualLength - BitVec.ofNat 32 (m25pCmdsz nor) -
          BitVec.ofNat 32 dummy).setWidth 64
        data }
    match spiSync flash.chip
        { tx, rxNbits := m25p80RxNbits nor, rxLen } with
    | .error _ => flash.reply command flash.chip (returned 0 buf)
    | .ok (data, chip) =>
        flash.reply command chip
          (returned (BitVec.ofNat 32 (tx.length + rxLen)) data)

def m25p80Erase (flash : Flash Chip) (nor : Nor) (offset : BitVec 64) :
    Option (Flash Chip) :=
  let command := flash.command.set 0 nor.eraseOpcode
  let command := m25pAddr2cmd undefined nor (offset.setWidth 32) command
  (sent command (m25pCmdsz nor)).map fun tx =>
    let returned : Reply := { ret := 0, retlen := 0, data := [] }
    match spiSync flash.chip { tx, rxNbits := 0, rxLen := 0 } with
    | .error _ => flash.reply command flash.chip returned
    | .ok (_, chip) => flash.reply command chip returned

/-- The hooks that `m25p_probe` installs. -/
inductive Hook where
  | readReg (code : UInt8) (len : Nat)
  | writeReg (opcode : UInt8) (buf : Option (List UInt8)) (len : Nat)
  | write (offset : BitVec 64) (buf : List UInt8) (retlen : BitVec 64)
  | read (offset : BitVec 64) (len : Nat) (buf : List UInt8)
  | erase (offset : BitVec 64)
deriving DecidableEq

/-- A call, with the `struct spi_nor` as it is then. -/
structure Call where
  nor : Nor
  hook : Hook

def Flash.step (flash : Flash Chip) (call : Call) : Option (Flash Chip) :=
  match call.hook with
  | .readReg code len => some (m25p80ReadReg spiSync flash code len)
  | .writeReg opcode buf len => m25p80WriteReg spiSync flash opcode buf len
  | .write offset buf retlen =>
      m25p80Write undefined spiSync flash call.nor offset buf retlen
  | .read offset len buf =>
      m25p80Read undefined spiSync flash call.nor offset len buf
  | .erase offset => m25p80Erase undefined spiSync flash call.nor offset

end Driver

/-- What a chip is asked to do. -/
inductive Request where
  | readReg (code : UInt8) (len : Nat)
  | writeReg (opcode : UInt8) (data : List UInt8)
  | program (opcode : UInt8) (address : Nat) (data : List UInt8)
  | programMore (opcode : UInt8) (data : List UInt8)
  | read (opcode : UInt8) (address : Nat) (len : Nat)
  | erase (opcode : UInt8) (address : Nat)
deriving DecidableEq

/-- What an opcode stands for. -/
inductive Kind where
  | register
  | program
  | programMore
  | read (dummy rxNbits : Nat)
  | erase
deriving DecidableEq

/-- Some serial flash: the width of its addresses, what it takes each opcode for
in its present state, and what it does. -/
structure Model (Chip : Type) where
  width : Nat
  kind : Chip → UInt8 → Kind
  perform : Chip → Request → List UInt8 × Chip

/-- Bytes as a number, the most significant one first. -/
def address (bytes : List UInt8) : Nat :=
  bytes.foldl (fun value byte => value * 256 + byte.toNat) 0

section Model

variable {Chip : Type} (model : Model Chip)

/-- How a chip reads a message: the opcode, then an address, then data. -/
def Model.decode (chip : Chip) (message : Message) : Option Request :=
  match message.tx with
  | [] => none
  | opcode :: rest =>
      match model.kind chip opcode with
      | .register =>
          if message.rxLen = 0 then some (.writeReg opcode rest)
          else if rest = [] then some (.readReg opcode message.rxLen)
          else none
      | .program =>
          if model.width ≤ rest.length then
            some (.program opcode (address (rest.take model.width))
              (rest.drop model.width))
          else none
      | .programMore => some (.programMore opcode rest)
      | .read dummy rxNbits =>
          if rest.length = model.width + dummy ∧
              message.rxNbits = rxNbits then
            some (.read opcode (address (rest.take model.width)) message.rxLen)
          else none
      | .erase =>
          if rest.length = model.width then
            some (.erase opcode (address rest))
          else none

/-- A bus without errors; what the chip does not understand it ignores. -/
def Model.spiSync : SpiSync Chip := fun chip message =>
  .ok (match model.decode chip message with
    | none => (List.replicate message.rxLen 0xff, chip)
    | some request => model.perform chip request)

/-- What a call asks for. -/
def Call.request (call : Call) : Request :=
  let nor := call.nor
  let within (offset : BitVec 64) : Nat := offset.toNat % 256 ^ model.width
  match call.hook with
  | .readReg code len => .readReg code len
  | .writeReg opcode buf _ => .writeReg opcode (buf.getD [])
  | .write offset buf _ =>
      if nor.programOpcode = aaiWp ∧ nor.sstWriteSecond = true then
        .programMore nor.programOpcode buf
      else .program nor.programOpcode (within offset) buf
  | .read offset len _ => .read nor.readOpcode (within offset) len
  | .erase offset => .erase nor.eraseOpcode (within offset)

/-- What a call returns if the chip sends these bytes. -/
def Call.returned (call : Call) (data : List UInt8) : Reply :=
  match call.hook with
  | .readReg _ _ => { ret := 0, retlen := 0, data }
  | .writeReg _ _ _ => { ret := 0, retlen := 0, data := [] }
  | .write _ buf retlen =>
      { ret := 0, retlen := retlen + BitVec.ofNat 64 buf.length, data := [] }
  | .read _ len _ => { ret := 0, retlen := BitVec.ofNat 64 len, data }
  | .erase _ => { ret := 0, retlen := 0, data := [] }

/-- The call without a driver: the chip does what it asks for. -/
def Model.direct (state : Chip × List Reply) (call : Call) :
    Chip × List Reply :=
  let (data, chip) := model.perform state.1 (call.request model)
  (chip, state.2 ++ [call.returned data])

/-- The driver and the chip agree on the opcode and the width, and the command
and the data have room. -/
def Agrees (state : Chip × List Reply) (call : Call) : Prop :=
  let nor := call.nor
  let kind := model.kind state.1
  nor.addrWidth = model.width ∧ 1 ≤ model.width ∧ model.width ≤ 4 ∧
    match call.hook with
    | .readReg code len => kind code = .register ∧ 0 < len
    | .writeReg opcode buf len =>
        kind opcode = .register ∧ len < maxCmdSize ∧
          (buf.getD []).length = len
    | .write _ buf _ =>
        kind nor.programOpcode =
          (if nor.programOpcode = aaiWp ∧ nor.sstWriteSecond = true then
            .programMore else .program) ∧
          buf.length + maxCmdSize < 2 ^ 32
    | .read _ len _ =>
        kind nor.readOpcode = .read (nor.readDummy / 8) (m25p80RxNbits nor) ∧
          m25pCmdsz nor + nor.readDummy / 8 ≤ maxCmdSize ∧
          len + maxCmdSize < 2 ^ 32
    | .erase _ => kind nor.eraseOpcode = .erase

end Model

section Frames

variable {undefined : BitVec 32 → Int → UInt8} {nor : Nor}

/-- The bytes of an address, as the driver computes them. -/
def addressBytes (undefined : BitVec 32 → Int → UInt8) (nor : Nor)
    (addr : BitVec 32) : List UInt8 :=
  let bits : Int := nor.addrWidth * 8
  [shiftRight undefined addr (bits - 8), shiftRight undefined addr (bits - 16),
    shiftRight undefined addr (bits - 24),
    shiftRight undefined addr (bits - 32)]

theorem toList_m25pAddr2cmd (command : Command) (opcode : UInt8)
    (addr : BitVec 32) :
    (m25pAddr2cmd undefined nor addr (command.set 0 opcode)).toList =
      opcode :: (addressBytes undefined nor addr ++ [command[5]]) := by
  obtain ⟨⟨bytes⟩, size⟩ := command
  match bytes, size with
  | [_, _, _, _, _, _], _ => rfl

theorem toNat_shiftRight (addr : BitVec 32) {count : Nat} (bit : count < 32) :
    (shiftRight undefined addr count).toNat =
      addr.toNat / 2 ^ count % 256 := by
  have range : 0 ≤ (count : Int) ∧ (count : Int) < 32 := by omega
  rw [shiftRight, if_pos range, Int.toNat_natCast]
  simp [Nat.shiftRight_eq_div_pow]

/-- As many bytes as the address is wide say what it is, whatever an undefined
shift puts behind them. -/
theorem address_addressBytes (positive : 1 ≤ nor.addrWidth)
    (small : nor.addrWidth ≤ 4) (addr : BitVec 32) :
    address ((addressBytes undefined nor addr).take nor.addrWidth) =
      addr.toNat % 256 ^ nor.addrWidth := by
  have lowest := @toNat_shiftRight undefined addr 0 (by decide)
  have second := @toNat_shiftRight undefined addr 8 (by decide)
  have third := @toNat_shiftRight undefined addr 16 (by decide)
  have highest := @toNat_shiftRight undefined addr 24 (by decide)
  have bound := addr.isLt
  rw [addressBytes]
  generalize nor.addrWidth = width at *
  obtain rfl | rfl | rfl | rfl :
      width = 1 ∨ width = 2 ∨ width = 3 ∨ width = 4 := by
    omega
  · change 0 * 256 + (shiftRight undefined addr (0 : Nat)).toNat = _
    omega
  · change (0 * 256 + (shiftRight undefined addr (8 : Nat)).toNat) * 256 +
      (shiftRight undefined addr (0 : Nat)).toNat = _
    omega
  · change ((0 * 256 + (shiftRight undefined addr (16 : Nat)).toNat) * 256 +
      (shiftRight undefined addr (8 : Nat)).toNat) * 256 +
      (shiftRight undefined addr (0 : Nat)).toNat = _
    omega
  · change (((0 * 256 + (shiftRight undefined addr (24 : Nat)).toNat) * 256 +
      (shiftRight undefined addr (16 : Nat)).toNat) * 256 +
      (shiftRight undefined addr (8 : Nat)).toNat) * 256 +
      (shiftRight undefined addr (0 : Nat)).toNat = _
    omega

theorem length_addressBytes (addr : BitVec 32) :
    (addressBytes undefined nor addr).length = 4 := rfl

/-- The first bytes of a command are the opcode, and the address if there are
enough of them. -/
theorem sent_m25pAddr2cmd (command : Command) (opcode : UInt8)
    (addr : BitVec 32) {size : Nat} (inside : size + 1 ≤ maxCmdSize) :
    ∃ rest : List UInt8,
      sent (m25pAddr2cmd undefined nor addr (command.set 0 opcode))
          (size + 1) = some (opcode :: rest) ∧
        rest.length = size ∧
        ∀ width ≤ 4, width ≤ size →
          rest.take width = (addressBytes undefined nor addr).take width := by
  refine ⟨(addressBytes undefined nor addr ++ [command[5]]).take size, ?_, ?_,
    ?_⟩
  · rw [sent, if_pos inside, toList_m25pAddr2cmd, List.take_succ_cons]
  · rw [List.length_take, List.length_append, length_addressBytes]
    exact Nat.min_eq_left (Nat.le_of_succ_le_succ inside)
  · intro width small within
    rw [List.take_take, Nat.min_eq_left within]
    exact List.take_append_of_le_length small

theorem sent_set (command : Command) (opcode : UInt8) :
    sent (command.set 0 opcode) 1 = some [opcode] := by
  obtain ⟨⟨bytes⟩, size⟩ := command
  match bytes, size with
  | [_, _, _, _, _, _], _ => rfl

theorem sent_copied (command : Command) (opcode : UInt8) {buf : List UInt8}
    (inside : buf.length < maxCmdSize) :
    sent (copied (command.set 0 opcode) buf buf.length) (buf.length + 1) =
      some (opcode :: buf) := by
  rw [sent, if_pos (Nat.succ_le_of_lt inside)]
  congr 1
  apply List.ext_getElem
  · simp only [List.length_take, Vector.length_toList, List.length_cons]
    exact Nat.min_eq_left inside
  · intro index first second
    cases index with
    | zero => simp [copied]
    | succ index =>
        have there : index < buf.length := Nat.lt_of_succ_lt_succ second
        simp only [copied, List.getElem_take, Vector.getElem_toList,
          Vector.getElem_ofFn, List.getElem_cons_succ, Nat.add_sub_cancel]
        rw [if_pos ⟨Nat.le_add_left 1 index, there⟩]
        simp [there]

theorem actualLength_sub {header len : Nat} (short : header + len < 2 ^ 32) :
    (BitVec.ofNat 32 (header + len) - BitVec.ofNat 32 header).setWidth 64 =
      BitVec.ofNat 64 len := by
  apply BitVec.eq_of_toNat_eq
  simp only [BitVec.toNat_setWidth, BitVec.toNat_sub, BitVec.toNat_ofNat]
  omega

end Frames

section Hooks

variable {undefined : BitVec 32 → Int → UInt8} {Chip : Type}
variable {model : Model Chip} {flash : Flash Chip} {call : Call}

/-- The chip and the replies. -/
def Flash.outside (flash : Flash Chip) : Chip × List Reply :=
  (flash.chip, flash.replies)

/-- The call does what the chip alone would do. -/
def Direct (undefined : BitVec 32 → Int → UInt8) (model : Model Chip)
    (flash : Flash Chip) (call : Call) : Prop :=
  ∃ next, flash.step undefined model.spiSync call = some next ∧
    next.outside = model.direct flash.outside call

theorem spiSync_decoded {chip : Chip} {message : Message} {request : Request}
    (decoded : model.decode chip message = some request) :
    model.spiSync chip message = .ok (model.perform chip request) := by
  rw [Model.spiSync, decoded]

theorem direct_of_eq
    (taken : ∃ command, flash.step undefined model.spiSync call =
      some (flash.reply command
        (model.perform flash.chip (call.request model)).2
        (call.returned (model.perform flash.chip (call.request model)).1))) :
    Direct undefined model flash call := by
  obtain ⟨command, taken⟩ := taken
  exact ⟨_, taken, rfl⟩

theorem direct_readReg {nor : Nor} {code : UInt8} {len : Nat}
    (agrees : Agrees model flash.outside ⟨nor, .readReg code len⟩) :
    Direct undefined model flash ⟨nor, .readReg code len⟩ := by
  obtain ⟨-, -, -, kind, positive⟩ := agrees
  change model.kind flash.chip code = .register at kind
  have decoded : model.decode flash.chip
      { tx := [code], rxNbits := 0, rxLen := len } =
        some (.readReg code len) := by
    simp only [Model.decode, kind]
    rw [if_neg (Nat.ne_of_gt positive)]
    rfl
  refine direct_of_eq ⟨flash.command, ?_⟩
  simp only [Flash.step, m25p80ReadReg, spiSync_decoded decoded]
  rfl

theorem direct_writeReg {nor : Nor} {opcode : UInt8}
    {buf : Option (List UInt8)} {len : Nat}
    (agrees : Agrees model flash.outside ⟨nor, .writeReg opcode buf len⟩) :
    Direct undefined model flash ⟨nor, .writeReg opcode buf len⟩ := by
  obtain ⟨-, -, -, kind, small, length⟩ := agrees
  change model.kind flash.chip opcode = .register at kind
  have decoded : model.decode flash.chip
      { tx := opcode :: buf.getD [], rxNbits := 0, rxLen := 0 } =
        some (.writeReg opcode (buf.getD [])) := by
    simp only [Model.decode, kind]
    rfl
  subst length
  cases buf with
  | none =>
      have tx := sent_set flash.command opcode
      rw [Option.getD_none] at decoded
      refine direct_of_eq ⟨flash.command.set 0 opcode, ?_⟩
      simp only [Flash.step, m25p80WriteReg, Option.getD_none,
        List.length_nil, Nat.zero_add, tx, Option.map_some,
        spiSync_decoded decoded]
      rfl
  | some buf =>
      rw [Option.getD_some] at decoded small
      have tx := sent_copied flash.command opcode small
      refine direct_of_eq
        ⟨copied (flash.command.set 0 opcode) buf buf.length, ?_⟩
      simp only [Flash.step, m25p80WriteReg, Option.getD_some, tx,
        Option.map_some, spiSync_decoded decoded]
      rfl

theorem address_rest {nor : Nor} (same : nor.addrWidth = model.width)
    (positive : 1 ≤ model.width) (small : model.width ≤ 4)
    (offset : BitVec 64) :
    address ((addressBytes undefined nor (offset.setWidth 32)).take
      model.width) = offset.toNat % 256 ^ model.width := by
  rw [← same] at positive small ⊢
  rw [address_addressBytes positive small, BitVec.toNat_setWidth]
  generalize nor.addrWidth = width at positive small
  obtain rfl | rfl | rfl | rfl :
      width = 1 ∨ width = 2 ∨ width = 3 ∨ width = 4 := by
    omega
  all_goals omega

theorem direct_erase {nor : Nor} {offset : BitVec 64}
    (agrees : Agrees model flash.outside ⟨nor, .erase offset⟩) :
    Direct undefined model flash ⟨nor, .erase offset⟩ := by
  obtain ⟨width, positive, small, kind⟩ := agrees
  change nor.addrWidth = model.width at width
  change model.kind flash.chip nor.eraseOpcode = .erase at kind
  have inside : model.width + 1 ≤ maxCmdSize :=
    Nat.le_trans (Nat.succ_le_succ small) (by decide)
  obtain ⟨rest, tx, length, same⟩ := @sent_m25pAddr2cmd undefined nor
    flash.command nor.eraseOpcode (offset.setWidth 32) _ inside
  have seen : address rest = offset.toNat % 256 ^ model.width := by
    have whole := same model.width small (Nat.le_refl _)
    rw [← length, List.take_length, length] at whole
    rw [whole]
    exact address_rest width positive small offset
  have decoded : model.decode flash.chip
      { tx := nor.eraseOpcode :: rest, rxNbits := 0, rxLen := 0 } =
        some (.erase nor.eraseOpcode (offset.toNat % 256 ^ model.width)) := by
    simp only [Model.decode, kind, length, seen]
    rfl
  rw [Nat.add_comm] at tx
  refine direct_of_eq ⟨m25pAddr2cmd undefined nor (offset.setWidth 32)
    (flash.command.set 0 nor.eraseOpcode), ?_⟩
  simp only [Flash.step, m25p80Erase, m25pCmdsz, width, tx, Option.map_some,
    spiSync_decoded decoded]
  rfl

/-- The bytes behind the address make the dummy cycles, whatever they are. -/
theorem direct_read {nor : Nor} {offset : BitVec 64} {len : Nat}
    {buf : List UInt8}
    (agrees : Agrees model flash.outside ⟨nor, .read offset len buf⟩) :
    Direct undefined model flash ⟨nor, .read offset len buf⟩ := by
  obtain ⟨width, positive, small, kind, inside, short⟩ := agrees
  change nor.addrWidth = model.width at width
  change model.kind flash.chip nor.readOpcode =
    .read (nor.readDummy / 8) (m25p80RxNbits nor) at kind
  simp only [m25pCmdsz, width] at inside
  have size : 1 + model.width + nor.readDummy / 8 =
      model.width + nor.readDummy / 8 + 1 := by
    omega
  rw [size] at inside
  obtain ⟨rest, tx, length, same⟩ := @sent_m25pAddr2cmd undefined nor
    flash.command nor.readOpcode (offset.setWidth 32) _ inside
  have seen : address (rest.take model.width) =
      offset.toNat % 256 ^ model.width := by
    rw [same model.width small (Nat.le_add_right _ _)]
    exact address_rest width positive small offset
  have whole : len % 2 ^ 32 = len :=
    Nat.mod_eq_of_lt (Nat.lt_of_le_of_lt (Nat.le_add_right _ _) short)
  have decoded : model.decode flash.chip
      { tx := nor.readOpcode :: rest, rxNbits := m25p80RxNbits nor
        rxLen := len } =
        some (.read nor.readOpcode (offset.toNat % 256 ^ model.width)
          len) := by
    simp only [Model.decode, kind, length, seen, and_self, if_true]
  have retlen : (BitVec.ofNat 32 ((nor.readOpcode :: rest).length + len) -
      BitVec.ofNat 32 (1 + model.width) -
      BitVec.ofNat 32 (nor.readDummy / 8)).setWidth 64 =
        BitVec.ofNat 64 len := by
    rw [BitVec.sub_sub, ← BitVec.ofNat_add, size, List.length_cons, length]
    apply actualLength_sub
    omega
  rw [← size] at tx
  refine direct_of_eq ⟨m25pAddr2cmd undefined nor (offset.setWidth 32)
    (flash.command.set 0 nor.readOpcode), ?_⟩
  simp only [Flash.step, m25p80Read, m25pCmdsz, width, tx, Option.map_some,
    whole, spiSync_decoded decoded, retlen]
  rfl

theorem direct_write {nor : Nor} {offset : BitVec 64} {buf : List UInt8}
    {retlen : BitVec 64}
    (agrees : Agrees model flash.outside ⟨nor, .write offset buf retlen⟩) :
    Direct undefined model flash ⟨nor, .write offset buf retlen⟩ := by
  obtain ⟨width, positive, small, kind, short⟩ := agrees
  change nor.addrWidth = model.width at width
  change model.kind flash.chip nor.programOpcode = _ at kind
  have whole : buf.take (buf.length % 2 ^ 32) = buf := by
    rw [Nat.mod_eq_of_lt (Nat.lt_of_le_of_lt (Nat.le_add_right _ _) short),
      List.take_length]
  have inside : model.width + 1 ≤ maxCmdSize :=
    Nat.le_trans (Nat.succ_le_succ small) (by decide)
  have returned {size : Nat} (within : size ≤ maxCmdSize) :
      (BitVec.ofNat 32 (size + buf.length) - BitVec.ofNat 32 size).setWidth 64 =
        BitVec.ofNat 64 buf.length := by
    apply actualLength_sub
    rw [Nat.add_comm]
    exact Nat.lt_of_le_of_lt (Nat.add_le_add_left within _) short
  by_cases second : nor.programOpcode = aaiWp ∧ nor.sstWriteSecond = true
  · rw [if_pos second] at kind
    obtain ⟨rest, tx, length, -⟩ := @sent_m25pAddr2cmd undefined nor
      flash.command nor.programOpcode (offset.setWidth 32) 0 (by decide)
    obtain rfl := List.eq_nil_of_length_eq_zero length
    have decoded : model.decode flash.chip
        { tx := nor.programOpcode :: buf, rxNbits := 0, rxLen := 0 } =
          some (.programMore nor.programOpcode buf) := by
      simp only [Model.decode, kind]
    have counted : (BitVec.ofNat 32 (1 + buf.length) -
        BitVec.ofNat 32 1).setWidth 64 = BitVec.ofNat 64 buf.length :=
      returned (by decide)
    refine direct_of_eq ⟨m25pAddr2cmd undefined nor (offset.setWidth 32)
      (flash.command.set 0 nor.programOpcode), ?_⟩
    simp only [Flash.step, m25p80Write, if_pos second, tx, whole,
      Option.map_some, List.cons_append, List.nil_append,
      spiSync_decoded decoded, List.length_cons, Nat.add_comm buf.length,
      counted, Call.request, Call.returned]
  · rw [if_neg second] at kind
    obtain ⟨rest, tx, length, same⟩ := @sent_m25pAddr2cmd undefined nor
      flash.command nor.programOpcode (offset.setWidth 32) _ inside
    have front : (rest ++ buf).take model.width = rest := by
      rw [← length, List.take_left]
    have back : (rest ++ buf).drop model.width = buf := by
      rw [← length, List.drop_left]
    have seen : address rest = offset.toNat % 256 ^ model.width := by
      have all := same model.width small (Nat.le_refl _)
      rw [← length, List.take_length, length] at all
      rw [all]
      exact address_rest width positive small offset
    have room : model.width ≤ (rest ++ buf).length := by
      rw [List.length_append, length]
      exact Nat.le_add_right _ _
    have decoded : model.decode flash.chip
        { tx := nor.programOpcode :: (rest ++ buf), rxNbits := 0, rxLen := 0 } =
          some (.program nor.programOpcode
            (offset.toNat % 256 ^ model.width) buf) := by
      simp only [Model.decode, kind, if_pos room, front, back, seen]
    have counted : (BitVec.ofNat 32 ((rest ++ buf).length + 1) -
        BitVec.ofNat 32 (1 + model.width)).setWidth 64 =
          BitVec.ofNat 64 buf.length := by
      have sum : (rest ++ buf).length + 1 = 1 + model.width + buf.length := by
        rw [List.length_append, length]
        omega
      rw [sum]
      exact returned (by omega)
    rw [Nat.add_comm] at tx
    refine direct_of_eq ⟨m25pAddr2cmd undefined nor (offset.setWidth 32)
      (flash.command.set 0 nor.programOpcode), ?_⟩
    simp only [Flash.step, m25p80Write, if_neg second, m25pCmdsz, width, tx,
      whole, Option.map_some, List.cons_append, spiSync_decoded decoded,
      List.length_cons, counted, Call.request, Call.returned]

theorem direct_of_agrees (agrees : Agrees model flash.outside call) :
    Direct undefined model flash call := by
  obtain ⟨nor, hook⟩ := call
  cases hook with
  | readReg code len => exact direct_readReg agrees
  | writeReg opcode buf len => exact direct_writeReg agrees
  | write offset buf retlen => exact direct_write agrees
  | read offset len buf => exact direct_read agrees
  | erase offset => exact direct_erase agrees

/-- The driver is transparent.  Whatever the chip does with a request, and
whatever earlier commands and undefined shifts leave in the command buffer, a
sequence of calls has the effect on the chip, and the replies, of the requests
themselves. -/
theorem transparent {calls : List Call}
    (agree : Along (fun state call => some (model.direct state call))
      (Agrees model) flash.outside calls) :
    ∃ final,
      Run (Flash.step undefined model.spiSync) (fun _ _ => True) flash calls
        final ∧
      final.outside = calls.foldl model.direct flash.outside := by
  induction calls generalizing flash with
  | nil => exact ⟨flash, .nil, rfl⟩
  | cons call calls induction =>
      obtain ⟨first, others⟩ := along_cons.mp agree
      obtain ⟨next, taken, same⟩ := @direct_of_agrees undefined _ _ _ _ first
      have later := others _ rfl
      rw [← same] at later
      obtain ⟨final, run, outside⟩ := induction later
      have begins : Run (Flash.step undefined model.spiSync) (fun _ _ => True)
          flash [call] next :=
        .snoc .nil trivial taken
      refine ⟨final, begins.trans run, ?_⟩
      rw [outside, same, List.foldl_cons]

end Hooks

/-- A flash of one byte that has an address of three bytes. -/
def byteFlash : Model (Nat × UInt8) where
  width := 3
  kind _ opcode :=
    if opcode = 0x02 then .program
    else if opcode = 0x0b then .read 1 0
    else if opcode = 0xd8 then .erase
    else .register
  perform
    | (place, byte), .program _ address data =>
        ([], place, if address = place then byte &&& data.getD 0 0xff else byte)
    | (place, byte), .read _ address len =>
        (List.replicate len (if address = place then byte else 0xff), place,
          byte)
    | (place, _), .erase _ _ => ([], place, 0xff)
    | chip, _ => ([], chip)

/-- The settings of the chip that the module is named after. -/
def w25q128fv : Nor where
  addrWidth := 3
  programOpcode := 0x02
  readOpcode := 0x0b
  eraseOpcode := 0xd8
  readDummy := 8
  flashRead := .fast
  sstWriteSecond := false

/-- The bytes of an earlier command are still in the buffer. -/
def staleFlash : Flash (Nat × UInt8) where
  command := #v[1, 2, 3, 4, 5, 6]
  chip := (0x123456, 0)
  replies := []

theorem transparent_w25q128fv :
    ∃ final,
      Run (Flash.step (fun _ _ => 7) byteFlash.spiSync) (fun _ _ => True)
        staleFlash
        [⟨w25q128fv, .writeReg 0x06 none 0⟩, ⟨w25q128fv, .erase 0x120000⟩,
          ⟨w25q128fv, .write 0x123456 [0xab] 0⟩,
          ⟨w25q128fv, .read 0x123456 1 [0]⟩] final ∧
      final.outside = ((0x123456, 0xab),
        [{ ret := 0, retlen := 0, data := [] },
          { ret := 0, retlen := 0, data := [] },
          { ret := 0, retlen := 1, data := [] },
          { ret := 0, retlen := 1, data := [0xab] }]) := by
  apply transparent
  refine along_cons.mpr ⟨⟨rfl, by decide, by decide, rfl, by decide, rfl⟩, ?_⟩
  intro next taken
  cases taken
  refine along_cons.mpr ⟨⟨rfl, by decide, by decide, rfl⟩, ?_⟩
  intro next taken
  cases taken
  refine along_cons.mpr ⟨⟨rfl, by decide, by decide, rfl, by decide⟩, ?_⟩
  intro next taken
  cases taken
  refine along_cons.mpr
    ⟨⟨rfl, by decide, by decide, rfl, by decide, by decide⟩, ?_⟩
  intro next taken
  exact along_nil

end KernelDrivers.Spi
