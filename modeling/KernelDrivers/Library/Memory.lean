import Mathlib.Logic.Function.Basic

/-!
# Flat byte memory

An object of unbounded extent whose bytes are read and overwritten in ranges.
Bounds are not part of the type: a client that must stay inside an object says
so about the addresses it uses.
-/

namespace KernelDrivers.Library

abbrev Memory := Nat → UInt8

namespace Memory

/-- The `length` bytes at `start`, in address order. -/
def bytes (memory : Memory) (start length : Nat) : List UInt8 :=
  (List.range length).map fun offset => memory (start + offset)

/-- Overwrite `length` bytes at `start` with the first bytes of `data`. -/
def store (memory : Memory) (start length : Nat) (data : Memory) : Memory :=
  fun address =>
    if start ≤ address ∧ address < start + length then
      data (address - start)
    else memory address

/-- Overwrite the bytes at `start` with a list of bytes. -/
def storeList (memory : Memory) (start : Nat) (data : List UInt8) : Memory :=
  memory.store start data.length fun offset => data.getD offset 0

variable {memory data : Memory} {start length address : Nat}

theorem store_inside (lower : start ≤ address)
    (upper : address < start + length) :
    memory.store start length data address = data (address - start) := by
  simp [store, lower, upper]

theorem store_outside (outside : address < start ∨ start + length ≤ address) :
    memory.store start length data address = memory address := by
  have excluded : ¬(start ≤ address ∧ address < start + length) := by omega
  simp only [store, if_neg excluded]

theorem store_congr {other : Memory}
    (same : ∀ offset < length, data offset = other offset) :
    memory.store start length data = memory.store start length other := by
  funext address
  unfold store
  by_cases inside : start ≤ address ∧ address < start + length
  · rw [if_pos inside, if_pos inside]
    exact same _ (by omega)
  · rw [if_neg inside, if_neg inside]

@[simp] theorem length_bytes : (memory.bytes start length).length = length := by
  simp [bytes]

theorem bytes_append (first second : Nat) :
    memory.bytes start (first + second) =
      memory.bytes start first ++ memory.bytes (start + first) second := by
  simp [bytes, List.range_add, Nat.add_assoc, Function.comp_def]

theorem take_bytes {count : Nat} (inside : count ≤ length) :
    (memory.bytes start length).take count = memory.bytes start count := by
  obtain ⟨rest, rfl⟩ := Nat.exists_eq_add_of_le inside
  rw [bytes_append, List.take_append_of_le_length (by simp),
    List.take_of_length_le (by simp)]

theorem drop_bytes (skipped count : Nat) :
    (memory.bytes start (skipped + count)).drop skipped =
      memory.bytes (start + skipped) count := by
  rw [bytes_append, List.drop_append_of_le_length (by simp),
    List.drop_of_length_le (by simp), List.nil_append]

theorem bytes_prefix_drop {offset count : Nat}
    (inside : offset + count ≤ length) :
    memory.bytes (start + offset) count <+:
      (memory.bytes start length).drop offset := by
  obtain ⟨rest, rfl⟩ := Nat.exists_eq_add_of_le inside
  rw [Nat.add_assoc, drop_bytes, bytes_append]
  exact List.prefix_append _ _

theorem bytes_congr {other : Memory} {otherStart : Nat}
    (same : ∀ offset < length,
      memory (start + offset) = other (otherStart + offset)) :
    memory.bytes start length = other.bytes otherStart length := by
  apply List.map_congr_left
  intro offset member
  exact same offset (List.mem_range.mp member)

theorem eq_of_bytes {other : Memory} {otherStart : Nat}
    (same : memory.bytes start length = other.bytes otherStart length)
    {offset : Nat} (inside : offset < length) :
    memory (start + offset) = other (otherStart + offset) := by
  have entry := congrArg (fun list => list[offset]?) same
  simpa [bytes, inside] using entry

theorem eq_getD_of_bytes {list : List UInt8}
    (held : memory.bytes start length = list) {offset : Nat}
    (inside : offset < length) :
    memory (start + offset) = list.getD offset 0 := by
  rw [← held]
  simp [bytes, List.getD, inside]

theorem storeList_outside {list : List UInt8}
    (outside : address < start ∨ start + list.length ≤ address) :
    memory.storeList start list address = memory address :=
  store_outside outside

theorem storeList_inside {list : List UInt8} {offset : Nat}
    (inside : offset < list.length) :
    memory.storeList start list (start + offset) = list[offset] := by
  rw [storeList, store_inside (Nat.le_add_right _ _) (by omega),
    Nat.add_sub_cancel_left]
  simp [List.getD, inside]

theorem bytes_storeList (data : List UInt8) :
    (memory.storeList start data).bytes start data.length = data := by
  apply List.ext_getElem (by simp)
  intro offset inBytes inData
  have inside : start + offset < start + data.length := by omega
  simp only [bytes, storeList, List.getElem_map, List.getElem_range]
  rw [store_inside (Nat.le_add_right _ _) inside, Nat.add_sub_cancel_left]
  simp [List.getD, inData]

/-- A list stored over the head of another one that the memory held. -/
theorem bytes_storeList_over {front held : List UInt8}
    (holds : memory.bytes start held.length = held) :
    (memory.storeList start front).bytes start
        (front ++ held.drop front.length).length =
      front ++ held.drop front.length := by
  have outside : (memory.storeList start front).bytes (start + front.length)
      (held.drop front.length).length =
        memory.bytes (start + front.length) (held.drop front.length).length := by
    apply bytes_congr
    intro offset _
    exact storeList_outside (.inr (by omega))
  rw [List.length_append, bytes_append, bytes_storeList, outside]
  congr 1
  by_cases longer : held.length ≤ front.length
  · rw [List.drop_of_length_le longer]
    rfl
  · have split : held.length =
        front.length + (held.drop front.length).length := by
      rw [List.length_drop]
      omega
    rw [← drop_bytes, ← split, holds]

theorem bytes_eq_append {first second : List UInt8}
    (filled : memory.bytes start (first ++ second).length = first ++ second) :
    memory.bytes start first.length = first ∧
      memory.bytes (start + first.length) second.length = second := by
  rw [List.length_append, bytes_append] at filled
  exact List.append_inj filled length_bytes

@[simp] theorem storeList_nil : memory.storeList start [] = memory := by
  funext address
  exact store_outside (Nat.lt_or_ge address start)

theorem storeList_append (first second : List UInt8) :
    memory.storeList start (first ++ second) =
      (memory.storeList start first).storeList (start + first.length)
        second := by
  funext address
  simp only [storeList, store, List.length_append, List.getD]
  by_cases inSecond : start + first.length ≤ address
  · have offset : address - start - first.length =
        address - (start + first.length) := by omega
    by_cases inside : address < start + first.length + second.length
    · rw [if_pos (by omega), if_pos ⟨inSecond, inside⟩,
        List.getElem?_append_right (by omega), offset]
    · rw [if_neg (by omega), if_neg (by omega), if_neg (by omega)]
  · by_cases inside : start ≤ address
    · rw [if_pos (by omega), if_neg (by omega), if_pos (by omega),
        List.getElem?_append_left (by omega)]
    · rw [if_neg (by omega), if_neg (by omega), if_neg (by omega)]

theorem storeList_head_last (byte : UInt8) (list : List UInt8) :
    (memory.storeList (start + 1) list).storeList start [byte] =
      memory.storeList start (byte :: list) := by
  rw [show byte :: list = [byte] ++ list from rfl, storeList_append]
  funext address
  simp only [storeList, store, List.length_singleton]
  by_cases first : start ≤ address ∧ address < start + 1
  · rw [if_pos first, if_neg (by omega), if_pos first]
  · rw [if_neg first, if_neg first]

theorem storeList_same {list : List UInt8}
    (held : memory.bytes start list.length = list) :
    memory.storeList start list = memory := by
  have stored := @bytes_storeList memory start list
  funext address
  by_cases inside : start ≤ address ∧ address < start + list.length
  · obtain ⟨offset, rfl⟩ := Nat.exists_eq_add_of_le inside.1
    exact eq_of_bytes (stored.trans held.symm) (by omega)
  · exact storeList_outside (by omega)

/-- The distance to the first zero byte, where there is one in `limit` bytes. -/
def strlen (memory : Memory) (start : Nat) : Nat → Option Nat
  | 0 => none
  | limit + 1 =>
      if memory start = 0 then some 0
      else (strlen memory (start + 1) limit).map (· + 1)

/-- The length is the distance to the first zero. -/
theorem strlen_eq_some_iff {limit count : Nat} :
    memory.strlen start limit = some count ↔
      count < limit ∧ memory (start + count) = 0 ∧
        ∀ offset < count, memory (start + offset) ≠ 0 := by
  induction limit generalizing start count with
  | zero => simp [strlen]
  | succ limit induction =>
      rw [strlen]
      by_cases zero : memory start = 0
      · rw [if_pos zero]
        constructor
        · rintro ⟨⟩
          exact ⟨Nat.succ_pos _, zero, fun _ none => absurd none (by omega)⟩
        · rintro ⟨-, -, nonzero⟩
          by_contra differ
          have positive : 0 < count := by
            apply Nat.pos_of_ne_zero
            intro same
            exact differ (congrArg some same.symm)
          exact nonzero 0 positive zero
      · rw [if_neg zero, Option.map_eq_some_iff]
        constructor
        · rintro ⟨rest, later, rfl⟩
          obtain ⟨inside, ended, nonzero⟩ := induction.mp later
          rw [Nat.add_right_comm, Nat.add_assoc] at ended
          refine ⟨Nat.succ_lt_succ inside, ended, ?_⟩
          intro offset before
          cases offset with
          | zero => exact zero
          | succ offset =>
              have byte := nonzero offset (Nat.lt_of_succ_lt_succ before)
              rwa [Nat.add_right_comm, Nat.add_assoc] at byte
        · rintro ⟨inside, ended, nonzero⟩
          cases count with
          | zero => exact absurd ended zero
          | succ count =>
              refine ⟨count, induction.mpr ⟨Nat.lt_of_succ_lt_succ inside, ?_,
                ?_⟩, rfl⟩
              · rwa [Nat.add_right_comm, Nat.add_assoc]
              · intro offset before
                rw [Nat.add_right_comm, Nat.add_assoc]
                exact nonzero (offset + 1) (Nat.succ_lt_succ before)

theorem strlen_congr {other : Memory} {limit count : Nat}
    (found : memory.strlen start limit = some count)
    (same : ∀ offset ≤ count,
      other (start + offset) = memory (start + offset)) :
    other.strlen start limit = some count := by
  obtain ⟨inside, ended, nonzero⟩ := strlen_eq_some_iff.mp found
  refine strlen_eq_some_iff.mpr ⟨inside, ?_, ?_⟩
  · rw [same count (Nat.le_refl _)]
    exact ended
  · intro offset before
    rw [same offset (Nat.le_of_lt before)]
    exact nonzero offset before

theorem strlen_of_bytes {limit : Nat} {string : List UInt8}
    (held : memory.bytes start string.length = string)
    (nonzero : ∀ byte ∈ string, byte ≠ 0)
    (ended : memory (start + string.length) = 0)
    (room : string.length < limit) :
    memory.strlen start limit = some string.length := by
  refine strlen_eq_some_iff.mpr ⟨room, ended, ?_⟩
  intro offset inside
  rw [eq_getD_of_bytes held inside, List.getD,
    List.getElem?_eq_getElem inside]
  exact nonzero _ (List.getElem_mem inside)

/-- The bytes of a list from address 0 on, and zeros behind them. -/
def ofList (list : List UInt8) : Memory :=
  fun address => list.getD address 0

theorem storeList_ofList {list : List UInt8} (inside : address < list.length) :
    memory.storeList 0 list address = ofList list address :=
  store_inside (Nat.zero_le _) (by omega)

end Memory

/-- A pointer that moves on until it is told to stop, `room` places at most. -/
def scan (stop : Nat → Bool) (pointer : Nat) : Nat → Option Nat
  | 0 => none
  | room + 1 =>
      if stop pointer then some pointer else scan stop (pointer + 1) room

/-- The pointer stops at the first place where it may. -/
theorem scan_eq_some_iff {stop : Nat → Bool} {pointer room place : Nat} :
    scan stop pointer room = some place ↔
      pointer ≤ place ∧ place < pointer + room ∧ stop place = true ∧
        ∀ earlier, pointer ≤ earlier → earlier < place →
          stop earlier = false := by
  induction room generalizing pointer with
  | zero =>
      rw [scan]
      constructor
      · intro found
        cases found
      · rintro ⟨above, below, -⟩
        omega
  | succ room induction =>
      rw [scan]
      by_cases here : stop pointer = true
      · rw [if_pos here]
        constructor
        · rintro ⟨⟩
          exact ⟨Nat.le_refl _, by omega, here, fun _ _ _ => by omega⟩
        · rintro ⟨above, -, -, first⟩
          by_contra differ
          have later : pointer < place := by
            apply Nat.lt_of_le_of_ne above
            intro same
            exact differ (congrArg some same)
          rw [first pointer (Nat.le_refl _) later] at here
          cases here
      · rw [if_neg here, induction]
        constructor
        · rintro ⟨above, below, found, first⟩
          refine ⟨by omega, by omega, found, ?_⟩
          intro earlier atLeast before
          by_cases same : earlier = pointer
          · rw [same]
            exact Bool.eq_false_iff.mpr here
          · exact first earlier (by omega) before
        · rintro ⟨above, below, found, first⟩
          have later : pointer ≠ place := by
            intro same
            exact here (same ▸ found)
          exact ⟨by omega, by omega, found,
            fun earlier atLeast before => first earlier (by omega) before⟩

/-- The number in two bytes, most significant first. -/
def be16 (high low : UInt8) : Nat :=
  high.toNat * 256 + low.toNat

/-- The number in four bytes, most significant first. -/
def be32 (first second third fourth : UInt8) : Nat :=
  be16 first second * 65536 + be16 third fourth

/-- The number in two bytes, least significant first. -/
def le16 (low high : UInt8) : Nat :=
  be16 high low

/-- The number in four bytes, least significant first. -/
def le32 (first second third fourth : UInt8) : Nat :=
  be32 fourth third second first

/-- The four bytes of a 32-bit number, least significant first. -/
def le32Bytes (value : Nat) : List UInt8 :=
  [.ofNat value, .ofNat (value / 256), .ofNat (value / 65536),
    .ofNat (value / 16777216)]

/-- The two bytes of a 16-bit number, least significant first. -/
def le16Bytes (value : Nat) : List UInt8 :=
  [.ofNat value, .ofNat (value / 256)]

/-- The two bytes of a 16-bit number, most significant first. -/
def be16Bytes (value : Nat) : List UInt8 :=
  [.ofNat (value / 256), .ofNat value]

/-- Reverse the four bytes of a 32-bit number. -/
def byteSwap32 (value : Nat) : Nat :=
  value % 256 * 16777216 + value / 256 % 256 * 65536 +
    value / 65536 % 256 * 256 + value / 16777216 % 256

theorem be16_lt (high low : UInt8) : be16 high low < 65536 := by
  have highBound := high.toNat_lt
  have lowBound := low.toNat_lt
  unfold be16
  omega

theorem be32_lt (first second third fourth : UInt8) :
    be32 first second third fourth < 4294967296 := by
  have highBound := be16_lt first second
  have lowBound := be16_lt third fourth
  unfold be32
  omega

theorem be16_bytes {value : Nat} (bound : value < 65536) :
    be16 (.ofNat (value / 256)) (.ofNat value) = value := by
  simp only [be16, UInt8.toNat_ofNat']
  omega

theorem le16_bytes {value : Nat} (bound : value < 65536) :
    le16 (.ofNat value) (.ofNat (value / 256)) = value :=
  be16_bytes bound

theorem le32_bytes {value : Nat} (bound : value < 4294967296) :
    le32 (.ofNat value) (.ofNat (value / 256)) (.ofNat (value / 65536))
      (.ofNat (value / 16777216)) = value := by
  simp only [le32, be32, be16, UInt8.toNat_ofNat']
  omega

/-- The value a 32-bit unsigned object holds after storing `value` in it. -/
@[irreducible] def wrap32 (value : Nat) : Nat :=
  value % 4294967296

theorem wrap32_of_lt {value : Nat} (bound : value < 4294967296) :
    wrap32 value = value := by
  unfold wrap32
  exact Nat.mod_eq_of_lt bound

/-- Unsigned 32-bit subtraction of 32-bit operands. -/
def sub32 (left right : Nat) : Nat :=
  wrap32 (left + 4294967296 - right)

theorem sub32_of_le {left right : Nat} (ordered : right ≤ left)
    (bound : left < 4294967296) : sub32 left right = left - right := by
  unfold sub32 wrap32
  omega

end KernelDrivers.Library
