import KernelDrivers.Library.Memory

/-!
# The address of the name server

`get_dns_name` reads the front of `/etc/resolv.conf` into a static buffer and
scans it with pointers that are never compared with the end.
-/

namespace KernelDrivers.Xconnect

open KernelDrivers.Library

/-- `sizeof(buf)`. -/
abbrev sizeofBuf : Nat := 1024

/-- `"nameserver"`. -/
abbrev nameserver : List UInt8 :=
  [110, 97, 109, 101, 115, 101, 114, 118, 101, 114]

def isdigit (c : UInt8) : Bool :=
  decide (48 ≤ c) && decide (c ≤ 57)

/-- `isdigit(c) || c == '.'`. -/
def inToken (c : UInt8) : Bool :=
  isdigit c || decide (c = 46)

/-- What `read` has put at the front of `buf`: none of the file where it
returned an error. -/
def filled (file : List UInt8) (result : Int) : List UInt8 :=
  (file.take 1020).take result.toNat

/-- The place of the string in `buf`.  It is also `none` where `strstr` returns
`NULL`: the caller moves on from there and reads. -/
def strstr (buf : Memory) (string : List UInt8) : Option Nat :=
  (scan (fun place => decide (buf.bytes place string.length = string) ||
      decide (buf place = 0)) 0 sizeofBuf).filter
    fun place => decide (buf.bytes place string.length = string)

/-- The buffer and `pdns` when `get_dns_name` returns, and the addresses that it
has looked at and stored to. -/
structure Lookup where
  buf : Memory
  pdns : Nat
  examined : List Nat
  modified : List Nat

/-- The `NUL` is stored at the first byte behind the digits and dots. -/
def getDnsName (buf : Memory) (file : List UInt8) (result : Int) :
    Option Lookup :=
  let buf := buf.storeList 0 (filled file result)
  (strstr buf nameserver).bind fun found =>
    let pstr := found + nameserver.length
    (scan (fun place => isdigit (buf place)) pstr (sizeofBuf - pstr)).bind
      fun pdns =>
        (scan (fun place => !inToken (buf place)) pdns
          (sizeofBuf - pdns)).map fun last =>
            { buf := buf.storeList last [0]
              pdns
              examined := List.range' 0 pstr ++
                List.range' pstr (pdns + 1 - pstr) ++
                List.range' pdns (last + 1 - pdns)
              modified := [last] }

/-- The string that is returned, which `strcpy` copies. -/
def Lookup.text (lookup : Lookup) : Option (List UInt8) :=
  (lookup.buf.strlen lookup.pdns (sizeofBuf - lookup.pdns)).map fun length =>
    lookup.buf.bytes lookup.pdns length

/-- The digits and dots behind the keyword and its blanks. -/
def tokenOf (line : List UInt8) : Option (List UInt8) :=
  let token := (((line.drop nameserver.length).dropWhile fun c =>
    decide (c = 32) || decide (c = 9)).takeWhile inToken)
  if token.head?.any isdigit then some token else none

/-- The token of the first line that begins with the keyword. -/
def nameserverToken (text : List UInt8) : Option (List UInt8) :=
  ((text.splitOn 10).find? fun line => nameserver.isPrefixOf line).bind tokenOf

/-- `get_dns_name`, which has nothing to report, returns the token in less than
the 32 bytes of `dnsip`, and has touched nothing but what was read. -/
def ResolvesSafely (buf : Memory) (file : List UInt8) (result : Int) : Prop :=
  ∃ lookup token, getDnsName buf file result = some lookup ∧
    nameserverToken (filled file result) = some token ∧
    lookup.text = some token ∧ token.length < 32 ∧
    ∀ address ∈ lookup.examined ++ lookup.modified,
      address < (filled file result).length

/-- The first occurrence of the keyword, with no NUL before it, the first digit
behind it, and the end of the digits and dots there. -/
structure Places (text : Memory) (found pdns last : Nat) : Prop where
  keyword : text.bytes found nameserver.length = nameserver
  first : ∀ place < found,
    text.bytes place nameserver.length ≠ nameserver ∧ text place ≠ 0
  behind : found + nameserver.length ≤ pdns
  digit : isdigit (text pdns) = true
  gap : ∀ place, found + nameserver.length ≤ place → place < pdns →
    isdigit (text place) = false
  after : pdns ≤ last
  ended : inToken (text last) = false
  token : ∀ place, pdns ≤ place → place < last → inToken (text place) = true

/-- The bytes that were read are scanned inside, and what the scan comes to is
the token of the first line that has one. -/
def ResolvCondition (text : List UInt8) : Prop :=
  ∃ found pdns last, Places (.ofList text) found pdns last ∧
    last < text.length ∧
    nameserverToken text =
      some ((Memory.ofList text).bytes pdns (last - pdns)) ∧
    last - pdns < 32

section Places

variable {buf text : Memory} {found pdns last : Nat}

theorem Places.congr (places : Places buf found pdns last)
    (same : ∀ place ≤ last, text place = buf place) :
    Places text found pdns last := by
  have behind := places.behind
  have after := places.after
  have size : nameserver.length = 10 := rfl
  have bytes : ∀ place ≤ found, text.bytes place nameserver.length =
      buf.bytes place nameserver.length := by
    intro place before
    apply Memory.bytes_congr
    intro offset inside
    exact same _ (by omega)
  refine ⟨?_, ?_, behind, ?_, ?_, after, ?_, ?_⟩
  · rw [bytes found (Nat.le_refl _)]
    exact places.keyword
  · intro place before
    rw [bytes place (Nat.le_of_lt before), same place (by omega)]
    exact places.first place before
  · rw [same pdns after]
    exact places.digit
  · intro place lower upper
    rw [same place (by omega)]
    exact places.gap place lower upper
  · rw [same last (Nat.le_refl _)]
    exact places.ended
  · intro place lower upper
    rw [same place (by omega)]
    exact places.token place lower upper

theorem strstr_eq_some_iff {string : List UInt8} :
    strstr buf string = some found ↔
      found < sizeofBuf ∧ buf.bytes found string.length = string ∧
        ∀ place < found,
          buf.bytes place string.length ≠ string ∧ buf place ≠ 0 := by
  unfold strstr
  rw [Option.filter_eq_some_iff, scan_eq_some_iff]
  simp only [Nat.zero_le, true_and, Nat.zero_add, Bool.or_eq_true,
    Bool.or_eq_false_iff, decide_eq_true_eq, decide_eq_false_iff_not,
    true_implies]
  constructor
  · rintro ⟨⟨inside, -, first⟩, keyword⟩
    exact ⟨inside, keyword, first⟩
  · rintro ⟨inside, keyword, first⟩
    exact ⟨⟨inside, .inl keyword, first⟩, keyword⟩

/-- What the three loops come to, and what they have touched: everything up to
the `NUL`. -/
theorem getDnsName_eq_some_iff {file : List UInt8} {result : Int}
    {lookup : Lookup} :
    getDnsName buf file result = some lookup ↔
      ∃ found pdns last,
        Places (buf.storeList 0 (filled file result)) found pdns last ∧
          last < sizeofBuf ∧
          lookup =
            { buf := (buf.storeList 0 (filled file result)).storeList last [0]
              pdns
              examined := List.range' 0 (found + nameserver.length) ++
                List.range' (found + nameserver.length)
                  (pdns + 1 - (found + nameserver.length)) ++
                List.range' pdns (last + 1 - pdns)
              modified := [last] } := by
  unfold getDnsName
  generalize buf.storeList 0 (filled file result) = text
  have size : nameserver.length = 10 := rfl
  simp only [Option.bind_eq_some_iff, Option.map_eq_some_iff,
    scan_eq_some_iff, strstr_eq_some_iff]
  constructor
  · rintro ⟨found, ⟨-, keyword, first⟩, pdns, ⟨behind, inside, digit, gap⟩, last,
      ⟨after, room, ended, token⟩, rfl⟩
    refine ⟨found, pdns, last, ⟨keyword, first, behind, digit, gap, after, ?_,
      ?_⟩, by omega, rfl⟩
    · simpa using ended
    · intro place lower upper
      simpa using token place lower upper
  · rintro ⟨found, pdns, last, places, room, rfl⟩
    have behind := places.behind
    have after := places.after
    refine ⟨found, ⟨by omega, places.keyword, places.first⟩, pdns,
      ⟨behind, by omega, places.digit, places.gap⟩, last,
      ⟨after, by omega, ?_, ?_⟩, rfl⟩
    · simpa using places.ended
    · intro place lower upper
      simpa using places.token place lower upper

theorem inToken_ne_zero {c : UInt8} (token : inToken c = true) : c ≠ 0 := by
  intro zero
  rw [zero] at token
  exact absurd token (by decide)

/-- The string that is returned ends at the `NUL` that was stored. -/
theorem Places.returned (places : Places buf found pdns last)
    (room : last < sizeofBuf) (examined : List Nat) :
    Lookup.text ⟨buf.storeList last [0], pdns, examined, [last]⟩ =
      some (buf.bytes pdns (last - pdns)) := by
  have after := places.after
  have kept : ∀ offset < last - pdns,
      buf.storeList last [0] (pdns + offset) = buf (pdns + offset) := by
    intro offset inside
    exact Memory.storeList_outside (.inl (by omega))
  have length : (buf.storeList last [0]).strlen pdns (sizeofBuf - pdns) =
      some (last - pdns) := by
    refine Memory.strlen_eq_some_iff.mpr ⟨by omega, ?_, ?_⟩
    · rw [Nat.add_sub_cancel' after]
      exact @Memory.storeList_inside buf last [0] 0 (Nat.succ_pos 0)
    · intro offset inside
      rw [kept offset inside]
      exact inToken_ne_zero (places.token _ (by omega) (by omega))
  rw [Lookup.text, length, Option.map_some]
  exact congrArg some (Memory.bytes_congr kept)

end Places

theorem length_filled (file : List UInt8) (result : Int) :
    (filled file result).length ≤ 1020 := by
  unfold filled
  rw [List.length_take, List.length_take]
  omega

/-- Inside the text that was read it does not matter what lay in the buffer. -/
theorem storeList_filled (buf : Memory) {file : List UInt8} {result : Int}
    {last : Nat} (inside : last < (filled file result).length) :
    ∀ place ≤ last, buf.storeList 0 (filled file result) place =
      Memory.ofList (filled file result) place := by
  intro place before
  exact Memory.storeList_ofList (by omega)

theorem ResolvCondition.resolvesSafely (buf : Memory) {file : List UInt8}
    {result : Int} (resolves : ResolvCondition (filled file result)) :
    ResolvesSafely buf file result := by
  obtain ⟨found, pdns, last, places, inside, asked, fits⟩ := resolves
  have short := length_filled file result
  have size : nameserver.length = 10 := rfl
  have behind := places.behind
  have after := places.after
  have room : last < sizeofBuf := by
    simp only [sizeofBuf]
    omega
  have scanned := places.congr (storeList_filled buf inside)
  refine ⟨_, _, getDnsName_eq_some_iff.mpr
    ⟨found, pdns, last, scanned, room, rfl⟩, asked, ?_, ?_, ?_⟩
  · rw [scanned.returned room]
    refine congrArg some (Memory.bytes_congr ?_)
    intro offset small
    exact storeList_filled buf inside _ (by omega)
  · rw [Memory.length_bytes]
    exact fits
  · intro address member
    simp only [List.mem_append, List.mem_range'_1, List.mem_singleton]
      at member
    omega

end KernelDrivers.Xconnect
