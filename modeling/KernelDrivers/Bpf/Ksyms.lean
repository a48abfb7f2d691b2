import KernelDrivers.Library.BinarySearch
import Mathlib.Data.List.Basic

/-!
# Kernel symbols

`trace_helpers.c` loads the symbols of the kernel into a static array and
finds the one that an address belongs to.  Differences of addresses are `long`
and are cut to `int` before they are compared.
-/

namespace KernelDrivers.Bpf

open KernelDrivers.Library

/-- `MAX_SYMS`. -/
abbrev maxSyms : Nat := 300000

/-- `struct ksym`. -/
structure Ksym where
  addr : Int
  name : String
  deriving DecidableEq, Repr

/-- The array `syms` and `sym_cnt`. -/
structure Syms where
  syms : Nat → Ksym
  symCnt : Nat

/-- The static variables before anything is loaded. -/
def Syms.zeroed : Syms :=
  { syms := fun _ => ⟨0, ""⟩
    symCnt := 0 }

def Syms.addr (table : Syms) (index : Nat) : Int :=
  (table.syms index).addr

/-- An `int` that a `long` is assigned to. -/
def toInt (value : Int) : Int :=
  value.bmod 4294967296

def ksymCmp (p1 p2 : Ksym) : Int :=
  toInt (p1.addr - p2.addr)

/-- A line of `/proc/kallsyms`, as `sscanf` takes it apart. -/
structure Line where
  addr : Int
  symbol : Char
  func : String
  deriving DecidableEq, Repr

/-- The loop over the lines: `none` is one that does not have three fields. -/
def readSyms : List (Option Line) → List Ksym
  | [] => []
  | none :: _ => []
  | some line :: rest =>
      if line.addr = 0 then readSyms rest
      else ⟨line.addr, line.func⟩ :: readSyms rest

/-- `qsort` with `ksym_cmp`. -/
def qsortSyms (syms : List Ksym) : List Ksym :=
  syms.mergeSort fun p1 p2 => decide (ksymCmp p1 p2 ≤ 0)

abbrev enoent : Int := 2

/-- `load_kallsyms`; `none` is a file that cannot be opened. -/
def loadKallsyms (table : Syms) :
    Option (List (Option Line)) → Int × Syms
  | none => (-enoent, table)
  | some lines =>
      let loaded := readSyms lines
      let sorted := qsortSyms loaded
      (0,
        { syms := fun index => sorted[index]?.getD (table.syms index)
          symCnt := loaded.length })

/-- `result` in the round that looks at `syms[mid]`. -/
def Syms.result (table : Syms) (key : Int) (mid : Nat) : Int :=
  toInt (key - table.addr mid)

/-- `ksym_search`: an index into `syms`, or `none` for `NULL`.  The outer
`none` would be a loop that does not end. -/
def ksymSearch (table : Syms) (key : Int) : Option (Option Nat) :=
  if table.symCnt = 0 then some none
  else
    match BinarySearch.search (table.result key) (table.symCnt + 1) 0
        table.symCnt with
    | none => none
    | some (.hit mid) => some (some mid)
    | some (.gap start) =>
        if 1 ≤ start ∧ table.addr (start - 1) < key ∧ key < table.addr start
        then some (some (start - 1))
        else some (some 0)

/-- The indices of the array that `ksym_search` looks at, in order. -/
def ksymReads (table : Syms) (key : Int) : List Nat :=
  if table.symCnt = 0 then []
  else
    BinarySearch.probes (table.result key) (table.symCnt + 1) 0
        table.symCnt ++
      match BinarySearch.search (table.result key) (table.symCnt + 1) 0
          table.symCnt with
      | some (.gap start) =>
          if 1 ≤ start then
            if table.addr (start - 1) < key then [start - 1, start]
            else [start - 1]
          else []
      | _ => []

def getAddrFrom (table : Syms) (name : String) : Nat → Nat → Int
  | 0, _ => 0
  | rounds + 1, index =>
      if (table.syms index).name = name then table.addr index
      else getAddrFrom table name rounds (index + 1)

/-- `ksym_get_addr`. -/
def ksymGetAddr (table : Syms) (name : String) : Int :=
  getAddrFrom table name table.symCnt 0

section Search

variable {table : Syms} {key : Int}

theorem search_found (table : Syms) (key : Int) :
    ∃ found, BinarySearch.search (table.result key) (table.symCnt + 1) 0
        table.symCnt = some found ∧
      BinarySearch.Sound (table.result key) 0 table.symCnt found := by
  have enough : table.symCnt - 0 < table.symCnt + 1 := Nat.lt_succ_self _
  obtain ⟨found, ended⟩ : ∃ found, BinarySearch.search (table.result key)
      (table.symCnt + 1) 0 table.symCnt = some found :=
    BinarySearch.search_ends enough
  exact ⟨found, ended, BinarySearch.search_sound (Nat.zero_le _) ended⟩

/-- What an answer says in a table that need not be sorted, for a key that
need not be near it. -/
inductive Answers (table : Syms) (key : Int) : Option Nat → Prop where
  | null : table.symCnt = 0 → Answers table key none
  | equal {index : Nat} : index < table.symCnt →
      toInt (key - table.addr index) = 0 → Answers table key (some index)
  | between {index : Nat} : index < table.symCnt →
      table.addr index < key → key < table.addr (index + 1) →
      Answers table key (some index)
  | first : 0 < table.symCnt → Answers table key (some 0)

/-- The read that may lie behind the array: the table is full, and the loop
ends behind its last symbol. -/
def OverrunsAt (table : Syms) (key : Int) : Prop :=
  table.symCnt = maxSyms ∧
    BinarySearch.search (table.result key) (table.symCnt + 1) 0
      table.symCnt = some (.gap maxSyms) ∧
    table.addr (maxSyms - 1) < key

/-- The search stays inside the array, but for that one read. -/
theorem ksymReads_inside (fits : table.symCnt ≤ maxSyms) :
    (∀ index ∈ ksymReads table key, index < maxSyms) ↔
      ¬OverrunsAt table key := by
  obtain ⟨found, ended, sound⟩ := search_found table key
  have probed : ∀ index ∈ BinarySearch.probes (table.result key)
      (table.symCnt + 1) 0 table.symCnt, index < maxSyms := by
    intro index member
    have inside := BinarySearch.probes_inside index member
    exact Nat.lt_of_lt_of_le inside.2 fits
  rw [OverrunsAt, ksymReads, ended]
  by_cases empty : table.symCnt = 0
  · rw [if_pos empty]
    constructor
    · rintro - ⟨full, -⟩
      rw [empty] at full
      cases full
    · intro _ index member
      cases member
  · rw [if_neg empty]
    cases found with
    | hit mid =>
        constructor
        · rintro - ⟨-, behind, -⟩
          cases behind
        · intro _ index member
          rw [List.append_nil] at member
          exact probed index member
    | gap start =>
        have atMost : start ≤ maxSyms := Nat.le_trans sound.inside.2 fits
        constructor
        · rintro inside ⟨-, behind, above⟩
          obtain rfl : start = maxSyms := by
            injection behind with same
            injection same
          have read := inside maxSyms (by
            apply List.mem_append_right
            dsimp only
            rw [if_pos (by decide : 1 ≤ maxSyms), if_pos above]
            simp)
          exact Nat.lt_irrefl _ read
        · intro safe index member
          cases List.mem_append.mp member with
          | inl test => exact probed index test
          | inr tail =>
              by_cases least : 1 ≤ start
              · have previous : start - 1 < maxSyms := by
                  omega
                dsimp only at tail
                rw [if_pos least] at tail
                by_cases above : table.addr (start - 1) < key
                · rw [if_pos above] at tail
                  have notLast : start ≠ maxSyms := by
                    intro last
                    subst last
                    have full : table.symCnt = maxSyms :=
                      Nat.le_antisymm fits sound.inside.2
                    exact safe ⟨full, rfl, above⟩
                  have cases : index = start - 1 ∨ index = start := by
                    simpa using tail
                  omega
                · rw [if_neg above] at tail
                  have only : index = start - 1 := by
                    simpa using tail
                  omega
              · dsimp only at tail
                rw [if_neg least] at tail
                cases tail

/-- A full array, in order. -/
def Syms.full : Syms :=
  { syms := fun index => ⟨index, ""⟩
    symCnt := maxSyms }

theorem ksymReads_inside_full :
    (∀ index ∈ ksymReads .full 7, index < maxSyms) ↔ ¬OverrunsAt .full 7 :=
  ksymReads_inside (Nat.le_refl maxSyms)

/-- For every table and key the search returns.  Its answer is `NULL` exactly
for an empty table, and else a loaded symbol: one that agrees with the key in
32 bits, one with the key between it and the next entry, or the first. -/
theorem ksymSearch_answers (table : Syms) (key : Int) :
    ∃ answer, ksymSearch table key = some answer ∧
      Answers table key answer := by
  obtain ⟨found, ended, sound⟩ := search_found table key
  rw [ksymSearch, ended]
  by_cases empty : table.symCnt = 0
  · exact ⟨none, if_pos empty, .null empty⟩
  · rw [if_neg empty]
    cases found with
    | hit mid =>
        obtain ⟨inside, same⟩ := sound
        exact ⟨some mid, rfl, .equal inside.2 same⟩
    | gap start =>
        dsimp only
        by_cases valid : 1 ≤ start ∧ table.addr (start - 1) < key ∧
            key < table.addr start
        · obtain ⟨some, above, below⟩ := valid
          have next : start - 1 + 1 = start := Nat.sub_add_cancel some
          rw [if_pos ⟨some, above, below⟩]
          refine ⟨_, rfl, .between ?_ above ?_⟩
          · have atMost : start ≤ table.symCnt := sound.inside.2
            omega
          · rw [next]
            exact below
        · rw [if_neg valid]
          exact ⟨_, rfl, .first (Nat.pos_of_ne_zero empty)⟩

end Search

section Loaded

variable {table : Syms} {key : Int} {syms : List Ksym}

/-- The key is so near the symbols that no difference to one is cut. -/
def Near (key : Int) (syms : List Ksym) : Prop :=
  ∀ sym ∈ syms, -2147483648 < key - sym.addr ∧ key - sym.addr < 2147483648

/-- Symbols that fit in the array, and lie so close together that no
difference of theirs is cut. -/
structure Fits (syms : List Ksym) : Prop where
  room : syms.length ≤ maxSyms
  near : ∀ sym ∈ syms, Near sym.addr syms

theorem toInt_of_small {value : Int} (above : -2147483648 < value)
    (below : value < 2147483648) : toInt value = value := by
  apply Int.bmod_eq_of_le_mul_two
  · omega
  · omega

/-- Of addresses that are close together the sort is a sort by address. -/
theorem qsortSyms_pairwise (fits : Fits syms) :
    (qsortSyms syms).Pairwise fun before after => before.addr ≤ after.addr := by
  have same : qsortSyms syms =
      syms.mergeSort fun p1 p2 => decide (p1.addr ≤ p2.addr) := by
    have mapped := List.map_mergeSort
      (r := fun p1 p2 : Ksym => decide (ksymCmp p1 p2 ≤ 0))
      (s := fun p1 p2 : Ksym => decide (p1.addr ≤ p2.addr)) (f := id)
      (l := syms) (by
        intro sym member other member'
        obtain ⟨above, below⟩ := fits.near sym member other member'
        simp only [ksymCmp, toInt_of_small above below, id, decide_eq_decide]
        omega)
    simpa [qsortSyms] using mapped
  have sorted : (syms.mergeSort fun p1 p2 =>
      decide (p1.addr ≤ p2.addr)).Pairwise
      (fun p1 p2 => decide (p1.addr ≤ p2.addr) = true) := by
    apply List.pairwise_mergeSort
    · intro first second third below below'
      simp only [decide_eq_true_eq] at below below' ⊢
      exact Int.le_trans below below'
    · intro first second
      simp only [Bool.or_eq_true, decide_eq_true_eq]
      exact Int.le_total _ _
  rw [same]
  exact sorted.imp of_decide_eq_true

/-- A table as `load_kallsyms` leaves it: its symbols are those of a list, in
the order of their addresses. -/
structure Loaded (syms : List Ksym) (table : Syms) : Prop where
  room : table.symCnt ≤ maxSyms
  member : ∀ index < table.symCnt, table.syms index ∈ syms
  covers : ∀ sym ∈ syms, ∃ index < table.symCnt, table.syms index = sym
  ordered : ∀ low high, low ≤ high → high < table.symCnt →
    table.addr low ≤ table.addr high

theorem loadKallsyms_loaded {lines : List (Option Line)}
    (fits : Fits (readSyms lines)) (table : Syms) :
    Loaded (readSyms lines) (loadKallsyms table (some lines)).2 := by
  have permuted : (qsortSyms (readSyms lines)).Perm (readSyms lines) :=
    List.mergeSort_perm _ _
  have sorted := qsortSyms_pairwise fits
  have count : (loadKallsyms table (some lines)).2.symCnt =
      (qsortSyms (readSyms lines)).length := permuted.length_eq.symm
  have entry : ∀ index (inside : index < (qsortSyms (readSyms lines)).length),
      (loadKallsyms table (some lines)).2.syms index =
        (qsortSyms (readSyms lines))[index] := by
    intro index inside
    simp [loadKallsyms, List.getElem?_eq_getElem inside]
  refine ⟨fits.room, ?_, ?_, ?_⟩
  · intro index inside
    rw [count] at inside
    rw [entry index inside]
    exact permuted.mem_iff.mp (List.getElem_mem inside)
  · intro sym member
    obtain ⟨index, inside, found⟩ :=
      List.mem_iff_getElem.mp (permuted.mem_iff.mpr member)
    refine ⟨index, ?_, ?_⟩
    · rw [count]
      exact inside
    · rw [entry index inside]
      exact found
  · intro low high order inside
    rw [count] at inside
    rw [Syms.addr, Syms.addr, entry low (Nat.lt_of_le_of_lt order inside),
      entry high inside]
    rcases Nat.lt_or_eq_of_le order with before | same
    · exact List.pairwise_iff_getElem.mp sorted low high _ inside before
    · subst same
      exact Int.le_refl _

/-- What a lookup answers: the symbol at the address, or else the last one below
it if some address above it is known, be it that in the entry behind the last
symbol.  It is the first symbol if all lie above the address, and also if all
lie below it and so does the entry behind them. -/
inductive Symbolises (table : Syms) (key : Int) : Option Nat → Prop where
  | null : table.symCnt = 0 → Symbolises table key none
  | exact {index : Nat} : index < table.symCnt → table.addr index = key →
      Symbolises table key (some index)
  | inside {index : Nat} : index < table.symCnt → table.addr index < key →
      (∀ other < table.symCnt, table.addr other ≠ key ∧
        (table.addr other < key → table.addr other ≤ table.addr index)) →
      (∃ above ≤ table.symCnt, key < table.addr above) →
      Symbolises table key (some index)
  | before : 0 < table.symCnt →
      (∀ other < table.symCnt, key < table.addr other) →
      Symbolises table key (some 0)
  | beyond : 0 < table.symCnt →
      (∀ other < table.symCnt, table.addr other < key) →
      table.addr table.symCnt ≤ key → Symbolises table key (some 0)

theorem Loaded.split (loaded : Loaded syms table) (near : Near key syms)
    {start : Nat}
    (sound : BinarySearch.Bracketed (table.result key) 0 table.symCnt start) :
    (∀ index < start, table.addr index < key) ∧
      ∀ index, start ≤ index → index < table.symCnt →
        key < table.addr index := by
  have exact : ∀ index < table.symCnt,
      table.result key index = key - table.addr index := by
    intro index inside
    obtain ⟨above, below⟩ := near _ (loaded.member index inside)
    exact toInt_of_small above below
  have falling : BinarySearch.Falling (table.result key) 0 table.symCnt := by
    intro low high _ order inside
    have below := loaded.ordered low high order inside
    rw [exact low (Nat.lt_of_le_of_lt order inside), exact high inside]
    omega
  obtain ⟨before, behind⟩ := sound.split falling
  constructor
  · intro index below
    have positive := before index (Nat.zero_le _) below
    rw [exact index (Nat.lt_of_lt_of_le below sound.inside.2)] at positive
    omega
  · intro index above inside
    have negative := behind index above inside
    rw [exact index inside] at negative
    omega

theorem Loaded.symbolises (loaded : Loaded syms table)
    (near : Near key syms) :
    ∃ answer, ksymSearch table key = some answer ∧
      Symbolises table key answer := by
  obtain ⟨found, ended, sound⟩ := search_found table key
  rw [ksymSearch, ended]
  by_cases empty : table.symCnt = 0
  · exact ⟨none, if_pos empty, .null empty⟩
  · rw [if_neg empty]
    cases found with
    | hit mid =>
        obtain ⟨⟨-, inside⟩, same⟩ := sound
        obtain ⟨above, below⟩ := near _ (loaded.member mid inside)
        have equal : key - table.addr mid = 0 :=
          (toInt_of_small above below).symm.trans same
        exact ⟨some mid, rfl, .exact inside (by omega)⟩
    | gap start =>
        obtain ⟨before, behind⟩ := loaded.split near sound
        have atMost : start ≤ table.symCnt := sound.inside.2
        dsimp only
        by_cases valid : 1 ≤ start ∧ table.addr (start - 1) < key ∧
            key < table.addr start
        · obtain ⟨some, above, below⟩ := valid
          rw [if_pos ⟨some, above, below⟩]
          refine ⟨_, rfl, .inside (by omega) above ?_ ⟨start, atMost, below⟩⟩
          intro other inside
          by_cases earlier : other < start
          · have less := before other earlier
            refine ⟨Int.ne_of_lt less, fun _ => ?_⟩
            exact loaded.ordered other (start - 1) (by omega) (by omega)
          · have greater := behind other (Nat.le_of_not_lt earlier) inside
            exact ⟨Int.ne_of_gt greater, fun less => by omega⟩
        · rw [if_neg valid]
          have some := Nat.pos_of_ne_zero empty
          by_cases least : start = 0
          · refine ⟨_, rfl, .before some ?_⟩
            intro other inside
            exact behind other (by omega) inside
          · have previous := before (start - 1) (by omega)
            have notBelow : ¬key < table.addr start :=
              fun below => valid ⟨by omega, previous, below⟩
            have last : start = table.symCnt := by
              apply Nat.le_antisymm atMost
              apply Nat.le_of_not_lt
              intro inside
              exact notBelow (behind start (Nat.le_refl _) inside)
            subst last
            exact ⟨_, rfl, .beyond some before (Int.not_lt.mp notBelow)⟩

/-- After the symbols have been loaded, every address between two of them is
attributed to the symbol it belongs to, as long as all addresses lie within
2 GiB. -/
theorem ksymSearch_loaded (table : Syms) {lines : List (Option Line)}
    (fits : Fits (readSyms lines)) (near : Near key (readSyms lines)) :
    ∃ answer,
      ksymSearch (loadKallsyms table (some lines)).2 key = some answer ∧
        Symbolises (loadKallsyms table (some lines)).2 key answer :=
  (loadKallsyms_loaded fits table).symbolises near

/-- `_stext`, `do_exit` and `schedule`, not in order. -/
def threeLines : List (Option Line) :=
  [some ⟨-4096, 'T', "_stext"⟩, some ⟨-1024, 't', "do_exit"⟩,
    some ⟨-2048, 'T', "schedule"⟩]

theorem threeLines_fit : Fits (readSyms threeLines) where
  room := by decide
  near := by
    unfold Near
    decide

theorem ksymSearch_loaded_three :
    ∃ answer,
      ksymSearch (loadKallsyms .zeroed (some threeLines)).2 (-2000) =
        some answer ∧
      Symbolises (loadKallsyms .zeroed (some threeLines)).2 (-2000) answer :=
  ksymSearch_loaded .zeroed threeLines_fit (by
    unfold Near
    decide)

theorem getAddrFrom_found {name : String} {rounds index : Nat}
    (known : ∃ offset < rounds, (table.syms (index + offset)).name = name) :
    ∃ offset < rounds, (table.syms (index + offset)).name = name ∧
      getAddrFrom table name rounds index = table.addr (index + offset) := by
  induction rounds generalizing index with
  | zero =>
      obtain ⟨offset, inside, -⟩ := known
      cases inside
  | succ rounds induction =>
      rw [getAddrFrom]
      by_cases here : (table.syms index).name = name
      · rw [if_pos here]
        exact ⟨0, Nat.succ_pos _, here, rfl⟩
      · rw [if_neg here]
        have later : ∃ offset < rounds,
            (table.syms (index + 1 + offset)).name = name := by
          obtain ⟨offset, inside, found⟩ := known
          cases offset with
          | zero => exact absurd found here
          | succ offset =>
              refine ⟨offset, Nat.lt_of_succ_lt_succ inside, ?_⟩
              rw [Nat.add_right_comm]
              exact found
        obtain ⟨offset, inside, found, address⟩ := induction later
        rw [Nat.add_right_comm] at found address
        exact ⟨offset + 1, Nat.succ_lt_succ inside, found, address⟩

/-- The symbol found at the address of a name has that address. -/
theorem ksymSearch_ksymGetAddr (table : Syms) {lines : List (Option Line)}
    {name : String} (fits : Fits (readSyms lines))
    (known : ∃ sym ∈ readSyms lines, sym.name = name) :
    ∃ index, ksymSearch (loadKallsyms table (some lines)).2
        (ksymGetAddr (loadKallsyms table (some lines)).2 name) =
          some (some index) ∧
      index < (loadKallsyms table (some lines)).2.symCnt ∧
      (loadKallsyms table (some lines)).2.addr index =
        ksymGetAddr (loadKallsyms table (some lines)).2 name := by
  obtain ⟨sym, member, named⟩ := known
  have loaded := loadKallsyms_loaded fits table
  generalize (loadKallsyms table (some lines)).2 = table at loaded ⊢
  obtain ⟨place, inside, found⟩ := loaded.covers sym member
  have listed : ∃ offset < table.symCnt,
      (table.syms (0 + offset)).name = name :=
    ⟨place, inside, by rw [Nat.zero_add, found, named]⟩
  obtain ⟨offset, below, -, address⟩ := getAddrFrom_found listed
  rw [Nat.zero_add] at address
  have key : ksymGetAddr table name = table.addr offset := address
  obtain ⟨answer, ended, symbolises⟩ := loaded.symbolises
    (fits.near _ (loaded.member offset below))
  have key' : (table.syms offset).addr = table.addr offset := rfl
  rw [key'] at ended symbolises
  rw [key]
  cases symbolises with
  | null empty =>
      rw [empty] at below
      cases below
  | exact inside same => exact ⟨_, ended, inside, same⟩
  | inside _ _ apart _ => exact absurd rfl (apart offset below).1
  | before _ above => exact absurd (above offset below) (Int.lt_irrefl _)
  | beyond _ less _ => exact absurd (less offset below) (Int.lt_irrefl _)

theorem ksymSearch_ksymGetAddr_schedule :
    ∃ index, ksymSearch (loadKallsyms .zeroed (some threeLines)).2
        (ksymGetAddr (loadKallsyms .zeroed (some threeLines)).2 "schedule") =
          some (some index) ∧
      index < (loadKallsyms .zeroed (some threeLines)).2.symCnt ∧
      (loadKallsyms .zeroed (some threeLines)).2.addr index =
        ksymGetAddr (loadKallsyms .zeroed (some threeLines)).2 "schedule" :=
  ksymSearch_ksymGetAddr .zeroed threeLines_fit ⟨⟨-2048, "schedule"⟩, by decide⟩

end Loaded

end KernelDrivers.Bpf
