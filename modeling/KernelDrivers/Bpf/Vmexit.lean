import Mathlib.Data.List.AList
import Mathlib.Data.List.Chain
import Mathlib.Data.List.Dedup

/-!
# Counting the exits of virtual machines

`vmexit_kern.c` counts the events of each process in a map, and
`vmexit_user.c` goes through the keys of that map and prints the counts.
-/

namespace KernelDrivers.Bpf

/-- `max_entries`. -/
abbrev maxEntries : Nat := 1000

abbrev MyMap := AList fun _ : Int => BitVec 32

/-- `-E2BIG`. -/
abbrev e2big : Int := -7

/-- `bpf_map_update_elem` with `BPF_ANY`. -/
def mapUpdateElem (map : MyMap) (key : Int) (value : BitVec 32) :
    Int × MyMap :=
  if key ∈ map ∨ map.keys.length < maxEntries then (0, map.insert key value)
  else (e2big, map)

/-- `bpf_map_get_next_key`: the key after this one in the order of the map, or
the first one if the map does not have this key. -/
def mapGetNextKey (order : List Int) (key : Int) : Option Int :=
  if key ∈ order then order[order.idxOf key + 1]? else order.head?

/-- One event.  The value is incremented in the map itself. -/
def mybpfprog (map : MyMap) (pid : Int) : MyMap :=
  match map.lookup pid with
  | some value =>
      let map := map.insert pid (value + 1)
      (mapUpdateElem map pid (value + 1)).2
  | none => (mapUpdateElem map pid 0).2

def runEvents (pids : List Int) : MyMap :=
  pids.foldl mybpfprog ∅

/-- The inner loop of `main`, with what it prints.  A lookup that fails leaves
`cur` as it is. -/
def iterateAll (map : MyMap) (order : List Int) :
    Nat → Int → BitVec 32 → Option (List (Int × BitVec 32))
  | 0, _, _ => none
  | fuel + 1, lookupKey, cur =>
      match mapGetNextKey order lookupKey with
      | none => some []
      | some nextKey =>
          let cur := (map.lookup lookupKey).getD cur
          (iterateAll map order fuel nextKey cur).map ((nextKey, cur) :: ·)

/-- What the map holds after these events: nothing for the first event of a
process, and one for each further event. -/
def counted (pids : List Int) (pid : Int) : Option (BitVec 32) :=
  if pid ∈ pids then some (BitVec.ofNat 32 (pids.count pid - 1)) else none

theorem runEvents_snoc (pids : List Int) (pid : Int) :
    runEvents (pids ++ [pid]) = mybpfprog (runEvents pids) pid := by
  rw [runEvents, List.foldl_append]
  rfl

theorem mybpfprog_lookup (map : MyMap) (pid : Int)
    (room : pid ∈ map ∨ map.keys.length < maxEntries) (other : Int) :
    (mybpfprog map pid).lookup other =
      if other = pid then some (((map.lookup pid).map (· + 1)).getD 0)
      else map.lookup other := by
  have insert : ∀ (map : MyMap) value, (map.insert pid value).lookup other =
      if other = pid then some value else map.lookup other := by
    intro map value
    by_cases same : other = pid
    · rw [same, AList.lookup_insert, if_pos rfl]
    · rw [AList.lookup_insert_ne same, if_neg same]
  rw [mybpfprog]
  cases known : map.lookup pid with
  | some value =>
      have member : pid ∈ map.insert pid (value + 1) := by
        rw [AList.mem_insert]
        exact .inl rfl
      dsimp only
      rw [mapUpdateElem, if_pos (.inl member), insert, insert]
      split <;> rfl
  | none =>
      dsimp only
      rw [mapUpdateElem, if_pos room, insert]
      rfl

theorem counted_snoc (pids : List Int) (pid other : Int) :
    counted (pids ++ [pid]) other =
      if other = pid then some (((counted pids pid).map (· + 1)).getD 0)
      else counted pids other := by
  by_cases same : other = pid
  · subst same
    have last : other ∈ pids ++ [other] := by simp
    have more : (pids ++ [other]).count other = pids.count other + 1 := by simp
    rw [counted, if_pos last, if_pos rfl, more, Nat.add_sub_cancel, counted]
    split
    · rename_i known
      obtain ⟨before, isCount⟩ := Nat.exists_eq_add_of_lt
        (List.count_pos_iff.mpr known)
      simp [isCount, BitVec.ofNat_add]
    · rename_i unknown
      rw [List.count_eq_zero_of_not_mem unknown]
      rfl
  · have member : other ∈ pids ++ [pid] ↔ other ∈ pids := by simp [same]
    have count : (pids ++ [pid]).count other = pids.count other := by
      have different : pid ≠ other := fun equal => same equal.symm
      simp [different]
    rw [if_neg same]
    simp only [counted, member, count]

theorem length_le_dedup {distinct pids : List Int} (once : distinct.Nodup)
    (inside : ∀ pid ∈ distinct, pid ∈ pids) :
    distinct.length ≤ pids.dedup.length := by
  apply List.Subperm.length_le
  apply List.subperm_of_subset once
  intro pid member
  exact List.mem_dedup.mpr (inside pid member)

theorem mem_of_counted {map : MyMap} {pids : List Int}
    (holds : ∀ pid, map.lookup pid = counted pids pid) (pid : Int) :
    pid ∈ map ↔ pid ∈ pids := by
  rw [← AList.lookup_isSome, holds, counted]
  by_cases known : pid ∈ pids <;> simp [known]

/-- With room for all processes the map has the counts. -/
theorem runEvents_counted {pids : List Int}
    (few : pids.dedup.length ≤ maxEntries) (pid : Int) :
    (runEvents pids).lookup pid = counted pids pid := by
  induction pids using List.reverseRecOn generalizing pid with
  | nil => rfl
  | append_singleton pids last induction =>
      have before : pids.dedup.length ≤ maxEntries := by
        apply Nat.le_trans _ few
        apply length_le_dedup (List.nodup_dedup pids)
        intro pid member
        exact List.mem_append_left _ (List.mem_dedup.mp member)
      have holds := induction before
      have room : last ∈ runEvents pids ∨
          (runEvents pids).keys.length < maxEntries := by
        rw [mem_of_counted holds]
        by_cases known : last ∈ pids
        · exact .inl known
        · right
          apply Nat.lt_of_lt_of_le _ few
          have fresh : last ∉ (runEvents pids).keys := by
            rw [← AList.mem_keys, mem_of_counted holds]
            exact known
          apply length_le_dedup
            (List.nodup_cons.mpr ⟨fresh, AList.keys_nodup _⟩)
          intro pid member
          rcases List.mem_cons.mp member with rfl | old
          · simp
          · rw [← AList.mem_keys, mem_of_counted holds] at old
            exact List.mem_append_left _ old
      rw [runEvents_snoc, mybpfprog_lookup _ _ room, counted_snoc, holds last,
        holds pid]

/-- The value that is found for a key of the map. -/
def valueOf (map : MyMap) (key : Int) : BitVec 32 :=
  (map.lookup key).getD 0

theorem mapGetNextKey_at {order : List Int} (once : order.Nodup) {index : Nat}
    (inside : index < order.length) :
    mapGetNextKey order order[index] = order[index + 1]? := by
  rw [mapGetNextKey, if_pos (List.getElem_mem inside),
    once.idxOf_getElem index inside]

/-- From a key on, each key is printed with the value of the one before it. -/
theorem iterateAll_from (map : MyMap) {order : List Int} (once : order.Nodup)
    (known : ∀ key ∈ order, key ∈ map) {index : Nat}
    (inside : index < order.length) (fuel : Nat)
    (enough : order.length ≤ index + fuel) (cur : BitVec 32) :
    iterateAll map order fuel order[index] cur =
      some ((order.drop (index + 1)).zip
        ((order.drop index).map (valueOf map))) := by
  induction fuel generalizing index cur with
  | zero => omega
  | succ fuel induction =>
      rw [iterateAll, mapGetNextKey_at once inside]
      by_cases more : index + 1 < order.length
      · have found := AList.lookup_isSome.mpr
          (known _ (List.getElem_mem inside))
        have value : ∀ cur, (map.lookup order[index]).getD cur =
            valueOf map order[index] := by
          intro cur
          obtain ⟨value, isValue⟩ := Option.isSome_iff_exists.mp found
          rw [valueOf, isValue]
          rfl
        rw [List.getElem?_eq_getElem more]
        dsimp only
        rw [induction more (by omega), Option.map_some, value,
          List.drop_eq_getElem_cons inside, List.drop_eq_getElem_cons more,
          List.map_cons, List.map_cons, List.map_cons, List.zip_cons_cons]
      · rw [List.getElem?_eq_none (by omega),
          List.drop_eq_nil_of_le (by omega)]
        rfl

/-- What the loop prints: the first key with what `cur` was, and each other key
with the value of the one before it. -/
theorem iterateAll_start (map : MyMap) {order : List Int} (once : order.Nodup)
    (known : ∀ key ∈ order, key ∈ map) (absent : -1 ∉ map)
    (foreign : -1 ∉ order) (fuel : Nat) (enough : order.length < fuel)
    (cur : BitVec 32) :
    iterateAll map order fuel (-1) cur =
      some (order.zip (cur :: order.map (valueOf map))) := by
  cases fuel with
  | zero => omega
  | succ fuel =>
      have unfound := AList.lookup_eq_none.mpr absent
      rw [iterateAll, mapGetNextKey, if_neg foreign]
      cases order with
      | nil => rfl
      | cons first rest =>
          have inside : 0 < (first :: rest).length := by simp
          have later := iterateAll_from map once known inside fuel
            (by omega) cur
          rw [List.getElem_cons_zero] at later
          dsimp only [List.head?_cons]
          rw [unfound, Option.getD_none, later]
          rfl

/-- Every process with an event is printed once, with the number of its
events. -/
structure Exact (pids : List Int) (printed : List (Int × BitVec 32)) :
    Prop where
  once : (printed.map Prod.fst).Nodup
  all : ∀ pid, pid ∈ printed.map Prod.fst ↔ pid ∈ pids
  counts : ∀ entry ∈ printed, entry.2.toInt = pids.count entry.1

/-- `cur` starts as the count of the first process, and each process in the
order of the map has one event more than the next one, as a 32-bit value. -/
def CountsDescend (pids order : List Int) (cur : BitVec 32) : Prop :=
  (∀ first, order.head? = some first → cur.toInt = pids.count first) ∧
    order.IsChain fun previous next =>
      (BitVec.ofNat 32 (pids.count previous - 1)).toInt = pids.count next

theorem zip_shifted_iff {relation : Int → BitVec 32 → Prop}
    {value : Int → BitVec 32} (first : Int) (rest : List Int) :
    (∀ entry ∈ rest.zip ((first :: rest).map value),
        relation entry.1 entry.2) ↔
      (first :: rest).IsChain fun previous next =>
        relation next (value previous) := by
  induction rest generalizing first with
  | nil => simp
  | cons next rest induction =>
      rw [List.map_cons, List.zip_cons_cons, List.forall_mem_cons,
        induction next, List.isChain_cons_cons]

theorem counts_iff {map : MyMap} {pids order : List Int}
    (holds : ∀ pid, map.lookup pid = counted pids pid)
    (known : ∀ key ∈ order, key ∈ pids) (cur : BitVec 32) :
    (∀ entry ∈ order.zip (cur :: order.map (valueOf map)),
        entry.2.toInt = pids.count entry.1) ↔
      CountsDescend pids order cur := by
  have values : order.map (valueOf map) =
      order.map fun key => BitVec.ofNat 32 (pids.count key - 1) := by
    apply List.map_congr_left
    intro key member
    rw [valueOf, holds, counted, if_pos (known key member)]
    rfl
  rw [values]
  cases order with
  | nil => simp [CountsDescend]
  | cons first rest =>
      have shifted := @zip_shifted_iff
        (fun key value => value.toInt = pids.count key)
        (fun key => BitVec.ofNat 32 (pids.count key - 1)) first rest
      rw [List.zip_cons_cons, List.forall_mem_cons, shifted, CountsDescend]
      simp

/-- The pass over the map always ends and prints every process with an event
once; the counts are right exactly if they happen to descend. -/
theorem vmexit_exact_iff (pids : List Int) (real : ∀ pid ∈ pids, 0 ≤ pid)
    (few : pids.dedup.length ≤ maxEntries) (order : List Int)
    (keys : order.Perm (runEvents pids).keys) (cur : BitVec 32) :
    ∃ printed, (∀ fuel, order.length < fuel →
        iterateAll (runEvents pids) order fuel (-1) cur = some printed) ∧
      printed.map Prod.fst = order ∧
      (Exact pids printed ↔ CountsDescend pids order cur) := by
  have holds := runEvents_counted few
  have once : order.Nodup := keys.nodup_iff.mpr (AList.keys_nodup _)
  have inMap : ∀ key, key ∈ order ↔ key ∈ runEvents pids := by
    intro key
    rw [AList.mem_keys]
    exact keys.mem_iff
  have listed : ∀ key, key ∈ order ↔ key ∈ pids := fun key =>
    (inMap key).trans (mem_of_counted holds key)
  have foreign : -1 ∉ order := by
    intro member
    have negative := real _ ((listed _).mp member)
    omega
  have printed : ((order.zip (cur :: order.map (valueOf (runEvents pids)))).map
      Prod.fst) = order := by
    apply List.map_fst_zip
    simp
  refine ⟨_, ?_, printed, ?_⟩
  · intro fuel enough
    exact iterateAll_start _ once (fun key => (inMap key).mp)
      (mt (inMap _).mpr foreign) foreign fuel enough cur
  · rw [← counts_iff holds (fun key => (listed key).mp) cur]
    constructor
    · intro exact
      exact exact.counts
    · intro counts
      refine ⟨?_, ?_, counts⟩
      · rw [printed]
        exact once
      · rw [printed]
        exact listed

/-- A process with two events before one with one event, and a lucky `cur`. -/
theorem vmexit_exact_lucky :
    ∃ printed, (∀ fuel, [7, 3].length < fuel →
        iterateAll (runEvents [3, 7, 7]) [7, 3] fuel (-1) 2 = some printed) ∧
      printed.map Prod.fst = [7, 3] ∧
      (Exact [3, 7, 7] printed ↔ CountsDescend [3, 7, 7] [7, 3] 2) :=
  vmexit_exact_iff [3, 7, 7] (by decide) (by decide) [7, 3] (by decide) 2

/-- Of two processes with one event each the second is printed with 0. -/
theorem not_vmexit_exact_two :
    iterateAll (runEvents [3, 7]) [3, 7] 3 (-1) 1 = some [(3, 1), (7, 0)] ∧
      ¬Exact [3, 7] [(3, 1), (7, 0)] := by
  refine ⟨by decide, ?_⟩
  intro exact
  exact absurd (exact.counts (7, 0) (by decide)) (by decide)

end KernelDrivers.Bpf
