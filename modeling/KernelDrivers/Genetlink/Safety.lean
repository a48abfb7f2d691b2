import KernelDrivers.Genetlink.RoundTrip

/-!
# What `genlmsg_dispatch` touches

The two walks with a log of the bytes that they read, the attributes that they
look at and the lengths that they subtract, and the buffers for which all of
that stays inside.
-/

namespace KernelDrivers.Genetlink

open KernelDrivers.Library

/-- An attribute is that of the message at `nlh`. -/
inductive Access where
  | read (address size : Nat)
  | attribute (nlh nla size : Nat)
  | toInt (length : Nat)
  | fromInt (remaining : Int) (step : Nat)
  | fromUnsigned (nlhLen step : Nat)

/-- Bytes are read below `total`, an attribute lies in its message, and no
counter wraps. -/
def Access.Inside (memory : Memory) (total : Nat) : Access → Prop
  | .read address size => address + size ≤ total
  | .attribute nlh nla size => nla + size ≤ nlh + nlmsgLen memory nlh
  | .toInt length => length < 2147483648
  | .fromInt remaining step => -2147483648 ≤ remaining - step
  | .fromUnsigned nlhLen step => step ≤ nlhLen

/-- The accesses of `NLA_OK`, which looks at `nla_len` if there is room for a
header. -/
def nlaTest (nlh nla : Nat) (remaining : Int) : List Access :=
  if 4 ≤ remaining then [.read nla 2, .attribute nlh nla nlaHdrlen] else []

/-- The accesses of an attribute that is taken for one: its type is read. -/
def nlaLook (memory : Memory) (nlh nla : Nat) : List Access :=
  [.attribute nlh nla (nlaLen memory nla), .read (nla + 2) 2]

/-- `walkAttributes` with its accesses. -/
def tracedAttributes (memory : Memory) (wanted : Int) (output : Output)
    (nlh : Nat) : Nat → Nat → Int → Option (Option Output × List Access)
  | 0, _, _ => none
  | fuel + 1, nla, remaining =>
      if nlaOk memory nla remaining then
        if wanted = nlaType memory nla then
          let copied := copyAttribute memory nla output
          some (some copied, nlaTest nlh nla remaining ++
            nlaLook memory nlh nla ++
              [.read (nla + nlaHdrlen) copied.len.toNat])
        else
          let step := align (nlaLen memory nla)
          (tracedAttributes memory wanted output nlh fuel (nla + step)
            (remaining - step)).map fun (out, log) =>
              (out, nlaTest nlh nla remaining ++ nlaLook memory nlh nla ++
                .fromInt remaining step :: log)
      else some (none, nlaTest nlh nla remaining)

/-- The accesses of `NLMSG_OK`, which looks at `nlmsg_len` if there is room for
a header. -/
def nlmsgTest (nlh nlhLen : Nat) : List Access :=
  if 16 ≤ nlhLen then [.read nlh 4] else []

/-- `walkMessages` with its accesses. -/
def tracedMessages (memory : Memory) (wanted : Int) :
    Nat → Nat → Nat → Int → Output → Option ((Int × Output) × List Access)
  | 0, _, _, _, _ => none
  | fuel + 1, nlh, nlhLen, ret, output =>
      if nlmsgOk memory nlh nlhLen then
        let look := nlmsgTest nlh nlhLen ++ [.read (nlh + 4) 2]
        if nlmsgType memory nlh = nlmsgDone then some ((0, output), look)
        else if nlmsgType memory nlh = nlmsgError then some ((-1, output), look)
        else
          let nla := nlh + nlmsgHdrlen + genlHdrlen
          let length := sub32 (nlmsgLen memory nlh) genlHdrlen
          let step := nlmsgAlign (nlmsgLen memory nlh)
          match tracedAttributes memory wanted output nlh fuel nla
              (toInt32 length) with
          | none => none
          | some (copied, log) =>
              (tracedMessages memory wanted fuel (nlh + step)
                (sub32 nlhLen step) (if copied.isSome then 0 else ret)
                (copied.getD output)).map fun (result, later) =>
                  (result, look ++ .toInt length :: log ++
                    .fromUnsigned nlhLen step :: later)
      else some ((ret, output), nlmsgTest nlh nlhLen)

/-- `genlmsgDispatch` with its accesses: the type of the first message is read
before any length is looked at. -/
def tracedDispatch (fuel : Nat) (memory : Memory) (nlhLen : Nat)
    (wantedType wantedNla : Int) (output : Output) :
    Option ((Int × Output) × List Access) :=
  if wantedType ≠ 0 ∧ (nlmsgType memory 0 : Int) ≠ wantedType then
    some ((-1, output), [.read 4 2])
  else
    (tracedMessages memory wantedNla fuel 0 nlhLen (-1) output).map
      fun (result, log) => (result, .read 4 2 :: log)

section Traced

variable {memory : Memory} {wanted : Int}

theorem tracedAttributes_fst (output : Output) (nlh fuel nla : Nat)
    (remaining : Int) :
    (tracedAttributes memory wanted output nlh fuel nla remaining).map
        Prod.fst =
      walkAttributes memory wanted output fuel nla remaining := by
  induction fuel generalizing nla remaining with
  | zero => rfl
  | succ fuel induction =>
      rw [tracedAttributes, walkAttributes]
      split
      · split
        · rfl
        · rw [Option.map_map, ← induction]
          rfl
      · rfl

theorem tracedMessages_fst (fuel nlh nlhLen : Nat) (ret : Int)
    (output : Output) :
    (tracedMessages memory wanted fuel nlh nlhLen ret output).map Prod.fst =
      walkMessages memory wanted fuel nlh nlhLen ret output := by
  induction fuel generalizing nlh nlhLen ret output with
  | zero => rfl
  | succ fuel induction =>
      rw [tracedMessages, walkMessages]
      split
      · split
        · rfl
        · split
          · rfl
          · simp only [← tracedAttributes_fst output nlh]
            cases tracedAttributes memory wanted output nlh fuel
                (nlh + nlmsgHdrlen + genlHdrlen)
                (toInt32 (sub32 (nlmsgLen memory nlh) genlHdrlen)) with
            | none => rfl
            | some traced =>
                obtain ⟨copied, log⟩ := traced
                simp only [Option.map_some, Option.map_map]
                cases copied with
                | none => exact induction _ _ _ _
                | some copied => exact induction _ _ _ _
      · rfl

theorem tracedDispatch_fst (fuel nlhLen : Nat) (wantedType : Int)
    (output : Output) :
    (tracedDispatch fuel memory nlhLen wantedType wanted output).map Prod.fst =
      genlmsgDispatch fuel memory nlhLen wantedType wanted output := by
  unfold tracedDispatch genlmsgDispatch
  split
  · rfl
  · rw [Option.map_map, ← tracedMessages_fst]
    rfl

end Traced

section Safe

variable (memory : Memory) (wanted : Int)

/-- The attributes from `nla` on, in a message that ends at `stop`: before its
end one has the type that is wanted, or a length that is refused.  What ends
less than 16 bytes behind the message is not refused. -/
inductive AttributesSafe (stop : Nat) : Nat → Prop where
  | short {nla : Nat} (inside : nla + nlaHdrlen ≤ stop)
      (short : nlaLen memory nla < 4) : AttributesSafe stop nla
  | long {nla : Nat} (inside : nla + nlaHdrlen ≤ stop)
      (long : stop + 16 < nla + nlaLen memory nla) : AttributesSafe stop nla
  | found {nla : Nat} (header : 4 ≤ nlaLen memory nla)
      (inside : nla + nlaLen memory nla ≤ stop)
      (found : wanted = nlaType memory nla) : AttributesSafe stop nla
  | other {nla : Nat} (header : 4 ≤ nlaLen memory nla)
      (inside : nla + nlaLen memory nla ≤ stop)
      (other : wanted ≠ nlaType memory nla)
      (later : AttributesSafe stop (nla + align (nlaLen memory nla))) :
      AttributesSafe stop nla

/-- The messages from `nlh` on: up to the first that ends the walk, each has
safe attributes, and no more bytes than are left when it is padded. -/
inductive MessagesSafe : Nat → Nat → Prop where
  | last {nlh nlhLen : Nat} (finished : ¬nlmsgOk memory nlh nlhLen) :
      MessagesSafe nlh nlhLen
  | ended {nlh nlhLen : Nat} (ok : nlmsgOk memory nlh nlhLen)
      (ended : nlmsgType memory nlh = nlmsgDone ∨
        nlmsgType memory nlh = nlmsgError) : MessagesSafe nlh nlhLen
  | next {nlh nlhLen : Nat} (ok : nlmsgOk memory nlh nlhLen)
      (notDone : nlmsgType memory nlh ≠ nlmsgDone)
      (notError : nlmsgType memory nlh ≠ nlmsgError)
      (signed : nlmsgLen memory nlh < 2147483648 + genlHdrlen)
      (attributes : AttributesSafe memory wanted (nlh + nlmsgLen memory nlh)
        (nlh + nlmsgHdrlen + genlHdrlen))
      (fits : align (nlmsgLen memory nlh) ≤ nlhLen)
      (later : MessagesSafe (nlh + align (nlmsgLen memory nlh))
        (nlhLen - align (nlmsgLen memory nlh))) : MessagesSafe nlh nlhLen

end Safe

/-- The type of the first message was received, and it is not the one that is
asked for or all messages are safe. -/
def DispatchCondition (memory : Memory) (nlhLen : Nat)
    (wantedType wantedNla : Int) : Prop :=
  6 ≤ nlhLen ∧
    ((wantedType ≠ 0 ∧ (nlmsgType memory 0 : Int) ≠ wantedType) ∨
      MessagesSafe memory wantedNla 0 nlhLen)

/-- `genlmsg_dispatch` returns, and all its accesses are inside. -/
def DispatchSafe (memory : Memory) (nlhLen : Nat) (wantedType wantedNla : Int)
    (output : Output) : Prop :=
  ∃ fuel result log,
    tracedDispatch fuel memory nlhLen wantedType wantedNla output =
      some (result, log) ∧
    ∀ access ∈ log, access.Inside memory nlhLen

section Attributes

variable {memory : Memory} {wanted : Int} {nlh total : Nat} {output : Output}

theorem copyAttribute_len (nla : Nat) (output : Output)
    (header : 4 ≤ nlaLen memory nla) :
    nlaHdrlen + (copyAttribute memory nla output).len.toNat ≤
      nlaLen memory nla := by
  simp only [copyAttribute, nlaHdrlen]
  split <;> omega

/-- Where the headers of `NLA_OK` lie, with 16 bytes too many to go. -/
theorem nlaTest_inside {nla : Nat} {remaining : Int}
    (counted : (nla : Int) + remaining =
      nlh + nlmsgLen memory nlh + (16 : Nat))
    (near : nla ≤ nlh + nlmsgLen memory nlh + 4)
    (received : nlh + nlmsgLen memory nlh ≤ total) :
    (∀ access ∈ nlaTest nlh nla remaining, access.Inside memory total) ↔
      nla + nlaHdrlen ≤ nlh + nlmsgLen memory nlh := by
  have room : 4 ≤ remaining := by omega
  rw [nlaTest, if_pos room]
  simp only [List.forall_mem_cons, List.not_mem_nil, Access.Inside]
  constructor
  · rintro ⟨-, header, -⟩
    exact header
  · intro header
    refine ⟨?_, header, fun _ none => none.elim⟩
    simp only [nlaHdrlen] at header
    omega

theorem nlaLook_inside {nla : Nat} (header : 4 ≤ nlaLen memory nla)
    (inside : nla + nlaLen memory nla ≤ nlh + nlmsgLen memory nlh)
    (received : nlh + nlmsgLen memory nlh ≤ total) :
    ∀ access ∈ nlaLook memory nlh nla, access.Inside memory total := by
  rw [nlaLook, List.forall_mem_cons, List.forall_mem_singleton]
  simp only [Access.Inside]
  omega

theorem AttributesSafe.room {stop nla : Nat}
    (safe : AttributesSafe memory wanted stop nla) :
    nla + nlaHdrlen ≤ stop := by
  have size : nlaHdrlen = 4 := rfl
  cases safe with
  | short inside _ => exact inside
  | long inside _ => exact inside
  | found header inside _ => omega
  | other header inside _ _ => omega

/-- What is inside tells that the attributes are safe. -/
theorem attributesSafe_of_traced
    {fuel nla : Nat} {remaining : Int} {out : Option Output}
    {log : List Access}
    (counted : (nla : Int) + remaining =
      nlh + nlmsgLen memory nlh + (16 : Nat))
    (near : nla ≤ nlh + nlmsgLen memory nlh + 4)
    (received : nlh + nlmsgLen memory nlh ≤ total)
    (walked : tracedAttributes memory wanted output nlh fuel nla remaining =
      some (out, log))
    (inside : ∀ access ∈ log, access.Inside memory total) :
    AttributesSafe memory wanted (nlh + nlmsgLen memory nlh) nla := by
  induction fuel generalizing nla remaining out log with
  | zero => cases walked
  | succ fuel induction =>
      rw [tracedAttributes] at walked
      have tested := nlaTest_inside counted near received
      split at walked
      · rename_i ok
        have whole : ∀ rest, log =
            nlaTest nlh nla remaining ++ nlaLook memory nlh nla ++ rest →
              nla + nlaLen memory nla ≤ nlh + nlmsgLen memory nlh := by
          rintro rest rfl
          exact inside (.attribute nlh nla (nlaLen memory nla))
            (List.mem_append_left _ (List.mem_append_right _ (.head _)))
        split at walked
        · rename_i found
          cases walked
          exact .found ok.2.1 (whole _ rfl) found
        · rename_i other
          obtain ⟨⟨out', later⟩, rest, shape⟩ :=
            Option.map_eq_some_iff.mp walked
          cases shape
          have fits := whole _ rfl
          obtain ⟨-, padded, tight⟩ := align_spec (nlaLen memory nla)
          refine .other ok.2.1 fits other (induction ?_ ?_ rest ?_)
          · omega
          · omega
          · intro access member
            exact inside access (List.mem_append_right _ (.tail _ member))
      · rename_i finished
        cases walked
        have header := tested.mp inside
        by_cases short : nlaLen memory nla < 4
        · exact .short header short
        · refine .long header ?_
          have long : ¬(nlaLen memory nla : Int) ≤ remaining := by
            intro fits
            refine finished ⟨by omega, by omega, fits⟩
          omega

/-- Safe attributes are walked to an end, inside. -/
theorem tracedAttributes_safe {nla : Nat}
    (safe : AttributesSafe memory wanted (nlh + nlmsgLen memory nlh) nla)
    {remaining : Int}
    (counted : (nla : Int) + remaining =
      nlh + nlmsgLen memory nlh + (16 : Nat))
    (near : nla ≤ nlh + nlmsgLen memory nlh + 4)
    (received : nlh + nlmsgLen memory nlh ≤ total) :
    ∃ rounds, ∀ fuel ≥ rounds, ∀ output, ∃ out log,
      tracedAttributes memory wanted output nlh fuel nla remaining =
        some (out, log) ∧
      ∀ access ∈ log, access.Inside memory total := by
  have size : nlaHdrlen = 4 := rfl
  have tested := @nlaTest_inside memory nlh total
  induction safe generalizing remaining with
  | @short nla header short =>
      refine ⟨1, fun fuel enough output => ?_⟩
      obtain ⟨fuel, rfl⟩ := Nat.exists_eq_add_of_le' enough
      have finished : ¬nlaOk memory nla remaining := by
        rintro ⟨-, atLeast, -⟩
        omega
      exact ⟨none, _, by rw [tracedAttributes, if_neg finished],
        (tested counted near received).mpr header⟩
  | @long nla header long =>
      refine ⟨1, fun fuel enough output => ?_⟩
      obtain ⟨fuel, rfl⟩ := Nat.exists_eq_add_of_le' enough
      have finished : ¬nlaOk memory nla remaining := by
        rintro ⟨-, -, fits⟩
        omega
      exact ⟨none, _, by rw [tracedAttributes, if_neg finished],
        (tested counted near received).mpr header⟩
  | @found nla header inside found =>
      refine ⟨1, fun fuel enough output => ?_⟩
      obtain ⟨fuel, rfl⟩ := Nat.exists_eq_add_of_le' enough
      have ok : nlaOk memory nla remaining := by
        refine ⟨?_, header, ?_⟩ <;> omega
      have copied := copyAttribute_len nla output header
      refine ⟨_, _, by rw [tracedAttributes, if_pos ok, if_pos found], ?_⟩
      rw [List.forall_mem_append, List.forall_mem_append]
      refine ⟨⟨(tested counted near received).mpr (by omega),
        nlaLook_inside header inside received⟩, ?_⟩
      rw [List.forall_mem_singleton, Access.Inside]
      omega
  | @other nla header inside other later induction =>
      obtain ⟨-, padded, tight⟩ := align_spec (nlaLen memory nla)
      have ok : nlaOk memory nla remaining := by
        refine ⟨?_, header, ?_⟩ <;> omega
      obtain ⟨rounds, walks⟩ := @induction
        (remaining - align (nlaLen memory nla)) (by omega) (by omega)
      refine ⟨rounds + 1, fun fuel enough output => ?_⟩
      obtain ⟨fuel, rfl⟩ := Nat.exists_eq_succ_of_ne_zero
        (Nat.ne_zero_of_lt enough)
      obtain ⟨out, log, walked, within⟩ :=
        walks fuel (Nat.le_of_succ_le_succ enough) output
      refine ⟨_, _, by
        rw [tracedAttributes, if_pos ok, if_neg other]
        exact Option.map_eq_some_iff.mpr ⟨_, walked, rfl⟩, ?_⟩
      rw [List.forall_mem_append, List.forall_mem_append,
        List.forall_mem_cons]
      refine ⟨⟨(tested counted near received).mpr (by omega),
        nlaLook_inside header inside received⟩, ?_, within⟩
      rw [Access.Inside]
      omega

end Attributes

section Messages

variable {memory : Memory} {wanted : Int} {total : Nat}

theorem nlmsgAlign_eq {length : Nat} (bound : length < 4294967293) :
    nlmsgAlign length = align length := by
  unfold nlmsgAlign
  rw [wrap32_of_lt (by omega)]
  rfl

theorem attributes_counted {nlh nlhLen : Nat}
    (ok : nlmsgOk memory nlh nlhLen)
    (small : nlmsgLen memory nlh < 2147483648 + genlHdrlen) :
    ((nlh + nlmsgHdrlen + genlHdrlen : Nat) : Int) +
        toInt32 (sub32 (nlmsgLen memory nlh) genlHdrlen) =
      nlh + nlmsgLen memory nlh + (16 : Nat) := by
  have header := ok.2.1
  simp only [genlHdrlen] at small
  rw [sub32_of_le (Nat.le_trans (by decide) header) (by omega), toInt32,
    if_pos (by simp only [genlHdrlen]; omega)]
  simp only [genlHdrlen, nlmsgHdrlen]
  omega

/-- What is inside tells that the messages are safe. -/
theorem messagesSafe_of_traced {fuel nlh nlhLen : Nat} {ret : Int}
    {output : Output} {result : Int × Output} {log : List Access}
    (received : nlh + nlhLen = total) (bound : nlhLen < 4294967296)
    (walked : tracedMessages memory wanted fuel nlh nlhLen ret output =
      some (result, log))
    (inside : ∀ access ∈ log, access.Inside memory total) :
    MessagesSafe memory wanted nlh nlhLen := by
  induction fuel generalizing nlh nlhLen ret output result log with
  | zero => cases walked
  | succ fuel induction =>
      rw [tracedMessages] at walked
      split at walked
      · rename_i ok
        split at walked
        · rename_i done
          exact .ended ok (.inl done)
        · rename_i notDone
          split at walked
          · rename_i error
            exact .ended ok (.inr error)
          · rename_i notError
            dsimp only at walked
            split at walked
            · cases walked
            · rename_i copied log' attributes
              obtain ⟨⟨result', later⟩, rest, shape⟩ :=
                Option.map_eq_some_iff.mp walked
              cases shape
              rw [List.forall_mem_append, List.forall_mem_append,
                List.forall_mem_cons, List.forall_mem_cons] at inside
              obtain ⟨⟨-, converted, attributesInside⟩, subtracted,
                laterInside⟩ := inside
              have header := ok.2.1
              have whole := ok.2.2
              have shrunk : sub32 (nlmsgLen memory nlh) genlHdrlen =
                  nlmsgLen memory nlh - genlHdrlen :=
                sub32_of_le (Nat.le_trans (by decide) header) (by omega)
              have small : nlmsgLen memory nlh < 2147483648 + genlHdrlen := by
                rw [Access.Inside, shrunk] at converted
                omega
              have step : nlmsgAlign (nlmsgLen memory nlh) =
                  align (nlmsgLen memory nlh) := by
                simp only [genlHdrlen] at small
                exact nlmsgAlign_eq (by omega)
              rw [Access.Inside, step] at subtracted
              rw [step, sub32_of_le subtracted bound] at rest
              refine .next ok notDone notError small
                (attributesSafe_of_traced (attributes_counted ok small) ?_
                  (by omega) attributes attributesInside) subtracted
                (induction (by omega) (by omega) rest laterInside)
              simp only [nlmsgHdrlen, genlHdrlen]
              omega
      · rename_i finished
        exact .last finished

theorem nlmsgLook_inside {nlh nlhLen : Nat} (received : nlh + nlhLen = total)
    (ok : nlmsgOk memory nlh nlhLen) :
    ∀ access ∈ nlmsgTest nlh nlhLen ++ [.read (nlh + 4) 2],
      access.Inside memory total := by
  have room := ok.1
  rw [nlmsgTest, if_pos room, List.forall_mem_append,
    List.forall_mem_singleton, List.forall_mem_singleton]
  simp only [Access.Inside]
  omega

/-- Safe messages are walked to an end, inside. -/
theorem tracedMessages_safe {nlh nlhLen : Nat}
    (safe : MessagesSafe memory wanted nlh nlhLen)
    (received : nlh + nlhLen = total) (bound : nlhLen < 4294967296) :
    ∃ rounds, ∀ fuel ≥ rounds, ∀ ret output, ∃ result log,
      tracedMessages memory wanted fuel nlh nlhLen ret output =
        some (result, log) ∧
      ∀ access ∈ log, access.Inside memory total := by
  induction safe with
  | @last nlh nlhLen finished =>
      refine ⟨1, fun fuel enough ret output => ?_⟩
      obtain ⟨fuel, rfl⟩ := Nat.exists_eq_add_of_le' enough
      refine ⟨_, _, by rw [tracedMessages, if_neg finished], ?_⟩
      unfold nlmsgTest
      split
      · rw [List.forall_mem_singleton, Access.Inside]
        omega
      · intro access none
        cases none
  | @ended nlh nlhLen ok ended =>
      refine ⟨1, fun fuel enough ret output => ?_⟩
      obtain ⟨fuel, rfl⟩ := Nat.exists_eq_add_of_le' enough
      rw [tracedMessages, if_pos ok]
      rcases ended with done | error
      · rw [if_pos done]
        exact ⟨_, _, rfl, nlmsgLook_inside received ok⟩
      · rw [if_neg (by rw [error]; decide), if_pos error]
        exact ⟨_, _, rfl, nlmsgLook_inside received ok⟩
  | @next nlh nlhLen ok notDone notError small attributes fits later
      induction =>
      have header := ok.2.1
      have whole := ok.2.2
      have covered : nlh + nlmsgLen memory nlh ≤ total := by omega
      have near : nlh + nlmsgHdrlen + genlHdrlen ≤
          nlh + nlmsgLen memory nlh + 4 := by
        simp only [nlmsgHdrlen, genlHdrlen]
        omega
      have step : nlmsgAlign (nlmsgLen memory nlh) =
          align (nlmsgLen memory nlh) := by
        simp only [genlHdrlen] at small
        exact nlmsgAlign_eq (by omega)
      obtain ⟨first, walksFirst⟩ := induction (by omega) (by omega)
      obtain ⟨second, walksSecond⟩ := tracedAttributes_safe attributes
        (attributes_counted ok small) near covered
      refine ⟨max first second + 1, fun fuel enough ret output => ?_⟩
      obtain ⟨fuel, rfl⟩ := Nat.exists_eq_succ_of_ne_zero
        (Nat.ne_zero_of_lt enough)
      obtain ⟨copied, log, attributesWalked, attributesInside⟩ :=
        walksSecond fuel (by omega) output
      obtain ⟨result, later, laterWalked, laterInside⟩ :=
        walksFirst fuel (by omega) (if copied.isSome then 0 else ret)
          (copied.getD output)
      rw [tracedMessages, if_pos ok, if_neg notDone, if_neg notError]
      simp only [attributesWalked, step]
      rw [sub32_of_le fits bound, laterWalked]
      refine ⟨_, _, rfl, ?_⟩
      rw [List.forall_mem_append, List.forall_mem_append,
        List.forall_mem_cons, List.forall_mem_cons]
      refine ⟨⟨nlmsgLook_inside received ok, ?_, attributesInside⟩, fits,
        laterInside⟩
      rw [Access.Inside, sub32_of_le (Nat.le_trans (by decide) header)
        (by omega)]
      omega

end Messages

/-- For any bytes and any number of them, all accesses are inside exactly for
the buffers above. -/
theorem dispatchSafe_iff (memory : Memory) (nlhLen : UInt32)
    (wantedType wantedNla : Int) (cap : Nat) (buf : Memory) :
    DispatchSafe memory nlhLen.toNat wantedType wantedNla { buf, len := cap } ↔
      DispatchCondition memory nlhLen.toNat wantedType wantedNla := by
  have bound : nlhLen.toNat < 4294967296 := nlhLen.toNat_lt
  constructor
  · rintro ⟨fuel, result, log, walked, inside⟩
    unfold tracedDispatch at walked
    split at walked
    · rename_i foreign
      cases walked
      rw [List.forall_mem_singleton] at inside
      exact ⟨inside, .inl foreign⟩
    · obtain ⟨⟨result', log'⟩, rest, shape⟩ := Option.map_eq_some_iff.mp walked
      cases shape
      rw [List.forall_mem_cons] at inside
      exact ⟨inside.1, .inr (messagesSafe_of_traced (Nat.zero_add _) bound rest
        inside.2)⟩
  · rintro ⟨first, foreign | safe⟩
    · refine ⟨0, _, _, if_pos foreign, ?_⟩
      rw [List.forall_mem_singleton]
      exact first
    · by_cases foreign : wantedType ≠ 0 ∧
          (nlmsgType memory 0 : Int) ≠ wantedType
      · refine ⟨0, _, _, if_pos foreign, ?_⟩
        rw [List.forall_mem_singleton]
        exact first
      · obtain ⟨rounds, walks⟩ :=
          tracedMessages_safe safe (Nat.zero_add _) bound
        obtain ⟨result, log, walked, inside⟩ :=
          walks rounds (Nat.le_refl _) (-1) { buf, len := cap }
        refine ⟨rounds, result, .read 4 2 :: log, ?_, ?_⟩
        · rw [tracedDispatch, if_neg foreign, walked]
          rfl
        · rw [List.forall_mem_cons]
          exact ⟨first, inside⟩

/-- A message of type 16 that ends with the generic header. -/
private def bareMessage : Memory :=
  Memory.ofList [20, 0, 0, 0, 16, 0, 0, 0, 0, 0, 0, 0, 0, 0, 0, 0, 1, 1, 0, 0]

/-- An attribute is looked for behind its end. -/
theorem not_dispatchSafe_bare :
    ¬DispatchSafe bareMessage 20 0 1 { buf := fun _ => 0, len := 8 } := by
  rintro ⟨fuel, result, log, walked, inside⟩
  rw [tracedDispatch, if_neg (by decide)] at walked
  obtain ⟨⟨result', log'⟩, rest, shape⟩ := Option.map_eq_some_iff.mp walked
  cases shape
  rw [List.forall_mem_cons] at inside
  have safe :=
    messagesSafe_of_traced (Nat.zero_add 20) (by decide) rest inside.2
  cases safe with
  | last finished => exact finished (by decide)
  | ended _ ended => exact absurd ended (by decide)
  | next _ _ _ _ attributes _ _ =>
      exact absurd attributes.room (by decide)

end KernelDrivers.Genetlink
