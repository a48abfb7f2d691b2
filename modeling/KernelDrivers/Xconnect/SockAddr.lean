import KernelDrivers.Library.Split
import KernelDrivers.Xconnect.Resolv

/-!
# Socket addresses and their text

`str2sockaddr` reads a host with an optional port, and `sockaddr2str` prints
the address again.  A string is given by the bytes before its NUL.
-/

namespace KernelDrivers.Xconnect

open KernelDrivers.Library

/-- The `ENABLE_FEATURE_` switches of the build. -/
structure Features where
  ipv6 : Bool
  unixLocal : Bool
  preferIpv4Address : Bool

/-- `AF_UNSPEC`, `AF_UNIX`, `AF_INET` and `AF_INET6`. -/
inductive Family where
  | unspec
  | unix
  | inet
  | inet6
deriving DecidableEq

/-- Ports and addresses are in network order; a path ends before its NUL. -/
inductive SockAddr where
  | un (sunPath : List UInt8)
  | inet (sinPort : UInt16) (sinAddr : List UInt8)
  | inet6 (sin6Port : UInt16) (sin6Flowinfo : UInt32) (sin6Addr : List UInt8)
      (sin6ScopeId : UInt32)
deriving DecidableEq

def SockAddr.saFamily : SockAddr → Family
  | .un _ => .unix
  | .inet _ _ => .inet
  | .inet6 _ _ _ _ => .inet6

def htons (port : UInt16) : UInt16 :=
  port <<< 8 ||| port >>> 8

abbrev ntohs : UInt16 → UInt16 := htons

def getNport (features : Features) (sa : SockAddr) : Int :=
  match features.ipv6, sa with
  | true, .inet6 port _ _ _ => port.toNat
  | _, .inet port _ => port.toNat
  | _, _ => -1

/-- An address of a family that the build does not know is left alone. -/
def setNport (features : Features) (sa : SockAddr) (port : UInt16) : SockAddr :=
  match features.ipv6, sa with
  | true, .inet6 _ flowinfo addr scope => .inet6 port flowinfo addr scope
  | _, .inet _ addr => .inet port addr
  | _, other => other

@[simp] theorem setNport_inet (features : Features) (sinPort port : UInt16)
    (addr : List UInt8) :
    setNport features (.inet sinPort addr) port = .inet port addr := by
  unfold setNport
  cases features.ipv6 <;> rfl

theorem setNport_inet6 {features : Features} (on : features.ipv6 = true)
    (sin6Port port : UInt16) (flowinfo : UInt32) (addr : List UInt8)
    (scope : UInt32) :
    setNport features (.inet6 sin6Port flowinfo addr scope) port =
      .inet6 port flowinfo addr scope := by
  simp only [setNport, on]

/-- `NI_NUMERICHOST`, `NI_NAMEREQD` and `IGNORE_PORT`. -/
structure NameFlags where
  numericHost : Bool
  nameReqd : Bool
  ignorePort : Bool

/-- The functions that are not of this program.  They fail with `none`:
`bb_strtou` by `errno`.  `safe_strncpy` gives the string that it leaves in an
array of some size. -/
structure Libc where
  safeStrncpy : List UInt8 → Nat → List UInt8
  bbStrtou : List UInt8 → Option Nat
  inetAton : List UInt8 → Option (List UInt8)
  inetPton : List UInt8 → Option (List UInt8)
  getnameinfo : SockAddr → NameFlags → Option (List UInt8 × List UInt8)

/-- `safe_strncpy` copies what fits before the NUL. -/
def Libc.Truncates (libc : Libc) : Prop :=
  ∀ src size, libc.safeStrncpy src (size + 1) = src.take size

/-- `AI_NUMERICHOST` and `DIE_ON_ERROR`. -/
structure AiFlags where
  numericHost : Bool
  dieOnError : Bool

/-- What `hgetaddrinfo` comes to.  `lost` is a `name2ip` that does not return:
it leaves its objects. -/
inductive Resolution where
  | lost
  | error
  | result (first : SockAddr) (next : List SockAddr)

/-- The two messages, each with the text that was given. -/
inductive Complaint where
  | badAddress (orgHost : List UInt8)
  | badPortSpec (orgHost : List UInt8)
deriving DecidableEq

def Complaint.orgHost : Complaint → List UInt8
  | .badAddress orgHost => orgHost
  | .badPortSpec orgHost => orgHost

def Complaint.format : Complaint → String
  | .badAddress _ => "bad address '%s'"
  | .badPortSpec _ => "bad port spec '%s'"

inductive Answer where
  | sockaddr (r : SockAddr)
  | null (message : Complaint)
  | died (message : Complaint)
  | lost
deriving DecidableEq

/-- `bb_error_msg`, and `xfunc_die` where the flag asks for it. -/
def AiFlags.complain (flags : AiFlags) (message : Complaint) : Answer :=
  if flags.dieOnError then .died message else .null message

/-- `"local:"`. -/
abbrev localPrefix : List UInt8 := [108, 111, 99, 97, 108, 58]

/-- `sizeof(sun->sun_path)`. -/
abbrev sizeofSunPath : Nat := 108

/-- The string `host` is cut to, and the string behind the `:`. -/
structure HostSpec where
  host : List UInt8
  port : Option (List UInt8)

/-- The ugly parsing of `host:addr` and of `[xx]:nn`; `none` is malformed. -/
def splitHost (libc : Libc) (ipv6 : Bool) (host : List UInt8) :
    Option HostSpec :=
  if ipv6 = true ∧ host.head? = some 91 then
    match splitFirst 93 host.tail with
    | none => none
    | some (xx, []) =>
        some ⟨libc.safeStrncpy host.tail (xx.length + 1), none⟩
    | some (xx, c :: nn) =>
        if c = 58 then
          some ⟨libc.safeStrncpy host.tail (xx.length + 1), some nn⟩
        else none
  else
    match splitLast 58 host with
    | none => some ⟨host, none⟩
    | some (before, behind) =>
        -- There is more than one `:`, as in `::1`.
        if ipv6 = true ∧ splitFirst 58 host ≠ some (before, behind) then
          some ⟨host, none⟩
        else some ⟨libc.safeStrncpy host (before.length + 1), some behind⟩

/-- The first one with an IPv4 address, else the first one. -/
def usedRes (prefer : Bool) (first : SockAddr) (next : List SockAddr) :
    SockAddr :=
  if prefer then
    ((first :: next).find? fun res =>
      decide (res.saFamily = .inet)).getD first
  else first

section Str2sockaddr

variable (features : Features) (libc : Libc)
  (hgetaddrinfo : List UInt8 → Family → Bool → Resolution)

/-- The two numeric readers, and the resolver for all other hosts. -/
def hostAddr (host : List UInt8) (af : Family) (numericHost : Bool) :
    Resolution :=
  let numeric : Option SockAddr :=
    (if af ≠ .inet6 then (libc.inetAton host).map (.inet 0) else none).or
      (if features.ipv6 = true ∧ af ≠ .inet then
        (libc.inetPton host).map fun addr => .inet6 0 0 addr 0
      else none)
  match numeric with
  | some r => .result r []
  | none =>
      match hgetaddrinfo host af numericHost with
      | .result first next =>
          .result (usedRes features.preferIpv4Address first next) []
      | other => other

/-- The port behind the `:`, else the one that was given. -/
def specPort (port : Int) : Option (List UInt8) → Option Int
  | none => some port
  | some cp =>
      match libc.bbStrtou cp with
      | none => none
      | some number => if number > 0xffff then none else some number

def str2sockaddr (host : List UInt8) (port : Int) (af : Family)
    (aiFlags : AiFlags) : Answer :=
  if features.unixLocal = true ∧ localPrefix.isPrefixOf host = true then
    .sockaddr (.un (libc.safeStrncpy (host.drop 6) sizeofSunPath))
  else
    let af := if features.ipv6 then af else .inet
    match splitHost libc features.ipv6 host with
    | none => aiFlags.complain (.badAddress host)
    | some spec =>
        match specPort libc port spec.port with
        | none => aiFlags.complain (.badPortSpec host)
        | some port =>
            match hostAddr features libc hgetaddrinfo spec.host af
                aiFlags.numericHost with
            | .lost => .lost
            | .error => aiFlags.complain (.badAddress host)
            | .result r _ =>
                .sockaddr (setNport features r (htons (UInt16.ofInt port)))

def host2sockaddr (host : List UInt8) (port : Int) : Answer :=
  str2sockaddr features libc hgetaddrinfo host port .unspec ⟨false, false⟩

def xhost2sockaddr (host : List UInt8) (port : Int) : Answer :=
  str2sockaddr features libc hgetaddrinfo host port .unspec ⟨false, true⟩

def xdotted2sockaddr (host : List UInt8) (port : Int) : Answer :=
  str2sockaddr features libc hgetaddrinfo host port .unspec ⟨true, true⟩

def hostAndAf2sockaddr (host : List UInt8) (port : Int) (af : Family) :
    Answer :=
  str2sockaddr features libc hgetaddrinfo host port af ⟨false, false⟩

def xhostAndAf2sockaddr (host : List UInt8) (port : Int) (af : Family) :
    Answer :=
  str2sockaddr features libc hgetaddrinfo host port af ⟨false, true⟩

end Str2sockaddr

section Sockaddr2str

variable (features : Features) (libc : Libc) (sa : SockAddr)

def sockaddr2str (flags : NameFlags) : Option (List UInt8) :=
  match features.unixLocal, sa with
  | true, .un path => some (localPrefix ++ path.take sizeofSunPath)
  | _, _ =>
      match libc.getnameinfo sa flags with
      | none => none
      | some (host, serv) =>
          if flags.ignorePort then some host
          else
            match features.ipv6, sa with
            | true, .inet6 _ _ _ _ =>
                if 58 ∈ host then some (91 :: host ++ 93 :: 58 :: serv)
                else some (host ++ 58 :: serv)
            | _, _ => some (host ++ 58 :: serv)

def xmallocSockaddr2host : Option (List UInt8) :=
  sockaddr2str features libc sa ⟨false, false, false⟩

def xmallocSockaddr2hostNoport : Option (List UInt8) :=
  sockaddr2str features libc sa ⟨false, false, true⟩

def xmallocSockaddr2hostonlyNoport : Option (List UInt8) :=
  sockaddr2str features libc sa ⟨false, true, true⟩

def xmallocSockaddr2dotted : Option (List UInt8) :=
  sockaddr2str features libc sa ⟨true, false, false⟩

def xmallocSockaddr2dottedNoport : Option (List UInt8) :=
  sockaddr2str features libc sa ⟨true, false, true⟩

end Sockaddr2str

/-- The texts of hosts with and without a port.  Brackets and the rule on more
than one `:` are there for IPv6. -/
inductive Written (ipv6 : Bool) : List UInt8 → HostSpec → Prop where
  | bracketed {xx : List UInt8} (on : ipv6 = true) (closed : 93 ∉ xx) :
      Written ipv6 (91 :: xx ++ [93]) ⟨xx, none⟩
  | bracketedPort {xx nn : List UInt8} (on : ipv6 = true) (closed : 93 ∉ xx) :
      Written ipv6 (91 :: xx ++ 93 :: 58 :: nn) ⟨xx, some nn⟩
  | bare {host : List UInt8} (unbracketed : ipv6 = true → host.head? ≠ some 91)
      (plain : 58 ∉ host) : Written ipv6 host ⟨host, none⟩
  | withPort {host addr : List UInt8}
      (unbracketed : ipv6 = true → (host ++ [58]).head? ≠ some 91)
      (single : ipv6 = true → 58 ∉ host) (last : 58 ∉ addr) :
      Written ipv6 (host ++ 58 :: addr) ⟨host, some addr⟩
  | colons {first second third : List UInt8} (on : ipv6 = true)
      (unbracketed : (first ++ [58]).head? ≠ some 91) :
      Written ipv6 (first ++ 58 :: second ++ 58 :: third)
        ⟨first ++ 58 :: second ++ 58 :: third, none⟩

section SplitHost

variable {libc : Libc} (truncates : libc.Truncates)
variable {ipv6 : Bool} {host : List UInt8} {spec : HostSpec}

include truncates in
theorem safeStrncpy_append (before behind : List UInt8) :
    libc.safeStrncpy (before ++ behind) (before.length + 1) = before := by
  rw [truncates, List.take_left']
  rfl

omit truncates in
/-- Before the last of several colons there is another one. -/
theorem exists_last_colon (first second third : List UInt8) :
    ∃ before behind, first ++ 58 :: second ++ 58 :: third =
      before ++ 58 :: behind ∧ 58 ∉ behind ∧ 58 ∈ before := by
  obtain ⟨⟨before, behind⟩, found⟩ : ∃ parts,
      splitLast 58 (first ++ 58 :: second ++ 58 :: third) = some parts := by
    rw [← Option.ne_none_iff_exists', Ne, splitLast_eq_none_iff]
    simp
  obtain ⟨shape, last⟩ := splitLast_eq_some_iff.mp found
  refine ⟨before, behind, shape, last, ?_⟩
  have count := congrArg (List.count 58) shape
  simp only [List.count_append, List.count_cons_self,
    List.count_eq_zero_of_not_mem last] at count
  exact List.count_pos_iff.mp (by omega)

theorem head?_append_colon (before behind : List UInt8) :
    (before ++ 58 :: behind).head? = (before ++ [58]).head? := by
  cases before <;> rfl

include truncates in
theorem splitHost_bracketed (bracket : ipv6 = true ∧ host.head? = some 91) :
    splitHost libc ipv6 host = some spec ↔
      ipv6 = true ∧ ∃ xx, 93 ∉ xx ∧
        ((host = 91 :: xx ++ [93] ∧ spec = ⟨xx, none⟩) ∨
          ∃ nn, host = 91 :: xx ++ 93 :: 58 :: nn ∧ spec = ⟨xx, some nn⟩) := by
  obtain ⟨on, head⟩ := bracket
  obtain ⟨rest, rfl⟩ := List.head?_eq_some_iff.mp head
  rw [splitHost, if_pos ⟨on, head⟩, List.tail_cons]
  constructor
  · intro splits
    refine ⟨on, ?_⟩
    cases found : splitFirst 93 rest with
    | none =>
        rw [found] at splits
        cases splits
    | some parts =>
        obtain ⟨xx, behind⟩ := parts
        obtain ⟨rfl, closed⟩ := splitFirst_eq_some_iff.mp found
        rw [found] at splits
        refine ⟨xx, closed, ?_⟩
        cases behind with
        | nil =>
            dsimp only at splits
            rw [safeStrncpy_append truncates] at splits
            cases splits
            exact .inl ⟨rfl, rfl⟩
        | cons c nn =>
            simp only [safeStrncpy_append truncates,
              Option.ite_none_right_eq_some, Option.some.injEq] at splits
            obtain ⟨rfl, rfl⟩ := splits
            exact .inr ⟨nn, rfl, rfl⟩
  · rintro ⟨-, xx, closed, ⟨shape, rfl⟩ | ⟨nn, shape, rfl⟩⟩
    · rw [List.cons_append, List.cons.injEq] at shape
      rw [shape.2, splitFirst_append closed]
      simp only [safeStrncpy_append truncates]
    · rw [List.cons_append, List.cons.injEq] at shape
      rw [shape.2, splitFirst_append closed]
      simp only [safeStrncpy_append truncates, if_true]

include truncates in
/-- Without a bracket the last `:` counts, if it is also the first one. -/
theorem splitHost_unbracketed
    (unbracketed : ipv6 = true → host.head? ≠ some 91) :
    splitHost libc ipv6 host = some spec ↔
      (58 ∉ host ∧ spec = ⟨host, none⟩) ∨
        ∃ before behind, host = before ++ 58 :: behind ∧ 58 ∉ behind ∧
          if ipv6 = true ∧ 58 ∈ before then spec = ⟨host, none⟩
          else spec = ⟨before, some behind⟩ := by
  have bracket : ¬(ipv6 = true ∧ host.head? = some 91) :=
    fun both => unbracketed both.1 both.2
  rw [splitHost, if_neg bracket]
  cases found : splitLast 58 host with
  | none =>
      have plain := splitLast_eq_none_iff.mp found
      simp only [Option.some.injEq]
      constructor
      · intro same
        exact .inl ⟨plain, same.symm⟩
      · rintro (⟨-, rfl⟩ | ⟨before, behind, rfl, -⟩)
        · rfl
        · exact absurd List.mem_append_cons_self plain
  | some parts =>
      obtain ⟨before, behind⟩ := parts
      have first := splitFirst_eq_splitLast_iff found
      obtain ⟨rfl, last⟩ := splitLast_eq_some_iff.mp found
      have several : (ipv6 = true ∧ splitFirst 58 (before ++ 58 :: behind) ≠
          some (before, behind)) ↔ ipv6 = true ∧ 58 ∈ before := by
        rw [Ne, first, Decidable.not_not]
      simp only [several, safeStrncpy_append truncates]
      constructor
      · intro splits
        refine .inr ⟨before, behind, rfl, last, ?_⟩
        by_cases colons : ipv6 = true ∧ 58 ∈ before
        · rw [if_pos colons] at splits ⊢
          cases splits
          rfl
        · rw [if_neg colons] at splits ⊢
          cases splits
          rfl
      · rintro (⟨plain, -⟩ | ⟨before', behind', same, last', spec_eq⟩)
        · exact absurd List.mem_append_cons_self plain
        · rw [same, splitLast_append last'] at found
          cases found
          by_cases colons : ipv6 = true ∧ 58 ∈ before
          · rw [if_pos colons] at spec_eq ⊢
            rw [spec_eq]
          · rw [if_neg colons] at spec_eq ⊢
            rw [spec_eq]

include truncates in
/-- The parser takes the grammar. -/
theorem splitHost_eq_some_iff :
    splitHost libc ipv6 host = some spec ↔ Written ipv6 host spec := by
  by_cases bracket : ipv6 = true ∧ host.head? = some 91
  · rw [splitHost_bracketed truncates bracket]
    constructor
    · rintro ⟨on, xx, closed, ⟨rfl, rfl⟩ | ⟨nn, rfl, rfl⟩⟩
      · exact .bracketed on closed
      · exact .bracketedPort on closed
    · intro written
      obtain ⟨on, head⟩ := bracket
      cases written with
      | bracketed _ closed => exact ⟨on, _, closed, .inl ⟨rfl, rfl⟩⟩
      | bracketedPort _ closed => exact ⟨on, _, closed, .inr ⟨_, rfl, rfl⟩⟩
      | bare unbracketed => exact absurd head (unbracketed on)
      | withPort unbracketed =>
          rw [head?_append_colon] at head
          exact absurd head (unbracketed on)
      | colons _ unbracketed =>
          rw [List.append_assoc, List.cons_append, head?_append_colon] at head
          exact absurd head unbracketed
  · have unbracketed : ipv6 = true → host.head? ≠ some 91 :=
      fun on head => bracket ⟨on, head⟩
    rw [splitHost_unbracketed truncates unbracketed]
    constructor
    · rintro (⟨plain, rfl⟩ | ⟨before, behind, rfl, last, spec_eq⟩)
      · exact .bare unbracketed plain
      · rw [head?_append_colon] at unbracketed
        by_cases several : ipv6 = true ∧ 58 ∈ before
        · rw [if_pos several] at spec_eq
          obtain ⟨on, member⟩ := several
          obtain ⟨first, second, rfl⟩ := List.append_of_mem member
          rw [spec_eq]
          refine .colons on ?_
          have head := unbracketed on
          rwa [List.append_assoc, List.cons_append, head?_append_colon] at head
        · rw [if_neg several] at spec_eq
          rw [spec_eq]
          exact .withPort unbracketed
            (fun on member => several ⟨on, member⟩) last
    · intro written
      cases written with
      | bracketed on _ => exact absurd rfl (unbracketed on)
      | bracketedPort on _ => exact absurd rfl (unbracketed on)
      | bare _ plain => exact .inl ⟨plain, rfl⟩
      | @withPort before behind _ single last =>
          refine .inr ⟨before, behind, rfl, last, ?_⟩
          rw [if_neg fun both => single both.1 both.2]
      | @colons first second third on _ =>
          obtain ⟨before, behind, shape, last, member⟩ :=
            exists_last_colon first second third
          refine .inr ⟨before, behind, shape, last, ?_⟩
          rw [if_pos ⟨on, member⟩]

end SplitHost

section Accepted

variable {features : Features} {libc : Libc}
  {hgetaddrinfo : List UInt8 → Family → Bool → Resolution}
  {host : List UInt8} {port : Int} {af : Family} {aiFlags : AiFlags}

/-- The port of a host: a number of 16 bits behind the `:`, else the one that
the caller has given. -/
def PortOf (libc : Libc) (given : Int) : Option (List UInt8) → Int → Prop
  | none, port => port = given
  | some cp, port => ∃ n ≤ 0xffff, libc.bbStrtou cp = some n ∧ port = n

/-- The address of a host in the grammar, with its port. -/
def Denotes (features : Features) (libc : Libc)
    (hgetaddrinfo : List UInt8 → Family → Bool → Resolution)
    (host : List UInt8) (port : Int) (af : Family) (numericHost : Bool)
    (sa : SockAddr) : Prop :=
  ∃ spec number r next, Written features.ipv6 host spec ∧
    PortOf libc port spec.port number ∧
    hostAddr features libc hgetaddrinfo spec.host
      (if features.ipv6 then af else .inet) numericHost = .result r next ∧
    sa = setNport features r (htons (UInt16.ofInt number))

/-- A local path, cut to its array, or an address in the grammar. -/
def Accepts (features : Features) (libc : Libc)
    (hgetaddrinfo : List UInt8 → Family → Bool → Resolution)
    (host : List UInt8) (port : Int) (af : Family) (numericHost : Bool)
    (sa : SockAddr) : Prop :=
  if features.unixLocal = true ∧ localPrefix.isPrefixOf host = true then
    ∃ path, host = localPrefix ++ path ∧
      sa = .un (path.take (sizeofSunPath - 1))
  else Denotes features libc hgetaddrinfo host port af numericHost sa

theorem isPrefixOf_iff {start text : List UInt8} :
    start.isPrefixOf text = true ↔ ∃ rest, text = start ++ rest := by
  rw [List.isPrefixOf_iff_prefix]
  exact ⟨fun ⟨rest, same⟩ => ⟨rest, same.symm⟩,
    fun ⟨rest, same⟩ => ⟨rest, same.symm⟩⟩

theorem specPort_eq_some_iff {text : Option (List UInt8)} {number : Int} :
    specPort libc port text = some number ↔ PortOf libc port text number := by
  cases text with
  | none => simp [specPort, PortOf, eq_comm]
  | some cp =>
      rw [specPort, PortOf]
      cases reads : libc.bbStrtou cp with
      | none => simp
      | some n =>
          simp only [gt_iff_lt, Option.ite_none_left_eq_some, Nat.not_lt,
            Option.some.injEq]
          constructor
          · rintro ⟨small, rfl⟩
            exact ⟨n, small, rfl, rfl⟩
          · rintro ⟨m, small, rfl, rfl⟩
            exact ⟨small, rfl⟩

theorem complain_ne_sockaddr {message : Complaint} {sa : SockAddr} :
    aiFlags.complain message ≠ .sockaddr sa := by
  unfold AiFlags.complain
  cases aiFlags.dieOnError <;> simp

/-- A text gives an address exactly as a local path, or in the grammar with a
port that can be read and a host that has an address. -/
theorem str2sockaddr_eq_sockaddr_iff (truncates : libc.Truncates)
    {sa : SockAddr} :
    str2sockaddr features libc hgetaddrinfo host port af aiFlags =
        .sockaddr sa ↔
      Accepts features libc hgetaddrinfo host port af aiFlags.numericHost
        sa := by
  unfold str2sockaddr Accepts
  by_cases unix :
      features.unixLocal = true ∧ localPrefix.isPrefixOf host = true
  · rw [if_pos unix, if_pos unix]
    obtain ⟨path, rfl⟩ := isPrefixOf_iff.mp unix.2
    have cut : libc.safeStrncpy path sizeofSunPath =
        path.take (sizeofSunPath - 1) := truncates path 107
    have behind : (localPrefix ++ path).drop 6 = path := rfl
    simp only [Answer.sockaddr.injEq, behind, cut, List.append_cancel_left_eq]
    constructor
    · intro same
      exact ⟨path, rfl, same.symm⟩
    · rintro ⟨path, rfl, rfl⟩
      rfl
  · rw [if_neg unix, if_neg unix]
    simp only [Denotes, ← specPort_eq_some_iff,
      ← splitHost_eq_some_iff truncates]
    constructor
    · intro accepted
      cases splits : splitHost libc features.ipv6 host with
      | none =>
          rw [splits] at accepted
          exact absurd accepted complain_ne_sockaddr
      | some spec =>
          simp only [splits] at accepted
          split at accepted
          · exact absurd accepted complain_ne_sockaddr
          · rename_i number reads
            split at accepted
            · cases accepted
            · exact absurd accepted complain_ne_sockaddr
            · rename_i r next finds
              cases accepted
              exact ⟨spec, number, r, next, rfl, reads, finds, rfl⟩
    · rintro ⟨spec, number, r, next, splits, reads, finds, rfl⟩
      simp only [splits, reads, finds]

/-- The functions with an `x` die where the others return `NULL`. -/
def Answer.orDie : Answer → Answer
  | .null message => .died message
  | other => other

theorem complain_returns (numericHost : Bool) {given message : Complaint} :
    (AiFlags.complain ⟨numericHost, false⟩ given = .null message →
        message.orgHost = given.orgHost) ∧
      AiFlags.complain ⟨numericHost, false⟩ given ≠ .died message := by
  constructor
  · intro same
    cases same
    rfl
  · intro same
    cases same

/-- Without `DIE_ON_ERROR` nothing dies, and a message has the text itself. -/
theorem str2sockaddr_complains (numericHost : Bool) {message : Complaint} :
    (str2sockaddr features libc hgetaddrinfo host port af ⟨numericHost, false⟩ =
        .null message → message.orgHost = host) ∧
      str2sockaddr features libc hgetaddrinfo host port af
        ⟨numericHost, false⟩ ≠ .died message := by
  unfold str2sockaddr
  by_cases unix :
      features.unixLocal = true ∧ localPrefix.isPrefixOf host = true
  · rw [if_pos unix]
    simp
  · rw [if_neg unix]
    dsimp only
    split
    · exact complain_returns numericHost
    · split
      · exact complain_returns numericHost
      · split
        · simp
        · exact complain_returns numericHost
        · simp

theorem str2sockaddr_dieOnError (numericHost : Bool) :
    str2sockaddr features libc hgetaddrinfo host port af ⟨numericHost, true⟩ =
      (str2sockaddr features libc hgetaddrinfo host port af
        ⟨numericHost, false⟩).orDie := by
  unfold str2sockaddr
  by_cases unix :
      features.unixLocal = true ∧ localPrefix.isPrefixOf host = true
  · rw [if_pos unix, if_pos unix]
    rfl
  · rw [if_neg unix, if_neg unix]
    dsimp only
    split
    · rfl
    · split
      · rfl
      · split <;> rfl

/-- A text that is accepted gives its address with and without the flag; any
other text is reported, and only the flag makes the program die of it. -/
theorem str2sockaddr_answers (truncates : libc.Truncates)
    (numericHost : Bool) :
    (∃ sa, Accepts features libc hgetaddrinfo host port af numericHost sa ∧
      ∀ dieOnError, str2sockaddr features libc hgetaddrinfo host port af
        ⟨numericHost, dieOnError⟩ = .sockaddr sa) ∨
    (∀ sa, ¬Accepts features libc hgetaddrinfo host port af numericHost sa) ∧
      ((∃ message : Complaint, message.orgHost = host ∧
          ∀ dieOnError, str2sockaddr features libc hgetaddrinfo host port af
            ⟨numericHost, dieOnError⟩ =
              if dieOnError then .died message else .null message) ∨
        ∀ dieOnError, str2sockaddr features libc hgetaddrinfo host port af
          ⟨numericHost, dieOnError⟩ = .lost) := by
  have dying := @str2sockaddr_dieOnError features libc hgetaddrinfo host port
    af numericHost
  have accepted := @str2sockaddr_eq_sockaddr_iff features libc hgetaddrinfo
    host port af ⟨numericHost, false⟩ truncates
  have complains := @str2sockaddr_complains features libc hgetaddrinfo host
    port af numericHost
  have both : ∀ {P : Bool → Prop}, P false → P true → ∀ flag, P flag := by
    intro P off on flag
    cases flag
    · exact off
    · exact on
  cases plain : str2sockaddr features libc hgetaddrinfo host port af
      ⟨numericHost, false⟩ with
  | sockaddr sa =>
      rw [plain] at dying
      exact .inl ⟨sa, accepted.mp plain, both plain dying⟩
  | null message =>
      rw [plain] at dying
      refine .inr ⟨fun sa accepts => ?_, .inl ⟨message, complains.1 plain,
        both plain dying⟩⟩
      have found := accepted.mpr accepts
      rw [plain] at found
      cases found
  | died message => exact absurd plain complains.2
  | lost =>
      rw [plain] at dying
      refine .inr ⟨fun sa accepts => ?_, .inr (both plain dying)⟩
      have found := accepted.mpr accepts
      rw [plain] at found
      cases found

end Accepted

/-- `safe_strncpy` alone; nothing is read, and nothing is printed. -/
private def copyLibc : Libc where
  safeStrncpy src size := src.take (size - 1)
  bbStrtou _ := none
  inetAton _ := none
  inetPton _ := none
  getnameinfo _ _ := none

theorem str2sockaddr_answers_local :
    ∃ sa, Accepts ⟨true, true, true⟩ copyLibc (fun _ _ _ => .error)
        (localPrefix ++ List.replicate 110 47) 80 .unspec false sa ∧
      ∀ dieOnError, str2sockaddr ⟨true, true, true⟩ copyLibc
        (fun _ _ _ => .error) (localPrefix ++ List.replicate 110 47) 80 .unspec
        ⟨false, dieOnError⟩ = .sockaddr sa := by
  have truncates : copyLibc.Truncates := fun _ _ => rfl
  have accepted : Accepts ⟨true, true, true⟩ copyLibc (fun _ _ _ => .error)
      (localPrefix ++ List.replicate 110 47) 80 .unspec false
      (.un (List.replicate 107 47)) := by
    rw [Accepts, if_pos ⟨rfl, rfl⟩]
    exact ⟨_, rfl, rfl⟩
  exact (str2sockaddr_answers truncates false).resolve_right
    fun refused => refused.1 _ accepted

end KernelDrivers.Xconnect
