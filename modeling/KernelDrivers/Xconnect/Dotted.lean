import KernelDrivers.Xconnect.SockAddr

/-!
# The text of a numeric address

What `sockaddr2str` prints for an address is read back by `str2sockaddr`, and
the resolver has no part in it.
-/

namespace KernelDrivers.Xconnect

open KernelDrivers.Library

theorem htons_ntohs (port : UInt16) : htons (ntohs port) = port := by
  apply UInt16.toBitVec_inj.mp
  ext i inside
  simp only [ntohs, htons]
  simp [inside]
  grind

theorem ofInt_toNat (port : UInt16) : UInt16.ofInt port.toNat = port := by
  have small := port.toNat_lt
  apply UInt16.toNat_inj.mp
  rw [UInt16.ofInt, UInt16.toNat_ofNat']
  omega

/-- The bytes of numeric IPv6 addresses. -/
def inAddr6 (c : UInt8) : Bool :=
  inToken c || decide (c = 58) || decide (97 ≤ c) && decide (c ≤ 102)

/-- The numeric forms that `getnameinfo` documents for an address, which the
readers take back. -/
inductive Numeric (features : Features) (libc : Libc) :
    SockAddr → List UInt8 → List UInt8 → Prop where
  | inet {port : UInt16} {addr host serv : List UInt8}
      (names : ∀ ignorePort,
        libc.getnameinfo (.inet port addr) ⟨true, false, ignorePort⟩ =
          some (host, serv))
      (dots : ∀ c ∈ host, inToken c = true)
      (reads : libc.inetAton host = some addr) :
      Numeric features libc (.inet port addr) host serv
  | inet6 {port : UInt16} {addr first second third serv : List UInt8}
      (on : features.ipv6 = true)
      (names : ∀ ignorePort,
        libc.getnameinfo (.inet6 port 0 addr 0) ⟨true, false, ignorePort⟩ =
          some (first ++ 58 :: second ++ 58 :: third, serv))
      (digits : ∀ c ∈ first ++ 58 :: second ++ 58 :: third, inAddr6 c = true)
      (other : libc.inetAton (first ++ 58 :: second ++ 58 :: third) = none)
      (reads : libc.inetPton (first ++ 58 :: second ++ 58 :: third) =
        some addr) :
      Numeric features libc (.inet6 port 0 addr 0)
        (first ++ 58 :: second ++ 58 :: third) serv

/-- The port is printed in decimal. -/
structure NumericPort (features : Features) (libc : Libc) (sa : SockAddr)
    (serv : List UInt8) : Prop where
  digits : ∀ c ∈ serv, isdigit c = true
  reads : ∃ port : UInt16, setNport features sa port = sa ∧
    libc.bbStrtou serv = some (ntohs port).toNat

section RoundTrip

variable {features : Features} {libc : Libc}
  {hgetaddrinfo : List UInt8 → Family → Bool → Resolution}
  {sa : SockAddr} {host serv text : List UInt8}

theorem not_localPrefix (other : text.head? ≠ some 108) :
    ¬(features.unixLocal = true ∧ localPrefix.isPrefixOf text = true) := by
  rintro ⟨-, starts⟩
  obtain ⟨path, rfl⟩ := isPrefixOf_iff.mp starts
  exact other rfl

theorem head?_ne_of_forall {c : UInt8} {good : UInt8 → Bool}
    (all : ∀ c ∈ text, good c = true) (bad : good c = false) :
    text.head? ≠ some c := by
  intro head
  rw [all c (List.mem_of_head? head)] at bad
  cases bad

theorem not_mem_of_forall {c : UInt8} {good : UInt8 → Bool}
    (all : ∀ c ∈ text, good c = true) (bad : good c = false) : c ∉ text := by
  intro member
  rw [all c member] at bad
  cases bad

/-- The numeric readers find the address, and the resolver is not asked. -/
theorem Numeric.hostAddr_eq (numeric : Numeric features libc sa host serv)
    (hgetaddrinfo : List UInt8 → Family → Bool → Resolution)
    (numericHost : Bool) :
    hostAddr features libc hgetaddrinfo host
        (if features.ipv6 then .unspec else .inet) numericHost =
      .result (setNport features sa 0) [] := by
  cases numeric with
  | inet names dots reads =>
      have family : (if features.ipv6 then Family.unspec else .inet) ≠
          .inet6 := by
        cases features.ipv6 <;> simp
      simp only [hostAddr, if_pos family, reads, setNport_inet]
      rfl
  | inet6 on names digits other reads =>
      rw [setNport_inet6 on]
      simp only [hostAddr, on, other, reads]
      rfl

theorem Numeric.written_host (numeric : Numeric features libc sa host serv) :
    Written features.ipv6 host ⟨host, none⟩ := by
  cases numeric with
  | inet names dots reads =>
      exact .bare (fun _ => head?_ne_of_forall dots rfl)
        (not_mem_of_forall dots rfl)
  | @inet6 _ _ first _ _ _ on names digits other reads =>
      have front : ∀ c ∈ first ++ [58], inAddr6 c = true := by
        intro c member
        apply digits
        simp only [List.mem_append, List.mem_cons] at member ⊢
        grind
      exact .colons on (head?_ne_of_forall front rfl)

theorem Numeric.head?_host (numeric : Numeric features libc sa host serv) :
    host.head? ≠ some 108 := by
  cases numeric with
  | inet names dots reads => exact head?_ne_of_forall dots rfl
  | inet6 on names digits other reads => exact head?_ne_of_forall digits rfl

theorem Numeric.dottedNoport (numeric : Numeric features libc sa host serv) :
    xmallocSockaddr2dottedNoport features libc sa = some host := by
  cases numeric with
  | inet names dots reads =>
      simp [xmallocSockaddr2dottedNoport, sockaddr2str, names]
  | inet6 on names digits other reads =>
      simp [xmallocSockaddr2dottedNoport, sockaddr2str, names]

/-- The text with the port is in the grammar, with the host in brackets where
it has a `:`. -/
theorem Numeric.dotted (numeric : Numeric features libc sa host serv)
    (decimal : ∀ c ∈ serv, isdigit c = true) :
    ∃ text, xmallocSockaddr2dotted features libc sa = some text ∧
      Written features.ipv6 text ⟨host, some serv⟩ ∧
      text.head? ≠ some 108 := by
  cases numeric with
  | inet names dots reads =>
      have front : ∀ c ∈ host ++ [58], inAddr6 c = true := by
        intro c member
        rw [List.mem_append, List.mem_singleton] at member
        cases member with
        | inl inside => simp [inAddr6, dots c inside]
        | inr colon => rw [colon]; rfl
      refine ⟨host ++ 58 :: serv, ?_, ?_, ?_⟩
      · simp [xmallocSockaddr2dotted, sockaddr2str, names]
      · exact .withPort (fun _ => head?_ne_of_forall front rfl)
          (fun _ => not_mem_of_forall dots rfl)
          (not_mem_of_forall decimal rfl)
      · rw [head?_append_colon]
        exact head?_ne_of_forall front rfl
  | @inet6 _ _ first second third _ on names digits other reads =>
      refine ⟨91 :: (first ++ 58 :: second ++ 58 :: third) ++ 93 :: 58 :: serv,
        ?_, .bracketedPort on (not_mem_of_forall digits rfl), ?_⟩
      · simp [xmallocSockaddr2dotted, sockaddr2str, names, on]
      · simp

/-- A numeric address comes back from its text: with its own port from the text
that has one, and with the port that is given from the text that has none. -/
theorem str2sockaddr_dotted (truncates : libc.Truncates)
    (numeric : Numeric features libc sa host serv)
    (decimal : NumericPort features libc sa serv) (port : Int)
    (aiFlags : AiFlags) :
    (∃ text, xmallocSockaddr2dotted features libc sa = some text ∧
      str2sockaddr features libc hgetaddrinfo text port .unspec aiFlags =
        .sockaddr sa) ∧
    ∃ text, xmallocSockaddr2dottedNoport features libc sa = some text ∧
      str2sockaddr features libc hgetaddrinfo text port .unspec aiFlags =
        .sockaddr (setNport features sa (htons (UInt16.ofInt port))) := by
  have found := numeric.hostAddr_eq hgetaddrinfo aiFlags.numericHost
  have again : ∀ port, setNport features (setNport features sa 0) port =
      setNport features sa port := by
    intro port
    cases known : features.ipv6 <;> cases sa <;> simp [setNport, known]
  constructor
  · obtain ⟨text, prints, written, head⟩ := numeric.dotted decimal.digits
    obtain ⟨sinPort, own, reads⟩ := decimal.reads
    refine ⟨text, prints, ?_⟩
    rw [str2sockaddr_eq_sockaddr_iff truncates, Accepts,
      if_neg (not_localPrefix head)]
    refine ⟨_, (ntohs sinPort).toNat, _, _, written, ?_, found, ?_⟩
    · have small := (ntohs sinPort).toNat_lt
      exact ⟨_, by omega, reads, rfl⟩
    · rw [ofInt_toNat, htons_ntohs, again, own]
  · refine ⟨host, numeric.dottedNoport, ?_⟩
    rw [str2sockaddr_eq_sockaddr_iff truncates, Accepts,
      if_neg (not_localPrefix numeric.head?_host)]
    exact ⟨_, port, _, _, numeric.written_host, rfl, found, (again _).symm⟩

/-- `2001:db8::1` and `8080`, the only texts that are read. -/
private def numericLibc : Libc where
  safeStrncpy src size := src.take (size - 1)
  bbStrtou text := if text = [56, 48, 56, 48] then some 8080 else none
  inetAton _ := none
  inetPton text :=
    if text = [50, 48, 48, 49, 58, 100, 98, 56, 58, 58, 49] then
      some [32, 1, 13, 184, 0, 0, 0, 0, 0, 0, 0, 0, 0, 0, 0, 1]
    else none
  getnameinfo _ _ :=
    some ([50, 48, 48, 49, 58, 100, 98, 56, 58, 58, 49], [56, 48, 56, 48])

theorem str2sockaddr_dotted_inet6 :
    (∃ text, xmallocSockaddr2dotted ⟨true, true, true⟩ numericLibc
        (.inet6 0x901f 0 [32, 1, 13, 184, 0, 0, 0, 0, 0, 0, 0, 0, 0, 0, 0, 1]
          0) = some text ∧
      str2sockaddr ⟨true, true, true⟩ numericLibc (fun _ _ _ => .error) text 80
          .unspec ⟨false, true⟩ =
        .sockaddr (.inet6 0x901f 0
          [32, 1, 13, 184, 0, 0, 0, 0, 0, 0, 0, 0, 0, 0, 0, 1] 0)) ∧
    ∃ text, xmallocSockaddr2dottedNoport ⟨true, true, true⟩ numericLibc
        (.inet6 0x901f 0 [32, 1, 13, 184, 0, 0, 0, 0, 0, 0, 0, 0, 0, 0, 0, 1]
          0) = some text ∧
      str2sockaddr ⟨true, true, true⟩ numericLibc (fun _ _ _ => .error) text 80
          .unspec ⟨false, true⟩ =
        .sockaddr (.inet6 0x5000 0
          [32, 1, 13, 184, 0, 0, 0, 0, 0, 0, 0, 0, 0, 0, 0, 1] 0) :=
  @str2sockaddr_dotted ⟨true, true, true⟩ numericLibc _ _ _ [56, 48, 56, 48]
    (fun _ _ => rfl)
    (@Numeric.inet6 _ _ _ _ [50, 48, 48, 49] [100, 98, 56] [58, 49] _ rfl
      (fun _ => rfl) (List.all_eq_true.mp rfl) rfl rfl)
    ⟨List.all_eq_true.mp rfl, 0x901f, rfl, rfl⟩ 80 ⟨false, true⟩

/-- A path of all 108 bytes is printed whole and read without its last byte. -/
theorem str2sockaddr_local_iff (truncates : libc.Truncates)
    (on : features.unixLocal = true)
    {path : List UInt8} (inside : path.length ≤ sizeofSunPath) (port : Int)
    (af : Family) (aiFlags : AiFlags) :
    (∃ text, xmallocSockaddr2host features libc (.un path) = some text ∧
      str2sockaddr features libc hgetaddrinfo text port af aiFlags =
        .sockaddr (.un path)) ↔
      path.length < sizeofSunPath := by
  have prints : xmallocSockaddr2host features libc (.un path) =
      some (localPrefix ++ path) := by
    simp only [xmallocSockaddr2host, sockaddr2str, on,
      List.take_of_length_le inside]
  have starts : features.unixLocal = true ∧
      localPrefix.isPrefixOf (localPrefix ++ path) = true :=
    ⟨on, isPrefixOf_iff.mpr ⟨path, rfl⟩⟩
  constructor
  · rintro ⟨text, printed, reads⟩
    rw [prints] at printed
    cases printed
    rw [str2sockaddr_eq_sockaddr_iff truncates, Accepts, if_pos starts] at reads
    obtain ⟨path', same, cut⟩ := reads
    rw [List.append_cancel_left_eq] at same
    rw [← same] at cut
    have length := congrArg List.length (SockAddr.un.inj cut)
    rw [List.length_take] at length
    simp only [sizeofSunPath] at length ⊢
    omega
  · intro short
    refine ⟨_, prints, ?_⟩
    rw [str2sockaddr_eq_sockaddr_iff truncates, Accepts, if_pos starts]
    refine ⟨path, rfl, ?_⟩
    rw [List.take_of_length_le (Nat.le_sub_one_of_lt short)]

end RoundTrip

end KernelDrivers.Xconnect
