import KernelDrivers.Xconnect.Query
import KernelDrivers.Xconnect.Resolv
import KernelDrivers.Xconnect.Response
import KernelDrivers.Xconnect.SockAddr

/-!
# Connecting to a name

`create_and_connect_stream_or_die` reads the peer, and a name that is not
numeric is asked for at the name server of `/etc/resolv.conf`.
-/

namespace KernelDrivers.Xconnect

open KernelDrivers.Library
open KernelDrivers.Library.Dns

/-- `/etc/resolv.conf` with the result of its `read`, and the datagram that
comes back from the server of an address; an error of `recvfrom` is the empty
one. -/
structure Network where
  file : List UInt8
  result : Int
  exchange : List UInt8 → List UInt8 → List UInt8

/-- `sizeof(dnsip)`. -/
abbrev sizeofDnsip : Nat := 32

/-- `get_dns_name` is called twice, and the second call finds the buffer as the
first one has left it. -/
def name2ip (network : Network) (buf res : Memory) (node : List UInt8) :
    Option String := do
  let first ← getDnsName buf network.file network.result
  let second ← getDnsName first.buf network.file network.result
  let dnsip ← second.text
  if dnsip.length < sizeofDnsip then
    let req ← sent node
    received res (network.exchange dnsip req)
  else none

/-- The address that `name2ip` prints is handed to `getaddrinfo`. -/
def hgetaddrinfo (network : Network) (buf res : Memory)
    (getaddrinfo : String → Family → Bool → List SockAddr)
    (node : List UInt8) (af : Family) (numericHost : Bool) : Resolution :=
  match name2ip network buf res node with
  | none => .lost
  | some ip =>
      match getaddrinfo ip af numericHost with
      | [] => .error
      | first :: next => .result first next

/-- The calls of a connection; the program dies where one of them fails. -/
inductive SocketCall where
  | socket (family : Family)
  | setsockoptReuseaddr (fd : Nat)
  | connect (fd : Nat) (addr : SockAddr)
deriving DecidableEq

/-- The calls that are made when `socket` gives `fd`. -/
def createAndConnectStreamOrDie (features : Features) (libc : Libc)
    (resolver : List UInt8 → Family → Bool → Resolution) (fd : Nat)
    (peer : List UInt8) (port : Int) : List SocketCall :=
  match xhost2sockaddr features libc resolver peer port with
  | .sockaddr lsa =>
      [.socket lsa.saFamily, .setsockoptReuseaddr fd, .connect fd lsa]
  | _ => []

/-- A server that is asked for the name answers with a response whose first
record of type A has the address. -/
structure Serves (network : Network) (server : List UInt8) (name : HostName)
    (response : Response) (a : Record) : Prop where
  exchange : ∀ datagram, sent name.text = some datagram →
    network.exchange server datagram = response.encode
  first : ∃ before after, response.answers = before ++ a :: after ∧
    ∀ record ∈ before, record.type.toNat ≠ typeA
  type : a.type.toNat = typeA
  four : a.rdata.length = 4
  fits : response.encode.length ≤ 12 + 1024

section Name

variable {network : Network} {token : List UInt8} {name : HostName}
  {response : Response} {a : Record}

theorem name2ip_serves (buf res : Memory)
    (resolves : ResolvCondition (filled network.file network.result))
    (asked : nameserverToken (filled network.file network.result) = some token)
    (serves : Serves network token name response a) :
    name2ip network buf res name.text = some (inetNtoa a.rdata) := by
  obtain ⟨first, _, finds, -⟩ := resolves.resolvesSafely buf
  obtain ⟨second, token', again, asked', text, short, -⟩ :=
    resolves.resolvesSafely first.buf
  rw [asked] at asked'
  cases asked'
  obtain ⟨before, after, answers, others⟩ := serves.first
  have sends := sent_text name
  have answer := serves.exchange _ sends
  obtain ⟨-, -, -, address, -⟩ := walk_first res response answers others
    serves.type serves.four serves.fits
  simp only [name2ip, finds, again, text, sends, answer, address, if_pos short,
    Option.bind_eq_bind, Option.bind_some]

variable {features : Features} {libc : Libc}
  {getaddrinfo : String → Family → Bool → List SockAddr}
  {peer : List UInt8} {port number : Int} {spec : HostSpec}

/-- A peer with a name that is not numeric is connected to at the address in
the response of the name server, and at the port behind its `:` or the one that
is given. -/
theorem createAndConnect_name (truncates : libc.Truncates)
    (buf res : Memory) (fd : Nat)
    (resolves : ResolvCondition (filled network.file network.result))
    (asked : nameserverToken (filled network.file network.result) = some token)
    (serves : Serves network token name response a)
    (reads : ∀ af numericHost, af ≠ .inet6 →
      getaddrinfo (inetNtoa a.rdata) af numericHost = [.inet 0 a.rdata])
    (written : Written features.ipv6 peer spec) (host : spec.host = name.text)
    (portOf : PortOf libc port spec.port number)
    (named : libc.inetAton name.text = none ∧ libc.inetPton name.text = none)
    (remote : localPrefix.isPrefixOf peer = false) :
    createAndConnectStreamOrDie features libc
        (hgetaddrinfo network buf res getaddrinfo) fd peer port =
      [.socket .inet, .setsockoptReuseaddr fd,
        .connect fd (.inet (htons (UInt16.ofInt number)) a.rdata)] := by
  have address := name2ip_serves buf res resolves asked serves
  have family : (if features.ipv6 then Family.unspec else .inet) ≠ .inet6 := by
    cases features.ipv6 <;> simp
  have found : hostAddr features libc
      (hgetaddrinfo network buf res getaddrinfo) spec.host
      (if features.ipv6 then .unspec else .inet) false =
        .result (.inet 0 a.rdata) [] := by
    rw [host]
    simp only [hostAddr, named, hgetaddrinfo, address, reads _ _ family]
    simp [usedRes, SockAddr.saFamily]
  have accepted : xhost2sockaddr features libc
      (hgetaddrinfo network buf res getaddrinfo) peer port =
        .sockaddr (.inet (htons (UInt16.ofInt number)) a.rdata) := by
    rw [xhost2sockaddr, str2sockaddr_eq_sockaddr_iff truncates, Accepts,
      if_neg (by simp [remote])]
    exact ⟨spec, number, _, _, written, portOf, found,
      (setNport_inet features _ _ _).symm⟩
  rw [createAndConnectStreamOrDie, accepted]
  rfl

end Name

/-- `w.xyz`. -/
private def wxyz : HostName :=
  ⟨[[119], [120, 121, 122]], false, by decide, by decide, by decide⟩

private theorem questionOwner : 0xc000 ≤ (0xc00c : UInt16).toNat := by
  decide

/-- The address of the alias, whose name is at byte 35. -/
private def wxyzAddress : Record :=
  ⟨0xc023, 1, 1, 60, [192, 0, 2, 9], by decide, by decide⟩

private def wxyzResponse : Response where
  id := 0x4419
  flags := 0x8180
  question := wxyz
  answers := [⟨0xc00c, 5, 1, 60, [1, 121, 0], questionOwner, by decide⟩,
    wxyzAddress]
  authorityCount := 0
  additionalCount := 0
  sections := []

/-- `nameserver 192.0.2.1`. -/
private def wxyzNetwork : Network where
  file := nameserver ++ 32 :: [49, 57, 50, 46, 48, 46, 50, 46, 49] ++ [10]
  result := 21
  exchange server _ :=
    if server = [49, 57, 50, 46, 48, 46, 50, 46, 49] then wxyzResponse.encode
    else []

private theorem wxyzNetwork_resolves :
    ResolvCondition (filled wxyzNetwork.file wxyzNetwork.result) := by
  refine ⟨0, 11, 20, ⟨rfl, ?_, by decide, rfl, ?_, by decide, rfl, ?_⟩,
    by decide, by decide, by decide⟩
  · intro place before
    exact absurd before (Nat.not_lt_zero _)
  · intro place lower upper
    have size : nameserver.length = 10 := rfl
    obtain rfl : place = 10 := by omega
    rfl
  · intro place lower upper
    have digits : ∀ offset < 9, inToken (Memory.ofList
        (filled wxyzNetwork.file wxyzNetwork.result) (11 + offset)) = true := by
      decide
    obtain ⟨offset, rfl⟩ := Nat.exists_eq_add_of_le lower
    exact digits offset (by omega)

private theorem wxyzNetwork_serves :
    Serves wxyzNetwork [49, 57, 50, 46, 48, 46, 50, 46, 49] wxyz wxyzResponse
      wxyzAddress where
  exchange _ _ := by
    simp only [wxyzNetwork, ↓reduceIte]
  first := ⟨[_], [], rfl, by decide⟩
  type := rfl
  four := rfl
  fits := by decide

/-- `8080` is the only number that is read, and no host is numeric. -/
private def wxyzLibc : Libc where
  safeStrncpy src size := src.take (size - 1)
  bbStrtou text := if text = [56, 48, 56, 48] then some 8080 else none
  inetAton _ := none
  inetPton _ := none
  getnameinfo _ _ := none

/-- `w.xyz:8080`. -/
theorem createAndConnect_name_wxyz :
    createAndConnectStreamOrDie ⟨true, true, true⟩ wxyzLibc
        (hgetaddrinfo wxyzNetwork (fun _ => 0) (fun _ => 0) fun ip _ _ =>
          if ip = inetNtoa [192, 0, 2, 9] then [.inet 0 [192, 0, 2, 9]] else [])
        3 (wxyz.text ++ 58 :: [56, 48, 56, 48]) 80 =
      [.socket .inet, .setsockoptReuseaddr 3,
        .connect 3 (.inet (htons (UInt16.ofInt 8080)) [192, 0, 2, 9])] :=
  @createAndConnect_name wxyzNetwork _ wxyz wxyzResponse wxyzAddress
    ⟨true, true, true⟩ _ _ _ 80 8080 ⟨wxyz.text, some [56, 48, 56, 48]⟩
    (fun _ _ => rfl) _ _ 3
    wxyzNetwork_resolves (by decide) wxyzNetwork_serves
    (fun _ _ _ => if_pos rfl) (.withPort (by decide) (by decide) (by decide))
    rfl ⟨8080, by decide, rfl, rfl⟩ ⟨rfl, rfl⟩ (by decide)

end KernelDrivers.Xconnect
