import ClusterAgent.Text.Blank
import ClusterAgent.Net.Literal

/-!
# IP addresses and endpoints

An `IP` is a point of the 128-bit IPv6 space; an IPv4 address is its v4-mapped form
`::ffff:a.b.c.d`, so that one type holds both and equality is equality of the sixteen octets.

Text forms:
* reading (`IP.parse?`) accepts the address literals `readAddrLiteral` reads, without a zone;
* writing (`IP.toText`) gives dotted-quad for v4-mapped addresses and otherwise the canonical
  IPv6 text: lower-case groups without leading zeros, and the first longest run of two or more
  zero groups written `::`.

An `Endpoint` is an address and a port as a connection target. Reading `host:port` follows the
usual rules: brackets around an IPv6 host, a port that is a decimal number or one of the
well-known service names, and the empty host for "no address". A host that is no IP literal is
a name, looked up with a name service (`Resolver`) given as a parameter.
-/

namespace ClusterAgent

/-- An IP address, as sixteen octets. -/
structure IP where
  octets : Vector UInt8 16
  deriving DecidableEq

namespace IP

/-- Sixteen octets from a list, when it has exactly sixteen. -/
def ofList? (l : List UInt8) : Option IP :=
  if h : l.toArray.size = 16 then some ⟨⟨l.toArray, h⟩⟩ else none

/-- Reads an address with an optional IPv6 zone (`fe80::1%eth0`), as `readAddrLiteral` reads
it; the zone is empty for none. -/
def parseZoned? (s : String) : Option (IP × String) :=
  match readAddrLiteral (Bytes.ofString s) with
  | .ok l => (ofList? l.octets).map fun ip => (ip, (Bytes.toString? l.zone).getD "")
  | .error _ => none

/-- Reads an address without a zone. -/
def parse? (s : String) : Option IP :=
  match parseZoned? s with
  | some (ip, "") => some ip
  | _ => none

/-- Whether the address is IPv4 (v4-mapped). -/
def isV4 (ip : IP) : Bool :=
  ip.octets.toList.take 10 == List.replicate 10 0 && ip.octets[10] == 0xFF && ip.octets[11] == 0xFF

/-- The eight 16-bit groups. -/
def groups (ip : IP) : List Nat :=
  (List.range 8).map fun i => ip.octets.toList[2 * i]!.toNat * 256 + ip.octets.toList[2 * i + 1]!.toNat

/-- The length of the run of zero groups starting at each position. -/
def zeroRun (gs : List Nat) (i : Nat) : Nat :=
  ((gs.drop i).takeWhile (· == 0)).length

/-- Where the `::` goes: the first longest run of at least two zero groups. -/
def gapOf (gs : List Nat) : Option (Nat × Nat) :=
  (List.range 8).foldl (fun best i =>
    let l := zeroRun gs i
    match best with
    | some (_, bl) => if l > bl then some (i, l) else best
    | none => if l ≥ 2 then some (i, l) else none) none

/-- A group in lower-case hex without leading zeros. -/
def groupText (g : Nat) : String := String.ofList (Nat.toDigits 16 g)

/-- The canonical text of an IPv6 address. -/
def v6Text (ip : IP) : String :=
  let gs := ip.groups
  match gapOf gs with
  | none => String.intercalate ":" (gs.map groupText)
  | some (i, l) =>
    String.intercalate ":" ((gs.take i).map groupText) ++ "::" ++
      String.intercalate ":" ((gs.drop (i + l)).map groupText)

/-- The text of an address: dotted quad for IPv4, canonical IPv6 otherwise. -/
def toText (ip : IP) : String :=
  if ip.isV4 then
    String.intercalate "." ((ip.octets.toList.drop 12).map fun b => toString b.toNat)
  else ip.v6Text

/-- Whether the address is `0.0.0.0` or `::`. -/
def isUnspecified (ip : IP) : Bool :=
  ip.octets.toList == List.replicate 16 0 ||
    ip.octets.toList == List.replicate 10 0 ++ [0xFF, 0xFF, 0, 0, 0, 0]

/-- The unspecified IPv6 address `::`. -/
def any6 : IP := ⟨Vector.replicate 16 0⟩

/-- The unspecified IPv4 address `0.0.0.0`. -/
def any4 : IP := ⟨#v[0, 0, 0, 0, 0, 0, 0, 0, 0, 0, 0xFF, 0xFF, 0, 0, 0, 0]⟩

end IP

/-- A name service: the addresses it gives for a host name, in its order. A name it gives no
address for is unknown. -/
structure Resolver where
  lookup : Bytes → List IP

namespace Resolver

/-- The name service that knows no name, so that only IP literals name hosts. -/
def empty : Resolver := ⟨fun _ => []⟩

/-- The address a connection to a name goes to, among the addresses `ips` the name service gave:
the first IPv4 address, or the first other one when the host was written in brackets; the first
address when none is of that family. A name that stands for `::` alone also stands for
`0.0.0.0`, after it. -/
def pick (ips : List IP) (bracketed : Bool) : Option IP :=
  let ips := if ips = [IP.any6] then ips ++ [IP.any4] else ips
  (ips.find? fun ip => ip.isV4 != bracketed).or ips.head?

end Resolver

/-- An optional address as a connector announces it: nothing for no address, dotted quad for
IPv4, and bracketed canonical text for IPv6. -/
def formatAddress : Option IP → String
  | none => ""
  | some ip => if ip.isV4 then ip.toText else "[" ++ ip.toText ++ "]"

/-- Why a `host:port` text does not name an endpoint. The texts are bytes, as the address was
given. -/
inductive AddressError where
  | missingPort (addr : Bytes)
  | tooManyColons (addr : Bytes)
  | missingBracket (addr : Bytes)
  | strayBracket (addr : Bytes) (bracket : Char)
  | invalidPort (service : Bytes)
  | unknownPort (service : Bytes)
  | unknownHost (host : Bytes)
  deriving DecidableEq, Repr

namespace AddressError

/-- A complaint about an address, naming it when it is not empty. -/
def about (addr : Bytes) (why : String) : Bytes :=
  if addr.isEmpty then Bytes.ofString why
  else Bytes.ofString "address " ++ addr ++ Bytes.ofString (": " ++ why)

/-- The message of an address error. -/
def message : AddressError → Bytes
  | missingPort a => about a "missing port in address"
  | tooManyColons a => about a "too many colons in address"
  | missingBracket a => about a "missing ']' in address"
  | strayBracket a b => about a ("unexpected '" ++ String.singleton b ++ "' in address")
  | invalidPort s => about s "invalid port"
  | unknownPort s => Bytes.ofString "lookup tcp/" ++ s ++ Bytes.ofString ": unknown port"
  | unknownHost h => Bytes.ofString "lookup " ++ h ++ Bytes.ofString ": no such host"

end AddressError

/-- Splits `host:port` at the last colon; an IPv6 host is written in brackets. -/
def splitHostPort (s : Bytes) : Except AddressError (Bytes × Bytes) :=
  let lastColon := (s.length - 1) - ((s.reverse.findIdx? (· == 0x3A)).getD 0)
  if !s.contains 0x3A then .error (.missingPort s)
  else
    let checkBrackets (j k : Nat) (host : Bytes) : Except AddressError (Bytes × Bytes) :=
      if (s.drop j).contains 0x5B then .error (.strayBracket s '[')
      else if (s.drop k).contains 0x5D then .error (.strayBracket s ']')
      else .ok (host, s.drop (lastColon + 1))
    if s.head? == some 0x5B then
      match s.findIdx? (· == 0x5D) with
      | none => .error (.missingBracket s)
      | some close =>
        if close + 1 = s.length then .error (.missingPort s)
        else if close + 1 = lastColon then
          checkBrackets 1 (close + 1) ((s.take close).drop 1)
        else if s[close + 1]? == some 0x3A then .error (.tooManyColons s)
        else .error (.missingPort s)
    else
      let host := s.take lastColon
      if host.contains 0x3A then .error (.tooManyColons s)
      else checkBrackets 0 0 host

/-- Joins a host and a port given as bytes, bracketing a host that holds a colon. -/
def Bytes.joinHostPort (host port : Bytes) : Bytes :=
  if host.contains 0x3A then [0x5B] ++ host ++ [0x5D, 0x3A] ++ port else host ++ [0x3A] ++ port

/-- Joins a host and a port, bracketing a host that holds a colon. -/
def joinHostPort (host port : String) : String :=
  if host.toList.contains ':' then "[" ++ host ++ "]:" ++ port else host ++ ":" ++ port

/-- Well-known TCP service names and their ports. -/
def serviceNames : List (String × Nat) :=
  [("ftp", 21), ("ftps", 990), ("gopher", 70), ("http", 80), ("https", 443), ("imap2", 143),
   ("imap3", 220), ("imaps", 993), ("pop3", 110), ("pop3s", 995), ("smtp", 25),
   ("submissions", 465), ("ssh", 22), ("telnet", 23)]

/-- Accumulates port digits in 32-bit arithmetic, as the port reader does: a value that has
reached 2^30 before a digit, or a sum that wraps, saturates. `none` when a non-digit comes
first: the text is then a service name. -/
def portDigits : Bytes → UInt32 → Option UInt32
  | [], n => some n
  | c :: cs, n =>
    if !(0x30 ≤ c && c ≤ 0x39) then none
    else if n ≥ 0x40000000 then some 0xFFFFFFFF
    else
      let m := n * 10
      let nn := m + (c - 0x30).toUInt32
      if nn < m then some 0xFFFFFFFF else portDigits cs nn

/-- The numeric value of a port text with an optional sign, values from 2^30 on clamped to
2^30 - 1 (or -2^30); `none` for a service name. -/
def portNumber? (service : Bytes) : Option Int :=
  let (neg, digits) :=
    match service with
    | 0x2B :: r => (false, r)
    | 0x2D :: r => (true, r)
    | r => (false, r)
  (portDigits digits 0).map fun n =>
    let cutoff : Int := 0x40000000
    let v : Int := if !neg && (n.toNat : Int) ≥ cutoff then cutoff - 1
      else if neg && (n.toNat : Int) > cutoff then cutoff else n.toNat
    if neg then -v else v

/-- The port a service text names; a service name is matched without regard to ASCII case. -/
def lookupPort (service : Bytes) : Except AddressError Nat :=
  if service.isEmpty then .ok 0
  else
    match portNumber? service with
    | some p => if 0 ≤ p ∧ p ≤ 65535 then .ok p.toNat else .error (.invalidPort service)
    | none =>
      let lower := service.map fun b => if 0x41 ≤ b && b ≤ 0x5A then b + 0x20 else b
      match (Bytes.toString? lower).bind fun name => serviceNames.lookup name with
      | some p => .ok p
      | none => .error (.unknownPort service)

/-- A connection target: an optional address (none stands for every local address), an IPv6
zone and a port. -/
structure Endpoint where
  ip : Option IP
  zone : String := ""
  port : Nat
  deriving DecidableEq

namespace Endpoint

/-- Reads `host:port`, looking host names up with the name service `dns`. The empty text is the
endpoint with no address and port 0. An IP literal stands for itself, its zone kept as text, a
byte that is not UTF-8 read as U+FFFD; another host is a name, refused when `dns` gives it no
address. -/
def resolve (dns : Resolver) (s : Bytes) : Except AddressError Endpoint :=
  if s.isEmpty then .ok ⟨none, "", 0⟩
  else
    match splitHostPort s with
    | .error e => .error e
    | .ok (host, service) =>
      match lookupPort service with
      | .error e => .error e
      | .ok port =>
        if host.isEmpty then .ok ⟨none, "", port⟩
        else
          match readAddrLiteral host with
          | .ok l =>
            match IP.ofList? l.octets with
            | some ip => .ok ⟨some ip, l.zone.toText, port⟩
            | none => .error (.unknownHost host)
          | .error _ =>
            match Resolver.pick (dns.lookup host) (s.contains 0x5B) with
            | some ip => .ok ⟨some ip, "", port⟩
            | none => .error (.unknownHost host)

/-- The identity text of an endpoint, `host:port` with an IPv6 host in brackets. -/
def key (e : Endpoint) : String :=
  let host := match e.ip with
    | none => ""
    | some ip => ip.toText ++ (if e.zone.isEmpty then "" else "%" ++ e.zone)
  joinHostPort host (toString e.port)

/-- The value of a `Host` header naming the endpoint: the address (`<nil>` when there is none),
bracketed when IPv6, then the port. -/
def hostHeader (e : Endpoint) : String :=
  let host := match e.ip with
    | none => "<nil>"
    | some ip => if ip.isV4 then ip.toText else "[" ++ ip.toText ++ "]"
  host ++ ":" ++ toString e.port

end Endpoint

end ClusterAgent
