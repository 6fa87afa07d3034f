import ClusterAgent.Net.Address
import ClusterAgent.Protocol.Requests
import ClusterAgent.Wire.Response

/-!
# A proxy peer

A peer is one front-end proxy as this node talks to it: its endpoint, the base path of its
management URL, its health and whether it has accepted this node, and the open connection if
there is one.

Health moves between three states. `ok`: requests flow. `error`: a transient failure; the next
status pass probes the peer again. `down`: the peer rejected a request as malformed (an error
answer of type `SYNTAX`); it stays down until an operator resets it to `error`.

## Sending

`Peer.send` performs one round trip. A peer that is not `ok` is skipped: nothing is written and
nothing changes. Otherwise the request is written over the open connection, or a new one when
none is open; when opening, arming the deadline or writing fails, the connection is closed and
the write is tried once more over a freshly opened connection. Then one answer is read; reads
are never retried. An answer with status 200 succeeds and, for the verbs that register the node,
marks the peer established; any other answer moves the peer to `down` (type `SYNTAX`, any case)
or `error`, as does a failure to write or read. A connection survives only a successful round
trip whose answer did not ask to close it.

What the network does is an argument: an `Exchange` gives the outcome of each step a send may
take, so every statement about sending holds for every behaviour of the network.
-/

namespace ClusterAgent

/-- The health of a peer. A state set from a code outside 0..2 is `other`: neither healthy nor
eligible for a probe. -/
inductive PeerState where
  | ok
  | error
  | down
  | other (code : Int32)
  deriving DecidableEq

namespace PeerState

/-- The name of a state. -/
def name : PeerState → String
  | ok => "OK"
  | error => "ERROR"
  | down => "DOWN"
  | other _ => "UNKNOWN"

/-- The state of a numeric code: 0 to 2 in the order above, anything else `other`. -/
def ofCode (n : Int32) : PeerState :=
  match n.toInt with
  | 0 => ok
  | 1 => error
  | 2 => down
  | _ => other n

end PeerState

/-- An open connection, known by the local endpoint it was opened from. -/
structure Link where
  source : Endpoint
  deriving DecidableEq

/-- What the network does during one send: the connection a dial opens (`none` when dialling
fails), whether arming the deadline and writing succeed, for the first attempt and for the one
retry, and the bytes the peer answers with. The first dial is consulted only when no connection
is open. -/
structure Exchange where
  firstDial : Option Link := none
  firstWrite : Bool := false
  retryDial : Option Link := none
  retryWrite : Bool := false
  reply : Bytes := []

/-- A network: the exchange of the `n`-th send to an endpoint. -/
abbrev Network := Endpoint → Nat → Request → Exchange

/-- The network of a host that no front-end accepts connections from: every dial fails, and so
does every write on a connection that was planted in advance. -/
def Network.unreachable : Network := fun _ _ _ => {}

/-- One I/O step of a send. -/
inductive IoStep where
  | dial (ok : Bool)
  | write (bytes : Bytes) (ok : Bool)
  | close
  | read
  deriving DecidableEq

/-- Why a peer address was refused. -/
structure PeerAddressError where
  address : Bytes
  cause : AddressError
  deriving DecidableEq

/-- The message of a refused peer address. -/
def PeerAddressError.message (e : PeerAddressError) : Bytes :=
  Bytes.ofString ("cannot resolve proxy address " ++ Text.quote e.address ++ ": ") ++
    e.cause.message

/-- Reads a peer address (`host:port`, surrounding white space ignored), given as bytes, looking
a host name up with `dns`. -/
def resolvePeerAddress (dns : Resolver) (s : Bytes) : Except PeerAddressError Endpoint :=
  match Endpoint.resolve dns s.trimBlank with
  | .ok e => .ok e
  | .error c => .error ⟨s, c⟩

/-- A front-end proxy. -/
structure Peer where
  endpoint : Endpoint
  basePath : String := "/"
  state : PeerState := .error
  established : Bool := false
  link : Option Link := none
  /-- How many sends have reached the network. -/
  sends : Nat := 0
  deriving DecidableEq

/-- The answer of one send: the body, and whether the round trip succeeded. -/
structure Reply where
  body : Bytes := []
  ok : Bool := false
  deriving DecidableEq, Repr

namespace Peer

/-- A new peer, in `error` so that the next status pass probes it. An empty base path is `/`. -/
def new (e : Endpoint) (basePath : String) : Peer :=
  { endpoint := e, basePath := if basePath.isEmpty then "/" else basePath }

/-- The identity of a peer. -/
def key (p : Peer) : String := p.endpoint.key

/-- The `Host` header sent to the peer. -/
def hostHeader (p : Peer) : String := p.endpoint.hostHeader

/-- Closes the connection. -/
def disconnect (p : Peer) : Peer := { p with link := none }

/-- Moves a `down` peer back to `error`; `false` for a peer in any other state. -/
def reset (p : Peer) : Peer × Bool :=
  if p.state = .down then ({ p with state := .error }, true) else (p, false)

/-- A failed round trip: the peer goes to `error` and loses its connection. -/
def fail (p : Peer) : Peer := { p with state := .error, link := none }

/-- Delivers the request: over the open connection or a new one, then once more over a new
connection. Returns the connection that carried it (none when both attempts failed) and the
steps taken. -/
def deliver (p : Peer) (x : Exchange) (msg : Bytes) : Option Link × List IoStep :=
  let (first, steps) :=
    match p.link with
    | some l => (some l, [])
    | none => (x.firstDial, [IoStep.dial x.firstDial.isSome])
  match first with
  | some l =>
    if x.firstWrite then (some l, steps ++ [.write msg true])
    else
      let steps := steps ++ [.write msg false, .close, .dial x.retryDial.isSome]
      match x.retryDial with
      | some l2 => if x.retryWrite then (some l2, steps ++ [.write msg true])
        else (none, steps ++ [.write msg false])
      | none => (none, steps)
  | none =>
    let steps := steps ++ [.close, .dial x.retryDial.isSome]
    match x.retryDial with
    | some l2 => if x.retryWrite then (some l2, steps ++ [.write msg true])
      else (none, steps ++ [.write msg false])
    | none => (none, steps)

/-- One round trip over the network. -/
def send (p : Peer) (net : Network) (r : Request) : Peer × Reply × List IoStep :=
  if p.state ≠ .ok then (p, {}, [])
  else
    let x := net p.endpoint p.sends r
    let p := { p with sends := p.sends + 1 }
    match deliver p x (r.wire p.basePath p.hostHeader) with
    | (none, steps) => (p.fail, {}, steps)
    | (some l, steps) =>
      let steps := steps ++ [.read]
      match Response.read x.reply with
      | .error _ => (p.fail, {}, steps)
      | .ok (resp, _) =>
        let link := if resp.close then none else some l
        if resp.status ≠ 200 then
          let st := if resp.errorType.foldIs "SYNTAX" then PeerState.down else .error
          ({ p with state := st, link := none }, {}, steps)
        else
          ({ p with link := link, established := p.established || r.command.establishes },
            ⟨resp.body, true⟩, steps)

/-- The probe of a failed peer: drop the connection, assume health, and ask for its inventory. -/
def probe (p : Peer) (net : Network) : Peer × Reply × List IoStep :=
  { p with link := none, state := .ok }.send net Request.info

/-- The bytes the peer received: every write that succeeded. -/
def delivered (steps : List IoStep) : List Bytes :=
  steps.filterMap fun
    | .write b true => some b
    | _ => none

end Peer

end ClusterAgent
