import ClusterAgent.Peer.Basic
import ClusterAgent.Net.Url
import ClusterAgent.Protocol.Inventory
import ClusterAgent.Protocol.Replies

/-!
# The pool of peers

The pool holds every front-end proxy this node talks to, in the order they joined. Membership
changes are staged: `addPeer` and `removePeer` only record the wish, and the next status pass
applies the staged changes together and then drops every connection, so that all peers
reconnect cleanly. Staging cancels itself: adding a peer whose removal is pending withdraws the
removal, and removing one whose addition is pending withdraws the addition.

A request is fanned out to every peer in turn; a peer that is not healthy is skipped and yields
a failed reply. A batch goes to each peer in order, and a peer that fails part way skips the
rest of the batch.

The status pass probes every peer in `error` with an `INFO` request. The first probe that
succeeds tells the node, once, the local endpoint of that connection. When reconciling, a peer
that came back is then sent the requests that bring its reported inventory in line with the
node, but only once the node is ready to be announced.

What the node does with those calls is its own affair: the pool sees it through an `Observer`
over the node's state.
-/

namespace ClusterAgent

/-- How the pool reaches the node it serves, whose state is `σ`. -/
structure Observer (σ : Type) where
  /-- The node learns the local endpoint of the first connection a peer accepted. -/
  connected : σ → Option Endpoint → σ := fun s _ => s
  /-- Whether the node may be announced. -/
  ready : σ → Bool := fun _ => true
  /-- The requests that bring a peer reporting an inventory in line, when the node can make them. -/
  realign : Option (σ → Inventory → List Request) := none

/-- The pool of peers. `log` keeps every message a peer received, with the peer's key. -/
structure Pool where
  basePath : String := "/"
  peers : List Peer := []
  pendingAdd : List Peer := []
  pendingRemove : List String := []
  /-- Whether a node listens for the first connection. -/
  listening : Bool := false
  /-- Whether the node has been told of a first connection. -/
  announced : Bool := false
  initialized : Bool := false
  log : List (String × Bytes) := []

/-- Why a ping URL was refused. -/
inductive PingUrlError where
  | unreadable (raw : Bytes) (e : UrlParseError)
  | incomplete (raw : Bytes)
  | badPort (shown : Bytes)
  | noPort (shown scheme : Bytes)
  deriving DecidableEq

/-- The text of a refused ping URL. -/
def PingUrlError.message : PingUrlError → String
  | .unreadable raw e => "invalid ping url " ++ Text.quote raw ++ ": " ++ e.message
  | .incomplete raw => "invalid ping url " ++ Text.quote raw ++ ": scheme and host are required"
  | .badPort shown => "invalid ping url " ++ Text.quote shown ++ ": bad port"
  | .noPort shown scheme =>
    "invalid ping url " ++ Text.quote shown ++ ": no port for scheme " ++ Text.quote scheme

/-- The backend a ping URL names: scheme, host and port. A URL without a port takes the usual
port of `ajp`, `https` or `http`; a given port must lie between 1 and 65535. -/
def pingTarget (raw : Bytes) : Except PingUrlError (Bytes × Bytes × Nat) :=
  match Url.parse raw with
  | .error e => .error (.unreadable raw e)
  | .ok u =>
    if u.scheme.isEmpty || u.hostname.isEmpty then .error (.incomplete raw)
    else if !u.port.isEmpty then
      let n := u.port.foldl (fun n d => n * 10 + (d.toNat - 0x30)) 0
      if n = 0 || n > 65535 then .error (.badPort u.text) else .ok (u.scheme, u.hostname, n)
    else if u.scheme == Bytes.ofString "ajp" then .ok (u.scheme, u.hostname, 8009)
    else if u.scheme == Bytes.ofString "https" then .ok (u.scheme, u.hostname, 443)
    else if u.scheme == Bytes.ofString "http" then .ok (u.scheme, u.hostname, 80)
    else .error (.noPort u.text u.scheme)

namespace Peer

/-- The local endpoint of the open connection. -/
def localEndpoint (p : Peer) : Option Endpoint := p.link.map (·.source)

/-- Sends one request, adding what the peer received to a log. -/
def sendLogged (p : Peer) (net : Network) (r : Request) (log : List (String × Bytes)) :
    Peer × Reply × List (String × Bytes) :=
  let (q, reply, steps) := p.send net r
  (q, reply, log ++ (Peer.delivered steps).map fun b => (p.key, b))

/-- Sends a batch in order. -/
def sendBatch (p : Peer) (net : Network) (log : List (String × Bytes)) :
    List Request → Peer × List Reply × List (String × Bytes)
  | [] => (p, [], log)
  | r :: rs =>
    let (p, reply, log) := p.sendLogged net r log
    let (p, replies, log) := p.sendBatch net log rs
    (p, reply :: replies, log)

/-- Marks a healthy peer as failed, so that the next status pass probes it again. -/
def markError (p : Peer) : Peer := if p.state = .ok then { p with state := .error } else p

end Peer

namespace Pool

/-- Whether a list of peers holds one with this key. -/
def holds (ps : List Peer) (key : String) : Bool := ps.any (·.key == key)

/-- Adds the peers of the given endpoints that the pool does not hold yet, once each. -/
def seed (pool : Pool) (es : List Endpoint) : Pool :=
  let fresh := es.foldl (fun acc e =>
    let p := Peer.new e pool.basePath
    if holds acc p.key then acc else acc ++ [p]) []
  { pool with peers := fresh.foldl (fun ps p => if holds ps p.key then ps else ps ++ [p]) pool.peers }

/-- Applies the staged changes. When there were any, every connection is dropped. -/
def applyPending (pool : Pool) : Pool :=
  if pool.pendingAdd.isEmpty && pool.pendingRemove.isEmpty then pool
  else
    let peers := pool.pendingAdd.foldl (fun ps p => if holds ps p.key then ps else ps ++ [p])
      pool.peers
    let peers := pool.pendingRemove.foldl (fun ps k => ps.eraseP (·.key == k)) peers
    { pool with peers := peers.map Peer.disconnect, pendingAdd := [], pendingRemove := [] }

/-- Sends a request to every peer, with each peer's reply. -/
def sendEach (pool : Pool) (net : Network) (r : Request) : Pool × List (String × Reply) :=
  let (peers, replies, log) := pool.peers.foldl (fun (acc : List Peer × List (String × Reply) ×
      List (String × Bytes)) p =>
    let (q, reply, log) := p.sendLogged net r acc.2.2
    (acc.1 ++ [q], acc.2.1 ++ [(p.key, reply)], log)) ([], [], pool.log)
  ({ pool with peers, log }, replies)

/-- Sends a batch to every peer, with each peer's replies. -/
def sendAll (pool : Pool) (net : Network) (rs : List Request) :
    Pool × List (String × List Reply) :=
  let (peers, replies, log) := pool.peers.foldl (fun (acc : List Peer × List (String × List Reply) ×
      List (String × Bytes)) p =>
    let (q, replies, log) := p.sendBatch net acc.2.2 rs
    (acc.1 ++ [q], acc.2.1 ++ [(p.key, replies)], log)) ([], [], pool.log)
  ({ pool with peers, log }, replies)

/-- One peer's turn in a status pass. -/
def revive {σ : Type} (obs : Observer σ) (net : Network) (reconcile listening : Bool)
    (acc : List Peer × Bool × σ × List (String × Bytes)) (p : Peer) :
    List Peer × Bool × σ × List (String × Bytes) :=
  let (done, announced, s, log) := acc
  if p.state ≠ .error then (done ++ [p], announced, s, log)
  else
    let (p, reply, steps) := p.probe net
    let log := log ++ (Peer.delivered steps).map fun b => (p.key, b)
    if !reply.ok then (done ++ [p], announced, s, log)
    else
      let (announced, s) :=
        if listening && !announced then (true, obs.connected s p.localEndpoint) else (announced, s)
      match obs.realign with
      | some realign =>
        if reconcile && (!listening || obs.ready s) then
          match Inventory.parse reply.body with
          | .ok inv =>
            let (p, _, log) := p.sendBatch net log (realign s inv)
            (done ++ [p], announced, s, log)
          | .error _ => (done ++ [p], announced, s, log)
        else (done ++ [p], announced, s, log)
      | none => (done ++ [p], announced, s, log)

/-- The status pass: apply staged changes, then probe every failed peer and, when reconciling,
realign each one that came back. -/
def statusPass {σ : Type} (pool : Pool) (net : Network) (obs : Observer σ) (reconcile : Bool)
    (s : σ) : Pool × σ :=
  let pool := pool.applyPending
  let (peers, announced, s, log) :=
    pool.peers.foldl (revive obs net reconcile pool.listening) ([], pool.announced, s, pool.log)
  ({ pool with peers, announced, log }, s)

/-- Seeds the pool with the peers at the given addresses and runs one status pass without
reconciling. An address that cannot be read is reported and nothing is added. -/
def init {σ : Type} (pool : Pool) (dns : Resolver) (net : Network) (obs : Observer σ)
    (listening : Bool) (addresses : List String) (s : σ) : Except PeerAddressError (Pool × σ) :=
  match addresses.mapM fun a => resolvePeerAddress dns (Bytes.ofString a) with
  | .error e => .error e
  | .ok es =>
    let (pool, s) := { pool.seed es with listening }.statusPass net obs false s
    .ok ({ pool with initialized := true }, s)

/-- Stages a peer for addition; `established` marks a peer that already knows this node. -/
def addPeer (pool : Pool) (dns : Resolver) (address : String) (established : Bool) :
    Except PeerAddressError Pool :=
  match resolvePeerAddress dns (Bytes.ofString address) with
  | .error e => .error e
  | .ok e =>
    let p := { Peer.new e pool.basePath with established }
    if pool.pendingRemove.contains p.key then
      .ok { pool with pendingRemove := pool.pendingRemove.erase p.key }
    else if holds pool.pendingAdd p.key || holds pool.peers p.key then .ok pool
    else .ok { pool with pendingAdd := pool.pendingAdd ++ [p] }

/-- Stages a peer for removal. -/
def removePeer (pool : Pool) (dns : Resolver) (address : String) : Except PeerAddressError Pool :=
  match resolvePeerAddress dns (Bytes.ofString address) with
  | .error e => .error e
  | .ok e =>
    let key := e.key
    if holds pool.pendingAdd key then
      .ok { pool with pendingAdd := pool.pendingAdd.eraseP (·.key == key) }
    else if pool.pendingRemove.contains key || !holds pool.peers key then .ok pool
    else .ok { pool with pendingRemove := pool.pendingRemove ++ [key] }

/-- Drops every connection; the pool is no longer initialized. -/
def shutdown (pool : Pool) : Pool :=
  { pool with peers := pool.peers.map Peer.disconnect, initialized := false }

/-- Sends every healthy peer through a fresh probe on the next status pass. -/
def markAllInError (pool : Pool) : Pool := { pool with peers := pool.peers.map Peer.markError }

/-- Makes every peer that is down eligible for probing again. -/
def resetDown (pool : Pool) : Pool := { pool with peers := pool.peers.map fun p => p.reset.1 }

/-- Whether every peer is healthy. -/
def isHealthy (pool : Pool) : Bool := pool.peers.all (·.state = .ok)

/-- Each peer's answer to whether the pinged node is up. -/
def pings (replies : List (String × Reply)) : List (String × Bool) :=
  replies.map fun (k, r) => (k, r.ok && Replies.pingOk r.body)

/-- Asks every peer to ping the node of a route, or to answer itself when the route is empty. -/
def ping (pool : Pool) (net : Network) (route : String) : Pool × List (String × Bool) :=
  let (pool, replies) := pool.sendEach net (Request.ping route)
  (pool, pings replies)

/-- Asks every peer to ping the backend a URL names. -/
def pingUrl (pool : Pool) (net : Network) (raw : Bytes) :
    Except PingUrlError (Pool × List (String × Bool)) :=
  match pingTarget raw with
  | .error e => .error e
  | .ok (scheme, host, port) =>
    let (pool, replies) := pool.sendEach net (Request.pingUrl scheme host (Int.ofNat port))
    .ok (pool, pings replies)

/-- Each peer's key, health and whether it knows this node, in pool order. -/
def view (pool : Pool) : List (String × PeerState × Bool) :=
  pool.peers.map fun p => (p.key, p.state, p.established)

end Pool

end ClusterAgent
