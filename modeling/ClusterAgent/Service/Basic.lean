import ClusterAgent.Peer.Pool
import ClusterAgent.Reconcile

/-!
# The lifecycle service

The service turns what happens to the applications of this node into requests for the proxies:
a context that is deployed, started, stopped or undeployed, the periodic report of the node's
load, and operator actions over every engine at once.

It drives the pool of peers through a `PeerLink`, a record of the operations it needs, so the
same service runs over the real pool (`Pool.link`) or over any stand-in. The node it announces
is a `Node`: the topology, and whether a first proxy connection has established it. The first
connection also binds every connector that has no address yet to the local address of that
connection.

## Stopping

Without a stop timeout, stopping sends one `STOP-APP`. With one, the context (or engine) is first
disabled, then `STOP-APP` is repeated every 100 ms until a round is quiet or the timeout runs
out: polls are made at 0, 100, 200, ... ms while that time is below the timeout, so a timeout of
`t` ms allows `⌈t / 100⌉` polls. A round counts as quiet when the counts of requests in flight
that the answering proxies report add up to zero in a signed 64-bit word, so counts of opposite
sign cancel. Stopping reports whether the drain finished.
-/

namespace ClusterAgent

/-- A node as the proxies know it. -/
structure Node where
  topology : Topology
  established : Bool := false

namespace Node

/-- The first proxy connection was made from `ip` (`none` when it is unknown): every engine whose
connector has no address is bound to it, and the node may now be announced. -/
def connected (n : Node) (ip : Option IP) : Node :=
  let t := match ip with
    | none => n.topology
    | some _ => (List.range n.topology.engines.length).foldl (fun t i => (t.bindAddress i ip).1)
        n.topology
  { topology := t, established := true }

/-- The node as the pool of peers sees it during a status pass. -/
def observer (s : ReconcileSettings) : Observer Node :=
  { connected := fun n e => n.connected (e.bind (·.ip)),
    ready := (·.established),
    realign := some fun n inv => n.topology.resetRequests s inv }

end Node

/-- The operations of a pool of peers the service drives. `η` is the pool's state and `ε` the
refusal of an address list. `init` and `status` may call back into the node. -/
structure PeerLink (η ε : Type) where
  init : η → Node → List String → η × Node × Option ε
  sendRequest : η → Request → η × List Reply
  sendRequests : η → List Request → η
  status : η → Node → η × Node
  markAllInError : η → η
  resetDown : η → η
  isHealthy : η → Bool
  shutdown : η → η

/-- The real pool over a network, host names looked up with `dns`, reconciling with the given
settings. -/
def Pool.link (dns : Resolver) (net : Network) (s : ReconcileSettings) :
    PeerLink Pool PeerAddressError where
  init p n addresses :=
    match p.init dns net (Node.observer s) true addresses n with
    | .ok (p, n) => (p, n, none)
    | .error e => (p, n, some e)
  sendRequest p r := let (p, replies) := p.sendEach net r; (p, replies.map (·.2))
  sendRequests p rs := (p.sendAll net rs).1
  status p n := p.statusPass net (Node.observer s) true n
  markAllInError := Pool.markAllInError
  resetDown := Pool.resetDown
  isHealthy := Pool.isHealthy
  shutdown := Pool.shutdown

/-- How the service behaves. `stopTimeout` is in milliseconds; `0` stops without draining. -/
structure ServiceSettings where
  node : NodeSettings := {}
  balancer : BalancerSettings := {}
  exclusions : Exclusions := ⟨[]⟩
  autoEnable : Bool := true
  stopTimeout : Nat := 0
  load : Int := 1

/-- A running service: the node and the state of the pool it drives. -/
structure Service (η : Type) where
  node : Node
  peers : η

/-- How many polls a drain may make within a timeout. -/
def drainPolls (timeout : Nat) : Nat := (timeout + 99) / 100

namespace Service

variable {η ε : Type} (link : PeerLink η ε) (cfg : ServiceSettings)

/-- Whether a context takes part in announcements. -/
def included (h : Host) (c : Context) : Bool := !cfg.exclusions.excludes h.name c.path

/-- The request that announces a started context: enable it, or only register it disabled. -/
def enableRequest (e : Engine) (h : Host) (c : Context) : Request :=
  Request.forContext (if cfg.autoEnable then .enableApp else .disableApp) e h c

/-- Sends one request and keeps the replies. -/
def request (sv : Service η) (r : Request) : Service η × List Reply :=
  let (peers, replies) := link.sendRequest sv.peers r
  ({ sv with peers }, replies)

/-- Sends one request. -/
def send (sv : Service η) (r : Request) : Service η := (request link sv r).1

/-- Sends a batch, unless it is empty. -/
def sendBatch (sv : Service η) (rs : List Request) : Service η :=
  if rs.isEmpty then sv else { sv with peers := link.sendRequests sv.peers rs }

/-- The announcement of the whole node: per engine its configuration, then each started
context that is not excluded. -/
def announcement (t : Topology) : List Request :=
  t.engines.flatMap fun e =>
    Request.config cfg.node cfg.balancer e ::
      e.hosts.flatMap fun h =>
        (h.contexts.filter fun c => c.started && included cfg h c).map (enableRequest cfg e h)

/-- Connects to the proxies at the given addresses and announces the node. -/
def init (sv : Service η) (addresses : List String) : Service η × Option ε :=
  match link.init sv.peers sv.node addresses with
  | (peers, node, some err) => ({ node, peers }, some err)
  | (peers, node, none) =>
    (sendBatch link { node, peers } (announcement cfg node.topology), none)

/-- A first proxy connection was made from `ip`. -/
def connectionEstablished (sv : Service η) (ip : Option IP) : Service η :=
  { sv with node := sv.node.connected ip }

/-- Announces a deployed context if it already runs. -/
def addContext (sv : Service η) (e : Engine) (h : Host) (c : Context) : Service η :=
  if included cfg h c && c.started then send link sv (enableRequest cfg e h c) else sv

/-- Announces a context that started. -/
def startContext (sv : Service η) (e : Engine) (h : Host) (c : Context) : Service η :=
  if included cfg h c then send link sv (enableRequest cfg e h c) else sv

/-- The requests a round of `STOP-APP` leaves in flight: the counts of the proxies that answered,
added up in a signed 64-bit word. -/
def pendingTotal (replies : List Reply) : Int64 :=
  replies.foldl
    (fun acc r => if r.ok then acc + Int64.ofInt (Replies.pendingRequests r.body) else acc) 0

/-- Sends `stop` until no proxy reports requests in flight, at most `polls` times; whether the
drain finished. -/
def drain (stop : Request) : Service η → Nat → Service η × Bool
  | sv, 0 => (sv, false)
  | sv, n + 1 =>
    let (sv, replies) := request link sv stop
    if pendingTotal replies == 0 then (sv, true)
    else if n == 0 then (sv, false)
    else drain stop sv n

/-- Stops a context; `false` when a drain ran out of time. -/
def stopContext (sv : Service η) (e : Engine) (h : Host) (c : Context) : Service η × Bool :=
  if !included cfg h c then (sv, true)
  else
    let stop := Request.forContext .stopApp e h c
    if cfg.stopTimeout = 0 then (send link sv stop, true)
    else
      let sv := send link sv (Request.forContext .disableApp e h c)
      drain link stop sv (drainPolls cfg.stopTimeout)

/-- Withdraws an undeployed context. -/
def removeContext (sv : Service η) (e : Engine) (h : Host) (c : Context) : Service η :=
  if included cfg h c then send link sv (Request.forContext .removeApp e h c) else sv

/-- Withdraws an engine with all its contexts. -/
def removeEngine (sv : Service η) (e : Engine) : Service η :=
  send link sv (Request.forEngine .removeApp e)

/-- The periodic pass: the pool's status pass, then, once the node is established, the load of
every engine. -/
def status (sv : Service η) : Service η :=
  let (peers, node) := link.status sv.peers sv.node
  let sv := { node, peers }
  if !node.established then sv
  else node.topology.engines.foldl (fun sv e => send link sv (Request.status e.route cfg.load)) sv

/-- Sends one engine-wide request per engine, as one batch. -/
def perEngine (sv : Service η) (cmd : Command) : Service η :=
  sendBatch link sv (sv.node.topology.engines.map (Request.forEngine cmd))

/-- Enables every context of every engine. -/
def enableAll (sv : Service η) : Service η := perEngine link sv .enableApp

/-- Disables every context of every engine. -/
def disableAll (sv : Service η) : Service η := perEngine link sv .disableApp

/-- Stops every engine, draining each in turn; `false` when any drain ran out of time. -/
def stopAll (sv : Service η) : Service η × Bool :=
  if cfg.stopTimeout = 0 then (perEngine link sv .stopApp, true)
  else
    let sv := perEngine link sv .disableApp
    sv.node.topology.engines.foldl (fun (sv, ok) e =>
      let (sv, drained) := drain link (Request.forEngine .stopApp e) sv (drainPolls cfg.stopTimeout)
      (sv, ok && drained)) (sv, true)

/-- Sends every healthy proxy through a fresh probe and reconciliation. -/
def refresh (sv : Service η) : Service η := { sv with peers := link.markAllInError sv.peers }

/-- Makes proxies that are down eligible for probing again. -/
def reset (sv : Service η) : Service η := { sv with peers := link.resetDown sv.peers }

/-- Whether every proxy is healthy. -/
def isHealthy (sv : Service η) : Bool := link.isHealthy sv.peers

/-- Withdraws every engine and closes the proxy connections; the node is no longer established. -/
def shutdown (sv : Service η) : Service η :=
  let sv := perEngine link sv .removeApp
  { node := { sv.node with established := false }, peers := link.shutdown sv.peers }

end Service

end ClusterAgent
