import ClusterAgent.Peer.Pool
import ClusterAgent.Settings.ProxyList

/-!
# The handler

The handler owns the pool of peers and is driven one operation at a time: seeding the pool,
staging membership changes, the status pass, fanning requests out, asking every peer for its
inventory or configuration, pinging, and the operator's health overrides.

`Pool.perform` is the state an operation leaves the handler in; what an operation answers is
left to the pool's own functions. An operation that refuses its argument (an address that cannot
be read, a ping URL without a usable port) leaves the state as it was. Each operation meets the
network afresh, so a run is a list of operations, each with the network it met; peer addresses
that are host names are read with a name service (`Resolver`) given for the run.
-/

namespace ClusterAgent

/-- An operation of the handler. -/
inductive PoolOp where
  /-- Seed the pool with the peers at these addresses and run a status pass without
  reconciling; `listening` when a node waits to hear of the first connection. -/
  | init (addresses : List String) (listening : Bool)
  | addProxy (address : String) (established : Bool)
  | removeProxy (address : String)
  /-- The periodic pass, reconciling the peers that come back. -/
  | status
  | sendRequest (r : Request)
  | sendRequests (rs : List Request)
  | ping (route : String)
  | pingUrl (raw : Bytes)
  | proxyInfo
  | proxyConfiguration
  | markAllInError
  | resetDownToError
  | shutdown

/-- The staging calls a reload makes when the configured proxy list changes from `prev` to
`next`: first the removal of each proxy only `prev` names, then the addition, not yet
established, of each proxy only `next` names. The lists are compared as written, so one proxy
written two ways is removed and added again. A call whose address cannot be read only warns,
which `Pool.perform` models by leaving the state as it was. -/
def PoolOp.followProxyList (prev next : List String) : List PoolOp :=
  let (added, removed) := proxyDiff prev next
  removed.map .removeProxy ++ added.map fun a => .addProxy a false

namespace Pool

variable {σ : Type} (obs : Observer σ)

/-- The pool and the node's state after one operation over a network, host names looked up with
`dns`. -/
def perform (dns : Resolver) (net : Network) : Pool × σ → PoolOp → Pool × σ
  | (pool, s), .init addresses listening =>
    match pool.init dns net obs listening addresses s with
    | .ok r => r
    | .error _ => (pool, s)
  | (pool, s), .addProxy address established =>
    match pool.addPeer dns address established with
    | .ok pool => (pool, s)
    | .error _ => (pool, s)
  | (pool, s), .removeProxy address =>
    match pool.removePeer dns address with
    | .ok pool => (pool, s)
    | .error _ => (pool, s)
  | (pool, s), .status => pool.statusPass net obs true s
  | (pool, s), .sendRequest r => ((pool.sendEach net r).1, s)
  | (pool, s), .sendRequests rs => ((pool.sendAll net rs).1, s)
  | (pool, s), .ping route => ((pool.ping net route).1, s)
  | (pool, s), .pingUrl raw =>
    match pool.pingUrl net raw with
    | .ok (pool, _) => (pool, s)
    | .error _ => (pool, s)
  | (pool, s), .proxyInfo => ((pool.sendEach net Request.info).1, s)
  | (pool, s), .proxyConfiguration => ((pool.sendEach net Request.dump).1, s)
  | (pool, s), .markAllInError => (pool.markAllInError, s)
  | (pool, s), .resetDownToError => (pool.resetDown, s)
  | (pool, s), .shutdown => (pool.shutdown, s)

/-- The state after a run of operations, each over the network it met, host names looked up with
`dns` throughout. -/
def run (dns : Resolver) (st : Pool × σ) (ops : List (PoolOp × Network)) : Pool × σ :=
  ops.foldl (fun st o => perform obs dns o.2 st o.1) st

end Pool

end ClusterAgent
