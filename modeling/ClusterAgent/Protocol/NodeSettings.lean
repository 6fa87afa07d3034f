import ClusterAgent.Text.Bytes

/-!
# Node and balancer settings

What `CONFIG` announces about this node beyond its connector. Integer settings use `-1` for
"leave to the proxy" and are then not sent; the balancer's sticky-session settings are sent only
where they differ from the protocol defaults. Text settings are bytes, as a configuration file
may give them and as the request carries them.
-/

namespace ClusterAgent

/-- The value of an integer setting that is left to the proxy. -/
def unset : Int := -1

/-- Per-node settings. -/
structure NodeSettings where
  loadBalancingGroup : Bytes := []
  flushPackets : Bool := false
  flushWait : Int := unset
  ping : Int := unset
  smax : Int := unset
  ttl : Int := unset
  nodeTimeout : Int := unset
  balancer : Bytes := []
  deriving DecidableEq, Repr

/-- Balancer settings. -/
structure BalancerSettings where
  stickySession : Bool := true
  stickySessionCookie : Bytes := Bytes.ofString "JSESSIONID"
  stickySessionPath : Bytes := Bytes.ofString "jsessionid"
  stickySessionRemove : Bool := false
  stickySessionForce : Bool := true
  workerTimeout : Int := unset
  maxAttempts : Int := unset
  deriving DecidableEq, Repr

end ClusterAgent
