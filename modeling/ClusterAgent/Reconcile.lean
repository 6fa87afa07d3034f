import ClusterAgent.Protocol.Requests
import ClusterAgent.Protocol.Inventory
import ClusterAgent.Topology.Exclusions

/-!
# Bringing a proxy in line

Given what a proxy reports (`Inventory`), `Topology.resetRequests` lists the requests that make
it agree with the live topology, engine by engine in topology order. For an engine the batch is
`CONFIG` followed by the context state changes, preceded either by a wildcard `REMOVE-APP` for
the whole engine or by the removal of each context the proxy reports but no longer exists here.

For each host, the reported virtual host is the first one that carries the host's name as an
alias. Excluded contexts are left out on both sides. A started context not reported `ENABLED`
is enabled (or announced disabled, when contexts are not enabled automatically); a stopped one
reported `ENABLED` is stopped. The whole engine is removed when some host's aliases differ from
its reported virtual host's (no virtual host counts as no aliases), or when every reported,
non-excluded context of a host is obsolete; otherwise the obsolete contexts are removed one by
one, in byte order of their paths.
-/

namespace ClusterAgent

namespace Exclusions

/-- Whether a path reported by a proxy is excluded for a host. -/
def excludesReported (ex : Exclusions) (host : String) (p : Bytes) : Bool :=
  ex.excludesBytes (Bytes.ofString host) p

end Exclusions

/-- How reconciliation is set up: the node settings `CONFIG` announces, the excluded contexts,
and whether started contexts are enabled automatically. -/
structure ReconcileSettings where
  node : NodeSettings := {}
  balancer : BalancerSettings := {}
  exclusions : Exclusions := ⟨[]⟩
  autoEnable : Bool := true

/-- What reconciling one host decides. -/
structure HostPlan where
  /-- The whole engine must be removed first. -/
  dropsEngine : Bool
  /-- The removal of each obsolete reported context. -/
  removals : List Request
  /-- The state changes of live contexts. -/
  changes : List Request

namespace ReconcileSettings

/-- The request announcing a started context. -/
def enableCommand (s : ReconcileSettings) : Command :=
  if s.autoEnable then .enableApp else .disableApp

/-- The state change a live context needs, given the status reported for it. -/
def contextChange (s : ReconcileSettings) (e : Engine) (h : Host) (c : Context)
    (reported : Option ContextStatus) : List Request :=
  let enabled := reported == some .enabled
  if c.started && !enabled then [Request.forContext s.enableCommand e h c]
  else if !c.started && enabled then [Request.forContext .stopApp e h c]
  else []

/-- Reconciles one host of an engine against the virtual hosts reported for its route. -/
def hostPlan (s : ReconcileSettings) (e : Engine) (h : Host) (reported : List VirtualHost) :
    HostPlan :=
  let vhost := reported.find? (·.hasAlias (Bytes.ofString h.name))
  let reportedAliases := (vhost.map (·.aliases)).getD []
  let reportedPaths := ((vhost.map (·.contexts)).getD []).map (·.1)
  let live := (h.contexts.filter fun c => !s.exclusions.excludes h.name (normalizePath c.path))
  let livePaths := live.map fun c => Bytes.ofString (normalizePath c.path)
  let sameAliases := h.aliases.length == reportedAliases.length &&
    h.aliases.all fun a => reportedAliases.contains (Bytes.ofString a)
  let included := reportedPaths.filter fun p => !s.exclusions.excludesReported h.name p
  let obsolete := included.filter fun p => !livePaths.contains p
  let changes := live.flatMap fun c =>
    s.contextChange e h c (vhost.bind (·.statusOf? (Bytes.ofString (normalizePath c.path))))
  let allObsolete := !obsolete.isEmpty && obsolete.length == included.length
  let aliases := (vhost.map (·.sortedAliases)).getD []
  { dropsEngine := !sameAliases || allObsolete,
    removals := if allObsolete then []
      else (obsolete.mergeSort Bytes.lexLe).map fun p =>
        Request.removeReported (Bytes.ofString e.route) p aliases,
    changes := changes }

/-- The batch that brings a proxy in line for one engine. -/
def engineBatch (s : ReconcileSettings) (e : Engine) (reported : List VirtualHost) :
    List Request :=
  let plans := e.hosts.map fun h => s.hostPlan e h reported
  let batch := Request.config s.node s.balancer e :: plans.flatMap (·.changes)
  if plans.any (·.dropsEngine) then Request.forEngine .removeApp e :: batch
  else plans.flatMap (·.removals) ++ batch

end ReconcileSettings

/-- The requests that bring a proxy reporting `inv` in line with the topology. -/
def Topology.resetRequests (t : Topology) (s : ReconcileSettings) (inv : Inventory) :
    List Request :=
  t.engines.flatMap fun e => s.engineBatch e (inv.vhostsOf (Bytes.ofString e.route))

end ClusterAgent
