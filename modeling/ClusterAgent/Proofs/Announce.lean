import ClusterAgent.Proofs.Reset
import ClusterAgent.Proofs.Utf8
import ClusterAgent.Service.Basic

/-!
# Announcing the node at start-up

Once the pool has connected, the service announces the whole node in one batch
(`Service.announcement`): per engine its `CONFIG`, then an `ENABLE-APP` (`DISABLE-APP` when contexts
are not enabled automatically) for each started context that is not excluded, host by host.
Reconciliation computes the same thing on its own when a proxy reports nothing: against the empty
inventory every host of an engine lacks its virtual host, so the engine is removed first, nothing
is reported that could be obsolete, and every started live context is announced.

Main statement: `Service.init_announces_empty_reset`. The announcement is the reconciliation against
the empty inventory with the wildcard removals left out, for every topology; when the pool connects
it is sent as one batch, and when connecting fails nothing is sent.

The two sides test exclusion differently, one on the context's path and one on its normal form;
`Exclusions.excludes_normalizePath` says that these agree.
-/

namespace ClusterAgent

namespace Exclusions

theorem excludes_normalizePath (ex : Exclusions) (host path : String) :
    ex.excludes host (normalizePath path) = ex.excludes host path := by
  simp only [excludes, excludesBytes, ← Bytes.normalizePath_ofString,
    Bytes.normalizePath_normalizePath]

end Exclusions

/-- Whether a request withdraws every context of an engine: a wildcard `REMOVE-APP`. -/
def Request.removesEngine (r : Request) : Bool := r.command == .removeApp && r.wildcard

/-- The reconciliation that goes with a service: the same node and balancer settings, the same
exclusions and the same auto-enable switch. -/
def ServiceSettings.reconcile (cfg : ServiceSettings) : ReconcileSettings :=
  { node := cfg.node, balancer := cfg.balancer, exclusions := cfg.exclusions,
    autoEnable := cfg.autoEnable }

namespace ReconcileSettings

variable (s : ReconcileSettings) (e : Engine) (h : Host)

theorem hostPlan_nil_removals : (s.hostPlan e h []).removals = [] := by
  have hnone : h.reportedIn [] = none := rfl
  have hobs : s.obsoletePaths h none = [] := rfl
  simp [hostPlan_eq, hnone, hobs]

/-- A context the proxy does not report is announced if it is started, and left alone if not. -/
theorem contextChange_none (c : Context) :
    s.contextChange e h c none =
      if c.started then [Request.forContext s.enableCommand e h c] else [] := by
  cases hc : c.started <;> simp [contextChange, hc]

/-- Against a proxy that reports nothing, every started live context is announced. -/
theorem hostPlan_nil_changes :
    (s.hostPlan e h []).changes =
      ((s.liveContexts h).filter (·.started)).map (Request.forContext s.enableCommand e h) := by
  have hnone : h.reportedIn [] = none := rfl
  rw [hostPlan_eq, hnone]
  dsimp only
  induction s.liveContexts h with
  | nil => rfl
  | cons c l ih =>
    rw [List.flatMap_cons, Option.bind_none, contextChange_none, ih]
    cases hc : c.started <;> simp [hc]

/-- Against a proxy that reports nothing, an engine's batch without its wildcard removal is its
`CONFIG` and the announcement of each started live context, host by host. -/
theorem engineBatch_nil_filter :
    (s.engineBatch e []).filter (!·.removesEngine) =
      Request.config s.node s.balancer e :: e.hosts.flatMap fun h =>
        ((s.liveContexts h).filter (·.started)).map (Request.forContext s.enableCommand e h) := by
  have hremovals : (e.hosts.flatMap fun h => (s.hostPlan e h []).removals) = [] := by
    simp [hostPlan_nil_removals]
  have hkeep : ∀ r ∈ e.hosts.flatMap (fun h => (s.hostPlan e h []).changes), r.removesEngine = false := by
    intro r hr
    simp only [hostPlan_nil_changes, List.mem_flatMap, List.mem_map] at hr
    obtain ⟨h, -, c, -, rfl⟩ := hr
    simp [Request.removesEngine, Request.forContext]
  have hconfig : (Request.config s.node s.balancer e).removesEngine = false := by
    simp [Request.removesEngine, Request.config]
  have hchanges : (e.hosts.flatMap fun h => (s.hostPlan e h []).changes).filter
      (!·.removesEngine) = e.hosts.flatMap fun h => (s.hostPlan e h []).changes :=
    List.filter_eq_self.2 fun r hr => by simp [hkeep r hr]
  rw [engineBatch_eq, hremovals]
  split
  · rw [List.singleton_append,
      List.filter_cons_of_neg (by simp [Request.removesEngine, Request.forEngine]),
      List.filter_cons_of_pos (by simp [hconfig]), hchanges]
    simp only [hostPlan_nil_changes]
  · rw [List.nil_append, List.filter_cons_of_pos (by simp [hconfig]), hchanges]
    simp only [hostPlan_nil_changes]

end ReconcileSettings

namespace Service

variable {η ε : Type} (link : PeerLink η ε) (cfg : ServiceSettings)

/-- The contexts of a host the service announces are the started live contexts. -/
theorem filter_included (h : Host) :
    h.contexts.filter (fun c => c.started && included cfg h c) =
      (cfg.reconcile.liveContexts h).filter (·.started) := by
  rw [ReconcileSettings.liveContexts, List.filter_filter]
  refine List.filter_congr fun c _ => ?_
  simp only [included, ServiceSettings.reconcile, Exclusions.excludes_normalizePath]

/-- The announcement is reconciliation against a proxy that reports nothing, less its wildcard
removals. -/
theorem announcement_eq_resetRequests (t : Topology) :
    announcement cfg t = (t.resetRequests cfg.reconcile {}).filter (!·.removesEngine) := by
  rw [Topology.resetRequests, List.filter_flatMap, announcement]
  refine List.flatMap_congr fun e _ => ?_
  have hnone : ({} : Inventory).vhostsOf (Bytes.ofString e.route) = [] := rfl
  rw [hnone, ReconcileSettings.engineBatch_nil_filter]
  simp only [filter_included]
  rfl

/-- Connecting to the proxies and announcing the node. When the pool connects, the service sends
as one batch what reconciling the connected topology against a proxy that reports nothing asks
for, without the wildcard removals; when connecting fails it sends nothing. -/
theorem init_announces_empty_reset (sv : Service η) (addresses : List String) :
    init link cfg sv addresses =
      match link.init sv.peers sv.node addresses with
      | (peers, node, some err) => ({ node, peers }, some err)
      | (peers, node, none) =>
        (sendBatch link { node, peers }
          ((node.topology.resetRequests cfg.reconcile {}).filter (!·.removesEngine)), none) := by
  unfold init
  rcases link.init sv.peers sv.node addresses with ⟨peers, node, _ | err⟩
  · simp only [announcement_eq_resetRequests]
  · rfl

end Service

end ClusterAgent
