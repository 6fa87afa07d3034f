import ClusterAgent.Proofs.Announce

/-!
# Excluded contexts stay off the wire

An excluded context is hidden from the proxies: no request about it may be sent. The service
checks exclusion in each operation that names a context and in the start-up announcement, and
reconciliation leaves excluded contexts out on both sides, the live ones and the paths a proxy
reports.

`PeerLink.logged` keeps every request the service hands to the pool, and `ServiceOp.trace` runs
operations one after another and notes, for each, the requests it handed over. Main statement
(`excluded_never_sent`): along every run of the service, a request that carries a `Context`
parameter `p` is about a context of a host `h` that its operation concerns, and `p` is not excluded
for `h`; and a request of reconciliation that carries `p` is about a live context of a host `h`, or
removes a path that a proxy reported under `h`'s name, again with `p` not excluded for `h`.
-/

namespace ClusterAgent

/-- The request carries `p` as a `Context` parameter. -/
def Request.CarriesContext (r : Request) (p : Bytes) : Prop :=
  (Bytes.ofString "Context", p) ∈ r.params

theorem Bytes.ofString_inj {s t : String} : Bytes.ofString s = Bytes.ofString t ↔ s = t :=
  ⟨fun h => Bytes.ofString_injective h, fun h => h ▸ rfl⟩

namespace Request

theorem carriesContext_contextParams {r : Request} {path p : Bytes} {aliases : List Bytes}
    (hr : r.params = contextParams path aliases) (hp : r.CarriesContext p) :
    p = Bytes.normalizePath path := by
  simp [CarriesContext, hr, contextParams, Bytes.ofString_inj] at hp
  exact hp

theorem carriesContext_forContext {cmd : Command} {e : Engine} {h : Host} {c : Context} {p : Bytes}
    (hp : (forContext cmd e h c).CarriesContext p) : p = Bytes.normalizePath (Bytes.ofString c.path) :=
  carriesContext_contextParams rfl hp

theorem carriesContext_removeReported {route p0 p : Bytes} {aliases : List Bytes}
    (hp : (removeReported route p0 aliases).CarriesContext p) : p = Bytes.normalizePath p0 :=
  carriesContext_contextParams rfl hp

theorem not_carriesContext_forEngine (cmd : Command) (e : Engine) (p : Bytes) :
    ¬ (forEngine cmd e).CarriesContext p := by
  simp [CarriesContext, forEngine]

theorem not_carriesContext_status (route : String) (load : Int) (p : Bytes) :
    ¬ (status route load).CarriesContext p := by
  simp [CarriesContext, status, param, Bytes.ofString_inj]

theorem not_carriesContext_config (node : NodeSettings) (bal : BalancerSettings) (e : Engine)
    (p : Bytes) : ¬ (config node bal e).CarriesContext p := by
  simp [CarriesContext, config, param, rawParam, setting, Bytes.ofString_inj]

end Request

namespace Exclusions

theorem excludesBytes_normalizePath (ex : Exclusions) (host p : Bytes) :
    ex.excludesBytes host (Bytes.normalizePath p) = ex.excludesBytes host p := by
  simp only [excludesBytes, Bytes.normalizePath_normalizePath]

end Exclusions

/-- An operation of the lifecycle service. -/
inductive ServiceOp where
  | init (addresses : List String)
  | addContext (e : Engine) (h : Host) (c : Context)
  | startContext (e : Engine) (h : Host) (c : Context)
  | stopContext (e : Engine) (h : Host) (c : Context)
  | removeContext (e : Engine) (h : Host) (c : Context)
  | removeEngine (e : Engine)
  | status
  | enableAll
  | disableAll
  | stopAll
  | shutdown

/-- The pool with a log of every request handed to it, in order; it passes every call on. -/
def PeerLink.logged {η ε : Type} (link : PeerLink η ε) : PeerLink (η × List Request) ε where
  init p n addresses :=
    let (q, n, err) := link.init p.1 n addresses
    ((q, p.2), n, err)
  sendRequest p r :=
    let (q, replies) := link.sendRequest p.1 r
    ((q, p.2 ++ [r]), replies)
  sendRequests p rs := (link.sendRequests p.1 rs, p.2 ++ rs)
  status p n :=
    let (q, n) := link.status p.1 n
    ((q, p.2), n)
  markAllInError p := (link.markAllInError p.1, p.2)
  resetDown p := (link.resetDown p.1, p.2)
  isHealthy p := link.isHealthy p.1
  shutdown p := (link.shutdown p.1, p.2)

/-- From `a` to `b` a log only grew, and only by requests that satisfy `P`. -/
def Grows (P : Request → Prop) (a b : List Request) : Prop := ∃ new, b = a ++ new ∧ ∀ r ∈ new, P r

namespace Grows

variable {P : Request → Prop} {a b c : List Request}

theorem refl (P : Request → Prop) (a : List Request) : Grows P a a := ⟨[], by simp, by simp⟩

theorem trans (hab : Grows P a b) (hbc : Grows P b c) : Grows P a c := by
  obtain ⟨n, rfl, hn⟩ := hab
  obtain ⟨m, rfl, hm⟩ := hbc
  refine ⟨n ++ m, by simp, fun r hr => ?_⟩
  rcases List.mem_append.1 hr with hr | hr
  · exact hn r hr
  · exact hm r hr

theorem append {rs : List Request} (h : ∀ r ∈ rs, P r) (a : List Request) : Grows P a (a ++ rs) :=
  ⟨rs, rfl, h⟩

end Grows

namespace Service

variable {η ε : Type} (link : PeerLink η ε) (cfg : ServiceSettings) {P : Request → Prop}

theorem request_grows (sv : Service (η × List Request)) {r : Request} (hr : P r) :
    Grows P sv.peers.2 (request link.logged sv r).1.peers.2 :=
  Grows.append (by simpa using hr) _

theorem send_grows (sv : Service (η × List Request)) {r : Request} (hr : P r) :
    Grows P sv.peers.2 (send link.logged sv r).peers.2 :=
  request_grows link sv hr

theorem sendBatch_grows (sv : Service (η × List Request)) {rs : List Request}
    (hrs : ∀ r ∈ rs, P r) : Grows P sv.peers.2 (sendBatch link.logged sv rs).peers.2 := by
  unfold sendBatch
  split
  · exact Grows.refl P _
  · exact Grows.append hrs _

/-- Draining only repeats its stop request. -/
theorem drain_grows {stop : Request} (hstop : P stop) :
    ∀ (n : Nat) (sv : Service (η × List Request)),
      Grows P sv.peers.2 (drain link.logged stop sv n).1.peers.2
  | 0, _ => by rw [drain]; exact Grows.refl P _
  | n + 1, sv => by
    have hfirst := request_grows link sv hstop
    rw [drain]
    dsimp only
    split
    · exact hfirst
    · split
      · exact hfirst
      · exact hfirst.trans (drain_grows hstop n _)

theorem foldl_send_grows {α : Type} (f : α → Request) (hf : ∀ x, P (f x)) :
    ∀ (xs : List α) (sv : Service (η × List Request)),
      Grows P sv.peers.2 (xs.foldl (fun sv x => send link.logged sv (f x)) sv).peers.2
  | [], _ => Grows.refl P _
  | x :: xs, sv => (send_grows link sv (hf x)).trans (foldl_send_grows f hf xs _)

theorem perEngine_grows (sv : Service (η × List Request)) {cmd : Command}
    (hcmd : ∀ e, P (Request.forEngine cmd e)) :
    Grows P sv.peers.2 (perEngine link.logged sv cmd).peers.2 :=
  sendBatch_grows link sv (by simpa using fun e _ => hcmd e)

theorem status_grows (sv : Service (η × List Request)) (hs : ∀ route, P (Request.status route cfg.load)) :
    Grows P sv.peers.2 (status link.logged cfg sv).peers.2 := by
  unfold status
  dsimp only [PeerLink.logged]
  split
  · exact Grows.refl P _
  · exact foldl_send_grows link (fun e : Engine => Request.status e.route cfg.load)
      (fun e => hs e.route) _ _

theorem foldl_grows {α β : Type}
    (f : Service (η × List Request) × β → α → Service (η × List Request) × β)
    (hf : ∀ acc x, Grows P acc.1.peers.2 (f acc x).1.peers.2) :
    ∀ (xs : List α) (acc : Service (η × List Request) × β),
      Grows P acc.1.peers.2 (xs.foldl f acc).1.peers.2
  | [], _ => Grows.refl P _
  | x :: xs, acc => (hf acc x).trans (foldl_grows f hf xs _)

theorem stopAll_grows (sv : Service (η × List Request)) (hcmd : ∀ cmd e, P (Request.forEngine cmd e)) :
    Grows P sv.peers.2 (stopAll link.logged cfg sv).1.peers.2 := by
  unfold stopAll
  split
  · exact perEngine_grows link sv (hcmd _)
  · -- each engine is drained in turn after the batch that disables them all
    refine (perEngine_grows link sv (hcmd .disableApp)).trans (foldl_grows _ (fun acc e => ?_) _ _)
    obtain ⟨sv', ok⟩ := acc
    dsimp only
    have hd := drain_grows link (hcmd .stopApp e) (drainPolls cfg.stopTimeout) sv'
    revert hd
    rcases drain link.logged (Request.forEngine .stopApp e) sv' (drainPolls cfg.stopTimeout) with
      ⟨sv'', d⟩
    exact id

theorem shutdown_grows (sv : Service (η × List Request)) (hcmd : ∀ e, P (Request.forEngine .removeApp e)) :
    Grows P sv.peers.2 (shutdown link.logged sv).peers.2 :=
  perEngine_grows link sv hcmd

end Service

theorem PeerLink.logged_init {η ε : Type} (link : PeerLink η ε) (p : η × List Request) (n : Node)
    (addresses : List String) :
    link.logged.init p n addresses =
      (((link.init p.1 n addresses).1, p.2), (link.init p.1 n addresses).2.1,
        (link.init p.1 n addresses).2.2) := rfl

namespace ServiceOp

variable {η ε : Type} (link : PeerLink η ε) (cfg : ServiceSettings)

/-- Performs an operation. -/
def apply (sv : Service η) : ServiceOp → Service η
  | init addresses => (sv.init link cfg addresses).1
  | addContext e h c => sv.addContext link cfg e h c
  | startContext e h c => sv.startContext link cfg e h c
  | stopContext e h c => (sv.stopContext link cfg e h c).1
  | removeContext e h c => sv.removeContext link cfg e h c
  | removeEngine e => sv.removeEngine link e
  | status => sv.status link cfg
  | enableAll => sv.enableAll link
  | disableAll => sv.disableAll link
  | stopAll => (sv.stopAll link cfg).1
  | shutdown => sv.shutdown link

/-- The contexts an operation is about, given the node it leaves: the context it names, or, for
`init`, every context of the node it announces. -/
def Concerns : ServiceOp → Node → Engine → Host → Context → Prop
  | init _, n, e, h, c => e ∈ n.topology.engines ∧ h ∈ e.hosts ∧ c ∈ h.contexts
  | addContext e' h' c', _, e, h, c => e = e' ∧ h = h' ∧ c = c'
  | startContext e' h' c', _, e, h, c => e = e' ∧ h = h' ∧ c = c'
  | stopContext e' h' c', _, e, h, c => e = e' ∧ h = h' ∧ c = c'
  | removeContext e' h' c', _, e, h, c => e = e' ∧ h = h' ∧ c = c'
  | _, _, _, _, _ => False

/-- What an operation that leaves the node `n` may hand to the pool: a request about a context the
operation concerns, whose `Context` parameter is not excluded for the context's host, or a request
with no `Context` parameter. -/
def Sendable (o : ServiceOp) (n : Node) (r : Request) : Prop :=
  ∀ p, r.CarriesContext p → ∃ e h c, o.Concerns n e h c ∧ (∃ cmd, r = Request.forContext cmd e h c) ∧
    cfg.exclusions.excludesBytes (Bytes.ofString h.name) p = false

/-- Runs operations one after another, noting for each the node it leaves and the requests it
handed to the pool. -/
def trace : Service η → List ServiceOp → List (ServiceOp × Node × List Request)
  | _, [] => []
  | sv, o :: os =>
    let sv' := o.apply link.logged cfg ⟨sv.node, (sv.peers, [])⟩
    (o, sv'.node, sv'.peers.2) :: trace ⟨sv'.node, sv'.peers.1⟩ os

theorem sendable_of_not_carries {o : ServiceOp} {n : Node} {r : Request}
    (hr : ∀ p, ¬ r.CarriesContext p) : o.Sendable cfg n r :=
  fun p hp => absurd hp (hr p)

/-- A request about a context that is not excluded may be sent by an operation that concerns it. -/
theorem sendable_forContext {o : ServiceOp} {n : Node} {e : Engine} {h : Host} {c : Context}
    (hcon : o.Concerns n e h c) (hc : Service.included cfg h c = true) (cmd : Command) :
    o.Sendable cfg n (Request.forContext cmd e h c) := by
  intro p hp
  refine ⟨e, h, c, hcon, ⟨cmd, rfl⟩, ?_⟩
  rw [Request.carriesContext_forContext hp, Exclusions.excludesBytes_normalizePath]
  simpa [Service.included, Exclusions.excludes] using hc

theorem announcement_sendable (addresses : List String) (n : Node) :
    ∀ r ∈ Service.announcement cfg n.topology, (init addresses).Sendable cfg n r := by
  intro r hr
  simp only [Service.announcement, List.mem_flatMap, List.mem_cons, List.mem_map,
    List.mem_filter, Bool.and_eq_true] at hr
  obtain ⟨e, he, rfl | ⟨h, hh, c, ⟨hc, -, hinc⟩, rfl⟩⟩ := hr
  · exact sendable_of_not_carries cfg (Request.not_carriesContext_config _ _ _)
  · exact sendable_forContext cfg (o := init addresses) ⟨he, hh, hc⟩ hinc _

theorem sendBatch_node {sv : Service η} {rs : List Request} :
    (Service.sendBatch link sv rs).node = sv.node := by
  unfold Service.sendBatch
  split <;> rfl

/-- One operation hands the pool only what it may send. -/
theorem apply_grows (o : ServiceOp) (sv : Service (η × List Request)) :
    Grows (o.Sendable cfg (o.apply link.logged cfg sv).node) sv.peers.2
      (o.apply link.logged cfg sv).peers.2 := by
  cases o with
  | init addresses =>
    simp only [apply, Service.init, PeerLink.logged_init]
    rcases link.init sv.peers.1 sv.node addresses with ⟨q, node, _ | err⟩
    · -- connected: the announcement of the connected node, as one batch
      dsimp only
      rw [sendBatch_node]
      exact Service.sendBatch_grows link _ (announcement_sendable cfg addresses node)
    · exact Grows.refl _ _
  | addContext e h c =>
    simp only [apply, Service.addContext]
    split
    · rename_i hc
      exact Service.send_grows link sv
        (sendable_forContext cfg (o := addContext e h c) ⟨rfl, rfl, rfl⟩ (Bool.and_eq_true_iff.1 hc).1 _)
    · exact Grows.refl _ _
  | startContext e h c =>
    simp only [apply, Service.startContext]
    split
    · rename_i hc
      exact Service.send_grows link sv (sendable_forContext cfg (o := startContext e h c) ⟨rfl, rfl, rfl⟩ hc _)
    · exact Grows.refl _ _
  | stopContext e h c =>
    simp only [apply, Service.stopContext]
    split
    · exact Grows.refl _ _
    · rename_i hc
      have hinc : Service.included cfg h c = true := by simpa using hc
      split
      · exact Service.send_grows link sv (sendable_forContext cfg (o := stopContext e h c) ⟨rfl, rfl, rfl⟩ hinc _)
      · -- disabled first, then drained with repeated stops
        exact (Service.send_grows link sv (sendable_forContext cfg (o := stopContext e h c) ⟨rfl, rfl, rfl⟩ hinc _)).trans
          (Service.drain_grows link (sendable_forContext cfg (o := stopContext e h c) ⟨rfl, rfl, rfl⟩ hinc _) _ _)
  | removeContext e h c =>
    simp only [apply, Service.removeContext]
    split
    · rename_i hc
      exact Service.send_grows link sv (sendable_forContext cfg (o := removeContext e h c) ⟨rfl, rfl, rfl⟩ hc _)
    · exact Grows.refl _ _
  | removeEngine e =>
    exact Service.send_grows link sv
      (sendable_of_not_carries cfg (Request.not_carriesContext_forEngine _ _))
  | status =>
    exact Service.status_grows link cfg sv
      (fun _ => sendable_of_not_carries cfg (Request.not_carriesContext_status _ _))
  | enableAll =>
    exact Service.perEngine_grows link sv
      (fun _ => sendable_of_not_carries cfg (Request.not_carriesContext_forEngine _ _))
  | disableAll =>
    exact Service.perEngine_grows link sv
      (fun _ => sendable_of_not_carries cfg (Request.not_carriesContext_forEngine _ _))
  | stopAll =>
    exact Service.stopAll_grows link cfg sv
      (fun _ _ => sendable_of_not_carries cfg (Request.not_carriesContext_forEngine _ _))
  | shutdown =>
    exact Service.shutdown_grows link sv
      (fun _ => sendable_of_not_carries cfg (Request.not_carriesContext_forEngine _ _))

/-- Along a run, each operation hands the pool only what it may send. -/
theorem trace_sendable (sv : Service η) (ops : List ServiceOp) :
    ∀ x ∈ trace link cfg sv ops, ∀ r ∈ x.2.2, x.1.Sendable cfg x.2.1 r := by
  induction ops generalizing sv with
  | nil => simp [trace]
  | cons o os ih =>
    intro x hx r hr
    rcases List.mem_cons.1 hx with rfl | hx
    · -- the log of the step started empty, so it holds what the step handed over
      obtain ⟨new, hnew, hall⟩ := apply_grows link cfg o ⟨sv.node, (sv.peers, [])⟩
      rw [List.nil_append] at hnew
      exact hall r (hnew ▸ hr)
    · exact ih _ x hx r hr

end ServiceOp

namespace ReconcileSettings

variable (s : ReconcileSettings)

/-- A request of reconciliation that carries a `Context` parameter `p` is about a live context of a
host of the topology, or removes a path that a proxy reported in the virtual host found by that
host's name; either way `p` is not excluded for the host. -/
theorem resetRequests_withhold (t : Topology) (inv : Inventory) :
    ∀ r ∈ t.resetRequests s inv, ∀ p, r.CarriesContext p →
      ∃ e ∈ t.engines, ∃ h ∈ e.hosts,
        ((∃ c ∈ h.contexts, ∃ cmd, r = Request.forContext cmd e h c) ∨
          (∃ v, h.reportedIn (inv.vhostsOf (Bytes.ofString e.route)) = some v ∧
            ∃ p₀ ∈ v.contexts.map (·.1),
              r = Request.removeReported (Bytes.ofString e.route) p₀ v.sortedAliases)) ∧
        s.exclusions.excludesBytes (Bytes.ofString h.name) p = false := by
  intro r hr p hp
  obtain ⟨e, he, hr⟩ := List.mem_flatMap.1 hr
  rw [engineBatch_eq, List.mem_append, List.mem_cons] at hr
  rcases hr with hr | rfl | hr
  · split at hr
    · rw [List.mem_singleton] at hr
      subst hr
      exact absurd hp (Request.not_carriesContext_forEngine _ _ _)
    · -- the removal of an obsolete path, reported and not excluded
      obtain ⟨h, hh, hr⟩ := List.mem_flatMap.1 hr
      rw [hostPlan_eq] at hr
      dsimp only at hr
      split at hr
      · cases hr
      · obtain ⟨p₀, hp₀, rfl⟩ := List.mem_map.1 hr
        have hobs := (mem_obsoletePaths_iff s h).1 (List.mem_mergeSort.1 hp₀)
        obtain ⟨v, hv, hpath, hexcl⟩ := hobs.1
        refine ⟨e, he, h, hh, .inr ⟨v, hv, p₀, hpath, by rw [hv]; rfl⟩, ?_⟩
        rw [Request.carriesContext_removeReported hp, Exclusions.excludesBytes_normalizePath]
        exact hexcl
  · exact absurd hp (Request.not_carriesContext_config _ _ _ _)
  · -- the state change of a live context
    obtain ⟨h, hh, hr⟩ := List.mem_flatMap.1 hr
    rw [hostPlan_eq] at hr
    obtain ⟨c, hc, hr⟩ := List.mem_flatMap.1 hr
    obtain ⟨hch, hexcl⟩ := (mem_liveContexts s h).1 hc
    obtain ⟨cmd, rfl⟩ : ∃ cmd, r = Request.forContext cmd e h c := by
      rcases s.mem_contextChange e h hr with rfl | rfl <;> exact ⟨_, rfl⟩
    refine ⟨e, he, h, hh, .inl ⟨c, hch, cmd, rfl⟩, ?_⟩
    rw [Request.carriesContext_forContext hp, Exclusions.excludesBytes_normalizePath]
    rw [Exclusions.excludes_normalizePath] at hexcl
    exact hexcl

end ReconcileSettings

/-- An excluded context never reaches a proxy. Along every run of the service, a request that an
operation hands to the pool and that carries a `Context` parameter `p` is about a context of a host
`h` that the operation concerns, and `p` is not excluded for `h`. A request of reconciliation,
against any report, that carries `p` is about a live context of a host `h`, or removes a path
reported in the virtual host that `h`'s name found, and again `p` is not excluded for `h`. -/
theorem excluded_never_sent {η ε : Type} (link : PeerLink η ε) (cfg : ServiceSettings)
    (sv : Service η) (ops : List ServiceOp) (s : ReconcileSettings) (t : Topology)
    (inv : Inventory) :
    (∀ x ∈ ServiceOp.trace link cfg sv ops, ∀ r ∈ x.2.2, ∀ p, r.CarriesContext p →
      ∃ e h c, x.1.Concerns x.2.1 e h c ∧ (∃ cmd, r = Request.forContext cmd e h c) ∧
        cfg.exclusions.excludesBytes (Bytes.ofString h.name) p = false) ∧
    (∀ r ∈ t.resetRequests s inv, ∀ p, r.CarriesContext p →
      ∃ e ∈ t.engines, ∃ h ∈ e.hosts,
        ((∃ c ∈ h.contexts, ∃ cmd, r = Request.forContext cmd e h c) ∨
          (∃ v, h.reportedIn (inv.vhostsOf (Bytes.ofString e.route)) = some v ∧
            ∃ p₀ ∈ v.contexts.map (·.1),
              r = Request.removeReported (Bytes.ofString e.route) p₀ v.sortedAliases)) ∧
        s.exclusions.excludesBytes (Bytes.ofString h.name) p = false) :=
  ⟨ServiceOp.trace_sendable link cfg sv ops, s.resetRequests_withhold t inv⟩

end ClusterAgent
