import ClusterAgent.Proofs.Reset
import ClusterAgent.Proofs.InfoRun
import ClusterAgent.Proofs.SyncRebuild

/-!
# State changes in a reset batch

After `CONFIG`, a reset batch of an engine holds the state changes its contexts need. Here they
are described without the reconciler's own bookkeeping (`ReconcileSettings.stateChange`): for
each host in order and each of its contexts in order, a context whose path is excluded for the
host asks for nothing; a started context that the proxy does not report `ENABLED` is announced
(`ENABLE-APP`, or `DISABLE-APP` when contexts are not enabled automatically); a stopped one that
it reports `ENABLED` is stopped; any other asks for nothing. The report consulted is the first
virtual host carrying the host's name, and a request names the engine's route, the normalised
path and the host's aliases joined by `,`.

Main statement: `resetRequests_state_changes`, the reset requests are, engine by engine, some
removals, then `CONFIG`, then exactly these state changes; and a topology built from specs keeps
each host's aliases sorted, so the aliases a request names come in byte order.
-/

namespace ClusterAgent

theorem Topology.aliases_sorted_of_ofSpecs {dns : Resolver} {specs : List EngineSpec}
    {t : Topology} (ht : Topology.ofSpecs dns specs = .ok t) :
    ∀ e ∈ t.engines, ∀ h ∈ e.hosts, h.aliases.Pairwise (· < ·) := by
  intro e he h hh
  obtain ⟨hs, rfl⟩ := Topology.exists_ofSpec_of_mem ht he hh
  rw [Host.ofSpec_aliases]
  exact aliasSet_sorted _ _

/-- Whether the proxy lists the path `p` of host `h` as `ENABLED`, in the first virtual host it
reports that carries the host's name. -/
def Host.reportsEnabled (h : Host) (reported : List VirtualHost) (p : String) : Bool :=
  (h.reportedIn reported).any fun v => v.contexts.contains (Bytes.ofString p, .enabled)

/-- The request of verb `cmd` about the context at path `p` of host `h` of engine `e`: for the
engine's route, with `Context` the path and `Alias` the host's aliases joined by `,`. -/
def Request.ofContextPath (cmd : Command) (e : Engine) (h : Host) (p : String) : Request :=
  { command := cmd, route := Bytes.ofString e.route,
    params := [(Bytes.ofString "Context", Bytes.ofString p),
      (Bytes.ofString "Alias", Bytes.ofString (",".intercalate h.aliases))] }

theorem Request.forContext_eq (cmd : Command) (e : Engine) (h : Host) (c : Context) :
    Request.forContext cmd e h c = Request.ofContextPath cmd e h (normalizePath c.path) := by
  have hcomma : Bytes.ofString "," = [0x2C] := by decide +kernel
  simp only [forContext, contextParams, ofContextPath, Bytes.normalizePath_ofString,
    Bytes.ofString_intercalate, hcomma]
  rfl

/-- Every virtual host a proxy reports gives each path one status, as a map does. -/
def Inventory.PathSets (inv : Inventory) : Prop :=
  ∀ node ∈ inv.nodes, ∀ v ∈ node.2, (v.contexts.map (·.1)).Nodup

instance (inv : Inventory) : Decidable inv.PathSets :=
  inferInstanceAs (Decidable (∀ node ∈ inv.nodes, ∀ v ∈ node.2, (v.contexts.map (·.1)).Nodup))

theorem Inventory.PathSets.vhostsOf {inv : Inventory} (hinv : inv.PathSets) (route : Bytes) :
    ∀ v ∈ inv.vhostsOf route, (v.contexts.map (·.1)).Nodup := by
  intro v hv
  obtain ⟨node, hnode, hv⟩ := Inventory.mem_nodes_of_mem_vhostsOf hv
  exact hinv node hnode v hv

/-- When the reported virtual hosts give each path one status, a path's status is `ENABLED`
exactly when the report lists the path as `ENABLED`. -/
theorem Host.statusOf?_eq_enabled_iff (h : Host) {reported : List VirtualHost}
    (hwf : ∀ v ∈ reported, (v.contexts.map (·.1)).Nodup) (p : String) :
    (h.reportedIn reported).bind (·.statusOf? (Bytes.ofString p)) = some .enabled ↔
      h.reportsEnabled reported p = true := by
  unfold Host.reportsEnabled
  rcases hv : h.reportedIn reported with _ | v
  · simp
  · -- the virtual host lists each path once, so the first status of a path is its only one
    have hnd := hwf v (List.mem_of_find?_eq_some hv)
    simp only [Option.bind_some, Option.any_some, List.contains_iff_mem, VirtualHost.statusOf?]
    constructor
    · intro hl
      obtain ⟨l₁, l₂, hcs, -⟩ := List.lookup_eq_some_iff.1 hl
      simp [hcs]
    · exact Info.lookup_of_mem hnd

namespace ReconcileSettings

variable (s : ReconcileSettings) (e : Engine) (h : Host) (reported : List VirtualHost)

/-- The state change a context `c` of host `h` needs, given what the proxy reports. -/
def stateChange (c : Context) : List Request :=
  if s.exclusions.excludes h.name (normalizePath c.path) then []
  else if c.started && !h.reportsEnabled reported (normalizePath c.path) then
    [Request.ofContextPath (if s.autoEnable then .enableApp else .disableApp) e h
      (normalizePath c.path)]
  else if !c.started && h.reportsEnabled reported (normalizePath c.path) then
    [Request.ofContextPath .stopApp e h (normalizePath c.path)]
  else []

theorem contextChange_eq_stateChange (hwf : ∀ v ∈ reported, (v.contexts.map (·.1)).Nodup)
    {c : Context}
    (hex : s.exclusions.excludes h.name (normalizePath c.path) = false) :
    s.contextChange e h c ((h.reportedIn reported).bind (·.statusOf? c.reportedPath)) =
      s.stateChange e h reported c := by
  have hen : ((h.reportedIn reported).bind (·.statusOf? (Bytes.ofString (normalizePath c.path)))
      == some .enabled) = h.reportsEnabled reported (normalizePath c.path) := by
    rw [Bool.eq_iff_iff, beq_iff_eq]
    exact h.statusOf?_eq_enabled_iff hwf (normalizePath c.path)
  unfold contextChange stateChange
  simp only [hex, Bool.false_eq_true, ↓reduceIte, Context.reportedPath, Request.forContext_eq, hen]
  rfl

theorem changes_eq_stateChanges (hwf : ∀ v ∈ reported, (v.contexts.map (·.1)).Nodup) :
    (s.hostPlan e h reported).changes = h.contexts.flatMap (s.stateChange e h reported) := by
  rw [hostPlan_eq]
  unfold liveContexts
  induction h.contexts with
  | nil => rfl
  | cons c cs ih =>
    rw [List.flatMap_cons, ← ih, List.filter_cons]
    by_cases hex : s.exclusions.excludes h.name (normalizePath c.path) = true
    · simp [hex, stateChange]
    · rw [Bool.not_eq_true] at hex
      simp only [hex, Bool.not_false, ↓reduceIte, List.flatMap_cons]
      rw [s.contextChange_eq_stateChange e h reported hwf hex]

theorem command_of_mem_removals {r : Request} (hr : r ∈ (s.hostPlan e h reported).removals) :
    r.command = .removeApp := by
  rw [hostPlan_eq] at hr
  split at hr
  · simp at hr
  · obtain ⟨p, -, rfl⟩ := List.mem_map.1 hr
    rfl

end ReconcileSettings

/-- The reset requests are, engine by engine in topology order, some removals, then `CONFIG`,
then the state changes of the engine's hosts in order, each host's contexts in order, as
`ReconcileSettings.stateChange` describes them against the virtual hosts reported for the engine's
route, when each reported virtual host gives each path one status. A topology built from specs
keeps each host's aliases sorted, each once. -/
theorem resetRequests_state_changes {dns : Resolver} {specs : List EngineSpec} {t : Topology}
    (ht : Topology.ofSpecs dns specs = .ok t) (s : ReconcileSettings) {inv : Inventory}
    (hinv : inv.PathSets) :
    (∀ e ∈ t.engines, ∀ h ∈ e.hosts, h.aliases.Pairwise (· < ·)) ∧
      ∃ W : Engine → List Request, (∀ e, ∀ r ∈ W e, r.command = .removeApp) ∧
        t.resetRequests s inv = t.engines.flatMap fun e =>
          W e ++ Request.config s.node s.balancer e ::
            e.hosts.flatMap fun h =>
              h.contexts.flatMap (s.stateChange e h (inv.vhostsOf (Bytes.ofString e.route))) := by
  refine ⟨Topology.aliases_sorted_of_ofSpecs ht, fun e =>
    if e.hosts.any fun h => (s.hostPlan e h (inv.vhostsOf (Bytes.ofString e.route))).dropsEngine
    then [Request.forEngine .removeApp e]
    else e.hosts.flatMap fun h => (s.hostPlan e h (inv.vhostsOf (Bytes.ofString e.route))).removals,
    fun e r hr => ?_, ?_⟩
  · -- the wildcard removal, or the removal of obsolete paths
    dsimp only at hr
    split at hr
    · rw [List.mem_singleton.1 hr]
      rfl
    · obtain ⟨h, -, hr⟩ := List.mem_flatMap.1 hr
      exact s.command_of_mem_removals e h _ hr
  · refine List.flatMap_congr fun e _ => ?_
    rw [s.engineBatch_eq]
    congr 2
    exact List.flatMap_congr fun h _ => s.changes_eq_stateChanges e h _ (hinv.vhostsOf _)

/-- A proxy that reports a started context `DISABLED` and a stopped one `ENABLED`, with contexts
not enabled automatically: the batch announces the first disabled and stops the second. -/
theorem resetRequests_state_changes_disable_and_stop :
    Topology.ofSpecs Resolver.empty
        [{ route := "node1",
           hosts := [{ name := "localhost",
                       contexts := [{ path := "/app", started := true }, { path := "/off" }] }] }] =
      .ok ⟨[⟨"node1", "node1", ⟨none, 0, .ajp, false⟩,
        [⟨"localhost", ["localhost"], [⟨"/app", true⟩, ⟨"/off", false⟩]⟩]⟩]⟩ ∧
    Inventory.PathSets ⟨[(Bytes.ofString "node1", [⟨[Bytes.ofString "localhost"],
        [(Bytes.ofString "/app", .disabled), (Bytes.ofString "/off", .enabled)]⟩])]⟩ ∧
    ((∀ e ∈ [(⟨"node1", "node1", ⟨none, 0, .ajp, false⟩,
          [⟨"localhost", ["localhost"], [⟨"/app", true⟩, ⟨"/off", false⟩]⟩]⟩ : Engine)],
        ∀ h ∈ e.hosts, h.aliases.Pairwise (· < ·)) ∧
      ∃ W : Engine → List Request, (∀ e, ∀ r ∈ W e, r.command = .removeApp) ∧
        Topology.resetRequests ⟨[⟨"node1", "node1", ⟨none, 0, .ajp, false⟩,
            [⟨"localhost", ["localhost"], [⟨"/app", true⟩, ⟨"/off", false⟩]⟩]⟩]⟩
            { autoEnable := false }
            ⟨[(Bytes.ofString "node1", [⟨[Bytes.ofString "localhost"],
              [(Bytes.ofString "/app", .disabled), (Bytes.ofString "/off", .enabled)]⟩])]⟩ =
          [(⟨"node1", "node1", ⟨none, 0, .ajp, false⟩,
            [⟨"localhost", ["localhost"], [⟨"/app", true⟩, ⟨"/off", false⟩]⟩]⟩ : Engine)].flatMap
            fun e => W e ++ Request.config ({ autoEnable := false } : ReconcileSettings).node
              ({ autoEnable := false } : ReconcileSettings).balancer e ::
                e.hosts.flatMap fun h => h.contexts.flatMap
                  (({ autoEnable := false } : ReconcileSettings).stateChange e h
                    (Inventory.vhostsOf ⟨[(Bytes.ofString "node1", [⟨[Bytes.ofString "localhost"],
                      [(Bytes.ofString "/app", .disabled), (Bytes.ofString "/off", .enabled)]⟩])]⟩
                      (Bytes.ofString e.route)))) := by
  have ht : Topology.ofSpecs Resolver.empty
      [{ route := "node1",
         hosts := [{ name := "localhost",
                     contexts := [{ path := "/app", started := true }, { path := "/off" }] }] }] =
      .ok ⟨[⟨"node1", "node1", ⟨none, 0, .ajp, false⟩,
        [⟨"localhost", ["localhost"], [⟨"/app", true⟩, ⟨"/off", false⟩]⟩]⟩]⟩ := by
    decide +kernel
  have hinv : Inventory.PathSets ⟨[(Bytes.ofString "node1", [⟨[Bytes.ofString "localhost"],
      [(Bytes.ofString "/app", .disabled), (Bytes.ofString "/off", .enabled)]⟩])]⟩ := by
    decide +kernel
  exact ⟨ht, hinv, resetRequests_state_changes ht { autoEnable := false } hinv⟩

end ClusterAgent
