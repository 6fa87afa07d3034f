import ClusterAgent.Reconcile
import ClusterAgent.Proofs.Aliases
import Mathlib.Data.List.Perm.Subperm

/-!
# Reset batches

`Topology.resetRequests` is read here through the parts of `ReconcileSettings.hostPlan`: the live,
not excluded contexts of a host (`liveContexts`), the reported paths that are not excluded
(`includedPaths`) and those among them that no live context has (`obsoletePaths`). With these
named, a batch is `W ++ CONFIG :: C` (`engineBatch_eq`), where `W` is the wildcard removal when
some host drops the engine and the per-context removals otherwise.

Main statements:

* `resetRequests_eq_configs_iff`: reconciliation asks for nothing but the `CONFIG` of each engine
  exactly when the proxy's report is in sync with the topology (`Topology.InSync`): every host
  finds its virtual host, with the same aliases, no obsolete path, and exactly the started
  contexts reported `ENABLED`.
* `resetRequests_batches`: the requests are one batch per engine, each a removal part, `CONFIG`
  and state changes (`BatchShape`); the removal part is the wildcard removal exactly when some
  host drops the engine (`Host.DropsEngine`), and otherwise removes each obsolete path, in byte
  order, under the reported aliases in byte order.
* `wildcard_batch_announces`: a batch that removes the whole engine goes on with `CONFIG` and
  announces every started, not excluded context that the report did not show `ENABLED`. The
  state changes are computed against the report taken before the removal, so a started context
  reported `ENABLED` is not announced again (`wildcard_batch_skips_enabled_context`).
-/

namespace ClusterAgent

theorem length_le_length_flatMap {α β : Type} {f : α → List β} :
    ∀ {l : List α}, (∀ a ∈ l, f a ≠ []) → l.length ≤ (l.flatMap f).length
  | [], _ => by simp
  | a :: l, hne => by
    have := length_le_length_flatMap (l := l) fun b hb => hne b (List.mem_cons_of_mem _ hb)
    have ha : 0 < (f a).length := List.length_pos_iff.2 (hne a List.mem_cons_self)
    simp only [List.flatMap_cons, List.length_append, List.length_cons]
    omega

/-- When every piece is non-empty, a concatenation has one item per input only if each piece is a
single item. -/
theorem flatMap_eq_map_iff {α β : Type} {f : α → List β} {g : α → β} :
    ∀ {l : List α}, (∀ a ∈ l, f a ≠ []) → (l.flatMap f = l.map g ↔ ∀ a ∈ l, f a = [g a])
  | [], _ => by simp
  | a :: l, hne => by
    have hne' : ∀ b ∈ l, f b ≠ [] := fun b hb => hne b (List.mem_cons_of_mem _ hb)
    have ih := flatMap_eq_map_iff (g := g) hne'
    obtain ⟨x, xs, hx⟩ := List.exists_cons_of_ne_nil (hne a List.mem_cons_self)
    simp only [List.flatMap_cons, List.map_cons, hx, List.cons_append, List.cons.injEq,
      List.forall_mem_cons]
    constructor
    · rintro ⟨rfl, hrest⟩
      have hxs : xs = [] := by
        have hlen := congrArg List.length hrest
        have := length_le_length_flatMap hne'
        simp only [List.length_append, List.length_map] at hlen
        exact List.length_eq_zero_iff.1 (by omega)
      subst hxs
      exact ⟨⟨rfl, rfl⟩, ih.1 (by simpa using hrest)⟩
    · rintro ⟨⟨rfl, rfl⟩, hrest⟩
      exact ⟨rfl, by simpa using ih.2 hrest⟩

/-- The virtual host a proxy reports for a host: the first that carries the host's name. -/
def Host.reportedIn (h : Host) (reported : List VirtualHost) : Option VirtualHost :=
  reported.find? (·.hasAlias (Bytes.ofString h.name))

/-- The path under which a proxy knows a context. -/
def Context.reportedPath (c : Context) : Bytes := Bytes.ofString (normalizePath c.path)

/-- The aliases a proxy reports for a host: those of its reported virtual host, none without one. -/
def Host.reportedAliases (h : Host) (reported : List VirtualHost) : List Bytes :=
  ((h.reportedIn reported).map (·.aliases)).getD []

/-- `p` is a path the proxy reports for the host `h`, and it is not excluded. -/
def Host.ReportsPath (ex : Exclusions) (h : Host) (reported : List VirtualHost) (p : Bytes) : Prop :=
  ∃ v, h.reportedIn reported = some v ∧ p ∈ v.contexts.map (·.1) ∧ ex.excludesReported h.name p = false

/-- `p` is the path of a context of `h` that is not excluded. -/
def Host.LivePath (ex : Exclusions) (h : Host) (p : Bytes) : Prop :=
  ∃ c ∈ h.contexts, ex.excludes h.name (normalizePath c.path) = false ∧ c.reportedPath = p

/-- What makes a host drop its whole engine from a proxy: its aliases differ, as sets, from those
reported, or the proxy reports paths for it that are not excluded and none of them is live. -/
def Host.DropsEngine (ex : Exclusions) (h : Host) (reported : List VirtualHost) : Prop :=
  ¬ (∀ a, a ∈ h.reportedAliases reported ↔ a ∈ h.aliases.map Bytes.ofString) ∨
    ((∃ p, h.ReportsPath ex reported p) ∧ ∀ p, h.ReportsPath ex reported p → ¬ h.LivePath ex p)

/-- The removal of a path a proxy reported, under the aliases it reported, for a route. -/
theorem Request.removeReported_of_normal {route p : Bytes} (aliases : List Bytes)
    (hp : Bytes.normalizePath p = p) :
    Request.removeReported route p aliases =
      { command := .removeApp, route := route,
        params := [(Bytes.ofString "Context", p),
          (Bytes.ofString "Alias", (aliases.intersperse [0x2C]).flatten)] } := by
  simp [Request.removeReported, Request.contextParams, hp]

/-- Whether a host's aliases are exactly the reported ones, compared the way the reconciler
does: the same number of them, and each live alias among the reported. -/
def Host.sameAliases (h : Host) (reported : List Bytes) : Bool :=
  h.aliases.length == reported.length && h.aliases.all fun a => reported.contains (Bytes.ofString a)

namespace Bytes

theorem lexLe_total : ∀ a b : Bytes, (lexLe a b || lexLe b a) = true
  | [], _ => by simp [lexLe]
  | _ :: _, [] => by simp [lexLe]
  | x :: xs, y :: ys => by
    have ih := lexLe_total xs ys
    simp only [lexLe, Bool.or_eq_true, Bool.and_eq_true, beq_iff_eq, decide_eq_true_eq] at ih ⊢
    rcases Nat.lt_trichotomy x.toNat y.toNat with h | h | h
    · exact .inl (.inl (UInt8.lt_iff_toNat_lt.2 h))
    · obtain rfl : x = y := UInt8.toNat_inj.1 h
      rcases ih with ih | ih
      · exact .inl (.inr ⟨rfl, ih⟩)
      · exact .inr (.inr ⟨rfl, ih⟩)
    · exact .inr (.inl (UInt8.lt_iff_toNat_lt.2 h))

theorem lexLe_trans : ∀ a b c : Bytes, lexLe a b = true → lexLe b c = true → lexLe a c = true
  | [], _, _, _, _ => by simp [lexLe]
  | _ :: _, [], _, h, _ => by simp [lexLe] at h
  | _ :: _, _ :: _, [], _, h => by simp [lexLe] at h
  | x :: xs, y :: ys, z :: zs, h₁, h₂ => by
    simp only [lexLe, Bool.or_eq_true, Bool.and_eq_true, beq_iff_eq, decide_eq_true_eq,
      UInt8.lt_iff_toNat_lt] at h₁ h₂ ⊢
    rcases h₁ with h₁ | ⟨rfl, h₁⟩ <;> rcases h₂ with h₂ | ⟨rfl, h₂⟩
    · exact .inl (by omega)
    · exact .inl h₁
    · exact .inl h₂
    · exact .inr ⟨rfl, lexLe_trans xs ys zs h₁ h₂⟩

theorem pairwise_mergeSort_lexLe (l : List Bytes) :
    (l.mergeSort lexLe).Pairwise fun a b => lexLe a b = true :=
  List.pairwise_mergeSort lexLe_trans lexLe_total l

end Bytes

theorem Inventory.mem_nodes_of_mem_vhostsOf {inv : Inventory} {route : Bytes} {v : VirtualHost}
    (hv : v ∈ inv.vhostsOf route) : ∃ node ∈ inv.nodes, v ∈ node.2 := by
  unfold Inventory.vhostsOf at hv
  cases hl : inv.nodes.lookup route with
  | none => simp [hl] at hv
  | some vs =>
    obtain ⟨l₁, l₂, hnodes, -⟩ := List.lookup_eq_some_iff.1 hl
    exact ⟨(route, vs), by simp [hnodes], by simpa [hl] using hv⟩

/-- Every virtual host a proxy reports lists each alias once, as a set does. -/
def Inventory.AliasSets (inv : Inventory) : Prop :=
  ∀ node ∈ inv.nodes, ∀ v ∈ node.2, v.aliases.Nodup

instance (inv : Inventory) : Decidable inv.AliasSets :=
  inferInstanceAs (Decidable (∀ node ∈ inv.nodes, ∀ v ∈ node.2, v.aliases.Nodup))

theorem Inventory.AliasSets.nodup {inv : Inventory} (hinv : inv.AliasSets) (route : Bytes) :
    ∀ v ∈ inv.vhostsOf route, v.aliases.Nodup := by
  intro v hv
  obtain ⟨node, hnode, hv⟩ := Inventory.mem_nodes_of_mem_vhostsOf hv
  exact hinv node hnode v hv

/-- A virtual host as a proxy's report describes one: a set of aliases, and one status for each
normalised path. -/
structure VirtualHost.WellFormed (v : VirtualHost) : Prop where
  aliases_nodup : v.aliases.Nodup
  paths_nodup : (v.contexts.map (·.1)).Nodup
  paths_normal : ∀ p ∈ v.contexts.map (·.1), Bytes.normalizePath p = p

/-- Every virtual host of the inventory is well formed. -/
instance (v : VirtualHost) : Decidable v.WellFormed :=
  decidable_of_iff (v.aliases.Nodup ∧ (v.contexts.map (·.1)).Nodup ∧
      ∀ p ∈ v.contexts.map (·.1), Bytes.normalizePath p = p)
    ⟨fun ⟨ha, hp, hn⟩ => ⟨ha, hp, hn⟩, fun hv => ⟨hv.1, hv.2, hv.3⟩⟩

def Inventory.WellFormed (inv : Inventory) : Prop :=
  ∀ node ∈ inv.nodes, ∀ v ∈ node.2, v.WellFormed

instance (inv : Inventory) : Decidable inv.WellFormed :=
  inferInstanceAs (Decidable (∀ node ∈ inv.nodes, ∀ v ∈ node.2, v.WellFormed))

theorem Inventory.WellFormed.vhostsOf {inv : Inventory} (hinv : inv.WellFormed) (route : Bytes) :
    ∀ v ∈ inv.vhostsOf route, v.WellFormed := by
  intro v hv
  obtain ⟨node, hnode, hv⟩ := Inventory.mem_nodes_of_mem_vhostsOf hv
  exact hinv node hnode v hv

/-- What a proxy's report `v` must say of a live host for reconciliation to leave it alone: the
same aliases; every reported path that is not excluded is the path of a live context that is not
excluded; and of those contexts the started ones, and only they, are reported `ENABLED`. -/
structure HostInSync (ex : Exclusions) (h : Host) (v : VirtualHost) : Prop where
  aliases : ∀ a, a ∈ v.aliases ↔ a ∈ h.aliases.map Bytes.ofString
  paths : ∀ p ∈ v.contexts.map (·.1), ex.excludesReported h.name p = false →
    ∃ c ∈ h.contexts, ex.excludes h.name (normalizePath c.path) = false ∧ c.reportedPath = p
  started : ∀ c ∈ h.contexts, ex.excludes h.name (normalizePath c.path) = false →
    c.started = true → v.statusOf? c.reportedPath = some .enabled
  stopped : ∀ c ∈ h.contexts, ex.excludes h.name (normalizePath c.path) = false →
    c.started = false → v.statusOf? c.reportedPath ≠ some .enabled

/-- A proxy's inventory is in sync with a topology when every host of every engine finds its
virtual host among those reported for the engine's route, and is in sync with it. -/
def Topology.InSync (t : Topology) (ex : Exclusions) (inv : Inventory) : Prop :=
  ∀ e ∈ t.engines, ∀ h ∈ e.hosts,
    ∃ v, h.reportedIn (inv.vhostsOf (Bytes.ofString e.route)) = some v ∧ HostInSync ex h v

namespace Host

theorem sameAliases_iff (h : Host) {vs : List Bytes} (hh : (h.aliases.map Bytes.ofString).Nodup)
    (hv : vs.Nodup) : h.sameAliases vs = true ↔ ∀ a, a ∈ vs ↔ a ∈ h.aliases.map Bytes.ofString := by
  have hsame : h.sameAliases vs = true ↔
      (h.aliases.map Bytes.ofString).length = vs.length ∧ h.aliases.map Bytes.ofString ⊆ vs := by
    simp [Host.sameAliases, List.subset_def]
  rw [hsame, ← List.perm_ext_iff_of_nodup hv hh]
  constructor
  · rintro ⟨hlen, hsub⟩
    exact ((List.subperm_of_subset hh hsub).perm_of_length_le (by omega)).symm
  · intro hp
    exact ⟨hp.length_eq.symm, hp.symm.subset⟩

/-- No reported virtual host means no reported alias, and a host always has one. -/
theorem sameAliases_nil {h : Host} (hh : h.HasAliasSet) : h.sameAliases [] = false := by
  simp [Host.sameAliases, List.ne_nil_of_mem hh.name_mem]

end Host

namespace ReconcileSettings

variable (s : ReconcileSettings) (e : Engine) (h : Host)

/-- The contexts of a host that are not excluded. -/
def liveContexts : List Context :=
  h.contexts.filter fun c => !s.exclusions.excludes h.name (normalizePath c.path)

/-- The paths a proxy should know for the live contexts of a host. -/
def livePaths : List Bytes := (s.liveContexts h).map Context.reportedPath

/-- The paths reported for a host that are not excluded. -/
def includedPaths (v : Option VirtualHost) : List Bytes :=
  (((v.map (·.contexts)).getD []).map (·.1)).filter fun p => !s.exclusions.excludesReported h.name p

/-- The reported paths that no live context has any more. -/
def obsoletePaths (v : Option VirtualHost) : List Bytes :=
  (s.includedPaths h v).filter fun p => !(s.livePaths h).contains p

/-- Whether every reported path that is not excluded is obsolete, and there is one. -/
def allObsolete (v : Option VirtualHost) : Bool :=
  !(s.obsoletePaths h v).isEmpty && (s.obsoletePaths h v).length == (s.includedPaths h v).length

theorem hostPlan_eq (reported : List VirtualHost) :
    s.hostPlan e h reported =
      { dropsEngine := !h.sameAliases (((h.reportedIn reported).map (·.aliases)).getD []) ||
          s.allObsolete h (h.reportedIn reported),
        removals := if s.allObsolete h (h.reportedIn reported) then []
          else ((s.obsoletePaths h (h.reportedIn reported)).mergeSort Bytes.lexLe).map fun p =>
            Request.removeReported (Bytes.ofString e.route) p
              (((h.reportedIn reported).map (·.sortedAliases)).getD []),
        changes := (s.liveContexts h).flatMap fun c =>
          s.contextChange e h c ((h.reportedIn reported).bind (·.statusOf? c.reportedPath)) } :=
  rfl

theorem engineBatch_eq (reported : List VirtualHost) :
    s.engineBatch e reported =
      (if e.hosts.any (fun h => (s.hostPlan e h reported).dropsEngine)
        then [Request.forEngine .removeApp e]
        else e.hosts.flatMap fun h => (s.hostPlan e h reported).removals) ++
      Request.config s.node s.balancer e :: e.hosts.flatMap fun h => (s.hostPlan e h reported).changes := by
  unfold engineBatch
  split <;> simp_all [List.flatMap_map]

@[simp] theorem mem_liveContexts {c : Context} :
    c ∈ s.liveContexts h ↔ c ∈ h.contexts ∧ s.exclusions.excludes h.name (normalizePath c.path) = false := by
  simp [liveContexts]

theorem mem_livePaths {p : Bytes} : p ∈ s.livePaths h ↔ h.LivePath s.exclusions p := by
  simp [livePaths, Host.LivePath, and_assoc]

theorem obsoletePaths_eq_nil_iff (v : Option VirtualHost) :
    s.obsoletePaths h v = [] ↔ ∀ p ∈ s.includedPaths h v, p ∈ s.livePaths h := by
  simp [obsoletePaths, List.filter_eq_nil_iff]

theorem mem_includedPaths_some {v : VirtualHost} {p : Bytes} :
    p ∈ s.includedPaths h (some v) ↔
      p ∈ v.contexts.map (·.1) ∧ s.exclusions.excludesReported h.name p = false := by
  simp [includedPaths]

theorem mem_includedPaths_iff {reported : List VirtualHost} {p : Bytes} :
    p ∈ s.includedPaths h (h.reportedIn reported) ↔ h.ReportsPath s.exclusions reported p := by
  unfold Host.ReportsPath
  cases h.reportedIn reported with
  | none => simp [includedPaths]
  | some v => simp [mem_includedPaths_some]

theorem mem_obsoletePaths_iff {reported : List VirtualHost} {p : Bytes} :
    p ∈ s.obsoletePaths h (h.reportedIn reported) ↔
      h.ReportsPath s.exclusions reported p ∧ ¬ h.LivePath s.exclusions p := by
  simp [obsoletePaths, mem_includedPaths_iff, mem_livePaths]

/-- Every reported path that is not excluded is obsolete, and there is one. -/
theorem allObsolete_iff (v : Option VirtualHost) :
    s.allObsolete h v = true ↔
      s.includedPaths h v ≠ [] ∧ ∀ p ∈ s.includedPaths h v, p ∉ s.livePaths h := by
  have hlen : (s.obsoletePaths h v).length = (s.includedPaths h v).length ↔
      ∀ p ∈ s.includedPaths h v, p ∉ s.livePaths h := by
    simp [obsoletePaths, List.length_filter_eq_length_iff]
  unfold allObsolete
  rw [Bool.and_eq_true, beq_iff_eq, hlen]
  constructor
  · rintro ⟨hne, hall⟩
    refine ⟨fun hnil => ?_, hall⟩
    simp [obsoletePaths, hnil] at hne
  · rintro ⟨hne, hall⟩
    have hself : s.obsoletePaths h v = s.includedPaths h v := by
      simpa [obsoletePaths, List.filter_eq_self] using hall
    exact ⟨by simpa [hself, List.isEmpty_iff] using hne, hall⟩

theorem allObsolete_of_obsoletePaths_eq_nil {v : Option VirtualHost} (hv : s.obsoletePaths h v = []) :
    s.allObsolete h v = false := by
  simp [allObsolete, hv]

/-- A live context needs no request exactly when it is started just when reported `ENABLED`. -/
theorem contextChange_eq_nil_iff (c : Context) (reported : Option ContextStatus) :
    s.contextChange e h c reported = [] ↔ (c.started = true ↔ reported = some .enabled) := by
  unfold contextChange
  cases c.started <;> by_cases hr : reported = some .enabled <;> simp [hr]

end ReconcileSettings

/-- A host's plan asks for nothing: the engine stays, nothing is removed, nothing changes. -/
structure HostPlan.Quiet (p : HostPlan) : Prop where
  keeps : p.dropsEngine = false
  noRemovals : p.removals = []
  noChanges : p.changes = []

namespace ReconcileSettings

variable (s : ReconcileSettings) (e : Engine) (h : Host)

/-- A host asks for nothing exactly when its aliases agree with the reported ones, no reported
path is obsolete, and its live contexts are started exactly when reported `ENABLED`. -/
theorem quiet_hostPlan_iff (reported : List VirtualHost) :
    (s.hostPlan e h reported).Quiet ↔
      h.sameAliases (((h.reportedIn reported).map (·.aliases)).getD []) = true ∧
        s.obsoletePaths h (h.reportedIn reported) = [] ∧
        ∀ c ∈ s.liveContexts h, (c.started = true ↔
          (h.reportedIn reported).bind (·.statusOf? c.reportedPath) = some .enabled) := by
  rw [hostPlan_eq]
  constructor
  · rintro ⟨hdrop, hrem, hch⟩
    simp only [Bool.or_eq_false_iff, Bool.not_eq_false'] at hdrop hrem hch
    obtain ⟨hsame, hall⟩ := hdrop
    simp only [hall, Bool.false_eq_true, ↓reduceIte, List.map_eq_nil_iff] at hrem
    refine ⟨hsame, ?_, fun c hc => (contextChange_eq_nil_iff s e h c _).1 ?_⟩
    · rwa [← List.length_eq_zero_iff, List.length_mergeSort, List.length_eq_zero_iff] at hrem
    · exact List.flatMap_eq_nil_iff.1 hch c hc
  · rintro ⟨hsame, hobs, hch⟩
    have hall := allObsolete_of_obsoletePaths_eq_nil s h hobs
    refine ⟨by simp [hsame, hall], by simp [hall, hobs], ?_⟩
    exact List.flatMap_eq_nil_iff.2 fun c hc => (contextChange_eq_nil_iff s e h c _).2 (hch c hc)

/-- With alias sets on both sides, a host asks for nothing exactly when it is in sync with its
reported virtual host. -/
theorem quiet_hostPlan_iff_inSync {reported : List VirtualHost} (hh : h.HasAliasSet)
    (hrep : ∀ v ∈ reported, v.aliases.Nodup) :
    (s.hostPlan e h reported).Quiet ↔
      ∃ v, h.reportedIn reported = some v ∧ HostInSync s.exclusions h v := by
  rw [quiet_hostPlan_iff]
  constructor
  · rintro ⟨hsame, hobs, hch⟩
    cases hv : h.reportedIn reported with
    | none => simp [hv, Host.sameAliases_nil hh] at hsame
    | some v =>
      have hvn := hrep v (List.mem_of_find?_eq_some hv)
      rw [hv] at hsame hobs hch
      rw [obsoletePaths_eq_nil_iff] at hobs
      refine ⟨v, rfl, ⟨(h.sameAliases_iff hh.nodup_bytes hvn).1 (by simpa using hsame), ?_, ?_, ?_⟩⟩
      · intro p hp hex
        exact (mem_livePaths s h).1 (hobs p ((mem_includedPaths_some s h).2 ⟨hp, hex⟩))
      · intro c hc hex hst
        simpa using (hch c ((mem_liveContexts s h).2 ⟨hc, hex⟩)).1 hst
      · intro c hc hex hst hen
        have := (hch c ((mem_liveContexts s h).2 ⟨hc, hex⟩)).2 (by simpa using hen)
        simp [hst] at this
  · rintro ⟨v, hv, hs⟩
    have hvn := hrep v (List.mem_of_find?_eq_some hv)
    rw [hv]
    refine ⟨by simpa using (h.sameAliases_iff hh.nodup_bytes hvn).2 hs.aliases, ?_, ?_⟩
    · rw [obsoletePaths_eq_nil_iff]
      intro p hp
      obtain ⟨hp, hex⟩ := (mem_includedPaths_some s h).1 hp
      exact (mem_livePaths s h).2 (hs.paths p hp hex)
    · intro c hc
      obtain ⟨hc, hex⟩ := (mem_liveContexts s h).1 hc
      cases hst : c.started
      · simpa using hs.stopped c hc hex hst
      · simpa using hs.started c hc hex hst

theorem wildcard_of_mem_removals {reported : List VirtualHost} {r : Request}
    (hr : r ∈ (s.hostPlan e h reported).removals) : r.wildcard = false := by
  rw [hostPlan_eq] at hr
  split at hr
  · simp at hr
  · obtain ⟨p, -, rfl⟩ := List.mem_map.1 hr
    rfl

/-- A live context needs at most its announcement or its stop. -/
theorem mem_contextChange {c : Context} {reported : Option ContextStatus} {r : Request}
    (hr : r ∈ s.contextChange e h c reported) :
    r = Request.forContext s.enableCommand e h c ∨ r = Request.forContext .stopApp e h c := by
  unfold contextChange at hr
  dsimp only at hr
  split at hr
  · exact .inl (List.mem_singleton.1 hr)
  split at hr
  · exact .inr (List.mem_singleton.1 hr)
  · simp at hr

theorem route_of_mem_removals {reported : List VirtualHost} {r : Request}
    (hr : r ∈ (s.hostPlan e h reported).removals) : r.route = Bytes.ofString e.route := by
  rw [hostPlan_eq] at hr
  split at hr
  · simp at hr
  · obtain ⟨p, -, rfl⟩ := List.mem_map.1 hr
    rfl

/-- Each state change names a context of the host, to enable, announce disabled or stop. -/
theorem mem_changes {reported : List VirtualHost} {r : Request}
    (hr : r ∈ (s.hostPlan e h reported).changes) :
    ∃ c ∈ h.contexts, ∃ cmd ∈ [Command.enableApp, .disableApp, .stopApp],
      r = Request.forContext cmd e h c := by
  rw [hostPlan_eq] at hr
  obtain ⟨c, hc, hr⟩ := List.mem_flatMap.1 hr
  refine ⟨c, ((s.mem_liveContexts h).1 hc).1, ?_⟩
  rcases s.mem_contextChange e h hr with rfl | rfl
  · refine ⟨s.enableCommand, ?_, rfl⟩
    unfold enableCommand
    split <;> simp
  · exact ⟨.stopApp, by simp, rfl⟩

theorem wildcard_of_mem_changes {reported : List VirtualHost} {r : Request}
    (hr : r ∈ (s.hostPlan e h reported).changes) : r.wildcard = false := by
  rw [hostPlan_eq] at hr
  obtain ⟨c, -, hc⟩ := List.mem_flatMap.1 hr
  rcases s.mem_contextChange e h hc with rfl | rfl <;> rfl

/-- A started live context that the report does not show `ENABLED` is announced. -/
theorem contextChange_of_started {c : Context} {reported : Option ContextStatus}
    (hst : c.started = true) (hen : reported ≠ some .enabled) :
    s.contextChange e h c reported = [Request.forContext s.enableCommand e h c] := by
  simp [contextChange, hst, hen]

/-- A host drops the whole engine exactly when its aliases differ, as sets, from the reported
ones, or when it reports paths that are not excluded and none of them is live. -/
theorem dropsEngine_iff {reported : List VirtualHost} (hh : h.HasAliasSet)
    (hrep : ∀ v ∈ reported, v.aliases.Nodup) :
    (s.hostPlan e h reported).dropsEngine = true ↔ h.DropsEngine s.exclusions reported := by
  have hnodup : (h.reportedAliases reported).Nodup := by
    unfold Host.reportedAliases
    cases hv : h.reportedIn reported with
    | none => simp
    | some v => simpa using hrep v (List.mem_of_find?_eq_some hv)
  have hsame := h.sameAliases_iff hh.nodup_bytes hnodup
  rw [Host.DropsEngine, hostPlan_eq, Bool.or_eq_true, Bool.not_eq_true', allObsolete_iff]
  refine or_congr ?_ ?_
  · rw [← hsame]
    simp [Host.reportedAliases]
  · simp only [ne_eq, List.eq_nil_iff_forall_not_mem, not_forall, not_not, mem_includedPaths_iff,
      mem_livePaths]

/-- Without a total removal, a host removes its obsolete paths one by one, sorted. -/
theorem removals_of_allObsolete_eq_false {reported : List VirtualHost}
    (hno : s.allObsolete h (h.reportedIn reported) = false) :
    (s.hostPlan e h reported).removals =
      ((s.obsoletePaths h (h.reportedIn reported)).mergeSort Bytes.lexLe).map fun p =>
        Request.removeReported (Bytes.ofString e.route) p
          (((h.reportedIn reported).map (·.sortedAliases)).getD []) := by
  rw [hostPlan_eq]
  simp [hno]

theorem obsoletePaths_nodup {reported : List VirtualHost}
    (hwf : ∀ v ∈ reported, v.WellFormed) : (s.obsoletePaths h (h.reportedIn reported)).Nodup := by
  unfold obsoletePaths includedPaths
  cases hv : h.reportedIn reported with
  | none => simp
  | some v => exact ((hwf v (List.mem_of_find?_eq_some hv)).paths_nodup.filter _).filter _

theorem normalizePath_of_mem_obsoletePaths {reported : List VirtualHost}
    (hwf : ∀ v ∈ reported, v.WellFormed) {p : Bytes}
    (hp : p ∈ s.obsoletePaths h (h.reportedIn reported)) : Bytes.normalizePath p = p := by
  obtain ⟨⟨v, hv, hpv, -⟩, -⟩ := (mem_obsoletePaths_iff s h).1 hp
  exact (hwf v (List.mem_of_find?_eq_some hv)).paths_normal p hpv

/-- An engine's batch is its bare `CONFIG` exactly when every host asks for nothing. -/
theorem engineBatch_eq_config_iff (reported : List VirtualHost) :
    s.engineBatch e reported = [Request.config s.node s.balancer e] ↔
      ∀ h ∈ e.hosts, (s.hostPlan e h reported).Quiet := by
  rw [engineBatch_eq]
  split
  · rename_i hany
    obtain ⟨h, hh, hdrop⟩ := List.any_eq_true.1 hany
    simp only [List.singleton_append, List.cons.injEq, reduceCtorEq, and_false, false_iff]
    intro hall
    simp [(hall h hh).keeps] at hdrop
  · rename_i hany
    simp only [List.any_eq_true, not_exists, not_and, Bool.not_eq_true] at hany
    simp only [List.append_eq_cons_iff, List.flatMap_eq_nil_iff, List.cons.injEq, true_and]
    constructor
    · rintro (⟨hrem, hch⟩ | ⟨_, -, hnil⟩)
      · exact fun h hh => ⟨hany h hh, hrem h hh, hch h hh⟩
      · simp at hnil
    · intro hall
      exact .inl ⟨fun h hh => (hall h hh).noRemovals, fun h hh => (hall h hh).noChanges⟩

end ReconcileSettings

namespace ReconcileSettings

variable (s : ReconcileSettings) (e : Engine)

theorem engineBatch_ne_nil (reported : List VirtualHost) : s.engineBatch e reported ≠ [] := by
  rw [engineBatch_eq]
  simp

/-- The wildcard removal of an engine is in its batch exactly when some host drops the engine. -/
theorem wildcard_mem_engineBatch_iff (reported : List VirtualHost) :
    Request.forEngine .removeApp e ∈ s.engineBatch e reported ↔
      e.hosts.any (fun h => (s.hostPlan e h reported).dropsEngine) = true := by
  rw [engineBatch_eq]
  split
  · simp_all
  · rename_i hany
    simp only [hany, Bool.false_eq_true, iff_false, List.mem_append, List.mem_cons, not_or,
      List.mem_flatMap, not_exists, not_and]
    refine ⟨fun h _ hr => ?_, fun hc => by simp [Request.forEngine, Request.config] at hc,
      fun h _ hr => ?_⟩
    · simpa [Request.forEngine] using s.wildcard_of_mem_removals e h hr
    · simpa [Request.forEngine] using s.wildcard_of_mem_changes e h hr

end ReconcileSettings

/-- What the batch `W ++ CONFIG :: C` of engine `e` against the reported virtual hosts
`reported` is made of. -/
structure BatchShape (s : ReconcileSettings) (e : Engine) (reported : List VirtualHost)
    (W C : List Request) : Prop where
  /-- Every request is about the engine's route. -/
  routes : ∀ r ∈ W ++ Request.config s.node s.balancer e :: C, r.route = Bytes.ofString e.route
  /-- After `CONFIG` come only state changes of the engine's contexts. -/
  changes : ∀ r ∈ C, ∃ h ∈ e.hosts, ∃ c ∈ h.contexts,
    ∃ cmd ∈ [Command.enableApp, .disableApp, .stopApp], r = Request.forContext cmd e h c
  /-- The removal part is the wildcard removal exactly when some host drops the engine. -/
  wildcard_iff : W = [Request.forEngine .removeApp e] ↔
    ∃ h ∈ e.hosts, h.DropsEngine s.exclusions reported
  /-- Otherwise it removes, host after host, each obsolete path in byte order, under the
  reported aliases in byte order. -/
  perContext : (¬ ∃ h ∈ e.hosts, h.DropsEngine s.exclusions reported) →
    ∃ paths aliases : Host → List Bytes,
      W = e.hosts.flatMap (fun h => (paths h).map fun p =>
        { command := .removeApp, route := Bytes.ofString e.route,
          params := [(Bytes.ofString "Context", p),
            (Bytes.ofString "Alias", ((aliases h).intersperse [0x2C]).flatten)] }) ∧
      ∀ h ∈ e.hosts, (paths h).Nodup ∧ (paths h).Pairwise (fun a b => Bytes.lexLe a b = true) ∧
        (∀ p, p ∈ paths h ↔ h.ReportsPath s.exclusions reported p ∧ ¬ h.LivePath s.exclusions p) ∧
        (aliases h).Pairwise (fun a b => Bytes.lexLe a b = true) ∧
        (aliases h).Perm (h.reportedAliases reported)

namespace ReconcileSettings

variable (s : ReconcileSettings) (e : Engine)

theorem any_dropsEngine_iff {reported : List VirtualHost} (hh : ∀ h ∈ e.hosts, h.HasAliasSet)
    (hrep : ∀ v ∈ reported, v.aliases.Nodup) :
    e.hosts.any (fun h => (s.hostPlan e h reported).dropsEngine) = true ↔
      ∃ h ∈ e.hosts, h.DropsEngine s.exclusions reported := by
  rw [List.any_eq_true]
  exact exists_congr fun h => ⟨fun ⟨hm, hd⟩ => ⟨hm, (s.dropsEngine_iff e h (hh h hm) hrep).1 hd⟩,
    fun ⟨hm, hd⟩ => ⟨hm, (s.dropsEngine_iff e h (hh h hm) hrep).2 hd⟩⟩

/-- Without a wildcard removal, the removal part lists each host's obsolete paths, sorted. -/
theorem perContext_removals {reported : List VirtualHost} (hwf : ∀ v ∈ reported, v.WellFormed)
    (hno : ∀ h ∈ e.hosts, (s.hostPlan e h reported).dropsEngine = false) :
    ∃ paths aliases : Host → List Bytes,
      e.hosts.flatMap (fun h => (s.hostPlan e h reported).removals) =
        e.hosts.flatMap (fun h => (paths h).map fun p =>
          { command := .removeApp, route := Bytes.ofString e.route,
            params := [(Bytes.ofString "Context", p),
              (Bytes.ofString "Alias", ((aliases h).intersperse [0x2C]).flatten)] }) ∧
      ∀ h ∈ e.hosts, (paths h).Nodup ∧ (paths h).Pairwise (fun a b => Bytes.lexLe a b = true) ∧
        (∀ p, p ∈ paths h ↔ h.ReportsPath s.exclusions reported p ∧ ¬ h.LivePath s.exclusions p) ∧
        (aliases h).Pairwise (fun a b => Bytes.lexLe a b = true) ∧
        (aliases h).Perm (h.reportedAliases reported) := by
  refine ⟨fun h => (s.obsoletePaths h (h.reportedIn reported)).mergeSort Bytes.lexLe,
    fun h => ((h.reportedIn reported).map (·.sortedAliases)).getD [], ?_, ?_⟩
  · refine List.flatMap_congr fun h hh => ?_
    have hall : s.allObsolete h (h.reportedIn reported) = false := by
      have := hno h hh
      rw [hostPlan_eq, Bool.or_eq_false_iff] at this
      exact this.2
    rw [s.removals_of_allObsolete_eq_false e h hall]
    refine List.map_congr_left fun p hp => ?_
    exact Request.removeReported_of_normal _
      (s.normalizePath_of_mem_obsoletePaths h hwf (List.mem_mergeSort.1 hp))
  · intro h _
    refine ⟨(List.mergeSort_perm _ _).nodup_iff.2 (s.obsoletePaths_nodup h hwf),
      Bytes.pairwise_mergeSort_lexLe _, fun p => ?_, ?_⟩
    · rw [List.mem_mergeSort, mem_obsoletePaths_iff]
    · dsimp only
      unfold Host.reportedAliases
      cases h.reportedIn reported with
      | none => simp
      | some v => exact ⟨Bytes.pairwise_mergeSort_lexLe _, List.mergeSort_perm _ _⟩

/-- Every batch is a removal part, `CONFIG` and state changes, shaped as `BatchShape` says. -/
theorem engineBatch_shape {reported : List VirtualHost} (hh : ∀ h ∈ e.hosts, h.HasAliasSet)
    (hwf : ∀ v ∈ reported, v.WellFormed) :
    ∃ W C, s.engineBatch e reported = W ++ Request.config s.node s.balancer e :: C ∧
      BatchShape s e reported W C := by
  have hdrop := s.any_dropsEngine_iff e hh fun v hv => (hwf v hv).aliases_nodup
  refine ⟨_, _, s.engineBatch_eq e reported, ⟨?_, ?_, ?_, ?_⟩⟩
  · intro r hr
    simp only [List.mem_append, List.mem_cons, List.mem_flatMap] at hr
    rcases hr with hr | rfl | ⟨h, hh, hr⟩
    · split at hr
      · rw [List.mem_singleton.1 hr]
        rfl
      · obtain ⟨h, hh, hr⟩ := List.mem_flatMap.1 hr
        exact s.route_of_mem_removals e h hr
    · rfl
    · obtain ⟨c, -, cmd, -, rfl⟩ := s.mem_changes e h hr
      rfl
  · intro r hr
    obtain ⟨h, hh, hr⟩ := List.mem_flatMap.1 hr
    exact ⟨h, hh, s.mem_changes e h hr⟩
  · rw [← hdrop]
    split
    · simp_all
    · rename_i hany
      simp only [hany, Bool.false_eq_true, iff_false]
      intro hw
      have hmem : Request.forEngine .removeApp e ∈
          e.hosts.flatMap fun h => (s.hostPlan e h reported).removals := by
        rw [hw]
        exact List.mem_singleton_self _
      obtain ⟨h, -, hr⟩ := List.mem_flatMap.1 hmem
      simpa [Request.forEngine] using s.wildcard_of_mem_removals e h hr
  · intro hno
    have hany : e.hosts.any (fun h => (s.hostPlan e h reported).dropsEngine) = false := by
      simpa [← hdrop] using hno
    rw [if_neg (by simp [hany])]
    refine s.perContext_removals e hwf fun h hh => ?_
    simpa using List.any_eq_false.1 hany h hh

end ReconcileSettings

/-- Reconciling a proxy asks for nothing but each engine's `CONFIG`, in topology order, exactly when
the proxy's inventory is in sync with the topology. -/
theorem resetRequests_eq_configs_iff {dns : Resolver} {specs : List EngineSpec} {t : Topology}
    (ht : Topology.ofSpecs dns specs = .ok t) (s : ReconcileSettings) {inv : Inventory}
    (hinv : inv.AliasSets) :
    t.resetRequests s inv = t.engines.map (Request.config s.node s.balancer) ↔
      t.InSync s.exclusions inv := by
  unfold Topology.resetRequests
  rw [flatMap_eq_map_iff fun e _ => s.engineBatch_ne_nil e _]
  refine forall₂_congr fun e he => ?_
  rw [s.engineBatch_eq_config_iff]
  refine forall₂_congr fun h hh => ?_
  exact s.quiet_hostPlan_iff_inSync e h (Topology.hasAliasSet_of_ofSpecs ht e he h hh) (hinv.nodup _)

/-- The reset requests are one batch per engine, in topology order, and each batch is a removal
part, `CONFIG` and state changes as `BatchShape` describes. -/
theorem resetRequests_batches {dns : Resolver} {specs : List EngineSpec} {t : Topology}
    (ht : Topology.ofSpecs dns specs = .ok t) (s : ReconcileSettings) {inv : Inventory}
    (hinv : inv.WellFormed) :
    t.resetRequests s inv =
        t.engines.flatMap (fun e => s.engineBatch e (inv.vhostsOf (Bytes.ofString e.route))) ∧
      ∀ e ∈ t.engines, ∃ W C,
        s.engineBatch e (inv.vhostsOf (Bytes.ofString e.route)) =
          W ++ Request.config s.node s.balancer e :: C ∧
        BatchShape s e (inv.vhostsOf (Bytes.ofString e.route)) W C :=
  ⟨rfl, fun e he => s.engineBatch_shape e (Topology.hasAliasSet_of_ofSpecs ht e he)
    (hinv.vhostsOf _)⟩

/-- A proxy that still serves an undeployed path `/old` next to the live `/app`. -/
theorem resetRequests_batches_stale_path :
    Topology.ofSpecs Resolver.empty
        [{ route := "node1",
           hosts := [{ name := "localhost", contexts := [{ path := "/app", started := true }] }] }] =
      .ok ⟨[⟨"node1", "node1", ⟨none, 0, .ajp, false⟩,
        [⟨"localhost", ["localhost"], [⟨"/app", true⟩]⟩]⟩]⟩ ∧
    Inventory.WellFormed ⟨[(Bytes.ofString "node1", [⟨[Bytes.ofString "localhost"],
        [(Bytes.ofString "/app", .enabled), (Bytes.ofString "/old", .enabled)]⟩])]⟩ ∧
    (Topology.resetRequests ⟨[⟨"node1", "node1", ⟨none, 0, .ajp, false⟩,
        [⟨"localhost", ["localhost"], [⟨"/app", true⟩]⟩]⟩]⟩ {}
        ⟨[(Bytes.ofString "node1", [⟨[Bytes.ofString "localhost"],
          [(Bytes.ofString "/app", .enabled), (Bytes.ofString "/old", .enabled)]⟩])]⟩ =
      [⟨"node1", "node1", ⟨none, 0, .ajp, false⟩,
        [⟨"localhost", ["localhost"], [⟨"/app", true⟩]⟩]⟩].flatMap (fun e =>
          ({} : ReconcileSettings).engineBatch e
            (Inventory.vhostsOf ⟨[(Bytes.ofString "node1", [⟨[Bytes.ofString "localhost"],
              [(Bytes.ofString "/app", .enabled), (Bytes.ofString "/old", .enabled)]⟩])]⟩
              (Bytes.ofString e.route))) ∧
      ∀ e ∈ [(⟨"node1", "node1", ⟨none, 0, .ajp, false⟩,
          [⟨"localhost", ["localhost"], [⟨"/app", true⟩]⟩]⟩ : Engine)], ∃ W C,
        ({} : ReconcileSettings).engineBatch e
            (Inventory.vhostsOf ⟨[(Bytes.ofString "node1", [⟨[Bytes.ofString "localhost"],
              [(Bytes.ofString "/app", .enabled), (Bytes.ofString "/old", .enabled)]⟩])]⟩
              (Bytes.ofString e.route)) =
          W ++ Request.config ({} : ReconcileSettings).node ({} : ReconcileSettings).balancer e :: C ∧
        BatchShape {} e
          (Inventory.vhostsOf ⟨[(Bytes.ofString "node1", [⟨[Bytes.ofString "localhost"],
            [(Bytes.ofString "/app", .enabled), (Bytes.ofString "/old", .enabled)]⟩])]⟩
            (Bytes.ofString e.route)) W C) := by
  have ht : Topology.ofSpecs Resolver.empty
      [{ route := "node1",
         hosts := [{ name := "localhost", contexts := [{ path := "/app", started := true }] }] }] =
      .ok ⟨[⟨"node1", "node1", ⟨none, 0, .ajp, false⟩,
        [⟨"localhost", ["localhost"], [⟨"/app", true⟩]⟩]⟩]⟩ := by
    decide +kernel
  have hinv : Inventory.WellFormed ⟨[(Bytes.ofString "node1", [⟨[Bytes.ofString "localhost"],
      [(Bytes.ofString "/app", .enabled), (Bytes.ofString "/old", .enabled)]⟩])]⟩ := by
    decide +kernel
  exact ⟨ht, hinv, resetRequests_batches ht {} hinv⟩

/-- A proxy that reports exactly the contexts of a host, with the started one `ENABLED`, is in
sync: reconciliation asks it for the `CONFIG` alone. -/
theorem inSync_of_matching_inventory :
    Topology.ofSpecs Resolver.empty
        [{ route := "node1",
           hosts := [{ name := "localhost",
                       contexts := [{ path := "/app", started := true }, { path := "/off" }] }] }] =
      .ok ⟨[⟨"node1", "node1", ⟨none, 0, .ajp, false⟩,
        [⟨"localhost", ["localhost"], [⟨"/app", true⟩, ⟨"/off", false⟩]⟩]⟩]⟩ ∧
    Inventory.AliasSets ⟨[(Bytes.ofString "node1", [⟨[Bytes.ofString "localhost"],
        [(Bytes.ofString "/app", .enabled), (Bytes.ofString "/off", .stopped)]⟩])]⟩ ∧
    Topology.InSync ⟨[⟨"node1", "node1", ⟨none, 0, .ajp, false⟩,
        [⟨"localhost", ["localhost"], [⟨"/app", true⟩, ⟨"/off", false⟩]⟩]⟩]⟩ ⟨[]⟩
      ⟨[(Bytes.ofString "node1", [⟨[Bytes.ofString "localhost"],
        [(Bytes.ofString "/app", .enabled), (Bytes.ofString "/off", .stopped)]⟩])]⟩ := by
  have ht : Topology.ofSpecs Resolver.empty
      [{ route := "node1",
         hosts := [{ name := "localhost",
                     contexts := [{ path := "/app", started := true }, { path := "/off" }] }] }] =
      .ok ⟨[⟨"node1", "node1", ⟨none, 0, .ajp, false⟩,
        [⟨"localhost", ["localhost"], [⟨"/app", true⟩, ⟨"/off", false⟩]⟩]⟩]⟩ := by
    decide +kernel
  have hinv : Inventory.AliasSets ⟨[(Bytes.ofString "node1", [⟨[Bytes.ofString "localhost"],
        [(Bytes.ofString "/app", .enabled), (Bytes.ofString "/off", .stopped)]⟩])]⟩ := by
    decide +kernel
  exact ⟨ht, hinv, (resetRequests_eq_configs_iff ht {} hinv).1 (by decide +kernel)⟩

/-- When a batch removes the whole engine, it goes on with `CONFIG` and then announces every
started context that is not excluded and that the report did not show `ENABLED`. -/
theorem wildcard_batch_announces (s : ReconcileSettings) (e : Engine) (reported : List VirtualHost)
    (hw : Request.forEngine .removeApp e ∈ s.engineBatch e reported) :
    ∃ changes, s.engineBatch e reported =
        Request.forEngine .removeApp e :: Request.config s.node s.balancer e :: changes ∧
      ∀ h ∈ e.hosts, ∀ c ∈ h.contexts, c.started = true →
        s.exclusions.excludes h.name (normalizePath c.path) = false →
        (h.reportedIn reported).bind (·.statusOf? c.reportedPath) ≠ some .enabled →
        Request.forContext s.enableCommand e h c ∈ changes := by
  have hany := (s.wildcard_mem_engineBatch_iff e reported).1 hw
  refine ⟨e.hosts.flatMap fun h => (s.hostPlan e h reported).changes, ?_, ?_⟩
  · rw [s.engineBatch_eq, if_pos hany]
    rfl
  · intro h hh c hc hst hex hen
    refine List.mem_flatMap.2 ⟨h, hh, ?_⟩
    rw [s.hostPlan_eq]
    refine List.mem_flatMap.2 ⟨c, (s.mem_liveContexts h).2 ⟨hc, hex⟩, ?_⟩
    rw [s.contextChange_of_started e h hst hen]
    exact List.mem_singleton_self _

/-- A proxy that lost every virtual host of the engine gets the engine removed and the started
context announced again. -/
theorem wildcard_batch_announces_unknown_host :
    Request.forEngine .removeApp ⟨"node1", "node1", ⟨none, 0, .ajp, false⟩,
        [⟨"localhost", ["localhost"], [⟨"/app", true⟩]⟩]⟩ ∈
      ({} : ReconcileSettings).engineBatch ⟨"node1", "node1", ⟨none, 0, .ajp, false⟩,
        [⟨"localhost", ["localhost"], [⟨"/app", true⟩]⟩]⟩ [] ∧
    ∃ changes, ({} : ReconcileSettings).engineBatch ⟨"node1", "node1", ⟨none, 0, .ajp, false⟩,
          [⟨"localhost", ["localhost"], [⟨"/app", true⟩]⟩]⟩ [] =
        Request.forEngine .removeApp ⟨"node1", "node1", ⟨none, 0, .ajp, false⟩,
          [⟨"localhost", ["localhost"], [⟨"/app", true⟩]⟩]⟩ ::
        Request.config {} {} ⟨"node1", "node1", ⟨none, 0, .ajp, false⟩,
          [⟨"localhost", ["localhost"], [⟨"/app", true⟩]⟩]⟩ :: changes ∧
      ∀ h ∈ [(⟨"localhost", ["localhost"], [⟨"/app", true⟩]⟩ : Host)], ∀ c ∈ h.contexts,
        c.started = true → ({} : ReconcileSettings).exclusions.excludes h.name (normalizePath c.path) = false →
        (h.reportedIn []).bind (·.statusOf? c.reportedPath) ≠ some .enabled →
        Request.forContext ({} : ReconcileSettings).enableCommand ⟨"node1", "node1", ⟨none, 0, .ajp, false⟩,
          [⟨"localhost", ["localhost"], [⟨"/app", true⟩]⟩]⟩ h c ∈ changes := by
  have hw : Request.forEngine .removeApp ⟨"node1", "node1", ⟨none, 0, .ajp, false⟩,
        [⟨"localhost", ["localhost"], [⟨"/app", true⟩]⟩]⟩ ∈
      ({} : ReconcileSettings).engineBatch ⟨"node1", "node1", ⟨none, 0, .ajp, false⟩,
        [⟨"localhost", ["localhost"], [⟨"/app", true⟩]⟩]⟩ [] := by
    decide +kernel
  exact ⟨hw, wildcard_batch_announces {} _ [] hw⟩

/-- The state changes are computed against the report taken before the removal: when a host's
aliases disagree, its started context that the proxy reported `ENABLED` is removed with the
engine and not announced again. -/
theorem wildcard_batch_skips_enabled_context :
    ∃ t inv, Topology.ofSpecs Resolver.empty
        [{ route := "node1",
           hosts := [{ name := "localhost", contexts := [{ path := "/app", started := true }] }] }] =
        .ok t ∧
      Inventory.parse (Bytes.ofString ("Node: [1],Name: node1\nVhost: [1:1:1],Alias: localhost\n" ++
        "Vhost: [1:1:2],Alias: example.com\nContext: [1:1:3],Context: /app,Status: ENABLED\n")) =
        .ok inv ∧
      ∃ e ∈ t.engines, ∃ h ∈ e.hosts, ∃ c ∈ h.contexts, c.started = true ∧
        ({} : ReconcileSettings).exclusions.excludes h.name (normalizePath c.path) = false ∧
        Request.forEngine .removeApp e ∈ t.resetRequests {} inv ∧
        Request.forContext .enableApp e h c ∉ t.resetRequests {} inv :=
  ⟨⟨[⟨"node1", "node1", ⟨none, 0, .ajp, false⟩, [⟨"localhost", ["localhost"], [⟨"/app", true⟩]⟩]⟩]⟩,
    ⟨[(Bytes.ofString "node1", [⟨[Bytes.ofString "localhost", Bytes.ofString "example.com"],
        [(Bytes.ofString "/app", .enabled)]⟩])]⟩,
    by decide +kernel, by decide +kernel,
    _, List.mem_singleton_self _, _, List.mem_singleton_self _, _, List.mem_singleton_self _, rfl,
    by decide +kernel, by decide +kernel, by decide +kernel⟩

end ClusterAgent
