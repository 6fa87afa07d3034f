import ClusterAgent.Proofs.SyncRebuild
import ClusterAgent.Proofs.Utf8

/-!
# What every call keeps in a static topology

The server keeps its topology in one shape whatever is called on it (`Topology.Sound`): each
host's aliases are sorted, free of repeats and carry the host's name; each host's contexts have
distinct paths, each in normal form; and the engines keep the distinct routes they were built
with, in configuration order. Building from specs gives that shape, and every call keeps it,
whether it succeeds or not: a sync refused half-way, a removal that finds nothing, a flag set on
no context (`Topology.Sound.run`). So a lookup by route, host and path meets at most one engine
per route and at most one context per host, the one at the path's normal form
(`static_topology_invariant`).

A host changes by a few moves only: a context deployed (in place of the one at its path),
contexts dropped, flags set, and in a sync a host moved to context specs or a new empty host
added. A sync goes through its host specs one by one, each touching one host, so the hosts stay
sound also when a spec list names a host twice and the sync moves one host twice or adds two.
-/

namespace ClusterAgent

theorem normalizePath_normalizePath (p : String) :
    normalizePath (normalizePath p) = normalizePath p := by
  apply Bytes.ofString_injective
  rw [← Bytes.normalizePath_ofString, ← Bytes.normalizePath_ofString,
    Bytes.normalizePath_normalizePath]

section Modify

variable {α β : Type} {f : α → α}

/-- Changing one member by a function that keeps a key keeps the keys. -/
theorem map_modify_of_key {g : α → β} (hg : ∀ a, g (f a) = g a) :
    ∀ (l : List α) (i : Nat), (l.modify i f).map g = l.map g
  | [], _ => by simp
  | a :: l, 0 => by simp [hg]
  | a :: l, i + 1 => by simp [map_modify_of_key hg l i]

/-- Changing one member by a function that keeps a property keeps it of all members. -/
theorem forall_mem_modify {P : α → Prop} (hf : ∀ a, P a → P (f a)) :
    ∀ {l : List α} (i : Nat), (∀ a ∈ l, P a) → ∀ a ∈ l.modify i f, P a
  | [], _, _ => by simp
  | b :: l, 0, hl => by
    simp only [List.modify_zero_cons, List.forall_mem_cons] at hl ⊢
    exact ⟨hf b hl.1, hl.2⟩
  | b :: l, i + 1, hl => by
    simp only [List.modify_succ_cons, List.forall_mem_cons] at hl ⊢
    exact ⟨hl.1, forall_mem_modify hf i hl.2⟩

theorem forall_mem_set {P : α → Prop} {l : List α} (hl : ∀ a ∈ l, P a) {b : α} (hb : P b)
    (i : Nat) : ∀ a ∈ l.set i b, P a :=
  fun a ha => (List.mem_or_eq_of_mem_set ha).elim (hl a) fun h => h ▸ hb

end Modify

/-! ### Hosts -/

/-- A host as the server keeps it: its aliases are sorted, without repeats, and carry its name;
its contexts have distinct paths, each in normal form. -/
structure Host.Sound (h : Host) : Prop where
  sorted : h.aliases.Pairwise (· < ·)
  name_mem : h.name ∈ h.aliases
  pathsOnce : h.PathsOnce
  normal : ∀ c ∈ h.contexts, normalizePath c.path = c.path

namespace Host

theorem sound_empty (name : String) (aliases : List String) : (empty name aliases).Sound where
  sorted := aliasSet_sorted name aliases
  name_mem := (mem_aliasSet _ _ _).2 (Or.inl rfl)
  pathsOnce := List.nodup_nil
  normal := fun _ hc => nomatch hc

variable {h : Host}

theorem Sound.of_sublist (hh : h.Sound) {cs : List Context} (hcs : cs.Sublist h.contexts) :
    ({ h with contexts := cs } : Host).Sound where
  sorted := hh.sorted
  name_mem := hh.name_mem
  pathsOnce := (hcs.map _).nodup hh.pathsOnce
  normal := fun c hc => hh.normal c (hcs.subset hc)

theorem Sound.of_map (hh : h.Sound) {g : Context → Context} (hg : ∀ c, (g c).path = c.path) :
    ({ h with contexts := h.contexts.map g } : Host).Sound where
  sorted := hh.sorted
  name_mem := hh.name_mem
  pathsOnce := by
    have hpaths : (h.contexts.map g).map Context.path = h.contexts.map Context.path := by
      simp [Function.comp_def, hg]
    simpa [PathsOnce, hpaths] using hh.pathsOnce
  normal := by
    simp only [List.mem_map, forall_exists_index, and_imp, forall_apply_eq_imp_iff₂, hg]
    exact hh.normal

theorem Sound.addContext (hh : h.Sound) (p : String) (b : Bool) : (h.addContext p b).Sound where
  sorted := by simpa using hh.sorted
  name_mem := by simpa using hh.name_mem
  pathsOnce := pathsOnce_addContext hh.pathsOnce p b
  normal := by
    intro c hc
    rcases mem_addContext.1 hc with ⟨hc, -⟩ | rfl
    · exact hh.normal c hc
    · dsimp only
      exact normalizePath_normalizePath p

theorem Sound.addContexts (hh : h.Sound) (cs : List ContextSpec) : (h.addContexts cs).Sound := by
  induction cs generalizing h with
  | nil => exact hh
  | cons c cs ih => exact ih (hh.addContext c.path c.started)

theorem Sound.resync (hh : h.Sound) (cs : List ContextSpec) : (h.resync cs).Sound :=
  (hh.of_sublist List.filter_sublist).addContexts cs

theorem Sound.removeContext (hh : h.Sound) (p : String) : (h.removeContext p).1.Sound := by
  unfold Host.removeContext
  dsimp only
  split
  · exact hh.of_sublist (List.eraseIdx_sublist _ _)
  · exact hh

theorem sound_ofSpec (hs : HostSpec) : (ofSpec hs).Sound :=
  (sound_empty hs.name hs.aliases).addContexts hs.contexts

end Host

/-! ### Topologies -/

/-- A topology whose engines have the routes `routes`, in this order and all distinct, and whose
hosts are all sound. -/
structure Topology.Sound (routes : List String) (t : Topology) : Prop where
  routes_eq : t.engines.map Engine.route = routes
  nodup : routes.Nodup
  hosts : ∀ e ∈ t.engines, ∀ h ∈ e.hosts, h.Sound

/-- A call on the static server: a sync, or a change of one context. Contexts are deployed and
undeployed on a host named by its position in its engine, and the engine by its position in the
server; a position that holds nothing changes nothing. -/
inductive TopologyCall where
  | sync (specs : List EngineSpec)
  | addContext (engine host : Nat) (path : String) (started : Bool)
  | removeContext (engine host : Nat) (path : String)
  | setStarted (route host path : String) (started : Bool)
  | bindAddress (engine : Nat) (ip : Option IP)

namespace Topology

/-- The topology a call leaves, whether it succeeds or not. -/
def perform (t : Topology) : TopologyCall → Topology
  | .sync specs => (t.sync specs).1
  | .addContext i j p b => t.modifyHost i j (·.addContext p b)
  | .removeContext i j p => t.modifyHost i j fun h => (h.removeContext p).1
  | .setStarted route host p b => (t.setStarted route host p b).1
  | .bindAddress i ip => (t.bindAddress i ip).1

/-- The topology after calls one after the other. -/
def run (t : Topology) (calls : List TopologyCall) : Topology := calls.foldl perform t

variable {t : Topology} {routes : List String}

/-- Changing one engine without touching its route keeps a topology sound, when the change
keeps hosts sound. -/
theorem Sound.modify (ht : t.Sound routes) {g : Engine → Engine}
    (hroute : ∀ e : Engine, (g e).route = e.route)
    (hhosts : ∀ e : Engine, (∀ h ∈ e.hosts, h.Sound) → ∀ h ∈ (g e).hosts, h.Sound) (i : Nat) :
    Sound routes ⟨t.engines.modify i g⟩ where
  routes_eq := (map_modify_of_key hroute t.engines i).trans ht.routes_eq
  nodup := ht.nodup
  hosts := forall_mem_modify (P := fun e : Engine => ∀ h ∈ e.hosts, h.Sound) hhosts i ht.hosts

theorem Sound.modifyHost (ht : t.Sound routes) {f : Host → Host} (hf : ∀ h, h.Sound → (f h).Sound)
    (i j : Nat) : (t.modifyHost i j f).Sound routes :=
  ht.modify (g := fun e => { e with hosts := e.hosts.modify j f }) (fun _ => rfl)
    (fun _ he => forall_mem_modify hf j he) i

theorem Sound.setStarted (ht : t.Sound routes) (route host p : String) (b : Bool) :
    (t.setStarted route host p b).1.Sound routes := by
  unfold Topology.setStarted
  split
  · exact ht
  · -- the flags of one host of one engine are set, and nothing else moves
    dsimp only
    refine ht.modify ?_ (fun _ he => ?_) _
    · exact fun _ => rfl
    · exact forall_mem_modify (fun _ hh => hh.of_map fun _ => by split <;> rfl) _ he

theorem Sound.bindAddress (ht : t.Sound routes) (i : Nat) (ip : Option IP) :
    (t.bindAddress i ip).1.Sound routes := by
  unfold Topology.bindAddress
  split
  · exact ht
  · rename_i e he
    have hset : t.engines.set i { e with connector := (e.connector.bind ip).1 } =
        t.engines.modify i fun e => { e with connector := (e.connector.bind ip).1 } := by
      rw [List.modify_eq_set_getElem?, he]
      rfl
    simp only [hset]
    exact ht.modify (g := fun e => { e with connector := (e.connector.bind ip).1 }) (fun _ => rfl)
      (fun _ he => he) i

end Topology

namespace Sync

variable {i : Nat}

theorem syncContexts_sound {h : Host} (hh : h.Sound) (j : Nat) (cs : List ContextSpec)
    (log : List Entry) : (syncContexts i j h cs log).1.Sound := by
  rw [syncContexts_fst hh.pathsOnce]
  exact hh.resync cs

/-- A host spec moves the host its name finds, or a new empty host, and no other. -/
theorem applyHost_sound {cur : List (String × Nat)} {acc : List Host × List Entry}
    (hacc : ∀ h ∈ acc.1, h.Sound) (hs : HostSpec) : ∀ h ∈ (applyHost i cur acc hs).1, h.Sound := by
  obtain ⟨hosts, log⟩ := acc
  unfold applyHost
  rcases hl : cur.lookup hs.name with _ | j <;> dsimp only
  · -- no kept host has the name: the spec moves a new empty host, added at the end
    have hwith : ∀ h ∈ hosts ++ [Host.empty hs.name hs.aliases], h.Sound := by
      intro h hh
      rcases List.mem_append.1 hh with hh | hh
      · exact hacc h hh
      · rw [List.mem_singleton.1 hh]
        exact Host.sound_empty hs.name hs.aliases
    split
    · exact hwith
    · rename_i h hh
      exact forall_mem_set hwith (syncContexts_sound (hwith h (List.mem_of_getElem? hh)) _ _ _) _
  · -- the spec moves the kept host of its name
    split
    · exact hacc
    · rename_i h hh
      exact forall_mem_set hacc (syncContexts_sound (hacc h (List.mem_of_getElem? hh)) _ _ _) _

theorem foldl_applyHost_sound {cur : List (String × Nat)} :
    ∀ (specs : List HostSpec) (acc : List Host × List Entry), (∀ h ∈ acc.1, h.Sound) →
      ∀ h ∈ (specs.foldl (applyHost i cur) acc).1, h.Sound
  | [], _, hacc => hacc
  | hs :: specs, _, hacc => foldl_applyHost_sound specs _ (applyHost_sound hacc hs)

theorem syncHosts_sound {e : Engine} (he : ∀ h ∈ e.hosts, h.Sound) (specs : List HostSpec)
    (log : List Entry) :
    (syncHosts i e specs log).1.route = e.route ∧
      ∀ h ∈ (syncHosts i e specs log).1.hosts, h.Sound := by
  simp only [syncHosts]
  exact ⟨trivial, foldl_applyHost_sound specs _ fun h hh => he h (List.mem_filter.1 hh).1⟩

/-- Engines are moved one by one, each keeping its route, up to the first whose route the specs
miss; that one and the engines after it stay as they are. -/
theorem syncEngines_sound (specs : List EngineSpec) :
    ∀ (i : Nat) (es : List Engine) (log : List Entry), (∀ e ∈ es, ∀ h ∈ e.hosts, h.Sound) →
      (syncEngines specs i es log).1.map Engine.route = es.map Engine.route ∧
        ∀ e ∈ (syncEngines specs i es log).1, ∀ h ∈ e.hosts, h.Sound
  | _, [], _, _ => by simp [syncEngines]
  | i, e :: rest, log, hes => by
    have hrest := List.forall_mem_cons.1 hes
    simp only [syncEngines]
    split
    · exact ⟨rfl, hes⟩
    · rename_i es _
      obtain ⟨hroute, hhosts⟩ := syncHosts_sound (i := i) hrest.1 es.hosts log
      rcases hsh : syncHosts i e es.hosts log with ⟨e', log'⟩
      rw [hsh] at hroute hhosts
      obtain ⟨ih₁, ih₂⟩ := syncEngines_sound specs (i + 1) rest log' hrest.2
      rcases hse : syncEngines specs (i + 1) rest log' with ⟨rest', r⟩
      rw [hse] at ih₁ ih₂
      simp only at hroute hhosts ih₁ ih₂ ⊢
      exact ⟨by simp [hroute, ih₁], List.forall_mem_cons.2 ⟨hhosts, ih₂⟩⟩

end Sync

namespace Topology

variable {t : Topology} {routes : List String}

/-- A sync keeps a topology sound, also when it is refused, before or after moving engines. -/
theorem Sound.sync (ht : t.Sound routes) (specs : List EngineSpec) :
    (t.sync specs).1.Sound routes := by
  unfold Topology.sync
  split
  · exact ht
  · obtain ⟨hroutes, hhosts⟩ := Sync.syncEngines_sound specs 0 t.engines [] ht.hosts
    rcases hse : Sync.syncEngines specs 0 t.engines [] with ⟨engines, r⟩
    rw [hse] at hroutes hhosts
    exact ⟨hroutes.trans ht.routes_eq, ht.nodup, hhosts⟩

theorem Sound.perform (ht : t.Sound routes) : ∀ c : TopologyCall, (t.perform c).Sound routes
  | .sync specs => ht.sync specs
  | .addContext i j p b => ht.modifyHost (fun _ hh => hh.addContext p b) i j
  | .removeContext i j p => ht.modifyHost (fun _ hh => hh.removeContext p) i j
  | .setStarted route host p b => ht.setStarted route host p b
  | .bindAddress i ip => ht.bindAddress i ip

/-- Every run of calls keeps a topology sound. -/
theorem Sound.run (ht : t.Sound routes) (calls : List TopologyCall) :
    (t.run calls).Sound routes := by
  induction calls generalizing t with
  | nil => exact ht
  | cons c calls ih => exact ih (ht.perform c)

theorem sound_ofSpecs {dns : Resolver} {specs : List EngineSpec} (h : Topology.ofSpecs dns specs = .ok t) :
    t.Sound (specs.map EngineSpec.route) := by
  obtain ⟨es, hb, rfl⟩ := ofSpecs_eq_ok h
  obtain ⟨hshapes, hnodup, -⟩ := buildEngines_ok hb
  have hroutes : es.map Engine.route = specs.map EngineSpec.route := by
    simpa [Function.comp_def, Engine.shape, EngineSpec.shape] using
      congrArg (List.map Prod.fst) hshapes
  refine ⟨hroutes, hroutes ▸ hnodup, fun e he h hh => ?_⟩
  obtain ⟨spec, -, hspec⟩ := mem_buildEngines hb e he
  rw [(Engine.ofSpec_ok hspec).2] at hh
  obtain ⟨hs, -, rfl⟩ := List.mem_map.1 hh
  exact Host.sound_ofSpec hs

end Topology

/-- Whatever is called on a server built from specs, and whether the calls succeed or fail, the
topology stays sound: every host's aliases are sorted, without repeats, and carry its name;
every host's contexts have distinct paths in normal form; and the engines have the routes of
the specs, distinct and in their order. So a host holds at most one context at the normal form
of any path. -/
theorem static_topology_invariant {dns : Resolver} {specs : List EngineSpec} {t : Topology}
    (h : Topology.ofSpecs dns specs = .ok t) (calls : List TopologyCall) :
    (t.run calls).Sound (specs.map EngineSpec.route) ∧
      ∀ e ∈ (t.run calls).engines, ∀ h ∈ e.hosts, ∀ p, ∀ c ∈ h.contexts, ∀ c' ∈ h.contexts,
        c.path = normalizePath p → c'.path = normalizePath p → c = c' := by
  have hsound := (Topology.sound_ofSpecs h).run calls
  refine ⟨hsound, fun e he h hh p c hc c' hc' hp hp' => ?_⟩
  exact List.inj_on_of_nodup_map (hsound.hosts e he h hh).pathsOnce hc hc' (hp.trans hp'.symm)

/-- A server built with a path listed twice, then refused a sync that names host `g` twice and
moves engine `a` before it meets the unknown route `c`, then changed context by context. -/
theorem static_topology_invariant_after_refused_sync :
    let specs : List EngineSpec :=
      [⟨"", "a", {}, [⟨"h", [], [⟨" /x ", true⟩, ⟨"/x", false⟩]⟩]⟩, ⟨"", "b", {}, []⟩]
    let t : Topology :=
      ⟨[⟨"a", "a", ⟨none, 0, .ajp, false⟩, [⟨"h", ["h"], [⟨"/x", false⟩]⟩]⟩,
        ⟨"b", "b", ⟨none, 0, .ajp, false⟩, []⟩]⟩
    let calls : List TopologyCall :=
      [.sync [⟨"", "a", {}, [⟨"g", [], [⟨"/y", true⟩]⟩, ⟨"g", [], [⟨"/z", true⟩]⟩]⟩,
          ⟨"", "c", {}, []⟩],
        .addContext 0 0 "" true, .setStarted "a" "g" "/" false, .removeContext 0 1 "/z"]
    Topology.ofSpecs Resolver.empty specs = .ok t ∧
      (t.run calls).Sound (specs.map EngineSpec.route) ∧
      ∀ e ∈ (t.run calls).engines, ∀ h ∈ e.hosts, ∀ p, ∀ c ∈ h.contexts, ∀ c' ∈ h.contexts,
        c.path = normalizePath p → c'.path = normalizePath p → c = c' := by
  intro specs t calls
  have h : Topology.ofSpecs Resolver.empty specs = .ok t := by decide +kernel
  exact ⟨h, static_topology_invariant h calls⟩

end ClusterAgent
