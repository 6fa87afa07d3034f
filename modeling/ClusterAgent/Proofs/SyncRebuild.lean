import ClusterAgent.Proofs.HostContexts
import Mathlib.Data.Multiset.Basic

/-!
# Syncing reaches what rebuilding gives

A topology built from specs, then synced to further spec lists one after the other, holds what
a topology built from the last list holds: the engines keep their routes and their order, and
each engine holds the hosts its last spec builds, up to the order of the hosts and of their
contexts (`sync_chain_rebuilds`). This needs each spec list to name a host of an engine at most
once: a sync applies all specs of one name to one host, and a topology holding two hosts of one
name moves only one of them (`sync_differs_from_rebuild_on_repeated_host_names`).

Under that condition a sync moves an engine's hosts to a closed form (`Sync.movedHosts`): the
hosts it keeps stay in place, each moved to the spec of its name, and each other spec adds a
new host at the end (`Sync.syncHosts_fst`).
-/

namespace ClusterAgent

/-- A host up to the order of its contexts. -/
def Host.shape (h : Host) : String × List String × Multiset Context :=
  (h.name, h.aliases, h.contexts)

/-- An engine's route and its hosts, up to the order of the hosts and of their contexts. -/
def Engine.shape (e : Engine) : String × Multiset (String × List String × Multiset Context) :=
  (e.route, e.hosts.map Host.shape)

/-- What building an engine spec gives, up to order: its route and the hosts its host specs
build. -/
def EngineSpec.shape (es : EngineSpec) :
    String × Multiset (String × List String × Multiset Context) :=
  (es.route, es.hosts.map fun hs => (Host.ofSpec hs).shape)

/-- An engine spec lists each host name once. -/
def EngineSpec.NamesHostsOnce (es : EngineSpec) : Prop := (es.hosts.map HostSpec.name).Nodup

instance : DecidablePred EngineSpec.NamesHostsOnce := fun es =>
  inferInstanceAs (Decidable (es.hosts.map HostSpec.name).Nodup)

/-- An engine names each host once, and each host holds each path once. -/
structure Engine.WellFormed (e : Engine) : Prop where
  names : (e.hosts.map Host.name).Nodup
  paths : ∀ h ∈ e.hosts, h.PathsOnce

/-- A topology has distinct routes and well-formed engines. -/
structure Topology.WellFormed (t : Topology) : Prop where
  routes : (t.engines.map Engine.route).Nodup
  engines : ∀ e ∈ t.engines, e.WellFormed

theorem Host.ofSpec_name (hs : HostSpec) : (Host.ofSpec hs).name = hs.name := by
  simp [ofSpec_eq_addContexts, empty]

theorem Host.ofSpec_aliases (hs : HostSpec) :
    (Host.ofSpec hs).aliases = aliasSet hs.name hs.aliases := by
  simp [ofSpec_eq_addContexts, empty]

/-- A host moved to the specs of its name, with the alias set they give, is what they build. -/
theorem Host.shape_resync {h : Host} (hh : h.PathsOnce) {hs : HostSpec} (hname : h.name = hs.name)
    (haliases : h.aliases = aliasSet hs.name hs.aliases) :
    (h.resync hs.contexts).shape = (Host.ofSpec hs).shape := by
  simp only [shape, resync_name, resync_aliases, ofSpec_name, ofSpec_aliases, hname, haliases,
    Prod.mk.injEq, Multiset.coe_eq_coe, true_and]
  exact resync_perm_ofSpec hh hs

theorem map_filterMap_of_key {α β γ : Type} {f : α → Option β} {k : α → γ} {k' : β → γ}
    {l : List α} (hf : ∀ a ∈ l, ∃ b, f a = some b ∧ k' b = k a) :
    (l.filterMap f).map k' = l.map k := by
  induction l with
  | nil => rfl
  | cons a l ih =>
    obtain ⟨b, hb, hk⟩ := hf a List.mem_cons_self
    rw [List.filterMap_cons_some hb, List.map_cons, List.map_cons, hk,
      ih fun a ha => hf a (List.mem_cons_of_mem _ ha)]

namespace Sync

/-! ### Hosts -/

/-- The last spec of a host's name. -/
def specOf (specs : List HostSpec) (h : Host) : Option HostSpec :=
  specs.reverse.find? (·.name == h.name)

/-- A host moved to the last spec of its name; a host no spec names stays as it is. -/
def moveHost (specs : List HostSpec) (h : Host) : Host :=
  match specOf specs h with
  | some hs => h.resync hs.contexts
  | none => h

/-- Whether no host of a list has the name of a spec. -/
def isNew (kept : List Host) (hs : HostSpec) : Bool := !kept.any (·.name == hs.name)

/-- The host a spec builds where no host of its name stays. -/
def newHost (hs : HostSpec) : Host := (Host.empty hs.name hs.aliases).resync hs.contexts

/-- The hosts `kept` after moving to specs `P`: each kept host moved to its spec in place,
then a new host for each spec no kept host answers, in spec order. -/
def hostsAfter (kept : List Host) (P : List HostSpec) : List Host :=
  kept.map (moveHost P) ++ (P.filter (isNew kept)).map newHost

/-- The hosts of an engine moved to host specs. -/
def movedHosts (hosts : List Host) (specs : List HostSpec) : List Host :=
  hostsAfter (hosts.filter (keeps specs)) specs

variable {specs P : List HostSpec} {hs : HostSpec} {h : Host}

theorem keeps_iff : keeps specs h = true ↔
    ∃ hs, specOf specs h = some hs ∧ aliasSet hs.name hs.aliases = h.aliases := by
  change (match specOf specs h with
    | some hs => aliasSet hs.name hs.aliases == h.aliases
    | none => false) = true ↔ _
  rcases specOf specs h with _ | hs <;> simp

theorem specOf_append_singleton :
    specOf (P ++ [hs]) h = if hs.name = h.name then some hs else specOf P h := by
  by_cases hn : hs.name = h.name <;> simp [specOf, hn]

theorem specOf_eq_none (hP : h.name ∉ P.map HostSpec.name) : specOf P h = none := by
  simp only [specOf, List.find?_eq_none, List.mem_reverse, beq_iff_eq]
  exact fun hs hmem hn => hP (hn ▸ List.mem_map_of_mem hmem)

theorem specOf_eq_some_iff (hS : (specs.map HostSpec.name).Nodup) :
    specOf specs h = some hs ↔ hs ∈ specs ∧ hs.name = h.name := by
  constructor
  · intro hf
    exact ⟨List.mem_reverse.1 (List.mem_of_find?_eq_some hf), by simpa using List.find?_some hf⟩
  · rintro ⟨hmem, hname⟩
    rcases hf : specs.reverse.find? (·.name == h.name) with _ | hs'
    · simp only [List.find?_eq_none, List.mem_reverse, beq_iff_eq] at hf
      exact absurd hname (hf hs hmem)
    · have hmem' := List.mem_reverse.1 (List.mem_of_find?_eq_some hf)
      have hname' : hs'.name = h.name := by simpa using List.find?_some hf
      rw [specOf, hf, (List.inj_on_of_nodup_map hS) hmem' hmem (hname'.trans hname.symm)]

theorem moveHost_nil (h : Host) : moveHost [] h = h := rfl

theorem moveHost_append_of_ne (hne : hs.name ≠ h.name) : moveHost (P ++ [hs]) h = moveHost P h := by
  simp only [moveHost, specOf_append_singleton, hne, if_false]

theorem moveHost_append_self (heq : hs.name = h.name) :
    moveHost (P ++ [hs]) h = h.resync hs.contexts := by
  simp only [moveHost, specOf_append_singleton, heq, if_true]

theorem moveHost_of_not_mem (hP : h.name ∉ P.map HostSpec.name) : moveHost P h = h := by
  simp only [moveHost, specOf_eq_none hP]

@[simp] theorem moveHost_name (specs : List HostSpec) (h : Host) :
    (moveHost specs h).name = h.name := by
  unfold moveHost
  split <;> simp

@[simp] theorem moveHost_aliases (specs : List HostSpec) (h : Host) :
    (moveHost specs h).aliases = h.aliases := by
  unfold moveHost
  split <;> simp

@[simp] theorem newHost_name (hs : HostSpec) : (newHost hs).name = hs.name := by
  simp [newHost, Host.empty]

theorem pathsOnce_moveHost (hh : h.PathsOnce) (specs : List HostSpec) :
    (moveHost specs h).PathsOnce := by
  unfold moveHost
  split
  · exact Host.pathsOnce_resync hh _
  · exact hh

theorem pathsOnce_newHost (hs : HostSpec) : (newHost hs).PathsOnce :=
  Host.pathsOnce_resync (by simp [Host.PathsOnce, Host.empty]) _

theorem shape_newHost (hs : HostSpec) : (newHost hs).shape = (Host.ofSpec hs).shape :=
  Host.shape_resync (by simp [Host.PathsOnce, Host.empty]) rfl rfl

/-- A kept host is moved to the spec of its name, and then holds what that spec builds. -/
theorem shape_moveHost (hS : (specs.map HostSpec.name).Nodup) (hh : h.PathsOnce)
    (hk : keeps specs h = true) :
    ∃ hs ∈ specs, specOf specs h = some hs ∧ (moveHost specs h).shape = (Host.ofSpec hs).shape := by
  obtain ⟨hs, hspec, haliases⟩ := keeps_iff.1 hk
  obtain ⟨hmem, hname⟩ := (specOf_eq_some_iff hS).1 hspec
  refine ⟨hs, hmem, hspec, ?_⟩
  simp only [moveHost, hspec]
  exact Host.shape_resync hh hname.symm haliases.symm

theorem isNew_iff {kept : List Host} : isNew kept hs = true ↔ hs.name ∉ kept.map Host.name := by
  simp [isNew]

/-! ### Applying host specs one after the other -/

/-- `cur` finds the position in `kept` of each name `kept` has, and nothing for other names. -/
structure Finds (kept : List Host) (cur : List (String × Nat)) : Prop where
  some : ∀ n j, cur.lookup n = some j → ∃ h, kept[j]? = some h ∧ h.name = n
  none : ∀ n, cur.lookup n = none → n ∉ kept.map Host.name

theorem finds_zipIdx (kept : List Host) :
    Finds kept (kept.zipIdx.map fun (h, j) => (h.name, j)).reverse := by
  constructor
  · intro n j hl
    obtain ⟨l₁, l₂, hsplit, -⟩ := List.lookup_eq_some_iff.1 hl
    have hmem : (n, j) ∈ (kept.zipIdx.map fun (h, j) => (h.name, j)).reverse := by simp [hsplit]
    simp only [List.mem_reverse, List.mem_map, Prod.mk.injEq, Prod.exists] at hmem
    obtain ⟨h, j', hzip, rfl, rfl⟩ := hmem
    exact ⟨h, List.mk_mem_zipIdx_iff_getElem?.1 hzip, rfl⟩
  · intro n hl hmem
    obtain ⟨h, hh, rfl⟩ := List.mem_map.1 hmem
    obtain ⟨j, hj⟩ := List.mem_iff_getElem?.1 hh
    have hin : (h.name, j) ∈ (kept.zipIdx.map fun (h, j) => (h.name, j)).reverse :=
      List.mem_reverse.2 (List.mem_map.2 ⟨(h, j), List.mk_mem_zipIdx_iff_getElem?.2 hj, rfl⟩)
    simpa using List.lookup_eq_none_iff.1 hl _ hin

variable {i : Nat} {kept : List Host} {cur : List (String × Nat)}

theorem set_moveHost {j : Nat} (hK : (kept.map Host.name).Nodup) (hj : kept[j]? = some h)
    (hn : hs.name = h.name) :
    (kept.map (moveHost P)).set j (h.resync hs.contexts) = kept.map (moveHost (P ++ [hs])) := by
  have hlt : j < kept.length := (List.getElem?_eq_some_iff.1 hj).1
  refine List.ext_getElem (by simp) fun k hk _ => ?_
  simp only [List.getElem_set, List.getElem_map]
  by_cases hjk : j = k
  · subst hjk
    have hkj : kept[j] = h := (List.getElem?_eq_some_iff.1 hj).2
    rw [if_pos rfl, hkj, moveHost_append_self hn]
  · rw [if_neg hjk, moveHost_append_of_ne]
    intro hname
    have hlt' : j < (kept.map Host.name).length := by simpa using hlt
    have hk' : k < (kept.map Host.name).length := by simpa using hk
    have heq : (kept.map Host.name)[j] = (kept.map Host.name)[k] := by
      simp [← hname, hn, (List.getElem?_eq_some_iff.1 hj).2]
    exact hjk ((List.Nodup.getElem_inj_iff hK).1 heq)

/-- The host a spec is applied to: the kept host of its name, or a new empty one. -/
def targetHost (kept : List Host) (hs : HostSpec) : Host :=
  (kept.find? (·.name == hs.name)).getD (Host.empty hs.name hs.aliases)

theorem find?_name_of_mem (hK : (kept.map Host.name).Nodup) (hh : h ∈ kept) :
    kept.find? (·.name == h.name) = some h :=
  find?_key_of_mem hK hh

/-- One host spec, of a name no earlier spec had, is applied at a place `j`: that of the kept
host of its name, or a new place at the end. The host there moves, and the hosts move one spec
further. -/
theorem applyHost_spec (hK : (kept.map Host.name).Nodup) (hKp : ∀ h ∈ kept, h.PathsOnce)
    (hcur : Finds kept cur) (hP : hs.name ∉ P.map HostSpec.name) (log : List Entry) :
    ∃ j, ((∃ h, kept[j]? = some h ∧ h.name = hs.name) ∨
        (j = (hostsAfter kept P).length ∧ hs.name ∉ kept.map Host.name)) ∧
      applyHost i cur (hostsAfter kept P, log) hs =
        (hostsAfter kept (P ++ [hs]),
          (syncContexts i j (targetHost kept hs) hs.contexts log).2) := by
  rcases hl : cur.lookup hs.name with _ | j
  · -- no kept host has the name: a new host goes at the end
    have hnot := hcur.none _ hl
    have hnew : isNew kept hs = true := isNew_iff.2 hnot
    have hmap : kept.map (moveHost (P ++ [hs])) = kept.map (moveHost P) :=
      List.map_congr_left fun h hh => moveHost_append_of_ne fun hn =>
        isNew_iff.1 hnew (hn ▸ List.mem_map_of_mem hh)
    have htarget : targetHost kept hs = Host.empty hs.name hs.aliases := by
      rw [targetHost, List.find?_eq_none.2 fun h hh hn => hnot ?_, Option.getD_none]
      exact (beq_iff_eq.1 hn) ▸ List.mem_map_of_mem hh
    refine ⟨_, Or.inr ⟨rfl, hnot⟩, ?_⟩
    rw [htarget]
    simp only [applyHost, hl, List.getElem?_concat_length]
    refine Prod.ext ?_ rfl
    rw [List.set_append_right _ _ le_rfl, Nat.sub_self, List.set_cons_zero,
      syncContexts_fst (by simp [Host.PathsOnce, Host.empty]), hostsAfter, hostsAfter, hmap,
      List.filter_append, List.filter_singleton, hnew]
    simp [newHost]
  · -- the kept host of the name moves in place
    obtain ⟨h, hj, hn⟩ := hcur.some _ _ hl
    have hmem := List.mem_of_getElem? hj
    have hlt : j < kept.length := (List.getElem?_eq_some_iff.1 hj).1
    have hat : (hostsAfter kept P)[j]? = some h := by
      rw [hostsAfter, List.getElem?_append_left (by simpa using hlt), List.getElem?_map, hj,
        Option.map_some, moveHost_of_not_mem (by rw [hn]; exact hP)]
    have hold : isNew kept hs = false := by
      have hname := List.mem_map_of_mem (f := Host.name) hmem
      rw [hn] at hname
      exact Bool.eq_false_iff.2 fun hnew => isNew_iff.1 hnew hname
    have htarget : targetHost kept hs = h := by
      rw [targetHost, ← hn, find?_name_of_mem hK hmem, Option.getD_some]
    refine ⟨j, Or.inl ⟨h, hj, hn⟩, ?_⟩
    rw [htarget]
    simp only [applyHost, hl, hat]
    refine Prod.ext ?_ rfl
    rw [hostsAfter, List.set_append_left _ _ (by simpa using hlt), syncContexts_fst (hKp h hmem),
      set_moveHost hK hj hn.symm, hostsAfter, List.filter_append, List.filter_singleton, hold]
    simp

theorem foldl_applyHost_fst (hK : (kept.map Host.name).Nodup) (hKp : ∀ h ∈ kept, h.PathsOnce)
    (hcur : Finds kept cur) :
    ∀ (P R : List HostSpec), ((P ++ R).map HostSpec.name).Nodup → ∀ log : List Entry,
      (R.foldl (applyHost i cur) (hostsAfter kept P, log)).1 = hostsAfter kept (P ++ R)
  | P, [], _, log => by simp
  | P, hs :: R, hn, log => by
    have hP : hs.name ∉ P.map HostSpec.name := by
      simp only [List.map_append, List.map_cons, List.nodup_append, List.mem_cons] at hn
      exact fun hm => hn.2.2 _ hm _ (Or.inl rfl) rfl
    obtain ⟨j, -, hstep⟩ := applyHost_spec (i := i) hK hKp hcur hP log
    rw [List.foldl_cons, hstep, foldl_applyHost_fst hK hKp hcur (P ++ [hs]) R (by simpa using hn)]
    simp

theorem hostsAfter_nil (kept : List Host) : hostsAfter kept [] = kept := by
  rw [hostsAfter, List.filter_nil, List.map_nil, List.append_nil]
  conv_rhs => rw [← List.map_id kept]
  exact List.map_congr_left fun h _ => moveHost_nil h

/-- On an engine that names each host once, a sync to specs that name each host once leaves
the moved hosts, whatever changes it collects. -/
theorem syncHosts_fst {e : Engine} (he : e.WellFormed) (hS : (specs.map HostSpec.name).Nodup)
    (log : List Entry) :
    (syncHosts i e specs log).1 = { e with hosts := movedHosts e.hosts specs } := by
  have hsub : (e.hosts.filter (keeps specs)).Sublist e.hosts := List.filter_sublist
  have hfold := foldl_applyHost_fst (i := i) ((hsub.map _).nodup he.names)
    (fun h hh => he.paths h (hsub.subset hh)) (finds_zipIdx _) [] specs (by simpa using hS)
  rw [hostsAfter_nil] at hfold
  simp only [syncHosts]
  rw [hfold, List.nil_append, movedHosts]

/-! ### What the moved hosts hold -/

variable {e : Engine}

theorem names_movedHosts (hosts : List Host) (specs : List HostSpec) :
    (movedHosts hosts specs).map Host.name =
      (hosts.filter (keeps specs)).map Host.name ++
        ((specs.filter (isNew (hosts.filter (keeps specs)))).map HostSpec.name) := by
  simp [movedHosts, hostsAfter, Function.comp_def]

theorem wellFormed_movedHosts (he : e.WellFormed) (hS : (specs.map HostSpec.name).Nodup) :
    Engine.WellFormed { e with hosts := movedHosts e.hosts specs } := by
  have hsub : (e.hosts.filter (keeps specs)).Sublist e.hosts := List.filter_sublist
  constructor
  · rw [names_movedHosts, List.nodup_append]
    refine ⟨(hsub.map _).nodup he.names, (List.filter_sublist.map _).nodup hS, ?_⟩
    intro a ha b hb hab
    obtain ⟨hs, hmem, rfl⟩ := List.mem_map.1 hb
    exact isNew_iff.1 (List.mem_filter.1 hmem).2 (hab ▸ ha)
  · intro h hh
    simp only [movedHosts, hostsAfter, List.mem_append, List.mem_map] at hh
    rcases hh with ⟨h₀, hh₀, rfl⟩ | ⟨hs, -, rfl⟩
    · exact pathsOnce_moveHost (he.paths h₀ (hsub.subset hh₀)) _
    · exact pathsOnce_newHost hs

/-- The kept hosts and the new ones answer the specs one to one. -/
theorem perm_specs (he : e.WellFormed) (hS : (specs.map HostSpec.name).Nodup) :
    ((e.hosts.filter (keeps specs)).filterMap (specOf specs) ++
      specs.filter (isNew (e.hosts.filter (keeps specs)))).Perm specs := by
  set kept := e.hosts.filter (keeps specs)
  have hkeyed : ∀ h ∈ kept, ∃ hs, specOf specs h = some hs ∧ hs.name = h.name := fun h hh => by
    obtain ⟨hs, hspec, -⟩ := keeps_iff.1 (List.mem_filter.1 hh).2
    exact ⟨hs, hspec, ((specOf_eq_some_iff hS).1 hspec).2⟩
  have hnames : (kept.filterMap (specOf specs)).map HostSpec.name = kept.map Host.name :=
    map_filterMap_of_key hkeyed
  have hK : (kept.map Host.name).Nodup := (List.filter_sublist.map _).nodup he.names
  refine (List.perm_ext_iff_of_nodup ?_ (List.Nodup.of_map _ hS)).2 fun hs => ?_
  · rw [List.nodup_append]
    refine ⟨List.Nodup.of_map HostSpec.name (hnames ▸ hK),
      (List.filter_sublist).nodup (List.Nodup.of_map _ hS), ?_⟩
    intro a ha b hb hab
    have ha' : a.name ∈ kept.map Host.name := hnames ▸ List.mem_map_of_mem ha
    exact isNew_iff.1 (List.mem_filter.1 hb).2 (hab ▸ ha')
  · simp only [List.mem_append, List.mem_filterMap, List.mem_filter]
    constructor
    · rintro (⟨h, -, hspec⟩ | ⟨hmem, -⟩)
      · exact ((specOf_eq_some_iff hS).1 hspec).1
      · exact hmem
    · intro hmem
      by_cases hn : isNew kept hs = true
      · exact Or.inr ⟨hmem, hn⟩
      · obtain ⟨h, hh, hname⟩ := List.mem_map.1 (not_not.1 (mt isNew_iff.2 hn))
        exact Or.inl ⟨h, hh, (specOf_eq_some_iff hS).2 ⟨hmem, hname.symm⟩⟩

/-- The moved hosts are what the specs build, up to order. -/
theorem shapes_movedHosts (he : e.WellFormed) (hS : (specs.map HostSpec.name).Nodup) :
    ((movedHosts e.hosts specs).map Host.shape).Perm
      (specs.map fun hs => (Host.ofSpec hs).shape) := by
  set kept := e.hosts.filter (keeps specs)
  have hkept : kept.map (Host.shape ∘ moveHost specs) =
      (kept.filterMap (specOf specs)).map fun hs => (Host.ofSpec hs).shape := by
    have hall : ∀ h ∈ kept, ∃ hs, specOf specs h = some hs ∧
        (Host.ofSpec hs).shape = (Host.shape ∘ moveHost specs) h := fun h hh => by
      obtain ⟨hs, -, hspec, hshape⟩ := shape_moveHost hS (he.paths h (List.mem_filter.1 hh).1)
        (List.mem_filter.1 hh).2
      exact ⟨hs, hspec, hshape.symm⟩
    exact (map_filterMap_of_key hall).symm
  rw [movedHosts, hostsAfter, List.map_append, List.map_map, hkept,
    List.map_map, show Host.shape ∘ newHost = fun hs => (Host.ofSpec hs).shape from
      funext shape_newHost, ← List.map_append]
  exact (perm_specs he hS).map _

/-! ### Engines -/

/-- The last spec of an engine's route. -/
def routeSpec (specs : List EngineSpec) (e : Engine) : Option EngineSpec :=
  specs.reverse.find? (·.route == e.route)

/-- An engine moved to the spec of its route; an engine no spec names stays as it is. -/
def moveEngine (specs : List EngineSpec) (e : Engine) : Engine :=
  match routeSpec specs e with
  | some es => { e with hosts := movedHosts e.hosts es.hosts }
  | none => e

variable {S : List EngineSpec}

@[simp] theorem moveEngine_route (S : List EngineSpec) (e : Engine) :
    (moveEngine S e).route = e.route := by
  unfold moveEngine
  split <;> rfl

theorem routeSpec_route {es : EngineSpec} (hr : routeSpec S e = some es) : es.route = e.route := by
  simpa using List.find?_some hr

theorem routeSpec_mem {es : EngineSpec} (hr : routeSpec S e = some es) : es ∈ S :=
  List.mem_reverse.1 (List.mem_of_find?_eq_some hr)

theorem wellFormed_moveEngine (hS : ∀ es ∈ S, es.NamesHostsOnce) (he : e.WellFormed) :
    (moveEngine S e).WellFormed := by
  unfold moveEngine
  split
  · rename_i es hr
    exact wellFormed_movedHosts he (hS es (routeSpec_mem hr))
  · exact he

theorem shape_moveEngine (hS : ∀ es ∈ S, es.NamesHostsOnce) (he : e.WellFormed) {es : EngineSpec}
    (hr : routeSpec S e = some es) : (moveEngine S e).shape = es.shape := by
  simp only [moveEngine, hr, Engine.shape, EngineSpec.shape, routeSpec_route hr, Prod.mk.injEq,
    true_and, Multiset.coe_eq_coe]
  exact shapes_movedHosts he (hS es (routeSpec_mem hr))

theorem syncEngines_ok (hS : ∀ es ∈ S, es.NamesHostsOnce) :
    ∀ (es : List Engine) (i : Nat) (log : List Entry) {log' : List Entry},
      (∀ e ∈ es, e.WellFormed) → (syncEngines S i es log).2 = .ok log' →
      (syncEngines S i es log).1 = es.map (moveEngine S) ∧ ∀ e ∈ es, (routeSpec S e).isSome
  | [], _, _, _, _, _ => by simp [syncEngines]
  | e :: rest, i, log, log', hwf, hok => by
    have hrest : ∀ x ∈ rest, x.WellFormed := fun x hx => hwf x (List.mem_cons_of_mem _ hx)
    rcases hr : routeSpec S e with _ | es
    · have hr' : S.reverse.find? (·.route == e.route) = none := hr
      simp [syncEngines, hr'] at hok
    · have hr' : S.reverse.find? (·.route == e.route) = some es := hr
      simp only [syncEngines, hr'] at hok ⊢
      obtain ⟨ih₁, ih₂⟩ := syncEngines_ok hS rest (i + 1) _ hrest hok
      refine ⟨?_, fun x hx => ?_⟩
      · rw [ih₁, syncHosts_fst (hwf e List.mem_cons_self) (hS es (routeSpec_mem hr)), List.map_cons,
          moveEngine, hr]
      · rcases List.mem_cons.1 hx with rfl | hx
        · simp [hr]
        · exact ih₂ x hx

end Sync

open Sync

/-! ### Topologies -/

variable {t t' : Topology} {S : List EngineSpec} {cs : List Change}

/-- A sync that succeeds moves every engine, and the specs name exactly the routes. -/
theorem Topology.sync_ok (ht : ∀ e ∈ t.engines, e.WellFormed) (hS : ∀ es ∈ S, es.NamesHostsOnce)
    (h : t.sync S = (t', .ok cs)) :
    t'.engines = t.engines.map (moveEngine S) ∧ (∀ e ∈ t.engines, (routeSpec S e).isSome) ∧
      S.length = t.engines.length := by
  unfold Topology.sync at h
  split at h
  · cases h
  rename_i hlen
  rcases hse : syncEngines S 0 t.engines [] with ⟨engines, r⟩
  rw [hse] at h
  simp only [Prod.mk.injEq] at h
  obtain ⟨rfl, hr⟩ := h
  rcases r with _ | log
  · cases hr
  have hok := syncEngines_ok hS t.engines 0 [] ht (by rw [hse])
  rw [hse] at hok
  exact ⟨hok.1, hok.2, by simpa using hlen⟩

theorem routeSpecs_perm (ht : t.WellFormed) (hsome : ∀ e ∈ t.engines, (routeSpec S e).isSome)
    (hlen : S.length = t.engines.length) : (t.engines.filterMap (routeSpec S)).Perm S := by
  have hroutes : (t.engines.filterMap (routeSpec S)).map EngineSpec.route =
      t.engines.map Engine.route := by
    refine map_filterMap_of_key fun e he => ?_
    obtain ⟨es, hes⟩ := Option.isSome_iff_exists.1 (hsome e he)
    exact ⟨es, hes, routeSpec_route hes⟩
  have hnodup : (t.engines.filterMap (routeSpec S)).Nodup :=
    List.Nodup.of_map EngineSpec.route (hroutes ▸ ht.routes)
  refine (List.subperm_of_subset hnodup fun es hes => ?_).perm_of_length_le ?_
  · obtain ⟨e, -, hr⟩ := List.mem_filterMap.1 hes
    exact routeSpec_mem hr
  · rw [hlen, ← List.length_map (f := EngineSpec.route), hroutes, List.length_map]

/-- One sync to specs that name each host of an engine once keeps the topology well formed and
its routes, and reaches what the specs build. -/
theorem Topology.sync_rebuilds (ht : t.WellFormed) (hS : ∀ es ∈ S, es.NamesHostsOnce)
    (h : t.sync S = (t', .ok cs)) :
    t'.WellFormed ∧ t'.engines.map Engine.route = t.engines.map Engine.route ∧
      (t'.engines.map Engine.shape).Perm (S.map EngineSpec.shape) := by
  obtain ⟨heng, hsome, hlen⟩ := Topology.sync_ok ht.engines hS h
  have hshapes : t'.engines.map Engine.shape =
      (t.engines.filterMap (routeSpec S)).map EngineSpec.shape := by
    rw [heng, List.map_map]
    refine (map_filterMap_of_key fun e he => ?_).symm
    obtain ⟨es, hes⟩ := Option.isSome_iff_exists.1 (hsome e he)
    exact ⟨es, hes, (shape_moveEngine hS (ht.engines e he) hes).symm⟩
  refine ⟨⟨?_, ?_⟩, by simp [heng], hshapes ▸ (routeSpecs_perm ht hsome hlen).map _⟩
  · simpa [heng, Function.comp_def] using ht.routes
  · rw [heng]
    intro e he
    obtain ⟨e₀, he₀, rfl⟩ := List.mem_map.1 he
    exact wellFormed_moveEngine hS (ht.engines e₀ he₀)

/-! ### Building from specs -/

theorem Engine.ofSpec_ok {dns : Resolver} {es : EngineSpec} {e : Engine}
    (h : Engine.ofSpec dns es = .ok e) :
    e.shape = es.shape ∧ e.hosts = es.hosts.map Host.ofSpec := by
  unfold Engine.ofSpec at h
  split at h
  · cases h
  · cases h
    exact ⟨by simp [Engine.shape, EngineSpec.shape, Function.comp_def], rfl⟩

theorem Topology.buildEngines_ok {dns : Resolver} :
    ∀ {seen : List String} {S : List EngineSpec} {es : List Engine}, buildEngines dns seen S = .ok es →
      es.map Engine.shape = S.map EngineSpec.shape ∧ (es.map Engine.route).Nodup ∧
        ∀ e ∈ es, e.route ∉ seen
  | _, [], es, h => by
    simp only [buildEngines, Except.ok.injEq] at h
    simp [← h]
  | seen, s :: S, es, h => by
    simp only [buildEngines] at h
    split at h
    · cases h
    split at h
    · cases h
    rename_i hseen
    split at h
    · cases h
    rename_i e he
    split at h
    · cases h
    rename_i more hmore
    simp only [Except.ok.injEq] at h
    subst h
    obtain ⟨hshapes, hnodup, hfresh⟩ := buildEngines_ok hmore
    have hroute : e.route = s.route := congrArg Prod.fst (Engine.ofSpec_ok he).1
    refine ⟨by simp [(Engine.ofSpec_ok he).1, hshapes], ?_, ?_⟩
    · exact List.nodup_cons.2 ⟨fun hm => by
        obtain ⟨x, hx, hxr⟩ := List.mem_map.1 hm
        exact hfresh x hx (by simp [hxr, hroute]), hnodup⟩
    · intro x hx
      rcases List.mem_cons.1 hx with rfl | hx
      · simpa [hroute] using hseen
      · exact fun hs => hfresh x hx (List.mem_cons_of_mem _ hs)

theorem Topology.ofSpecs_shapes {dns : Resolver} {t : Topology} (h : Topology.ofSpecs dns S = .ok t) :
    t.engines.map Engine.shape = S.map EngineSpec.shape := by
  obtain ⟨es, hb, rfl⟩ := Topology.ofSpecs_eq_ok h
  exact (buildEngines_ok hb).1

theorem Topology.ofSpecs_wellFormed {dns : Resolver} {t : Topology} (h : Topology.ofSpecs dns S = .ok t)
    (hS : ∀ es ∈ S, es.NamesHostsOnce) : t.WellFormed := by
  obtain ⟨es, hb, rfl⟩ := Topology.ofSpecs_eq_ok h
  refine ⟨(buildEngines_ok hb).2.1, fun e he => ?_⟩
  obtain ⟨es, hes, hok⟩ := Topology.mem_buildEngines hb e he
  have hhosts := (Engine.ofSpec_ok hok).2
  refine ⟨?_, fun h hh => ?_⟩
  · simpa [hhosts, Function.comp_def, Host.ofSpec_name, EngineSpec.NamesHostsOnce] using hS es hes
  · rw [hhosts] at hh
    obtain ⟨hs, -, rfl⟩ := List.mem_map.1 hh
    exact Host.pathsOnce_ofSpec hs

/-! ### Chains of syncs -/

/-- `t.Syncs Ss u`: syncing `t` to each spec list of `Ss` in turn succeeds and ends at `u`. -/
inductive Topology.Syncs : Topology → List (List EngineSpec) → Topology → Prop
  | nil (t : Topology) : Topology.Syncs t [] t
  | cons {t t' u : Topology} {S : List EngineSpec} {Ss : List (List EngineSpec)}
      {cs : List Change} :
      t.sync S = (t', .ok cs) → Topology.Syncs t' Ss u → Topology.Syncs t (S :: Ss) u

/-- Along a chain of syncs to specs that name each host of an engine once, the topology stays
well formed, keeps its routes and holds what the last specs build. -/
theorem Topology.Syncs.rebuilds {t u : Topology} {Ss : List (List EngineSpec)}
    (hrun : t.Syncs Ss u) (ht : t.WellFormed) (hS : ∀ S ∈ Ss, ∀ es ∈ S, es.NamesHostsOnce)
    {S₀ : List EngineSpec} (h₀ : (t.engines.map Engine.shape).Perm (S₀.map EngineSpec.shape)) :
    u.WellFormed ∧ u.engines.map Engine.route = t.engines.map Engine.route ∧
      (u.engines.map Engine.shape).Perm ((Ss.getLast?.getD S₀).map EngineSpec.shape) := by
  induction hrun generalizing S₀ with
  | nil t => exact ⟨ht, rfl, h₀⟩
  | @cons t t' u S Ss cs hsync _ ih =>
    obtain ⟨ht', hroutes, hshape⟩ := Topology.sync_rebuilds ht (hS S List.mem_cons_self) hsync
    obtain ⟨hu, hroutes', hshape'⟩ :=
      ih ht' (fun S' hS' => hS S' (List.mem_cons_of_mem _ hS')) hshape
    exact ⟨hu, hroutes'.trans hroutes, by simpa [List.getLast?_cons] using hshape'⟩

/-- A topology built from specs and synced to further spec lists, each of which names a host of
an engine at most once, keeps the first routes in their order and holds what the last list
builds, up to the order of hosts and of contexts: the same as a topology built from it. -/
theorem sync_chain_rebuilds {dns : Resolver} {S₀ : List EngineSpec} {Ss : List (List EngineSpec)}
    {t₀ t : Topology} (h₀ : Topology.ofSpecs dns S₀ = .ok t₀) (hrun : t₀.Syncs Ss t)
    (hS : ∀ S ∈ S₀ :: Ss, ∀ es ∈ S, es.NamesHostsOnce) :
    t.engines.map Engine.route = S₀.map EngineSpec.route ∧
      (t.engines.map Engine.shape).Perm ((Ss.getLast?.getD S₀).map EngineSpec.shape) ∧
      ∀ u, Topology.ofSpecs dns (Ss.getLast?.getD S₀) = .ok u →
        (t.engines.map Engine.shape).Perm (u.engines.map Engine.shape) := by
  have hshapes₀ := Topology.ofSpecs_shapes h₀
  obtain ⟨-, hroutes, hshape⟩ := hrun.rebuilds
    (Topology.ofSpecs_wellFormed h₀ (hS S₀ List.mem_cons_self))
    (fun S hS' => hS S (List.mem_cons_of_mem _ hS')) (by rw [hshapes₀])
  refine ⟨?_, hshape, fun u hu => Topology.ofSpecs_shapes hu ▸ hshape⟩
  have := congrArg (List.map Prod.fst) hshapes₀
  simp only [List.map_map] at this
  rw [hroutes]
  exact this

/-- Syncing a host to a spec that lists a new path first gives its contexts in another order
than building it does, and the same contexts. -/
theorem sync_chain_rebuilds_reordering :
    let S₀ : List EngineSpec := [⟨"", "node1", {}, [⟨"h", [], [⟨"/a", true⟩]⟩]⟩]
    let S₁ : List EngineSpec := [⟨"", "node1", {}, [⟨"h", [], [⟨"/b", true⟩, ⟨"/a", false⟩]⟩]⟩]
    let t₀ : Topology :=
      ⟨[⟨"node1", "node1", ⟨none, 0, .ajp, false⟩, [⟨"h", ["h"], [⟨"/a", true⟩]⟩]⟩]⟩
    let t : Topology :=
      ⟨[⟨"node1", "node1", ⟨none, 0, .ajp, false⟩, [⟨"h", ["h"], [⟨"/a", false⟩, ⟨"/b", true⟩]⟩]⟩]⟩
    Topology.ofSpecs Resolver.empty S₀ = .ok t₀ ∧ t₀.Syncs [S₁] t ∧
      (∀ S ∈ [S₀, S₁], ∀ es ∈ S, es.NamesHostsOnce) ∧
      t.engines.map Engine.route = S₀.map EngineSpec.route ∧
      (t.engines.map Engine.shape).Perm (S₁.map EngineSpec.shape) ∧
      ∀ u, Topology.ofSpecs Resolver.empty S₁ = .ok u →
        (t.engines.map Engine.shape).Perm (u.engines.map Engine.shape) := by
  intro S₀ S₁ t₀ t
  have h₀ : Topology.ofSpecs Resolver.empty S₀ = .ok t₀ := by decide +kernel
  have hrun : t₀.Syncs [S₁] t := .cons (by decide +kernel :
    t₀.sync S₁ = (t, .ok [⟨.added, "h", "/b", true⟩, ⟨.stopped, "h", "/a", false⟩])) (.nil t)
  have hS : ∀ S ∈ [S₀, S₁], ∀ es ∈ S, es.NamesHostsOnce := by decide
  exact ⟨h₀, hrun, hS, sync_chain_rebuilds h₀ hrun hS⟩

/-- Without the condition on names a sync does not rebuild: a spec list naming host `h` twice
leaves one host where building it gives two, and a topology built with two hosts named `h`
keeps both where the next specs build one. -/
theorem sync_differs_from_rebuild_on_repeated_host_names :
    let engine (hosts : List HostSpec) : List EngineSpec := [⟨"", "node1", {}, hosts⟩]
    let spec (path : String) : HostSpec := ⟨"h", [], [⟨path, true⟩]⟩
    let host (paths : List String) : Host := ⟨"h", ["h"], paths.map (⟨·, true⟩)⟩
    let topology (hosts : List Host) : Topology :=
      ⟨[⟨"node1", "node1", ⟨none, 0, .ajp, false⟩, hosts⟩]⟩
    (Topology.ofSpecs Resolver.empty (engine [spec "/a"]) = .ok (topology [host ["/a"]]) ∧
      (topology [host ["/a"]]).sync (engine [spec "/x", spec "/y"]) =
        (topology [host ["/y"]], .ok [⟨.removed, "h", "/a", true⟩, ⟨.added, "h", "/x", true⟩,
          ⟨.removed, "h", "/x", true⟩, ⟨.added, "h", "/y", true⟩]) ∧
      Topology.ofSpecs Resolver.empty (engine [spec "/x", spec "/y"]) = .ok (topology [host ["/x"], host ["/y"]]) ∧
      ¬ ((topology [host ["/y"]]).engines.map Engine.shape).Perm
        ((topology [host ["/x"], host ["/y"]]).engines.map Engine.shape)) ∧
    (Topology.ofSpecs Resolver.empty (engine [spec "/a", spec "/b"]) = .ok (topology [host ["/a"], host ["/b"]]) ∧
      (topology [host ["/a"], host ["/b"]]).sync (engine [spec "/a"]) =
        (topology [host ["/a"], host ["/a"]],
          .ok [⟨.removed, "h", "/b", true⟩, ⟨.added, "h", "/a", true⟩]) ∧
      Topology.ofSpecs Resolver.empty (engine [spec "/a"]) = .ok (topology [host ["/a"]]) ∧
      ¬ ((topology [host ["/a"], host ["/a"]]).engines.map Engine.shape).Perm
        ((topology [host ["/a"]]).engines.map Engine.shape)) := by
  intro engine spec host topology
  refine ⟨⟨?_, ?_, ?_, ?_⟩, ?_, ?_, ?_, ?_⟩
  all_goals decide +kernel

end ClusterAgent
