import ClusterAgent.Proofs.SyncRebuild

/-!
# The changes a sync reports

A sync reports one change per context whose presence or flag differs between the topology
before and after it, and no other (`sync_changes_are_diff`). `Topology.diff` lists those
changes engine by engine: a context is known by its host's name and alias set and by its path,
so the contexts of a host whose alias set changes are all removed and added again. In
particular a sync to specs the topology already holds reports nothing.

This needs the specs to list each host name of an engine once and each path of a host once: a
context set twice is reported twice, each time with its final flag, and a host named twice is
moved twice (`sync_reports_more_than_diff_on_repeated_entries`).

The proof follows the entries a sync collects, newest first. Under these conditions no entry
is ever refreshed (`Sync.refresh_eq_self`), so the entries are those of a closed form
(`Sync.engineChanges`): removals for the hosts dropped, then for each spec the removals of the
paths it no longer lists and what each of its context specs changes.
-/

namespace ClusterAgent

/-! ### The difference between two engines -/

/-- The contexts of a host, each with the host's name and alias set. -/
def Host.placed (h : Host) : List (String × List String × Context) :=
  h.contexts.map fun c => (h.name, h.aliases, c)

/-- The contexts of an engine, each with its host's name and alias set. -/
def Engine.placed (e : Engine) : List (String × List String × Context) :=
  e.hosts.flatMap Host.placed

/-- The flag of the context at `path` of the host of an engine with name `name` and alias set
`aliases`, if there is one. -/
def Engine.flagAt (e : Engine) (name : String) (aliases : List String) (path : String) :
    Option Bool :=
  (e.hosts.find? fun h => h.name == name && h.aliases == aliases).bind fun h =>
    (h.contexts.find? (·.path == path)).map (·.started)

/-- The removal of a context that engine `e'` no longer holds at its place, with its last
flag. -/
def Engine.removal (e' : Engine) (x : String × List String × Context) : Option Change :=
  match e'.flagAt x.1 x.2.1 x.2.2.path with
  | none => some ⟨.removed, x.1, x.2.2.path, x.2.2.started⟩
  | some _ => none

/-- What a context of a new engine reports against the old engine `e`: an addition where `e`
holds nothing at its place, a start or a stop where `e` holds it with the other flag. -/
def Engine.arrival (e : Engine) (x : String × List String × Context) : Option Change :=
  match e.flagAt x.1 x.2.1 x.2.2.path with
  | none => some ⟨.added, x.1, x.2.2.path, x.2.2.started⟩
  | some b =>
    if b = x.2.2.started then none
    else some ⟨if x.2.2.started then .started else .stopped, x.1, x.2.2.path, x.2.2.started⟩

/-- The changes taking engine `e` to engine `e'`: one per context whose presence or flag
differs. -/
def Engine.diff (e e' : Engine) : List Change :=
  e.placed.filterMap e'.removal ++ e'.placed.filterMap e.arrival

/-- The changes taking a topology to one with the same engines in the same order. -/
def Topology.diff (t t' : Topology) : List Change :=
  (t.engines.zip t'.engines).flatMap fun p => p.1.diff p.2

/-- An engine spec lists each path of a host once, up to normalisation. -/
def EngineSpec.ListsPathsOnce (es : EngineSpec) : Prop :=
  ∀ hs ∈ es.hosts, (ContextSpec.paths hs.contexts).Nodup

instance : DecidablePred EngineSpec.ListsPathsOnce := fun es =>
  inferInstanceAs (Decidable (∀ hs ∈ es.hosts, (ContextSpec.paths hs.contexts).Nodup))

/-! ### Reading flags -/

namespace Host

variable {h : Host}

theorem find?_path_of_mem (hh : h.PathsOnce) {c : Context} (hc : c ∈ h.contexts) :
    h.contexts.find? (·.path == c.path) = some c :=
  find?_key_of_mem hh hc

theorem find?_addContext_of_ne {p q : String} {b : Bool} (hpq : normalizePath p ≠ q) :
    (h.addContext p b).contexts.find? (·.path == q) = h.contexts.find? (·.path == q) := by
  unfold addContext
  dsimp only
  generalize normalizePath p = np at hpq ⊢
  split
  · rw [List.find?_map]
    have hcomp : ((·.path == q) ∘ fun x : Context => if (x.path == np) = true then
        ⟨np, b⟩ else x) = (·.path == q) := by
      funext x
      by_cases hx : x.path = np <;> simp [hx]
    rw [hcomp]
    rcases hf : h.contexts.find? (·.path == q) with _ | c
    · rw [hf, Option.map_none]
    · have hcq : c.path = q := by simpa using List.find?_some hf
      rw [hf, Option.map_some, if_neg (by simp [hcq, Ne.symm hpq])]
  · rw [List.find?_append, List.find?_singleton]
    simp [hpq]

theorem find?_addContexts_of_not_mem {q : String} {cs : List ContextSpec}
    (hq : q ∉ ContextSpec.paths cs) :
    (h.addContexts cs).contexts.find? (·.path == q) = h.contexts.find? (·.path == q) := by
  induction cs generalizing h with
  | nil => rfl
  | cons s cs ih =>
    simp only [ContextSpec.paths, List.map_cons, List.mem_cons, not_or] at hq
    rw [addContexts_cons, ih hq.2, find?_addContext_of_ne (Ne.symm hq.1)]

theorem flag_resync (hh : h.PathsOnce) (cs : List ContextSpec) (p : String) :
    ((h.resync cs).contexts.find? (·.path == p)).map (·.started) = ContextSpec.lastFlag p cs := by
  rcases hl : ContextSpec.lastFlag p cs with _ | b
  · rw [List.find?_eq_none.2 fun c hc hcp => ?_, Option.map_none]
    have hcp' : c.path = p := by simpa using hcp
    rw [← hcp', mem_resync.1 hc] at hl
    cases hl
  · have hmem : (⟨p, b⟩ : Context) ∈ (h.resync cs).contexts := mem_resync.2 hl
    rw [find?_path_of_mem (pathsOnce_resync hh cs) hmem]
    rfl

/-- With each path listed once, a moved host holds one context per spec. -/
theorem resync_perm_specs (hh : h.PathsOnce) {cs : List ContextSpec}
    (hcs : (ContextSpec.paths cs).Nodup) :
    (h.resync cs).contexts.Perm (cs.map fun s => ⟨normalizePath s.path, s.started⟩) := by
  have hnodup : (cs.map fun s => (⟨normalizePath s.path, s.started⟩ : Context)).Nodup :=
    List.Nodup.of_map Context.path (by simpa [ContextSpec.paths, Function.comp_def] using hcs)
  refine (List.perm_ext_iff_of_nodup (nodup_of_pathsOnce (pathsOnce_resync hh cs)) hnodup).2 ?_
  intro c
  rw [mem_resync, ContextSpec.lastFlag_eq_some_iff hcs, List.mem_map]
  constructor
  · rintro ⟨s, hs, hp, hb⟩
    exact ⟨s, hs, by rw [hp, hb]⟩
  · rintro ⟨s, hs, rfl⟩
    exact ⟨s, hs, by dsimp only, by dsimp only⟩

end Host

namespace Engine

variable {e : Engine}

theorem flagAt_of_mem (he : e.WellFormed) {h : Host} (hh : h ∈ e.hosts) (p : String) :
    e.flagAt h.name h.aliases p = (h.contexts.find? (·.path == p)).map (·.started) := by
  have hfind : e.hosts.find? (fun h' => h'.name == h.name && h'.aliases == h.aliases) = some h := by
    rcases hf : e.hosts.find? (fun h' => h'.name == h.name && h'.aliases == h.aliases) with _ | h'
    · exact absurd (List.find?_eq_none.1 hf h hh) (by simp)
    · have hname : h'.name = h.name := by
        have := List.find?_some hf
        simp only [Bool.and_eq_true, beq_iff_eq] at this
        exact this.1
      rw [hf, (List.inj_on_of_nodup_map he.names) (List.mem_of_find?_eq_some hf) hh hname]
  simp [flagAt, hfind]

theorem flagAt_eq_none {n : String} {a : List String}
    (hno : ∀ h ∈ e.hosts, h.name = n → h.aliases ≠ a) (p : String) : e.flagAt n a p = none := by
  rw [flagAt, List.find?_eq_none.2 fun h hh hna => ?_, Option.bind_none]
  simp only [Bool.and_eq_true, beq_iff_eq] at hna
  exact hno h hh hna.1 hna.2

/-- A well-formed engine holds, at the place of each context of an engine of its shape, that
context's flag. -/
theorem flagAt_of_placed {e' : Engine} (he' : e'.WellFormed)
    (hshape : (e.hosts.map Host.shape : Multiset (String × List String × Multiset Context)) =
      e'.hosts.map Host.shape)
    {x : String × List String × Context} (hx : x ∈ e.placed) :
    e'.flagAt x.1 x.2.1 x.2.2.path = some x.2.2.started := by
  obtain ⟨h, hh, hx⟩ := List.mem_flatMap.1 hx
  obtain ⟨c, hc, rfl⟩ := List.mem_map.1 hx
  have hmem : h.shape ∈ e'.hosts.map Host.shape := by
    rw [← Multiset.mem_coe, ← hshape, Multiset.mem_coe]
    exact List.mem_map_of_mem hh
  obtain ⟨h', hh', hsh⟩ := List.mem_map.1 hmem
  simp only [Host.shape, Prod.mk.injEq, Multiset.coe_eq_coe] at hsh
  obtain ⟨hn, ha, hp⟩ := hsh
  rw [← hn, ← ha, flagAt_of_mem he' hh',
    Host.find?_path_of_mem (he'.paths h' hh') (hp.symm.subset hc), Option.map_some]

theorem diff_eq_nil_of_shape {e' : Engine} (he : e.WellFormed) (he' : e'.WellFormed)
    (hshape : e.shape = e'.shape) : e.diff e' = [] := by
  have hhosts := congrArg Prod.snd hshape
  simp only [shape] at hhosts
  rw [diff, List.append_eq_nil_iff, List.filterMap_eq_nil_iff, List.filterMap_eq_nil_iff]
  refine ⟨fun x hx => ?_, fun x hx => ?_⟩
  · simp [removal, flagAt_of_placed he' hhosts hx]
  · simp [arrival, flagAt_of_placed he hhosts.symm hx]

end Engine

/-! ### The entries a sync collects -/

namespace Sync

/-- The entry of a change at host place `j` of engine `i`. -/
def entryAt (i j : Nat) (c : Change) : Entry := ⟨c, i, some j⟩

/-- What one context spec reports against contexts `ctxs` of host `name`, when no earlier spec
of the host touched its path: an addition, a start, a stop or nothing. -/
def contextChange (name : String) (ctxs : List Context) (s : ContextSpec) : Option Change :=
  match ctxs.find? (·.path == normalizePath s.path) with
  | none => some ⟨.added, name, normalizePath s.path, s.started⟩
  | some c =>
    if c.started = s.started then none
    else some ⟨if s.started then .started else .stopped, name, normalizePath s.path, s.started⟩

/-- The removals of the contexts of `h` whose paths no spec of `cs` lists. -/
def goneChanges (h : Host) (cs : List ContextSpec) : List Change :=
  (h.contexts.filter fun c => !(ContextSpec.paths cs).contains c.path).map fun c =>
    ⟨.removed, h.name, c.path, c.started⟩

/-- What moving host `h` to context specs `cs` reports, in order. -/
def hostChanges (h : Host) (cs : List ContextSpec) : List Change :=
  goneChanges h cs ++ cs.filterMap (contextChange h.name h.contexts)

/-- What moving an engine's hosts to host specs reports, in order: the contexts of the hosts it
drops, then what each spec changes on the host it is applied to. -/
def engineChanges (hosts : List Host) (specs : List HostSpec) : List Change :=
  (hosts.filter fun h => !keeps specs h).flatMap (goneChanges · []) ++
    specs.flatMap fun hs => hostChanges (targetHost (hosts.filter (keeps specs)) hs) hs.contexts

/-- What a sync reports for an engine, against the spec of its route. -/
def engineChangesFor (S : List EngineSpec) (e : Engine) : List Change :=
  ((routeSpec S e).map fun es => engineChanges e.hosts es.hosts).getD []

variable {i j : Nat} {log : List Entry}

theorem foldl_push {α : Type} (f : α → Entry) :
    ∀ (l : List α) (log : List Entry),
      l.foldl (fun acc x => f x :: acc) log = (l.map f).reverse ++ log
  | [], _ => rfl
  | x :: l, log => by simp [foldl_push f l]

theorem refresh_eq_self {engine slot : Nat} {path : String} {v : Bool} :
    ∀ {l : List Entry}, (∀ x ∈ l, x.isAt engine slot path = false) →
      refresh engine slot path v l = l
  | [], _ => rfl
  | x :: l, h => by
    rw [refresh, if_neg (by simp [h x List.mem_cons_self]),
      refresh_eq_self fun y hy => h y (List.mem_cons_of_mem _ hy)]

/-- One context spec adds the entry of what it changes, when no entry is at its place. -/
theorem applyContext_snd {h : Host} (s : ContextSpec)
    (hclear : ∀ x ∈ log, x.isAt i j (normalizePath s.path) = false) :
    (applyContext i j h.name (h.contexts, log) s).2 =
      ((contextChange h.name h.contexts s).map (entryAt i j)).toList ++ log := by
  unfold applyContext contextChange
  dsimp only
  rcases hfind : h.contexts.find? (·.path == normalizePath s.path) with _ | c
  · simp only [hfind]
    rfl
  · simp only [hfind]
    cases hc : c.started <;> cases hs : s.started <;>
      simp [refresh_eq_self hclear, entryAt]

theorem contextChange_path {name : String} {ctxs : List Context} {s : ContextSpec} {c : Change}
    (h : contextChange name ctxs s = some c) : c.path = normalizePath s.path := by
  unfold contextChange at h
  split at h
  · cases h
    dsimp only
  · split at h
    · cases h
    · cases h
      dsimp only

theorem contextChange_congr {name : String} {ctxs ctxs' : List Context} {s : ContextSpec}
    (h : ctxs.find? (·.path == normalizePath s.path) =
      ctxs'.find? (·.path == normalizePath s.path)) :
    contextChange name ctxs s = contextChange name ctxs' s := by
  unfold contextChange
  rw [h]

theorem find?_filter_listed {ctxs : List Context} {cs : List ContextSpec} {p : String}
    (hp : p ∈ ContextSpec.paths cs) :
    (ctxs.filter fun c => (ContextSpec.paths cs).contains c.path).find? (·.path == p) =
      ctxs.find? (·.path == p) := by
  rw [List.find?_filter]
  congr 1
  funext c
  by_cases hc : c.path = p <;> simp [hc, hp]

theorem addContexts_concat (h : Host) (Q : List ContextSpec) (s : ContextSpec) :
    h.addContexts (Q ++ [s]) = (h.addContexts Q).addContext s.path s.started := by
  simp [Host.addContexts, List.foldl_append]

/-- The context specs of a host, of distinct paths at which no entry of the host's place
stands, add the entries of what each changes against the host's first contexts. -/
theorem foldl_applyContext_snd {base : Host} (hb : base.PathsOnce) :
    ∀ (Q R : List ContextSpec) (log : List Entry), (ContextSpec.paths (Q ++ R)).Nodup →
      (∀ x ∈ log, x.engine = i → x.slot = some j → x.change.path ∉ ContextSpec.paths R) →
      (R.foldl (applyContext i j base.name) ((base.addContexts Q).contexts, log)).2 =
        ((R.filterMap (contextChange base.name base.contexts)).map (entryAt i j)).reverse ++ log
  | Q, [], log, _, _ => rfl
  | Q, s :: R, log, hn, hlog => by
    simp only [ContextSpec.paths, List.map_append, List.map_cons, List.nodup_append,
      List.nodup_cons, List.mem_cons] at hn
    have hsR : normalizePath s.path ∉ ContextSpec.paths R := hn.2.1.1
    have hsQ : normalizePath s.path ∉ ContextSpec.paths Q := fun hm =>
      hn.2.2 _ hm _ (Or.inl rfl) rfl
    have hQ : (base.addContexts Q).PathsOnce := Host.pathsOnce_addContexts hb Q
    have hname : (base.addContexts Q).name = base.name := Host.addContexts_name _ _
    have hclear : ∀ x ∈ log, x.isAt i j (normalizePath s.path) = false := fun x hx => by
      simp only [Entry.isAt, Bool.and_eq_false_iff, beq_eq_false_iff_ne]
      by_cases he : x.engine = i
      · by_cases hsl : x.slot = some j
        · right
          intro hp
          exact hlog x hx he hsl (by simp [hp, ContextSpec.paths])
        · left; right; simpa using hsl
      · left; left; exact he
    have h₁ := @applyContext_fst i j log _ hQ s
    have h₂ := @applyContext_snd i j log (base.addContexts Q) s hclear
    rw [hname] at h₁ h₂
    rw [contextChange_congr (Host.find?_addContexts_of_not_mem hsQ)] at h₂
    have hstep : applyContext i j base.name ((base.addContexts Q).contexts, log) s =
        ((base.addContexts (Q ++ [s])).contexts,
          ((contextChange base.name base.contexts s).map (entryAt i j)).toList ++ log) :=
      Prod.ext (by rw [h₁, addContexts_concat]) h₂
    have hlog' : ∀ x ∈ ((contextChange base.name base.contexts s).map (entryAt i j)).toList ++ log,
        x.engine = i → x.slot = some j → x.change.path ∉ ContextSpec.paths R := by
      intro x hx he hsl
      rcases List.mem_append.1 hx with hx | hx
      · rcases hc : contextChange base.name base.contexts s with _ | c
        · simp [hc] at hx
        · simp only [hc, Option.map_some, Option.toList_some, List.mem_singleton] at hx
          subst hx
          rw [entryAt, contextChange_path hc]
          exact hsR
      · exact fun hm => hlog x hx he hsl (by simp [ContextSpec.paths] at hm ⊢; exact Or.inr hm)
    rw [List.foldl_cons, hstep, foldl_applyContext_snd hb (Q ++ [s]) R _ (by
      simpa [ContextSpec.paths, List.nodup_append] using hn) hlog']
    rcases hc : contextChange base.name base.contexts s with _ | c <;> simp [hc]

theorem goneChanges_nil (h : Host) :
    goneChanges h [] = h.contexts.map fun c => ⟨.removed, h.name, c.path, c.started⟩ := by
  simp [goneChanges, ContextSpec.paths]

/-- Moving one host, at whose place no entry stands, adds the entries of what it reports. -/
theorem syncContexts_snd {h : Host} (hh : h.PathsOnce) {cs : List ContextSpec}
    (hcs : (ContextSpec.paths cs).Nodup) (hlog : ∀ x ∈ log, x.engine = i → x.slot ≠ some j) :
    (syncContexts i j h cs log).2 = ((hostChanges h cs).map (entryAt i j)).reverse ++ log := by
  have hkept : Host.PathsOnce { h with
      contexts := h.contexts.filter fun c => (ContextSpec.paths cs).contains c.path } :=
    (List.filter_sublist.map _).nodup hh
  have hgone : ∀ x ∈ ((goneChanges h cs).map (entryAt i j)).reverse ++ log,
      x.engine = i → x.slot = some j → x.change.path ∉ ContextSpec.paths cs := by
    intro x hx he hsl
    rcases List.mem_append.1 hx with hx | hx
    · rw [List.mem_reverse, List.mem_map] at hx
      obtain ⟨c, hc, rfl⟩ := hx
      simp only [goneChanges, List.mem_map, List.mem_filter] at hc
      obtain ⟨c', ⟨-, hc'⟩, rfl⟩ := hc
      simpa [entryAt] using hc'
    · exact absurd hsl (hlog x hx he)
  have hfold := foldl_applyContext_snd hkept [] cs _ (by simpa using hcs) hgone
  have hpush : (h.contexts.filter fun c => !(ContextSpec.paths cs).contains c.path).foldl
      (fun l c => (⟨⟨.removed, h.name, c.path, c.started⟩, i, some j⟩ : Entry) :: l) log =
      ((goneChanges h cs).map (entryAt i j)).reverse ++ log := by
    rw [foldl_push]
    simp [goneChanges, entryAt, Function.comp_def]
  simp only [syncContexts]
  simp only [ContextSpec.paths] at hfold hpush
  rw [hpush]
  erw [hfold]
  rw [hostChanges, List.map_append, List.reverse_append, List.append_assoc]
  congr 3
  exact List.filterMap_congr fun s hs =>
    contextChange_congr (find?_filter_listed (List.mem_map_of_mem hs))

/-! ### Hosts -/

variable {kept : List Host} {cur : List (String × Nat)} {P : List HostSpec} {hs : HostSpec}

/-- Host places the specs `P` have reported on: the kept hosts of their names, and the new
places after the kept ones. -/
def Reported (kept : List Host) (P : List HostSpec) (j : Nat) : Prop :=
  (∃ h, kept[j]? = some h ∧ h.name ∈ P.map HostSpec.name) ∨
    (kept.length ≤ j ∧ j < (hostsAfter kept P).length)

theorem length_hostsAfter_concat :
    (hostsAfter kept (P ++ [hs])).length =
      (hostsAfter kept P).length + if isNew kept hs then 1 else 0 := by
  by_cases hn : isNew kept hs = true
  · simp [hostsAfter, List.filter_append, hn]
    omega
  · simp [hostsAfter, List.filter_append, hn]

theorem Reported.concat (hr : Reported kept P j) (hs : HostSpec) :
    Reported kept (P ++ [hs]) j := by
  rcases hr with ⟨h, hj, hn⟩ | ⟨hle, hlt⟩
  · exact Or.inl ⟨h, hj, by simp [hn]⟩
  · exact Or.inr ⟨hle, by rw [length_hostsAfter_concat]; omega⟩

theorem pathsOnce_targetHost (hKp : ∀ h ∈ kept, h.PathsOnce) (hs : HostSpec) :
    (targetHost kept hs).PathsOnce := by
  unfold targetHost
  rcases hf : kept.find? (·.name == hs.name) with _ | h
  · simp only [hf, Option.getD_none]
    simp [Host.PathsOnce, Host.empty]
  · simp only [hf, Option.getD_some]
    exact hKp h (List.mem_of_find?_eq_some hf)

/-- The host specs, of distinct names and each listing a path once, add the entries of what
each reports on the host it is applied to, all in the engine. -/
theorem foldl_applyHost_snd (hK : (kept.map Host.name).Nodup) (hKp : ∀ h ∈ kept, h.PathsOnce)
    (hcur : Finds kept cur) :
    ∀ (P R : List HostSpec) (log : List Entry), ((P ++ R).map HostSpec.name).Nodup →
      (∀ hs ∈ R, (ContextSpec.paths hs.contexts).Nodup) →
      (∀ x ∈ log, x.engine = i → ∀ j, x.slot = some j → Reported kept P j) →
      ∃ new, (R.foldl (applyHost i cur) (hostsAfter kept P, log)).2 = new ++ log ∧
        new.map Entry.change =
          (R.flatMap fun hs => hostChanges (targetHost kept hs) hs.contexts).reverse ∧
        ∀ x ∈ new, x.engine = i
  | P, [], log, _, _, _ => ⟨[], rfl, rfl, by simp⟩
  | P, hs :: R, log, hn, hpaths, hlog => by
    have hP : hs.name ∉ P.map HostSpec.name := by
      simp only [List.map_append, List.map_cons, List.nodup_append, List.mem_cons] at hn
      exact fun hm => hn.2.2 _ hm _ (Or.inl rfl) rfl
    obtain ⟨j, hj, hstep⟩ := applyHost_spec (i := i) hK hKp hcur hP log
    -- the place the spec is applied at is one no earlier spec reported on
    have hfresh : ∀ x ∈ log, x.engine = i → x.slot ≠ some j := by
      intro x hx he hsl
      have hlen : kept.length ≤ (hostsAfter kept P).length := by simp [hostsAfter]
      rcases hlog x hx he j hsl with ⟨h, hh, hname⟩ | ⟨hle, hlt⟩
      · rcases hj with ⟨h', hh', hname'⟩ | ⟨rfl, -⟩
        · rw [hh] at hh'
          cases hh'
          exact hP (hname' ▸ hname)
        · have := (List.getElem?_eq_some_iff.1 hh).1
          omega
      · rcases hj with ⟨h', hh', -⟩ | ⟨rfl, -⟩
        · have := (List.getElem?_eq_some_iff.1 hh').1
          omega
        · omega
    have hnow : Reported kept (P ++ [hs]) j := by
      rcases hj with ⟨h, hh, hname⟩ | ⟨rfl, hnot⟩
      · exact Or.inl ⟨h, hh, by simp [hname]⟩
      · refine Or.inr ⟨by simp [hostsAfter], ?_⟩
        rw [length_hostsAfter_concat, if_pos (isNew_iff.2 hnot)]
        omega
    have hsnd := syncContexts_snd (pathsOnce_targetHost hKp hs) (hpaths hs List.mem_cons_self)
      hfresh
    obtain ⟨new, hrun, hchanges, hengine⟩ := foldl_applyHost_snd hK hKp hcur (P ++ [hs]) R
      (((hostChanges (targetHost kept hs) hs.contexts).map (entryAt i j)).reverse ++ log)
      (by simpa using hn) (fun hs' hs'R => hpaths hs' (List.mem_cons_of_mem _ hs'R)) (by
        intro x hx he j' hsl
        rcases List.mem_append.1 hx with hx | hx
        · simp only [List.mem_reverse, List.mem_map, entryAt] at hx
          obtain ⟨c, -, rfl⟩ := hx
          cases hsl
          exact hnow
        · exact (hlog x hx he j' hsl).concat hs)
    refine ⟨new ++ ((hostChanges (targetHost kept hs) hs.contexts).map (entryAt i j)).reverse,
      ?_, ?_, ?_⟩
    · rw [List.foldl_cons, hstep, hsnd, hrun, List.append_assoc]
    · simp [hchanges, List.flatMap_cons, List.reverse_append, Function.comp_def, entryAt]
    · intro x hx
      rcases List.mem_append.1 hx with hx | hx
      · exact hengine x hx
      · simp only [List.mem_reverse, List.mem_map, entryAt] at hx
        obtain ⟨c, -, rfl⟩ := hx
        rfl

theorem foldl_dropped (f : Host → Context → Entry) :
    ∀ (D : List Host) (log : List Entry),
      D.foldl (fun l h => h.contexts.foldl (fun l c => f h c :: l) l) log =
        (D.flatMap fun h => h.contexts.map (f h)).reverse ++ log
  | [], _ => rfl
  | h :: D, log => by
    rw [List.foldl_cons, foldl_push, foldl_dropped f D, List.flatMap_cons, List.reverse_append,
      List.append_assoc]

/-- Moving an engine's hosts, when no entry is in the engine yet, adds the entries of what it
reports, all in the engine. -/
theorem syncHosts_snd {e : Engine} (he : e.WellFormed) {specs : List HostSpec}
    (hS : (specs.map HostSpec.name).Nodup)
    (hpaths : ∀ hs ∈ specs, (ContextSpec.paths hs.contexts).Nodup)
    (hlog : ∀ x ∈ log, x.engine ≠ i) :
    ∃ new, (syncHosts i e specs log).2 = new ++ log ∧
      new.map Entry.change = (engineChanges e.hosts specs).reverse ∧ ∀ x ∈ new, x.engine = i := by
  have hsub : (e.hosts.filter (keeps specs)).Sublist e.hosts := List.filter_sublist
  set dropped := e.hosts.filter fun h => !keeps specs h
  set removals := dropped.flatMap fun h => h.contexts.map fun c =>
    (⟨⟨.removed, h.name, c.path, c.started⟩, i, none⟩ : Entry)
  obtain ⟨new, hrun, hchanges, hengine⟩ := foldl_applyHost_snd (i := i)
    ((hsub.map _).nodup he.names) (fun h hh => he.paths h (hsub.subset hh)) (finds_zipIdx _)
    [] specs (removals.reverse ++ log) (by simpa using hS) hpaths (by
      intro x hx hx' j hsl
      rcases List.mem_append.1 hx with hx | hx
      · simp only [removals, List.mem_reverse, List.mem_flatMap, List.mem_map] at hx
        obtain ⟨h, -, c, -, rfl⟩ := hx
        cases hsl
      · exact absurd hx' (hlog x hx))
  rw [hostsAfter_nil] at hrun
  refine ⟨new ++ removals.reverse, ?_, ?_, ?_⟩
  · simp only [syncHosts]
    rw [foldl_dropped, hrun, List.append_assoc]
  · rw [List.map_append, hchanges, engineChanges, List.reverse_append, List.map_reverse]
    simp [removals, dropped, goneChanges_nil, List.map_flatMap, Function.comp_def]
  · intro x hx
    rcases List.mem_append.1 hx with hx | hx
    · exact hengine x hx
    · simp only [removals, List.mem_reverse, List.mem_flatMap, List.mem_map] at hx
      obtain ⟨h, -, c, -, rfl⟩ := hx
      rfl

/-! ### Engines -/

variable {S : List EngineSpec}

/-- A sync that succeeds collects, engine after engine, what each engine's hosts report. -/
theorem syncEngines_snd (hS : ∀ es ∈ S, es.NamesHostsOnce ∧ es.ListsPathsOnce) :
    ∀ (es : List Engine) (i : Nat) (log : List Entry) {log' : List Entry},
      (∀ e ∈ es, e.WellFormed) → (∀ x ∈ log, x.engine < i) →
      (syncEngines S i es log).2 = .ok log' →
      log'.map Entry.change = (es.flatMap (engineChangesFor S)).reverse ++ log.map Entry.change
  | [], _, log, log', _, _, hok => by
    simp only [syncEngines, Except.ok.injEq] at hok
    simp [hok]
  | e :: rest, i, log, log', hwf, hlog, hok => by
    rcases hr : routeSpec S e with _ | es
    · have hr' : S.reverse.find? (·.route == e.route) = none := hr
      simp [syncEngines, hr'] at hok
    · have hr' : S.reverse.find? (·.route == e.route) = some es := hr
      simp only [syncEngines, hr'] at hok
      obtain ⟨hnames, hpaths⟩ := hS es (routeSpec_mem hr)
      obtain ⟨new, hrun, hchanges, hengine⟩ := syncHosts_snd (i := i) (hwf e List.mem_cons_self)
        hnames hpaths (fun x hx => Nat.ne_of_lt (hlog x hx))
      have ih := syncEngines_snd hS rest (i + 1) _
        (fun x hx => hwf x (List.mem_cons_of_mem _ hx)) (by
          rw [hrun]
          intro x hx
          rcases List.mem_append.1 hx with hx | hx
          · rw [hengine x hx]
            omega
          · have := hlog x hx
            omega) hok
      rw [ih, hrun, List.map_append, hchanges, List.flatMap_cons, List.reverse_append,
        List.append_assoc, engineChangesFor, hr]
      rfl

/-- The changes a successful sync reports are, engine by engine, what each engine's hosts
report. -/
theorem sync_changes {t t' : Topology} {cs : List Change} (ht : ∀ e ∈ t.engines, e.WellFormed)
    (hS : ∀ es ∈ S, es.NamesHostsOnce ∧ es.ListsPathsOnce) (h : t.sync S = (t', .ok cs)) :
    cs = t.engines.flatMap (engineChangesFor S) := by
  unfold Topology.sync at h
  split at h
  · cases h
  simp only [Prod.mk.injEq] at h
  obtain ⟨-, hr⟩ := h
  rcases hse : (syncEngines S 0 t.engines []).2 with _ | log'
  · rw [hse] at hr
    cases hr
  · rw [hse] at hr
    simp only [Except.map, Except.ok.injEq] at hr
    rw [← hr, syncEngines_snd hS t.engines 0 [] ht (by simp) hse]
    simp

/-! ### What the changes are -/

section Diff

variable {e : Engine} {specs : List HostSpec} {h : Host}

/-- The context specs a host of an engine is moved to: those of the spec of its name if the
host stays, none if it is dropped. -/
def wantedBy (specs : List HostSpec) (h : Host) : List ContextSpec :=
  match specOf specs h with
  | some hs => if aliasSet hs.name hs.aliases = h.aliases then hs.contexts else []
  | none => []

theorem moveHost_of_keeps (hk : keeps specs h = true) :
    moveHost specs h = h.resync (wantedBy specs h) := by
  obtain ⟨hs, hspec, haliases⟩ := keeps_iff.1 hk
  simp [moveHost, wantedBy, hspec, haliases]

theorem wantedBy_of_not_keeps (hk : keeps specs h = false) : wantedBy specs h = [] := by
  unfold wantedBy
  split
  · rename_i hs hspec
    rw [if_neg fun haliases => by simp [keeps_iff.2 ⟨hs, hspec, haliases⟩] at hk]
  · rfl

theorem filterMap_eq_map_filter {α β : Type} (p : α → Bool) (f : α → β) (l : List α) :
    l.filterMap (fun a => if p a then some (f a) else none) = (l.filter p).map f := by
  induction l with
  | nil => rfl
  | cons a l ih => by_cases hp : p a <;> simp [hp, ih]

theorem flatMap_filterMap {α β γ : Type} (f : α → Option β) (g : β → List γ) (l : List α) :
    (l.filterMap f).flatMap g = l.flatMap fun a => ((f a).map g).getD [] := by
  induction l with
  | nil => rfl
  | cons a l ih => rcases hf : f a with _ | b <;> simp [hf, ih]

theorem no_other_host (hK : (e.hosts.map Host.name).Nodup) (hS : (specs.map HostSpec.name).Nodup)
    {h' : Host} (hh' : h' ∈ movedHosts e.hosts specs) (hh : h ∈ e.hosts)
    (hk : keeps specs h = false)
    (hn : h'.name = h.name) : h'.aliases ≠ h.aliases := by
  simp only [movedHosts, hostsAfter, List.mem_append, List.mem_map, List.mem_filter] at hh'
  rcases hh' with ⟨h₀, ⟨hh₀, hk₀⟩, rfl⟩ | ⟨hs, ⟨hs₁, -⟩, rfl⟩
  · -- a kept host of the name would be `h` itself
    rw [moveHost_name] at hn
    rw [(List.inj_on_of_nodup_map hK) hh₀ hh hn] at hk₀
    simp [hk₀] at hk
  · -- a new host of the name has the alias set of the spec, which `h` does not have
    intro haliases
    rw [newHost_name] at hn
    have hspec : specOf specs h = some hs := (specOf_eq_some_iff hS).2 ⟨hs₁, hn⟩
    have : keeps specs h = true :=
      keeps_iff.2 ⟨hs, hspec, by simpa [newHost, Host.empty] using haliases⟩
    simp [this] at hk

/-- After moving, the place of a host of the engine holds the flags the host was moved to. -/
theorem flagAt_movedHosts (he : e.WellFormed) (hS : (specs.map HostSpec.name).Nodup)
    (hh : h ∈ e.hosts) (p : String) :
    Engine.flagAt { e with hosts := movedHosts e.hosts specs } h.name h.aliases p =
      ContextSpec.lastFlag p (wantedBy specs h) := by
  cases hk : keeps specs h
  · rw [wantedBy_of_not_keeps hk,
      Engine.flagAt_eq_none fun h' hh' hn => no_other_host he.names hS hh' hh hk hn]
    rfl
  · have hmem : moveHost specs h ∈ movedHosts e.hosts specs :=
      List.mem_append_left _ (List.mem_map_of_mem (List.mem_filter.2 ⟨hh, hk⟩))
    have := Engine.flagAt_of_mem (wellFormed_movedHosts he hS) hmem p
    simp only [moveHost_name, moveHost_aliases] at this
    rw [this, moveHost_of_keeps hk, Host.flag_resync (he.paths h hh)]

/-- The removals between an engine and its moved self are, host by host, the contexts each
host's specs no longer list. -/
theorem removals_movedHosts (he : e.WellFormed) (hS : (specs.map HostSpec.name).Nodup) :
    e.placed.filterMap (Engine.removal { e with hosts := movedHosts e.hosts specs }) =
      e.hosts.flatMap fun h => goneChanges h (wantedBy specs h) := by
  rw [Engine.placed, List.filterMap_flatMap]
  refine List.flatMap_congr fun h hh => ?_
  rw [Host.placed, List.filterMap_map, goneChanges, ← filterMap_eq_map_filter]
  refine List.filterMap_congr fun c _ => ?_
  simp only [Function.comp_apply, Engine.removal, flagAt_movedHosts he hS hh]
  rcases hl : ContextSpec.lastFlag c.path (wantedBy specs h) with _ | b
  · simp [ContextSpec.lastFlag_eq_none_iff.1 hl]
  · have : c.path ∈ ContextSpec.paths (wantedBy specs h) := by
      by_contra hno
      rw [ContextSpec.lastFlag_eq_none_iff.2 hno] at hl
      cases hl
    simp [this]

theorem arrival_eq_contextChange {n : String} {a : List String} {ctxs : List Context}
    {s : ContextSpec}
    (hflag : e.flagAt n a (normalizePath s.path) =
      (ctxs.find? (·.path == normalizePath s.path)).map (·.started)) :
    e.arrival (n, a, ⟨normalizePath s.path, s.started⟩) = contextChange n ctxs s := by
  unfold Engine.arrival contextChange
  simp only
  rw [hflag]
  rcases hf : ctxs.find? (·.path == normalizePath s.path) with _ | c
  · simp only [hf, Option.map_none]
  · simp only [hf, Option.map_some]

/-- A host moved to specs of distinct paths holds one context per spec, and each reports
against the old engine what the spec reports against `ctxs`. -/
theorem arrivals_resync {h₁ : Host} (hh : h₁.PathsOnce) {cs : List ContextSpec}
    (hcs : (ContextSpec.paths cs).Nodup) {ctxs : List Context}
    (hflag : ∀ s ∈ cs, e.flagAt h₁.name h₁.aliases (normalizePath s.path) =
      (ctxs.find? (·.path == normalizePath s.path)).map (·.started)) :
    ((h₁.resync cs).placed.filterMap e.arrival).Perm
      (cs.filterMap (contextChange h₁.name ctxs)) := by
  have hperm := ((Host.resync_perm_specs hh hcs).map fun c => (h₁.name, h₁.aliases, c)).filterMap
    e.arrival
  have hplaced : (h₁.resync cs).placed =
      (h₁.resync cs).contexts.map fun c => (h₁.name, h₁.aliases, c) := by
    rw [Host.placed, Host.resync_name, Host.resync_aliases]
  rw [hplaced]
  refine hperm.trans (List.Perm.of_eq ?_)
  rw [List.map_map, List.filterMap_map]
  exact List.filterMap_congr fun s hs => arrival_eq_contextChange (hflag s hs)

theorem kept_target (he : e.WellFormed) (hS : (specs.map HostSpec.name).Nodup)
    (hh : h ∈ e.hosts.filter (keeps specs)) :
    ∃ hs, specOf specs h = some hs ∧ targetHost (e.hosts.filter (keeps specs)) hs = h ∧
      wantedBy specs h = hs.contexts := by
  obtain ⟨hs, hspec, haliases⟩ := keeps_iff.1 (List.mem_filter.1 hh).2
  have hname : hs.name = h.name := ((specOf_eq_some_iff hS).1 hspec).2
  have hK : ((e.hosts.filter (keeps specs)).map Host.name).Nodup :=
    (List.filter_sublist.map _).nodup he.names
  refine ⟨hs, hspec, ?_, by simp [wantedBy, hspec, haliases]⟩
  rw [targetHost, hname, find?_name_of_mem hK hh, Option.getD_some]

theorem new_target {kept : List Host} (hn : isNew kept hs = true) :
    targetHost kept hs = Host.empty hs.name hs.aliases := by
  rw [targetHost, List.find?_eq_none.2 fun h hh hname => ?_, Option.getD_none]
  exact isNew_iff.1 hn (List.mem_map.2 ⟨h, hh, by simpa using hname⟩)

theorem flagAt_new (hS : (specs.map HostSpec.name).Nodup) (hmem : hs ∈ specs)
    (hn : isNew (e.hosts.filter (keeps specs)) hs = true) (p : String) :
    e.flagAt hs.name (aliasSet hs.name hs.aliases) p = none := by
  refine Engine.flagAt_eq_none (fun h hh hname haliases => isNew_iff.1 hn ?_) p
  have hspec : specOf specs h = some hs := (specOf_eq_some_iff hS).2 ⟨hmem, hname.symm⟩
  have hk : keeps specs h = true := keeps_iff.2 ⟨hs, hspec, haliases.symm⟩
  exact List.mem_map.2 ⟨h, List.mem_filter.2 ⟨hh, hk⟩, hname⟩

theorem flatMap_specs_perm {β : Type} (he : e.WellFormed) (hS : (specs.map HostSpec.name).Nodup)
    (G : HostSpec → List β) :
    (((e.hosts.filter (keeps specs)).flatMap fun h => ((specOf specs h).map G).getD []) ++
      (specs.filter (isNew (e.hosts.filter (keeps specs)))).flatMap G).Perm (specs.flatMap G) := by
  rw [← flatMap_filterMap, ← List.flatMap_append]
  exact (perm_specs he hS).flatMap_right G

/-- What the moved hosts hold, against the old engine, is what each spec reports against the
host it is applied to. -/
theorem arrivals_movedHosts (he : e.WellFormed) (hS : (specs.map HostSpec.name).Nodup)
    (hpaths : ∀ hs ∈ specs, (ContextSpec.paths hs.contexts).Nodup) :
    ((Engine.placed { e with hosts := movedHosts e.hosts specs }).filterMap e.arrival).Perm
      (specs.flatMap fun hs => hs.contexts.filterMap
        (contextChange (targetHost (e.hosts.filter (keeps specs)) hs).name
          (targetHost (e.hosts.filter (keeps specs)) hs).contexts)) := by
  refine List.Perm.trans ?_ (flatMap_specs_perm he hS _)
  simp only [Engine.placed, movedHosts, hostsAfter, List.flatMap_append, List.flatMap_map,
    List.filterMap_append, List.filterMap_flatMap]
  refine List.Perm.append (List.Perm.flatMap_left _ fun h hh => ?_)
    (List.Perm.flatMap_left _ fun hs hs' => ?_)
  · -- a kept host moves to the contexts of its spec
    obtain ⟨hs, hspec, htarget, hwanted⟩ := kept_target he hS hh
    have hmem := List.mem_filter.1 hh
    rw [hspec, Option.map_some, Option.getD_some, moveHost_of_keeps hmem.2, hwanted, htarget]
    exact arrivals_resync (he.paths h hmem.1) (hpaths hs ((specOf_eq_some_iff hS).1 hspec).1)
      fun s _ => Engine.flagAt_of_mem he hmem.1 _
  · -- a new host is built from its spec where the old engine held nothing
    obtain ⟨hmem, hn⟩ := List.mem_filter.1 hs'
    rw [new_target hn]
    exact arrivals_resync (by simp [Host.PathsOnce, Host.empty]) (hpaths hs hmem)
      fun s _ => flagAt_new hS hmem hn _

/-- The removals between an engine and its moved self are the contexts of the dropped hosts and,
spec by spec, the contexts the host it is applied to no longer lists. -/
theorem removals_perm (he : e.WellFormed) (hS : (specs.map HostSpec.name).Nodup) :
    (e.placed.filterMap (Engine.removal { e with hosts := movedHosts e.hosts specs })).Perm
      ((e.hosts.filter fun h => !keeps specs h).flatMap (goneChanges · []) ++
        specs.flatMap fun hs =>
          goneChanges (targetHost (e.hosts.filter (keeps specs)) hs) hs.contexts) := by
  rw [removals_movedHosts he hS]
  refine ((List.filter_append_perm (keeps specs) e.hosts).flatMap_right _).symm.trans ?_
  rw [List.flatMap_append]
  refine List.perm_append_comm.trans (List.Perm.append (List.Perm.of_eq ?_) ?_)
  · -- a dropped host is moved to no contexts
    refine List.flatMap_congr fun h hh => ?_
    rw [wantedBy_of_not_keeps (by simpa using (List.mem_filter.1 hh).2)]
  · -- a spec of a new host removes nothing
    have hnew : (specs.filter (isNew (e.hosts.filter (keeps specs)))).flatMap
        (fun hs => goneChanges (targetHost (e.hosts.filter (keeps specs)) hs) hs.contexts) = [] :=
      List.flatMap_eq_nil_iff.2 fun hs hs' => by
        simp [new_target (List.mem_filter.1 hs').2, goneChanges, Host.empty]
    have hperm := flatMap_specs_perm he hS
      fun hs => goneChanges (targetHost (e.hosts.filter (keeps specs)) hs) hs.contexts
    rw [hnew, List.append_nil] at hperm
    refine List.Perm.trans (List.Perm.of_eq (List.flatMap_congr fun h hh => ?_)) hperm
    obtain ⟨hs, hspec, htarget, hwanted⟩ := kept_target he hS hh
    rw [hspec, hwanted, Option.map_some, Option.getD_some, htarget]

/-- What moving an engine's hosts reports is, up to order, the difference between the engine
and its moved self. -/
theorem engineChanges_perm_diff (he : e.WellFormed) (hS : (specs.map HostSpec.name).Nodup)
    (hpaths : ∀ hs ∈ specs, (ContextSpec.paths hs.contexts).Nodup) :
    (engineChanges e.hosts specs).Perm (e.diff { e with hosts := movedHosts e.hosts specs }) := by
  refine List.Perm.symm ((List.Perm.append (removals_perm he hS)
    (arrivals_movedHosts he hS hpaths)).trans ?_)
  rw [engineChanges, List.append_assoc]
  exact List.Perm.append_left _ (List.flatMap_append_perm _ _ _)

end Diff

theorem engineChangesFor_perm (hS : ∀ es ∈ S, es.NamesHostsOnce ∧ es.ListsPathsOnce)
    {e : Engine} (he : e.WellFormed) {es : EngineSpec} (hr : routeSpec S e = some es) :
    (engineChangesFor S e).Perm (e.diff (moveEngine S e)) := by
  obtain ⟨hnames, hpaths⟩ := hS es (routeSpec_mem hr)
  simp only [engineChangesFor, moveEngine, hr, Option.map_some, Option.getD_some]
  exact engineChanges_perm_diff he hnames hpaths

end Sync

open Sync

/-! ### Topologies -/

variable {t t' : Topology} {S : List EngineSpec} {cs : List Change}

theorem Topology.diff_of_map {f : Engine → Engine} (h : t'.engines = t.engines.map f) :
    t.diff t' = t.engines.flatMap fun e => e.diff (f e) := by
  rw [Topology.diff, h]
  generalize t.engines = es
  induction es with
  | nil => rfl
  | cons e es ih =>
    rw [List.map_cons, List.zip_cons_cons, List.flatMap_cons, List.flatMap_cons, ih]

/-- In a topology holding what specs of distinct routes build, each engine holds what the spec
of its route builds. -/
theorem routeSpec_shape (ht : t.WellFormed)
    (hshape : (t.engines.map Engine.shape).Perm (S.map EngineSpec.shape)) {e : Engine}
    (he : e ∈ t.engines) {es : EngineSpec} (hr : routeSpec S e = some es) : es.shape = e.shape := by
  have hroutes : (S.map EngineSpec.route).Nodup := by
    have hperm := hshape.map Prod.fst
    rw [List.map_map, List.map_map] at hperm
    exact hperm.nodup_iff.1 ht.routes
  obtain ⟨es', hes', hsh⟩ := List.mem_map.1 (hshape.subset (List.mem_map_of_mem he))
  have hroute : es'.route = es.route := (congrArg Prod.fst hsh).trans (routeSpec_route hr).symm
  rw [(List.inj_on_of_nodup_map hroutes) (routeSpec_mem hr) hes' hroute.symm]
  exact hsh

/-- The changes a successful sync reports are, up to order, those between the topology before
and after it. -/
theorem Topology.sync_changes_perm_diff (ht : t.WellFormed)
    (hS : ∀ es ∈ S, es.NamesHostsOnce ∧ es.ListsPathsOnce) (h : t.sync S = (t', .ok cs)) :
    cs.Perm (t.diff t') := by
  obtain ⟨heng, hsome, -⟩ := Topology.sync_ok ht.engines (fun es hes => (hS es hes).1) h
  rw [sync_changes ht.engines hS h, Topology.diff_of_map heng]
  refine List.Perm.flatMap_left _ fun e he => ?_
  obtain ⟨es, hes⟩ := Option.isSome_iff_exists.1 (hsome e he)
  exact engineChangesFor_perm hS (ht.engines e he) hes

/-- A sync to what a topology already holds moves no context. -/
theorem Topology.diff_sync_eq_nil (ht : t.WellFormed) (hS : ∀ es ∈ S, es.NamesHostsOnce)
    (h : t.sync S = (t', .ok cs))
    (hshape : (t.engines.map Engine.shape).Perm (S.map EngineSpec.shape)) : t.diff t' = [] := by
  obtain ⟨heng, hsome, -⟩ := Topology.sync_ok ht.engines hS h
  rw [Topology.diff_of_map heng, List.flatMap_eq_nil_iff]
  intro e he
  obtain ⟨es, hes⟩ := Option.isSome_iff_exists.1 (hsome e he)
  have hmoved : (moveEngine S e).shape = e.shape :=
    (shape_moveEngine hS (ht.engines e he) hes).trans (routeSpec_shape ht hshape he hes)
  exact Engine.diff_eq_nil_of_shape (ht.engines e he) (wellFormed_moveEngine hS (ht.engines e he))
    hmoved.symm

/-- On a topology built from specs and synced any number of times, each time to specs listing
each host name of an engine once, a sync to specs that also list each path of a host once
reports exactly the contexts whose presence or flag it changes, up to order; in particular a
sync to what the topology already holds reports nothing. -/
theorem sync_changes_are_diff {dns : Resolver} {S₀ : List EngineSpec}
    {Ss : List (List EngineSpec)} {t₀ : Topology} (h₀ : Topology.ofSpecs dns S₀ = .ok t₀) (hrun : t₀.Syncs Ss t)
    (hSs : ∀ S' ∈ S₀ :: Ss, ∀ es ∈ S', es.NamesHostsOnce)
    (hS : ∀ es ∈ S, es.NamesHostsOnce ∧ es.ListsPathsOnce) (h : t.sync S = (t', .ok cs)) :
    cs.Perm (t.diff t') ∧
      ((t.engines.map Engine.shape).Perm (S.map EngineSpec.shape) → cs = []) := by
  have ht : t.WellFormed := (hrun.rebuilds
    (Topology.ofSpecs_wellFormed h₀ (hSs S₀ List.mem_cons_self))
    (fun S' hS' => hSs S' (List.mem_cons_of_mem _ hS')) (by rw [Topology.ofSpecs_shapes h₀])).1
  have hperm := Topology.sync_changes_perm_diff ht hS h
  refine ⟨hperm, fun hshape => ?_⟩
  rw [Topology.diff_sync_eq_nil ht (fun es hes => (hS es hes).1) h hshape] at hperm
  exact hperm.eq_nil

/-- Moving a context's flag and listing a new path reports a stop and an addition. -/
theorem sync_changes_are_diff_stop_and_add :
    let S₀ : List EngineSpec := [⟨"", "node1", {}, [⟨"h", [], [⟨"/a", true⟩]⟩]⟩]
    let S₁ : List EngineSpec := [⟨"", "node1", {}, [⟨"h", [], [⟨"/b", true⟩, ⟨"/a", false⟩]⟩]⟩]
    let t₀ : Topology :=
      ⟨[⟨"node1", "node1", ⟨none, 0, .ajp, false⟩, [⟨"h", ["h"], [⟨"/a", true⟩]⟩]⟩]⟩
    let t₁ : Topology :=
      ⟨[⟨"node1", "node1", ⟨none, 0, .ajp, false⟩, [⟨"h", ["h"], [⟨"/a", false⟩, ⟨"/b", true⟩]⟩]⟩]⟩
    let cs : List Change := [⟨.added, "h", "/b", true⟩, ⟨.stopped, "h", "/a", false⟩]
    Topology.ofSpecs Resolver.empty S₀ = .ok t₀ ∧ t₀.Syncs [] t₀ ∧ (∀ S ∈ [S₀], ∀ es ∈ S, es.NamesHostsOnce) ∧
      (∀ es ∈ S₁, es.NamesHostsOnce ∧ es.ListsPathsOnce) ∧ t₀.sync S₁ = (t₁, .ok cs) ∧
      cs.Perm (t₀.diff t₁) ∧
      ((t₀.engines.map Engine.shape).Perm (S₁.map EngineSpec.shape) → cs = []) := by
  intro S₀ S₁ t₀ t₁ cs
  have h₀ : Topology.ofSpecs Resolver.empty S₀ = .ok t₀ := by decide +kernel
  have hSs : ∀ S ∈ [S₀], ∀ es ∈ S, es.NamesHostsOnce := by decide
  have hS : ∀ es ∈ S₁, es.NamesHostsOnce ∧ es.ListsPathsOnce := by decide +kernel
  have h : t₀.sync S₁ = (t₁, .ok cs) := by decide +kernel
  exact ⟨h₀, .nil t₀, hSs, hS, h, sync_changes_are_diff h₀ (.nil t₀) hSs hS h⟩

/-- Without the conditions on the specs the changes are not the difference: a path listed twice
is reported twice, with its last flag, by a sync that changes nothing; a host named twice is
moved twice, reporting the contexts of the first move as added and removed; and of two hosts
built under one name only the last is moved, reporting a context the other already holds as
added. -/
theorem sync_reports_more_than_diff_on_repeated_entries :
    let engine (hosts : List HostSpec) : List EngineSpec := [⟨"", "node1", {}, hosts⟩]
    let topology (hosts : List Host) : Topology :=
      ⟨[⟨"node1", "node1", ⟨none, 0, .ajp, false⟩, hosts⟩]⟩
    let twice : List EngineSpec := engine [⟨"localhost", [], [⟨"/a", true⟩, ⟨"/a", false⟩]⟩]
    let host (path : String) : Host := ⟨"h", ["h"], [⟨path, true⟩]⟩
    let spec (path : String) : HostSpec := ⟨"h", [], [⟨path, true⟩]⟩
    (Topology.ofSpecs Resolver.empty twice = .ok (topology [⟨"localhost", ["localhost"], [⟨"/a", false⟩]⟩]) ∧
      (topology [⟨"localhost", ["localhost"], [⟨"/a", false⟩]⟩]).sync twice =
        (topology [⟨"localhost", ["localhost"], [⟨"/a", false⟩]⟩],
          .ok [⟨.started, "localhost", "/a", false⟩, ⟨.stopped, "localhost", "/a", false⟩]) ∧
      (topology [⟨"localhost", ["localhost"], [⟨"/a", false⟩]⟩]).diff
        (topology [⟨"localhost", ["localhost"], [⟨"/a", false⟩]⟩]) = []) ∧
    (Topology.ofSpecs Resolver.empty (engine [spec "/a"]) = .ok (topology [host "/a"]) ∧
      (topology [host "/a"]).sync (engine [spec "/x", spec "/y"]) =
        (topology [host "/y"], .ok [⟨.removed, "h", "/a", true⟩, ⟨.added, "h", "/x", true⟩,
          ⟨.removed, "h", "/x", true⟩, ⟨.added, "h", "/y", true⟩]) ∧
      (topology [host "/a"]).diff (topology [host "/y"]) =
        [⟨.removed, "h", "/a", true⟩, ⟨.added, "h", "/y", true⟩]) ∧
    (Topology.ofSpecs Resolver.empty (engine [spec "/a", spec "/b"]) = .ok (topology [host "/a", host "/b"]) ∧
      (topology [host "/a", host "/b"]).sync (engine [spec "/a"]) =
        (topology [host "/a", host "/a"],
          .ok [⟨.removed, "h", "/b", true⟩, ⟨.added, "h", "/a", true⟩]) ∧
      (topology [host "/a", host "/b"]).diff (topology [host "/a", host "/a"]) =
        [⟨.removed, "h", "/b", true⟩]) := by
  intro engine topology twice host spec
  refine ⟨⟨?_, ?_, ?_⟩, ⟨?_, ?_, ?_⟩, ?_, ?_, ?_⟩
  all_goals decide +kernel

end ClusterAgent
