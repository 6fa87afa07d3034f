import ClusterAgent.Topology.Sync
import ClusterAgent.Proofs.Aliases
import Mathlib.Data.List.Perm.Basic

/-!
# The contexts of a host

Deploying context specs one after the other (`Host.addContexts`) leaves a host with one context
per path, the one the last spec of that path asks for (`Host.mem_addContexts`). A sync moves a
host it keeps by dropping the contexts no spec lists and deploying the specs (`Host.resync`,
`Sync.syncContexts_fst`), so the host ends with the contexts a host built from the same specs
has, in another order (`Host.resync_perm_ofSpec`).
-/

namespace ClusterAgent

theorem find?_key_of_mem {α β : Type} [BEq β] [LawfulBEq β] {key : α → β} {l : List α}
    (hnd : (l.map key).Nodup) {a : α} (ha : a ∈ l) : l.find? (key · == key a) = some a := by
  rcases hf : l.find? (key · == key a) with _ | b
  · exact absurd (List.find?_eq_none.1 hf a ha) (by simp)
  · have hkey : key b = key a := by simpa using List.find?_some hf
    rw [(List.inj_on_of_nodup_map hnd) (List.mem_of_find?_eq_some hf) ha hkey]

/-- The flag the last spec listing `path` asks for, if a spec lists it. -/
def ContextSpec.lastFlag (path : String) : List ContextSpec → Option Bool
  | [] => none
  | s :: cs => (lastFlag path cs).or (if normalizePath s.path = path then some s.started else none)

/-- The normalised paths a list of context specs names. -/
def ContextSpec.paths (cs : List ContextSpec) : List String := cs.map fun s => normalizePath s.path

namespace ContextSpec

theorem lastFlag_eq_none_iff {p : String} {cs : List ContextSpec} :
    lastFlag p cs = none ↔ p ∉ paths cs := by
  induction cs with
  | nil => simp [lastFlag, paths]
  | cons s cs ih =>
    simp only [lastFlag, Option.or_eq_none_iff, ih, paths, List.map_cons, List.mem_cons]
    by_cases hs : normalizePath s.path = p <;> simp [hs, Ne.symm]

/-- Where each path is listed once, the last spec of a path is the only one. -/
theorem lastFlag_eq_some_iff {p : String} {b : Bool} {cs : List ContextSpec}
    (hcs : (paths cs).Nodup) :
    lastFlag p cs = some b ↔ ∃ s ∈ cs, normalizePath s.path = p ∧ s.started = b := by
  induction cs with
  | nil => simp [lastFlag]
  | cons s cs ih =>
    simp only [paths, List.map_cons, List.nodup_cons] at hcs
    simp only [lastFlag, List.mem_cons, exists_eq_or_imp]
    by_cases hs : normalizePath s.path = p
    · have hnone : lastFlag p cs = none := lastFlag_eq_none_iff.2 (hs ▸ hcs.1)
      simp only [hnone, hs, Option.none_or, if_true, Option.some.injEq, true_and]
      constructor
      · exact Or.inl
      · rintro (h | ⟨s', hs', hp, -⟩)
        · exact h
        · exact absurd (hp ▸ List.mem_map_of_mem hs') (hs ▸ hcs.1)
    · simp [hs, ih hcs.2]

end ContextSpec

namespace Host

/-- The paths of a host's contexts are distinct. -/
def PathsOnce (h : Host) : Prop := (h.contexts.map Context.path).Nodup

/-- Deploys context specs in order. -/
def addContexts (h : Host) (cs : List ContextSpec) : Host :=
  cs.foldl (fun h c => h.addContext c.path c.started) h

theorem ofSpec_eq_addContexts (hs : HostSpec) :
    ofSpec hs = (empty hs.name hs.aliases).addContexts hs.contexts := rfl

theorem addContexts_cons (h : Host) (c : ContextSpec) (cs : List ContextSpec) :
    h.addContexts (c :: cs) = (h.addContext c.path c.started).addContexts cs := rfl

@[simp] theorem addContexts_name (h : Host) (cs : List ContextSpec) :
    (h.addContexts cs).name = h.name := by
  induction cs generalizing h with
  | nil => rfl
  | cons c cs ih => rw [addContexts_cons, ih, addContext_name]

@[simp] theorem addContexts_aliases (h : Host) (cs : List ContextSpec) :
    (h.addContexts cs).aliases = h.aliases := by
  induction cs generalizing h with
  | nil => rfl
  | cons c cs ih => rw [addContexts_cons, ih, addContext_aliases]

/-- Deploying at a path replaces the contexts there by the new one and keeps the others. -/
theorem mem_addContext {h : Host} {p : String} {b : Bool} {c : Context} :
    c ∈ (h.addContext p b).contexts ↔
      (c ∈ h.contexts ∧ c.path ≠ normalizePath p) ∨ c = ⟨normalizePath p, b⟩ := by
  unfold addContext
  dsimp only
  generalize normalizePath p = np
  split
  · rename_i hany
    obtain ⟨y, hy, hyp⟩ := List.any_eq_true.1 hany
    simp only [List.mem_map]
    constructor
    · rintro ⟨x, hx, rfl⟩
      by_cases hxp : x.path = np <;> simp [hxp, hx]
    · rintro (⟨hc, hcp⟩ | rfl)
      · exact ⟨c, hc, by simp [hcp]⟩
      · exact ⟨y, hy, by simp_all⟩
  · rename_i hany
    simp only [List.any_eq_true, beq_iff_eq, not_exists, not_and] at hany
    simp only [List.mem_append, List.mem_singleton]
    constructor
    · rintro (hc | rfl)
      · exact Or.inl ⟨hc, hany c hc⟩
      · exact Or.inr rfl
    · rintro (⟨hc, -⟩ | rfl)
      · exact Or.inl hc
      · exact Or.inr rfl

theorem pathsOnce_addContext {h : Host} (hh : h.PathsOnce) (p : String) (b : Bool) :
    (h.addContext p b).PathsOnce := by
  unfold PathsOnce at hh ⊢
  unfold addContext
  dsimp only
  split
  · -- the replaced context keeps its path, so the paths do not change
    rw [List.map_map]
    convert hh using 1
    refine List.map_congr_left fun x _ => ?_
    by_cases hx : x.path = normalizePath p <;> simp [hx]
  · rename_i hany
    simp only [List.any_eq_true, beq_iff_eq, not_exists, not_and] at hany
    simpa [List.nodup_append, hh] using hany

theorem pathsOnce_addContexts {h : Host} (hh : h.PathsOnce) (cs : List ContextSpec) :
    (h.addContexts cs).PathsOnce := by
  induction cs generalizing h with
  | nil => exact hh
  | cons c cs ih => exact ih (pathsOnce_addContext hh _ _)

/-- After deploying specs, a host holds at each listed path the context the last spec of the
path asks for, and elsewhere what it held before. -/
theorem mem_addContexts {h : Host} {cs : List ContextSpec} {c : Context} :
    c ∈ (h.addContexts cs).contexts ↔
      (c ∈ h.contexts ∧ ContextSpec.lastFlag c.path cs = none) ∨
        ContextSpec.lastFlag c.path cs = some c.started := by
  induction cs generalizing h with
  | nil => simp [addContexts, ContextSpec.lastFlag]
  | cons s cs ih =>
    rw [addContexts_cons, ih, mem_addContext]
    simp only [ContextSpec.lastFlag]
    rcases hl : ContextSpec.lastFlag c.path cs with _ | b
    · by_cases hp : normalizePath s.path = c.path
      · obtain ⟨cp, cb⟩ := c
        simp only at hp
        subst hp
        simp [eq_comm]
      · have hne : c ≠ ⟨normalizePath s.path, s.started⟩ := fun hc => hp (by rw [hc])
        simp [hp, Ne.symm hp, hne]
    · simp

theorem mem_ofSpec {hs : HostSpec} {c : Context} :
    c ∈ (ofSpec hs).contexts ↔ ContextSpec.lastFlag c.path hs.contexts = some c.started := by
  simp [ofSpec_eq_addContexts, mem_addContexts, empty]

theorem pathsOnce_ofSpec (hs : HostSpec) : (ofSpec hs).PathsOnce :=
  pathsOnce_addContexts (by simp [PathsOnce, empty]) _

/-- A host moved to context specs: contexts no spec lists are dropped, then the specs are
deployed. -/
def resync (h : Host) (cs : List ContextSpec) : Host :=
  { h with
    contexts := h.contexts.filter fun c => (ContextSpec.paths cs).contains c.path }.addContexts cs

@[simp] theorem resync_name (h : Host) (cs : List ContextSpec) : (h.resync cs).name = h.name := by
  simp [resync]

@[simp] theorem resync_aliases (h : Host) (cs : List ContextSpec) :
    (h.resync cs).aliases = h.aliases := by
  simp [resync]

theorem pathsOnce_resync {h : Host} (hh : h.PathsOnce) (cs : List ContextSpec) :
    (h.resync cs).PathsOnce :=
  pathsOnce_addContexts (h := { h with contexts := _ }) ((List.filter_sublist.map _).nodup hh) cs

theorem mem_resync {h : Host} {cs : List ContextSpec} {c : Context} :
    c ∈ (h.resync cs).contexts ↔ ContextSpec.lastFlag c.path cs = some c.started := by
  rw [resync, mem_addContexts]
  constructor
  · rintro (⟨hc, hnone⟩ | hsome)
    · simp only [List.mem_filter, List.contains_iff_mem] at hc
      exact absurd hc.2 (ContextSpec.lastFlag_eq_none_iff.1 hnone)
    · exact hsome
  · exact Or.inr

theorem nodup_of_pathsOnce {h : Host} (hh : h.PathsOnce) : h.contexts.Nodup :=
  List.Nodup.of_map _ hh

theorem resync_perm_ofSpec {h : Host} (hh : h.PathsOnce) (hs : HostSpec) :
    (h.resync hs.contexts).contexts.Perm (ofSpec hs).contexts :=
  (List.perm_ext_iff_of_nodup (nodup_of_pathsOnce (pathsOnce_resync hh _))
    (nodup_of_pathsOnce (pathsOnce_ofSpec hs))).2 fun _ => by rw [mem_resync, mem_ofSpec]

end Host

namespace Sync

variable {i j : Nat} {log : List Entry}

/-- One context spec does to the contexts what deploying it does, on a host whose paths are
distinct: a spec that changes nothing leaves the list as it is. -/
theorem applyContext_fst {h : Host} (hh : h.PathsOnce) (s : ContextSpec) :
    (applyContext i j h.name (h.contexts, log) s).1 = (h.addContext s.path s.started).contexts := by
  have hset : (h.contexts.map fun x => if x.path == normalizePath s.path then
        { x with started := s.started } else x) =
      h.contexts.map fun x => if x.path == normalizePath s.path then
        ⟨normalizePath s.path, s.started⟩ else x :=
    List.map_congr_left fun x _ => by by_cases hx : x.path = normalizePath s.path <;> simp [hx]
  unfold applyContext Host.addContext
  dsimp only
  generalize normalizePath s.path = np at hset ⊢
  rcases hfind : h.contexts.find? (·.path == np) with _ | c
  · have hany : h.contexts.any (·.path == np) = false := by
      simpa [List.find?_eq_none] using hfind
    simp only [hfind, hany]
    rfl
  · have hc := List.mem_of_find?_eq_some hfind
    have hcp : c.path = np := by simpa using List.find?_some hfind
    have hany : h.contexts.any (·.path == np) = true :=
      List.any_eq_true.2 ⟨c, hc, by simp [hcp]⟩
    simp only [hfind, hany, if_true, ← hset]
    split_ifs with hon hoff
    · rfl
    · rfl
    have hflag : c.started = s.started := by
      cases hb : c.started <;> cases hs : s.started <;> simp_all
    rw [hset]
    conv_lhs => rw [← List.map_id h.contexts]
    refine List.map_congr_left fun x hx => ?_
    by_cases hxp : x.path = np
    · have hxc : x = c := (List.inj_on_of_nodup_map hh) hx hc (hxp.trans hcp.symm)
      subst hxc
      simp only [hxp, beq_self_eq_true, if_true, id_eq]
      rw [← hxp, ← hflag]
    · simp [hxp]

theorem foldl_applyContext_fst {h : Host} (hh : h.PathsOnce) (cs : List ContextSpec) :
    (cs.foldl (applyContext i j h.name) (h.contexts, log)).1 = (h.addContexts cs).contexts := by
  induction cs generalizing h log with
  | nil => rfl
  | cons s cs ih =>
    have hstep : applyContext i j h.name (h.contexts, log) s =
        ((h.addContext s.path s.started).contexts,
          (applyContext i j h.name (h.contexts, log) s).2) :=
      Prod.ext (applyContext_fst hh s) rfl
    rw [List.foldl_cons, hstep, Host.addContexts_cons, ← ih (Host.pathsOnce_addContext hh _ _),
      Host.addContext_name]

theorem syncContexts_fst {h : Host} (hh : h.PathsOnce) (cs : List ContextSpec) :
    (syncContexts i j h cs log).1 = h.resync cs := by
  have hkept : Host.PathsOnce { h with
      contexts := h.contexts.filter fun c => (ContextSpec.paths cs).contains c.path } :=
    (List.filter_sublist.map _).nodup hh
  simp only [syncContexts]
  erw [foldl_applyContext_fst hkept]
  rw [show h.resync cs =
      ⟨(h.resync cs).name, (h.resync cs).aliases, (h.resync cs).contexts⟩ from rfl,
    Host.resync_name, Host.resync_aliases]
  rfl

end Sync

end ClusterAgent
