import ClusterAgent.Topology.Basic
import Mathlib.Data.List.Nodup
import Mathlib.Data.String.Basic

/-!
# Alias sets

A host's aliases form a set that carries the host's name. `aliasSet` sorts the name and the
non-empty aliases in byte order and then drops adjacent repeats; on a sorted list that leaves no
repeat at all (`nodup_aliasSet`), so the set is strictly sorted (`aliasSet_sorted`), and the name
survives (`mem_aliasSet`). Deploying contexts never touches a host's name or aliases, so every
host of a topology built from specs has such an alias set (`Topology.hasAliasSet_of_ofSpecs`).

A proxy reports aliases as bytes; since UTF-8 encoding is injective, the encoded alias set is
still free of repeats (`Host.HasAliasSet.nodup_bytes`).
-/

namespace ClusterAgent

theorem ByteArray.toList_loop (bs : ByteArray) (i : Nat) (r : List UInt8) :
    ByteArray.toList.loop bs i r = r.reverse ++ bs.data.toList.drop i := by
  fun_induction ByteArray.toList.loop bs i r with
  | case1 i r hi ih =>
    rw [ih]
    have : bs.data.toList.drop i = bs.get! i :: bs.data.toList.drop (i + 1) := by
      rw [List.drop_eq_getElem_cons (by simpa using hi)]
      simp only [Array.getElem_toList, List.cons.injEq, and_true, ByteArray.get!]
      exact (getElem!_pos bs.data i (by simpa using hi)).symm
    simp [this]
  | case2 i r hi =>
    simp [List.drop_eq_nil_of_le (by simpa using hi : bs.data.toList.length ≤ i)]

theorem ByteArray.toList_eq (bs : ByteArray) : bs.toList = bs.data.toList := by
  simp [ByteArray.toList, ByteArray.toList_loop]

theorem Bytes.ofString_injective : Function.Injective Bytes.ofString := by
  intro s t h
  apply String.toByteArray_inj.mp
  apply ByteArray.ext
  apply Array.toList_inj.mp
  simpa [Bytes.ofString, ByteArray.toList_eq] using h

theorem mem_dropRepeats (a : String) (l : List String) : a ∈ dropRepeats l ↔ a ∈ l := by
  fun_induction dropRepeats l with
  | case1 b rest ih => simp [ih]
  | case2 b c rest _ ih => simp [ih]
  | case3 => rfl

theorem nodup_dropRepeats {l : List String} (hl : l.Pairwise (· ≤ ·)) : (dropRepeats l).Nodup := by
  fun_induction dropRepeats l with
  | case1 b rest ih => exact ih (List.pairwise_cons.1 hl).2
  | case2 b c rest hbc ih =>
    have htail := (List.pairwise_cons.1 hl).2
    refine List.nodup_cons.2 ⟨fun hb => ?_, ih htail⟩
    rw [mem_dropRepeats, List.mem_cons] at hb
    rcases hb with rfl | hb
    · exact hbc rfl
    · have hcb : c ≤ b := (List.pairwise_cons.1 htail).1 b hb
      exact hbc (String.le_antisymm ((List.pairwise_cons.1 hl).1 c (by simp)) hcb)
  | case3 l hl₂ =>
    rcases l with _ | ⟨b, _ | ⟨c, rest⟩⟩
    · exact List.nodup_nil
    · simp
    · exact absurd rfl (hl₂ b c rest)

theorem pairwise_sortStrings (l : List String) : (sortStrings l).Pairwise (· ≤ ·) := by
  have h : (l.mergeSort fun a b : String => decide (a ≤ b)).Pairwise
      (fun a b => decide (a ≤ b) = true) :=
    List.pairwise_mergeSort
      (fun a b c hab hbc => by simpa using String.le_trans (by simpa using hab) (by simpa using hbc))
      (fun a b => by simpa using String.le_total a b) l
  simpa [sortStrings] using h

theorem mem_sortStrings (a : String) (l : List String) : a ∈ sortStrings l ↔ a ∈ l :=
  List.mem_mergeSort

theorem nodup_aliasSet (name : String) (aliases : List String) : (aliasSet name aliases).Nodup :=
  nodup_dropRepeats (pairwise_sortStrings _)

theorem mem_aliasSet (a name : String) (aliases : List String) :
    a ∈ aliasSet name aliases ↔ a = name ∨ (a ∈ aliases ∧ a ≠ "") := by
  simp [aliasSet, mem_dropRepeats, mem_sortStrings]

theorem dropRepeats_sublist (l : List String) : (dropRepeats l).Sublist l := by
  fun_induction dropRepeats l with
  | case1 b rest ih => exact ih.cons b
  | case2 b c rest _ ih => exact ih.cons_cons b
  | case3 => exact List.Sublist.refl _

theorem aliasSet_sorted (name : String) (aliases : List String) :
    (aliasSet name aliases).Pairwise (· < ·) := by
  have hle : (aliasSet name aliases).Pairwise (· ≤ ·) :=
    (pairwise_sortStrings _).sublist (dropRepeats_sublist _)
  exact (hle.and (nodup_aliasSet name aliases)).imp fun h => lt_of_le_of_ne h.1 h.2

/-- A host whose aliases form a set that carries its name. -/
structure Host.HasAliasSet (h : Host) : Prop where
  name_mem : h.name ∈ h.aliases
  nodup : h.aliases.Nodup

theorem Host.HasAliasSet.nodup_bytes {h : Host} (hh : h.HasAliasSet) :
    (h.aliases.map Bytes.ofString).Nodup :=
  List.Nodup.map Bytes.ofString_injective hh.nodup

@[simp] theorem Host.addContext_name (h : Host) (path : String) (started : Bool) :
    (h.addContext path started).name = h.name := by
  unfold addContext; dsimp only; split <;> rfl

@[simp] theorem Host.addContext_aliases (h : Host) (path : String) (started : Bool) :
    (h.addContext path started).aliases = h.aliases := by
  unfold addContext; dsimp only; split <;> rfl

theorem Host.ofSpec_hasAliasSet (hs : HostSpec) : (Host.ofSpec hs).HasAliasSet := by
  have keep : ∀ (cs : List ContextSpec) (h : Host),
      (cs.foldl (fun h c => h.addContext c.path c.started) h).name = h.name ∧
        (cs.foldl (fun h c => h.addContext c.path c.started) h).aliases = h.aliases := by
    intro cs
    induction cs with
    | nil => simp
    | cons c cs ih => intro h; simp [ih]
  obtain ⟨hn, ha⟩ := keep hs.contexts (Host.empty hs.name hs.aliases)
  refine ⟨?_, ?_⟩
  · rw [Host.ofSpec, hn, ha]
    exact (mem_aliasSet _ _ _).2 (Or.inl rfl)
  · rw [Host.ofSpec, ha]
    exact nodup_aliasSet _ _

theorem Topology.mem_buildEngines {dns : Resolver} : ∀ {seen : List String}
    {specs : List EngineSpec} {es : List Engine}, buildEngines dns seen specs = .ok es →
      ∀ e ∈ es, ∃ spec ∈ specs, Engine.ofSpec dns spec = .ok e
  | _, [], es, h, e, he => by
    simp only [buildEngines, Except.ok.injEq] at h
    simp [← h] at he
  | seen, spec :: specs, es, h, e, he => by
    simp only [buildEngines] at h
    split at h
    · cases h
    split at h
    · cases h
    split at h
    · cases h
    rename_i e₀ h₀
    split at h
    · cases h
    rename_i more hmore
    simp only [Except.ok.injEq] at h
    subst h
    rcases List.mem_cons.1 he with rfl | he
    · exact ⟨spec, List.mem_cons_self, h₀⟩
    · obtain ⟨s, hs, hse⟩ := mem_buildEngines hmore e he
      exact ⟨s, List.mem_cons_of_mem _ hs, hse⟩

theorem Topology.ofSpecs_eq_ok {dns : Resolver} {specs : List EngineSpec} {t : Topology}
    (ht : Topology.ofSpecs dns specs = .ok t) :
    ∃ es, buildEngines dns [] specs = .ok es ∧ t = ⟨es⟩ := by
  unfold ofSpecs at ht
  cases hb : buildEngines dns [] specs with
  | error err => simp [hb, Except.map] at ht
  | ok es =>
    simp only [hb, Except.map, Except.ok.injEq] at ht
    exact ⟨es, rfl, ht.symm⟩

/-- Every host of a topology built from specs is built from one of them. -/
theorem Topology.exists_ofSpec_of_mem {dns : Resolver} {specs : List EngineSpec} {t : Topology}
    (ht : Topology.ofSpecs dns specs = .ok t) {e : Engine} (he : e ∈ t.engines) {h : Host}
    (hh : h ∈ e.hosts) : ∃ hs, h = Host.ofSpec hs := by
  obtain ⟨es, hes, rfl⟩ := ofSpecs_eq_ok ht
  obtain ⟨spec, -, hspec⟩ := mem_buildEngines hes e he
  unfold Engine.ofSpec at hspec
  split at hspec
  · cases hspec
  simp only [Except.ok.injEq] at hspec
  subst hspec
  obtain ⟨hs, -, rfl⟩ := List.mem_map.1 hh
  exact ⟨hs, rfl⟩

theorem Topology.hasAliasSet_of_ofSpecs {dns : Resolver} {specs : List EngineSpec}
    {t : Topology} (ht : Topology.ofSpecs dns specs = .ok t) : ∀ e ∈ t.engines, ∀ h ∈ e.hosts, h.HasAliasSet := by
  intro e he h hh
  obtain ⟨hs, rfl⟩ := exists_ofSpec_of_mem ht he hh
  exact Host.ofSpec_hasAliasSet hs

end ClusterAgent
