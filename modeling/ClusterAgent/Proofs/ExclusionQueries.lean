import ClusterAgent.Topology.Exclusions
import Mathlib.Control.Monad.Basic

/-!
# Which contexts the exclusions exclude

An exclusion entry is read into a host (`*` when it names none) and a path in canonical form: the
path normalised, `ROOT` read as `/`, and a leading `/` added. A query normalises its path and
does nothing more. So a query is excluded exactly when some entry has host `*` or the query's
host and the query's normal path is that entry's canonical path; as canonical paths start with
`/`, that is when the normal path starts with `/` and some such entry has the canonical form of
the query's path (`Exclusions.excludes_iff_entry`).

A query path that, trimmed, does not start with `/` is therefore never excluded, not even by the
entry that spells it: `other:status` excludes `/status` of host `other` but not `status`
(`Exclusions.entry_misses_relative_query`), and `ROOT` excludes the root but not a context
whose path is `ROOT`.
-/

namespace ClusterAgent.Exclusions

open Bytes

/-! ### Canonical paths -/

theorem canonicalPath_head (p : Bytes) : (canonicalPath p).head? = some 0x2F := by
  simp only [canonicalPath]
  generalize (if Bytes.normalizePath p = ofString "ROOT" then [0x2F] else Bytes.normalizePath p) = q
  split
  · rename_i h
    simpa using h
  · rfl

theorem canonicalPath_of_head {p : Bytes} (h : (Bytes.normalizePath p).head? = some 0x2F) :
    canonicalPath p = Bytes.normalizePath p := by
  have hroot : Bytes.normalizePath p ≠ ofString "ROOT" := fun e => by
    rw [e] at h
    exact absurd h (by decide +kernel)
  simp only [canonicalPath, if_neg hroot, h]
  rfl

/-! ### What the entries store -/

theorem lookup_map_of_fst {f : Bytes × List Bytes → Bytes × List Bytes} (hf : ∀ e, (f e).1 = e.1)
    (l : List (Bytes × List Bytes)) (k : Bytes) :
    (l.map f).lookup k = (l.lookup k).map fun ps => (f (k, ps)).2 := by
  induction l with
  | nil => rfl
  | cons e l ih =>
    obtain ⟨h, ps⟩ := e
    have hfe : f (h, ps) = (h, (f (h, ps)).2) := Prod.ext (hf _) rfl
    rw [List.map_cons, hfe, List.lookup_cons, List.lookup_cons]
    by_cases hk : k = h
    · subst hk
      simp
    · simp [beq_false_of_ne hk, ih]

/-- Inserting adds a path under one host, once, and changes nothing else. -/
theorem pathsOf_insert (ex : Exclusions) (h p k : Bytes) :
    (ex.insert h p).pathsOf k =
      if k = h ∧ (ex.pathsOf k).contains p = false then ex.pathsOf k ++ [p] else ex.pathsOf k := by
  unfold insert pathsOf
  split
  · rename_i hany
    dsimp only
    rw [lookup_map_of_fst (fun e => by split <;> rfl)]
    by_cases hk : k = h
    · subst hk
      obtain ⟨e, he, hek⟩ := List.any_eq_true.mp hany
      obtain ⟨ps, hps⟩ : ∃ ps, ex.entries.lookup k = some ps := Option.isSome_iff_exists.mp
        (List.lookup_isSome_iff.mpr ⟨e, he, by rw [beq_iff_eq] at hek ⊢; exact hek.symm⟩)
      by_cases hc : p ∈ ps <;> simp [hps, hc]
    · cases ex.entries.lookup k <;> simp [hk]
  · rename_i hany
    rw [Bool.not_eq_true] at hany
    dsimp only
    have hnone : ex.entries.lookup h = none := by
      rw [List.lookup_eq_none_iff]
      intro e he
      rw [bne_iff_ne]
      intro hc
      exact List.any_eq_false.mp hany e he (by rw [hc]; exact beq_self_eq_true _)
    rw [List.lookup_append]
    by_cases hk : k = h
    · subst hk
      simp [hnone]
    · cases ex.entries.lookup k <;> simp [List.lookup_cons, beq_false_of_ne hk, hk]

theorem contains_pathsOf_insert (ex : Exclusions) (h p k q : Bytes) :
    ((ex.insert h p).pathsOf k).contains q = ((ex.pathsOf k).contains q || (k == h && q == p)) := by
  rw [pathsOf_insert]
  by_cases hk : k = h <;> by_cases hq : q = p <;> by_cases hc : (ex.pathsOf k).contains p = true <;>
    simp_all
/-- Reading entries one after another, a host keeps a path exactly when it kept it before or
some entry reads as that host and path. -/
theorem contains_pathsOf_foldlM {f : Exclusions → Bytes → Except ExclusionError Exclusions}
    (hf : ∀ ex r, f ex r = (readEntry r).map fun o => o.elim ex fun e => ex.insert e.1 e.2)
    {raw : List Bytes} {ex₀ ex : Exclusions} (hex : raw.foldlM f ex₀ = .ok ex) (k q : Bytes) :
    (ex.pathsOf k).contains q = true ↔
      (ex₀.pathsOf k).contains q = true ∨ ∃ r ∈ raw, readEntry r = .ok (some (k, q)) := by
  induction raw generalizing ex₀ with
  | nil =>
    cases hex
    simp
  | cons r raw ih =>
    rw [List.foldlM_cons, hf] at hex
    cases hr : readEntry r with
    | error e => simp [hr, Except.map, bind, Except.bind] at hex
    | ok o =>
      simp only [hr, Except.map, bind, Except.bind] at hex
      rw [ih hex]
      simp only [List.mem_cons, or_and_right, exists_or, exists_eq_left, hr]
      cases o with
      | none => simp
      | some e =>
        obtain ⟨h, p⟩ := e
        simp only [Option.elim, contains_pathsOf_insert, Bool.or_eq_true, Bool.and_eq_true, beq_iff_eq,
          Except.ok.injEq, Option.some.injEq, Prod.mk.injEq]
        constructor
        · rintro ((h1 | ⟨rfl, rfl⟩) | h2)
          · exact .inl h1
          · exact .inr (.inl ⟨rfl, rfl⟩)
          · exact .inr (.inr h2)
        · rintro (h1 | ⟨rfl, rfl⟩ | h2)
          · exact .inl (.inl h1)
          · exact .inl (.inr ⟨rfl, rfl⟩)
          · exact .inr h2

theorem contains_pathsOf_ofEntries {raw : List Bytes} {ex : Exclusions} (hex : ofEntries raw = .ok ex)
    (k q : Bytes) : (ex.pathsOf k).contains q = true ↔ ∃ r ∈ raw, readEntry r = .ok (some (k, q)) := by
  unfold ofEntries at hex
  rw [contains_pathsOf_foldlM (fun ex r => by cases readEntry r with
    | error => rfl
    | ok o => cases o <;> rfl) hex]
  simp [pathsOf]

theorem readEntry_head {r k q : Bytes} (h : readEntry r = .ok (some (k, q))) : q.head? = some 0x2F := by
  simp only [readEntry] at h
  split at h
  · cases h
  · split at h
    · cases h
      exact canonicalPath_head _
    · split at h
      · cases h
      · cases h
        exact canonicalPath_head _

/-! ### Queries -/

/-- A query is excluded exactly when its normal path starts with `/` and some entry reads as
the query's host, or `*`, and the canonical form of the query's path. -/
theorem excludes_iff_entry {raw : List Bytes} {ex : Exclusions} (hex : ofEntries raw = .ok ex)
    (host path : Bytes) :
    ex.excludesBytes host path = true ↔
      (Bytes.normalizePath path).head? = some 0x2F ∧
        ∃ r ∈ raw, ∃ k, readEntry r = .ok (some (k, canonicalPath path)) ∧ (k = anyHost ∨ k = host) := by
  -- every stored path is canonical, so a normal path matches one only if it starts with `/`
  have hread : ∀ k, (∃ r ∈ raw, readEntry r = .ok (some (k, Bytes.normalizePath path))) ↔
      (Bytes.normalizePath path).head? = some 0x2F ∧
        ∃ r ∈ raw, readEntry r = .ok (some (k, canonicalPath path)) := by
    intro k
    constructor
    · rintro ⟨r, hr, he⟩
      have hhead := readEntry_head he
      exact ⟨hhead, r, hr, by rwa [canonicalPath_of_head hhead]⟩
    · rintro ⟨hhead, r, hr, he⟩
      exact ⟨r, hr, by rwa [← canonicalPath_of_head hhead]⟩
  simp only [excludesBytes, Bool.or_eq_true, contains_pathsOf_ofEntries hex, hread]
  constructor
  · rintro (⟨hh, r, hr, he⟩ | ⟨hh, r, hr, he⟩)
    · exact ⟨hh, r, hr, anyHost, he, .inl rfl⟩
    · exact ⟨hh, r, hr, host, he, .inr rfl⟩
  · rintro ⟨hh, r, hr, k, he, rfl | rfl⟩
    · exact .inl ⟨hh, r, hr, he⟩
    · exact .inr ⟨hh, r, hr, he⟩

theorem excludes_iff_entry_root :
    let raw := [ofString " ROOT "]
    let ex : Exclusions := ⟨[(anyHost, [[0x2F]])]⟩
    ofEntries raw = .ok ex ∧
      (ex.excludesBytes (ofString "anything") [] = true ↔
        (Bytes.normalizePath []).head? = some 0x2F ∧ ∃ r ∈ raw, ∃ k,
          readEntry r = .ok (some (k, canonicalPath [])) ∧ (k = anyHost ∨ k = ofString "anything")) := by
  intro raw ex
  have hex : ofEntries raw = .ok ex := by decide +kernel
  exact ⟨hex, excludes_iff_entry hex _ _⟩

/-- The entry `other:status` reads as host `other` and the canonical form of `status`, and yet
leaves the query `status` of host `other` alone. -/
theorem entry_misses_relative_query :
    readEntry (ofString "other:status") =
        .ok (some (ofString "other", canonicalPath (ofString "status"))) ∧
      (parse ["other:status"]).map (·.excludes "other" "status") = .ok false := by
  decide +kernel

end ClusterAgent.Exclusions
