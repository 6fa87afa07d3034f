import ClusterAgent.Proofs.SyncRebuild

/-!
# A refused sync

`Topology.sync` refuses specs that do not name exactly the current routes, in two places. The
count of specs is checked before anything moves, so a refusal there leaves the topology as it
was. The route of each engine is looked up only when its turn comes, after the engines before it
have been moved to their specs; a refusal there leaves those engines moved and the rest as they
were (`Topology.sync_refused`). A caller that keeps its previous configuration on a refusal is
then out of step with the topology: syncing routes `a` and `c` onto engines `a` and `b` empties
engine `a` and is still refused (`Topology.sync_refused_moves_earlier_engine`).
-/

namespace ClusterAgent

namespace Sync

variable {S : List EngineSpec} {err : SyncError}

/-- Moving engines stops at the first engine whose route no spec names: the engines before it
have each been moved to the spec of its route, it and the engines after it are untouched. -/
theorem syncEngines_refused :
    ∀ (es : List Engine) (i : Nat) (log : List Entry), (syncEngines S i es log).2 = .error err →
      ∃ n e, es[n]? = some e ∧ routeSpec S e = none ∧
        (syncEngines S i es log).1.drop n = es.drop n ∧
        ∀ j < n, ∃ e spec log', es[j]? = some e ∧ routeSpec S e = some spec ∧
          (syncEngines S i es log).1[j]? = some (syncHosts (i + j) e spec.hosts log').1
  | [], _, _, h => by simp [syncEngines] at h
  | e :: rest, i, log, h => by
    rcases hr : routeSpec S e with _ | spec
    · -- refused at this engine, before anything moved
      have hr' : S.reverse.find? (·.route == e.route) = none := hr
      refine ⟨0, e, rfl, hr, ?_, fun j hj => absurd hj (Nat.not_lt_zero j)⟩
      simp [syncEngines, hr']
    · -- this engine moves, and the refusal comes later
      have hr' : S.reverse.find? (·.route == e.route) = some spec := hr
      simp only [syncEngines, hr'] at h ⊢
      obtain ⟨n, e', he', hr₁, hdrop, hprefix⟩ := syncEngines_refused rest (i + 1) _ h
      refine ⟨n + 1, e', by simpa using he', hr₁, by simpa using hdrop, fun j hj => ?_⟩
      rcases j with _ | j
      · exact ⟨e, spec, log, rfl, hr, by simp⟩
      · obtain ⟨e'', spec', log', he'', hr'', hj'⟩ := hprefix j (by omega)
        refine ⟨e'', spec', log', by simpa using he'', hr'', ?_⟩
        rw [show i + (j + 1) = i + 1 + j by omega]
        simpa using hj'

end Sync

open Sync in
/-- What a refused sync leaves. Refused by the count of specs, it changes nothing. Refused at the
first engine whose route no spec names, it leaves that engine and the ones after it untouched,
and each engine before it moved to the spec of its route. -/
theorem Topology.sync_refused {t t' : Topology} {S : List EngineSpec} {err : SyncError}
    (h : t.sync S = (t', .error err)) :
    (S.length ≠ t.engines.length ∧ t' = t) ∨
      (S.length = t.engines.length ∧ ∃ n e, t.engines[n]? = some e ∧ routeSpec S e = none ∧
        t'.engines.drop n = t.engines.drop n ∧
        ∀ j < n, ∃ e spec log, t.engines[j]? = some e ∧ routeSpec S e = some spec ∧
          t'.engines[j]? = some (syncHosts j e spec.hosts log).1) := by
  unfold Topology.sync at h
  split at h
  · rename_i hlen
    cases h
    exact .inl ⟨by simpa using hlen, rfl⟩
  · rename_i hlen
    rcases hse : syncEngines S 0 t.engines [] with ⟨engines, r⟩
    rw [hse] at h
    simp only [Prod.mk.injEq] at h
    obtain ⟨rfl, hr⟩ := h
    rcases r with e | log
    · have hrefused := syncEngines_refused t.engines 0 [] (by rw [hse])
      rw [hse] at hrefused
      obtain ⟨n, e', he', hr', hdrop, hprefix⟩ := hrefused
      refine .inr ⟨by simpa using hlen, n, e', he', hr', hdrop, fun j hj => ?_⟩
      simpa using hprefix j hj
    · cases hr

/-- Syncing routes `a` and `c` onto engines `a` and `b`: the refusal comes at engine `b`, after
engine `a` was moved. -/
theorem Topology.sync_refused_at_second_engine :
    ∃ t', Topology.sync
        ⟨[⟨"a", "a", ⟨none, 0, .ajp, false⟩, [⟨"h", ["h"], [⟨"/x", true⟩]⟩]⟩,
          ⟨"b", "b", ⟨none, 0, .ajp, false⟩, [⟨"h", ["h"], [⟨"/y", true⟩]⟩]⟩]⟩
        [{ route := "a" }, { route := "c" }] = (t', .error .engineSetChanged) ∧
      (([{ route := "a" }, { route := "c" }] : List EngineSpec).length ≠ 2 ∧
          t' = ⟨[⟨"a", "a", ⟨none, 0, .ajp, false⟩, [⟨"h", ["h"], [⟨"/x", true⟩]⟩]⟩,
            ⟨"b", "b", ⟨none, 0, .ajp, false⟩, [⟨"h", ["h"], [⟨"/y", true⟩]⟩]⟩]⟩ ∨
        ([{ route := "a" }, { route := "c" }] : List EngineSpec).length = 2 ∧
          ∃ n e, ([⟨"a", "a", ⟨none, 0, .ajp, false⟩, [⟨"h", ["h"], [⟨"/x", true⟩]⟩]⟩,
              ⟨"b", "b", ⟨none, 0, .ajp, false⟩, [⟨"h", ["h"], [⟨"/y", true⟩]⟩]⟩] :
              List Engine)[n]? = some e ∧
            Sync.routeSpec [{ route := "a" }, { route := "c" }] e = none ∧
            t'.engines.drop n =
              ([⟨"a", "a", ⟨none, 0, .ajp, false⟩, [⟨"h", ["h"], [⟨"/x", true⟩]⟩]⟩,
                ⟨"b", "b", ⟨none, 0, .ajp, false⟩, [⟨"h", ["h"], [⟨"/y", true⟩]⟩]⟩] :
                List Engine).drop n ∧
            ∀ j < n, ∃ e spec log,
              ([⟨"a", "a", ⟨none, 0, .ajp, false⟩, [⟨"h", ["h"], [⟨"/x", true⟩]⟩]⟩,
                ⟨"b", "b", ⟨none, 0, .ajp, false⟩, [⟨"h", ["h"], [⟨"/y", true⟩]⟩]⟩] :
                List Engine)[j]? = some e ∧
              Sync.routeSpec [{ route := "a" }, { route := "c" }] e = some spec ∧
              t'.engines[j]? = some (Sync.syncHosts j e spec.hosts log).1) := by
  have h : Topology.sync
      ⟨[⟨"a", "a", ⟨none, 0, .ajp, false⟩, [⟨"h", ["h"], [⟨"/x", true⟩]⟩]⟩,
        ⟨"b", "b", ⟨none, 0, .ajp, false⟩, [⟨"h", ["h"], [⟨"/y", true⟩]⟩]⟩]⟩
      [{ route := "a" }, { route := "c" }] =
      (⟨[⟨"a", "a", ⟨none, 0, .ajp, false⟩, []⟩,
        ⟨"b", "b", ⟨none, 0, .ajp, false⟩, [⟨"h", ["h"], [⟨"/y", true⟩]⟩]⟩]⟩,
        .error .engineSetChanged) := by
    decide +kernel
  exact ⟨_, h, Topology.sync_refused h⟩

/-- Syncing routes `a` and `c` onto engines `a` and `b` is refused, yet engine `a` has already
lost its host. -/
theorem Topology.sync_refused_moves_earlier_engine :
    ∃ t, Topology.ofSpecs Resolver.empty
        [{ route := "a",
           hosts := [{ name := "h", contexts := [{ path := "/x", started := true }] }] },
         { route := "b",
           hosts := [{ name := "h", contexts := [{ path := "/y", started := true }] }] }] =
        .ok t ∧
      (t.sync [{ route := "a" }, { route := "c" }]).2 = .error .engineSetChanged ∧
      (t.sync [{ route := "a" }, { route := "c" }]).1 ≠ t :=
  ⟨⟨[⟨"a", "a", ⟨none, 0, .ajp, false⟩, [⟨"h", ["h"], [⟨"/x", true⟩]⟩]⟩,
     ⟨"b", "b", ⟨none, 0, .ajp, false⟩, [⟨"h", ["h"], [⟨"/y", true⟩]⟩]⟩]⟩,
    by decide +kernel, by decide +kernel, by decide +kernel⟩

end ClusterAgent
