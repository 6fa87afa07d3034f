import ClusterAgent.Proofs.Staging

/-!
# Following a new proxy list

When the configured proxy list changes, a reload stages the removal of every proxy only the old
list names and then the addition of every proxy only the new list names
(`PoolOp.followProxyList`), and the next status pass applies them. The lists are compared as
written while the pool compares resolved keys, host names read with the name service, so one
proxy written two ways (`localhost:6666` and `127.0.0.1:6666`) is first staged for removal and
then added back, which withdraws the removal.

Over the staging calls the last call on each key decides (`Pool.run_staging`). For these calls
an addition of a key comes after every removal (`PoolOp.lastStaging_followProxyList`), so a key
ends up wanted exactly when the new list names it (`followProxyList_wanted_iff`): a key of the old
list that the new one still names under another spelling is removed and added back, and one it
names under the same spelling is not touched.

Main statement: `followProxyList_moves_pool`, from a pool holding exactly the keys of the old list
with nothing staged, the calls and one status pass leave exactly the keys of the new list, and
each proxy of both lists is the same peer, probed by the pass.
-/

namespace ClusterAgent

/-- The key of the peer at an address, when the address can be read. -/
def peerKey? (dns : Resolver) (address : String) : Option String :=
  (resolvePeerAddress dns (Bytes.ofString address)).toOption.map (·.key)

namespace PoolOp

theorem staging_addProxy (dns : Resolver) (a : String) (established : Bool) :
    (addProxy a established).staging dns = (peerKey? dns a).map (·, true) := by
  simp [staging, peerKey?, Option.map_map, Function.comp_def]

theorem staging_removeProxy (dns : Resolver) (a : String) :
    (removeProxy a).staging dns = (peerKey? dns a).map (·, false) := by
  simp [staging, peerKey?, Option.map_map, Function.comp_def]

/-- Of two runs of calls, the later decides each key it touches. -/
theorem lastStaging_append (dns : Resolver) (xs ys : List PoolOp) (k : String) :
    lastStaging dns (xs ++ ys) k = (lastStaging dns ys k).or (lastStaging dns xs k) := by
  unfold lastStaging
  rw [List.filterMap_append, List.reverse_append, List.find?_append, Option.map_or]

/-- Calls that all stage one way set a key that way exactly when one of them names it. -/
theorem lastStaging_of_all (dns : Resolver) (ops : List PoolOp) (b : Bool)
    (hops : ∀ op ∈ ops, ∃ a, op.staging dns = (peerKey? dns a).map (·, b)) (k : String) :
    lastStaging dns ops k =
      if ops.any (fun op => op.staging dns == some (k, b)) then some b else none := by
  induction ops with
  | nil => rfl
  | cons op ops ih =>
    obtain ⟨a, ha⟩ := hops op List.mem_cons_self
    rw [lastStaging_cons, ih fun op' hop' => hops op' (List.mem_cons_of_mem _ hop'), List.any_cons,
      ha]
    generalize ops.any (fun op => op.staging dns == some (k, b)) = later
    rcases peerKey? dns a with _ | k'
    · cases later <;> simp
    · by_cases hk : k' = k
      · subst hk
        cases later <;> simp
      · cases later <;> simp [hk]

/-- The last staging call of a reload on a key: the addition when a proxy of the new list only
has the key, else the removal when a proxy of the old list only has it. -/
theorem lastStaging_followProxyList (dns : Resolver) (prev next : List String) (k : String) :
    lastStaging dns (followProxyList prev next) k =
      (if ∃ a ∈ next, a ∉ prev ∧ peerKey? dns a = some k then some true else none).or
        (if ∃ a ∈ prev, a ∉ next ∧ peerKey? dns a = some k then some false else none) := by
  have hadds := lastStaging_of_all dns (((proxyDiff prev next).1).map fun a => addProxy a false) true
    (fun op hop => by
      obtain ⟨a, -, rfl⟩ := List.mem_map.1 hop
      exact ⟨a, staging_addProxy dns a false⟩) k
  have hremoves := lastStaging_of_all dns (((proxyDiff prev next).2).map removeProxy) false
    (fun op hop => by
      obtain ⟨a, -, rfl⟩ := List.mem_map.1 hop
      exact ⟨a, staging_removeProxy dns a⟩) k
  rw [followProxyList, lastStaging_append, hadds, hremoves]
  simp [proxyDiff, staging_addProxy, staging_removeProxy, List.any_map, Function.comp_def]

end PoolOp

section Keys

variable {dns : Resolver} {addresses keys : List String}

theorem mem_keys_iff (h : addresses.map (peerKey? dns) = keys.map some) {k : String} :
    k ∈ keys ↔ ∃ a ∈ addresses, peerKey? dns a = some k := by
  have hmem : some k ∈ keys.map some ↔ some k ∈ addresses.map (peerKey? dns) := by rw [h]
  simpa [eq_comm] using hmem

/-- When the keys of a list of addresses are distinct, one address has each key. -/
theorem eq_of_peerKey?_eq (h : addresses.map (peerKey? dns) = keys.map some) (hnd : keys.Nodup)
    {a b : String} (ha : a ∈ addresses) (hb : b ∈ addresses) {k : String}
    (hka : peerKey? dns a = some k) (hkb : peerKey? dns b = some k) : a = b := by
  have hnd' : (addresses.map (peerKey? dns)).Nodup := by
    rw [h]
    exact hnd.map fun _ _ => Option.some.inj
  exact List.inj_on_of_nodup_map hnd' ha hb (hka.trans hkb.symm)

end Keys

/-- After a reload's staging calls, a pool that wanted exactly the keys of the old list wants
exactly the keys of the new one. Only the old list's keys need be distinct: a proxy of both
lists written the same way is never staged, and one written two ways is removed and added back. -/
theorem followProxyList_wanted_iff {dns : Resolver} {prev next prevKeys nextKeys : List String}
    (hprev : prev.map (peerKey? dns) = prevKeys.map some)
    (hnext : next.map (peerKey? dns) = nextKeys.map some) (hprevNd : prevKeys.Nodup) (k : String) :
    (PoolOp.lastStaging dns (PoolOp.followProxyList prev next) k = some true ∨
        (k ∈ prevKeys ∧ PoolOp.lastStaging dns (PoolOp.followProxyList prev next) k ≠ some false)) ↔
      k ∈ nextKeys := by
  rw [PoolOp.lastStaging_followProxyList, mem_keys_iff hprev, mem_keys_iff hnext]
  by_cases hadd : ∃ a ∈ next, a ∉ prev ∧ peerKey? dns a = some k
  · -- an address only the new list names has the key: its addition comes last
    rw [if_pos hadd, Option.some_or]
    obtain ⟨a, ha, -, hka⟩ := hadd
    exact ⟨fun _ => ⟨a, ha, hka⟩, fun _ => .inl rfl⟩
  · rw [if_neg hadd, Option.none_or]
    by_cases hrem : ∃ a ∈ prev, a ∉ next ∧ peerKey? dns a = some k
    · -- the key's one address in the old list is dropped, and no new address has the key
      rw [if_pos hrem]
      obtain ⟨b, hb, hbn, hkb⟩ := hrem
      constructor
      · rintro (h | ⟨-, h⟩)
        · cases h
        · exact absurd rfl h
      · rintro ⟨a, ha, hka⟩
        exfalso
        by_cases hap : a ∈ prev
        · exact hbn (eq_of_peerKey?_eq hprev hprevNd hap hb hka hkb ▸ ha)
        · exact hadd ⟨a, ha, hap, hka⟩
    · -- no call touches the key: the new list names it exactly when the old one does
      rw [if_neg hrem]
      constructor
      · rintro (h | ⟨⟨b, hb, hkb⟩, -⟩)
        · cases h
        · by_contra hnone
          exact hrem ⟨b, hb, fun hbn => hnone ⟨b, hbn, hkb⟩, hkb⟩
      · rintro ⟨a, ha, hka⟩
        refine .inr ⟨⟨a, ?_, hka⟩, fun h => by cases h⟩
        by_contra hap
        exact hadd ⟨a, ha, hap, hka⟩

namespace Pool

variable {σ : Type} (obs : Observer σ) (net : Network) {dns : Resolver}

theorem perform_status (st : Pool × σ) :
    perform obs dns net st .status = st.1.statusPass net obs true st.2 := rfl

end Pool

open Pool in
/-- A reload moves the pool to the new proxy list. Take a pool holding exactly the keys of the
old list `prev`, with nothing staged, and lists whose addresses can all be read, each list with
distinct keys. After the staging calls of the reload (`PoolOp.followProxyList`), whatever the
network of each call, and one status pass, the pool holds exactly the keys of the new list
`next`. A proxy of both lists is kept: the pass takes up the very peer the pool held, its
connection dropped, and probes it. -/
theorem followProxyList_moves_pool {σ : Type} (obs : Observer σ) (dns : Resolver) (net : Network)
    {st : Pool × σ} {prev next prevKeys nextKeys : List String}
    (hprev : prev.map (peerKey? dns) = prevKeys.map some)
    (hnext : next.map (peerKey? dns) = nextKeys.map some)
    (hprevNd : prevKeys.Nodup) (hnextNd : nextKeys.Nodup)
    (hpool : (st.1.peers.map Peer.key).Perm prevKeys) (hadd : st.1.pendingAdd = [])
    (hrem : st.1.pendingRemove = []) {calls : List (PoolOp × Network)}
    (hcalls : calls.map Prod.fst = PoolOp.followProxyList prev next) :
    ((perform obs dns net (run obs dns st calls) .status).1.peers.map Peer.key).Perm nextKeys ∧
      ∀ k p, k ∈ nextKeys → st.1.find? k = some p →
        ((run obs dns st calls).1.applyPending.find? k = some p ∨
          (run obs dns st calls).1.applyPending.find? k = some p.disconnect) ∧
        ∃ q msgs, (perform obs dns net (run obs dns st calls) .status).1.find? k = some q ∧
          ProbeTurn net p q msgs := by
  have hk : st.1.WellKeyed := hpool.nodup_iff.2 hprevNd
  have hstaging : ∀ o ∈ calls, o.1.IsStaging := by
    intro o ho
    have hmem : o.1 ∈ PoolOp.followProxyList prev next := hcalls ▸ List.mem_map_of_mem ho
    simp only [PoolOp.followProxyList, proxyDiff, List.mem_append, List.mem_map] at hmem
    rcases hmem with ⟨a, -, ha⟩ | ⟨a, -, ha⟩ <;> rw [← ha] <;> trivial
  obtain ⟨hS, hpeers, hwants⟩ := run_staging obs (staged_of_pending_nil hk hadd hrem) hstaging
  set staged := (run obs dns st calls).1
  have hwanted : ∀ k, k ∈ staged.applyPending.peers.map Peer.key ↔ k ∈ nextKeys := by
    intro k
    rw [mem_keys_applyPending hS.peers, hwants, wants_of_pending_nil hadd hrem, hpool.mem_iff,
      hcalls]
    exact followProxyList_wanted_iff hprev hnext hprevNd k
  have hkeys : ∀ k, k ∈ (perform obs dns net (run obs dns st calls) .status).1.peers.map Peer.key ↔
      k ∈ nextKeys := by
    intro k
    rw [perform_status, statusPass_keys]
    exact hwanted k
  have hacts := statusPass_acts obs net hS.peers true (run obs dns st calls).2
  refine ⟨(List.perm_ext_iff_of_nodup hacts.wellKeyed hnextNd).2 hkeys, fun k p hkn hp => ?_⟩
  have hp' : staged.find? k = some p := by rw [find?, hpeers]; exact hp
  obtain ⟨q₀, hq₀⟩ : ∃ q₀, staged.applyPending.find? k = some q₀ :=
    Option.isSome_iff_exists.1 (isSome_find?_iff.2 ((hwanted k).2 hkn))
  refine ⟨(applyPending_find? hS.peers hp' hq₀).imp (fun h => by rw [← h]; exact hq₀)
    (fun h => by rw [← h]; exact hq₀), ?_⟩
  obtain ⟨q, hq⟩ : ∃ q, (perform obs dns net (run obs dns st calls) .status).1.find? k = some q :=
    Option.isSome_iff_exists.1 (isSome_find?_iff.2 ((hkeys k).2 hkn))
  obtain ⟨msgs, -, hturn⟩ := hacts.effect k p q hp' hq
  exact ⟨q, msgs, hq, hturn⟩

/-- A reload that names the proxy `localhost:6666` by its address `127.0.0.1:6666` and adds
`127.0.0.1:7777`, with a name service that gives `localhost` the addresses `127.0.0.1` and `::1`
and no front-end answering: both spellings have one key, so the pool holds both keys, the first
still its own peer. -/
theorem followProxyList_moves_pool_respelled :
    let loopback : IP := ⟨#v[0, 0, 0, 0, 0, 0, 0, 0, 0, 0, 0xFF, 0xFF, 127, 0, 0, 1]⟩
    let loopback6 : IP := ⟨#v[0, 0, 0, 0, 0, 0, 0, 0, 0, 0, 0, 0, 0, 0, 0, 1]⟩
    let dns : Resolver :=
      ⟨fun name => if name = Bytes.ofString "localhost" then [loopback, loopback6] else []⟩
    let prev := ["localhost:6666"]
    let next := ["127.0.0.1:6666", "127.0.0.1:7777"]
    let st : Pool × Unit := ({ peers := [{ endpoint := ⟨some loopback, "", 6666⟩ }] }, ())
    let calls := (PoolOp.followProxyList prev next).map fun op => (op, Network.unreachable)
    prev.map (peerKey? dns) = ["127.0.0.1:6666"].map some ∧
      next.map (peerKey? dns) = ["127.0.0.1:6666", "127.0.0.1:7777"].map some ∧
      ["127.0.0.1:6666"].Nodup ∧ ["127.0.0.1:6666", "127.0.0.1:7777"].Nodup ∧
      (st.1.peers.map Peer.key).Perm ["127.0.0.1:6666"] ∧
      calls.map Prod.fst = PoolOp.followProxyList prev next ∧
      (((Pool.perform {} dns Network.unreachable (Pool.run {} dns st calls) .status).1.peers.map
          Peer.key).Perm ["127.0.0.1:6666", "127.0.0.1:7777"] ∧
        ∀ k p, k ∈ ["127.0.0.1:6666", "127.0.0.1:7777"] → st.1.find? k = some p →
          ((Pool.run {} dns st calls).1.applyPending.find? k = some p ∨
            (Pool.run {} dns st calls).1.applyPending.find? k = some p.disconnect) ∧
          ∃ q msgs,
            (Pool.perform {} dns Network.unreachable (Pool.run {} dns st calls) .status).1.find? k =
              some q ∧
            ProbeTurn Network.unreachable p q msgs) := by
  intro loopback loopback6 dns prev next st calls
  have hprev : prev.map (peerKey? dns) = ["127.0.0.1:6666"].map some := by decide +kernel
  have hnext : next.map (peerKey? dns) = ["127.0.0.1:6666", "127.0.0.1:7777"].map some := by
    decide +kernel
  have hprevNd : ["127.0.0.1:6666"].Nodup := by decide
  have hnextNd : ["127.0.0.1:6666", "127.0.0.1:7777"].Nodup := by decide
  have hpool : (st.1.peers.map Peer.key).Perm ["127.0.0.1:6666"] := by decide +kernel
  have hcalls : calls.map Prod.fst = PoolOp.followProxyList prev next := by
    simp [calls, Function.comp_def]
  exact ⟨hprev, hnext, hprevNd, hnextNd, hpool, hcalls,
    followProxyList_moves_pool {} dns Network.unreachable hprev hnext hprevNd hnextNd hpool rfl rfl
      hcalls⟩

end ClusterAgent
