import ClusterAgent.Proofs.Health

/-!
# Staged membership

`addPeer` and `removePeer` only record a wish beside the pool, and the next status pass applies
the wishes together. Between operations the pool and its two staging lists keep an invariant
(`Pool.Staged`): no two pooled peers share a key, nor two staged additions; no staged addition is
pooled or staged for removal, and each is a new peer in `error`; each staged removal names a
pooled peer, once. Every operation of the handler keeps it (`Pool.Reachable.staged`), and an
operation that cannot read one of its addresses changes nothing (`Pool.perform_of_unreadable`).

Under the invariant a staging call changes the keys the pool will hold once its wishes are applied
(`Pool.wants`) at its own key only: an addition sets the key, a removal clears it
(`Pool.addPeer_spec`, `Pool.removePeer_spec`). Over a run of such calls the last call on each
key decides (`Pool.run_staging`), and the next status pass holds exactly the wanted keys: the
peers it keeps are the same peers with their connection dropped, and the peers it adds are new
and in `error` (`staging_laws`).
-/

namespace ClusterAgent

/-- The key a staging call names, with `true` for an addition and `false` for a removal; nothing
for another operation or for an address that cannot be read. -/
def PoolOp.staging (dns : Resolver) : PoolOp → Option (String × Bool)
  | .addProxy address _ =>
    (resolvePeerAddress dns (Bytes.ofString address)).toOption.map fun e => (e.key, true)
  | .removeProxy address =>
    (resolvePeerAddress dns (Bytes.ofString address)).toOption.map fun e => (e.key, false)
  | _ => none

/-- Whether an operation is a staging call. -/
def PoolOp.IsStaging : PoolOp → Prop
  | .addProxy _ _ => True
  | .removeProxy _ => True
  | _ => False

/-- The last staging call on key `k` among operations: `true` for an addition. -/
def PoolOp.lastStaging (dns : Resolver) (ops : List PoolOp) (k : String) : Option Bool :=
  ((ops.filterMap (PoolOp.staging dns)).reverse.find? (·.1 == k)).map (·.2)

/-- The peer addresses an operation reads. -/
def PoolOp.addresses : PoolOp → List String
  | .init addresses _ => addresses
  | .addProxy address _ => [address]
  | .removeProxy address => [address]
  | _ => []

theorem PoolOp.lastStaging_cons (dns : Resolver) (op : PoolOp) (ops : List PoolOp) (k : String) :
    lastStaging dns (op :: ops) k =
      (lastStaging dns ops k).or (match op.staging dns with
        | some (k', b) => if k' = k then some b else none
        | none => none) := by
  unfold lastStaging
  rcases hop : op.staging dns with _ | ⟨k', b⟩
  · simp [hop]
  · by_cases hk : k' = k
    · rcases hf : (ops.filterMap (staging dns)).reverse.find? (·.1 == k) with _ | x <;>
        simp [hop, hk, List.find?_append, hf]
    · rcases hf : (ops.filterMap (staging dns)).reverse.find? (·.1 == k) with _ | x <;>
        simp [hop, hk, List.find?_append, hf]

namespace Pool

/-! ### The invariant -/

/-- The invariant of the staging lists. -/
structure Staged (pool : Pool) : Prop where
  peers : (pool.peers.map Peer.key).Nodup
  adds : (pool.pendingAdd.map Peer.key).Nodup
  addsFresh : ∀ k ∈ pool.pendingAdd.map Peer.key, k ∉ pool.peers.map Peer.key
  addsKept : ∀ k ∈ pool.pendingAdd.map Peer.key, k ∉ pool.pendingRemove
  addsInError : ∀ p ∈ pool.pendingAdd, p.state = .error
  removes : pool.pendingRemove.Nodup
  removesPooled : ∀ k ∈ pool.pendingRemove, k ∈ pool.peers.map Peer.key

/-- Whether the pool holds a peer of key `k` once its staged changes are applied. -/
def wants (pool : Pool) (k : String) : Prop :=
  (k ∈ pool.peers.map Peer.key ∨ k ∈ pool.pendingAdd.map Peer.key) ∧ k ∉ pool.pendingRemove

/-- Two pools with the same keys and the same staging lists. -/
structure SameStaging (pool pool' : Pool) : Prop where
  keys : pool'.peers.map Peer.key = pool.peers.map Peer.key
  pendingAdd : pool'.pendingAdd = pool.pendingAdd
  pendingRemove : pool'.pendingRemove = pool.pendingRemove

variable {pool pool' : Pool}

theorem Staged.of_same (hS : pool.Staged) (h : SameStaging pool pool') : pool'.Staged := by
  obtain ⟨hkeys, hadd, hrem⟩ := h
  exact ⟨hkeys ▸ hS.peers, hadd ▸ hS.adds, hadd ▸ hkeys ▸ hS.addsFresh, hadd ▸ hrem ▸ hS.addsKept,
    hadd ▸ hS.addsInError, hrem ▸ hS.removes, hrem ▸ hkeys ▸ hS.removesPooled⟩

theorem staged_of_pending_nil (hk : pool.WellKeyed) (hadd : pool.pendingAdd = [])
    (hrem : pool.pendingRemove = []) : pool.Staged :=
  ⟨hk, by simp [hadd], by simp [hadd], by simp [hadd], by simp [hadd], by simp [hrem],
    by simp [hrem]⟩

theorem wants_of_pending_nil (hadd : pool.pendingAdd = []) (hrem : pool.pendingRemove = [])
    (k : String) : pool.wants k ↔ k ∈ pool.peers.map Peer.key := by
  simp [wants, hadd, hrem]

/-! ### Keys through the staged changes -/

theorem mem_keys_addNew (xs : List Peer) {ps : List Peer} {k : String} :
    k ∈ (xs.foldl (fun ps p => if holds ps p.key then ps else ps ++ [p]) ps).map Peer.key ↔
      k ∈ ps.map Peer.key ∨ k ∈ xs.map Peer.key := by
  induction xs generalizing ps with
  | nil => simp
  | cons x xs ih =>
    rw [List.foldl_cons, ih]
    by_cases hx : holds ps x.key = true
    · have hmem := holds_iff.1 hx
      rw [if_pos hx, List.map_cons, List.mem_cons]
      constructor
      · rintro (h | h)
        · exact .inl h
        · exact .inr (.inr h)
      · rintro (h | rfl | h)
        · exact .inl h
        · exact .inl hmem
        · exact .inr h
    · rw [if_neg hx]
      simp only [List.map_append, List.map_cons, List.map_nil, List.mem_append, List.mem_cons]
      tauto

theorem mem_addNew (xs : List Peer) {ps : List Peer} {q : Peer}
    (hq : q ∈ xs.foldl (fun ps p => if holds ps p.key then ps else ps ++ [p]) ps) :
    q ∈ ps ∨ q ∈ xs := by
  induction xs generalizing ps with
  | nil => exact .inl hq
  | cons x xs ih =>
    rw [List.foldl_cons] at hq
    rcases ih hq with h | h
    · split at h
      · exact .inl h
      · rcases List.mem_append.1 h with h | h
        · exact .inl h
        · exact .inr (List.mem_singleton.1 h ▸ List.mem_cons_self)
    · exact .inr (List.mem_cons_of_mem _ h)

theorem mem_keys_eraseP {ps : List Peer} (hnd : (ps.map Peer.key).Nodup) {k k' : String} :
    k' ∈ (ps.eraseP (·.key == k)).map Peer.key ↔ k' ≠ k ∧ k' ∈ ps.map Peer.key := by
  induction ps with
  | nil => simp
  | cons p ps ih =>
    rw [List.map_cons, List.nodup_cons] at hnd
    by_cases hp : p.key = k
    · rw [List.eraseP_cons_of_pos (by simpa using hp), List.map_cons, List.mem_cons]
      subst hp
      constructor
      · intro h
        exact ⟨fun hk => hnd.1 (hk ▸ h), .inr h⟩
      · rintro ⟨hne, rfl | h⟩
        · exact absurd rfl hne
        · exact h
    · rw [List.eraseP_cons_of_neg (by simpa using hp), List.map_cons, List.map_cons, List.mem_cons,
        List.mem_cons, ih hnd.2]
      constructor
      · rintro (rfl | ⟨hne, h⟩)
        · exact ⟨hp, .inl rfl⟩
        · exact ⟨hne, .inr h⟩
      · rintro ⟨hne, rfl | h⟩
        · exact .inl rfl
        · exact .inr ⟨hne, h⟩

theorem mem_keys_eraseKeys (ks : List String) {ps : List Peer} (hnd : (ps.map Peer.key).Nodup)
    {k : String} :
    k ∈ (ks.foldl (fun ps k => ps.eraseP (·.key == k)) ps).map Peer.key ↔
      k ∈ ps.map Peer.key ∧ k ∉ ks := by
  induction ks generalizing ps with
  | nil => simp
  | cons k' ks ih =>
    rw [List.foldl_cons, ih ((List.eraseP_sublist.map _).nodup hnd), mem_keys_eraseP hnd,
      List.mem_cons, not_or]
    tauto

theorem applyPending_pending (pool : Pool) :
    pool.applyPending.pendingAdd = [] ∧ pool.applyPending.pendingRemove = [] := by
  unfold applyPending
  split
  · rename_i h
    simpa using h
  · exact ⟨rfl, rfl⟩

theorem mem_keys_applyPending (hk : pool.WellKeyed) (k : String) :
    k ∈ pool.applyPending.peers.map Peer.key ↔ pool.wants k := by
  unfold applyPending
  split
  · rename_i h
    simp only [Bool.and_eq_true, List.isEmpty_iff] at h
    rw [wants_of_pending_nil h.1 h.2]
  · rw [List.map_map, show Peer.key ∘ Peer.disconnect = Peer.key from rfl,
      mem_keys_eraseKeys _ (nodup_addNew _ hk), mem_keys_addNew]
    rfl

theorem applyPending_find?_of_none {k : String} {q : Peer}
    (hp : pool.find? k = none) (hq : pool.applyPending.find? k = some q) :
    ∃ p ∈ pool.pendingAdd, q = p.disconnect := by
  unfold applyPending at hq
  split at hq
  · rw [hp] at hq
    cases hq
  · simp only [find?, find?_map Peer.disconnect_key, Option.map_eq_some_iff] at hq
    obtain ⟨q', hq', rfl⟩ := hq
    have hmem := (eraseKeys_sublist _ _).subset (List.mem_of_find?_eq_some hq')
    rcases mem_addNew _ hmem with h | h
    · -- a pooled peer of the key would have been found
      have hkey : q'.key = k := by simpa using List.find?_some hq'
      have hsome : (pool.peers.find? (·.key == k)).isSome :=
        isSome_find?_iff.2 (hkey ▸ List.mem_map_of_mem h)
      rw [show pool.peers.find? (·.key == k) = none from hp] at hsome
      cases hsome
    · exact ⟨q', h, rfl⟩

/-! ### Each operation -/

variable {σ : Type} (obs : Observer σ) (net : Network) {dns : Resolver}

theorem statusPass_keys (pool : Pool) (reconcile : Bool) (s : σ) :
    (pool.statusPass net obs reconcile s).1.peers.map Peer.key =
      pool.applyPending.peers.map Peer.key := by
  obtain ⟨L, -, hT⟩ := statusPass_turns obs net pool reconcile s
  exact hT.keys

theorem statusPass_pending (pool : Pool) (reconcile : Bool) (s : σ) :
    (pool.statusPass net obs reconcile s).1.pendingAdd = [] ∧
      (pool.statusPass net obs reconcile s).1.pendingRemove = [] := by
  unfold statusPass
  exact applyPending_pending pool

theorem statusPass_staged (hk : pool.WellKeyed) (reconcile : Bool) (s : σ) :
    (pool.statusPass net obs reconcile s).1.Staged :=
  staged_of_pending_nil (statusPass_acts obs net hk reconcile s).wellKeyed
    (statusPass_pending obs net pool reconcile s).1 (statusPass_pending obs net pool reconcile s).2

theorem init_staged (hk : pool.WellKeyed) {listening : Bool} {addresses : List String} {s : σ}
    {r : Pool × σ} (h : pool.init dns net obs listening addresses s = .ok r) : r.1.Staged := by
  obtain ⟨es, hr⟩ := init_eq_ok obs net h
  have hpass := statusPass_staged obs net
    (show WellKeyed { pool.seed es with listening } from seed_wellKeyed hk es) false s
  rw [hr]
  exact hpass.of_same ⟨rfl, rfl, rfl⟩

theorem ok_of_mapM_ok {α β ε : Type} {f : α → Except ε β} :
    ∀ {l : List α} {bs : List β}, l.mapM f = .ok bs → ∀ a ∈ l, ∃ b, f a = .ok b
  | [], _, _, _, ha => absurd ha List.not_mem_nil
  | x :: l, bs, h, a, ha => by
    rw [List.mapM_cons] at h
    rcases hx : f x with e | b
    · rw [hx] at h
      cases h
    · rw [hx] at h
      rcases hl : l.mapM f with e | bs'
      · rw [hl] at h
        cases h
      · rcases List.mem_cons.1 ha with rfl | ha
        · exact ⟨b, hx⟩
        · exact ok_of_mapM_ok hl a ha

theorem init_eq_error {listening : Bool} {addresses : List String} {s : σ} {a : String}
    (ha : a ∈ addresses) {err : PeerAddressError}
    (he : resolvePeerAddress dns (Bytes.ofString a) = .error err) :
    ∃ err', pool.init dns net obs listening addresses s = .error err' := by
  unfold init
  split
  · rename_i err' _
    exact ⟨err', rfl⟩
  · rename_i es hes
    obtain ⟨e, he'⟩ := ok_of_mapM_ok hes a ha
    rw [he] at he'
    cases he'

theorem sendEach_same (pool : Pool) (r : Request) : SameStaging pool (pool.sendEach net r).1 := by
  obtain ⟨L, -, hT⟩ := sendEach_turns pool net r
  refine ⟨hT.keys, ?_, ?_⟩ <;>
  · unfold sendEach
    split
    rfl

theorem sendAll_same (pool : Pool) (rs : List Request) :
    SameStaging pool (pool.sendAll net rs).1 := by
  obtain ⟨L, -, hT⟩ := sendAll_turns pool net rs
  refine ⟨hT.keys, ?_, ?_⟩ <;>
  · unfold sendAll
    split
    rfl

/-! ### Staging calls -/

variable {address : String} {established : Bool} {err : PeerAddressError}

theorem addPeer_eq_error_iff :
    pool.addPeer dns address established = .error err ↔
      resolvePeerAddress dns (Bytes.ofString address) = .error err := by
  unfold addPeer
  split
  · rename_i err' he
    simp only [he, Except.error.injEq]
  · rename_i e he
    rw [he]
    dsimp only
    split
    · simp
    · split <;> simp

theorem removePeer_eq_error_iff :
    pool.removePeer dns address = .error err ↔
      resolvePeerAddress dns (Bytes.ofString address) = .error err := by
  unfold removePeer
  split
  · rename_i err' he
    simp only [he, Except.error.injEq]
  · rename_i e he
    rw [he]
    dsimp only
    split
    · simp
    · split <;> simp

/-- What staging an addition does: withdraw the removal of its key, do nothing for a key the pool
holds or will add, or stage a new peer. -/
theorem addPeer_cases (h : pool.addPeer dns address established = .ok pool') :
    ∃ e, resolvePeerAddress dns (Bytes.ofString address) = .ok e ∧
      (e.key ∈ pool.pendingRemove ∧
          pool' = { pool with pendingRemove := pool.pendingRemove.erase e.key } ∨
        e.key ∉ pool.pendingRemove ∧
          (e.key ∈ pool.pendingAdd.map Peer.key ∨ e.key ∈ pool.peers.map Peer.key) ∧ pool' = pool ∨
        e.key ∉ pool.pendingRemove ∧ e.key ∉ pool.pendingAdd.map Peer.key ∧
          e.key ∉ pool.peers.map Peer.key ∧
          pool' = { pool with
            pendingAdd :=
              pool.pendingAdd ++ [{ Peer.new e pool.basePath with established }] }) := by
  unfold addPeer at h
  split at h
  · cases h
  · rename_i e he
    refine ⟨e, he, ?_⟩
    dsimp only at h
    rw [show ({ Peer.new e pool.basePath with established } : Peer).key = e.key from rfl] at h
    split at h
    · rename_i hr
      cases h
      exact .inl ⟨by simpa using hr, rfl⟩
    · rename_i hr
      have hr' : e.key ∉ pool.pendingRemove := by simpa using hr
      split at h
      · rename_i hin
        cases h
        refine .inr (.inl ⟨hr', ?_, rfl⟩)
        simpa [holds_iff] using hin
      · rename_i hin
        cases h
        refine .inr (.inr ⟨hr', ?_, ?_, rfl⟩) <;>
        · simp only [Bool.or_eq_true, not_or, holds_iff] at hin
          first | exact hin.1 | exact hin.2

/-- What staging a removal does: withdraw the addition of its key, do nothing for a key the pool
does not hold or already drops, or stage the removal. -/
theorem removePeer_cases (h : pool.removePeer dns address = .ok pool') :
    ∃ e, resolvePeerAddress dns (Bytes.ofString address) = .ok e ∧
      (e.key ∈ pool.pendingAdd.map Peer.key ∧
          pool' = { pool with pendingAdd := pool.pendingAdd.eraseP (·.key == e.key) } ∨
        e.key ∉ pool.pendingAdd.map Peer.key ∧
          (e.key ∈ pool.pendingRemove ∨ e.key ∉ pool.peers.map Peer.key) ∧ pool' = pool ∨
        e.key ∉ pool.pendingAdd.map Peer.key ∧ e.key ∉ pool.pendingRemove ∧
          e.key ∈ pool.peers.map Peer.key ∧
          pool' = { pool with pendingRemove := pool.pendingRemove ++ [e.key] }) := by
  unfold removePeer at h
  split at h
  · cases h
  · rename_i e he
    refine ⟨e, he, ?_⟩
    dsimp only at h
    split at h
    · rename_i ha
      cases h
      exact .inl ⟨holds_iff.1 ha, rfl⟩
    · rename_i ha
      have ha' : e.key ∉ pool.pendingAdd.map Peer.key := fun hm => ha (holds_iff.2 hm)
      split at h
      · rename_i hin
        cases h
        refine .inr (.inl ⟨ha', ?_, rfl⟩)
        simpa [holds] using hin
      · rename_i hin
        cases h
        simp only [Bool.or_eq_true, not_or, Bool.not_eq_true', Bool.not_eq_false,
          List.contains_iff_mem, holds_iff] at hin
        exact .inr (.inr ⟨ha', hin.1, hin.2, rfl⟩)

/-- An addition keeps the invariant and the pooled peers, and the pool then wants its key. -/
theorem addPeer_spec (hS : pool.Staged) (h : pool.addPeer dns address established = .ok pool') :
    ∃ e, resolvePeerAddress dns (Bytes.ofString address) = .ok e ∧ pool'.Staged ∧
      pool'.peers = pool.peers ∧ ∀ k, pool'.wants k ↔ k = e.key ∨ pool.wants k := by
  obtain ⟨e, he, hcase⟩ := addPeer_cases h
  refine ⟨e, he, ?_⟩
  rcases hcase with ⟨hr, rfl⟩ | ⟨hr, hin, rfl⟩ | ⟨hr, ha, hp, rfl⟩
  · -- withdrawing the removal: the key is pooled, and now kept
    refine ⟨⟨hS.peers, hS.adds, hS.addsFresh, fun k hk hm => hS.addsKept k hk
      (List.mem_of_mem_erase hm), hS.addsInError, hS.removes.erase _,
      fun k hk => hS.removesPooled k (List.mem_of_mem_erase hk)⟩, rfl, fun k => ?_⟩
    simp only [wants, hS.removes.mem_erase_iff]
    by_cases hk : k = e.key
    · subst hk
      simp [hS.removesPooled _ hr]
    · simp [hk]
  · refine ⟨hS, rfl, fun k => ⟨.inr, ?_⟩⟩
    rintro (rfl | h)
    · exact ⟨hin.symm, hr⟩
    · exact h
  · -- a new peer is staged, in `error`
    have hkey : ({ Peer.new e pool.basePath with established } : Peer).key = e.key := rfl
    refine ⟨⟨hS.peers, ?_, ?_, ?_, ?_, hS.removes, hS.removesPooled⟩, rfl, fun k => ?_⟩
    · rw [List.map_append, List.map_singleton, hkey]
      exact hS.adds.append (List.nodup_singleton _) (List.disjoint_singleton.2 ha)
    · simp only [List.map_append, List.map_cons, List.map_nil, List.mem_append,
        List.mem_singleton]
      rintro k (hk | rfl)
      · exact hS.addsFresh k hk
      · exact hp
    · simp only [List.map_append, List.map_cons, List.map_nil, List.mem_append,
        List.mem_singleton]
      rintro k (hk | rfl)
      · exact hS.addsKept k hk
      · exact hr
    · simp only [List.mem_append, List.mem_singleton]
      rintro p (hp | rfl)
      · exact hS.addsInError p hp
      · rfl
    · simp only [wants, List.map_append, List.map_cons, List.map_nil, List.mem_append,
        List.mem_singleton]
      by_cases hk : k = e.key
      · subst hk
        simp [hr, Peer.key, Peer.new]
      · simp [hk, Peer.key, Peer.new]

/-- A removal keeps the invariant and the pooled peers, and the pool then no longer wants its
key. -/
theorem removePeer_spec (hS : pool.Staged) (h : pool.removePeer dns address = .ok pool') :
    ∃ e, resolvePeerAddress dns (Bytes.ofString address) = .ok e ∧ pool'.Staged ∧
      pool'.peers = pool.peers ∧ ∀ k, pool'.wants k ↔ k ≠ e.key ∧ pool.wants k := by
  obtain ⟨e, he, hcase⟩ := removePeer_cases h
  refine ⟨e, he, ?_⟩
  rcases hcase with ⟨ha, rfl⟩ | ⟨ha, hin, rfl⟩ | ⟨ha, hr, hp, rfl⟩
  · -- withdrawing the addition: the key is not pooled, and now not staged
    have hsub : (pool.pendingAdd.eraseP (·.key == e.key)).Sublist pool.pendingAdd :=
      List.eraseP_sublist
    refine ⟨⟨hS.peers, (hsub.map _).nodup hS.adds,
      fun k hk => hS.addsFresh k ((hsub.map _).subset hk),
      fun k hk => hS.addsKept k ((hsub.map _).subset hk),
      fun p hp => hS.addsInError p (hsub.subset hp), hS.removes, hS.removesPooled⟩, rfl,
      fun k => ?_⟩
    simp only [wants, mem_keys_eraseP hS.adds]
    by_cases hk : k = e.key
    · subst hk
      simp [hS.addsFresh _ ha]
    · simp [hk]
  · refine ⟨hS, rfl, fun k => ⟨fun h => ⟨?_, h⟩, And.right⟩⟩
    rintro rfl
    rcases hin with hin | hin
    · exact h.2 hin
    · exact h.1.elim hin ha
  · -- the removal is staged
    refine ⟨⟨hS.peers, hS.adds, hS.addsFresh, ?_, hS.addsInError, ?_, ?_⟩, rfl, fun k => ?_⟩
    · intro k hk hm
      rcases List.mem_append.1 hm with hm | hm
      · exact hS.addsKept k hk hm
      · exact ha (List.mem_singleton.1 hm ▸ hk)
    · exact hS.removes.append (List.nodup_singleton _) (List.disjoint_singleton.2 hr)
    · intro k hk
      rcases List.mem_append.1 hk with hk | hk
      · exact hS.removesPooled k hk
      · exact List.mem_singleton.1 hk ▸ hp
    · simp only [wants, List.mem_append, List.mem_singleton]
      by_cases hk : k = e.key <;> simp [hk]

/-! ### Runs -/

theorem perform_staged {st : Pool × σ} (hS : st.1.Staged) (op : PoolOp) :
    (perform obs dns net st op).1.Staged := by
  obtain ⟨pool, s⟩ := st
  cases op with
  | init addresses listening =>
    simp only [perform]
    split
    · rename_i r hr
      exact init_staged obs net hS.peers hr
    · exact hS
  | addProxy address established =>
    simp only [perform]
    split
    · rename_i pool' hr
      obtain ⟨e, -, hS', -⟩ := addPeer_spec hS hr
      exact hS'
    · exact hS
  | removeProxy address =>
    simp only [perform]
    split
    · rename_i pool' hr
      obtain ⟨e, -, hS', -⟩ := removePeer_spec hS hr
      exact hS'
    · exact hS
  | status => exact statusPass_staged obs net hS.peers true s
  | sendRequest r => exact hS.of_same (sendEach_same net pool r)
  | sendRequests rs => exact hS.of_same (sendAll_same net pool rs)
  | ping route => exact hS.of_same (sendEach_same net pool _)
  | pingUrl raw =>
    simp only [perform]
    split
    · rename_i pool' pings hr
      obtain ⟨r, rfl⟩ := pingUrl_eq_ok net hr
      exact hS.of_same (sendEach_same net pool r)
    · exact hS
  | proxyInfo => exact hS.of_same (sendEach_same net pool _)
  | proxyConfiguration => exact hS.of_same (sendEach_same net pool _)
  | markAllInError =>
    exact hS.of_same (⟨by simp [markAllInError, Function.comp_def], rfl, rfl⟩ :
      SameStaging pool pool.markAllInError)
  | resetDownToError =>
    exact hS.of_same (⟨by simp [resetDown, Function.comp_def], rfl, rfl⟩ :
      SameStaging pool pool.resetDown)
  | shutdown =>
    exact hS.of_same (⟨by simp [Pool.shutdown, Function.comp_def], rfl, rfl⟩ :
      SameStaging pool pool.shutdown)

/-- In every state a handler reaches from an empty pool the staging lists keep the invariant. -/
theorem Reachable.staged {st : Pool × σ} (h : Reachable obs st) : st.1.Staged := by
  induction h with
  | empty => exact staged_of_pending_nil List.nodup_nil rfl rfl
  | step dns net op _ ih => exact perform_staged obs net ih op

/-- An operation that cannot read one of its peer addresses changes nothing. -/
theorem perform_of_unreadable {st : Pool × σ} {op : PoolOp} {a : String} (ha : a ∈ op.addresses)
    (he : resolvePeerAddress dns (Bytes.ofString a) = .error err) : perform obs dns net st op = st := by
  obtain ⟨pool, s⟩ := st
  cases op
  case init addresses listening =>
    obtain ⟨err', h⟩ : ∃ err', pool.init dns net obs listening addresses s = .error err' :=
      init_eq_error obs net ha he
    simp only [perform, h]
  case addProxy address established =>
    rw [PoolOp.addresses, List.mem_singleton] at ha
    subst ha
    simp only [perform, addPeer_eq_error_iff.2 he]
  case removeProxy address =>
    rw [PoolOp.addresses, List.mem_singleton] at ha
    subst ha
    simp only [perform, removePeer_eq_error_iff.2 he]
  all_goals simp [PoolOp.addresses] at ha

/-- One staging call keeps the invariant and the pooled peers, and sets the key it names as it
asks. -/
theorem perform_staging {st : Pool × σ} (hS : st.1.Staged) {op : PoolOp} (hop : op.IsStaging) :
    (perform obs dns net st op).1.Staged ∧ (perform obs dns net st op).1.peers = st.1.peers ∧
      ∀ k, (perform obs dns net st op).1.wants k ↔
        op.staging dns = some (k, true) ∨ (st.1.wants k ∧ op.staging dns ≠ some (k, false)) := by
  obtain ⟨pool, s⟩ := st
  cases op
  case addProxy address established =>
    simp only [perform]
    split
    · rename_i pool' hr
      obtain ⟨e, he, hS', hpeers, hwants⟩ := addPeer_spec hS hr
      refine ⟨hS', hpeers, fun k => ?_⟩
      simp only [PoolOp.staging, he, Except.toOption, Option.map_some, Option.some.injEq,
        Prod.mk.injEq, and_true, Bool.true_eq_false, and_false, ne_eq, not_false_eq_true]
      rw [hwants, eq_comm]
    · rename_i err hr
      simp [PoolOp.staging, addPeer_eq_error_iff.1 hr, Except.toOption, hS]
  case removeProxy address =>
    simp only [perform]
    split
    · rename_i pool' hr
      obtain ⟨e, he, hS', hpeers, hwants⟩ := removePeer_spec hS hr
      refine ⟨hS', hpeers, fun k => ?_⟩
      simp only [PoolOp.staging, he, Except.toOption, Option.map_some, Option.some.injEq,
        Prod.mk.injEq, and_false, Bool.false_eq_true, false_or, and_true, ne_eq]
      rw [hwants, eq_comm, and_comm]
    · rename_i err hr
      simp [PoolOp.staging, removePeer_eq_error_iff.1 hr, Except.toOption, hS]
  all_goals exact hop.elim

/-- Over a run of staging calls the pooled peers stay, and the last call on each key decides
whether the pool wants it. -/
theorem run_staging :
    ∀ {ops : List (PoolOp × Network)} {st : Pool × σ}, st.1.Staged → (∀ o ∈ ops, o.1.IsStaging) →
      (run obs dns st ops).1.Staged ∧ (run obs dns st ops).1.peers = st.1.peers ∧
        ∀ k, (run obs dns st ops).1.wants k ↔
          PoolOp.lastStaging dns (ops.map Prod.fst) k = some true ∨
            (st.1.wants k ∧ PoolOp.lastStaging dns (ops.map Prod.fst) k ≠ some false)
  | [], st, hS, _ => ⟨hS, rfl, fun k => by simp [run, PoolOp.lastStaging]⟩
  | (op, net) :: ops, st, hS, hops => by
    obtain ⟨hS₁, hpeers₁, hwants₁⟩ := perform_staging obs net hS (hops (op, net) List.mem_cons_self)
    obtain ⟨hS', hpeers', hwants'⟩ := @run_staging ops _ hS₁
      fun o ho => hops o (List.mem_cons_of_mem _ ho)
    refine ⟨hS', hpeers'.trans hpeers₁, fun k => ?_⟩
    rw [run, List.foldl_cons, ← run, hwants', hwants₁, List.map_cons, PoolOp.lastStaging_cons]
    rcases PoolOp.lastStaging dns (ops.map Prod.fst) k with _ | b
    · rcases hst : op.staging dns with _ | ⟨k', b'⟩
      · simp
      · by_cases hk : k' = k
        · subst hk
          cases b' <;> simp
        · simp [hk]
    · cases b <;> simp

end Pool

open Pool

/-- The laws of staged membership from a state `st` of the handler: the staging lists keep their
invariant, an operation that cannot read an address changes nothing, and between two status
passes the last staging call on each key decides. The keys after the second pass are those
after the first, with each key whose last call was an addition added and each whose last call
was a removal removed; applying the staged changes keeps each remaining peer as it was but for
its connection, and brings each added one in new, in `error`. -/
structure StagingLaws {σ : Type} (obs : Observer σ) (st : Pool × σ) : Prop where
  staged : st.1.Staged
  unreadable : ∀ dns net op a err, a ∈ op.addresses →
    resolvePeerAddress dns (Bytes.ofString a) = .error err → perform obs dns net st op = st
  lastCallWins : ∀ (dns : Resolver) (net₁ net₂ : Network) (calls : List (PoolOp × Network)),
    (∀ o ∈ calls, o.1.IsStaging) →
      (∀ k, k ∈ (perform obs dns net₂ (run obs dns (perform obs dns net₁ st .status) calls)
          .status).1.peers.map Peer.key ↔
        PoolOp.lastStaging dns (calls.map Prod.fst) k = some true ∨
          (k ∈ (perform obs dns net₁ st .status).1.peers.map Peer.key ∧
            PoolOp.lastStaging dns (calls.map Prod.fst) k ≠ some false)) ∧
      (∀ k p q, (perform obs dns net₁ st .status).1.find? k = some p →
        (run obs dns (perform obs dns net₁ st .status) calls).1.applyPending.find? k = some q →
          q = p ∨ q = p.disconnect) ∧
      (∀ k q, (perform obs dns net₁ st .status).1.find? k = none →
        (run obs dns (perform obs dns net₁ st .status) calls).1.applyPending.find? k = some q →
          q.state = .error)

/-- Staged membership in every state a handler reaches from an empty pool. -/
theorem staging_laws {σ : Type} {obs : Observer σ} {st : Pool × σ} (hst : Reachable obs st) :
    StagingLaws obs st := by
  refine ⟨hst.staged, fun dns net op a err ha he => perform_of_unreadable obs net ha he, ?_⟩
  intro dns net₁ net₂ calls hcalls
  set first := perform obs dns net₁ st .status
  have hfirst : first.1.pendingAdd = [] ∧ first.1.pendingRemove = [] :=
    statusPass_pending obs net₁ st.1 true st.2
  have hS₁ : first.1.Staged := (hst.step dns net₁ .status).staged
  obtain ⟨hS₂, hpeers, hwants⟩ := run_staging obs hS₁ hcalls
  set staged := (run obs dns first calls).1
  refine ⟨fun k => ?_, fun k p q hp hq => ?_, fun k q hp hq => ?_⟩
  · rw [show (perform obs dns net₂ (run obs dns first calls) .status).1.peers.map Peer.key =
        staged.applyPending.peers.map Peer.key from statusPass_keys obs net₂ _ true _,
      mem_keys_applyPending hS₂.peers, hwants, wants_of_pending_nil hfirst.1 hfirst.2]
  · have hp' : staged.find? k = some p := by rw [find?, hpeers]; exact hp
    exact applyPending_find? hS₂.peers hp' hq
  · have hp' : staged.find? k = none := by rw [find?, hpeers]; exact hp
    obtain ⟨p, hp, rfl⟩ := applyPending_find?_of_none hp' hq
    exact hS₂.addsInError p hp

/-- A proxy staged and then added by a status pass whose probe fails: the handler reached this
way obeys the staging laws. -/
theorem staging_laws_after_one_addition :
    Reachable ({} : Observer Unit) (run {} Resolver.empty ({ basePath := "/" }, ())
        [(.addProxy ":6666" false, Network.unreachable), (.status, Network.unreachable)]) ∧
      StagingLaws {} (run {} Resolver.empty ({ basePath := "/" }, ())
        [(.addProxy ":6666" false, Network.unreachable), (.status, Network.unreachable)]) := by
  have hst : Reachable ({} : Observer Unit) (run {} Resolver.empty ({ basePath := "/" }, ())
      [(.addProxy ":6666" false, Network.unreachable), (.status, Network.unreachable)]) :=
    (Reachable.empty "/" ()).run _ _ _
  exact ⟨hst, staging_laws hst⟩

end ClusterAgent
