import ClusterAgent.Proofs.Batches
import ClusterAgent.Proofs.Staging

/-!
# What one status pass does

A status pass first applies the staged membership changes; when anything was staged, every
connection of the pool is dropped. It then gives each pooled peer a turn, in pool order
(`Revival`): a peer not in `error` is left alone; a peer in `error` is probed with `INFO`, and when
the probe succeeds the pass may realign it (`Realigned`): when the pass reconciles, the node can
make realigning requests and is ready to be announced (or no node listens), and the answer reads
as an inventory, the pass sends that peer the batch that realigns the inventory, which stops at its
first failure. An answer that does not read leaves the peer healthy, sent nothing more.

The node hears of a first connection at most once. In a pass it hears of it when a node listens,
it has not heard yet, and some probe succeeds; it then learns the local endpoint of the first peer
whose probe succeeded (`Pool.statusPass_node`), and every peer realigned in the pass sees the node
in that state. Over a whole run the pool remembers that it told the node (`Pool.announced`), so a
recording node hears of a first connection at most once in the lifetime of the handler
(`Pool.run_heard`).
-/

namespace ClusterAgent

variable {σ : Type}

/-- Whether a status pass brings the peer back: it is in `error` and its probe succeeds. -/
def Peer.revived (p : Peer) (net : Network) : Bool :=
  decide (p.state = .error) && (p.probe net).2.1.ok

/-- What follows a successful probe that left the peer as `p` with the answer `body`, the node
being in state `s`. When the pass reconciles, the node can make realigning requests and is ready
(or no node listens), and the answer reads as an inventory, the pass sends the batch that realigns
that inventory, which stops at its first failure, and leaves the peer as the batch does. Otherwise
the peer is sent nothing more and is left as the probe left it. -/
inductive Realigned (obs : Observer σ) (net : Network) (reconcile listening : Bool) (s : σ)
    (p : Peer) (body : Bytes) : Peer → List Bytes → Prop
  | quiet : (reconcile && obs.realign.isSome && (!listening || obs.ready s)) = false →
      Realigned obs net reconcile listening s p body p []
  | unreadable {e : InfoError} : reconcile = true → obs.realign.isSome = true →
      (!listening || obs.ready s) = true → Inventory.parse body = .error e →
      Realigned obs net reconcile listening s p body p []
  | batch {f : σ → Inventory → List Request} {inv : Inventory} {msgs : List Bytes} :
      reconcile = true → obs.realign = some f → (!listening || obs.ready s) = true →
      Inventory.parse body = .ok inv →
      (p.sendBatch net [] (f s inv)).2.2 = msgs.map (fun m => (p.key, m)) →
      StopsAtFailure (fun r => r.wire p.basePath p.hostHeader) (f s inv)
        (p.sendBatch net [] (f s inv)).2.1 msgs →
      Realigned obs net reconcile listening s p body (p.sendBatch net [] (f s inv)).1 msgs

/-- The turn of peer `p` in a status pass, which left it as `q` and sent it `msgs`, the node being
in state `s` once the probe succeeded. A peer not in `error` is left alone and sent nothing. A
peer in `error` is probed with `INFO`. When the probe fails the peer is left as the probe left it,
having received the probe at most once. When it succeeds the peer is healthy and received the
probe, and `Realigned` says what followed. -/
structure Revival (obs : Observer σ) (net : Network) (reconcile listening : Bool) (s : σ)
    (p q : Peer) (msgs : List Bytes) : Prop where
  idle : p.state ≠ .error → q = p ∧ msgs = []
  unanswered : p.state = .error → (p.probe net).2.1.ok = false →
    q = (p.probe net).1 ∧ msgs.Sublist [Request.info.wire p.basePath p.hostHeader]
  answered : p.state = .error → (p.probe net).2.1.ok = true →
    (p.probe net).1.state = .ok ∧ ∃ rest, msgs = Request.info.wire p.basePath p.hostHeader :: rest ∧
      Realigned obs net reconcile listening s (p.probe net).1 (p.probe net).2.1.body q rest

namespace Revival

variable {obs : Observer σ} {net : Network} {reconcile listening : Bool} {s : σ} {p q : Peer}
  {msgs : List Bytes}

theorem of_idle (hp : p.state ≠ .error) : Revival obs net reconcile listening s p p [] :=
  ⟨fun _ => ⟨rfl, rfl⟩, fun h => absurd h hp, fun h => absurd h hp⟩

theorem of_unanswered (hp : p.state = .error) (hok : (p.probe net).2.1.ok = false) :
    Revival obs net reconcile listening s p (p.probe net).1 (Peer.delivered (p.probe net).2.2) :=
  ⟨fun h => absurd hp h, fun _ _ => ⟨rfl, Peer.delivered_send _ net _⟩,
    fun _ h => absurd h (by simp [hok])⟩

/-- A peer whose probe succeeded received the probe, then what realigned it. -/
theorem of_answered (hp : p.state = .error) (hok : (p.probe net).2.1.ok = true) {rest : List Bytes}
    (h : Realigned obs net reconcile listening s (p.probe net).1 (p.probe net).2.1.body q rest) :
    Revival obs net reconcile listening s p q
      (Request.info.wire p.basePath p.hostHeader :: rest) := by
  obtain ⟨hst, -⟩ : (p.probe net).1.state = .ok ∧
      Peer.delivered (p.probe net).2.2 = [Request.info.wire p.basePath p.hostHeader] :=
    Peer.send_reply_ok _ net _ hok
  exact ⟨fun h' => absurd hp h', fun _ h' => by simp [hok] at h', fun _ _ => ⟨hst, rest, rfl, h⟩⟩

/-- Only a turn that brought its peer back depends on the node's state. -/
theorem congr_node {s' : σ} (h : Revival obs net reconcile listening s p q msgs)
    (hs : p.revived net = true → s = s') : Revival obs net reconcile listening s' p q msgs := by
  refine ⟨h.idle, h.unanswered, fun he hok => ?_⟩
  rw [← hs (by simp [Peer.revived, he, hok])]
  exact h.answered he hok

theorem key_eq (h : Revival obs net reconcile listening s p q msgs) : q.key = p.key := by
  by_cases hp : p.state = .error
  · have hkey : (p.probe net).1.key = p.key := Peer.send_key _ net _
    cases hok : (p.probe net).2.1.ok
    · rw [(h.unanswered hp hok).1, hkey]
    · obtain ⟨-, rest, -, hre⟩ := h.answered hp hok
      cases hre with
      | quiet => exact hkey
      | unreadable => exact hkey
      | @batch f inv _ _ _ _ _ _ _ =>
        obtain ⟨-, -, hk, -⟩ := (p.probe net).1.sendBatch_turn net [] (f s inv)
        rw [hk, hkey]
  · rw [(h.idle hp).1]

end Revival

namespace Pool

variable (obs : Observer σ) (net : Network)

/-- One peer's turn in a status pass. The node hears of the connection when a node listens, it has
not heard yet, and the turn brings the peer back. -/
theorem revive_spec (reconcile listening : Bool) (done : List Peer) (announced : Bool) (s : σ)
    (log : List (String × Bytes)) (p : Peer) :
    ∃ q msgs, revive obs net reconcile listening (done, announced, s, log) p =
      (done ++ [q], announced || listening && p.revived net,
        if listening && !announced && p.revived net then
          obs.connected s (p.probe net).1.localEndpoint else s,
        log ++ msgs.map fun m => (p.key, m)) ∧
      Revival obs net reconcile listening
        (if listening && !announced && p.revived net then
          obs.connected s (p.probe net).1.localEndpoint else s) p q msgs := by
  by_cases hp : p.state = .error
  · have hkey : (p.probe net).1.key = p.key := Peer.send_key _ net _
    cases hok : (p.probe net).2.1.ok
    · -- the probe failed: the peer is left as the probe left it
      have hrev : p.revived net = false := by simp [Peer.revived, hok]
      refine ⟨(p.probe net).1, Peer.delivered (p.probe net).2.2, ?_, .of_unanswered hp hok⟩
      simp only [hrev, Bool.and_false, Bool.or_false]
      unfold revive
      simp [hp, hok, hkey]
    · have hrev : p.revived net = true := by simp [Peer.revived, hp, hok]
      have hmsg : Peer.delivered (p.probe net).2.2 = [Request.info.wire p.basePath p.hostHeader] :=
        (Peer.send_reply_ok _ net _ hok).2
      simp only [hrev, Bool.and_true]
      unfold revive
      simp only [hp, ne_eq, not_true_eq_false, hok, Bool.not_true, Bool.false_eq_true, ↓reduceIte,
        hkey, hmsg, List.map_cons, List.map_nil]
      have hnode : (if (listening && !announced) = true then
            (true, obs.connected s (p.probe net).1.localEndpoint) else (announced, s)) =
          (announced || listening, if (listening && !announced) = true then
            obs.connected s (p.probe net).1.localEndpoint else s) := by
        cases listening <;> cases announced <;> rfl
      rw [hnode]
      generalize (if (listening && !announced) = true then
        obs.connected s (p.probe net).1.localEndpoint else s) = s₁
      dsimp only
      rcases hf : obs.realign with _ | f
      · -- the node makes no realigning requests
        exact ⟨_, _, rfl, .of_answered hp hok (.quiet (by simp [hf]))⟩
      · dsimp only
        by_cases hc : (reconcile && (!listening || obs.ready s₁)) = true
        · rw [if_pos hc]
          obtain ⟨hr, hready⟩ : reconcile = true ∧ (!listening || obs.ready s₁) = true := by
            simpa using hc
          rcases hparse : Inventory.parse (p.probe net).2.1.body with e | inv
          · -- an answer that does not read: nothing more is sent
            exact ⟨_, _, rfl, .of_answered hp hok (.unreadable hr (by simp [hf]) hready hparse)⟩
          · -- the realigning batch goes to the peer the probe left
            obtain ⟨msgs, hlog, hstop⟩ := (p.probe net).1.sendBatch_stops net [] (f s₁ inv)
            rw [List.nil_append, hkey] at hlog
            refine ⟨_, Request.info.wire p.basePath p.hostHeader :: msgs, ?_,
              .of_answered hp hok (.batch hr hf hready hparse (by rw [hlog, hkey]) hstop)⟩
            dsimp only
            rw [Peer.sendBatch_log _ net (log ++ _), hlog]
            simp
        · rw [if_neg hc]
          exact ⟨_, _, rfl, .of_answered hp hok (.quiet (by simpa [hf] using hc))⟩
  · -- a peer not in `error` is left alone
    have hrev : p.revived net = false := by simp [Peer.revived, hp]
    refine ⟨p, [], ?_, .of_idle hp⟩
    simp [revive, hp, hrev]

/-- The first peer of `ps` that a status pass brings back, as its probe left it. -/
def firstRevived (ps : List Peer) : Option Peer :=
  (ps.find? (·.revived net)).map fun p => (p.probe net).1

/-- The node after a pass over `ps`: it hears of the first peer brought back, and only if a node
listens and has not heard yet. -/
theorem foldl_revive_node (reconcile listening : Bool) (ps done : List Peer) (announced : Bool)
    (s : σ) (log : List (String × Bytes)) :
    (ps.foldl (revive obs net reconcile listening) (done, announced, s, log)).2.1 =
        (announced || listening && (firstRevived net ps).isSome) ∧
      (ps.foldl (revive obs net reconcile listening) (done, announced, s, log)).2.2.1 =
        if listening && !announced then
          (firstRevived net ps).elim s fun q => obs.connected s q.localEndpoint
        else s := by
  induction ps generalizing done announced s log with
  | nil => simp [firstRevived]
  | cons p ps ih =>
    obtain ⟨q, msgs, hturn, -⟩ := revive_spec obs net reconcile listening done announced s log p
    rw [List.foldl_cons, hturn, (ih _ _ _ _).1, (ih _ _ _ _).2]
    cases hrev : p.revived net
    · simp [firstRevived, hrev]
    · -- the node has heard, or nobody listens: the rest of the pass leaves it alone
      cases listening <;> cases announced <;> simp [firstRevived, hrev]

/-- A pass over `ps` gives each peer its turn, in order, every peer brought back seeing the node as
the pass leaves it. -/
theorem foldl_revive_turns (reconcile listening : Bool) (ps done : List Peer) (announced : Bool)
    (s : σ) (log : List (String × Bytes)) :
    ∃ qs L,
      (ps.foldl (revive obs net reconcile listening) (done, announced, s, log)).1 = done ++ qs ∧
      (ps.foldl (revive obs net reconcile listening) (done, announced, s, log)).2.2.2 = log ++ L ∧
      Turns (Revival obs net reconcile listening
        (ps.foldl (revive obs net reconcile listening) (done, announced, s, log)).2.2.1)
        ps qs L := by
  induction ps generalizing done announced s log with
  | nil => exact ⟨[], [], by simp, by simp, .nil⟩
  | cons p ps ih =>
    obtain ⟨q, msgs, hturn, hrev⟩ := revive_spec obs net reconcile listening done announced s log p
    rw [List.foldl_cons, hturn]
    obtain ⟨qs, L, hdone, hlog, hT⟩ := ih (done ++ [q]) (announced || listening && p.revived net)
      (if listening && !announced && p.revived net then
        obs.connected s (p.probe net).1.localEndpoint else s)
      (log ++ msgs.map fun m => (p.key, m))
    refine ⟨q :: qs, msgs.map (fun m => (p.key, m)) ++ L, by rw [hdone]; simp, by rw [hlog]; simp,
      .cons msgs hrev.key_eq (hrev.congr_node fun hp => ?_) hT⟩
    -- once the peer is back, the node has heard or nobody listens, so the rest keeps its state
    rw [(foldl_revive_node obs net reconcile listening ps _ _ _ _).2, hp]
    cases listening <;> cases announced <;> simp

/-! ### The pass -/

@[simp] theorem applyPending_listening (pool : Pool) :
    pool.applyPending.listening = pool.listening := by
  unfold applyPending
  split <;> rfl

@[simp] theorem applyPending_announced (pool : Pool) :
    pool.applyPending.announced = pool.announced := by
  unfold applyPending
  split <;> rfl

theorem applyPending_of_nil {pool : Pool} (hadd : pool.pendingAdd = [])
    (hrem : pool.pendingRemove = []) : pool.applyPending = pool := by
  simp [applyPending, hadd, hrem]

/-- When anything was staged, applying it drops every connection of the pool. -/
theorem applyPending_disconnects {pool : Pool}
    (h : pool.pendingAdd ≠ [] ∨ pool.pendingRemove ≠ []) :
    ∀ p ∈ pool.applyPending.peers, p.link = none := by
  have hstaged : (pool.pendingAdd.isEmpty && pool.pendingRemove.isEmpty) = false := by
    rcases h with h | h <;> simp [List.isEmpty_iff, h]
  intro p hp
  simp only [applyPending, hstaged, Bool.false_eq_true, if_false, List.mem_map] at hp
  obtain ⟨q, -, rfl⟩ := hp
  rfl

/-- A status pass is the fold of the turns over the peers that survive the staged changes,
starting from the pool's own flags and log. -/
theorem statusPass_eq (pool : Pool) (reconcile : Bool) (s : σ) :
    pool.statusPass net obs reconcile s =
      (fun r : List Peer × Bool × σ × List (String × Bytes) =>
        ({ pool.applyPending with peers := r.1, announced := r.2.1, log := r.2.2.2 }, r.2.2.1))
        (pool.applyPending.peers.foldl (revive obs net reconcile pool.listening)
          ([], pool.announced, s, pool.log)) := by
  unfold statusPass
  simp only [applyPending_listening, applyPending_announced, applyPending_log]

/-- The node after a status pass: it hears of the first peer the pass brings back, when a node
listens and has not heard yet. -/
theorem statusPass_node (pool : Pool) (reconcile : Bool) (s : σ) :
    (pool.statusPass net obs reconcile s).2 =
      if pool.listening && !pool.announced then
        (firstRevived net pool.applyPending.peers).elim s fun q => obs.connected s q.localEndpoint
      else s := by
  rw [statusPass_eq]
  exact (foldl_revive_node obs net reconcile pool.listening pool.applyPending.peers []
    pool.announced s pool.log).2

/-- The pool remembers that its node heard of a first connection. -/
theorem statusPass_announced (pool : Pool) (reconcile : Bool) (s : σ) :
    (pool.statusPass net obs reconcile s).1.announced =
      (pool.announced || pool.listening && (firstRevived net pool.applyPending.peers).isSome) := by
  rw [statusPass_eq]
  exact (foldl_revive_node obs net reconcile pool.listening pool.applyPending.peers []
    pool.announced s pool.log).1

/-- A status pass gives each peer that survives the staged changes its turn, in pool order, and
logs what each was sent under its key. -/
theorem statusPass_revivals (pool : Pool) (reconcile : Bool) (s : σ) :
    ∃ L, (pool.statusPass net obs reconcile s).1.log = pool.log ++ L ∧
      Turns (Revival obs net reconcile pool.listening (pool.statusPass net obs reconcile s).2)
        pool.applyPending.peers (pool.statusPass net obs reconcile s).1.peers L := by
  obtain ⟨qs, L, hdone, hlog, hT⟩ := foldl_revive_turns obs net reconcile pool.listening
    pool.applyPending.peers [] pool.announced s pool.log
  rw [List.nil_append] at hdone
  rw [statusPass_eq]
  dsimp only
  rw [hdone]
  exact ⟨L, hlog, hT⟩

/-! ### A first connection, heard of once -/

theorem addPeer_announced {pool pool' : Pool} {dns : Resolver} {address : String}
    {established : Bool} (h : pool.addPeer dns address established = .ok pool') : pool'.announced = pool.announced := by
  obtain ⟨e, -, hcase⟩ := addPeer_cases h
  rcases hcase with ⟨-, rfl⟩ | ⟨-, -, rfl⟩ | ⟨-, -, -, rfl⟩ <;> rfl

theorem removePeer_announced {pool pool' : Pool} {dns : Resolver} {address : String}
    (h : pool.removePeer dns address = .ok pool') : pool'.announced = pool.announced := by
  obtain ⟨e, -, hcase⟩ := removePeer_cases h
  rcases hcase with ⟨-, rfl⟩ | ⟨-, -, rfl⟩ | ⟨-, -, -, rfl⟩ <;> rfl

theorem sendEach_announced (pool : Pool) (r : Request) :
    (pool.sendEach net r).1.announced = pool.announced := by
  unfold sendEach
  split
  rfl

theorem sendAll_announced (pool : Pool) (rs : List Request) :
    (pool.sendAll net rs).1.announced = pool.announced := by
  unfold sendAll
  split
  rfl

theorem init_spec {pool : Pool} {dns : Resolver} {listening : Bool} {addresses : List String}
    {s : σ} {r : Pool × σ} (h : pool.init dns net obs listening addresses s = .ok r) :
    ∃ es, r = ({ ({ pool.seed es with listening }.statusPass net obs false s).1 with
      initialized := true }, ({ pool.seed es with listening }.statusPass net obs false s).2) := by
  unfold init at h
  split at h
  · cases h
  · rename_i es _
    cases h
    exact ⟨es, rfl⟩

end Pool

/-- The node `obs`, also recording every local endpoint it is told of. -/
def Observer.recording (obs : Observer σ) : Observer (σ × List (Option Endpoint)) where
  connected s e := (obs.connected s.1 e, s.2 ++ [e])
  ready s := obs.ready s.1
  realign := obs.realign.map fun f s => f s.1

namespace Pool

variable (obs : Observer σ)

/-- A recording node has heard of one first connection once the pool told it, of none before. -/
def HeardOnce (st : Pool × σ × List (Option Endpoint)) : Prop :=
  st.2.2.length = if st.1.announced then 1 else 0

theorem statusPass_heardOnce (net : Network) (pool : Pool) (reconcile : Bool) (s : σ)
    (heard : List (Option Endpoint)) (h : HeardOnce (pool, s, heard)) :
    HeardOnce (pool.statusPass net obs.recording reconcile (s, heard)) := by
  unfold HeardOnce at h ⊢
  rw [statusPass_node, statusPass_announced]
  cases hl : pool.listening <;> cases ha : pool.announced <;> rw [ha] at h <;>
    cases hf : firstRevived net pool.applyPending.peers <;>
    simp [h, Observer.recording]

/-- Every operation keeps what the node heard in step with what the pool remembers. -/
theorem perform_heardOnce {st : Pool × σ × List (Option Endpoint)} (h : HeardOnce st)
    (dns : Resolver) (net : Network) (op : PoolOp) :
    HeardOnce (perform obs.recording dns net st op) := by
  obtain ⟨pool, s, heard⟩ := st
  have keep : ∀ pool' : Pool, pool'.announced = pool.announced → HeardOnce (pool', s, heard) :=
    fun pool' hp => by unfold HeardOnce at h ⊢; rw [hp]; exact h
  cases op with
  | init addresses listening =>
    simp only [perform]
    split
    · rename_i r hr
      obtain ⟨es, rfl⟩ := init_spec obs.recording net hr
      exact statusPass_heardOnce obs net _ false s heard h
    · exact h
  | addProxy address established =>
    simp only [perform]
    split
    · exact keep _ (addPeer_announced ‹_›)
    · exact h
  | removeProxy address =>
    simp only [perform]
    split
    · exact keep _ (removePeer_announced ‹_›)
    · exact h
  | status => exact statusPass_heardOnce obs net pool true s heard h
  | sendRequest r => exact keep _ (sendEach_announced net pool r)
  | sendRequests rs => exact keep _ (sendAll_announced net pool rs)
  | ping route => exact keep _ (sendEach_announced net pool _)
  | pingUrl raw =>
    simp only [perform]
    split
    · rename_i pool' pings hr
      obtain ⟨r, rfl⟩ := pingUrl_eq_ok net hr
      exact keep _ (sendEach_announced net pool r)
    · exact h
  | proxyInfo => exact keep _ (sendEach_announced net pool _)
  | proxyConfiguration => exact keep _ (sendEach_announced net pool _)
  | markAllInError => exact keep _ rfl
  | resetDownToError => exact keep _ rfl
  | shutdown => exact keep _ rfl

theorem run_heardOnce {st : Pool × σ × List (Option Endpoint)} (h : HeardOnce st) (dns : Resolver) :
    ∀ ops, HeardOnce (run obs.recording dns st ops)
  | [] => h
  | (op, net) :: ops => run_heardOnce (perform_heardOnce obs h dns net op) dns ops

/-- Over every run of the handler from an empty pool, a recording node hears of a first
connection at most once. -/
theorem run_heard (dns : Resolver) (basePath : String) (s : σ) (ops : List (PoolOp × Network)) :
    (run obs.recording dns ({ basePath := basePath }, (s, [])) ops).2.2.length ≤ 1 := by
  have h : HeardOnce (run obs.recording dns ({ basePath := basePath }, (s, [])) ops) :=
    run_heardOnce obs (by simp [HeardOnce]) dns ops
  unfold HeardOnce at h
  rw [h]
  split <;> decide

end Pool

theorem Turns.mono {R R' : Peer → Peer → List Bytes → Prop}
    (hR : ∀ p q msgs, R p q msgs → R' p q msgs) {ps qs : List Peer} {log : List (String × Bytes)}
    (h : Turns R ps qs log) : Turns R' ps qs log := by
  induction h with
  | nil => exact .nil
  | cons msgs hk hr _ ih => exact .cons msgs hk (hR _ _ _ hr) ih

open Pool in
/-- What one status pass does, for every pool, node and network. The staged changes are applied
first; when anything was staged every connection of the pool is dropped, and when nothing was the
pool is left as it was. Then each peer that survived them takes its turn, in pool order, what it
was sent logged under its key (`Revival`): only peers in `error` are probed with `INFO`; a peer
whose probe succeeds is realigned only when the pass reconciles, the node can realign and is ready
(or no node listens) and the answer reads as an inventory, by the batch that realigns that
inventory, which stops at its first failure; an answer that does not read leaves the peer healthy
and sent nothing more. The node hears of the local endpoint of the first peer the pass brought
back, and only when a node listens and has not heard yet; the pool remembers that it has. Over the
whole life of the handler a recording node hears of a first connection at most once. -/
theorem status_pass_laws (obs : Observer σ) (net : Network) (reconcile : Bool) (pool : Pool)
    (s : σ) :
    ((pool.pendingAdd ≠ [] ∨ pool.pendingRemove ≠ []) →
        ∀ p ∈ pool.applyPending.peers, p.link = none) ∧
      (pool.pendingAdd = [] → pool.pendingRemove = [] → pool.applyPending = pool) ∧
      (∃ L, (pool.statusPass net obs reconcile s).1.log = pool.log ++ L ∧
        Turns (Revival obs net reconcile pool.listening (pool.statusPass net obs reconcile s).2)
          pool.applyPending.peers (pool.statusPass net obs reconcile s).1.peers L) ∧
      (pool.statusPass net obs reconcile s).2 =
        (if pool.listening && !pool.announced then
          (firstRevived net pool.applyPending.peers).elim s fun q => obs.connected s q.localEndpoint
        else s) ∧
      (pool.statusPass net obs reconcile s).1.announced =
        (pool.announced || pool.listening && (firstRevived net pool.applyPending.peers).isSome) ∧
      ∀ (dns : Resolver) (basePath : String) (s₀ : σ) (ops : List (PoolOp × Network)),
        (run obs.recording dns ({ basePath := basePath }, (s₀, [])) ops).2.2.length ≤ 1 :=
  ⟨applyPending_disconnects, applyPending_of_nil, statusPass_revivals obs net pool reconcile s,
    statusPass_node obs net pool reconcile s, statusPass_announced obs net pool reconcile s,
    run_heard obs⟩

/-- A batch stops at its first failure, for every pool, batch and network. A fan-out of `rs`
answers each pooled peer, in pool order, with one reply per request, the replies succeeding for
some first `n` requests and failing from then on, and the peer received those `n` requests, in
order, and at most the one after them. The batch a status pass sends to realign a peer it brought
back, after the `INFO` probe, stops the same way. -/
theorem batch_stops_at_first_failure (pool : Pool) (net : Network) (rs : List Request) :
    (∃ batches : List (List Reply × List Bytes),
      (pool.sendAll net rs).2 = List.zipWith (fun p b => (p.key, b.1)) pool.peers batches ∧
      (pool.sendAll net rs).1.log =
        pool.log ++
          (List.zipWith (fun p b => b.2.map fun m => (p.key, m)) pool.peers batches).flatten ∧
      List.Forall₂
        (fun p b => ∃ n, FailsFrom (fun r => r.wire p.basePath p.hostHeader) rs b.1 b.2 n)
        pool.peers batches) ∧
    ∀ (obs : Observer σ) (reconcile : Bool) (s : σ), ∃ L,
      (pool.statusPass net obs reconcile s).1.log = pool.log ++ L ∧
      Turns (fun p q msgs => p.revived net = true →
          ∃ rest, msgs = Request.info.wire p.basePath p.hostHeader :: rest ∧
            (rest = [] ∨ ∃ rs' n, q = ((p.probe net).1.sendBatch net [] rs').1 ∧
              FailsFrom (fun r => r.wire p.basePath p.hostHeader) rs'
                ((p.probe net).1.sendBatch net [] rs').2.1 rest n))
        pool.applyPending.peers (pool.statusPass net obs reconcile s).1.peers L := by
  refine ⟨?_, fun obs reconcile s => ?_⟩
  · obtain ⟨batches, hreplies, hlog, hstops⟩ := pool.sendAll_stops net rs
    exact ⟨batches, hreplies, hlog, hstops.imp fun _ _ h => h.failsFrom⟩
  · obtain ⟨L, hlog, hT⟩ := Pool.statusPass_revivals obs net pool reconcile s
    refine ⟨L, hlog, hT.mono fun p q msgs hrev hback => ?_⟩
    obtain ⟨he, hok⟩ : p.state = .error ∧ (p.probe net).2.1.ok = true := by
      simpa [Peer.revived] using hback
    obtain ⟨-, rest, hmsgs, hre⟩ := hrev.answered he hok
    have hwire : (fun r : Request => r.wire (p.probe net).1.basePath (p.probe net).1.hostHeader) =
        fun r => r.wire p.basePath p.hostHeader := by
      rw [Peer.probe, Peer.send_basePath, Peer.send_hostHeader]
      rfl
    refine ⟨rest, hmsgs, ?_⟩
    cases hre with
    | quiet => exact .inl rfl
    | unreadable => exact .inl rfl
    | @batch f inv _ _ _ _ _ _ hstop =>
      obtain ⟨n, hn⟩ := hstop.failsFrom
      rw [hwire] at hn
      exact .inr ⟨f _ inv, n, rfl, hn⟩

end ClusterAgent
