import ClusterAgent.Peer.Handler
import ClusterAgent.Proofs.Sending
import Mathlib.Data.List.Nodup

/-!
# Peer health over runs of the handler

Each operation of the handler may change a peer's health in one way only
(`PoolOp.Moves`): a status pass probes a peer in `error`, which comes back, stays failed or goes
down; a send fails a healthy peer into `error` or `down`; `markAllInError` sends healthy peers
to `error`; `resetDownToError` sends peers that are down to `error`; membership changes and
`shutdown` change no health. A peer that is down is sent nothing at all, and a peer in `error`
only the `INFO` probe of a status pass, after which it is sent more only if the probe brought it
back (`PeerStep`).

The pool is a list, and most operations give every peer a turn in a fold. `Turns` records such a
pass, peer by peer, with what each one was sent; when no two peers share a key, the peer of a
key before and after the pass are related by the pass's per-peer law (`Turns.find?`). Each
operation's law (`perform_acts`) is then assembled from the law of one send, one probe or one
change of state. Over a whole run from an empty pool, keys stay distinct (`Reachable.wellKeyed`),
and a peer the pool keeps throughout never loses `established`; one that is down stays down and
is sent nothing until `resetDownToError` (`run_keeps`). `peer_health_laws` gathers both.
-/

namespace ClusterAgent

/-- What a status pass may do to a peer's health: only a failed peer is probed; it may come back,
stay failed or go down. -/
def ProbeMove (a b : PeerState) : Prop := b = a ∨ a = .error ∧ (b = .ok ∨ b = .down)

theorem ProbeMove.of_error {b : PeerState} (hb : b = .ok ∨ b = .error ∨ b = .down) :
    ProbeMove .error b := by
  rcases hb with rfl | rfl | rfl
  · exact .inr ⟨rfl, .inl rfl⟩
  · exact .inl rfl
  · exact .inr ⟨rfl, .inr rfl⟩

theorem SendMove.known {a b : PeerState} (h : SendMove a b)
    (ha : a = .ok ∨ a = .error ∨ a = .down) : b = .ok ∨ b = .error ∨ b = .down := by
  rcases h with rfl | ⟨-, hb | hb⟩
  · exact ha
  · exact .inr (.inl hb)
  · exact .inr (.inr hb)

namespace PoolOp

/-- The changes of health an operation may make to a peer it keeps. -/
def Moves : PoolOp → PeerState → PeerState → Prop
  | .init _ _, a, b | .status, a, b => ProbeMove a b
  | .sendRequest _, a, b | .sendRequests _, a, b | .ping _, a, b | .pingUrl _, a, b
  | .proxyInfo, a, b | .proxyConfiguration, a, b => SendMove a b
  | .markAllInError, a, b => b = a ∨ a = .ok ∧ b = .error
  | .resetDownToError, a, b => b = a ∨ a = .down ∧ b = .error
  | .addProxy _ _, a, b | .removeProxy _, a, b | .shutdown, a, b => b = a

theorem Moves.refl (op : PoolOp) (a : PeerState) : op.Moves a a := by
  cases op <;> simp [Moves, ProbeMove, SendMove]

/-- Only `resetDownToError` takes a peer out of `down`. -/
theorem Moves.down {op : PoolOp} {b : PeerState} (hop : op ≠ .resetDownToError)
    (h : op.Moves .down b) : b = .down := by
  cases op
  case resetDownToError => exact absurd rfl hop
  all_goals simpa [Moves, ProbeMove, SendMove] using h

/-- Whether an operation runs a status pass. -/
def probes : PoolOp → Bool
  | .init _ _ | .status => true
  | _ => false

end PoolOp

/-- What one operation did to a peer `p` that it kept as `q`, sending it `msgs`. Its health moved
as the operation allows; it stayed established; if it was down it was sent nothing; if it was in
`error` it was sent nothing, or, in a status pass, the `INFO` probe and then more only if the probe
brought it back. -/
structure PeerStep (op : PoolOp) (net : Network) (p q : Peer) (msgs : List Bytes) : Prop where
  moves : op.Moves p.state q.state
  established : p.established → q.established
  down : p.state = .down → msgs = []
  error : p.state = .error → msgs = [] ∨ op.probes = true ∧
    ∃ rest, msgs = Request.info.wire p.basePath p.hostHeader :: rest ∧
      (rest ≠ [] → (p.probe net).1.state = .ok)

theorem SendTurn.peerStep {op : PoolOp} {net : Network} {p q : Peer} {msgs : List Bytes}
    (hop : ∀ a b, SendMove a b → op.Moves a b) (h : SendTurn p q msgs) :
    PeerStep op net p q msgs where
  moves := hop _ _ h.moves
  established := h.established
  down hp := h.skipped (by rw [hp]; decide)
  error hp := .inl (h.skipped (by rw [hp]; decide))

/-- One peer's turn in a status pass: its health moves as a probe allows, it stays established,
a peer not in `error` is sent nothing, and one in `error` is sent the `INFO` probe and more only
once the probe brought it back. -/
structure ProbeTurn (net : Network) (p q : Peer) (msgs : List Bytes) : Prop where
  moves : ProbeMove p.state q.state
  established : p.established → q.established
  skipped : p.state ≠ .error → msgs = []
  probe : msgs = [] ∨ ∃ rest, msgs = Request.info.wire p.basePath p.hostHeader :: rest ∧
    (rest ≠ [] → (p.probe net).1.state = .ok)

theorem ProbeTurn.peerStep {op : PoolOp} {net : Network} {p q : Peer} {msgs : List Bytes}
    (hop : ∀ a b, ProbeMove a b → op.Moves a b) (hprobes : op.probes = true)
    (h : ProbeTurn net p q msgs) : PeerStep op net p q msgs where
  moves := hop _ _ h.moves
  established := h.established
  down hp := h.skipped (by rw [hp]; decide)
  error _ := h.probe.imp id fun hr => ⟨hprobes, hr⟩

namespace Peer

@[simp] theorem disconnect_key (p : Peer) : p.disconnect.key = p.key := rfl

@[simp] theorem markError_key (p : Peer) : p.markError.key = p.key := by
  unfold markError
  split <;> rfl

@[simp] theorem reset_key (p : Peer) : p.reset.1.key = p.key := by
  unfold reset
  split <;> rfl

theorem probe_turn (net : Network) (p : Peer) (hp : p.state = .error) :
    ProbeTurn net p (p.probe net).1 (delivered (p.probe net).2.2) := by
  have hturn := Peer.send_turn { p with link := none, state := .ok } net Request.info
  refine ⟨?_, hturn.established, fun h => absurd hp h, ?_⟩
  · rw [hp]
    exact .of_error (Peer.send_state_of_ok { p with link := none, state := .ok } net _ rfl)
  · rcases List.sublist_singleton.1 (Peer.delivered_send { p with link := none, state := .ok }
      net Request.info) with h | h
    · exact .inl h
    · exact .inr ⟨[], h, fun h => absurd rfl h⟩

end Peer

/-! ## Passes over the peers -/

/-- `Turns R ps qs log`: the peers `ps` each took a turn, in order, and became `qs`; each kept its
key, was sent some messages, logged in `log` under its key, and is related to what it became by
`R`. -/
inductive Turns (R : Peer → Peer → List Bytes → Prop) :
    List Peer → List Peer → List (String × Bytes) → Prop
  | nil : Turns R [] [] []
  | cons {p q : Peer} {ps qs : List Peer} {log : List (String × Bytes)} (msgs : List Bytes) :
      q.key = p.key → R p q msgs → Turns R ps qs log →
      Turns R (p :: ps) (q :: qs) (msgs.map (fun b => (p.key, b)) ++ log)

namespace Turns

variable {R : Peer → Peer → List Bytes → Prop} {ps qs : List Peer} {log : List (String × Bytes)}

theorem keys (h : Turns R ps qs log) : qs.map Peer.key = ps.map Peer.key := by
  induction h with
  | nil => rfl
  | cons msgs hk _ _ ih => simp [hk, ih]

theorem key_mem_of_mem_log (h : Turns R ps qs log) {e : String × Bytes} (he : e ∈ log) :
    e.1 ∈ ps.map Peer.key := by
  induction h with
  | nil => cases he
  | @cons p q ps qs log msgs _ _ _ ih =>
    rcases List.mem_append.1 he with he | he
    · obtain ⟨b, -, rfl⟩ := List.mem_map.1 he
      exact List.mem_cons_self
    · exact List.mem_cons_of_mem _ (ih he)

/-- In a pass over peers with distinct keys, the peer of a key took its turn and became the peer
of that key afterwards, and what the log holds under that key is what it was sent. -/
theorem find? (h : Turns R ps qs log) (hnd : (ps.map Peer.key).Nodup) {k : String} {p : Peer}
    (hp : ps.find? (·.key == k) = some p) :
    ∃ q msgs, qs.find? (·.key == k) = some q ∧ R p q msgs ∧
      (log.filter (·.1 == k)).map (·.2) = msgs := by
  induction h with
  | nil => cases hp
  | @cons p₀ q₀ ps qs log msgs hk hR hT ih =>
    rw [List.map_cons, List.nodup_cons] at hnd
    by_cases h₀ : p₀.key = k
    · -- the peer of the key takes this turn; no later peer has its key
      subst h₀
      simp only [List.find?_cons, beq_self_eq_true, Option.some.injEq] at hp
      subst hp
      have hrest : log.filter (·.1 == p₀.key) = [] := by
        refine List.filter_eq_nil_iff.2 fun e he hek => hnd.1 ?_
        rw [← beq_iff_eq.1 hek]
        exact hT.key_mem_of_mem_log he
      refine ⟨q₀, msgs, by simp [hk], hR, ?_⟩
      simp [List.filter_append, hrest, List.filter_map, Function.comp_def]
    · rw [List.find?_cons_of_neg (by simpa using h₀)] at hp
      obtain ⟨q, m, hq, hRq, hlog⟩ := ih hnd.2 hp
      refine ⟨q, m, by simp [hk, h₀, hq], hRq, ?_⟩
      simp [List.filter_append, List.filter_map, Function.comp_def, h₀, hlog]

/-- A fold that gives each peer one turn, appending what it became and logging what it was sent,
is a pass. -/
theorem of_foldl {α : Type} (done : α → List Peer) (sent : α → List (String × Bytes))
    {f : α → Peer → α} {ps : List Peer} {a b : α} (hb : ps.foldl f a = b)
    (hf : ∀ a p, ∃ q msgs, done (f a p) = done a ++ [q] ∧
      sent (f a p) = sent a ++ msgs.map (fun b => (p.key, b)) ∧ q.key = p.key ∧ R p q msgs) :
    ∃ qs L, done b = done a ++ qs ∧ sent b = sent a ++ L ∧ Turns R ps qs L := by
  subst hb
  induction ps generalizing a with
  | nil => exact ⟨[], [], by simp, by simp, .nil⟩
  | cons p ps ih =>
    obtain ⟨q, msgs, hd, hs, hk, hR⟩ := hf a p
    obtain ⟨qs, L, hd', hs', hT⟩ := @ih (f a p)
    exact ⟨q :: qs, msgs.map (fun b => (p.key, b)) ++ L, by simp [hd', hd], by simp [hs', hs],
      .cons msgs hk hR hT⟩

end Turns

/-! ## The pool seen one peer at a time -/

namespace Pool

/-- The peer with a key. -/
def find? (pool : Pool) (k : String) : Option Peer := pool.peers.find? (·.key == k)

/-- Every message the peer with a key was sent, in order. -/
def received (pool : Pool) (k : String) : List Bytes := (pool.log.filter (·.1 == k)).map (·.2)

/-- No two peers share a key. -/
def WellKeyed (pool : Pool) : Prop := (pool.peers.map Peer.key).Nodup

theorem holds_iff {ps : List Peer} {k : String} : holds ps k = true ↔ k ∈ ps.map Peer.key := by
  simp [holds]

theorem isSome_find?_iff {ps : List Peer} {k : String} :
    (ps.find? (·.key == k)).isSome ↔ k ∈ ps.map Peer.key := by
  simp [List.find?_isSome]

theorem find?_map {f : Peer → Peer} (hf : ∀ p, (f p).key = p.key) (ps : List Peer) (k : String) :
    (ps.map f).find? (·.key == k) = (ps.find? (·.key == k)).map f := by
  simp only [List.find?_map, Function.comp_def, hf]

/-- Of two lists of peers, one within the other, with distinct keys, the peer of a key is the
same in both. -/
theorem find?_of_sublist {ps qs : List Peer} (hsub : qs.Sublist ps)
    (hnd : (ps.map Peer.key).Nodup) {k : String} {p q : Peer}
    (hp : ps.find? (·.key == k) = some p) (hq : qs.find? (·.key == k) = some q) : q = p := by
  have hpk : p.key = k := by simpa using List.find?_some hp
  have hqk : q.key = k := by simpa using List.find?_some hq
  exact List.inj_on_of_nodup_map hnd (hsub.subset (List.mem_of_find?_eq_some hq))
    (List.mem_of_find?_eq_some hp) (hqk.trans hpk.symm)

/-! ### Adding and removing peers by key -/

theorem nodup_addNew (xs : List Peer) {ps : List Peer} (h : (ps.map Peer.key).Nodup) :
    ((xs.foldl (fun ps p => if holds ps p.key then ps else ps ++ [p]) ps).map Peer.key).Nodup := by
  induction xs generalizing ps with
  | nil => exact h
  | cons x xs ih =>
    apply ih
    dsimp only
    split
    · exact h
    · rename_i hx
      rw [holds_iff] at hx
      rw [List.map_append, List.map_singleton, ← List.concat_eq_append]
      exact h.concat hx

/-- Appending peers keeps the peer of every key already there. -/
theorem find?_addNew (xs : List Peer) {ps : List Peer} {k : String} {p : Peer}
    (hp : ps.find? (·.key == k) = some p) :
    (xs.foldl (fun ps p => if holds ps p.key then ps else ps ++ [p]) ps).find? (·.key == k) =
      some p := by
  induction xs generalizing ps with
  | nil => exact hp
  | cons x xs ih =>
    apply ih
    dsimp only
    split
    · exact hp
    · simp [List.find?_append, hp]

theorem eraseKeys_sublist (ks : List String) (ps : List Peer) :
    (ks.foldl (fun ps k => ps.eraseP (·.key == k)) ps).Sublist ps := by
  induction ks generalizing ps with
  | nil => exact List.Sublist.refl _
  | cons k ks ih => exact (ih _).trans (List.eraseP_sublist)

/-! ### What each operation does to the peer of a key -/

/-- `Effect R pool pool'`: for every key the pool holds before and after, the peer `p` before and
`q` after are related by `R` to the messages logged under the key meanwhile. -/
def Effect (R : Peer → Peer → List Bytes → Prop) (pool pool' : Pool) : Prop :=
  ∀ k p q, pool.find? k = some p → pool'.find? k = some q →
    ∃ msgs, pool'.received k = pool.received k ++ msgs ∧ R p q msgs

theorem Effect.mono {R R' : Peer → Peer → List Bytes → Prop} {pool pool' : Pool}
    (hR : ∀ p q msgs, R p q msgs → R' p q msgs) (h : Effect R pool pool') : Effect R' pool pool' :=
  fun k p q hp hq => (h k p q hp hq).imp fun _ ⟨hlog, hr⟩ => ⟨hlog, hR _ _ _ hr⟩

/-- A pass over the peers acts on each peer by its per-peer law. -/
theorem Effect.of_turns {R : Peer → Peer → List Bytes → Prop} {pool pool' : Pool}
    {L : List (String × Bytes)} (hnd : pool.WellKeyed) (hlog : pool'.log = pool.log ++ L)
    (hT : Turns R pool.peers pool'.peers L) : Effect R pool pool' := by
  intro k p q hp hq
  obtain ⟨q', msgs, hq', hR, hmsgs⟩ := hT.find? hnd hp
  have hqq : q = q' := Option.some.inj ((show pool'.find? k = _ from hq).symm.trans hq')
  subst hqq
  refine ⟨msgs, ?_, hR⟩
  simp [received, hlog, List.filter_append, ← hmsgs]

/-- An operation that changes every peer by a function keeping keys sends nothing. -/
theorem Effect.of_map {f : Peer → Peer} (hf : ∀ p, (f p).key = p.key) {pool pool' : Pool}
    (hpeers : pool'.peers = pool.peers.map f) (hlog : pool'.log = pool.log) :
    Effect (fun p q msgs => q = f p ∧ msgs = []) pool pool' := by
  intro k p q hp hq
  simp only [find?] at hp hq
  rw [hpeers, find?_map hf, hp, Option.map_some, Option.some.injEq] at hq
  exact ⟨[], by simp [received, hlog], hq.symm, rfl⟩

theorem sendEach_turns (pool : Pool) (net : Network) (r : Request) :
    ∃ L, (pool.sendEach net r).1.log = pool.log ++ L ∧
      Turns SendTurn pool.peers (pool.sendEach net r).1.peers L := by
  unfold sendEach
  split
  rename_i peers replies log hfold
  obtain ⟨qs, L, hd, hs, hT⟩ := Turns.of_foldl (R := SendTurn) (·.1) (·.2.2) hfold
    fun a p => ⟨(p.send net r).1, Peer.delivered (p.send net r).2.2, rfl, rfl, p.send_key net r,
      p.send_turn net r⟩
  simp only [List.nil_append] at hd hs
  exact ⟨L, hs, hd ▸ hT⟩

theorem sendAll_turns (pool : Pool) (net : Network) (rs : List Request) :
    ∃ L, (pool.sendAll net rs).1.log = pool.log ++ L ∧
      Turns SendTurn pool.peers (pool.sendAll net rs).1.peers L := by
  unfold sendAll
  split
  rename_i peers replies log hfold
  obtain ⟨qs, L, hd, hs, hT⟩ := Turns.of_foldl (R := SendTurn) (·.1) (·.2.2) hfold
    fun a p => by
      obtain ⟨msgs, hlog, hkey, hturn⟩ := p.sendBatch_turn net a.2.2 rs
      exact ⟨_, msgs, rfl, hlog, hkey, hturn⟩
  simp only [List.nil_append] at hd hs
  exact ⟨L, hs, hd ▸ hT⟩

end Pool

namespace Pool

variable {σ : Type} (obs : Observer σ) (net : Network)

/-- The turn of a failed peer in a status pass: the probe, and then, if the probe succeeded,
possibly a batch that realigns it. -/
theorem revive_error (reconcile listening : Bool) (done : List Peer) (announced : Bool) (s : σ)
    (log : List (String × Bytes)) {p : Peer} (hp : p.state = .error) :
    ((revive obs net reconcile listening (done, announced, s, log) p).1 = done ++ [(p.probe net).1] ∧
      (revive obs net reconcile listening (done, announced, s, log) p).2.2.2 =
        log ++ (Peer.delivered (p.probe net).2.2).map fun b => ((p.probe net).1.key, b)) ∨
    ((p.probe net).2.1.ok = true ∧ ∃ rs,
      (revive obs net reconcile listening (done, announced, s, log) p).1 =
        done ++ [((p.probe net).1.sendBatch net (log ++ (Peer.delivered (p.probe net).2.2).map
          fun b => ((p.probe net).1.key, b)) rs).1] ∧
      (revive obs net reconcile listening (done, announced, s, log) p).2.2.2 =
        ((p.probe net).1.sendBatch net (log ++ (Peer.delivered (p.probe net).2.2).map
          fun b => ((p.probe net).1.key, b)) rs).2.2) := by
  unfold revive
  rcases hpr : p.probe net with ⟨q, reply, steps⟩
  simp only [hp, ne_eq, not_true_eq_false, if_false]
  split
  · exact .inl ⟨rfl, rfl⟩
  · rename_i hok
    have hok : reply.ok = true := by simpa using hok
    generalize (if (listening && !announced) = true then (true, obs.connected s q.localEndpoint)
      else (announced, s)) = node
    split
    · split
      · split
        · exact .inr ⟨hok, _, rfl, rfl⟩
        · exact .inl ⟨rfl, rfl⟩
      · exact .inl ⟨rfl, rfl⟩
    · exact .inl ⟨rfl, rfl⟩


/-- Every peer's turn in a status pass follows the law of a probe. -/
theorem revive_turn (reconcile listening : Bool) (acc : List Peer × Bool × σ × List (String × Bytes))
    (p : Peer) :
    ∃ q msgs, (revive obs net reconcile listening acc p).1 = acc.1 ++ [q] ∧
      (revive obs net reconcile listening acc p).2.2.2 =
        acc.2.2.2 ++ msgs.map (fun b => (p.key, b)) ∧
      q.key = p.key ∧ ProbeTurn net p q msgs := by
  obtain ⟨done, announced, s, log⟩ := acc
  by_cases hp : p.state = .error
  · have hkey : (p.probe net).1.key = p.key := Peer.send_key _ net _
    have hprobe := Peer.probe_turn net p hp
    rcases revive_error obs net reconcile listening done announced s log hp with
      ⟨hd, hl⟩ | ⟨hok, rs, hd, hl⟩
    · exact ⟨_, _, hd, by rw [hl, hkey], hkey, hprobe⟩
    · -- the probe brought the peer back, and the batch is one more turn of a healthy peer
      obtain ⟨hst, hmsg⟩ : (p.probe net).1.state = .ok ∧
          Peer.delivered (p.probe net).2.2 = [Request.info.wire p.basePath p.hostHeader] :=
        Peer.send_reply_ok _ net _ hok
      obtain ⟨msgs, hlog, hkey', hturn⟩ := (p.probe net).1.sendBatch_turn net
        (log ++ (Peer.delivered (p.probe net).2.2).map fun b => ((p.probe net).1.key, b)) rs
      refine ⟨_, Peer.delivered (p.probe net).2.2 ++ msgs, hd, ?_, hkey'.trans hkey,
        ⟨?_, hturn.established ∘ hprobe.established, fun h => absurd hp h, .inr ⟨msgs, ?_, fun _ => hst⟩⟩⟩
      · rw [hl, hlog, hkey, List.map_append, List.append_assoc]
      · rw [hp]
        exact .of_error (hturn.moves.known (.inl hst))
      · rw [hmsg]
        rfl
  · exact ⟨p, [], by simp [revive, hp], by simp [revive, hp], rfl,
      ⟨.inl rfl, id, fun _ => rfl, .inl rfl⟩⟩

@[simp] theorem applyPending_log (pool : Pool) : pool.applyPending.log = pool.log := by
  unfold applyPending
  split <;> rfl

theorem applyPending_wellKeyed {pool : Pool} (hk : pool.WellKeyed) : pool.applyPending.WellKeyed := by
  unfold applyPending
  split
  · exact hk
  · -- additions keep keys distinct, removals only drop peers, and dropping connections keeps keys
    have hadd := nodup_addNew pool.pendingAdd hk
    simpa [WellKeyed, Function.comp_def] using
      ((eraseKeys_sublist pool.pendingRemove _).map Peer.key).nodup hadd

/-- A peer that stays in the pool through the staged changes is the same peer, its connection
dropped if there were any changes. -/
theorem applyPending_find? {pool : Pool} (hk : pool.WellKeyed) {k : String} {p q : Peer}
    (hp : pool.find? k = some p) (hq : pool.applyPending.find? k = some q) :
    q = p ∨ q = p.disconnect := by
  unfold applyPending at hq
  split at hq
  · exact .inl (Option.some.inj (hq.symm.trans hp))
  · simp only [find?, find?_map Peer.disconnect_key, Option.map_eq_some_iff] at hq
    obtain ⟨q', hq', rfl⟩ := hq
    exact .inr (congrArg Peer.disconnect (find?_of_sublist (eraseKeys_sublist _ _)
      (nodup_addNew pool.pendingAdd hk) (find?_addNew _ hp) hq'))

theorem statusPass_turns (pool : Pool) (reconcile : Bool) (s : σ) :
    ∃ L, (pool.statusPass net obs reconcile s).1.log = pool.log ++ L ∧
      Turns (ProbeTurn net) pool.applyPending.peers (pool.statusPass net obs reconcile s).1.peers L := by
  unfold statusPass
  dsimp only
  obtain ⟨qs, L, hd, hs, hT⟩ := Turns.of_foldl (R := ProbeTurn net) (·.1) (·.2.2.2)
    (rfl : pool.applyPending.peers.foldl (revive obs net reconcile pool.applyPending.listening)
      ([], pool.applyPending.announced, s, pool.applyPending.log) = _)
    (revive_turn obs net reconcile pool.applyPending.listening)
  simp only [List.nil_append] at hd hs
  exact ⟨L, by rw [hs, applyPending_log], by rw [hd]; exact hT⟩

/-! ### Each operation, one peer at a time -/

/-- An operation on a pool whose keys are distinct keeps them distinct and acts on the peer of
every key it keeps by `R`. -/
structure Acts (R : Peer → Peer → List Bytes → Prop) (pool pool' : Pool) : Prop where
  wellKeyed : pool'.WellKeyed
  effect : Effect R pool pool'

theorem Acts.mono {R R' : Peer → Peer → List Bytes → Prop} {pool pool' : Pool}
    (hR : ∀ p q msgs, R p q msgs → R' p q msgs) (h : Acts R pool pool') : Acts R' pool pool' :=
  ⟨h.wellKeyed, h.effect.mono hR⟩

theorem Acts.of_turns {R : Peer → Peer → List Bytes → Prop} {pool pool' : Pool}
    {L : List (String × Bytes)} (hk : pool.WellKeyed) (hlog : pool'.log = pool.log ++ L)
    (hT : Turns R pool.peers pool'.peers L) : Acts R pool pool' :=
  ⟨by unfold WellKeyed; rw [hT.keys]; exact hk, Effect.of_turns hk hlog hT⟩

theorem Acts.of_map {f : Peer → Peer} (hf : ∀ p, (f p).key = p.key) {pool pool' : Pool}
    (hk : pool.WellKeyed) (hpeers : pool'.peers = pool.peers.map f) (hlog : pool'.log = pool.log) :
    Acts (fun p q msgs => q = f p ∧ msgs = []) pool pool' :=
  ⟨by simpa [WellKeyed, hpeers, Function.comp_def, hf] using hk, Effect.of_map hf hpeers hlog⟩

theorem Acts.of_same {pool pool' : Pool} (hk : pool.WellKeyed) (hpeers : pool'.peers = pool.peers)
    (hlog : pool'.log = pool.log) : Acts (fun p q msgs => q = p ∧ msgs = []) pool pool' :=
  Acts.of_map (f := id) (fun _ => rfl) hk (by simp [hpeers]) hlog

theorem sendEach_acts {pool : Pool} (hk : pool.WellKeyed) (r : Request) :
    Acts SendTurn pool (pool.sendEach net r).1 := by
  obtain ⟨L, hlog, hT⟩ := sendEach_turns pool net r
  exact .of_turns hk hlog hT

theorem sendAll_acts {pool : Pool} (hk : pool.WellKeyed) (rs : List Request) :
    Acts SendTurn pool (pool.sendAll net rs).1 := by
  obtain ⟨L, hlog, hT⟩ := sendAll_turns pool net rs
  exact .of_turns hk hlog hT

theorem statusPass_acts {pool : Pool} (hk : pool.WellKeyed) (reconcile : Bool) (s : σ) :
    Acts (ProbeTurn net) pool (pool.statusPass net obs reconcile s).1 := by
  obtain ⟨L, hlog, hT⟩ := statusPass_turns obs net pool reconcile s
  have hpass := Acts.of_turns (applyPending_wellKeyed hk) (by rw [applyPending_log]; exact hlog) hT
  refine ⟨hpass.wellKeyed, fun k p q hp hq => ?_⟩
  have hmem : (pool.applyPending.find? k).isSome := by
    have : (find? (pool.statusPass net obs reconcile s).1 k).isSome := by rw [hq]; rfl
    simpa only [find?, isSome_find?_iff, hT.keys] using this
  obtain ⟨p', hp'⟩ := Option.isSome_iff_exists.1 hmem
  obtain ⟨msgs, hrec, hturn⟩ := hpass.effect k p' q hp' hq
  refine ⟨msgs, by simpa [received] using hrec, ?_⟩
  rcases applyPending_find? hk hp hp' with rfl | rfl
  · exact hturn
  · exact ⟨hturn.moves, hturn.established, hturn.skipped, hturn.probe⟩

theorem seed_wellKeyed {pool : Pool} (hk : pool.WellKeyed) (es : List Endpoint) :
    (pool.seed es).WellKeyed :=
  nodup_addNew _ hk

theorem seed_find? {pool : Pool} (es : List Endpoint) {k : String} {p : Peer}
    (hp : pool.find? k = some p) : (pool.seed es).find? k = some p :=
  find?_addNew _ hp

theorem init_eq_ok {pool : Pool} {dns : Resolver} {listening : Bool} {addresses : List String}
    {s : σ} {r : Pool × σ} (h : pool.init dns net obs listening addresses s = .ok r) :
    ∃ es, r.1 = { ({ pool.seed es with listening }.statusPass net obs false s).1 with
      initialized := true } := by
  unfold init at h
  split at h
  · cases h
  · rename_i es _
    cases h
    exact ⟨es, rfl⟩

/-- Seeding keeps the peers already there, and the status pass that follows probes them. -/
theorem init_acts {pool : Pool} (hk : pool.WellKeyed) {dns : Resolver} {listening : Bool}
    {addresses : List String} {s : σ} {r : Pool × σ}
    (h : pool.init dns net obs listening addresses s = .ok r) : Acts (ProbeTurn net) pool r.1 := by
  obtain ⟨es, hr⟩ := init_eq_ok obs net h
  have hpass : Acts (ProbeTurn net) { pool.seed es with listening }
      ({ pool.seed es with listening }.statusPass net obs false s).1 :=
    statusPass_acts obs net (show WellKeyed { pool.seed es with listening } from seed_wellKeyed hk es)
      false s
  rw [hr]
  exact ⟨hpass.wellKeyed, fun k p q hp hq => hpass.effect k p q (seed_find? es hp) hq⟩

theorem addPeer_eq_ok {pool pool' : Pool} {dns : Resolver} {address : String} {established : Bool}
    (h : pool.addPeer dns address established = .ok pool') :
    pool'.peers = pool.peers ∧ pool'.log = pool.log := by
  unfold addPeer at h
  split at h
  · cases h
  · dsimp only at h
    split at h
    · cases h; exact ⟨rfl, rfl⟩
    · split at h <;> cases h <;> exact ⟨rfl, rfl⟩

theorem removePeer_eq_ok {pool pool' : Pool} {dns : Resolver} {address : String}
    (h : pool.removePeer dns address = .ok pool') : pool'.peers = pool.peers ∧ pool'.log = pool.log := by
  unfold removePeer at h
  split at h
  · cases h
  · dsimp only at h
    split at h
    · cases h; exact ⟨rfl, rfl⟩
    · split at h <;> cases h <;> exact ⟨rfl, rfl⟩

theorem pingUrl_eq_ok {pool pool' : Pool} {raw : Bytes} {pings : List (String × Bool)}
    (h : pool.pingUrl net raw = .ok (pool', pings)) : ∃ r, pool' = (pool.sendEach net r).1 := by
  unfold pingUrl at h
  split at h
  · cases h
  · cases h
    exact ⟨_, rfl⟩

end Pool

/-! ## The law of one operation -/

namespace PeerStep

variable {op : PoolOp} {net : Network} {p q : Peer}

theorem of_same (hs : q.state = p.state) (he : q.established = p.established) :
    PeerStep op net p q [] :=
  ⟨hs ▸ PoolOp.Moves.refl op _, fun h => he ▸ h, fun _ => rfl, fun _ => .inl rfl⟩

theorem markError (p : Peer) : PeerStep .markAllInError net p p.markError [] := by
  unfold Peer.markError
  split
  · rename_i hp
    exact ⟨.inr ⟨hp, rfl⟩, id, fun _ => rfl, fun _ => .inl rfl⟩
  · exact of_same rfl rfl

theorem reset (p : Peer) : PeerStep .resetDownToError net p p.reset.1 [] := by
  unfold Peer.reset
  split
  · rename_i hp
    exact ⟨.inr ⟨hp, rfl⟩, id, fun _ => rfl, fun _ => .inl rfl⟩
  · exact of_same rfl rfl

end PeerStep

namespace Pool

variable {σ : Type} (obs : Observer σ)

/-- Every operation keeps keys distinct and acts on each peer it keeps by the law of one step. -/
theorem perform_acts {st : Pool × σ} (hk : st.1.WellKeyed) (dns : Resolver) (net : Network)
    (op : PoolOp) : Acts (PeerStep op net) st.1 (perform obs dns net st op).1 := by
  obtain ⟨pool, s⟩ := st
  have same : ∀ op p q (msgs : List Bytes), q = p ∧ msgs = [] → PeerStep op net p q msgs := by
    rintro op p _ _ ⟨rfl, rfl⟩
    exact .of_same rfl rfl
  have sends : ∀ op, (∀ a b, SendMove a b → op.Moves a b) →
      ∀ p q msgs, SendTurn p q msgs → PeerStep op net p q msgs :=
    fun _ hop _ _ _ h => h.peerStep hop
  cases op with
  | init addresses listening =>
    simp only [perform]
    split
    · rename_i r hr
      exact (init_acts obs net hk hr).mono fun _ _ _ h => h.peerStep (fun _ _ => id) rfl
    · exact (Acts.of_same hk rfl rfl).mono (same _)
  | addProxy address established =>
    simp only [perform]
    split
    · rename_i pool' hr
      exact (Acts.of_same hk (addPeer_eq_ok hr).1 (addPeer_eq_ok hr).2).mono (same _)
    · exact (Acts.of_same hk rfl rfl).mono (same _)
  | removeProxy address =>
    simp only [perform]
    split
    · rename_i pool' hr
      exact (Acts.of_same hk (removePeer_eq_ok hr).1 (removePeer_eq_ok hr).2).mono (same _)
    · exact (Acts.of_same hk rfl rfl).mono (same _)
  | status => exact (statusPass_acts obs net hk true s).mono fun _ _ _ h =>
      h.peerStep (fun _ _ => id) rfl
  | sendRequest r => exact (sendEach_acts net hk r).mono (sends _ fun _ _ => id)
  | sendRequests rs => exact (sendAll_acts net hk rs).mono (sends _ fun _ _ => id)
  | ping route => exact (sendEach_acts net hk _).mono (sends _ fun _ _ => id)
  | pingUrl raw =>
    simp only [perform]
    split
    · rename_i pool' pings hr
      obtain ⟨r, rfl⟩ := pingUrl_eq_ok net hr
      exact (sendEach_acts net hk r).mono (sends _ fun _ _ => id)
    · exact (Acts.of_same hk rfl rfl).mono (same _)
  | proxyInfo => exact (sendEach_acts net hk _).mono (sends _ fun _ _ => id)
  | proxyConfiguration => exact (sendEach_acts net hk _).mono (sends _ fun _ _ => id)
  | markAllInError =>
    refine (Acts.of_map Peer.markError_key hk (rfl : pool.markAllInError.peers = pool.peers.map (Peer.markError))
      (rfl : pool.markAllInError.log = pool.log)).mono ?_
    rintro p _ _ ⟨rfl, rfl⟩
    exact PeerStep.markError p
  | resetDownToError =>
    refine (Acts.of_map Peer.reset_key hk (rfl : pool.resetDown.peers = pool.peers.map (fun p => p.reset.1))
      (rfl : pool.resetDown.log = pool.log)).mono ?_
    rintro p _ _ ⟨rfl, rfl⟩
    exact PeerStep.reset p
  | shutdown =>
    refine (Acts.of_map Peer.disconnect_key hk (rfl : pool.shutdown.peers = pool.peers.map (Peer.disconnect))
      (rfl : pool.shutdown.log = pool.log)).mono ?_
    rintro p _ _ ⟨rfl, rfl⟩
    exact PeerStep.of_same rfl rfl


/-! ## Runs -/

/-- The states a handler reaches from an empty pool by its own operations, whatever the name
service, the network and the node do. -/
inductive Reachable : Pool × σ → Prop
  | empty (basePath : String) (s : σ) : Reachable ({ basePath := basePath }, s)
  | step {st : Pool × σ} (dns : Resolver) (net : Network) (op : PoolOp) :
      Reachable st → Reachable (perform obs dns net st op)

theorem Reachable.run {st : Pool × σ} (h : Reachable obs st) (dns : Resolver) :
    ∀ ops, Reachable obs (run obs dns st ops)
  | [] => h
  | (op, net) :: ops => Reachable.run (h.step dns net op) dns ops

theorem Reachable.wellKeyed {st : Pool × σ} (h : Reachable obs st) : st.1.WellKeyed := by
  induction h with
  | empty => exact List.nodup_nil
  | step dns net op _ ih => exact (perform_acts obs ih dns net op).wellKeyed

/-- Whether the pool holds a peer with key `k` in every state of a run. -/
def Keeps (dns : Resolver) (k : String) : Pool × σ → List (PoolOp × Network) → Prop
  | st, [] => (st.1.find? k).isSome
  | st, o :: ops => (st.1.find? k).isSome ∧ Keeps dns k (perform obs dns o.2 st o.1) ops

theorem Keeps.isSome {dns : Resolver} {k : String} {st : Pool × σ} :
    ∀ {ops}, Keeps obs dns k st ops → (st.1.find? k).isSome
  | [], h => h
  | _ :: _, h => h.1

/-- Over a run that keeps a peer, it stays established once established; once down, it stays
down and is sent nothing as long as no operation resets it. -/
theorem run_keeps {dns : Resolver} {k : String} :
    ∀ {ops : List (PoolOp × Network)} {st : Pool × σ} {p : Peer}, st.1.WellKeyed →
      st.1.find? k = some p → Keeps obs dns k st ops →
      ∃ q, (run obs dns st ops).1.find? k = some q ∧ (p.established → q.established) ∧
        (p.state = .down → (∀ o ∈ ops, o.1 ≠ .resetDownToError) →
          q.state = .down ∧ (run obs dns st ops).1.received k = st.1.received k)
  | [], _, p, _, hp, _ => ⟨p, hp, id, fun hd _ => ⟨hd, rfl⟩⟩
  | (op, net) :: ops, st, p, hk, hp, hkeep => by
    obtain ⟨q₁, hq₁⟩ := Option.isSome_iff_exists.1 hkeep.2.isSome
    have hacts := perform_acts obs hk dns net op
    obtain ⟨msgs, hrec, hstep⟩ := hacts.effect k p q₁ hp hq₁
    obtain ⟨q, hq, hest, hdown⟩ := run_keeps hacts.wellKeyed hq₁ hkeep.2
    refine ⟨q, hq, hest ∘ hstep.established, fun hd hops => ?_⟩
    have hd₁ : q₁.state = .down :=
      PoolOp.Moves.down (hops (op, net) List.mem_cons_self) (hd ▸ hstep.moves)
    obtain ⟨hqd, hqrec⟩ := hdown hd₁ fun o ho => hops o (List.mem_cons_of_mem _ ho)
    refine ⟨hqd, ?_⟩
    rw [run, List.foldl_cons, ← run, hqrec, hrec, hstep.down hd, List.append_nil]

/-- The laws the peer `p` with key `k` obeys from the state `st` on. One operation moves it as
`PeerStep` says, with the messages it was sent. A run that keeps it never clears `established`,
and while it is down and nothing resets it, it stays down and is sent nothing. -/
structure HealthLaws (st : Pool × σ) (k : String) (p : Peer) : Prop where
  step : ∀ dns net op q, (perform obs dns net st op).1.find? k = some q →
    ∃ msgs, (perform obs dns net st op).1.received k = st.1.received k ++ msgs ∧
      PeerStep op net p q msgs
  run : ∀ dns ops, Keeps obs dns k st ops → ∃ q, (run obs dns st ops).1.find? k = some q ∧
    (p.established → q.established) ∧
    (p.state = .down → (∀ o ∈ ops, o.1 ≠ .resetDownToError) →
      q.state = .down ∧ (run obs dns st ops).1.received k = st.1.received k)

/-- The health of a peer over runs of the handler: in every state a handler reaches from an empty
pool, every peer of the pool obeys `HealthLaws`. -/
theorem peer_health_laws {st : Pool × σ} (hst : Reachable obs st) {k : String} {p : Peer}
    (hp : st.1.find? k = some p) : HealthLaws obs st k p :=
  ⟨fun dns net op q hq => (perform_acts obs hst.wellKeyed dns net op).effect k p q hp hq,
    fun _ _ hkeep => run_keeps obs hst.wellKeyed hp hkeep⟩

/-- A proxy that no front-end answers: staged, then added by a status pass whose probe fails, it
is kept in `error`. -/
theorem peer_health_laws_unanswered :
    Reachable ({} : Observer Unit) (run {} Resolver.empty ({ basePath := "/" }, ())
        [(.addProxy ":6666" false, Network.unreachable), (.status, Network.unreachable)]) ∧
      (run {} Resolver.empty ({ basePath := "/" }, ())
        [(.addProxy ":6666" false, Network.unreachable), (.status, Network.unreachable)]).1.find?
          ":6666" = some { endpoint := ⟨none, "", 6666⟩, basePath := "/", sends := 1 } ∧
      HealthLaws {} (run {} Resolver.empty ({ basePath := "/" }, ())
        [(.addProxy ":6666" false, Network.unreachable), (.status, Network.unreachable)]) ":6666"
        { endpoint := ⟨none, "", 6666⟩, basePath := "/", sends := 1 } := by
  have hst : Reachable ({} : Observer Unit) (run {} Resolver.empty ({ basePath := "/" }, ())
      [(.addProxy ":6666" false, Network.unreachable), (.status, Network.unreachable)]) :=
    (Reachable.empty "/" ()).run _ _ _
  have hp : (run {} Resolver.empty ({ basePath := "/" }, ())
      [(.addProxy ":6666" false, Network.unreachable), (.status, Network.unreachable)]).1.find?
        ":6666" = some { endpoint := ⟨none, "", 6666⟩, basePath := "/", sends := 1 } := by
    decide +kernel
  exact ⟨hst, hp, peer_health_laws {} hst hp⟩

end Pool

end ClusterAgent
