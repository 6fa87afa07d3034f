import ClusterAgent.Proofs.Sending
import Mathlib.Data.List.Forall2

/-!
# A batch stops at its first failure

A batch sends its requests to one peer in order, and nothing in the loop stops it. It still stops
at the first failure: a send that fails leaves the peer out of health, and a peer out of health is
skipped by every later send, with nothing written and nothing changed (`Peer.send_cases`). So the
replies of a batch succeed for some first requests and fail from then on, and the peer received
those first requests and at most the one that failed (`StopsAtFailure`, `Peer.sendBatch_stops`).

A fan-out of a batch (`Pool.sendAll`) is one such batch per pooled peer, in pool order
(`Pool.sendAll_stops`).
-/

namespace ClusterAgent

/-- `StopsAtFailure w rs replies msgs`: the replies to a batch `rs`, and the messages the peer
received from it, `w r` being the bytes of request `r`. The batch is empty; or its first request
succeeded and the rest is such a batch; or its first request failed, having been received at most
once, and every later request failed without being received. -/
inductive StopsAtFailure (w : Request → Bytes) : List Request → List Reply → List Bytes → Prop
  | nil : StopsAtFailure w [] [] []
  | ok {r : Request} {rs : List Request} {replies : List Reply} {msgs : List Bytes} (body : Bytes) :
      StopsAtFailure w rs replies msgs →
      StopsAtFailure w (r :: rs) (⟨body, true⟩ :: replies) (w r :: msgs)
  | failed {r : Request} {rs : List Request} {m : List Bytes} : m.Sublist [w r] →
      StopsAtFailure w (r :: rs) ({} :: rs.map fun _ => {}) m

/-- A batch `rs` that failed from its `n`-th request on, in numbers: the first `n` replies
succeeded and all later ones failed, and the peer received the first `n` requests, in order, and
at most the next one. -/
def FailsFrom (w : Request → Bytes) (rs : List Request) (replies : List Reply) (msgs : List Bytes)
    (n : Nat) : Prop :=
  n ≤ rs.length ∧
    replies.map (·.ok) = List.replicate n true ++ List.replicate (rs.length - n) false ∧
    ∃ last, msgs = (rs.take n).map w ++ last ∧ last.Sublist (((rs.drop n).take 1).map w)

namespace StopsAtFailure

variable {w : Request → Bytes} {rs : List Request} {replies : List Reply} {msgs : List Bytes}

theorem failsFrom (h : StopsAtFailure w rs replies msgs) : ∃ n, FailsFrom w rs replies msgs n := by
  induction h with
  | nil => exact ⟨0, Nat.le_refl _, rfl, [], rfl, List.Sublist.refl _⟩
  | @ok r rs replies msgs body _ ih =>
    obtain ⟨n, hn, hflags, last, hmsgs, hlast⟩ := ih
    refine ⟨n + 1, by simpa using hn, ?_, last, by simp [hmsgs], by simpa using hlast⟩
    rw [List.length_cons, show rs.length + 1 - (n + 1) = rs.length - n by omega]
    simp [hflags, List.replicate_succ]
  | @failed r rs m hm =>
    refine ⟨0, Nat.zero_le _, ?_, m, by simp, by simpa using hm⟩
    simp [List.replicate_succ, List.map_const']

end StopsAtFailure

namespace Peer

variable (p : Peer) (net : Network)

theorem send_basePath (r : Request) : (p.send net r).1.basePath = p.basePath := by
  rcases p.send_cases net r with ⟨-, hs⟩ | ⟨-, st, steps, -, hs, -⟩ | ⟨-, l, body, steps, hs, -⟩ <;>
    rw [hs]

theorem send_hostHeader (r : Request) : (p.send net r).1.hostHeader = p.hostHeader := by
  simp only [hostHeader, send_endpoint]

/-- A peer out of health is skipped by a whole batch: every reply fails, nothing is written and the
peer is unchanged. -/
theorem sendBatch_of_ne_ok (h : p.state ≠ .ok) (log : List (String × Bytes)) (rs : List Request) :
    p.sendBatch net log rs = (p, rs.map fun _ => {}, log) := by
  induction rs generalizing log with
  | nil => rfl
  | cons r rs ih => simp [sendBatch, sendLogged_eq, send_of_ne_ok p net r h, delivered, ih]

theorem sendBatch_cons (log : List (String × Bytes)) (r : Request) (rs : List Request) :
    p.sendBatch net log (r :: rs) =
      (((p.send net r).1.sendBatch net
          (log ++ (delivered (p.send net r).2.2).map fun b => (p.key, b)) rs).1,
        (p.send net r).2.1 :: ((p.send net r).1.sendBatch net
          (log ++ (delivered (p.send net r).2.2).map fun b => (p.key, b)) rs).2.1,
        ((p.send net r).1.sendBatch net
          (log ++ (delivered (p.send net r).2.2).map fun b => (p.key, b)) rs).2.2) := rfl

/-- A batch stops at its first failure, and the peer's messages are logged under its key. -/
theorem sendBatch_stops (log : List (String × Bytes)) (rs : List Request) :
    ∃ msgs, (p.sendBatch net log rs).2.2 = log ++ msgs.map (fun b => (p.key, b)) ∧
      StopsAtFailure (fun r => r.wire p.basePath p.hostHeader) rs (p.sendBatch net log rs).2.1
        msgs := by
  induction rs generalizing p log with
  | nil => exact ⟨[], by simp [sendBatch], .nil⟩
  | cons r rs ih =>
    rcases p.send_cases net r with ⟨hne, -⟩ | ⟨-, st, steps, hst, hs, hd⟩ |
      ⟨-, l, body, steps, hs, hd⟩
    · -- skipped: the peer stays out of health for the whole batch
      rw [sendBatch_of_ne_ok p net hne log (r :: rs)]
      exact ⟨[], by simp, .failed (List.nil_sublist _)⟩
    · -- failed: the peer, now in `error` or `down`, skips the rest
      have hne : (p.send net r).1.state ≠ .ok := by
        rw [hs]
        rcases hst with rfl | rfl <;> simp
      rw [sendBatch_cons, sendBatch_of_ne_ok _ net hne]
      refine ⟨delivered steps, by rw [hs], ?_⟩
      rw [show (p.send net r).2.1 = {} by rw [hs]]
      exact .failed hd
    · -- answered: the rest of the batch goes to the peer the send left, which has the same key
      obtain ⟨msgs, hlog, hstop⟩ := ih (p.send net r).1
        (log ++ (delivered (p.send net r).2.2).map fun b => (p.key, b))
      simp only [send_key, send_basePath, send_hostHeader] at hlog hstop
      have hdel : delivered (p.send net r).2.2 = [r.wire p.basePath p.hostHeader] := by
        rw [hs]
        exact hd
      rw [sendBatch_cons]
      refine ⟨r.wire p.basePath p.hostHeader :: msgs, by rw [hlog, hdel]; simp, ?_⟩
      rw [show (p.send net r).2.1 = ⟨body, true⟩ by rw [hs]]
      exact .ok body hstop

/-- What a batch does to a peer does not depend on the log it is appended to. -/
theorem sendBatch_log (log : List (String × Bytes)) (rs : List Request) :
    p.sendBatch net log rs =
      ((p.sendBatch net [] rs).1, (p.sendBatch net [] rs).2.1,
        log ++ (p.sendBatch net [] rs).2.2) := by
  induction rs generalizing p log with
  | nil => simp [sendBatch]
  | cons r rs ih =>
    simp only [sendBatch, sendLogged_eq, List.nil_append]
    rw [ih _ (log ++ _), ih _ (List.map _ _)]
    simp

end Peer

namespace Pool

/-- A fan-out of a batch sends each pooled peer, in pool order, its own batch. -/
theorem sendAll_eq (pool : Pool) (net : Network) (rs : List Request) :
    pool.sendAll net rs =
      ({ pool with peers := pool.peers.map fun p => (p.sendBatch net [] rs).1,
                   log := pool.log ++ pool.peers.flatMap fun p => (p.sendBatch net [] rs).2.2 },
        pool.peers.map fun p => (p.key, (p.sendBatch net [] rs).2.1)) := by
  have fold : ∀ (f : List Peer × List (String × List Reply) × List (String × Bytes) → Peer →
        List Peer × List (String × List Reply) × List (String × Bytes)),
      (∀ acc p, f acc p = (acc.1 ++ [(p.sendBatch net acc.2.2 rs).1],
        acc.2.1 ++ [(p.key, (p.sendBatch net acc.2.2 rs).2.1)], (p.sendBatch net acc.2.2 rs).2.2)) →
      ∀ (ps done : List Peer) (replies : List (String × List Reply)) (log : List (String × Bytes)),
        ps.foldl f (done, replies, log) =
          (done ++ ps.map fun p => (p.sendBatch net [] rs).1,
            replies ++ ps.map fun p => (p.key, (p.sendBatch net [] rs).2.1),
            log ++ ps.flatMap fun p => (p.sendBatch net [] rs).2.2) := by
    intro f hf ps
    induction ps with
    | nil => simp
    | cons p ps ih =>
      intro done replies log
      rw [List.foldl_cons, hf, Peer.sendBatch_log, ih]
      simp
  unfold sendAll
  rw [fold _ fun _ _ => rfl]
  simp

/-- Every pooled peer gets one reply per request of a batch, the batch stops at its first failure
for each, and the log gains what each peer received, in pool order, under its key. -/
theorem sendAll_stops (pool : Pool) (net : Network) (rs : List Request) :
    ∃ batches : List (List Reply × List Bytes),
      (pool.sendAll net rs).2 = List.zipWith (fun p b => (p.key, b.1)) pool.peers batches ∧
      (pool.sendAll net rs).1.log =
        pool.log ++
          (List.zipWith (fun p b => b.2.map fun m => (p.key, m)) pool.peers batches).flatten ∧
      List.Forall₂ (fun p b => StopsAtFailure (fun r => r.wire p.basePath p.hostHeader) rs b.1 b.2)
        pool.peers batches := by
  have each : ∀ p : Peer, (p.sendBatch net [] rs).2.2 =
      ((p.sendBatch net [] rs).2.2.map Prod.snd).map (fun m => (p.key, m)) ∧
      StopsAtFailure (fun r => r.wire p.basePath p.hostHeader) rs (p.sendBatch net [] rs).2.1
        ((p.sendBatch net [] rs).2.2.map Prod.snd) := by
    intro p
    obtain ⟨msgs, hlog, hstop⟩ := p.sendBatch_stops net [] rs
    rw [List.nil_append] at hlog
    have hmsgs : (p.sendBatch net [] rs).2.2.map Prod.snd = msgs := by
      simp [hlog, Function.comp_def]
    rw [hmsgs]
    exact ⟨hlog, hstop⟩
  refine ⟨pool.peers.map fun p =>
    ((p.sendBatch net [] rs).2.1, (p.sendBatch net [] rs).2.2.map Prod.snd), ?_, ?_, ?_⟩
  · rw [sendAll_eq, List.zipWith_map_right, List.zipWith_self]
  · rw [sendAll_eq, List.zipWith_map_right, List.zipWith_self, ← List.flatMap_def]
    dsimp only
    congr 1
    exact List.flatMap_congr fun p _ => (each p).1
  · rw [List.forall₂_map_right_iff]
    exact List.forall₂_same.2 fun p _ => (each p).2

end Pool

end ClusterAgent
