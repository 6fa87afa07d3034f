import ClusterAgent.Service.Scripted
import Mathlib

/-!
# Draining a context or an engine

With a stop timeout, stopping a context disables it and then sends `STOP-APP` round after round,
at most `drainPolls` times. A round is quiet when the counts of in-flight requests that the
answering proxies report add up to zero in a signed 64-bit word (`pendingTotal`). The drain ends
at its first quiet round and succeeds, or fails after its last round (`Service.Drained`,
`Service.drain_drained`). Stopping every engine disables them all and drains them one after
another; it succeeds when every drain does.

A quiet round need not be one in which every proxy reports zero: the counts are added, so counts
of opposite sign, or counts whose sum wraps past 2^64, cancel. When every count is non-negative and
their sum stays below 2^64, as with a single answering proxy, a round is quiet exactly when each
answering proxy reports zero (`Service.pendingTotal_eq_zero_iff`).

Two proxies reporting -1 and 1 therefore end a drain with success
(`Service.stopping_succeeds_on_cancelling_counts`). An excluded context is not drained at all:
stopping it succeeds at once and sends nothing.
-/

namespace ClusterAgent.Service

/-! ### The pending total of a round -/

/-- The counts of in-flight requests reported by the proxies that answered a round. -/
def answeredCounts (replies : List Reply) : List Int :=
  (replies.filter (·.ok)).map fun r => Replies.pendingRequests r.body

theorem toInt_foldl_pending (replies : List Reply) (acc : Int64) :
    (replies.foldl (fun acc r =>
        if r.ok then acc + Int64.ofInt (Replies.pendingRequests r.body) else acc) acc).toInt =
      (acc.toInt + (answeredCounts replies).sum).bmod (2 ^ 64) := by
  induction replies generalizing acc with
  | nil =>
    simp only [List.foldl_nil, answeredCounts, List.filter_nil, List.map_nil, List.sum_nil,
      Int.add_zero]
    exact (Int64.toInt_bmod_size acc).symm
  | cons r rs ih =>
    rw [List.foldl_cons, ih]
    by_cases hr : r.ok = true
    · simp only [hr, if_true, answeredCounts, List.filter_cons_of_pos hr, List.map_cons,
        List.sum_cons, Int64.toInt_add, Int64.toInt_ofInt, Int.bmod_add_bmod]
      rw [Int.add_comm (Int64.toInt acc), Int.add_assoc, Int.bmod_add_bmod, ← Int.add_assoc,
        Int.add_comm _ (Int64.toInt acc), Int.add_assoc]
      rfl
    · simp [hr, answeredCounts, List.filter_cons_of_neg hr]

/-- The pending total is the sum of the answered counts, wrapped to a signed 64-bit word. -/
theorem toInt_pendingTotal (replies : List Reply) :
    (pendingTotal replies).toInt = (answeredCounts replies).sum.bmod (2 ^ 64) := by
  rw [pendingTotal, toInt_foldl_pending]
  simp

/-- When the answered counts are non-negative and add up to less than 2^64, a round is quiet
exactly when every proxy that answered reports no request in flight. -/
theorem pendingTotal_eq_zero_iff {replies : List Reply}
    (hnonneg : ∀ z ∈ answeredCounts replies, 0 ≤ z) (hsmall : (answeredCounts replies).sum < 2 ^ 64) :
    pendingTotal replies = 0 ↔ ∀ r ∈ replies, r.ok = true → Replies.pendingRequests r.body = 0 := by
  have hsum : 0 ≤ (answeredCounts replies).sum := List.sum_nonneg hnonneg
  -- the total wraps to zero only at multiples of 2^64, and the sum lies below the first one
  have hzero : pendingTotal replies = 0 ↔ (answeredCounts replies).sum = 0 := by
    rw [← Int64.toInt_inj, toInt_pendingTotal]
    constructor
    · intro h
      exact Int.eq_zero_of_dvd_of_nonneg_of_lt hsum hsmall (Int.dvd_of_bmod_eq_zero h)
    · intro h
      rw [h]
      rfl
  rw [hzero]
  constructor
  · intro h r hr hok
    exact List.all_zero_of_le_zero_le_of_sum_eq_zero hnonneg h
      (List.mem_map.mpr ⟨r, List.mem_filter.mpr ⟨hr, hok⟩, rfl⟩)
  · intro h
    refine List.sum_eq_zero fun z hz => ?_
    obtain ⟨r, hr, rfl⟩ := List.mem_map.mp hz
    obtain ⟨hr, hok⟩ := List.mem_filter.mp hr
    exact h r hr hok

/-! ### Rounds -/

section Rounds

variable {η ε : Type} (link : PeerLink η ε)

/-- The service after `k` rounds of `stop`. -/
def afterRounds (stop : Request) (sv : Service η) : Nat → Service η
  | 0 => sv
  | k + 1 => afterRounds stop (request link sv stop).1 k

/-- The replies to round `k` of `stop`, counted from 0. -/
def roundReplies (stop : Request) (sv : Service η) (k : Nat) : List Reply :=
  (request link (afterRounds link stop sv k) stop).2

theorem roundReplies_zero (stop : Request) (sv : Service η) :
    roundReplies link stop sv 0 = (request link sv stop).2 := rfl

theorem roundReplies_succ (stop : Request) (sv : Service η) (k : Nat) :
    roundReplies link stop sv (k + 1) = roundReplies link stop (request link sv stop).1 k := rfl

/-- How a drain of at most `n` rounds ends: at its first quiet round, which is then its last
round, reporting success; or after `n` rounds none of which was quiet, reporting failure. -/
inductive Drained (stop : Request) (sv : Service η) (n : Nat) : Service η × Bool → Prop
  | quiet (k : Nat) (hk : k < n) (hbefore : ∀ j < k, pendingTotal (roundReplies link stop sv j) ≠ 0)
      (hquiet : pendingTotal (roundReplies link stop sv k) = 0) :
      Drained stop sv n (afterRounds link stop sv (k + 1), true)
  | timedOut (hnone : ∀ k < n, pendingTotal (roundReplies link stop sv k) ≠ 0) :
      Drained stop sv n (afterRounds link stop sv n, false)

theorem drain_succ (stop : Request) (sv : Service η) (n : Nat) :
    drain link stop sv (n + 1) =
      if pendingTotal (request link sv stop).2 = 0 then ((request link sv stop).1, true)
      else if n = 0 then ((request link sv stop).1, false)
      else drain link stop (request link sv stop).1 n := by
  rw [drain]
  simp only [beq_iff_eq]

/-- A drain after a round that was not quiet is the rest of the drain. -/
theorem Drained.cons {stop : Request} {sv : Service η} {n : Nat} {x : Service η × Bool}
    (h0 : pendingTotal (request link sv stop).2 ≠ 0) (h : Drained link stop (request link sv stop).1 n x) :
    Drained link stop sv (n + 1) x := by
  cases h with
  | quiet k hk hbefore hquiet =>
    refine .quiet (k + 1) (by omega) (fun j hj => ?_) (by rwa [roundReplies_succ])
    cases j with
    | zero => rwa [roundReplies_zero]
    | succ j =>
      rw [roundReplies_succ]
      exact hbefore j (by omega)
  | timedOut hnone =>
    refine .timedOut fun k hk => ?_
    cases k with
    | zero => rwa [roundReplies_zero]
    | succ k =>
      rw [roundReplies_succ]
      exact hnone k (by omega)

theorem drain_drained (stop : Request) (sv : Service η) (n : Nat) :
    Drained link stop sv n (drain link stop sv n) := by
  induction n generalizing sv with
  | zero => exact .timedOut fun k hk => absurd hk (Nat.not_lt_zero k)
  | succ n ih =>
    rw [drain_succ]
    by_cases h0 : pendingTotal (request link sv stop).2 = 0
    · rw [if_pos h0]
      exact .quiet 0 (Nat.succ_pos n) (fun j hj => absurd hj (Nat.not_lt_zero j)) h0
    · rw [if_neg h0]
      by_cases hn : n = 0
      · subst hn
        rw [if_pos rfl]
        exact .timedOut fun k hk => by
          obtain rfl : k = 0 := by omega
          exact h0
      · rw [if_neg hn]
        exact (ih _).cons link h0

theorem Drained.unique {stop : Request} {sv : Service η} {n : Nat} {x y : Service η × Bool}
    (hx : Drained link stop sv n x) (hy : Drained link stop sv n y) : x = y := by
  cases hx with
  | quiet k hk hbefore hquiet =>
    cases hy with
    | quiet k' hk' hbefore' hquiet' =>
      obtain rfl : k = k' := by
        rcases Nat.lt_trichotomy k k' with hlt | heq | hgt
        · exact absurd hquiet (hbefore' k hlt)
        · exact heq
        · exact absurd hquiet' (hbefore k' hgt)
      rfl
    | timedOut hnone => exact absurd hquiet (hnone k hk)
  | timedOut hnone =>
    cases hy with
    | quiet k' hk' _ hquiet' => exact absurd hquiet' (hnone k' hk')
    | timedOut => rfl

theorem drain_succeeds_iff (stop : Request) (sv : Service η) (n : Nat) :
    (drain link stop sv n).2 = true ↔ ∃ sv', Drained link stop sv n (sv', true) := by
  have h := drain_drained link stop sv n
  constructor
  · intro hok
    exact ⟨(drain link stop sv n).1, by rwa [← hok]⟩
  · rintro ⟨sv', h'⟩
    rw [h.unique link h']

/-- The service each engine's drain starts from, when every engine is drained in turn. -/
def drainStarts (polls : Nat) : Service η → List Engine → List (Service η × Engine)
  | _, [] => []
  | sv, e :: es =>
    (sv, e) :: drainStarts polls (drain link (Request.forEngine .stopApp e) sv polls).1 es

/-- Draining engine after engine succeeds exactly when every drain does. -/
theorem foldl_drains {f : Service η × Bool → Engine → Service η × Bool} {polls : Nat}
    (hf : ∀ acc e, f acc e = ((drain link (Request.forEngine .stopApp e) acc.1 polls).1,
      acc.2 && (drain link (Request.forEngine .stopApp e) acc.1 polls).2))
    (es : List Engine) (sv : Service η) (ok : Bool) :
    (es.foldl f (sv, ok)).2 = true ↔
      ok = true ∧ ∀ p ∈ drainStarts link polls sv es,
        (drain link (Request.forEngine .stopApp p.2) p.1 polls).2 = true := by
  induction es generalizing sv ok with
  | nil => simp [drainStarts]
  | cons e es ih =>
    rw [List.foldl_cons, hf, ih, drainStarts, List.forall_mem_cons, Bool.and_eq_true]
    exact and_assoc

end Rounds

/-! ### Stopping -/

section Stopping

variable {η ε : Type} (link : PeerLink η ε) (cfg : ServiceSettings)

theorem perEngine_node (sv : Service η) (cmd : Command) : (perEngine link sv cmd).node = sv.node := by
  unfold perEngine sendBatch
  split <;> rfl

/-- With a stop timeout, stopping every engine succeeds exactly when each engine's drain does. -/
theorem stopAll_succeeds_iff (hpos : 0 < cfg.stopTimeout) (sv : Service η) :
    (sv.stopAll link cfg).2 = true ↔
      ∀ p ∈ drainStarts link (drainPolls cfg.stopTimeout) (perEngine link sv .disableApp)
          sv.node.topology.engines,
        (drain link (Request.forEngine .stopApp p.2) p.1 (drainPolls cfg.stopTimeout)).2 = true := by
  unfold stopAll
  rw [if_neg (Nat.pos_iff_ne_zero.mp hpos)]
  dsimp only
  rw [foldl_drains link (fun _ _ => rfl), perEngine_node]
  exact and_iff_right rfl

/-- With a stop timeout, stopping reports success only when a drain ended at a quiet round, or
for a context that is excluded and is not drained at all. Stopping a context disables it and
drains it; stopping every engine drains each in turn and succeeds when every drain ended at a
quiet round. A round is quiet when the answered counts add up to zero in a signed 64-bit word;
when they are non-negative and add up to less than 2^64, that is when each answering proxy
reports zero. -/
theorem stopping_succeeds_at_quiet_rounds (hpos : 0 < cfg.stopTimeout) (sv : Service η)
    (e : Engine) (h : Host) (c : Context) :
    (included cfg h c = false → sv.stopContext link cfg e h c = (sv, true)) ∧
    (included cfg h c = true →
      Drained link (Request.forContext .stopApp e h c)
        (send link sv (Request.forContext .disableApp e h c)) (drainPolls cfg.stopTimeout)
        (sv.stopContext link cfg e h c)) ∧
    ((sv.stopAll link cfg).2 = true ↔
      ∀ p ∈ drainStarts link (drainPolls cfg.stopTimeout) (perEngine link sv .disableApp)
          sv.node.topology.engines,
        ∃ sv', Drained link (Request.forEngine .stopApp p.2) p.1 (drainPolls cfg.stopTimeout)
          (sv', true)) ∧
    (∀ replies : List Reply, (∀ z ∈ answeredCounts replies, 0 ≤ z) →
      (answeredCounts replies).sum < 2 ^ 64 →
      (pendingTotal replies = 0 ↔ ∀ r ∈ replies, r.ok = true → Replies.pendingRequests r.body = 0)) := by
  have hne : cfg.stopTimeout ≠ 0 := Nat.pos_iff_ne_zero.mp hpos
  refine ⟨fun hex => ?_, fun hinc => ?_, ?_, fun _ hnonneg hsmall => pendingTotal_eq_zero_iff hnonneg hsmall⟩
  · simp [stopContext, hex]
  · simp only [stopContext, hinc, Bool.not_true, Bool.false_eq_true, if_false, if_neg hne]
    exact drain_drained link _ _ _
  · rw [stopAll_succeeds_iff link cfg hpos]
    simp only [drain_succeeds_iff]

theorem stopping_succeeds_at_quiet_rounds_one_poll :
    let cfg : ServiceSettings := { stopTimeout := 1 }
    let c : Context := ⟨"/app", true⟩
    let h : Host := ⟨"localhost", ["localhost"], [c]⟩
    let e : Engine := ⟨"node1", "node1", ⟨none, 8009, .ajp, false⟩, [h]⟩
    let sv : Service Scripted := { node := { topology := ⟨[e]⟩ }, peers := { script := {} } }
    0 < cfg.stopTimeout ∧
    (included cfg h c = false → sv.stopContext Scripted.link cfg e h c = (sv, true)) ∧
    (included cfg h c = true →
      Drained Scripted.link (Request.forContext .stopApp e h c)
        (send Scripted.link sv (Request.forContext .disableApp e h c)) (drainPolls cfg.stopTimeout)
        (sv.stopContext Scripted.link cfg e h c)) ∧
    ((sv.stopAll Scripted.link cfg).2 = true ↔
      ∀ p ∈ drainStarts Scripted.link (drainPolls cfg.stopTimeout)
          (perEngine Scripted.link sv .disableApp) sv.node.topology.engines,
        ∃ sv', Drained Scripted.link (Request.forEngine .stopApp p.2) p.1 (drainPolls cfg.stopTimeout)
          (sv', true)) ∧
    (∀ replies : List Reply, (∀ z ∈ answeredCounts replies, 0 ≤ z) →
      (answeredCounts replies).sum < 2 ^ 64 →
      (pendingTotal replies = 0 ↔ ∀ r ∈ replies, r.ok = true → Replies.pendingRequests r.body = 0)) := by
  intro cfg c h e sv
  exact ⟨by decide, stopping_succeeds_at_quiet_rounds Scripted.link cfg (by decide) sv e h c⟩

end Stopping

/-- Two proxies that answer every request, the first reporting -1 request in flight and the
second 1. A stop timeout of 100 ms allows one round; its counts add up to zero, so stopping the
context succeeds although the second proxy still reports a request in flight. -/
theorem stopping_succeeds_on_cancelling_counts :
    let cfg : ServiceSettings := { stopTimeout := 100 }
    let c : Context := ⟨"/app", true⟩
    let h : Host := ⟨"localhost", ["localhost"], [c]⟩
    let e : Engine := ⟨"node1", "node1", ⟨none, 8009, .ajp, false⟩, [h]⟩
    let answer (count : String) : Bytes := Bytes.ofString
      ("HTTP/1.1 200 OK\r\nContent-Length: " ++ toString (count.length + 9) ++ "\r\n\r\nRequests=" ++
        count)
    let net : Network := fun ep _ _ =>
      { firstDial := some ⟨⟨none, "", 0⟩⟩, firstWrite := true,
        reply := answer (if ep.port = 6666 then "-1" else "1") }
    let link := Pool.link Resolver.empty net {}
    let sv : Service Pool :=
      { node := { topology := ⟨[e]⟩ },
        peers := { peers := [{ endpoint := ⟨none, "", 6666⟩, state := .ok },
          { endpoint := ⟨none, "", 6667⟩, state := .ok }] } }
    drainPolls cfg.stopTimeout = 1 ∧
      (request link (send link sv (Request.forContext .disableApp e h c))
          (Request.forContext .stopApp e h c)).2.map (fun r => (r.ok, Replies.pendingRequests r.body)) =
        [(true, -1), (true, 1)] ∧
      (sv.stopContext link cfg e h c).2 = true := by
  decide +kernel

end ClusterAgent.Service
