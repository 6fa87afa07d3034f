import ClusterAgent.Peer.Pool

/-!
# What a send does to a peer

`Peer.send_cases` says once how a send can end: a peer that is not healthy is skipped, with
nothing written and nothing changed; otherwise the round trip fails and the peer goes to `error`
or `down` without a connection, having received the request at most once, or the peer answers
200, keeps its health and received the request exactly once.

Everything else about sending follows from it: a send never changes which peer it talks to,
never clears `established`, moves health only from `ok` to `error` or `down`, and a reply that
succeeded came from a peer that is still healthy. A batch (`Peer.sendBatch`) composes
these laws (`Peer.sendBatch_turn`).

The outcome itself is read off the network (`send_outcome`): the connection that carries the
request (`Exchange.carrier`: the open one or a fresh dial, else the one retry) and the answer read
over it (`Exchange.answer`) decide the reply, the health, the connection kept and `established`.
-/

namespace ClusterAgent

/-- What a send may do to a peer's health: only a healthy peer is contacted, and it may fail. -/
def SendMove (a b : PeerState) : Prop := b = a ∨ a = .ok ∧ (b = .error ∨ b = .down)

theorem SendMove.refl (a : PeerState) : SendMove a a := .inl rfl

theorem SendMove.trans {a b c : PeerState} (hab : SendMove a b) (hbc : SendMove b c) :
    SendMove a c := by
  rcases hab with rfl | ⟨rfl, hb⟩
  · exact hbc
  · -- a failed peer is skipped by every later send
    rcases hbc with rfl | ⟨rfl, -⟩
    · exact .inr ⟨rfl, hb⟩
    · rcases hb with hb | hb <;> cases hb

/-- One peer's turn in a fan-out: its health moves as a send allows, it stays established, and a
peer that is not healthy is sent nothing. -/
structure SendTurn (p q : Peer) (msgs : List Bytes) : Prop where
  moves : SendMove p.state q.state
  established : p.established → q.established
  skipped : p.state ≠ .ok → msgs = []

theorem SendTurn.refl (p : Peer) : SendTurn p p [] := ⟨.refl _, id, fun _ => rfl⟩

theorem SendTurn.trans {p q q' : Peer} {m m' : List Bytes} (h : SendTurn p q m)
    (h' : SendTurn q q' m') : SendTurn p q' (m ++ m') where
  moves := h.moves.trans h'.moves
  established := h'.established ∘ h.established
  skipped hp := by
    have hq : q.state ≠ .ok := by
      rcases h.moves with hq | ⟨hp', -⟩
      · rwa [hq]
      · exact absurd hp' hp
    rw [h.skipped hp, h'.skipped hq, List.nil_append]

namespace Exchange

/-- The connection that carries a request when `link` is the one open before: the first
connection (the open one, else a fresh dial) if writing over it succeeds, else the connection of
the one retry if writing over that succeeds. -/
def carrier (x : Exchange) (link : Option Link) : Option Link :=
  ((link.or x.firstDial).filter fun _ => x.firstWrite).or (x.retryDial.filter fun _ => x.retryWrite)

/-- What a send reads back: the connection that carried the request and the answer read over it;
`none` when no connection carried the request or no answer could be read. -/
def answer (x : Exchange) (link : Option Link) : Option (Link × Response) :=
  (x.carrier link).bind fun l =>
    match Response.read x.reply with
    | .ok (resp, _) => some (l, resp)
    | .error _ => none

end Exchange

namespace Peer

variable (p : Peer) (net : Network) (r : Request)

theorem delivered_append (a b : List IoStep) : delivered (a ++ b) = delivered a ++ delivered b :=
  List.filterMap_append

theorem delivered_deliver (x : Exchange) (msg : Bytes) :
    delivered (p.deliver x msg).2 = if (p.deliver x msg).1.isSome then [msg] else [] := by
  obtain ⟨firstDial, firstWrite, retryDial, retryWrite, reply⟩ := x
  unfold deliver
  cases p.link <;> cases firstDial <;> cases firstWrite <;> cases retryDial <;>
    cases retryWrite <;> simp [delivered]

/-- A peer that is not healthy is skipped: nothing is written and nothing changes. -/
theorem send_of_ne_ok (h : p.state ≠ .ok) : p.send net r = (p, {}, []) := by
  simp [send, h]

/-- How a send to a healthy peer ends. Either the round trip fails: the peer, its send counted,
goes to `error` or `down` without a connection, and received the request at most once. Or the
peer answers 200: it keeps its health, may become established, and received the request once. -/
theorem send_cases_of_ok (h : p.state = .ok) :
    (∃ st steps, (st = .error ∨ st = .down) ∧
      p.send net r = ({ p with sends := p.sends + 1, state := st, link := none }, {}, steps) ∧
      (delivered steps).Sublist [r.wire p.basePath p.hostHeader]) ∨
    (∃ link body steps,
      p.send net r =
        ({ p with sends := p.sends + 1, link := link,
                  established := p.established || r.command.establishes }, ⟨body, true⟩, steps) ∧
      delivered steps = [r.wire p.basePath p.hostHeader]) := by
  have hdel := delivered_deliver { p with sends := p.sends + 1 } (net p.endpoint p.sends r)
    (r.wire p.basePath { p with sends := p.sends + 1 }.hostHeader)
  unfold send
  rw [if_neg (by simp [h])]
  dsimp only
  split
  · rename_i steps hd
    rw [hd] at hdel
    exact .inl ⟨.error, steps, .inl rfl, rfl, by simp [hdel]⟩
  · rename_i l steps hd
    rw [hd] at hdel
    have hmsg : delivered (steps ++ [.read]) = [r.wire p.basePath p.hostHeader] := by
      rw [delivered_append, hdel]
      rfl
    split
    · exact .inl ⟨.error, _, .inl rfl, rfl, hmsg ▸ List.Sublist.refl _⟩
    · rename_i resp rest _
      split
      · refine .inl ⟨_, _, ?_, rfl, hmsg ▸ List.Sublist.refl _⟩
        split <;> simp
      · exact .inr ⟨_, _, _, rfl, hmsg⟩

/-- The three ways a send ends: the peer is skipped, the round trip fails, or the peer answers
200. -/
theorem send_cases :
    (p.state ≠ .ok ∧ p.send net r = (p, {}, [])) ∨
    (p.state = .ok ∧ ∃ st steps, (st = .error ∨ st = .down) ∧
      p.send net r = ({ p with sends := p.sends + 1, state := st, link := none }, {}, steps) ∧
      (delivered steps).Sublist [r.wire p.basePath p.hostHeader]) ∨
    (p.state = .ok ∧ ∃ link body steps,
      p.send net r =
        ({ p with sends := p.sends + 1, link := link,
                  established := p.established || r.command.establishes }, ⟨body, true⟩, steps) ∧
      delivered steps = [r.wire p.basePath p.hostHeader]) := by
  by_cases h : p.state = .ok
  · rcases p.send_cases_of_ok net r h with hfail | hok
    · exact .inr (.inl ⟨h, hfail⟩)
    · exact .inr (.inr ⟨h, hok⟩)
  · exact .inl ⟨h, p.send_of_ne_ok net r h⟩

theorem send_endpoint : (p.send net r).1.endpoint = p.endpoint := by
  rcases p.send_cases net r with ⟨-, hs⟩ | ⟨-, st, steps, -, hs, -⟩ | ⟨-, l, body, steps, hs, -⟩ <;>
    rw [hs]

theorem send_key : (p.send net r).1.key = p.key := by
  simp only [key, send_endpoint]

/-- A send is one turn of the peer: health moves only from `ok` to a failure, `established` is
never cleared, and a peer that is not healthy is sent nothing. -/
theorem send_turn : SendTurn p (p.send net r).1 (delivered (p.send net r).2.2) := by
  rcases p.send_cases net r with ⟨-, hs⟩ | ⟨h, st, steps, hst, hs, -⟩ | ⟨h, l, body, steps, hs, -⟩ <;>
    rw [hs]
  · exact .refl p
  · exact ⟨.inr ⟨h, hst⟩, id, fun h' => absurd h h'⟩
  · exact ⟨.inl rfl, fun he => by simp [he], fun h' => absurd h h'⟩

theorem delivered_send :
    (delivered (p.send net r).2.2).Sublist [r.wire p.basePath p.hostHeader] := by
  rcases p.send_cases net r with ⟨-, hs⟩ | ⟨-, st, steps, -, hs, hd⟩ | ⟨-, l, body, steps, hs, hd⟩ <;>
    rw [hs]
  · exact List.nil_sublist _
  · exact hd
  · exact hd ▸ List.Sublist.refl _

/-- A send whose reply succeeded leaves a healthy peer, which received the request. -/
theorem send_reply_ok (h : (p.send net r).2.1.ok = true) :
    (p.send net r).1.state = .ok ∧
      delivered (p.send net r).2.2 = [r.wire p.basePath p.hostHeader] := by
  rcases p.send_cases net r with ⟨-, hs⟩ | ⟨-, st, steps, -, hs, -⟩ | ⟨hp, l, body, steps, hs, hd⟩ <;>
    rw [hs] at h ⊢
  · cases h
  · cases h
  · exact ⟨hp, hd⟩

/-- A send to a healthy peer leaves it healthy, failed or down. -/
theorem send_state_of_ok (h : p.state = .ok) :
    (p.send net r).1.state = .ok ∨ (p.send net r).1.state = .error ∨
      (p.send net r).1.state = .down := by
  rcases (p.send_turn net r).moves with hs | ⟨-, hs⟩
  · exact .inl (hs.trans h)
  · exact .inr hs

theorem sendLogged_eq (log : List (String × Bytes)) :
    p.sendLogged net r log =
      ((p.send net r).1, (p.send net r).2.1,
        log ++ (delivered (p.send net r).2.2).map fun b => (p.key, b)) := rfl

/-- A batch is one turn of the peer, whose messages are logged under its key. -/
theorem sendBatch_turn (log : List (String × Bytes)) (rs : List Request) :
    ∃ msgs, (p.sendBatch net log rs).2.2 = log ++ msgs.map (fun b => (p.key, b)) ∧
      (p.sendBatch net log rs).1.key = p.key ∧ SendTurn p (p.sendBatch net log rs).1 msgs := by
  induction rs generalizing p log with
  | nil => exact ⟨[], by simp [sendBatch], rfl, .refl p⟩
  | cons r rs ih =>
    obtain ⟨msgs, hlog, hkey, hturn⟩ := ih (p.send net r).1
      (log ++ (delivered (p.send net r).2.2).map fun b => (p.key, b))
    rw [send_key] at hlog
    refine ⟨delivered (p.send net r).2.2 ++ msgs, ?_, ?_, (p.send_turn net r).trans hturn⟩
    · simp [sendBatch, sendLogged_eq, hlog]
    · simpa [sendBatch, sendLogged_eq, send_key] using hkey

/-! ### The outcome of a send, read off the network -/

/-- Writing over the first connection (the open one, else a fresh dial) either succeeds, or the
request goes over a second, freshly dialled connection, or over none. -/
theorem deliver_fst (x : Exchange) (msg : Bytes) : (p.deliver x msg).1 = x.carrier p.link := by
  obtain ⟨firstDial, firstWrite, retryDial, retryWrite, reply⟩ := x
  unfold deliver Exchange.carrier
  cases p.link <;> cases firstDial <;> cases firstWrite <;> cases retryDial <;>
    cases retryWrite <;> rfl

/-- A healthy peer's send, read off what it reads back: the peer it leaves and its reply. -/
theorem send_of_ok (h : p.state = .ok) :
    ((p.send net r).1, (p.send net r).2.1) =
      match (net p.endpoint p.sends r).answer p.link with
      | none => ({ p with sends := p.sends + 1, state := .error, link := none }, {})
      | some (l, resp) =>
        if resp.status ≠ 200 then
          ({ p with sends := p.sends + 1,
                    state := if resp.errorType.foldIs "SYNTAX" then .down else .error,
                    link := none }, {})
        else
          ({ p with sends := p.sends + 1, link := if resp.close then none else some l,
                    established := p.established || r.command.establishes },
            ⟨resp.body, true⟩) := by
  have hfst := deliver_fst { p with sends := p.sends + 1 } (net p.endpoint p.sends r)
    (r.wire p.basePath { p with sends := p.sends + 1 }.hostHeader)
  unfold send Exchange.answer
  rw [if_neg (by simp [h])]
  dsimp only at hfst ⊢
  -- the connection that carried the request decides the first split, the answer the second
  split
  · rename_i steps hd
    rw [hd] at hfst
    rw [← hfst]
    rfl
  · rename_i l steps hd
    rw [hd] at hfst
    rw [← hfst]
    dsimp only [Option.bind_some]
    rcases Response.read (net p.endpoint p.sends r).reply with e | ⟨resp, rest⟩
    · rfl
    · dsimp only
      split <;> rfl

/-- A send to a healthy peer that found no connection, or read no answer, fails into `error`. -/
theorem send_of_unanswered (h : p.state = .ok)
    (ha : (net p.endpoint p.sends r).answer p.link = none) :
    (p.send net r).1 = { p with sends := p.sends + 1, state := .error, link := none } ∧
      (p.send net r).2.1 = {} := by
  have hs := p.send_of_ok net r h
  rw [ha] at hs
  exact Prod.mk.inj hs

/-- A send to a healthy peer that read an answer other than 200 fails: into `down` when the
answer's type is `SYNTAX`, in any case, and into `error` otherwise. -/
theorem send_of_rejected (h : p.state = .ok) {l : Link} {resp : Response}
    (ha : (net p.endpoint p.sends r).answer p.link = some (l, resp)) (hs : resp.status ≠ 200) :
    (p.send net r).1 =
        { p with sends := p.sends + 1,
                 state := if resp.errorType.foldIs "SYNTAX" then .down else .error, link := none } ∧
      (p.send net r).2.1 = {} := by
  have hsend := p.send_of_ok net r h
  rw [ha] at hsend
  dsimp only at hsend
  rw [if_pos hs] at hsend
  exact Prod.mk.inj hsend

/-- A send to a healthy peer that read a 200 answer succeeds with its body. -/
theorem send_of_accepted (h : p.state = .ok) {l : Link} {resp : Response}
    (ha : (net p.endpoint p.sends r).answer p.link = some (l, resp)) (hs : resp.status = 200) :
    (p.send net r).1 =
        { p with sends := p.sends + 1, link := if resp.close then none else some l,
                 established := p.established || r.command.establishes } ∧
      (p.send net r).2.1 = ⟨resp.body, true⟩ := by
  have hsend := p.send_of_ok net r h
  rw [ha] at hsend
  dsimp only at hsend
  rw [if_neg (not_not_intro hs)] at hsend
  exact Prod.mk.inj hsend

end Peer

/-- The outcome of a send of `r` to `p` over the network `net`. A peer that is not healthy is
skipped: the reply is empty and failed, nothing is written, and the peer is unchanged. A healthy
peer's send reaches the network (and is counted); it succeeds exactly when an answer with status 200
was read over the connection that carried the request. Then the peer stays healthy, the reply
carries the answer's body, the peer becomes established if the verb is `CONFIG`, `ENABLE-APP`,
`DISABLE-APP` or `STOP-APP`, and that connection is kept unless the answer asked to close it.
Otherwise the reply is empty and failed, the connection is dropped and `established` is kept; the
peer goes `down` when the answer read has the type `SYNTAX` in any letter case, and to `error` in
every other case: no connection took the request, no answer could be read, or the answer has another
type. -/
structure SendOutcome (p : Peer) (net : Network) (r : Request) : Prop where
  skipped : p.state ≠ .ok → p.send net r = (p, {}, [])
  succeeds_iff : p.state = .ok → ((p.send net r).2.1.ok = true ↔
    ∃ l resp, (net p.endpoint p.sends r).answer p.link = some (l, resp) ∧ resp.status = 200)
  accepted : p.state = .ok → ∀ l resp,
    (net p.endpoint p.sends r).answer p.link = some (l, resp) → resp.status = 200 →
      (p.send net r).1 =
          { p with sends := p.sends + 1, link := if resp.close then none else some l,
                   established := p.established ||
                     decide (r.command ∈ [.config, .enableApp, .disableApp, .stopApp]) } ∧
        (p.send net r).2.1 = ⟨resp.body, true⟩
  rejected : p.state = .ok → ∀ l resp,
    (net p.endpoint p.sends r).answer p.link = some (l, resp) → resp.status ≠ 200 →
      (p.send net r).1 =
          { p with sends := p.sends + 1,
                   state := if resp.errorType.foldIs "SYNTAX" then .down else .error,
                   link := none } ∧
        (p.send net r).2.1 = {}
  unanswered : p.state = .ok → (net p.endpoint p.sends r).answer p.link = none →
    (p.send net r).1 = { p with sends := p.sends + 1, state := .error, link := none } ∧
      (p.send net r).2.1 = {}

theorem Command.establishes_eq (c : Command) :
    c.establishes = decide (c ∈ [.config, .enableApp, .disableApp, .stopApp]) := by
  cases c <;> rfl

/-- Every send obeys `SendOutcome`, whatever the network does. -/
theorem send_outcome (p : Peer) (net : Network) (r : Request) : SendOutcome p net r := by
  refine ⟨p.send_of_ne_ok net r, fun h => ?_, fun h l resp ha hs => ?_,
    fun h l resp ha hs => p.send_of_rejected net r h ha hs,
    fun h ha => p.send_of_unanswered net r h ha⟩
  · constructor
    · intro hok
      rcases ha : (net p.endpoint p.sends r).answer p.link with _ | ⟨l, resp⟩
      · rw [(p.send_of_unanswered net r h ha).2] at hok
        cases hok
      · by_cases hs : resp.status = 200
        · exact ⟨l, resp, rfl, hs⟩
        · rw [(p.send_of_rejected net r h ha hs).2] at hok
          cases hok
    · rintro ⟨l, resp, ha, hs⟩
      rw [(p.send_of_accepted net r h ha hs).2]
  · rw [← Command.establishes_eq]
    exact p.send_of_accepted net r h ha hs

end ClusterAgent
