import ClusterAgent.Proofs.StatusPass
import ClusterAgent.Service.Basic

/-!
# The endpoint of the first connection

The node learns where it is reachable from the first connection a proxy accepts: the status pass
tells it, once, the local endpoint of the first peer it brings back, and the service binds every
connector that has no address, or an unspecified one, to that endpoint's address.

The endpoint is read off the peer after its `INFO` probe has returned. A probe drops any old
connection first, so it goes over a fresh dial, and a 200 answer keeps that connection unless it
asked to close it. So the node hears of the fresh connection's local endpoint when the answer kept
it, and of no endpoint at all when the answer carried `Connection: close`
(`first_connection_endpoint`); then no connector is bound, and since the node hears of a first
connection only once, none ever is (`first_connection_closed_binds_nothing`).
-/

namespace ClusterAgent

namespace Peer

variable (p : Peer) (net : Network) (r : Request)

/-- A send to a healthy peer succeeds only on a 200 answer read over the connection that carried
the request. -/
theorem answer_of_reply_ok (h : p.state = .ok) (hok : (p.send net r).2.1.ok = true) :
    ∃ l resp, (net p.endpoint p.sends r).answer p.link = some (l, resp) ∧ resp.status = 200 := by
  rcases ha : (net p.endpoint p.sends r).answer p.link with _ | ⟨l, resp⟩
  · rw [(p.send_of_unanswered net r h ha).2] at hok
    cases hok
  · by_cases hs : resp.status = 200
    · exact ⟨l, resp, rfl, hs⟩
    · rw [(p.send_of_rejected net r h ha hs).2] at hok
      cases hok

/-- After a successful probe the peer is connected from the local endpoint of the fresh connection
the probe went over, unless the answer asked to close it. -/
theorem probe_localEndpoint (hok : (p.probe net).2.1.ok = true) :
    ∃ l resp, (net p.endpoint p.sends Request.info).answer none = some (l, resp) ∧
      resp.status = 200 ∧
      (p.probe net).1.localEndpoint = if resp.close then none else some l.source := by
  obtain ⟨l, resp, ha, hs⟩ := answer_of_reply_ok { p with link := none, state := .ok } net
    Request.info rfl hok
  refine ⟨l, resp, ha, hs, ?_⟩
  have hsend :=
    (send_of_accepted { p with link := none, state := .ok } net Request.info rfl ha hs).1
  unfold probe localEndpoint
  rw [hsend]
  cases resp.close <;> rfl

end Peer

/-- Binding the connector of engine `i` changes that engine's connector, as `Connector.bind` does,
and nothing else. -/
theorem Topology.bindAddress_getElem? (t : Topology) (i j : Nat) (ip : Option IP) :
    (t.bindAddress i ip).1.engines[j]? =
      if j = i then t.engines[j]?.map fun e => { e with connector := (e.connector.bind ip).1 }
      else t.engines[j]? := by
  unfold Topology.bindAddress
  by_cases hj : j = i
  · subst hj
    rcases h : t.engines[j]? with _ | e
    · simp [h]
    · obtain ⟨hlt, -⟩ := List.getElem?_eq_some_iff.1 h
      simp [hlt]
  · rcases t.engines[i]? with _ | e
    · simp [hj]
    · simp [Ne.symm hj, hj]

namespace Node

/-- A node told of the address `ip` binds the connector of every engine as `Connector.bind` does:
one with no address or an unspecified one takes `ip`. -/
theorem connected_some (n : Node) (ip : IP) :
    (n.connected (some ip)).topology.engines =
      n.topology.engines.map fun e => { e with connector := (e.connector.bind (some ip)).1 } := by
  -- after binding the first `k` engines, those are bound and the others untouched
  have step : ∀ k j,
      ((List.range k).foldl (fun t i => (t.bindAddress i (some ip)).1) n.topology).engines[j]? =
        n.topology.engines[j]?.map fun e =>
          if j < k then { e with connector := (e.connector.bind (some ip)).1 } else e := by
    intro k j
    induction k with
    | zero => simp
    | succ k ih =>
      rw [List.range_succ, List.foldl_append, List.foldl_cons, List.foldl_nil,
        Topology.bindAddress_getElem?, ih]
      by_cases hj : j = k
      · subst hj
        simp
      · have hlt : (j < k + 1) ↔ j < k := by omega
        simp [hj, hlt]
  apply List.ext_getElem?
  intro j
  unfold connected
  dsimp only
  rw [step, List.getElem?_map]
  rcases h : n.topology.engines[j]? with _ | e
  · rfl
  · obtain ⟨hlt, -⟩ := List.getElem?_eq_some_iff.1 h
    simp [hlt]

end Node

variable {σ : Type}

open Pool in
/-- The endpoint the node hears of. Let `p` be the first peer a status pass brings back. Its `INFO`
probe went over a fresh connection `l` and read a 200 answer `resp`, and when the pass tells the
node of a first connection (a node listens and has not heard yet) it tells it of `l`'s local
endpoint if `resp` kept the connection, and of no endpoint if `resp` asked to close it. A service
node told of an address binds the connector of every engine that has none, or an unspecified one,
to it; told of no address, it binds nothing. -/
theorem first_connection_endpoint (obs : Observer σ) (net : Network) (reconcile : Bool)
    (pool : Pool) (s : σ) {p : Peer}
    (hfirst : pool.applyPending.peers.find? (·.revived net) = some p) :
    (∃ l resp, (net p.endpoint p.sends Request.info).answer none = some (l, resp) ∧
      resp.status = 200 ∧
      (pool.statusPass net obs reconcile s).2 =
        if pool.listening && !pool.announced then
          obs.connected s (if resp.close then none else some l.source)
        else s) ∧
    (∀ (n : Node) (ip : IP), (n.connected (some ip)).topology.engines =
      n.topology.engines.map fun e => { e with connector := (e.connector.bind (some ip)).1 }) ∧
    ∀ n : Node, (n.connected none).topology = n.topology := by
  have hok : (p.probe net).2.1.ok = true := by
    have := List.find?_some hfirst
    simp only [Peer.revived, Bool.and_eq_true, decide_eq_true_eq] at this
    exact this.2
  obtain ⟨l, resp, ha, hs, hend⟩ := p.probe_localEndpoint net hok
  refine ⟨⟨l, resp, ha, hs, ?_⟩, Node.connected_some, fun _ => rfl⟩
  rw [statusPass_node, firstRevived, hfirst]
  simp only [Option.map_some, Option.elim_some, hend]

/-- A pool of one failed peer whose probe is answered `200` over a fresh connection from
`127.0.0.1:40000`, which the answer keeps: the pass brings that peer back first. -/
theorem first_connection_endpoint_kept :
    let pool : Pool := { peers := [{ endpoint := ⟨none, "", 6666⟩ }], listening := true }
    let net : Network := fun _ _ _ =>
      { firstDial := some ⟨⟨some ⟨⟨#[0, 0, 0, 0, 0, 0, 0, 0, 0, 0, 255, 255, 127, 0, 0, 1], rfl⟩⟩,
          "", 40000⟩⟩,
        firstWrite := true,
        reply := Bytes.ofString "HTTP/1.1 200 X\r\nContent-Length: 1\r\n\r\nx" }
    pool.applyPending.peers.find? (·.revived net) = some { endpoint := ⟨none, "", 6666⟩ } ∧
      (∃ l resp, (net ⟨none, "", 6666⟩ 0 Request.info).answer none = some (l, resp) ∧
        resp.status = 200 ∧
        (pool.statusPass net ({} : Observer Unit) false ()).2 =
          if pool.listening && !pool.announced then
            ({} : Observer Unit).connected () (if resp.close then none else some l.source)
          else ()) ∧
      (∀ (n : Node) (ip : IP), (n.connected (some ip)).topology.engines =
        n.topology.engines.map fun e => { e with connector := (e.connector.bind (some ip)).1 }) ∧
      ∀ n : Node, (n.connected none).topology = n.topology := by
  intro pool net
  have hfirst : pool.applyPending.peers.find? (·.revived net) =
      some { endpoint := ⟨none, "", 6666⟩ } := by
    decide +kernel
  exact ⟨hfirst, first_connection_endpoint {} net false pool () hfirst⟩

/-- A first probe answered `200` with `Connection: close` binds nothing. One failed peer, brought
back by a pass over a listening service node that has not heard of a connection yet: the node
hears of no endpoint, so the connector of its one engine, which has no address, keeps none, though
the node is now established and will not hear of a first connection again. -/
theorem first_connection_closed_binds_nothing :
    let pool : Pool := { peers := [{ endpoint := ⟨none, "", 6666⟩ }], listening := true }
    let net : Network := fun _ _ _ =>
      { firstDial := some ⟨⟨some ⟨⟨#[0, 0, 0, 0, 0, 0, 0, 0, 0, 0, 255, 255, 127, 0, 0, 1], rfl⟩⟩,
          "", 40000⟩⟩,
        firstWrite := true,
        reply :=
          Bytes.ofString "HTTP/1.1 200 X\r\nConnection: close\r\nContent-Length: 1\r\n\r\nx" }
    let engine : Engine :=
      { name := "node1", route := "node1", hosts := [],
        connector := { address := none, port := 8009, kind := .ajp, reverse := false } }
    let node : Node := { topology := ⟨[engine]⟩ }
    (pool.statusPass net (Node.observer {}).recording false (node, [])).2.2 = [none] ∧
      (pool.statusPass net (Node.observer {}).recording false (node, [])).2.1.established = true ∧
      (pool.statusPass net (Node.observer {}).recording false (node, [])).2.1.topology =
        node.topology := by
  decide +kernel

end ClusterAgent
