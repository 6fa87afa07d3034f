import ClusterAgent.Proofs.Sending

/-!
# Writes are retried once, reads never

A send to a healthy peer tries to write its request at most twice. The first attempt goes over
the open connection, or over a fresh dial when none is open. Only when that attempt fails (the
dial is refused, or arming the deadline or writing fails) is the connection closed and the
request written once more, over a freshly dialled connection. An answer is read once, after the
attempt that went through, and nothing follows it: a failed retry or a failed read is never
retried, since the peer may already have acted on the request.

`RoundTrip` says this as a grammar of the I/O steps of one send, and `send_roundTrip` proves that
every send to a healthy peer follows it, whatever the network does. The grammar is read off
`Peer.deliver` through its two attempts (`Exchange.firstAttempt`, `Exchange.retry`); the counts
the design promises follow from the grammar alone (`RoundTrip.writes_le_two`,
`RoundTrip.reads_le_one`, `RoundTrip.read_last`).
-/

namespace ClusterAgent

/-- Whether a step is an attempt to write. -/
def IoStep.isWrite : IoStep → Bool
  | .write _ _ => true
  | _ => false

/-- An attempt over a freshly dialled connection: the dial is refused, or it connects and the
message is written, `ok` when the write went through. -/
inductive Dialled (msg : Bytes) : Bool → List IoStep → Prop
  | refused : Dialled msg false [.dial false]
  | written (ok : Bool) : Dialled msg ok [.dial true, .write msg ok]

/-- The first attempt at writing a message, `linked` when a connection was open: over that
connection, else over a fresh dial. -/
inductive FirstAttempt (msg : Bytes) : Bool → Bool → List IoStep → Prop
  | reused (ok : Bool) : FirstAttempt msg true ok [.write msg ok]
  | dialled {ok : Bool} {a : List IoStep} : Dialled msg ok a → FirstAttempt msg false ok a

/-- Delivering a message: the first attempt goes through, or it fails and is followed by a close
and one attempt over a fresh dial, which may fail too. -/
inductive Delivery (msg : Bytes) (linked : Bool) : Bool → List IoStep → Prop
  | first {a : List IoStep} : FirstAttempt msg linked true a → Delivery msg linked true a
  | retried {a b : List IoStep} {ok : Bool} : FirstAttempt msg linked false a → Dialled msg ok b →
      Delivery msg linked ok (a ++ .close :: b)

/-- The I/O of one round trip: the message is delivered, and when an attempt went through the
answer is read, once, as the last step. -/
def RoundTrip (msg : Bytes) (linked : Bool) (steps : List IoStep) : Prop :=
  ∃ ok a, Delivery msg linked ok a ∧ steps = a ++ if ok then [.read] else []

/-! ### The grammar, counted -/

section Counts

variable {msg : Bytes} {linked ok : Bool} {a : List IoStep}

theorem Dialled.countP_isWrite (h : Dialled msg ok a) : a.countP IoStep.isWrite ≤ 1 := by
  cases h <;> simp [IoStep.isWrite]

theorem Dialled.read_not_mem (h : Dialled msg ok a) : IoStep.read ∉ a := by
  cases h <;> simp

theorem Dialled.write_mem (h : Dialled msg ok a) {b : Bytes} {w : Bool}
    (hw : IoStep.write b w ∈ a) : b = msg := by
  cases h <;> simp_all

theorem FirstAttempt.countP_isWrite (h : FirstAttempt msg linked ok a) :
    a.countP IoStep.isWrite ≤ 1 := by
  cases h with
  | reused => simp [IoStep.isWrite]
  | dialled hd => exact hd.countP_isWrite

theorem FirstAttempt.read_not_mem (h : FirstAttempt msg linked ok a) : IoStep.read ∉ a := by
  cases h with
  | reused => simp
  | dialled hd => exact hd.read_not_mem

theorem FirstAttempt.write_mem (h : FirstAttempt msg linked ok a) {b : Bytes} {w : Bool}
    (hw : IoStep.write b w ∈ a) : b = msg := by
  cases h with
  | reused => simp_all
  | dialled hd => exact hd.write_mem hw

theorem Delivery.countP_isWrite (h : Delivery msg linked ok a) : a.countP IoStep.isWrite ≤ 2 := by
  cases h with
  | first hf => exact Nat.le_trans hf.countP_isWrite (by decide)
  | retried hf hd =>
    have h₁ := hf.countP_isWrite
    have h₂ := hd.countP_isWrite
    simp only [List.countP_append, List.countP_cons, IoStep.isWrite, Bool.false_eq_true, if_false]
    omega

theorem Delivery.read_not_mem (h : Delivery msg linked ok a) : IoStep.read ∉ a := by
  cases h with
  | first hf => exact hf.read_not_mem
  | retried hf hd => simp [hf.read_not_mem, hd.read_not_mem]

theorem Delivery.write_mem (h : Delivery msg linked ok a) {b : Bytes} {w : Bool}
    (hw : IoStep.write b w ∈ a) : b = msg := by
  cases h with
  | first hf => exact hf.write_mem hw
  | retried hf hd =>
    simp only [List.mem_append, List.mem_cons, reduceCtorEq, false_or] at hw
    exact hw.elim hf.write_mem hd.write_mem

end Counts

namespace RoundTrip

variable {msg : Bytes} {linked : Bool} {steps : List IoStep}

theorem write_mem (h : RoundTrip msg linked steps) {b : Bytes} {w : Bool}
    (hw : IoStep.write b w ∈ steps) : b = msg := by
  obtain ⟨ok, a, hd, rfl⟩ := h
  rcases List.mem_append.1 hw with hw | hw
  · exact hd.write_mem hw
  · cases ok <;> simp at hw

theorem writes_le_two (h : RoundTrip msg linked steps) : steps.countP IoStep.isWrite ≤ 2 := by
  obtain ⟨ok, a, hd, rfl⟩ := h
  have := hd.countP_isWrite
  cases ok <;> simpa [IoStep.isWrite] using this

theorem reads_le_one (h : RoundTrip msg linked steps) : steps.count .read ≤ 1 := by
  obtain ⟨ok, a, hd, rfl⟩ := h
  have : a.count .read = 0 := List.count_eq_zero.2 hd.read_not_mem
  cases ok <;> simp [this]

/-- Nothing follows a read: a failed read is never retried. -/
theorem read_last (h : RoundTrip msg linked steps) (hr : IoStep.read ∈ steps) :
    steps.getLast? = some .read := by
  obtain ⟨ok, a, hd, rfl⟩ := h
  cases ok
  · simp only [Bool.false_eq_true, if_false, List.append_nil] at hr
    exact absurd hr hd.read_not_mem
  · simp

end RoundTrip

/-! ### The two attempts of a delivery -/

namespace Exchange

/-- The first attempt at writing `msg`: over the open connection `link`, else over the first
dial. The connection written over when the write went through, and the steps taken. -/
def firstAttempt (x : Exchange) (link : Option Link) (msg : Bytes) : Option Link × List IoStep :=
  match link, x.firstDial with
  | some l, _ => (if x.firstWrite then some l else none, [.write msg x.firstWrite])
  | none, some l => (if x.firstWrite then some l else none, [.dial true, .write msg x.firstWrite])
  | none, none => (none, [.dial false])

/-- The one retry, over a fresh dial. -/
def retry (x : Exchange) (msg : Bytes) : Option Link × List IoStep :=
  match x.retryDial with
  | some l => (if x.retryWrite then some l else none, [.dial true, .write msg x.retryWrite])
  | none => (none, [.dial false])

theorem firstAttempt_spec (x : Exchange) (link : Option Link) (msg : Bytes) :
    FirstAttempt msg link.isSome (x.firstAttempt link msg).1.isSome
      (x.firstAttempt link msg).2 := by
  obtain ⟨firstDial, firstWrite, retryDial, retryWrite, reply⟩ := x
  cases link with
  | some l => cases firstWrite <;> exact .reused _
  | none =>
    cases firstDial with
    | some l => cases firstWrite <;> exact .dialled (.written _)
    | none => exact .dialled .refused

theorem retry_spec (x : Exchange) (msg : Bytes) :
    Dialled msg (x.retry msg).1.isSome (x.retry msg).2 := by
  obtain ⟨firstDial, firstWrite, retryDial, retryWrite, reply⟩ := x
  cases retryDial with
  | some l => cases retryWrite <;> exact .written _
  | none => exact .refused

end Exchange

namespace Peer

variable (p : Peer) (net : Network) (r : Request)

/-- Delivery is the first attempt, then, only if it failed, a close and the retry. -/
theorem deliver_eq (x : Exchange) (msg : Bytes) :
    p.deliver x msg =
      match x.firstAttempt p.link msg with
      | (some l, a) => (some l, a)
      | (none, a) => ((x.retry msg).1, a ++ .close :: (x.retry msg).2) := by
  obtain ⟨firstDial, firstWrite, retryDial, retryWrite, reply⟩ := x
  unfold deliver Exchange.firstAttempt Exchange.retry
  cases p.link <;> cases firstDial <;> cases firstWrite <;> cases retryDial <;>
    cases retryWrite <;> rfl

theorem deliver_delivery (x : Exchange) (msg : Bytes) :
    Delivery msg p.link.isSome (p.deliver x msg).1.isSome (p.deliver x msg).2 := by
  have hfirst := x.firstAttempt_spec p.link msg
  rw [deliver_eq]
  rcases h : x.firstAttempt p.link msg with ⟨_ | l, a⟩
  · -- the first attempt failed: a close and the retry follow
    rw [h] at hfirst
    exact .retried hfirst (x.retry_spec msg)
  · rw [h] at hfirst
    exact .first hfirst

/-- Every send to a healthy peer follows the round-trip grammar, whatever the network does. -/
theorem send_roundTrip (h : p.state = .ok) :
    RoundTrip (r.wire p.basePath p.hostHeader) p.link.isSome (p.send net r).2.2 := by
  have hdel := deliver_delivery { p with sends := p.sends + 1 } (net p.endpoint p.sends r)
    (r.wire p.basePath { p with sends := p.sends + 1 }.hostHeader)
  unfold send
  rw [if_neg (by simp [h])]
  dsimp only
  split
  · rename_i steps hd
    rw [hd] at hdel
    exact ⟨false, steps, hdel, by simp⟩
  · rename_i l steps hd
    rw [hd] at hdel
    refine ⟨true, steps, hdel, ?_⟩
    split
    · simp
    · split <;> simp

end Peer

/-- What one send to a healthy peer does on the wire, whatever the network does. It follows the
round-trip grammar: the first attempt over the open connection or a fresh dial, and only if that
fails a close and one attempt over a fresh dial; a failed retry ends the send. Every write carries
the same bytes, the request's head and body; there are at most two writes and at most one read,
and the read is the last step, so a failed read is not retried either. -/
theorem send_writes_retried_once (p : Peer) (net : Network) (r : Request) (h : p.state = .ok) :
    RoundTrip (r.wire p.basePath p.hostHeader) p.link.isSome (p.send net r).2.2 ∧
      (∀ b ok, IoStep.write b ok ∈ (p.send net r).2.2 → b = r.wire p.basePath p.hostHeader) ∧
      (p.send net r).2.2.countP IoStep.isWrite ≤ 2 ∧
      (p.send net r).2.2.count .read ≤ 1 ∧
      (IoStep.read ∈ (p.send net r).2.2 → (p.send net r).2.2.getLast? = some .read) := by
  have hrt := p.send_roundTrip net r h
  exact ⟨hrt, fun _ _ => hrt.write_mem, hrt.writes_le_two, hrt.reads_le_one, hrt.read_last⟩

/-- A healthy peer with no connection whose first dial is refused and whose retry goes through. -/
theorem send_writes_retried_once_refused_dial :
    let p : Peer := { endpoint := ⟨none, "", 6666⟩, state := .ok }
    let net : Network := fun _ _ _ => { retryDial := some ⟨⟨none, "", 40000⟩⟩, retryWrite := true }
    p.state = .ok ∧
      RoundTrip (Request.info.wire p.basePath p.hostHeader) p.link.isSome
        (p.send net Request.info).2.2 ∧
      (∀ b ok, IoStep.write b ok ∈ (p.send net Request.info).2.2 →
        b = Request.info.wire p.basePath p.hostHeader) ∧
      (p.send net Request.info).2.2.countP IoStep.isWrite ≤ 2 ∧
      (p.send net Request.info).2.2.count .read ≤ 1 ∧
      (IoStep.read ∈ (p.send net Request.info).2.2 →
        (p.send net Request.info).2.2.getLast? = some .read) := by
  intro p net
  exact ⟨rfl, send_writes_retried_once p net Request.info rfl⟩

end ClusterAgent
