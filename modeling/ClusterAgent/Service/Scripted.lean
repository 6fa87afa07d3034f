import ClusterAgent.Service.Basic

/-!
# A scripted pool

A stand-in for the pool of peers that runs the service without a network. It records every
call the service makes, in order, and answers as one proxy: each request gets the next reply
body scripted for its verb, the last body repeating once the script runs out, and an empty body
when there is no script for the verb. The body `!fail` stands for a failed round trip. The
connection step fails with a scripted message when one is given, and health is scripted too.
-/

namespace ClusterAgent

/-- A call the service made on its pool. -/
inductive PeerCall where
  | init (addresses : List String)
  | send (r : Request)
  | sendBatch (rs : List Request)
  | status
  | markAllInError
  | resetDown
  | shutdown

/-- What the scripted pool answers. An empty `initError` lets connecting succeed. -/
structure Script where
  replies : List (String × List Bytes) := []
  initError : String := ""
  healthy : Bool := true

/-- The scripted pool: its script, how many replies of each verb it used, and the calls so far. -/
structure Scripted where
  script : Script
  used : List (String × Nat) := []
  calls : List PeerCall := []

/-- The body that marks a failed round trip. -/
def failedBody : Bytes := Bytes.ofString "!fail"

namespace Scripted

/-- The next reply for a request. -/
def answer (s : Scripted) (r : Request) : Scripted × Reply :=
  let verb := r.command.verb
  let n := (s.used.lookup verb).getD 0
  let bodies := (s.script.replies.lookup verb).getD []
  let body := (bodies.drop n).head?.getD (bodies.getLast?.getD [])
  let used := (verb, n + 1) :: s.used.filter (·.1 != verb)
  ({ s with used }, if body == failedBody then { body := [], ok := false } else ⟨body, true⟩)

/-- Records a call. -/
def record (s : Scripted) (c : PeerCall) : Scripted := { s with calls := s.calls ++ [c] }

/-- Answers a batch in order. -/
def answerAll (s : Scripted) : List Request → Scripted
  | [] => s
  | r :: rs => (s.answer r).1.answerAll rs

/-- The scripted pool as the service drives it; connecting fails with the scripted message. -/
def link : PeerLink Scripted String where
  init s n addresses :=
    let s := s.record (.init addresses)
    (s, n, if s.script.initError.isEmpty then none else some s.script.initError)
  sendRequest s r :=
    let (s, reply) := (s.record (.send r)).answer r
    (s, [reply])
  sendRequests s rs := (s.record (.sendBatch rs)).answerAll rs
  status s n := (s.record .status, n)
  markAllInError s := s.record .markAllInError
  resetDown s := s.record .resetDown
  isHealthy s := s.script.healthy
  shutdown s := s.record .shutdown

end Scripted

end ClusterAgent
