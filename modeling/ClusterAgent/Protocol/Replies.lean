import ClusterAgent.Text.Blank
import ClusterAgent.Text.Numeral

/-!
# Short replies

`PING` and `STOP-APP` answers are `key=value` pairs separated by `&`. The whole answer is
trimmed; each pair is split at its first `=`, and the first pair whose trimmed key equals the
wanted key gives the value, trimmed. A ping succeeded when `State` is exactly `OK`; a stop
reports how many requests are still in flight in `Requests`, read as a decimal numeral, with 0
when the field is missing or unreadable.
-/

namespace ClusterAgent.Replies

/-- The trimmed value of the first pair with a key. -/
def field? (reply : Bytes) (key : String) : Option Bytes :=
  let t := reply.trimBlank
  if t.isEmpty then none
  else
    (t.splitOn 0x26).findSome? fun pair =>
      match Bytes.cut 0x3D pair with
      | some (k, v) => if Bytes.trimBlank k == Bytes.ofString key then some (Bytes.trimBlank v) else none
      | none => none

/-- Whether a ping answer reports the peer as reachable. -/
def pingOk (reply : Bytes) : Bool := field? reply "State" == some (Bytes.ofString "OK")

/-- The number of requests a stop answer reports as still in flight. -/
def pendingRequests (reply : Bytes) : Int :=
  match field? reply "Requests" with
  | some raw => (Text.decimal? raw).getD 0
  | none => 0

end ClusterAgent.Replies
