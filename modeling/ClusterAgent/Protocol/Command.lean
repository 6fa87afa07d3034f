/-!
# Commands

The verbs of the cluster management protocol. Each has a numeric code (0 to 8, in the order
below); a code outside that range stands for a verb this library does not know, written
`UNKNOWN(n)`. The four verbs that register this node with a proxy (`CONFIG` and the three
context state changes other than removal) are the ones whose success marks the proxy as
established.
-/

namespace ClusterAgent

/-- A protocol verb. -/
inductive Command where
  | config
  | enableApp
  | disableApp
  | stopApp
  | removeApp
  | status
  | dump
  | info
  | ping
  /-- A verb known only by a code outside 0..8. -/
  | unknown (code : Int)
  deriving DecidableEq, Repr

namespace Command

/-- The verb of a numeric code. -/
def ofCode (n : Int) : Command :=
  match n with
  | 0 => config
  | 1 => enableApp
  | 2 => disableApp
  | 3 => stopApp
  | 4 => removeApp
  | 5 => status
  | 6 => dump
  | 7 => info
  | 8 => ping
  | n => unknown n

/-- The verb as written on the request line. -/
def verb : Command → String
  | config => "CONFIG"
  | enableApp => "ENABLE-APP"
  | disableApp => "DISABLE-APP"
  | stopApp => "STOP-APP"
  | removeApp => "REMOVE-APP"
  | status => "STATUS"
  | dump => "DUMP"
  | info => "INFO"
  | ping => "PING"
  | unknown n => "UNKNOWN(" ++ toString n ++ ")"

/-- Whether a successful answer to this verb means the proxy now knows this node. -/
def establishes : Command → Bool
  | config | enableApp | disableApp | stopApp => true
  | _ => false

end Command

end ClusterAgent
