import ClusterAgent.Protocol.Request
import ClusterAgent.Protocol.NodeSettings
import ClusterAgent.Topology.Basic

/-!
# The requests of the protocol

How each request is built from the topology and the node settings.

`CONFIG` registers an engine: its connector (`Host`, `Port`, `Type`, and `Reversed=true` for a
reverse connector), then the node settings that are set (`Domain`, `flushpackets=On`,
`flushwait`, `ping`, `smax`, `ttl`, `Timeout`, `Balancer`), then the balancer settings that
differ from the defaults (`StickySession=No`, `StickySessionCookie`, `StickySessionPath`,
`StickySessionRemove=Yes`, `StickySessionForce=No`, `WaitWorker`, `Maxattempts`).

A context request names the context's normalised path and the host's aliases joined by `,`.
An engine-wide request is a wildcard request for the engine's route.
-/

namespace ClusterAgent

namespace Request

/-- A parameter from two strings. -/
def param (name value : String) : Bytes × Bytes := (Bytes.ofString name, Bytes.ofString value)

/-- A parameter with a value given as bytes. -/
def rawParam (name : String) (value : Bytes) : Bytes × Bytes := (Bytes.ofString name, value)

/-- The integer parameter, when the setting is set. -/
def setting (name : String) (v : Int) : List (Bytes × Bytes) :=
  if v = unset then [] else [param name (toString v)]

/-- The `CONFIG` request announcing an engine. -/
def config (node : NodeSettings) (bal : BalancerSettings) (e : Engine) : Request :=
  let c := e.connector
  let connector :=
    [param "Host" (formatAddress c.address), param "Port" (toString c.port),
      param "Type" c.kind.name] ++ (if c.reverse then [param "Reversed" "true"] else [])
  let nodeParams :=
    (if node.loadBalancingGroup.isEmpty then [] else [rawParam "Domain" node.loadBalancingGroup]) ++
    (if node.flushPackets then [param "flushpackets" "On"] else []) ++
    setting "flushwait" node.flushWait ++ setting "ping" node.ping ++
    setting "smax" node.smax ++ setting "ttl" node.ttl ++ setting "Timeout" node.nodeTimeout ++
    (if node.balancer.isEmpty then [] else [rawParam "Balancer" node.balancer])
  let balParams :=
    (if bal.stickySession then [] else [param "StickySession" "No"]) ++
    (if bal.stickySessionCookie.isEmpty || bal.stickySessionCookie == Bytes.ofString "JSESSIONID"
      then [] else [rawParam "StickySessionCookie" bal.stickySessionCookie]) ++
    (if bal.stickySessionPath.isEmpty || bal.stickySessionPath == Bytes.ofString "jsessionid"
      then [] else [rawParam "StickySessionPath" bal.stickySessionPath]) ++
    (if bal.stickySessionRemove then [param "StickySessionRemove" "Yes"] else []) ++
    (if bal.stickySessionForce then [] else [param "StickySessionForce" "No"]) ++
    setting "WaitWorker" bal.workerTimeout ++ setting "Maxattempts" bal.maxAttempts
  { command := .config, route := Bytes.ofString e.route,
    params := connector ++ nodeParams ++ balParams }

/-- The parameters naming a context of a host. -/
def contextParams (path : Bytes) (aliases : List Bytes) : List (Bytes × Bytes) :=
  [(Bytes.ofString "Context", path.normalizePath),
    (Bytes.ofString "Alias", (aliases.intersperse [0x2C]).flatten)]

/-- A request about one context of a host of an engine. -/
def forContext (cmd : Command) (e : Engine) (h : Host) (c : Context) : Request :=
  { command := cmd, route := Bytes.ofString e.route,
    params := contextParams (Bytes.ofString c.path) (h.aliases.map Bytes.ofString) }

/-- Removes a context the proxy reported but that no longer exists here. -/
def removeReported (route path : Bytes) (aliases : List Bytes) : Request :=
  { command := .removeApp, route := route, params := contextParams path aliases }

/-- A request about every context of an engine. -/
def forEngine (cmd : Command) (e : Engine) : Request :=
  { command := cmd, wildcard := true, route := Bytes.ofString e.route }

/-- Reports the load factor of a node. -/
def status (route : String) (load : Int) : Request :=
  { command := .status, route := Bytes.ofString route, params := [param "Load" (toString load)] }

/-- Asks for the proxy's inventory. -/
def info : Request := { command := .info, wildcard := true }

/-- Asks for the proxy's configuration dump. -/
def dump : Request := { command := .dump, wildcard := true }

/-- Pings the proxy, or the node with a route when one is given. -/
def ping (route : String := "") : Request := { command := .ping, route := Bytes.ofString route }

/-- Asks the proxy to ping a backend by scheme, host and port. -/
def pingUrl (scheme host : Bytes) (port : Int) : Request :=
  { command := .ping,
    params := [(Bytes.ofString "Scheme", scheme), (Bytes.ofString "Host", host),
      param "Port" (toString port)] }

end Request

end ClusterAgent
