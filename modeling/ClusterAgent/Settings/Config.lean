import ClusterAgent.Yaml.Decode
import ClusterAgent.Settings.Schedule
import ClusterAgent.Topology.Exclusions
import ClusterAgent.Protocol.NodeSettings
import ClusterAgent.Peer.Basic

/-!
# The agent's configuration

The configuration file is YAML. Every setting has a default, and a file only names what it
changes; keys the agent does not know are ignored. After the file, four environment variables
override settings: `MCMP_PROXY_LIST` (a comma-separated list of proxies), `MCMP_LOG_LEVEL`,
`MCMP_LOG_FORMAT` and `MCMP_STATUS_INTERVAL`; an empty variable overrides nothing.

The result is then checked, setting by setting, and the first problem is reported:

* every proxy address resolves, and no two name the same endpoint;
* the proxy URL starts with `/` (empty means `/`);
* a local address, when given, resolves (a bare host gets port 0);
* timeouts are not negative;
* the load is between 1 and 100 (0 means 1);
* excluded contexts parse;
* the status interval is a cron schedule, a duration `d` standing for `@every d`;
* there is at least one engine, every engine has a route and every host a name.

Durations are nanosecond counts.
-/

namespace ClusterAgent

/-- The files that secure connections to the proxies. -/
structure TlsFiles where
  certFile : Bytes := []
  keyFile : Bytes := []
  caFile : Bytes := []
  serverName : Bytes := []
  insecureSkipVerify : Bool := false
  deriving DecidableEq, Repr

/-- How the proxies are reached. -/
structure ProxySettings where
  list : List Bytes := []
  url : Bytes := Bytes.ofString "/"
  localAddress : Bytes := []
  socketTimeout : Int := 20000000000
  tls : Option TlsFiles := none
  deriving DecidableEq, Repr

/-- How contexts are announced. -/
structure ContextSettings where
  excluded : List Bytes := []
  autoEnable : Option Bool := none
  stopTimeout : Int := 10000000000
  deriving DecidableEq, Repr

/-- Where metrics are served. -/
structure MetricsSettings where
  address : Bytes := []
  path : Bytes := Bytes.ofString "/metrics"
  deriving DecidableEq, Repr

/-- Whether spans are exported, and where to. -/
structure TracingSettings where
  enabled : Bool := false
  exporter : Bytes := []
  deriving DecidableEq, Repr

/-- Whether the configuration file is watched, and how long changes settle. -/
structure HotReloadSettings where
  enabled : Bool := false
  debounceDelay : Int := 100000000
  deriving DecidableEq, Repr

/-- How the agent logs. -/
structure LoggingSettings where
  level : Bytes := Bytes.ofString "INFO"
  format : Bytes := Bytes.ofString "console"
  deriving DecidableEq, Repr

/-- A connector as the file describes it. -/
structure ConnectorEntry where
  address : Bytes := []
  port : Int := 0
  kind : Bytes := []
  reverse : Bool := false
  deriving DecidableEq, Repr

/-- A context as the file describes it. -/
structure ContextEntry where
  path : Bytes := []
  started : Bool := false
  deriving DecidableEq, Repr

/-- A host as the file describes it. -/
structure HostEntry where
  name : Bytes := []
  aliases : List Bytes := []
  contexts : List ContextEntry := []
  deriving DecidableEq, Repr

/-- An engine as the file describes it. -/
structure EngineEntry where
  name : Bytes := []
  route : Bytes := []
  connector : ConnectorEntry := {}
  hosts : List HostEntry := []
  deriving DecidableEq, Repr

/-- The topology spec of an engine entry, its text decoded as UTF-8. -/
def EngineEntry.spec (e : EngineEntry) : EngineSpec where
  name := e.name.toText
  route := e.route.toText
  connector :=
    { address := e.connector.address.toText, port := e.connector.port,
      kind := e.connector.kind.toText, reverse := e.connector.reverse }
  hosts := e.hosts.map fun h =>
    { name := h.name.toText, aliases := h.aliases.map Bytes.toText,
      contexts := h.contexts.map fun c => { path := c.path.toText, started := c.started } }

/-- The whole configuration; the defaults are the values a file that names nothing gives. Text
settings are bytes: a file may give any bytes as a `!!binary` value. -/
structure Config where
  path : String := ""
  node : NodeSettings := {}
  balancer : BalancerSettings := {}
  proxy : ProxySettings := {}
  context : ContextSettings := {}
  load : Int := 1
  statusInterval : Bytes := Bytes.ofString "10s"
  topology : List EngineEntry := []
  metrics : MetricsSettings := {}
  tracing : TracingSettings := {}
  hotReload : HotReloadSettings := {}
  logging : LoggingSettings := {}
  deriving DecidableEq, Repr

/-! ## Reading the file -/

/-- Why a configuration was not accepted: it was refused, with the message (bytes, since it may
quote the file's text); or checking it broke down, with the runtime's report. -/
inductive ConfigFailure where
  | refused (message : Bytes)
  | broken (report : String)
  deriving DecidableEq, Repr

/-- A check whose only failure is a refusal. -/
def refusing {α : Type} (x : Except String α) : Except ConfigFailure α :=
  x.mapError fun e => .refused (Bytes.ofString e)

namespace Config

open Yaml

/-- Reads durations, written as duration texts. -/
def durationReader : Reader Int where
  name := "time.Duration"
  scalar := fun _ _ v => match v with
    | .str s => (parseDuration (Bytes.ofString s)).toOption
    | .bytes b => (parseDuration b).toOption
    | _ => none

/-- Reads the files of TLS connections. -/
def tlsReader : Reader TlsFiles where
  name := "common.TLSFiles"
  fields := some [
    Field.of "cert_file" textReader (·.certFile) fun v x => { v with certFile := x },
    Field.of "key_file" textReader (·.keyFile) fun v x => { v with keyFile := x },
    Field.of "ca_file" textReader (·.caFile) fun v x => { v with caFile := x },
    Field.of "server_name" textReader (·.serverName) fun v x => { v with serverName := x },
    Field.of "insecure_skip_verify" boolReader (·.insecureSkipVerify)
      fun v x => { v with insecureSkipVerify := x }]

/-- Reads the proxy settings. -/
def proxyReader : Reader ProxySettings where
  name := "config.ProxySettings"
  fields := some [
    Field.of "list" (textReader.list []) (·.list) fun v x => { v with list := x },
    Field.of "proxy_url" textReader (·.url) fun v x => { v with url := x },
    Field.of "local_address" textReader (·.localAddress) fun v x => { v with localAddress := x },
    Field.of "socket_timeout" durationReader (·.socketTimeout)
      fun v x => { v with socketTimeout := x },
    Field.of "tls" (tlsReader.optional {}) (·.tls) fun v x => { v with tls := x }]

/-- Reads the context settings. -/
def contextReader : Reader ContextSettings where
  name := "config.ContextSettings"
  fields := some [
    Field.of "excluded_contexts" (textReader.list []) (·.excluded) fun v x => { v with excluded := x },
    Field.of "auto_enable_contexts" (boolReader.optional false) (·.autoEnable)
      fun v x => { v with autoEnable := x },
    Field.of "stop_context_timeout" durationReader (·.stopTimeout)
      fun v x => { v with stopTimeout := x }]

/-- Reads the per-node settings. -/
def nodeReader : Reader NodeSettings where
  name := "mcmp.NodeConfig"
  fields := some [
    Field.of "domain" textReader (·.loadBalancingGroup)
      fun v x => { v with loadBalancingGroup := x },
    Field.of "flush_packets" boolReader (·.flushPackets) fun v x => { v with flushPackets := x },
    Field.of "flush_wait" intReader (·.flushWait) fun v x => { v with flushWait := x },
    Field.of "ping" intReader (·.ping) fun v x => { v with ping := x },
    Field.of "smax" intReader (·.smax) fun v x => { v with smax := x },
    Field.of "ttl" intReader (·.ttl) fun v x => { v with ttl := x },
    Field.of "node_timeout" intReader (·.nodeTimeout) fun v x => { v with nodeTimeout := x },
    Field.of "balancer" textReader (·.balancer) fun v x => { v with balancer := x }]

/-- Reads the balancer settings. -/
def balancerReader : Reader BalancerSettings where
  name := "mcmp.BalancerConfig"
  fields := some [
    Field.of "sticky_session" boolReader (·.stickySession) fun v x => { v with stickySession := x },
    Field.of "sticky_session_cookie" textReader (·.stickySessionCookie)
      fun v x => { v with stickySessionCookie := x },
    Field.of "sticky_session_path" textReader (·.stickySessionPath)
      fun v x => { v with stickySessionPath := x },
    Field.of "sticky_session_remove" boolReader (·.stickySessionRemove)
      fun v x => { v with stickySessionRemove := x },
    Field.of "sticky_session_force" boolReader (·.stickySessionForce)
      fun v x => { v with stickySessionForce := x },
    Field.of "worker_timeout" intReader (·.workerTimeout) fun v x => { v with workerTimeout := x },
    Field.of "max_attempts" intReader (·.maxAttempts) fun v x => { v with maxAttempts := x }]

/-- Reads connector entries. -/
def connectorReader : Reader ConnectorEntry where
  name := "topology.ConnectorSpec"
  fields := some [
    Field.of "address" textReader (·.address) fun v x => { v with address := x },
    Field.of "port" intReader (·.port) fun v x => { v with port := x },
    Field.of "type" { textReader with name := "topology.ConnectorType" } (·.kind)
      fun v x => { v with kind := x },
    Field.of "reverse" boolReader (·.reverse) fun v x => { v with reverse := x }]

/-- Reads context entries. -/
def contextEntryReader : Reader ContextEntry where
  name := "topology.ContextSpec"
  fields := some [
    Field.of "path" textReader (·.path) fun v x => { v with path := x },
    Field.of "started" boolReader (·.started) fun v x => { v with started := x }]

/-- Reads host entries. -/
def hostReader : Reader HostEntry where
  name := "topology.HostSpec"
  fields := some [
    Field.of "name" textReader (·.name) fun v x => { v with name := x },
    Field.of "aliases" (textReader.list []) (·.aliases) fun v x => { v with aliases := x },
    Field.of "contexts" (contextEntryReader.list {}) (·.contexts) fun v x => { v with contexts := x }]

/-- Reads engine entries. -/
def engineReader : Reader EngineEntry where
  name := "topology.EngineSpec"
  fields := some [
    Field.of "name" textReader (·.name) fun v x => { v with name := x },
    Field.of "route" textReader (·.route) fun v x => { v with route := x },
    Field.of "connector" connectorReader (·.connector) fun v x => { v with connector := x },
    Field.of "hosts" (hostReader.list {}) (·.hosts) fun v x => { v with hosts := x }]

/-- Reads the metrics settings. -/
def metricsReader : Reader MetricsSettings where
  name := "config.MetricsSettings"
  fields := some [
    Field.of "address" textReader (·.address) fun v x => { v with address := x },
    Field.of "path" textReader (·.path) fun v x => { v with path := x }]

/-- Reads the tracing settings. -/
def tracingReader : Reader TracingSettings where
  name := "tracer.Config"
  fields := some [
    Field.of "enabled" boolReader (·.enabled) fun v x => { v with enabled := x },
    Field.of "exporter" textReader (·.exporter) fun v x => { v with exporter := x }]

/-- Reads the hot reload settings. -/
def hotReloadReader : Reader HotReloadSettings where
  name := "common.HotReloadConfig"
  fields := some [
    Field.of "enabled" boolReader (·.enabled) fun v x => { v with enabled := x },
    Field.of "debounce_delay" durationReader (·.debounceDelay)
      fun v x => { v with debounceDelay := x }]

/-- Reads the logging settings. -/
def loggingReader : Reader LoggingSettings where
  name := "config.LoggingSettings"
  fields := some [
    Field.of "level" textReader (·.level) fun v x => { v with level := x },
    Field.of "format" textReader (·.format) fun v x => { v with format := x }]

/-- Reads the whole configuration. -/
def reader : Reader Config where
  name := "config.Config"
  fields := some [
    Field.of "node" nodeReader (·.node) fun v x => { v with node := x },
    Field.of "balancer" balancerReader (·.balancer) fun v x => { v with balancer := x },
    Field.of "proxy" proxyReader (·.proxy) fun v x => { v with proxy := x },
    Field.of "context" contextReader (·.context) fun v x => { v with context := x },
    Field.of "load" intReader (·.load) fun v x => { v with load := x },
    Field.of "status_interval" textReader (·.statusInterval)
      fun v x => { v with statusInterval := x },
    Field.of "topology" (engineReader.list {}) (·.topology) fun v x => { v with topology := x },
    Field.of "metrics" metricsReader (·.metrics) fun v x => { v with metrics := x },
    Field.of "tracing" tracingReader (·.tracing) fun v x => { v with tracing := x },
    Field.of "hot_reload" hotReloadReader (·.hotReload) fun v x => { v with hotReload := x },
    Field.of "logging" loggingReader (·.logging) fun v x => { v with logging := x }]

/-! ## Environment overrides and checks -/

/-- The items of a comma-separated list, trimmed, blank items left out. -/
def splitList (v : String) : List String :=
  ((v.toList.splitOn ',').map fun cs => (String.ofList cs).trimBlank).filter (· != "")

/-- Applies the environment overrides; `env` looks a variable up (empty when unset). -/
def applyEnv (env : String → String) (cfg : Config) : Config :=
  let cfg := if env "MCMP_PROXY_LIST" != "" then
      { cfg with proxy := { cfg.proxy with
          list := (splitList (env "MCMP_PROXY_LIST")).map Bytes.ofString } }
    else cfg
  let cfg := if env "MCMP_LOG_LEVEL" != "" then
      { cfg with logging := { cfg.logging with level := Bytes.ofString (env "MCMP_LOG_LEVEL") } }
    else cfg
  let cfg := if env "MCMP_LOG_FORMAT" != "" then
      { cfg with logging := { cfg.logging with format := Bytes.ofString (env "MCMP_LOG_FORMAT") } }
    else cfg
  if env "MCMP_STATUS_INTERVAL" != "" then
    { cfg with statusInterval := Bytes.ofString (env "MCMP_STATUS_INTERVAL") }
  else cfg

/-- The status interval as a cron schedule: a duration `d` becomes `@every d`, shown in the
canonical duration form. -/
def statusSchedule (cfg : Config) : Bytes :=
  match parseDuration cfg.statusInterval with
  | .ok d => Bytes.ofString ("@every " ++ durationText d)
  | .error _ => cfg.statusInterval

/-- Whether started contexts are enabled when announced (the default). -/
def autoEnable (cfg : Config) : Bool := cfg.context.autoEnable.getD true

/-- The excluded contexts, parsed. -/
def exclusions (cfg : Config) : Exclusions :=
  match Exclusions.ofEntries cfg.context.excluded with
  | .ok ex => ex
  | .error _ => ⟨[]⟩

/-- The local endpoint connections to the proxies start from: a bare host gets port 0, and a
host name is looked up with `dns`. -/
def localEndpoint (dns : Resolver) (cfg : Config) : Except Bytes Endpoint :=
  let raw := cfg.proxy.localAddress
  let address := match splitHostPort raw with
    | .ok _ => raw
    | .error _ => Bytes.joinHostPort raw (Bytes.ofString "0")
  match Endpoint.resolve dns address with
  | .ok e => .ok e
  | .error e =>
    .error (Bytes.ofString ("proxy.local_address " ++ Text.quote raw ++ ": ") ++ e.message)

/-- Checks the proxy list: each address resolves, host names looked up with `dns`, and names a new
endpoint. -/
def checkProxies (dns : Resolver) (list : List Bytes) : Except Bytes Unit := do
  let _ ← (list.zip (List.range list.length)).foldlM (fun (seen : List String) (address, i) =>
    let item := Bytes.ofString ("proxy.list[" ++ toString i ++ "]: ")
    match resolvePeerAddress dns address with
    | .error e => .error (item ++ e.message)
    | .ok ep =>
      if seen.contains ep.key then .error (item ++ Bytes.ofString "duplicate proxy " ++ address)
      else .ok (ep.key :: seen)) []
  pure ()

/-- Checks the engines: each has a route, and each of its hosts a name. -/
def checkTopology (engines : List EngineEntry) : Except String Unit :=
  if engines.isEmpty then .error "topology must define at least one engine"
  else
    (engines.zip (List.range engines.length)).forM fun (e, i) =>
      if e.route.isEmpty then .error ("topology[" ++ toString i ++ "].route is required")
      else
        (e.hosts.zip (List.range e.hosts.length)).forM fun (h, j) =>
          if h.name.isEmpty then
            .error ("topology[" ++ toString i ++ "].hosts[" ++ toString j ++ "].name is required")
          else .ok ()

/-- A refusal with a text message. -/
def refuse {α : Type} (msg : String) : Except ConfigFailure α := .error (.refused (Bytes.ofString msg))

/-- Checks the configuration, host names looked up with `dns`, and fills in the settings whose
empty value stands for the default. -/
def validate (dns : Resolver) (cfg : Config) : Except ConfigFailure Config := do
  (checkProxies dns cfg.proxy.list).mapError .refused
  let cfg := if cfg.proxy.url.isEmpty then
      { cfg with proxy := { cfg.proxy with url := Bytes.ofString "/" } }
    else cfg
  if cfg.proxy.url.head? != some 0x2F then
    throw (.refused (Bytes.ofString "proxy.proxy_url must start with '/' (got: " ++ cfg.proxy.url ++
      Bytes.ofString ")"))
  if !cfg.proxy.localAddress.isEmpty then
    let _ ← (localEndpoint dns cfg).mapError .refused
  if cfg.proxy.socketTimeout < 0 then refuse "proxy.socket_timeout must not be negative"
  let cfg := if cfg.load == 0 then { cfg with load := 1 } else cfg
  if cfg.load < 1 || cfg.load > 100 then
    refuse ("load must be between 1 and 100 (got: " ++ toString cfg.load ++ ")")
  match Exclusions.ofEntries cfg.context.excluded with
  | .error e => refuse ("context.excluded_contexts: " ++ e.message)
  | .ok _ => pure ()
  if cfg.context.stopTimeout < 0 then refuse "context.stop_context_timeout must not be negative"
  let cfg := if cfg.statusInterval.isEmpty then
      { cfg with statusInterval := Bytes.ofString "10s" }
    else cfg
  match checkSchedule cfg.statusSchedule with
  | .error (.refused e) =>
    throw (.refused (Bytes.ofString ("status_interval " ++ Text.quote cfg.statusInterval ++ ": ") ++ e))
  | .error (.broken r) => throw (.broken r)
  | .ok () => pure ()
  refusing (checkTopology cfg.topology)
  let cfg := if cfg.metrics.path.isEmpty then
      { cfg with metrics := { cfg.metrics with path := Bytes.ofString "/metrics" } }
    else cfg
  let cfg := if cfg.hotReload.debounceDelay ≤ 0 then
      { cfg with hotReload := { cfg.hotReload with debounceDelay := 100000000 } }
    else cfg
  pure cfg

end Config

/-- Reads a configuration file, applies the environment overrides and checks the result, host
names looked up with `dns`. -/
def parseConfig (dns : Resolver) (text : Bytes) (path : String) (env : String → String) :
    Except ConfigFailure Config :=
  match Yaml.decodeText Config.reader text {} with
  | .error e => .error (.refused (Bytes.ofString "failed to parse config file: " ++ e))
  | .ok cfg =>
    match Config.validate dns (Config.applyEnv env { cfg with path }) with
    | .error (.refused e) => .error (.refused (Bytes.ofString "config validation failed: " ++ e))
    | .error (.broken r) => .error (.broken r)
    | .ok cfg => .ok cfg

/-- The settings every proxy connection shares. -/
structure ProxyConnection where
  socketTimeout : Int
  basePath : Bytes
  localAddress : Option Endpoint
  tls : Bool

/-- Why TLS settings were refused. -/
def tlsProblem (t : TlsFiles) : Option String :=
  if t.certFile.isEmpty != t.keyFile.isEmpty then some "cert_file and key_file must be set together"
  else none

/-- The shared connection settings of a configuration, host names looked up with `dns`; a refusal
is bytes, as it may quote the local address. -/
def Config.proxyConnection (dns : Resolver) (cfg : Config) : Except Bytes ProxyConnection := do
  let localAddress ←
    if cfg.proxy.localAddress.isEmpty then pure none else some <$> cfg.localEndpoint dns
  let tls ← match cfg.proxy.tls with
    | none => pure false
    | some t =>
      match tlsProblem t with
      | some p => throw (Bytes.ofString ("proxy.tls: " ++ p))
      | none => pure true
  pure { socketTimeout := cfg.proxy.socketTimeout, basePath := cfg.proxy.url, localAddress, tls }

end ClusterAgent
