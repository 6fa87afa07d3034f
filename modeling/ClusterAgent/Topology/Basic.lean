import ClusterAgent.Net.Address
import ClusterAgent.Text.Quoted

/-!
# Static topology

The application server as the proxies see it: engines, each reachable through one connector
and identified by a route; virtual hosts of an engine, each with a name and a set of aliases;
and contexts (deployed applications) of a host, each at a path and either started or not.

A topology is built from specs (`Topology.ofSpecs`). Routes must be non-empty and distinct;
a connector's kind is `ajp` (the default), `http` or `https`, and its address an IP literal or
a host name that a name service (`Resolver`) looks up; an engine's display name defaults to its
route. A host's aliases are its name together with its non-empty aliases,
sorted and without repeats. A context path is normalised (`normalizePath`: trimmed, the empty
path becomes `/`), and a path listed again replaces the earlier context in place, so the paths
of a host stay distinct.
-/

namespace ClusterAgent

/-- The path of a context as the protocol names it: trimmed of white space, with the empty
path standing for the root `/`. -/
def normalizePath (p : String) : String :=
  let t := p.trimBlank
  if t.isEmpty then "/" else t

/-- `normalizePath` on bytes read from a proxy. -/
def Bytes.normalizePath (p : Bytes) : Bytes :=
  let t := p.trimBlank
  if t.isEmpty then [0x2F] else t

/-- Sorts strings in byte order. -/
def sortStrings (l : List String) : List String := l.mergeSort fun a b => decide (a ≤ b)

/-- Drops adjacent repeats. -/
def dropRepeats : List String → List String
  | a :: b :: rest => if a = b then dropRepeats (b :: rest) else a :: dropRepeats (b :: rest)
  | l => l

/-- The alias set of a host: its name and its non-empty aliases, sorted, without repeats. -/
def aliasSet (name : String) (aliases : List String) : List String :=
  dropRepeats (sortStrings (name :: aliases.filter fun a => !a.isEmpty))

/-- The protocol a proxy uses to reach an engine. -/
inductive ConnectorKind where
  | ajp
  | http
  | https
  deriving DecidableEq, Repr

namespace ConnectorKind

/-- The name of a connector kind. -/
def name : ConnectorKind → String
  | ajp => "ajp"
  | http => "http"
  | https => "https"

/-- The connector kind a name denotes, matched exactly; the empty name means `ajp`. -/
def ofName? : String → Option ConnectorKind
  | "" => some ajp
  | "ajp" => some ajp
  | "http" => some http
  | "https" => some https
  | _ => none

end ConnectorKind

/-- A connector spec as configured: an address text (empty for "not yet known"), a port, a
kind name and whether the proxy connects back through it. -/
structure ConnectorSpec where
  address : String := ""
  port : Int := 0
  kind : String := ""
  reverse : Bool := false
  deriving DecidableEq, Repr

/-- A context spec: a path and whether the application runs. -/
structure ContextSpec where
  path : String := ""
  started : Bool := false
  deriving DecidableEq, Repr

/-- A host spec: a name, further aliases and its contexts. -/
structure HostSpec where
  name : String := ""
  aliases : List String := []
  contexts : List ContextSpec := []
  deriving DecidableEq, Repr

/-- An engine spec. -/
structure EngineSpec where
  name : String := ""
  route : String := ""
  connector : ConnectorSpec := {}
  hosts : List HostSpec := []
  deriving DecidableEq, Repr

/-- A connector: the address proxies should connect to, once known. -/
structure Connector where
  address : Option IP
  port : Int
  kind : ConnectorKind
  reverse : Bool
  deriving DecidableEq

/-- A deployed application. -/
structure Context where
  path : String
  started : Bool
  deriving DecidableEq, Repr

/-- A virtual host. -/
structure Host where
  name : String
  aliases : List String
  contexts : List Context
  deriving DecidableEq, Repr

/-- An engine, the unit a proxy balances to. -/
structure Engine where
  name : String
  route : String
  connector : Connector
  hosts : List Host
  deriving DecidableEq

/-- The engines of the server, in configuration order. -/
structure Topology where
  engines : List Engine
  deriving DecidableEq

/-- Why specs do not describe a topology. -/
inductive TopologyError where
  | noRoute (name : String)
  | duplicateRoute (route : String)
  | unsupportedConnector (route kind : String)
  | unresolvedAddress (route address : String)
  deriving DecidableEq, Repr

/-- The message of a topology error. -/
def TopologyError.message : TopologyError → String
  | .noRoute n => "engine " ++ Text.quoteString n ++ " has no route"
  | .duplicateRoute r => "duplicate engine route " ++ Text.quoteString r
  | .unsupportedConnector r k =>
    "engine " ++ Text.quoteString r ++ ": unsupported connector type " ++ Text.quoteString k
  | .unresolvedAddress r a =>
    "engine " ++ Text.quoteString r ++ ": cannot resolve connector address " ++
      Text.quoteString a ++ ": lookup " ++ a ++ ": no such host"

namespace Host

/-- Deploys a context, replacing the context at the same path in place. -/
def addContext (h : Host) (path : String) (started : Bool) : Host :=
  let c : Context := ⟨normalizePath path, started⟩
  if h.contexts.any (·.path == c.path) then
    { h with contexts := h.contexts.map fun x => if x.path == c.path then c else x }
  else { h with contexts := h.contexts ++ [c] }

/-- Undeploys the context at a path; `false` when there is none. -/
def removeContext (h : Host) (path : String) : Host × Bool :=
  let p := normalizePath path
  match h.contexts.findIdx? (·.path == p) with
  | some i => ({ h with contexts := h.contexts.eraseIdx i }, true)
  | none => (h, false)

/-- A host built from a name and aliases, with no contexts. -/
def empty (name : String) (aliases : List String) : Host := ⟨name, aliasSet name aliases, []⟩

/-- A host built from a spec. -/
def ofSpec (hs : HostSpec) : Host :=
  hs.contexts.foldl (fun h c => h.addContext c.path c.started) (empty hs.name hs.aliases)

end Host

namespace Connector

/-- A connector built from a spec. An IP literal is its own address; an IPv6 literal may carry a
zone, which a lookup of the text accepts and the connector does not keep. Another address is a
host name, which takes the first address `dns` gives for it and is refused when there is none. -/
def ofSpec (dns : Resolver) (route : String) (cs : ConnectorSpec) : Except TopologyError Connector :=
  match ConnectorKind.ofName? cs.kind with
  | none => .error (.unsupportedConnector route cs.kind)
  | some kind =>
    if cs.address.isEmpty then .ok ⟨none, cs.port, kind, cs.reverse⟩
    else
      match IP.parseZoned? cs.address with
      | some (ip, _) => .ok ⟨some ip, cs.port, kind, cs.reverse⟩
      | none =>
        match dns.lookup (Bytes.ofString cs.address) with
        | ip :: _ => .ok ⟨some ip, cs.port, kind, cs.reverse⟩
        | [] => .error (.unresolvedAddress route cs.address)

/-- Binds the connector to a local address learnt later, unless it already has a specific
one. Returns whether the address changed. -/
def bind (c : Connector) (ip : Option IP) : Connector × Bool :=
  match ip with
  | none => (c, false)
  | some ip =>
    match c.address with
    | some a => if a.isUnspecified then ({ c with address := some ip }, true) else (c, false)
    | none => ({ c with address := some ip }, true)

end Connector

namespace Engine

/-- An engine built from a spec, its connector's host name looked up with `dns`. -/
def ofSpec (dns : Resolver) (es : EngineSpec) : Except TopologyError Engine :=
  match Connector.ofSpec dns es.route es.connector with
  | .error e => .error e
  | .ok c => .ok ⟨if es.name.isEmpty then es.route else es.name, es.route, c,
      es.hosts.map Host.ofSpec⟩

end Engine

namespace Topology

/-- Builds engines from specs in order, refusing an empty or repeated route. -/
def buildEngines (dns : Resolver) (seen : List String) :
    List EngineSpec → Except TopologyError (List Engine)
  | [] => .ok []
  | es :: rest =>
    if es.route.isEmpty then .error (.noRoute es.name)
    else if seen.contains es.route then .error (.duplicateRoute es.route)
    else
      match Engine.ofSpec dns es with
      | .error e => .error e
      | .ok e =>
        match buildEngines dns (es.route :: seen) rest with
        | .error err => .error err
        | .ok more => .ok (e :: more)

/-- The topology the specs describe, connector host names looked up with `dns`. -/
def ofSpecs (dns : Resolver) (specs : List EngineSpec) : Except TopologyError Topology :=
  (buildEngines dns [] specs).map Topology.mk

/-- The context at a path of the first host named `host` of the engine with `route` that has
one, with that engine and host. -/
def findContext (t : Topology) (route host path : String) : Option (Engine × Host × Context) :=
  let p := normalizePath path
  (t.engines.filter (·.route == route)).findSome? fun e =>
    (e.hosts.filter (·.name == host)).findSome? fun h =>
      (h.contexts.find? (·.path == p)).map fun c => (e, h, c)

/-- Sets the started flag of the context `findContext` finds; `false` when it finds none. -/
def setStarted (t : Topology) (route host path : String) (started : Bool) : Topology × Bool :=
  let p := normalizePath path
  match t.findContext route host path with
  | none => (t, false)
  | some _ =>
    let ei := (t.engines.findIdx? (·.route == route)).getD 0
    let engines := t.engines.modify ei fun e =>
      let hi := (e.hosts.findIdx? fun h => h.name == host && h.contexts.any (·.path == p)).getD 0
      { e with hosts := e.hosts.modify hi fun h =>
          { h with contexts := h.contexts.map fun c =>
              if c.path == p then { c with started := started } else c } }
    (⟨engines⟩, true)

/-- Applies a change to host `j` of engine `i`. -/
def modifyHost (t : Topology) (i j : Nat) (f : Host → Host) : Topology :=
  ⟨t.engines.modify i fun e => { e with hosts := e.hosts.modify j f }⟩

/-- Binds the connector of engine `i`. -/
def bindAddress (t : Topology) (i : Nat) (ip : Option IP) : Topology × Bool :=
  match t.engines[i]? with
  | none => (t, false)
  | some e =>
    let (c, changed) := e.connector.bind ip
    (⟨t.engines.set i { e with connector := c }⟩, changed)

end Topology

end ClusterAgent
