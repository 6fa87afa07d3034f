import ClusterAgent.Text.Blank
import ClusterAgent.Text.Capitals
import ClusterAgent.Text.Numeral
import ClusterAgent.Topology.Basic

/-!
# A proxy's inventory

The `INFO` answer of a proxy lists what it knows of each node: `Node` records give a node id and
its route (`Name`), `Vhost` records give a virtual host of a node and one of its aliases, and
`Context` records give a context path of a virtual host and its status. `Inventory.parse` reads
such an answer.

The text is split into lines at each line feed; lines are trimmed, and blank lines and lines
whose first field has no `:` are skipped. The fields of a line are separated by `,`; each is
`Key: value` split at its first `:` with both sides trimmed. The first field is the tag with an
id group `[a:b:...]` of decimal ids; other fields are looked up by key, the first match
winning. A `Node` needs a `Name`, a `Vhost` needs two ids of a known node, a `Context` needs two
ids of a known virtual host and both a `Context` and a `Status` field; a record lacking a field
it needs is skipped, a record with bad ids is an error. Other tags are ignored. A node id named
again takes the later route; virtual hosts belong to the node id they were first declared for.
-/

namespace ClusterAgent

/-- The status a proxy reports for a context. -/
inductive ContextStatus where
  | enabled
  | disabled
  | stopped
  deriving DecidableEq, Repr

namespace ContextStatus

/-- The name of a status. -/
def name : ContextStatus → String
  | enabled => "ENABLED"
  | disabled => "DISABLED"
  | stopped => "STOPPED"

/-- The status of a numeric code (0 to 2, in the order above). -/
def ofCode? : Int → Option ContextStatus
  | 0 => some enabled
  | 1 => some disabled
  | 2 => some stopped
  | _ => none

/-- Reads a status word: trimmed, then matched to a name in any letter case. -/
def parse? (b : Bytes) : Option ContextStatus :=
  let t := b.trimBlank
  if t.upperIs "ENABLED" then some enabled
  else if t.upperIs "DISABLED" then some disabled
  else if t.upperIs "STOPPED" then some stopped
  else none

end ContextStatus

/-- A virtual host as a proxy reports it: a set of aliases (kept in the order first seen) and
the status of each context path. -/
structure VirtualHost where
  aliases : List Bytes := []
  contexts : List (Bytes × ContextStatus) := []
  deriving DecidableEq, Repr

namespace VirtualHost

/-- Adds an alias. -/
def addAlias (v : VirtualHost) (a : Bytes) : VirtualHost :=
  if v.aliases.contains a then v else { v with aliases := v.aliases ++ [a] }

/-- Sets the status of a path. -/
def setStatus (v : VirtualHost) (p : Bytes) (s : ContextStatus) : VirtualHost :=
  if v.contexts.any (·.1 == p) then
    { v with contexts := v.contexts.map fun (q, t) => if q == p then (q, s) else (q, t) }
  else { v with contexts := v.contexts ++ [(p, s)] }

/-- Whether a name is one of the aliases. -/
def hasAlias (v : VirtualHost) (a : Bytes) : Bool := v.aliases.contains a

/-- The status reported for a path. -/
def statusOf? (v : VirtualHost) (p : Bytes) : Option ContextStatus := v.contexts.lookup p

/-- The aliases in byte order. -/
def sortedAliases (v : VirtualHost) : List Bytes := v.aliases.mergeSort Bytes.lexLe

/-- The contexts in byte order of their paths. -/
def sortedContexts (v : VirtualHost) : List (Bytes × ContextStatus) :=
  v.contexts.mergeSort fun a b => Bytes.lexLe a.1 b.1

end VirtualHost

/-- What a proxy knows: for each route, in the order first seen, its virtual hosts in the order
they were declared. -/
structure Inventory where
  nodes : List (Bytes × List VirtualHost) := []
  deriving DecidableEq, Repr

namespace Inventory

/-- The virtual hosts reported for a route. -/
def vhostsOf (inv : Inventory) (route : Bytes) : List VirtualHost :=
  (inv.nodes.lookup route).getD []

/-- The routes in byte order, each with its virtual hosts. -/
def sorted (inv : Inventory) : List (Bytes × List VirtualHost) :=
  inv.nodes.mergeSort fun a b => Bytes.lexLe a.1 b.1

end Inventory

/-- The kind of record that carries an id group. -/
inductive RecordKind where
  | node
  | vhost
  | context
  deriving DecidableEq, Repr

/-- Why an `INFO` answer could not be read; each names its line (counted from 1). -/
inductive InfoError where
  /-- An id group that is not `[` decimal ids separated by `:` `]`. -/
  | badIdGroup (line : Nat) (group : Bytes)
  /-- A virtual host or context record with fewer than two ids. -/
  | tooFewIds (line : Nat) (kind : RecordKind) (group : Bytes)
  | unknownNode (line : Nat) (node : Int)
  | unknownVirtualHost (line : Nat) (node vhost : Int)
  | badStatus (line : Nat) (raw : Bytes)
  deriving DecidableEq, Repr

namespace InfoError

/-- The message of a status word that is none of the three. -/
def statusMessage (raw : Bytes) : String :=
  "malformed record: unknown context status " ++ Text.quote raw

/-- The message of an `INFO` error. -/
def message : InfoError → String
  | badIdGroup n g => s!"line {n}: malformed record: id group " ++ Text.quote g
  | tooFewIds n k g =>
    s!"line {n}: malformed record: " ++ (if k = .context then "context" else "vhost") ++
      " id " ++ Text.quote g
  | unknownNode n node => s!"line {n}: record references unknown node: node {node}"
  | unknownVirtualHost n node vh =>
    s!"line {n}: record references unknown virtual host: vhost {vh} of node {node}"
  | badStatus n raw => s!"line {n}: " ++ statusMessage raw

end InfoError

namespace Inventory

/-- Splits `Key: value` at its first `:`, both sides trimmed. -/
def splitPair (b : Bytes) : Option (Bytes × Bytes) :=
  (b.cut 0x3A).map fun (k, v) => (k.trimBlank, v.trimBlank)

/-- The value of the first field with a key. -/
def lookupField (fields : List Bytes) (key : String) : Option Bytes :=
  fields.findSome? fun f =>
    match splitPair f with
    | some (k, v) => if k == Bytes.ofString key then some v else none
    | none => none

/-- Reads an id group `[a:b:...]`. -/
def parseIds (group : Bytes) : Option (List Int) :=
  let g := group.trimBlank
  match g with
  | 0x5B :: rest =>
    if rest.getLast? == some 0x5D then
      (rest.dropLast.splitOn 0x3A).mapM fun part => Text.decimal? (Bytes.trimBlank part)
    else none
  | _ => none

/-- What the reader remembers between lines: the inventory so far, the route of each node id,
and where the virtual host of each (node id, vhost id) pair is kept. -/
structure Reading where
  inv : Inventory := {}
  routes : List (Int × Bytes) := []
  hosts : List ((Int × Int) × (Bytes × Nat)) := []

/-- Makes sure a route is listed. -/
def Reading.touch (r : Reading) (route : Bytes) : Reading :=
  if r.inv.nodes.any (·.1 == route) then r
  else { r with inv := ⟨r.inv.nodes ++ [(route, [])]⟩ }

/-- Changes the virtual host at a place. -/
def Reading.modifyHost (r : Reading) (route : Bytes) (i : Nat) (f : VirtualHost → VirtualHost) :
    Reading :=
  { r with inv := ⟨r.inv.nodes.map fun (q, vs) => if q == route then (q, vs.modify i f) else (q, vs)⟩ }

/-- Reads one trimmed, non-blank line numbered `n`. -/
def readLine (n : Nat) (r : Reading) (line : Bytes) : Except InfoError Reading :=
  match line.splitOn 0x2C with
  | [] => .ok r
  | first :: fields =>
    match splitPair first with
    | none => .ok r
    | some (tag, group) =>
      let ids := fun (_ : Unit) => (parseIds group).elim (.error (.badIdGroup n group)) .ok
      if tag == Bytes.ofString "Node" then do
        let is ← ids ()
        match lookupField fields "Name", is with
        | some route, id :: _ =>
          let r := { r with routes := (id, route) :: r.routes }
          pure (r.touch route)
        | _, _ => pure r
      else if tag == Bytes.ofString "Vhost" then do
        let is ← ids ()
        match is with
        | node :: vh :: _ =>
          match r.routes.lookup node with
          | none => .error (.unknownNode n node)
          | some route =>
            let (r, place) :=
              match r.hosts.lookup (node, vh) with
              | some place => (r, place)
              | none =>
                let i := (r.inv.vhostsOf route).length
                let r := r.touch route
                let r := { r with inv := ⟨r.inv.nodes.map fun (q, vs) =>
                  if q == route then (q, vs ++ [({} : VirtualHost)]) else (q, vs)⟩ }
                ({ r with hosts := ((node, vh), (route, i)) :: r.hosts }, (route, i))
            match lookupField fields "Alias" with
            | some a => if a.isEmpty then pure r else pure (r.modifyHost place.1 place.2 (·.addAlias a))
            | none => pure r
        | _ => .error (.tooFewIds n .vhost group)
      else if tag == Bytes.ofString "Context" then do
        let is ← ids ()
        match is with
        | node :: vh :: _ =>
          match r.routes.lookup node with
          | none => .error (.unknownNode n node)
          | some _ =>
            match r.hosts.lookup (node, vh) with
            | none => .error (.unknownVirtualHost n node vh)
            | some (route, i) =>
              match lookupField fields "Context", lookupField fields "Status" with
              | some path, some raw =>
                match ContextStatus.parse? raw with
                | none => .error (.badStatus n raw)
                | some s => pure (r.modifyHost route i (·.setStatus path.normalizePath s))
              | _, _ => pure r
        | _ => .error (.tooFewIds n .context group)
      else .ok r

/-- Reads an `INFO` answer. -/
def parse (text : Bytes) : Except InfoError Inventory :=
  let lines : List (Bytes × Nat) := (text.splitOn 0x0A).zipIdx
  let step (r : Reading) (li : Bytes × Nat) : Except InfoError Reading :=
    let t := Bytes.trimBlank li.1
    if t.isEmpty then .ok r else readLine (li.2 + 1) r t
  (lines.foldlM step ({} : Reading)).map (·.inv)

end Inventory

end ClusterAgent
