import ClusterAgent.Topology.Basic

/-!
# Moving a topology to new specs

`Topology.sync` moves a running topology to a new list of specs and reports, per context, what
changed. The engines cannot change: the specs must name exactly the current routes (any order);
otherwise the answer is `SyncError.engineSetChanged`. Engines are handled one after the other,
so when a later engine's route is missing, the earlier ones have already moved.

Within an engine, a host is kept when a spec of that name (the last one, if several) gives it
the same alias set; every other host is dropped and each of its contexts reported removed. Then
each host spec in turn is applied to the kept host of its name, or to a new host. Within a
host, contexts whose path no spec lists are removed; then each context spec in turn adds its
path or sets its flag, reporting added, started or stopped.

A change reports a context's state at the end of the sync: when one context is touched twice
(a path listed twice, or a host listed twice), its earlier changes show the final flag too.
-/

namespace ClusterAgent

/-- What happened to a context. -/
inductive ChangeKind where
  | added
  | started
  | stopped
  | removed
  deriving DecidableEq, Repr

namespace ChangeKind

/-- The name of a change kind. -/
def name : ChangeKind → String
  | added => "added"
  | started => "started"
  | stopped => "stopped"
  | removed => "removed"

/-- The change kind of a numeric code (0 to 3, in the order above). -/
def ofCode? : Int → Option ChangeKind
  | 0 => some added
  | 1 => some started
  | 2 => some stopped
  | 3 => some removed
  | _ => none

end ChangeKind

/-- One context change: its kind, the host name, the path and the context's started flag. -/
structure Change where
  kind : ChangeKind
  host : String
  path : String
  started : Bool
  deriving DecidableEq, Repr

/-- Why a sync was refused. -/
inductive SyncError where
  | engineSetChanged
  deriving DecidableEq, Repr

/-- The message of a sync error. -/
def SyncError.message : SyncError → String
  | .engineSetChanged => "engine set changed: restart required"

namespace Sync

/-- A change being collected, with the place of its context: the engine and, for a context of
a host that stays, the host's position after the sync. -/
structure Entry where
  change : Change
  engine : Nat
  slot : Option Nat
  deriving DecidableEq, Repr

/-- Whether an entry is about the context at `path` of host `slot` of engine `engine`. -/
def Entry.isAt (x : Entry) (engine slot : Nat) (path : String) : Bool :=
  x.engine == engine && x.slot == some slot && x.change.path == path

/-- Sets the flag on the entries (newest first) of the context now at a place, back to the
one that created it; an entry reporting the removal of an earlier context there stops it. -/
def refresh (engine slot : Nat) (path : String) (v : Bool) : List Entry → List Entry
  | [] => []
  | x :: xs =>
    if x.isAt engine slot path then
      match x.change.kind with
      | .removed => x :: xs
      | .added => { x with change := { x.change with started := v } } :: xs
      | _ => { x with change := { x.change with started := v } } :: refresh engine slot path v xs
    else x :: refresh engine slot path v xs

/-- Applies one context spec to a host; entries are newest first. -/
def applyContext (engine slot : Nat) (hostName : String) (acc : List Context × List Entry)
    (cs : ContextSpec) : List Context × List Entry :=
  let (ctxs, log) := acc
  let p := normalizePath cs.path
  let entry (k : ChangeKind) : Entry := ⟨⟨k, hostName, p, cs.started⟩, engine, some slot⟩
  match ctxs.find? (·.path == p) with
  | none => (ctxs ++ [⟨p, cs.started⟩], entry .added :: log)
  | some c =>
    let set := ctxs.map fun x => if x.path == p then { x with started := cs.started } else x
    if cs.started && !c.started then
      (set, entry .started :: refresh engine slot p true log)
    else if !cs.started && c.started then
      (set, entry .stopped :: refresh engine slot p false log)
    else (ctxs, log)

/-- Moves the contexts of host `slot` to the specs. -/
def syncContexts (engine slot : Nat) (h : Host) (specs : List ContextSpec) (log : List Entry) :
    Host × List Entry :=
  let wanted := specs.map fun cs => normalizePath cs.path
  let gone := h.contexts.filter fun c => !wanted.contains c.path
  let log := gone.foldl (fun l c => ⟨⟨.removed, h.name, c.path, c.started⟩, engine, some slot⟩ :: l) log
  let kept := h.contexts.filter fun c => wanted.contains c.path
  let (ctxs, log) := specs.foldl (applyContext engine slot h.name) (kept, log)
  ({ h with contexts := ctxs }, log)

/-- Applies one host spec: to the kept host of its name, or to a new host. -/
def applyHost (engine : Nat) (current : List (String × Nat)) (acc : List Host × List Entry)
    (hs : HostSpec) : List Host × List Entry :=
  let (hosts, log) := acc
  let (hosts, slot) :=
    match current.lookup hs.name with
    | some j => (hosts, j)
    | none => (hosts ++ [Host.empty hs.name hs.aliases], hosts.length)
  match hosts[slot]? with
  | none => (hosts, log)
  | some h =>
    let (h', log) := syncContexts engine slot h hs.contexts log
    (hosts.set slot h', log)

/-- Whether a host stays: a spec of its name (the last one) gives it the same alias set. -/
def keeps (specs : List HostSpec) (h : Host) : Bool :=
  match specs.reverse.find? (·.name == h.name) with
  | some hs => aliasSet hs.name hs.aliases == h.aliases
  | none => false

/-- Moves the hosts of engine `engine` to the specs. -/
def syncHosts (engine : Nat) (e : Engine) (specs : List HostSpec) (log : List Entry) :
    Engine × List Entry :=
  let dropped := e.hosts.filter fun h => !keeps specs h
  let log := dropped.foldl (fun l h =>
    h.contexts.foldl (fun l c => ⟨⟨.removed, h.name, c.path, c.started⟩, engine, none⟩ :: l) l) log
  let kept := e.hosts.filter (keeps specs)
  let current := (kept.zipIdx.map fun (h, j) => (h.name, j)).reverse
  let (hosts, log) := specs.foldl (applyHost engine current) (kept, log)
  ({ e with hosts := hosts }, log)

/-- Moves engines in order, each to the spec of its route (the last one, if several). -/
def syncEngines (specs : List EngineSpec) :
    Nat → List Engine → List Entry → List Engine × Except SyncError (List Entry)
  | _, [], log => ([], .ok log)
  | i, e :: rest, log =>
    match specs.reverse.find? (·.route == e.route) with
    | none => (e :: rest, .error .engineSetChanged)
    | some es =>
      let (e', log) := syncHosts i e es.hosts log
      let (rest', r) := syncEngines specs (i + 1) rest log
      (e' :: rest', r)

end Sync

namespace Topology

/-- Moves the topology to the specs. Returns the topology reached, which a refused sync may
have changed in its earlier engines, and the changes in order. -/
def sync (t : Topology) (specs : List EngineSpec) : Topology × Except SyncError (List Change) :=
  if specs.length != t.engines.length then (t, .error .engineSetChanged)
  else
    let (engines, r) := Sync.syncEngines specs 0 t.engines []
    (⟨engines⟩, r.map fun log => (log.map (·.change)).reverse)

end Topology

end ClusterAgent
