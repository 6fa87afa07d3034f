import ClusterAgent.Topology.Basic

/-!
# Excluded contexts

Some contexts are never announced to a proxy. They are configured as entries `host:path`, or
`path` for every host (stored under the host `*`). An entry is trimmed, and a blank entry is
skipped; the host and path are split at the first `:` and trimmed, and an empty host is an
error. A path is put in canonical form: normalised, `ROOT` read as `/`, and a leading `/`
added when missing.

Entries are read and kept as bytes, so a host or path that is not text is kept as given.

A query `excludes h p` normalises `p` (trim, empty to `/`) but applies no other part of the
canonical form, and matches it against the paths of host `*` and of host `h`.
-/

namespace ClusterAgent

/-- Excluded paths by host, hosts and paths in first-seen order without repeats. -/
structure Exclusions where
  entries : List (Bytes × List Bytes)
  deriving DecidableEq, Repr

/-- Why an exclusion entry was refused. -/
inductive ExclusionError where
  | emptyHost (entry : Bytes)
  deriving DecidableEq, Repr

/-- The message of an exclusion error. -/
def ExclusionError.message : ExclusionError → String
  | .emptyHost e => "excluded context " ++ Text.quote e ++ ": empty host"

namespace Exclusions

/-- The host under which entries without a host are stored. -/
def anyHost : Bytes := [0x2A]

/-- The canonical form of an excluded path. -/
def canonicalPath (p : Bytes) : Bytes :=
  let p := Bytes.normalizePath p
  let p := if p = Bytes.ofString "ROOT" then [0x2F] else p
  if p.head? == some 0x2F then p else 0x2F :: p

/-- Reads one entry into its host and canonical path; `none` for a blank entry. -/
def readEntry (raw : Bytes) : Except ExclusionError (Option (Bytes × Bytes)) :=
  let entry := raw.trimBlank
  if entry.isEmpty then .ok none
  else
    match entry.findIdx? (· == 0x3A) with
    | none => .ok (some (anyHost, canonicalPath entry))
    | some i =>
      let host : Bytes := Bytes.trimBlank (entry.take i)
      let path : Bytes := Bytes.trimBlank (entry.drop (i + 1))
      if host.isEmpty then .error (.emptyHost entry)
      else .ok (some (host, canonicalPath path))

/-- Adds a path under a host. -/
def insert (ex : Exclusions) (host path : Bytes) : Exclusions :=
  if ex.entries.any (·.1 == host) then
    ⟨ex.entries.map fun (h, ps) => if h == host && !ps.contains path then (h, ps ++ [path]) else (h, ps)⟩
  else ⟨ex.entries ++ [(host, [path])]⟩

/-- Reads exclusion entries given as bytes. -/
def ofEntries (raw : List Bytes) : Except ExclusionError Exclusions :=
  raw.foldlM (fun ex r => do
    match ← readEntry r with
    | some (h, p) => pure (ex.insert h p)
    | none => pure ex) ⟨[]⟩

/-- Reads exclusion entries. -/
def parse (raw : List String) : Except ExclusionError Exclusions :=
  ofEntries (raw.map Bytes.ofString)

/-- The paths excluded under a host key. -/
def pathsOf (ex : Exclusions) (host : Bytes) : List Bytes :=
  (ex.entries.lookup host).getD []

/-- Whether the context at path `path`, given as bytes, of host `host` is excluded. -/
def excludesBytes (ex : Exclusions) (host path : Bytes) : Bool :=
  let p := Bytes.normalizePath path
  (ex.pathsOf anyHost).contains p || (ex.pathsOf host).contains p

/-- Whether the context at `path` of host `host` is excluded. -/
def excludes (ex : Exclusions) (host path : String) : Bool :=
  ex.excludesBytes (Bytes.ofString host) (Bytes.ofString path)

/-- Sorts byte strings in byte order. -/
def sortBytes (l : List Bytes) : List Bytes := l.mergeSort Bytes.lexLe

/-- The hosts with their excluded paths, both sorted in byte order. -/
def sorted (ex : Exclusions) : List (Bytes × List Bytes) :=
  (ex.entries.mergeSort fun a b => Bytes.lexLe a.1 b.1).map fun (h, ps) => (h, sortBytes ps)

end Exclusions

end ClusterAgent
