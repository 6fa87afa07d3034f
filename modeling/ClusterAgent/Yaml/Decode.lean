import ClusterAgent.Yaml.Compose
import ClusterAgent.Text.Quoted

/-!
# Reading a document into values

A `Reader α` says how nodes are read into a value of type `α`: which scalars fit and what they
give, how a sequence is read, and, for a record type, which mapping keys set which fields.
`decode` walks the document with a reader, refining a current value, so that keys a document
leaves out keep the value they had.

The rules follow the usual reading of YAML into typed records:

* a null scalar resets a list or an optional value and leaves any other value alone;
* a value that does not fit is reported as `line N: cannot unmarshal !!tag `text` into T` and
  reading goes on, so that every such problem is reported; long texts are cut to seven bytes;
* a list is read entry by entry into fresh values, and entries that do not fit are left out;
* a mapping with a repeated key is reported and not read; keys that name no field are ignored;
* a merge key `<<` takes the pairs of another mapping (or of each mapping of a sequence, the
  earlier ones winning) for the fields the mapping does not set itself;
* an alias reads its anchored node; an alias met again inside its own expansion is refused, as
  is a document that expands aliases out of all proportion to its size.

Refusals that stop the reading at once are `Except` errors; the reported problems are collected
in the state. Reports are bytes, since they name tags, and text read into values is bytes, since
a `!!binary` scalar stands for any bytes.
-/

namespace ClusterAgent
namespace Yaml

/-- The state of a reading. -/
structure DecodeState where
  /-- The problems reported so far. -/
  errors : Array Bytes := #[]
  /-- How many nodes were read, and how many of them inside alias expansions. -/
  decodes : Nat := 0
  aliasDecodes : Nat := 0
  aliasDepth : Nat := 0
  /-- The alias nodes being expanded. -/
  expanding : List Nat := []
  /-- During a merge, the keys already set; `none` outside merges. -/
  merged : Option (List Bytes) := none

/-- A step of a reading: it may report problems or refuse the document. -/
abbrev Decode := StateT DecodeState (Except String)

/-- Reports a problem. -/
def report (msg : Bytes) : Decode Unit :=
  modify fun st => { st with errors := st.errors.push msg }

/-- Whether alias expansions make up too large a share of the nodes read: above 99% up to
400000 nodes, falling linearly to 10% at 4000000. -/
def excessiveAliasing (aliasDecodes decodes : Nat) : Bool :=
  let a : Int := aliasDecodes
  let d : Int := decodes
  if decodes ≤ 400000 then 100 * a > 99 * d
  else if decodes ≥ 4000000 then 10 * a > d
  else a * 360000000 > d * (356400000 - 89 * (d - 400000))

/-- Counts a node read. -/
def countDecode : Decode Unit := do
  modify fun st => { st with
    decodes := st.decodes + 1,
    aliasDecodes := if st.aliasDepth > 0 then st.aliasDecodes + 1 else st.aliasDecodes }
  let st ← get
  if st.aliasDecodes > 100 && st.decodes > 1000 && excessiveAliasing st.aliasDecodes st.decodes then
    throw "yaml: document contains excessive aliasing"

/-- Text cut to seven bytes when it is longer than ten; a character cut in two shows as
replacement characters. -/
def clipValue (s : String) : String :=
  let b := Bytes.ofString s
  if b.length ≤ 10 then s
  else String.join ((Bytes.pieces (b.take 7)).map fun
    | .char c => String.singleton c
    | .stray _ => "�") ++ "..."

/-- Reports a value that does not fit a type. -/
def mismatch (n : Node) (tag typeName : String) : Decode Unit :=
  let tag := if !n.tag.isEmpty then n.tag else Bytes.ofString tag
  let shown :=
    if tag != Bytes.ofString seqTag && tag != Bytes.ofString mapTag then
      " `" ++ clipValue n.value ++ "`"
    else ""
  report (Bytes.ofString ("line " ++ toString n.line ++ ": cannot unmarshal ") ++
    shortTagBytes tag ++ Bytes.ofString (shown ++ " into " ++ typeName))

/-- Whether a scalar is a string whatever its text: tagged `!!str`, or quoted or a block scalar
without a tag of its own. -/
def Node.indicatedString (n : Node) : Bool :=
  n.kind == .scalar &&
    (n.hasTag strTag || ((n.tag.isEmpty || n.hasTag "!") && n.style != .plain))

/-- Whether a key is the merge key `<<`. -/
def Node.isMerge (n : Node) : Bool :=
  n.kind == .scalar && n.value == "<<" && (n.tag.isEmpty || n.hasTag "!" || n.hasTag mergeTag)

/-- The tag and value of a scalar node. Binary scalars are decoded from base64. A tag that is not
UTF-8 is not one resolution knows, so its text may stand in for it. -/
def scalarValue (n : Node) : Decode (String × Scalar) :=
  if n.indicatedString then pure (strTag, .str n.value)
  else
    match resolve n.tag.toText n.value with
    | .error e => throw e
    | .ok (tag, v) =>
      if tag == binaryTag then
        match base64Decode n.value with
        | some bytes => pure (tag, .bytes bytes)
        | none => throw "yaml: !!binary value contains invalid base64 data"
      else pure (tag, v)

/-- The keys and values of a mapping's children, in order. -/
def pairsOf : List Nat → List (Nat × Nat)
  | k :: v :: rest => (k, v) :: pairsOf rest
  | _ => []

/-- Reports keys a mapping repeats (same kind and text); whether there were any. -/
def repeatedKeys (doc : Document) (n : Node) : Decode Bool := do
  let keys := (pairsOf n.content).map fun (k, _) => doc.get k
  let found := (List.range keys.length).flatMap fun i =>
    let ki := keys.getD i { kind := .scalar }
    ((keys.drop (i + 1)).filter fun kj => ki.kind == kj.kind && ki.value == kj.value).map fun kj =>
      Bytes.ofString ("line " ++ toString kj.line ++ ": mapping key " ++
        Text.quoteString kj.value ++ " already defined at line " ++ toString ki.line)
  found.forM report
  pure !found.isEmpty

/-- A field of a record type: its key and how the node under it refines the record. -/
structure Field (α : Type) where
  key : String
  read : Nat → Document → Nat → α → Decode α

/-- How nodes are read into values of a type. -/
structure Reader (α : Type) where
  /-- The type's name in reports. -/
  name : String
  /-- The value a null scalar sets, for types that have one. -/
  null : Option α := none
  /-- Makes the value ready for a node that is not null (allocates an optional record). -/
  prepare : α → α := id
  /-- The value a scalar gives from its node, tag and resolved value; `none` when it does not
  fit. -/
  scalar : Node → String → Scalar → Option α := fun _ _ _ => none
  /-- How a sequence refines the value, for list types. -/
  sequence : Option (Nat → Document → Node → α → Decode α) := none
  /-- The fields, for record types. -/
  fields : Option (List (Field α)) := none

/-- The text of a scalar a key or a text setting reads: the text as written, or the bytes a
binary scalar stands for. -/
def textOf (n : Node) (_ : String) (v : Scalar) : Option Bytes :=
  match v with
  | .bytes b => some b
  | _ => some (Bytes.ofString n.value)

/-- Reads text. -/
def textReader : Reader Bytes where
  name := "string"
  scalar := textOf

/-- The key texts of a mapping, as the merge of another mapping sees them: string keys (binary
ones decoded, timestamps as written); other keys name no field. -/
def keyTexts (doc : Document) (n : Node) : Decode (List Bytes) :=
  (pairsOf n.content).filterMapM fun (k, _) => do
    countDecode
    let kn := doc.get k
    let kn := match kn.kind, kn.target with
      | .alias, some t => doc.get t
      | _, _ => kn
    if kn.kind != .scalar then pure none
    else
      match ← scalarValue kn with
      | (_, .bytes b) => pure (some b)
      | (_, .str _) => pure (some (Bytes.ofString kn.value))
      | (tag, _) => pure (if tag == timestampTag then some (Bytes.ofString kn.value) else none)

/-- The refusal of a merge whose value is not a mapping or a sequence of mappings. -/
def wantMap : String := "yaml: map merge requires map or sequence of maps as the value"

/-- Reads node `i` into a value with reader `r`; the refined value and whether the node fit.
`fuel` bounds the depth of the walk. -/
def decode {α : Type} (r : Reader α) (doc : Document) : Nat → Nat → α → Decode (α × Bool)
  | 0, _, v => pure (v, false)
  | fuel + 1, i, v => do
    countDecode
    let n := doc.get i
    match n.kind with
    | .document =>
      match n.content with
      | [c] => do
        let (v, _) ← decode r doc fuel c v
        pure (v, true)
      | _ => pure (v, false)
    | .alias => do
      let st ← get
      if st.expanding.contains i then
        throw ("yaml: anchor '" ++ n.value ++ "' value contains itself")
      set { st with expanding := i :: st.expanding, aliasDepth := st.aliasDepth + 1 }
      let res ← match n.target with
        | some t => decode r doc fuel t v
        | none => pure (v, false)
      modify fun st => { st with expanding := st.expanding.erase i, aliasDepth := st.aliasDepth - 1 }
      pure res
    | .scalar => do
      let v := if !n.hasTag nullTag then r.prepare v else v
      let (tag, val) ← scalarValue n
      match val with
      | .null =>
        match r.null with
        | some z => pure (z, true)
        | none => pure (v, false)
      | _ =>
        match r.scalar n tag val with
        | some w => pure (w, true)
        | none => do
          mismatch n tag r.name
          pure (v, false)
    | .sequence => do
      let v := if !n.hasTag nullTag then r.prepare v else v
      match r.sequence with
      | some f => do
        let v ← f fuel doc n v
        pure (v, true)
      | none => do
        mismatch n seqTag r.name
        pure (v, false)
    | .mapping => do
      let v := if !n.hasTag nullTag then r.prepare v else v
      if ← repeatedKeys doc n then pure (v, false)
      else
        match r.fields with
        | none => do
          mismatch n mapTag r.name
          pure (v, false)
        | some fs => do
          let saved := (← get).merged
          modify fun st => { st with merged := none }
          let (v, merged, _, mergeNode) ← (pairsOf n.content).foldlM
            (fun (acc : α × Option (List Bytes) × List String × Option Nat) (k, val) => do
              let (v, merged, done, mergeNode) := acc
              let kn := doc.get k
              if kn.isMerge then pure (v, merged, done, some val)
              else
                let (name, ok) ← decode textReader doc fuel k []
                if !ok then pure acc
                else if merged.any (·.contains name) then pure acc
                else
                  let merged := merged.map (name :: ·)
                  match fs.find? (Bytes.ofString ·.key == name) with
                  | none => pure (v, merged, done, mergeNode)
                  | some f =>
                    if done.contains f.key then do
                      report (Bytes.ofString ("line " ++ toString kn.line ++ ": field " ++ f.key ++
                        " already set in type " ++ r.name))
                      pure (v, merged, done, mergeNode)
                    else do
                      let v ← f.read fuel doc val v
                      pure (v, merged, f.key :: done, mergeNode))
            (v, saved, [], none)
          modify fun st => { st with merged := merged }
          match mergeNode with
          | none => pure (v, true)
          | some m => do
            let outer := (← get).merged
            if outer.isNone then
              let keys ← keyTexts doc n
              modify fun st => { st with merged := some keys }
            let mn := doc.get m
            let targetKind := fun (x : Node) => match x.target with
              | some t => (doc.get t).kind
              | none => .mapping
            let v ← match mn.kind with
              | .mapping => do pure (← decode r doc fuel m v).1
              | .alias =>
                if targetKind mn != .mapping then throw wantMap
                else do pure (← decode r doc fuel m v).1
              | .sequence =>
                mn.content.foldlM (fun v c => do
                  let cn := doc.get c
                  let fits := match cn.kind with
                    | .alias => targetKind cn == .mapping
                    | .mapping => true
                    | _ => false
                  if !fits then throw wantMap
                  else pure (← decode r doc fuel c v).1) v
              | _ => throw wantMap
            modify fun st => { st with merged := if outer.isSome then st.merged else none }
            pure (v, true)

/-- A field whose key refines one component of a record. -/
def Field.of {α β : Type} (key : String) (r : Reader β) (get : α → β) (put : α → β → α) :
    Field α :=
  ⟨key, fun fuel doc i v => do
    let (b, _) ← decode r doc fuel i (get v)
    pure (put v b)⟩

/-- Reads lists: each entry into a fresh `zero`, leaving out entries that do not fit; null is the
empty list. -/
def Reader.list {β : Type} (r : Reader β) (zero : β) : Reader (List β) where
  name := "[]" ++ r.name
  null := some []
  sequence := some fun fuel doc n _ =>
    n.content.foldlM (fun acc c => do
      let (b, ok) ← decode r doc fuel c zero
      pure (if ok then acc ++ [b] else acc)) []

/-- Reads optional values: null is `none`, anything else is read into the present value or a
fresh `zero`. -/
def Reader.optional {β : Type} (r : Reader β) (zero : β) : Reader (Option β) where
  name := r.name
  null := some none
  prepare := fun v => some (v.getD zero)
  scalar := fun n tag val => (r.scalar n tag val).map some
  sequence := r.sequence.map fun f fuel doc n v => do
    let b ← f fuel doc n (v.getD zero)
    pure (some b)
  fields := r.fields.map fun fs => fs.map fun f =>
    ⟨f.key, fun fuel doc i v => do
      let b ← f.read fuel doc i (v.getD zero)
      pure (some b)⟩

/-- Reads 64-bit integers: integers, and floats up to 2^63 cut towards zero. -/
def intReader : Reader Int where
  name := "int"
  scalar := fun _ _ v => match v with
    | .int n => some n
    | .float f => f.toInt64?
    | _ => none

/-- The boolean the words `y`, `yes`, `on` and `n`, `no`, `off` stand for, in lower,
capitalised or upper case. -/
def boolWord (s : String) : Option Bool :=
  if ["y", "Y", "yes", "Yes", "YES", "on", "On", "ON"].contains s then some true
  else if ["n", "N", "no", "No", "NO", "off", "Off", "OFF"].contains s then some false
  else none

/-- Reads booleans: `true` and `false` in their spellings, and the words of `boolWord`, also
as the bytes of a binary scalar. -/
def boolReader : Reader Bool where
  name := "bool"
  scalar := fun _ _ v => match v with
    | .bool b => some b
    | .str s => boolWord s
    | .bytes b => boolWord b.toText
    | _ => none

/-- A text read as YAML into a value of type `α`, starting from `init`. Errors are the texts the
reading is refused with: a syntax error, a refusal during the walk, or the reported problems. -/
def decodeText {α : Type} (r : Reader α) (text : Bytes) (init : α) : Except Bytes α :=
  match composeFirst (readText text) with
  | .error e => .error (Bytes.ofString e.message)
  | .ok none => .ok init
  | .ok (some doc) =>
    let fuel := (doc.nodes.size + 1) * (doc.nodes.size + 1) + 2
    match (decode r doc fuel 0 init).run {} with
    | .error e => .error (Bytes.ofString e)
    | .ok ((v, _), st) =>
      if st.errors.isEmpty then .ok v
      else
        .error (Bytes.ofString "yaml: unmarshal errors:\n  " ++
          (st.errors.toList.intersperse (Bytes.ofString "\n  ")).flatten)

end Yaml
end ClusterAgent
