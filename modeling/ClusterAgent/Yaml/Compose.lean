import ClusterAgent.Yaml.Resolve

/-!
# Composing the document tree

The composer turns the events of the first document of a text into a tree of nodes. Nodes live
in an array and refer to each other by index, so that an alias can point at the node its anchor
named, even at a collection that is still being read (which makes the tree cyclic; reading such
a tree into values refuses it).

Every node records the line it starts on, counted from one, and a tag: an explicit tag in short
form (`!!str` for the standard `tag:yaml.org,2002:str`), or else the standard tag of its kind;
for a plain scalar that is the tag its text resolves to, for a quoted or block scalar `!!str`.
Tags are bytes, since an escape in a tag may stand for a byte that is not UTF-8 on its own.
A plain `<<` is a merge key.

Only the first document is read: whatever follows its end is never looked at, beyond the few
tokens the scanner reads ahead. An empty stream has no document at all.
-/

namespace ClusterAgent
namespace Yaml

/-- The kinds of nodes. -/
inductive NodeKind where
  | document
  | sequence
  | mapping
  | scalar
  | alias
  deriving DecidableEq, Repr

/-- A node of the tree. `content` holds the children: the root of a document, the entries of a
sequence, or the keys and values of a mapping in turn. An alias names its anchor in `value`
and points at the anchored node with `target`. -/
structure Node where
  kind : NodeKind
  tag : Bytes := []
  value : String := ""
  style : ScalarStyle := .plain
  line : Nat := 0
  content : List Nat := []
  target : Option Nat := none
  deriving DecidableEq, Repr

/-- Whether a node's tag is the given one. -/
def Node.hasTag (n : Node) (t : String) : Bool := n.tag == Bytes.ofString t

/-- The nodes of a document; the document node itself comes first. -/
structure Document where
  nodes : Array Node := #[]
  deriving Repr

/-- A node by index; an empty null scalar outside the array. -/
def Document.get (d : Document) (i : Nat) : Node :=
  d.nodes.getD i { kind := .scalar, tag := Bytes.ofString nullTag }

/-- The composer's state: the parser, an event that was looked at but not consumed, the nodes so
far and the anchors, the latest definition of a name first. -/
structure Composer where
  parser : Parser
  pending : Option Event := none
  nodes : Array Node := #[]
  anchors : List (String × Nat) := []

namespace Composer

/-- The next event, without consuming it. -/
def peek (c : Composer) : Except YamlError (Composer × Event) :=
  match c.pending with
  | some e => .ok (c, e)
  | none =>
    match c.parser.next with
    | .ok (p, e) => .ok ({ c with parser := p, pending := some e }, e)
    | .error err => .error err

/-- Consumes the event looked at. -/
def consume (c : Composer) : Composer := { c with pending := none }

/-- Adds a node; gives its index. -/
def add (c : Composer) (n : Node) : Composer × Nat := ({ c with nodes := c.nodes.push n }, c.nodes.size)

/-- Sets the children of a node. -/
def setContent (c : Composer) (i : Nat) (kids : List Nat) : Composer :=
  { c with nodes := c.nodes.modify i fun n => { n with content := kids } }

/-- Records an anchor for a node. -/
def register (c : Composer) (anchor : Option String) (i : Nat) : Composer :=
  match anchor with
  | some a => { c with anchors := (a, i) :: c.anchors }
  | none => c

/-- The tag a node gets: an explicit tag other than `!`, else the default of its kind, else for
a scalar the tag its text resolves to. -/
def nodeTag (kind : NodeKind) (defaultTag : String) (tag : Bytes) (value : String) : Bytes :=
  if !tag.isEmpty && tag != Bytes.ofString "!" then shortTagBytes tag
  else if defaultTag != "" then Bytes.ofString defaultTag
  else if kind == .scalar then Bytes.ofString (resolvedTag value)
  else []

mutual

/-- Reads the node that starts at the next event. -/
def node (c : Composer) : Nat → Except YamlError (Composer × Nat)
  | 0 => .error (.failed "yaml: document is too deeply nested")
  | fuel + 1 => do
    let (c, e) ← c.peek
    let line := e.start.line + 1
    match e.kind with
    | .scalar anchor tag value style =>
      let defaultTag := if style == .plain then (if value == "<<" then mergeTag else "") else strTag
      let (c, i) := c.consume.add
        { kind := .scalar, tag := nodeTag .scalar defaultTag tag value, value, style, line }
      pure (c.register anchor i, i)
    | .alias name =>
      match c.anchors.lookup name with
      | none => .error (.failed ("yaml: unknown anchor '" ++ name ++ "' referenced"))
      | some t => pure (c.consume.add { kind := .alias, value := name, line, target := some t })
    | .sequenceStart anchor tag _ =>
      let (c, i) := c.consume.add { kind := .sequence, tag := nodeTag .sequence seqTag tag "", line }
      let (c, kids) ← children (c.register anchor i) fuel
      pure (c.setContent i kids, i)
    | .mappingStart anchor tag _ =>
      let (c, i) := c.consume.add { kind := .mapping, tag := nodeTag .mapping mapTag tag "", line }
      let (c, kids) ← children (c.register anchor i) fuel
      pure (c.setContent i kids, i)
    | .documentStart =>
      let (c, i) := c.consume.add { kind := .document, line }
      let (c, root) ← node c fuel
      let (c, e) ← c.peek
      if e.kind != .documentEnd then .error (.failed "yaml: expected the end of the document")
      else pure (c.consume.setContent i [root], i)
    | _ => .error (.failed "yaml: unexpected event")

/-- Reads the children of a collection up to its end event, which it consumes. -/
def children (c : Composer) : Nat → Except YamlError (Composer × List Nat)
  | 0 => .error (.failed "yaml: document is too deeply nested")
  | fuel + 1 => do
    let (c, e) ← c.peek
    match e.kind with
    | .sequenceEnd | .mappingEnd => pure (c.consume, [])
    | _ =>
      let (c, i) ← node c fuel
      let (c, rest) ← children c fuel
      pure (c, i :: rest)

end

end Composer

/-- The first document of a text, or `none` for a text without documents. -/
def composeFirst (src : Source) : Except YamlError (Option Document) := do
  let c : Composer := { parser := Parser.ofText src }
  let (c, e) ← c.peek
  if e.kind != .streamStart then .error (.failed "yaml: expected the start of the stream")
  else
    let c := c.consume
    let (c, e) ← c.peek
    match e.kind with
    | .streamEnd => pure none
    | _ =>
      let (c, _) ← c.node (8 * src.chars.size + 64)
      pure (some { nodes := c.nodes })

end Yaml
end ClusterAgent
