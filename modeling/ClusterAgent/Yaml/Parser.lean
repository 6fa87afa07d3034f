import ClusterAgent.Yaml.Scanner

/-!
# The YAML event parser

The parser reads tokens and produces events: the start and end of the stream, of each document,
of each sequence and mapping, and scalars and aliases. It is a pushdown automaton: `state` says
what the next event may be, and `states` holds where to continue once the current node is done.
`marks` keeps where each open collection started, for error messages.

Node properties come first: an anchor and a tag in either order. A tag is written with a handle
that a `%TAG` directive of the document (or the two standard ones, `!` and `!!`) expands to a
prefix. A node with properties and no content is an empty plain scalar, and so is a missing key
or value.

In block context a sequence may sit at the same indentation as the mapping key that owns it;
that *indentless* sequence has no start and end tokens of its own and ends at the first token
that is not an entry.

Only `%YAML 1.1` is accepted as a version directive.
-/

namespace ClusterAgent
namespace Yaml

/-- The kinds of events. Tags are given in full, after expanding the handle, as bytes. -/
inductive EventKind where
  | streamStart
  | streamEnd
  | documentStart
  | documentEnd
  | alias (name : String)
  | scalar (anchor : Option String) (tag : Bytes) (value : String) (style : ScalarStyle)
  | sequenceStart (anchor : Option String) (tag : Bytes) (flow : Bool)
  | sequenceEnd
  | mappingStart (anchor : Option String) (tag : Bytes) (flow : Bool)
  | mappingEnd
  deriving DecidableEq, Repr

/-- An event and where it starts. -/
structure Event where
  kind : EventKind
  start : Mark
  deriving DecidableEq, Repr

/-- What the parser expects next. -/
inductive ParseState where
  | streamStart
  | implicitDocumentStart
  | documentStart
  | documentContent
  | documentEnd
  | blockNode
  | blockSequenceFirstEntry
  | blockSequenceEntry
  | indentlessSequenceEntry
  | blockMappingFirstKey
  | blockMappingKey
  | blockMappingValue
  | flowSequenceFirstEntry
  | flowSequenceEntry
  | flowSequenceEntryMappingKey
  | flowSequenceEntryMappingValue
  | flowSequenceEntryMappingEnd
  | flowMappingFirstKey
  | flowMappingKey
  | flowMappingValue
  | flowMappingEmptyValue
  | finished
  deriving DecidableEq, Repr

/-- The parser's state. -/
structure Parser where
  scanner : Scanner
  state : ParseState := .streamStart
  states : List ParseState := []
  marks : List Mark := []
  /-- The tag handles of the current document and their prefixes, in order of declaration. -/
  tagDirectives : List (String × Bytes) := []

/-- The prefix of the standard secondary tag handle `!!`. -/
def coreTagPrefix : String := "tag:yaml.org,2002:"

/-- An empty plain scalar. -/
def emptyScalar (m : Mark) : Event := ⟨.scalar none [] "" .plain, m⟩

/-- A parser over a text. -/
def Parser.ofText (src : Source) : Parser :=
  { scanner := { text := src.chars, failure := src.failure } }

namespace Parser

/-- The next token. -/
def peek (p : Parser) : Scan (Parser × Token) := do
  let (s, t) ← p.scanner.peekToken
  pure ({ p with scanner := s }, t)

/-- Consumes the next token. -/
def skip (p : Parser) : Parser := { p with scanner := p.scanner.skipToken }

/-- Returns to the state saved when the current node began. -/
def pop (p : Parser) : Parser :=
  match p.states with
  | s :: rest => { p with state := s, states := rest }
  | [] => { p with state := .finished }

/-- Forgets where the innermost collection started. -/
def popMark (p : Parser) : Parser := { p with marks := p.marks.drop 1 }

/-- Where the innermost collection started. -/
def topMark (p : Parser) : Mark := p.marks.headD {}

/-- A parser error with a context mark (the zero mark for none). -/
def fail {α : Type} (contextMark : Mark) (problem : String) (problemMark : Mark) :
    Scan α :=
  .error (.parser contextMark problem problemMark)

/-- Reads the directives before a document and adds the standard tag handles. -/
def processDirectives (p : Parser) : Scan Parser :=
  go p false (p.scanner.fuel + 1)
where
  go (p : Parser) (seenVersion : Bool) : Nat → Scan Parser
    | 0 => .ok p
    | n + 1 => do
      let (p, t) ← p.peek
      match t.kind with
      | .versionDirective major minor =>
        if seenVersion then fail {} "found duplicate %YAML directive" t.start
        else if major != 1 || minor != 1 then fail {} "found incompatible YAML document" t.start
        else go p.skip true n
      | .tagDirective handle pfx =>
        if p.tagDirectives.any (·.1 == handle) then
          fail {} "found duplicate %TAG directive" t.start
        else go { p.skip with tagDirectives := p.tagDirectives ++ [(handle, pfx)] } seenVersion n
      | _ =>
        let standard := [("!", Bytes.ofString "!"), ("!!", Bytes.ofString coreTagPrefix)]
        pure { p with tagDirectives := standard.foldl (fun ds d =>
          if ds.any (·.1 == d.1) then ds else ds ++ [d]) p.tagDirectives }

/-- Skips `...` markers between documents. -/
def skipDocumentEnds (p : Parser) : Nat → Scan (Parser × Token)
  | 0 => p.peek
  | n + 1 => do
    let (p, t) ← p.peek
    if t.kind == .documentEnd then skipDocumentEnds p.skip n else pure (p, t)

/-- The start of a document (or the end of the stream). A document without `---` may only be
the first one. -/
def documentStart (p : Parser) (implicit : Bool) : Scan (Parser × Event) := do
  let (p, t) ← if implicit then p.peek else p.skipDocumentEnds (p.scanner.fuel + 1)
  let startsExplicitly := match t.kind with
    | .versionDirective .. | .tagDirective .. | .documentStart | .streamEnd => true
    | _ => false
  if implicit && !startsExplicitly then
    let p ← p.processDirectives
    pure ({ p with states := .documentEnd :: p.states, state := .blockNode },
      ⟨.documentStart, t.start⟩)
  else if t.kind != .streamEnd then
    let start := t.start
    let p ← p.processDirectives
    let (p, t) ← p.peek
    if t.kind != .documentStart then fail {} "did not find expected <document start>" t.start
    else pure ({ p.skip with states := .documentEnd :: p.states, state := .documentContent },
      ⟨.documentStart, start⟩)
  else pure ({ p.skip with state := .finished }, ⟨.streamEnd, t.start⟩)

/-- The tag a handle and suffix stand for. -/
def expandTag (p : Parser) (handle : String) (suffix : Bytes) (start tagMark : Mark) :
    Scan Bytes :=
  if handle.isEmpty then .ok suffix
  else
    match p.tagDirectives.lookup handle with
    | some pfx => .ok (pfx ++ suffix)
    | none => fail start "found undefined tag handle" tagMark

/-- A node: an alias, or properties followed by a scalar, a collection or nothing. `block` allows
block collections; `indentless` allows a sequence whose entries start at the current
indentation. -/
def parseNode (p : Parser) (block indentless : Bool) : Scan (Parser × Event) := do
  let (p, t) ← p.peek
  match t.kind with
  | .alias name => pure (p.pop.skip, ⟨.alias name, t.start⟩)
  | _ =>
    let start := t.start
    let (p, anchor, tagToken, tagMark) ←
      match t.kind with
      | .anchor a => do
        let (p, t2) ← p.skip.peek
        match t2.kind with
        | .tag h s => pure (p.skip, some a, some (h, s), t2.start)
        | _ => pure (p, some a, none, ({} : Mark))
      | .tag h s => do
        let (p, t2) ← p.skip.peek
        match t2.kind with
        | .anchor a => pure (p.skip, some a, some (h, s), t.start)
        | _ => pure (p, none, some (h, s), t.start)
      | _ => pure (p, none, none, ({} : Mark))
    let (p, next) ← p.peek
    let tag ← match tagToken with
      | none => pure []
      | some (h, s) => p.expandTag h s start tagMark
    if indentless && next.kind == .blockEntry then
      pure ({ p with state := .indentlessSequenceEntry }, ⟨.sequenceStart anchor tag false, start⟩)
    else
      match next.kind with
      | .scalar v style => pure (p.pop.skip, ⟨.scalar anchor tag v style, start⟩)
      | .flowSequenceStart =>
        pure ({ p with state := .flowSequenceFirstEntry }, ⟨.sequenceStart anchor tag true, start⟩)
      | .flowMappingStart =>
        pure ({ p with state := .flowMappingFirstKey }, ⟨.mappingStart anchor tag true, start⟩)
      | .blockSequenceStart =>
        if block then
          pure ({ p with state := .blockSequenceFirstEntry }, ⟨.sequenceStart anchor tag false, start⟩)
        else if anchor.isSome || !tag.isEmpty then
          pure (p.pop, ⟨.scalar anchor tag "" .plain, start⟩)
        else fail start "did not find expected node content" next.start
      | .blockMappingStart =>
        if block then
          pure ({ p with state := .blockMappingFirstKey }, ⟨.mappingStart anchor tag false, start⟩)
        else if anchor.isSome || !tag.isEmpty then
          pure (p.pop, ⟨.scalar anchor tag "" .plain, start⟩)
        else fail start "did not find expected node content" next.start
      | _ =>
        if anchor.isSome || !tag.isEmpty then pure (p.pop, ⟨.scalar anchor tag "" .plain, start⟩)
        else fail start "did not find expected node content" next.start

/-- Opens a collection: remembers where it starts and consumes its start token. -/
def openCollection (p : Parser) : Scan Parser := do
  let (p, t) ← p.peek
  pure { p.skip with marks := t.start :: p.marks }

/-- An entry of a block sequence, or its end. -/
def blockSequenceEntry (p : Parser) (first : Bool) : Scan (Parser × Event) := do
  let p ← if first then p.openCollection else pure p
  let (p, t) ← p.peek
  match t.kind with
  | .blockEntry => do
    let (p, t2) ← p.skip.peek
    if t2.kind != .blockEntry && t2.kind != .blockEnd then
      parseNode { p with states := .blockSequenceEntry :: p.states } true false
    else pure ({ p with state := .blockSequenceEntry }, emptyScalar t.stop)
  | .blockEnd => pure (p.pop.popMark.skip, ⟨.sequenceEnd, t.start⟩)
  | _ => fail p.topMark "did not find expected '-' indicator" t.start

/-- An entry of an indentless sequence, or its end. -/
def indentlessSequenceEntry (p : Parser) : Scan (Parser × Event) := do
  let (p, t) ← p.peek
  match t.kind with
  | .blockEntry => do
    let (p, t2) ← p.skip.peek
    match t2.kind with
    | .blockEntry | .key | .value | .blockEnd =>
      pure ({ p with state := .indentlessSequenceEntry }, emptyScalar t.stop)
    | _ => parseNode { p with states := .indentlessSequenceEntry :: p.states } true false
  | _ => pure (p.pop, ⟨.sequenceEnd, t.start⟩)

/-- A key of a block mapping, or its end. -/
def blockMappingKey (p : Parser) (first : Bool) : Scan (Parser × Event) := do
  let p ← if first then p.openCollection else pure p
  let (p, t) ← p.peek
  match t.kind with
  | .key => do
    let (p, t2) ← p.skip.peek
    match t2.kind with
    | .key | .value | .blockEnd => pure ({ p with state := .blockMappingValue }, emptyScalar t.stop)
    | _ => parseNode { p with states := .blockMappingValue :: p.states } true true
  | .blockEnd => pure (p.pop.popMark.skip, ⟨.mappingEnd, t.start⟩)
  | _ => fail p.topMark "did not find expected key" t.start

/-- A value of a block mapping. -/
def blockMappingValue (p : Parser) : Scan (Parser × Event) := do
  let (p, t) ← p.peek
  match t.kind with
  | .value => do
    let (p, t2) ← p.skip.peek
    match t2.kind with
    | .key | .value | .blockEnd => pure ({ p with state := .blockMappingKey }, emptyScalar t.stop)
    | _ => parseNode { p with states := .blockMappingKey :: p.states } true true
  | _ => pure ({ p with state := .blockMappingKey }, emptyScalar t.start)

/-- An entry of a flow sequence, or its end. An entry in `key: value` form is a mapping of one
pair. -/
def flowSequenceEntry (p : Parser) (first : Bool) : Scan (Parser × Event) := do
  let p ← if first then p.openCollection else pure p
  let (p, t) ← p.peek
  let (p, t) ←
    if t.kind != .flowSequenceEnd && !first then
      if t.kind == .flowEntry then p.skip.peek
      else fail p.topMark "did not find expected ',' or ']'" t.start
    else pure (p, t)
  match t.kind with
  | .flowSequenceEnd => pure (p.pop.popMark.skip, ⟨.sequenceEnd, t.start⟩)
  | .key => pure ({ p.skip with state := .flowSequenceEntryMappingKey },
      ⟨.mappingStart none [] true, t.start⟩)
  | _ => parseNode { p with states := .flowSequenceEntry :: p.states } false false

/-- The key of a one-pair mapping inside a flow sequence. -/
def flowSequenceEntryMappingKey (p : Parser) : Scan (Parser × Event) := do
  let (p, t) ← p.peek
  match t.kind with
  | .value | .flowEntry | .flowSequenceEnd =>
    pure ({ p.skip with state := .flowSequenceEntryMappingValue }, emptyScalar t.stop)
  | _ => parseNode { p with states := .flowSequenceEntryMappingValue :: p.states } false false

/-- The value of a one-pair mapping inside a flow sequence. -/
def flowSequenceEntryMappingValue (p : Parser) : Scan (Parser × Event) := do
  let (p, t) ← p.peek
  match t.kind with
  | .value => do
    let (p, t2) ← p.skip.peek
    match t2.kind with
    | .flowEntry | .flowSequenceEnd =>
      pure ({ p with state := .flowSequenceEntryMappingEnd }, emptyScalar t.start)
    | _ => parseNode { p with states := .flowSequenceEntryMappingEnd :: p.states } false false
  | _ => pure ({ p with state := .flowSequenceEntryMappingEnd }, emptyScalar t.start)

/-- The end of a one-pair mapping inside a flow sequence. -/
def flowSequenceEntryMappingEnd (p : Parser) : Scan (Parser × Event) := do
  let (p, t) ← p.peek
  pure ({ p with state := .flowSequenceEntry }, ⟨.mappingEnd, t.start⟩)

/-- A key of a flow mapping, or its end. -/
def flowMappingKey (p : Parser) (first : Bool) : Scan (Parser × Event) := do
  let p ← if first then p.openCollection else pure p
  let (p, t) ← p.peek
  let (p, t) ←
    if t.kind != .flowMappingEnd && !first then
      if t.kind == .flowEntry then p.skip.peek
      else fail p.topMark "did not find expected ',' or '\x7d'" t.start
    else pure (p, t)
  match t.kind with
  | .flowMappingEnd => pure (p.pop.popMark.skip, ⟨.mappingEnd, t.start⟩)
  | .key => do
    let (p, t2) ← p.skip.peek
    match t2.kind with
    | .value | .flowEntry | .flowMappingEnd =>
      pure ({ p with state := .flowMappingValue }, emptyScalar t2.start)
    | _ => parseNode { p with states := .flowMappingValue :: p.states } false false
  | _ => parseNode { p with states := .flowMappingEmptyValue :: p.states } false false

/-- A value of a flow mapping; `empty` when the key stood alone. -/
def flowMappingValue (p : Parser) (empty : Bool) : Scan (Parser × Event) := do
  let (p, t) ← p.peek
  if empty then pure ({ p with state := .flowMappingKey }, emptyScalar t.start)
  else
    match t.kind with
    | .value => do
      let (p, t2) ← p.skip.peek
      match t2.kind with
      | .flowEntry | .flowMappingEnd =>
        pure ({ p with state := .flowMappingKey }, emptyScalar t2.start)
      | _ => parseNode { p with states := .flowMappingKey :: p.states } false false
    | _ => pure ({ p with state := .flowMappingKey }, emptyScalar t.start)

/-- The next event. -/
def next (p : Parser) : Scan (Parser × Event) :=
  match p.state with
  | .streamStart => do
    let (p, t) ← p.peek
    if t.kind != .streamStart then fail {} "did not find expected <stream-start>" t.start
    else pure ({ p.skip with state := .implicitDocumentStart }, ⟨.streamStart, t.start⟩)
  | .implicitDocumentStart => p.documentStart true
  | .documentStart => p.documentStart false
  | .documentContent => do
    let (p, t) ← p.peek
    match t.kind with
    | .versionDirective .. | .tagDirective .. | .documentStart | .documentEnd | .streamEnd =>
      pure (p.pop, emptyScalar t.start)
    | _ => p.parseNode true false
  | .documentEnd => do
    let (p, t) ← p.peek
    let p := if t.kind == .documentEnd then p.skip else p
    pure ({ p with state := .documentStart, tagDirectives := [] }, ⟨.documentEnd, t.start⟩)
  | .blockNode => p.parseNode true false
  | .blockSequenceFirstEntry => p.blockSequenceEntry true
  | .blockSequenceEntry => p.blockSequenceEntry false
  | .indentlessSequenceEntry => p.indentlessSequenceEntry
  | .blockMappingFirstKey => p.blockMappingKey true
  | .blockMappingKey => p.blockMappingKey false
  | .blockMappingValue => p.blockMappingValue
  | .flowSequenceFirstEntry => p.flowSequenceEntry true
  | .flowSequenceEntry => p.flowSequenceEntry false
  | .flowSequenceEntryMappingKey => p.flowSequenceEntryMappingKey
  | .flowSequenceEntryMappingValue => p.flowSequenceEntryMappingValue
  | .flowSequenceEntryMappingEnd => p.flowSequenceEntryMappingEnd
  | .flowMappingFirstKey => p.flowMappingKey true
  | .flowMappingKey => p.flowMappingKey false
  | .flowMappingValue => p.flowMappingValue false
  | .flowMappingEmptyValue => p.flowMappingValue true
  | .finished => .error (.failed "yaml: no events after the end of the stream")

end Parser

end Yaml
end ClusterAgent
