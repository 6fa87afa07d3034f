import ClusterAgent.Yaml.Reader

/-!
# The YAML scanner

The scanner turns characters into tokens: stream and document markers, the starts and ends of
block and flow collections, entry, key and value indicators, anchors, aliases, tags and
scalars in their five styles.

Block structure comes from indentation. The scanner keeps a stack of indentation columns; a
key or an entry indicator further right than the current column opens a block collection
(`blockMappingStart`, `blockSequenceStart`), and a line that starts further left closes as many
as it must (`blockEnd`).

A key in `key: value` form is only known to be a key when its `:` is seen. The scanner
therefore remembers, per flow level, where a *simple key* could have started, and when a `:`
follows it inserts the `key` token (and, in block context, the `blockMappingStart`) in front of
the key's first token. A simple key must stay on one line and within 1024 characters; a
possible key at the indentation column of a block mapping is *required*, and losing it is an
error.

Tokens are produced on demand, but the scanner always keeps three tokens ahead of the reader,
and more while the first of them could still turn out to be a key, so that errors a little
further on surface before the parser consumes what precedes them.

Comments are skipped. The rules for how far a comment run extends decide where tabs are
tolerated, so they are kept: a comment that ends a token's line is taken with that token, and a
run of comment lines is taken as a whole, blanks before each comment included.
-/

namespace ClusterAgent
namespace Yaml

/-- How a scalar was written. -/
inductive ScalarStyle where
  | plain
  | singleQuoted
  | doubleQuoted
  | literal
  | folded
  deriving DecidableEq, Repr

/-- The kinds of tokens. -/
inductive TokenKind where
  | streamStart
  | streamEnd
  | versionDirective (major minor : Nat)
  | tagDirective (handle : String) (pfx : Bytes)
  | documentStart
  | documentEnd
  | blockSequenceStart
  | blockMappingStart
  | blockEnd
  | flowSequenceStart
  | flowSequenceEnd
  | flowMappingStart
  | flowMappingEnd
  | blockEntry
  | flowEntry
  | key
  | value
  | alias (name : String)
  | anchor (name : String)
  | tag (handle : String) (suffix : Bytes)
  | scalar (text : String) (style : ScalarStyle)
  deriving DecidableEq, Repr

/-- A token and where it starts and stops. -/
structure Token where
  kind : TokenKind
  start : Mark
  stop : Mark
  deriving DecidableEq, Repr

/-- Where a simple key could start. -/
structure SimpleKey where
  possible : Bool := false
  required : Bool := false
  /-- The number of the key's first token in the whole token stream. -/
  number : Nat := 0
  mark : Mark := {}
  deriving DecidableEq, Repr

/-- The scanner's state. -/
structure Scanner where
  text : Array Char
  /-- The error of the chunk after `text`, reported when the scanner reads past `text`. -/
  failure : Option YamlError := none
  mark : Mark := {}
  /-- Tokens produced and not yet consumed, oldest first. -/
  queue : List Token := []
  /-- Tokens consumed so far. -/
  consumed : Nat := 0
  started : Bool := false
  /-- Whether the end-of-stream token has been consumed. -/
  finished : Bool := false
  flowLevel : Nat := 0
  indent : Int := -1
  indents : List Int := []
  keyAllowed : Bool := false
  /-- One possible simple key per flow level, the innermost last. -/
  keys : Array SimpleKey := #[]
  /-- The possible simple keys by the number of their first token. -/
  keyIndex : List (Nat × Nat) := []
  /-- Line breaks consumed since the last character that is not a blank. -/
  newlines : Nat := 0
  /-- Whether the first queued token may be handed out as it is. -/
  ready : Bool := false

/-- A step of the scanner that may fail. -/
abbrev Scan := Except YamlError

namespace Scanner

/-- The character `k` places ahead; NUL past the end. -/
def peekAt (s : Scanner) (k : Nat) : Char := s.text.getD (s.mark.index + k) '\x00'

/-- The current character. -/
def cur (s : Scanner) : Char := s.peekAt 0

/-- Moves past the current character. -/
def skip (s : Scanner) : Scanner :=
  { s with
    mark := { s.mark with index := s.mark.index + 1, column := s.mark.column + 1 },
    newlines := if isBlank s.cur then s.newlines else 0 }

/-- Moves past a line break (a carriage return and line feed pair counts as one). -/
def skipLine (s : Scanner) : Scanner :=
  if s.cur == '\r' && s.peekAt 1 == '\n' then
    { s with mark := { index := s.mark.index + 2, line := s.mark.line + 1, column := 0 },
             newlines := s.newlines + 1 }
  else if isBreak s.cur then
    { s with mark := { index := s.mark.index + 1, line := s.mark.line + 1, column := 0 },
             newlines := s.newlines + 1 }
  else s

/-- Moves past the current character, adding it to `acc`. -/
def read (s : Scanner) (acc : String) : Scanner × String := (s.skip, acc.push s.cur)

/-- Moves past a line break, adding it to `acc`: a line feed for carriage return, line feed and
next line, the character itself for the line and paragraph separators. -/
def readLine (s : Scanner) (acc : String) : Scanner × String :=
  if s.cur == '\r' && s.peekAt 1 == '\n' then (s.skipLine, acc.push '\n')
  else if s.cur == '\r' || s.cur == '\n' || s.cur == '\u0085' then (s.skipLine, acc.push '\n')
  else if s.cur == '\u2028' || s.cur == '\u2029' then (s.skipLine, acc.push s.cur)
  else (s, acc)

/-- Fails at the current position. -/
def fail {α : Type} (s : Scanner) (context : String) (contextMark : Mark) (problem : String) :
    Scan α :=
  .error (.scanner context contextMark problem s.mark)

/-- Makes sure `n` characters from the current position can be read: past the end of `text`
this is the failure of the next chunk, when there is one. -/
def within (s : Scanner) (n : Nat) : Scan Unit :=
  match s.failure with
  | some e => if s.mark.index + n > s.text.size then .error e else .ok ()
  | none => .ok ()

/-- A scanner error that read past `text` is the failure of the next chunk instead. -/
def chunkFailure (s : Scanner) (e : YamlError) : YamlError :=
  match s.failure, e with
  | some f, .scanner _ _ _ m => if m.index + 1 > s.text.size then f else e
  | _, _ => e

/-- Appends a token. -/
def push (s : Scanner) (t : Token) : Scanner := { s with queue := s.queue ++ [t] }

/-- Inserts a token `i` places after the first queued one. -/
def insertAt (s : Scanner) (i : Nat) (t : Token) : Scanner :=
  { s with queue := s.queue.take i ++ t :: s.queue.drop i }

/-- A bound on the steps of any loop over the text. -/
def fuel (s : Scanner) : Nat := s.text.size + 8

/-! ## Simple keys -/

/-- The possible simple key of the innermost flow level. -/
def topKey (s : Scanner) : SimpleKey := s.keys.back?.getD {}

/-- Replaces the possible simple key of the innermost flow level. -/
def setTopKey (s : Scanner) (k : SimpleKey) : Scanner :=
  { s with keys := s.keys.modify (s.keys.size - 1) fun _ => k }

/-- Forgets the possible simple key of the innermost level; a required one is an error. -/
def removeSimpleKey (s : Scanner) : Scan Scanner :=
  let k := s.topKey
  if k.possible then
    if k.required then s.fail "while scanning a simple key" k.mark "could not find expected ':'"
    else
      .ok { s.setTopKey { k with possible := false } with
            keyIndex := s.keyIndex.filter (·.1 != k.number) }
  else .ok s

/-- Remembers that a simple key could start here. -/
def saveSimpleKey (s : Scanner) : Scan Scanner := do
  let required := s.flowLevel == 0 && s.indent == (s.mark.column : Int)
  if s.keyAllowed then
    let k : SimpleKey :=
      { possible := true, required, number := s.consumed + s.queue.length, mark := s.mark }
    let s ← s.removeSimpleKey
    pure { s.setTopKey k with
           keyIndex := (k.number, s.keys.size - 1) :: s.keyIndex.filter (·.1 != k.number) }
  else pure s

/-- Whether possible simple key `i` still is one: it must be on this line and within 1024
characters. A key that can no longer be one is dropped, or is an error when it was required. -/
def checkKey (s : Scanner) (i : Nat) : Scan (Scanner × Bool) :=
  let k := s.keys.getD i {}
  if !k.possible then .ok (s, false)
  else if k.mark.line < s.mark.line || k.mark.index + 1024 < s.mark.index then
    if k.required then s.fail "while scanning a simple key" k.mark "could not find expected ':'"
    else .ok ({ s with keys := s.keys.modify i fun k => { k with possible := false } }, false)
  else .ok (s, true)

/-- Enters a flow collection. -/
def increaseFlowLevel (s : Scanner) : Scan Scanner :=
  let s := { s with keys := s.keys.push { mark := s.mark }, flowLevel := s.flowLevel + 1 }
  if s.flowLevel > 10000 then
    s.fail "while increasing flow level" s.topKey.mark "exceeded max depth of 10000"
  else .ok s

/-- Leaves a flow collection. -/
def decreaseFlowLevel (s : Scanner) : Scanner :=
  if s.flowLevel > 0 then
    let k := s.topKey
    { s with flowLevel := s.flowLevel - 1, keys := s.keys.pop,
             keyIndex := s.keyIndex.filter (·.1 != k.number) }
  else s

/-! ## Indentation -/

/-- Opens a block collection at `column` when it is further right than the current
indentation; the start token goes in front of token `number` of the stream, or at the end. -/
def rollIndent (s : Scanner) (column : Int) (number : Option Nat) (kind : TokenKind)
    (mark : Mark) : Scan Scanner :=
  if s.flowLevel > 0 then .ok s
  else if s.indent < column then
    let s := { s with indents := s.indent :: s.indents, indent := column }
    if s.indents.length > 10000 then
      s.fail "while increasing indent level" s.topKey.mark "exceeded max depth of 10000"
    else
      let t : Token := ⟨kind, mark, mark⟩
      match number with
      | some n => .ok (s.insertAt (n - s.consumed) t)
      | none => .ok (s.push t)
  else .ok s

/-- Closes every block collection indented further than `column`. -/
def unrollIndent (s : Scanner) (column : Int) (scanMark : Mark) : Scanner :=
  if s.flowLevel > 0 then s else go s.indents.length s
where
  go : Nat → Scanner → Scanner
    | 0, s => s
    | n + 1, s =>
      if s.indent > column then
        let m := { scanMark with index := scanMark.index - 1 }
        let s := s.push ⟨.blockEnd, m, m⟩
        match s.indents with
        | i :: rest => go n { s with indent := i, indents := rest }
        | [] => s
      else s

/-! ## White space and comments -/

/-- Skips spaces, and tabs where they are tolerated: in flow context, or where no simple key
may start. -/
def skipSpaces (s : Scanner) : Nat → Scanner
  | 0 => s
  | n + 1 =>
    if s.cur == ' ' || ((s.flowLevel > 0 || !s.keyAllowed) && s.cur == '\t') then
      skipSpaces s.skip n
    else s

/-- Consumes up to the comment starting at index `seen` and the comment itself, stopping at
the end of its line. -/
def eatComment (s : Scanner) (seen : Nat) : Nat → Scanner
  | 0 => s
  | n + 1 =>
    if isBreakOrEnd s.cur then
      if s.mark.index ≥ seen then s else eatComment s.skipLine seen n
    else eatComment s.skip seen n

/-- Consumes a run of comment lines starting at the current `#`: each further comment that
follows after blanks and line breaks only is taken too. Stops at the end of the last one. -/
def scanComments (s : Scanner) : Scanner :=
  go s 0 (513 * s.fuel)
where
  go (s : Scanner) (peek : Nat) : Nat → Scanner
    | 0 => s
    | n + 1 =>
      if peek ≥ 512 then s
      else
        let c := s.peekAt peek
        if isBlank c then go s (peek + 1) n
        else if (s.flowLevel > 0 && (c == ']' || c == '}')) || isBreakOrEnd c then
          if isBreak c then go s (peek + 1) n else s
        else if c != '#' then s
        else go (eatComment s (s.mark.index + peek) s.fuel) 1 n

/-- Consumes a comment that ends the line of the token just produced, unless a line break was
consumed since the last character that is not a blank. -/
def scanLineComment (s : Scanner) : Scanner :=
  if s.newlines > 0 then s else go 0 512
where
  go (peek : Nat) : Nat → Scanner
    | 0 => s
    | n + 1 =>
      let c := s.peekAt peek
      if isBlank c then go (peek + 1) n
      else if c == '#' then eatComment s (s.mark.index + peek) s.fuel
      else s

/-- Skips white space, comments and line breaks up to the next token. In block context a line
break allows a simple key again. -/
def scanToNextToken (s : Scanner) : Nat → Scanner
  | 0 => s
  | n + 1 =>
    let s := if s.mark.column == 0 && s.cur == '\uFEFF' then s.skip else s
    let s := s.skipSpaces s.fuel
    let s := if s.cur == '#' then s.scanComments else s
    if isBreak s.cur then
      let s := s.skipLine
      scanToNextToken (if s.flowLevel == 0 then { s with keyAllowed := true } else s) n
    else s

/-! ## Scalars -/

/-- The text gathered while scanning a scalar, with the white space and line breaks that are
pending until the next content decides how they fold. -/
structure Folding where
  text : String := ""
  leadingBreak : String := ""
  trailingBreaks : String := ""
  whitespaces : String := ""
  leadingBlanks : Bool := false

/-- Whether the current position starts a document marker line (`---` or `...`). -/
def atDocumentMarker (s : Scanner) : Bool :=
  s.mark.column == 0 &&
    ((s.peekAt 0 == '-' && s.peekAt 1 == '-' && s.peekAt 2 == '-') ||
     (s.peekAt 0 == '.' && s.peekAt 1 == '.' && s.peekAt 2 == '.')) &&
    isSpaceOrEnd (s.peekAt 3)

/-- Folds pending line breaks (or white space) into the text before more content. -/
def Folding.join (f : Folding) : Folding :=
  if f.leadingBlanks then
    let text :=
      if f.leadingBreak.front == '\n' && !f.leadingBreak.isEmpty then
        if f.trailingBreaks.isEmpty then f.text.push ' ' else f.text ++ f.trailingBreaks
      else f.text ++ f.leadingBreak ++ f.trailingBreaks
    { f with text, trailingBreaks := "", leadingBreak := "", leadingBlanks := false }
  else if !f.whitespaces.isEmpty then
    { f with text := f.text ++ f.whitespaces, whitespaces := "" }
  else f

/-- Whether the current character ends the content of a plain scalar. -/
def endsPlain (s : Scanner) : Bool :=
  (s.cur == ':' && isSpaceOrEnd (s.peekAt 1)) ||
    (s.flowLevel > 0 && [',', '?', '[', ']', '{', '}'].contains s.cur)

/-- Reads the characters of one run of plain content. -/
def plainRun (s : Scanner) (f : Folding) (stop : Mark) : Nat → Scanner × Folding × Mark
  | 0 => (s, f, stop)
  | n + 1 =>
    if isSpaceOrEnd s.cur || s.endsPlain then (s, f, stop)
    else
      let f := f.join
      let (s, text) := s.read f.text
      plainRun s { f with text } s.mark n

/-- Reads the blanks and line breaks after a run of plain content. -/
def plainGap (s : Scanner) (f : Folding) (indent : Int) (start : Mark) :
    Nat → Scan (Scanner × Folding)
  | 0 => .ok (s, f)
  | n + 1 =>
    if isBlank s.cur then
      if f.leadingBlanks && (s.mark.column : Int) < indent && s.cur == '\t' then
        s.fail "while scanning a plain scalar" start "found a tab character that violates indentation"
      else if !f.leadingBlanks then
        let (s, w) := s.read f.whitespaces
        plainGap s { f with whitespaces := w } indent start n
      else plainGap s.skip f indent start n
    else if isBreak s.cur then
      if !f.leadingBlanks then
        let (s, b) := s.readLine ""
        plainGap s { f with whitespaces := "", leadingBreak := b, leadingBlanks := true } indent start n
      else
        let (s, b) := s.readLine f.trailingBreaks
        plainGap s { f with trailingBreaks := b } indent start n
    else .ok (s, f)

/-- Scans a plain scalar. -/
def scanPlain (s : Scanner) : Scan (Scanner × Token) :=
  let indent := s.indent + 1
  let start := s.mark
  let rec go (s : Scanner) (f : Folding) (stop : Mark) : Nat → Scan (Scanner × Folding × Mark)
    | 0 => .ok (s, f, stop)
    | n + 1 =>
      if s.atDocumentMarker || s.cur == '#' then .ok (s, f, stop)
      else
        let (s, f, stop) := s.plainRun f stop s.fuel
        if !(isBlank s.cur || isBreak s.cur) then .ok (s, f, stop)
        else
          match s.plainGap f indent start s.fuel with
          | .error e => .error e
          | .ok (s, f) =>
            if s.flowLevel == 0 && (s.mark.column : Int) < indent then .ok (s, f, stop)
            else go s f stop n
  match go s {} start s.fuel with
  | .error e => .error e
  | .ok (s, f, stop) =>
    let s := if f.leadingBlanks then { s with keyAllowed := true } else s
    .ok (s, ⟨.scalar f.text .plain, start, stop⟩)

/-- The character a one-letter escape stands for. -/
def escapeChar? : Char → Option String
  | '0' => some "\x00"
  | 'a' => some "\x07"
  | 'b' => some "\x08"
  | 't' => some "\t"
  | '\t' => some "\t"
  | 'n' => some "\n"
  | 'v' => some "\x0b"
  | 'f' => some "\x0c"
  | 'r' => some "\r"
  | 'e' => some "\x1b"
  | ' ' => some " "
  | '"' => some "\""
  | '\'' => some "'"
  | '\\' => some "\\"
  | 'N' => some "\u0085"
  | '_' => some "\u00A0"
  | 'L' => some "\u2028"
  | 'P' => some "\u2029"
  | _ => none

/-- The value of `k` hexadecimal digits at the current position. -/
def hexDigits (s : Scanner) : Nat → Nat → Option Nat
  | 0, acc => some acc
  | k + 1, acc =>
    match hexValue? s.cur with
    | some d => s.skip.hexDigits k (acc * 16 + d)
    | none => none

/-- Skips `k` characters. -/
def skipN (s : Scanner) : Nat → Scanner
  | 0 => s
  | k + 1 => s.skip.skipN k

/-- Reads the content of a quoted scalar up to a blank, a line break or the closing quote;
`true` when it ended at an escaped line break. -/
def quotedRun (s : Scanner) (single : Bool) (start : Mark) (text : String) :
    Nat → Scan (Scanner × String × Bool)
  | 0 => .ok (s, text, false)
  | n + 1 =>
    if isSpaceOrEnd s.cur then .ok (s, text, false)
    else if single && s.cur == '\'' && s.peekAt 1 == '\'' then
      quotedRun s.skip.skip single start (text.push '\'') n
    else if single && s.cur == '\'' then .ok (s, text, false)
    else if !single && s.cur == '"' then .ok (s, text, false)
    else if !single && s.cur == '\\' && isBreak (s.peekAt 1) then
      .ok (s.skip.skipLine, text, true)
    else if !single && s.cur == '\\' then
      let e := s.peekAt 1
      let width := if e == 'x' then 2 else if e == 'u' then 4 else if e == 'U' then 8 else 0
      if width == 0 then
        match escapeChar? e with
        | some t => quotedRun s.skip.skip single start (text ++ t) n
        | none => s.fail "while parsing a quoted scalar" start "found unknown escape character"
      else
        let s := s.skip.skip
        match s.hexDigits width 0 with
        | none => s.fail "while parsing a quoted scalar" start "did not find expected hexdecimal number"
        | some v =>
          if (0xD800 ≤ v && v ≤ 0xDFFF) || v > 0x10FFFF then
            s.fail "while parsing a quoted scalar" start "found invalid Unicode character escape code"
          else quotedRun (s.skipN width) single start (text.push (Char.ofNat v)) n
    else
      let (s, text) := s.read text
      quotedRun s single start text n

/-- Reads the blanks and line breaks inside a quoted scalar. -/
def quotedGap (s : Scanner) (f : Folding) : Nat → Scanner × Folding
  | 0 => (s, f)
  | n + 1 =>
    if isBlank s.cur then
      if !f.leadingBlanks then
        let (s, w) := s.read f.whitespaces
        quotedGap s { f with whitespaces := w } n
      else quotedGap s.skip f n
    else if isBreak s.cur then
      if !f.leadingBlanks then
        let (s, b) := s.readLine ""
        quotedGap s { f with whitespaces := "", leadingBreak := b, leadingBlanks := true } n
      else
        let (s, b) := s.readLine f.trailingBreaks
        quotedGap s { f with trailingBreaks := b } n
    else (s, f)

/-- Scans a single- or double-quoted scalar. -/
def scanQuoted (s : Scanner) (single : Bool) : Scan (Scanner × Token) :=
  let start := s.mark
  let rec go (s : Scanner) (text : String) : Nat → Scan (Scanner × String)
    | 0 => .ok (s, text)
    | n + 1 =>
      if s.atDocumentMarker then
        s.fail "while scanning a quoted scalar" start "found unexpected document indicator"
      else if isEnd s.cur then
        s.fail "while scanning a quoted scalar" start "found unexpected end of stream"
      else
        match s.quotedRun single start text s.fuel with
        | .error e => .error e
        | .ok (s, text, escapedBreak) =>
          if (single && s.cur == '\'') || (!single && s.cur == '"') then .ok (s, text)
          else
            let (s, f) := s.quotedGap { text, leadingBlanks := escapedBreak } s.fuel
            let text :=
              if f.leadingBlanks then
                if !f.leadingBreak.isEmpty && f.leadingBreak.front == '\n' then
                  if f.trailingBreaks.isEmpty then f.text.push ' ' else f.text ++ f.trailingBreaks
                else f.text ++ f.leadingBreak ++ f.trailingBreaks
              else f.text ++ f.whitespaces
            go s text n
  match go s.skip "" s.fuel with
  | .error e => .error e
  | .ok (s, text) =>
    let s := s.skip
    .ok (s, ⟨.scalar text (if single then .singleQuoted else .doubleQuoted), start, s.mark⟩)

/-- Skips the indentation before a line of a block scalar, gathering empty lines; fixes the
indentation from the most indented empty line when it is not known yet. -/
def blockBreaks (s : Scanner) (indent : Nat) (breaks : String) (start : Mark) :
    Scan (Scanner × Nat × String × Mark) :=
  let rec go (s : Scanner) (maxIndent : Nat) (breaks : String) (stop : Mark) :
      Nat → Scan (Scanner × Nat × String × Mark)
    | 0 => .ok (s, maxIndent, breaks, stop)
    | n + 1 =>
      let s := spaces s s.fuel
      let maxIndent := max maxIndent s.mark.column
      if (indent == 0 || s.mark.column < indent) && s.cur == '\t' then
        s.fail "while scanning a block scalar" start
          "found a tab character where an indentation space is expected"
      else if !isBreak s.cur then .ok (s, maxIndent, breaks, stop)
      else
        let (s, breaks) := s.readLine breaks
        go s maxIndent breaks s.mark n
  match go s 0 breaks s.mark s.fuel with
  | .error e => .error e
  | .ok (s, maxIndent, breaks, stop) =>
    if indent == 0 then
      let i := max maxIndent (s.indent + 1).toNat
      .ok (s, max i 1, breaks, stop)
    else .ok (s, indent, breaks, stop)
where
  spaces (s : Scanner) : Nat → Scanner
    | 0 => s
    | n + 1 =>
      if (indent == 0 || s.mark.column < indent) && s.cur == ' ' then spaces s.skip n else s

/-- Reads the rest of a line into the text. -/
def readToBreak (s : Scanner) (text : String) : Nat → Scanner × String
  | 0 => (s, text)
  | n + 1 =>
    if isBreakOrEnd s.cur then (s, text)
    else
      let (s, text) := s.read text
      readToBreak s text n

/-- Skips blanks. -/
def skipBlanks (s : Scanner) : Nat → Scanner
  | 0 => s
  | n + 1 => if isBlank s.cur then skipBlanks s.skip n else s

/-- Skips to the end of the line. -/
def skipToBreak (s : Scanner) : Nat → Scanner
  | 0 => s
  | n + 1 => if isBreakOrEnd s.cur then s else skipToBreak s.skip n

/-- Scans a literal (`|`) or folded (`>`) block scalar with its chomping and indentation
indicators. -/
def scanBlockScalar (s : Scanner) (literal : Bool) : Scan (Scanner × Token) := do
  let start := s.mark
  let s := s.skip
  -- the indicators, in either order
  let (s, chomping, increment) ←
    if s.cur == '+' || s.cur == '-' then
      let chomping : Int := if s.cur == '+' then 1 else -1
      let s := s.skip
      if isDigit s.cur then
        if s.cur == '0' then
          s.fail "while scanning a block scalar" start "found an indentation indicator equal to 0"
        else pure (s.skip, chomping, s.cur.toNat - '0'.toNat)
      else pure (s, chomping, 0)
    else if isDigit s.cur then
      if s.cur == '0' then
        s.fail "while scanning a block scalar" start "found an indentation indicator equal to 0"
      else
        let increment := s.cur.toNat - '0'.toNat
        let s := s.skip
        if s.cur == '+' || s.cur == '-' then
          pure (s.skip, (if s.cur == '+' then 1 else -1), increment)
        else pure (s, (0 : Int), increment)
    else pure (s, (0 : Int), 0)
  let s := s.skipBlanks s.fuel
  let s := if s.cur == '#' then (s.scanLineComment).skipToBreak s.fuel else s
  if !isBreakOrEnd s.cur then
    s.fail "while scanning a block scalar" start "did not find expected comment or line break"
  else
    let s := if isBreak s.cur then s.skipLine else s
    let indent : Nat :=
      if increment > 0 then
        if s.indent ≥ 0 then (s.indent + increment).toNat else increment
      else 0
    let (s, indent, trailing, stop) ← s.blockBreaks indent "" start
    let rec lines (s : Scanner) (text leading trailing : String) (leadingBlank : Bool)
        (stop : Mark) : Nat → Scan (Scanner × String × String × String × Mark)
      | 0 => .ok (s, text, leading, trailing, stop)
      | n + 1 =>
        if s.mark.column == indent && !isEnd s.cur then
          let trailingBlank := isBlank s.cur
          let text :=
            if !literal && !leadingBlank && !trailingBlank && !leading.isEmpty &&
                leading.front == '\n' then
              if trailing.isEmpty then text.push ' ' else text
            else text ++ leading
          let text := text ++ trailing
          let leadingBlank := isBlank s.cur
          let (s, text) := s.readToBreak text s.fuel
          let (s, leading) := s.readLine ""
          match s.blockBreaks indent "" start with
          | .error e => .error e
          | .ok (s, _, trailing, stop) => lines s text leading trailing leadingBlank stop n
        else .ok (s, text, leading, trailing, stop)
    let (s, text, leading, trailing, stop) ← lines s "" "" trailing false stop s.fuel
    let text := if chomping != -1 then text ++ leading else text
    let text := if chomping == 1 then text ++ trailing else text
    pure (s, ⟨.scalar text (if literal then .literal else .folded), start, stop⟩)

/-! ## Anchors, tags and directives -/

/-- Reads word characters. -/
def readWord (s : Scanner) (acc : String) : Nat → Scanner × String
  | 0 => (s, acc)
  | n + 1 =>
    if isWordChar s.cur then
      let (s, acc) := s.read acc
      readWord s acc n
    else (s, acc)

/-- Scans an anchor (`&name`) or an alias (`*name`). -/
def scanAnchor (s : Scanner) (isAlias : Bool) : Scan (Scanner × Token) :=
  let start := s.mark
  let (s, name) := s.skip.readWord "" s.fuel
  if name.isEmpty ||
      !(isSpaceOrEnd s.cur || ['?', ':', ',', ']', '}', '%', '@', '`'].contains s.cur) then
    s.fail (if isAlias then "while scanning an alias" else "while scanning an anchor") start
      "did not find expected alphabetic or numeric character"
  else .ok (s, ⟨if isAlias then .alias name else .anchor name, start, s.mark⟩)

/-- The context of an error inside a tag. -/
def tagContext (directive : Bool) : String :=
  if directive then "while parsing a %TAG directive" else "while parsing a tag"

/-- Scans a tag handle: `!`, then word characters, then `!` when there is one. Inside a
directive the handle must end with `!` unless it is `!` alone. -/
def scanTagHandle (s : Scanner) (directive : Bool) (start : Mark) : Scan (Scanner × String) :=
  if s.cur != '!' then s.fail (tagContext directive) start "did not find expected '!'"
  else
    let (s, h) := s.read ""
    let (s, h) := s.readWord h s.fuel
    if s.cur == '!' then .ok (s.read h)
    else if directive && h != "!" then s.fail (tagContext directive) start "did not find expected '!'"
    else .ok (s, h)

/-- Whether a character may appear in a tag URI. -/
def isUriChar (c : Char) (verbatim : Bool) : Bool :=
  isWordChar c || [';', '/', '?', ':', '@', '&', '=', '+', '$', '.', '%', '!', '~', '*', '\'',
    '(', ')'].contains c || (verbatim && [',', '[', ']'].contains c)

/-- Decodes the escaped octets of one UTF-8 character in a tag URI; `left` is how many octets
of the character are still expected, `none` before the leading one. -/
def uriEscapes (s : Scanner) (directive : Bool) (start : Mark) :
    List UInt8 → Option Nat → Nat → Scan (Scanner × List UInt8)
  | acc, _, 0 => .ok (s, acc)
  | acc, left, n + 1 =>
    match (if s.cur == '%' then hexValue? (s.peekAt 1) else none), hexValue? (s.peekAt 2) with
    | some hi, some lo =>
      let octet := UInt8.ofNat (hi * 16 + lo)
      let next := s.skip.skip.skip
      match left with
      | none =>
        match sequenceLength? octet with
        | none => s.fail (tagContext directive) start "found an incorrect leading UTF-8 octet"
        | some w =>
          if w ≤ 1 then .ok (next, acc ++ [octet])
          else next.uriEscapes directive start (acc ++ [octet]) (some (w - 1)) n
      | some k =>
        if octet &&& 0xC0 != 0x80 then
          s.fail (tagContext directive) start "found an incorrect trailing UTF-8 octet"
        else if k ≤ 1 then .ok (next, acc ++ [octet])
        else next.uriEscapes directive start (acc ++ [octet]) (some (k - 1)) n
    | _, _ => s.fail (tagContext directive) start "did not find URI escaped octet"

/-- Scans a tag URI; `head` is what a supposed handle already read (without its `!`). The URI is
kept as bytes: an escape stands for its octet, and the octets of one escaped character need only
be shaped like UTF-8, so they may not be UTF-8 on their own. -/
def scanTagUri (s : Scanner) (verbatim directive : Bool) (head : String) (start : Mark) :
    Scan (Scanner × Bytes) :=
  let rec go (s : Scanner) (acc : Bytes) (found : Bool) : Nat → Scan (Scanner × Bytes × Bool)
    | 0 => .ok (s, acc, found)
    | n + 1 =>
      if isUriChar s.cur verbatim then
        if s.cur == '%' then
          match s.uriEscapes directive start [] none 4 with
          | .error e => .error e
          | .ok (s, octets) => go s (acc ++ octets) true n
        else go s.skip (acc ++ Bytes.ofString (String.singleton s.cur)) true n
      else .ok (s, acc, found)
  match go s (Bytes.ofString (head.drop 1).toString) (!head.isEmpty) s.fuel with
  | .error e => .error e
  | .ok (s, uri, found) =>
    if !found then s.fail (tagContext directive) start "did not find expected tag URI"
    else .ok (s, uri)

/-- Scans a tag: `!<uri>`, `!handle!suffix`, `!suffix` or `!`. -/
def scanTag (s : Scanner) : Scan (Scanner × Token) := do
  let start := s.mark
  let (s, handle, suffix) ←
    if s.peekAt 1 == '<' then do
      let (s, suffix) ← s.skip.skip.scanTagUri true false "" start
      if s.cur != '>' then s.fail "while scanning a tag" start "did not find the expected '>'"
      else pure (s.skip, "", suffix)
    else do
      let (s, handle) ← s.scanTagHandle false start
      if handle.front == '!' && handle.length > 1 && handle.back == '!' then
        let (s, suffix) ← s.scanTagUri false false "" start
        pure (s, handle, suffix)
      else
        let (s, suffix) ← s.scanTagUri false false handle start
        if suffix.isEmpty then pure (s, "", [0x21]) else pure (s, "!", suffix)
  if !isSpaceOrEnd s.cur && (s.flowLevel == 0 || s.cur != ',') then
    s.fail "while scanning a tag" start "did not find expected whitespace or line break"
  else pure (s, ⟨.tag handle suffix, start, s.mark⟩)

/-- Reads the digits of a version number, at most two. -/
def versionNumber (s : Scanner) (start : Mark) : Scan (Scanner × Nat) :=
  let rec go (s : Scanner) (value length : Nat) : Nat → Scan (Scanner × Nat)
    | 0 => .ok (s, value)
    | n + 1 =>
      if isDigit s.cur then
        if length + 1 > 2 then
          s.fail "while scanning a %YAML directive" start "found extremely long version number"
        else go s.skip (value * 10 + (s.cur.toNat - '0'.toNat)) (length + 1) n
      else if length == 0 then
        s.fail "while scanning a %YAML directive" start "did not find expected version number"
      else .ok (s, value)
  go s 0 0 s.fuel

/-- Scans a `%YAML` or `%TAG` directive line. -/
def scanDirective (s : Scanner) : Scan (Scanner × Token) := do
  let start := s.mark
  let (s, name) := s.skip.readWord "" s.fuel
  if name.isEmpty then
    s.fail "while scanning a directive" start "could not find expected directive name"
  else if !isSpaceOrEnd s.cur then
    s.fail "while scanning a directive" start "found unexpected non-alphabetical character"
  else
    let (s, kind) ←
      if name == "YAML" then do
        let (s, major) ← (s.skipBlanks s.fuel).versionNumber start
        if s.cur != '.' then
          s.fail "while scanning a %YAML directive" start "did not find expected digit or '.' character"
        else
          let (s, minor) ← s.skip.versionNumber start
          pure (s, TokenKind.versionDirective major minor)
      else if name == "TAG" then do
        let (s, handle) ← (s.skipBlanks s.fuel).scanTagHandle true start
        if !isBlank s.cur then
          s.fail "while scanning a %TAG directive" start "did not find expected whitespace"
        else
          let (s, pfx) ← (s.skipBlanks s.fuel).scanTagUri true true "" start
          if !isSpaceOrEnd s.cur then
            s.fail "while scanning a %TAG directive" start
              "did not find expected whitespace or line break"
          else pure (s, TokenKind.tagDirective handle pfx)
      else s.fail "while scanning a directive" start "found unknown directive name"
    let stop := s.mark
    let s := s.skipBlanks s.fuel
    let s := if s.cur == '#' then s.skipToBreak s.fuel else s
    if !isBreakOrEnd s.cur then
      s.fail "while scanning a directive" start "did not find expected comment or line break"
    else pure (if isBreak s.cur then s.skipLine else s, ⟨kind, start, stop⟩)

/-! ## Fetching tokens -/

/-- Produces a token made of one indicator character. -/
def single (s : Scanner) (kind : TokenKind) : Scanner :=
  let start := s.mark
  let s := s.skip
  s.push ⟨kind, start, s.mark⟩

/-- The end of the stream. -/
def fetchStreamEnd (s : Scanner) : Scan Scanner := do
  let s := if s.mark.column != 0 then
      { s with mark := { s.mark with column := 0, line := s.mark.line + 1 } }
    else s
  let s := s.unrollIndent (-1) s.mark
  let s ← s.removeSimpleKey
  let s := { s with keyAllowed := false }
  pure (s.push ⟨.streamEnd, s.mark, s.mark⟩)

/-- A `---` or `...` marker. -/
def fetchDocumentIndicator (s : Scanner) (kind : TokenKind) : Scan Scanner := do
  let s := s.unrollIndent (-1) s.mark
  let s ← s.removeSimpleKey
  let s := { s with keyAllowed := false }
  let start := s.mark
  let s := s.skip.skip.skip
  pure (s.push ⟨kind, start, s.mark⟩)

/-- The `:` indicator: completes a simple key when one is possible. -/
def fetchValue (s : Scanner) : Scan Scanner := do
  let i := s.keys.size - 1
  let (s, valid) ← s.checkKey i
  let s ←
    if valid then do
      let k := s.keys.getD i {}
      let s := s.insertAt (k.number - s.consumed) ⟨.key, k.mark, k.mark⟩
      let s ← s.rollIndent k.mark.column (some k.number) .blockMappingStart k.mark
      let s := { s with keys := s.keys.modify i fun k => { k with possible := false },
                        keyIndex := s.keyIndex.filter (·.1 != k.number) }
      pure { s with keyAllowed := false }
    else do
      let s ←
        if s.flowLevel == 0 then
          if !s.keyAllowed then
            s.fail "" s.mark "mapping values are not allowed in this context"
          else s.rollIndent s.mark.column none .blockMappingStart s.mark
        else pure s
      pure { s with keyAllowed := s.flowLevel == 0 }
  pure (s.single .value)

/-- Whether the current character starts a plain scalar. -/
def startsPlain (s : Scanner) : Bool :=
  let c := s.cur
  let n := s.peekAt 1
  !(isSpaceOrEnd c || ['-', '?', ':', ',', '[', ']', '{', '}', '#', '&', '*', '!', '|', '>',
      '\'', '"', '%', '@', '`'].contains c) ||
    (c == '-' && !isBlank n) ||
    (s.flowLevel == 0 && (c == '?' || c == ':') && !isSpaceOrEnd n)

/-- Produces the token at the current position, after the end-of-line comment check. -/
def fetchToken (s : Scanner) : Scan Scanner := do
  let c := s.cur
  if c == '[' || c == '{' then
    let s ← s.saveSimpleKey
    let s ← s.increaseFlowLevel
    pure ({ s with keyAllowed := true }.single
      (if c == '[' then .flowSequenceStart else .flowMappingStart))
  else if c == ']' || c == '}' then
    let s ← s.removeSimpleKey
    let s := s.decreaseFlowLevel
    pure ({ s with keyAllowed := false }.single
      (if c == ']' then .flowSequenceEnd else .flowMappingEnd))
  else if c == ',' then
    let s ← s.removeSimpleKey
    pure ({ s with keyAllowed := true }.single .flowEntry)
  else if c == '-' && isSpaceOrEnd (s.peekAt 1) then
    let s ←
      if s.flowLevel == 0 then
        if !s.keyAllowed then
          s.fail "" s.mark "block sequence entries are not allowed in this context"
        else s.rollIndent s.mark.column none .blockSequenceStart s.mark
      else pure s
    let s ← s.removeSimpleKey
    pure ({ s with keyAllowed := true }.single .blockEntry)
  else if c == '?' && (s.flowLevel > 0 || isSpaceOrEnd (s.peekAt 1)) then
    let s ←
      if s.flowLevel == 0 then
        if !s.keyAllowed then
          s.fail "" s.mark "mapping keys are not allowed in this context"
        else s.rollIndent s.mark.column none .blockMappingStart s.mark
      else pure s
    let s ← s.removeSimpleKey
    pure ({ s with keyAllowed := s.flowLevel == 0 }.single .key)
  else if c == ':' && (s.flowLevel > 0 || isSpaceOrEnd (s.peekAt 1)) then
    s.fetchValue
  else if c == '*' || c == '&' then
    let s ← s.saveSimpleKey
    let (s, t) ← { s with keyAllowed := false }.scanAnchor (c == '*')
    pure (s.push t)
  else if c == '!' then
    let s ← s.saveSimpleKey
    let (s, t) ← { s with keyAllowed := false }.scanTag
    pure (s.push t)
  else if (c == '|' || c == '>') && s.flowLevel == 0 then
    let s ← s.removeSimpleKey
    let (s, t) ← { s with keyAllowed := true }.scanBlockScalar (c == '|')
    pure (s.push t)
  else if c == '\'' || c == '"' then
    let s ← s.saveSimpleKey
    let (s, t) ← { s with keyAllowed := false }.scanQuoted (c == '\'')
    pure (s.push t)
  else if s.startsPlain then
    let s ← s.saveSimpleKey
    let (s, t) ← { s with keyAllowed := false }.scanPlain
    pure (s.push t)
  else s.fail "while scanning for the next token" s.mark "found character that cannot start any token"

/-- Produces the token at the current position, the white space before it skipped. -/
def fetchAt (s : Scanner) : Scan Scanner := do
  if isEnd s.cur then s.fetchStreamEnd
  else if s.mark.column == 0 && s.cur == '%' then do
    let s := s.unrollIndent (-1) s.mark
    let s ← s.removeSimpleKey
    let (s, t) ← { s with keyAllowed := false }.scanDirective
    pure (s.push t)
  else if s.mark.column == 0 && s.cur == '-' && s.peekAt 1 == '-' && s.peekAt 2 == '-' &&
      isSpaceOrEnd (s.peekAt 3) then
    s.fetchDocumentIndicator .documentStart
  else if s.mark.column == 0 && s.cur == '.' && s.peekAt 1 == '.' && s.peekAt 2 == '.' &&
      isSpaceOrEnd (s.peekAt 3) then
    s.fetchDocumentIndicator .documentEnd
  else
    let s ← s.fetchToken
    match s.queue.getLast? with
    | some t => if t.kind == .blockEntry then pure s else pure s.scanLineComment
    | none => pure s.scanLineComment

/-- Produces the next token (or, at a `:`, the tokens a completed simple key brings). Reading
needs one character at the start, and four where the token starts; a token whose reading went
past the decoded characters reports the failure of the next chunk. -/
def fetchNextToken (s : Scanner) : Scan Scanner := do
  s.within 1
  if !s.started then
    let s := { s with indent := -1, keys := s.keys.push {}, keyIndex := [], keyAllowed := true,
                      started := true }
    pure (s.push ⟨.streamStart, s.mark, s.mark⟩)
  else
    let scanMark := s.mark
    let s := s.scanToNextToken s.fuel
    s.within 4
    let s := s.unrollIndent s.mark.column scanMark
    match s.fetchAt with
    | .ok s => do
      s.within 1
      pure s
    | .error e => .error (s.chunkFailure e)

/-- Fetches tokens until three are queued and the first cannot become a key any more. -/
def fetchMoreTokens (s : Scanner) : Scan Scanner :=
  go s (s.fuel + 8)
where
  go (s : Scanner) : Nat → Scan Scanner
    | 0 => .ok { s with ready := true }
    | n + 1 => do
      let more ←
        if s.queue.length > 2 then
          match s.keyIndex.lookup s.consumed with
          | none => pure (s, false)
          | some i => s.checkKey i
        else pure (s, true)
      match more with
      | (s, false) => pure { s with ready := true }
      | (s, true) =>
        let s ← s.fetchNextToken
        go s n

/-- The next token, without consuming it. -/
def peekToken (s : Scanner) : Scan (Scanner × Token) := do
  let s ← if s.ready then pure s else s.fetchMoreTokens
  match s.queue.head? with
  | some t => pure (s, t)
  | none => .error (.failed "yaml: unexpected end of token stream")

/-- Consumes the next token. -/
def skipToken (s : Scanner) : Scanner :=
  match s.queue with
  | t :: rest =>
    { s with ready := false, consumed := s.consumed + 1, queue := rest,
             finished := t.kind == .streamEnd }
  | [] => { s with ready := false }

end Scanner

end Yaml
end ClusterAgent
