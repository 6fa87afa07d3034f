import ClusterAgent.Text.Bytes

/-!
# Reading YAML text

YAML is read as a sequence of characters. The bytes must be UTF-8 (a leading byte order mark
is dropped) and every character must be printable: tab, line feed, carriage return, the
printable ASCII range, next line (U+0085) and the printable planes above U+009F, without
surrogates and without U+FFFE and U+FFFF. The first offending byte stops the reading.

Text may also be UTF-16, in either byte order, when it starts with the matching byte order
mark.

Bytes are decoded in chunks of 512, as the scanner comes to need them: a chunk holds the bytes
of a character the chunk before cut off, and new bytes up to 512 in all. An offending byte is
therefore only reported once the scanner reads past the characters of the chunks before its own,
and not at all when the reading stops before that.

A position in the text is a `Mark`: characters before it (a carriage return and line feed pair
counts two), the line and the column, all from zero. Errors carry marks, and their messages
name the line the way the YAML library does: scanner errors count lines from one, parser errors
name the line of the mark as it stands, and a mark on the first line is not named at all.
-/

namespace ClusterAgent
namespace Yaml

/-- A position in the text. -/
structure Mark where
  index : Nat := 0
  line : Nat := 0
  column : Nat := 0
  deriving DecidableEq, Repr

/-- Why a text was refused. -/
inductive YamlError where
  /-- The bytes are not acceptable characters. -/
  | reader (problem : String)
  /-- The characters do not form tokens. -/
  | scanner (context : String) (contextMark : Mark) (problem : String) (problemMark : Mark)
  /-- The tokens do not form a document; the context mark is the zero mark when there is none. -/
  | parser (contextMark : Mark) (problem : String) (problemMark : Mark)
  /-- A refusal whose text is complete. -/
  | failed (message : String)
  deriving DecidableEq, Repr

/-- The `line N: ` prefix of a message: the context mark's line when it is not the first, else
the problem mark's; scanner errors count from one. Nothing for the first line. -/
def linePrefix (contextMark problemMark : Mark) (scanner : Bool) : String :=
  let bump := if scanner then 1 else 0
  let line :=
    if contextMark.line ≠ 0 then contextMark.line + bump
    else if problemMark.line ≠ 0 then problemMark.line + bump
    else 0
  if line = 0 then "" else "line " ++ toString line ++ ": "

/-- The text of a refusal. -/
def YamlError.message : YamlError → String
  | .reader p => "yaml: " ++ p
  | .scanner _ cm p pm => "yaml: " ++ linePrefix cm pm true ++ p
  | .parser cm p pm => "yaml: " ++ linePrefix cm pm false ++ p
  | .failed m => m

/-- Space or tab. -/
def isBlank (c : Char) : Bool := c == ' ' || c == '\t'

/-- A line break: carriage return, line feed, next line, line or paragraph separator. -/
def isBreak (c : Char) : Bool :=
  c == '\r' || c == '\n' || c == '\u0085' || c == '\u2028' || c == '\u2029'

/-- The end of the text, read as a NUL character. -/
def isEnd (c : Char) : Bool := c == '\x00'

/-- A line break or the end of the text. -/
def isBreakOrEnd (c : Char) : Bool := isBreak c || isEnd c

/-- A blank, a line break or the end of the text. -/
def isSpaceOrEnd (c : Char) : Bool := isBlank c || isBreakOrEnd c

/-- An ASCII letter or digit, `_` or `-`. -/
def isWordChar (c : Char) : Bool :=
  ('0' ≤ c && c ≤ '9') || ('A' ≤ c && c ≤ 'Z') || ('a' ≤ c && c ≤ 'z') || c == '_' || c == '-'

/-- An ASCII digit. -/
def isDigit (c : Char) : Bool := '0' ≤ c && c ≤ '9'

/-- The value of a hexadecimal digit. -/
def hexValue? (c : Char) : Option Nat :=
  if '0' ≤ c && c ≤ '9' then some (c.toNat - '0'.toNat)
  else if 'a' ≤ c && c ≤ 'f' then some (c.toNat - 'a'.toNat + 10)
  else if 'A' ≤ c && c ≤ 'F' then some (c.toNat - 'A'.toNat + 10)
  else none

/-- Whether a code point may appear in YAML text. -/
def allowedCode (v : Nat) : Bool :=
  v == 0x09 || v == 0x0A || v == 0x0D || (0x20 ≤ v && v ≤ 0x7E) || v == 0x85 ||
    (0xA0 ≤ v && v ≤ 0xD7FF) || (0xE000 ≤ v && v ≤ 0xFFFD) || (0x10000 ≤ v && v ≤ 0x10FFFF)

/-- The length of the sequence a leading byte starts, or `none` for a byte that cannot lead. -/
def sequenceLength? (b : UInt8) : Option Nat :=
  if b &&& 0x80 == 0 then some 1
  else if b &&& 0xE0 == 0xC0 then some 2
  else if b &&& 0xF0 == 0xE0 then some 3
  else if b &&& 0xF8 == 0xF0 then some 4
  else none

/-- The bits a leading byte contributes. -/
def leadingBits (b : UInt8) (width : Nat) : Nat :=
  match width with
  | 1 => (b &&& 0x7F).toNat
  | 2 => (b &&& 0x1F).toNat
  | 3 => (b &&& 0x0F).toNat
  | _ => (b &&& 0x07).toNat

/-- Decodes the characters of a chunk of UTF-8 into `acc`: the characters and the bytes of a
last character the chunk cuts off, which are an error only at the end of the text. -/
def decodeUtf8 (atEnd : Bool) (acc : Array Char) : Bytes → Except String (Array Char × Bytes)
  | [] => .ok (acc, [])
  | b :: rest =>
    match sequenceLength? b with
    | none => .error "invalid leading UTF-8 octet"
    | some w =>
      if rest.length < w - 1 then
        if atEnd then .error "incomplete UTF-8 octet sequence" else .ok (acc, b :: rest)
      else
        let tail := rest.take (w - 1)
        match tail.find? (fun t => t &&& 0xC0 != 0x80) with
        | some _ => .error "invalid trailing UTF-8 octet"
        | none =>
          let v := tail.foldl (fun v t => v * 64 + (t &&& 0x3F).toNat) (leadingBits b w)
          if !(w == 1 || (w == 2 && v ≥ 0x80) || (w == 3 && v ≥ 0x800) ||
              (w == 4 && v ≥ 0x10000)) then
            .error "invalid length of a UTF-8 sequence"
          else if (0xD800 ≤ v && v ≤ 0xDFFF) || v > 0x10FFFF then .error "invalid Unicode character"
          else if !allowedCode v then .error "control characters are not allowed"
          else decodeUtf8 atEnd (acc.push (Char.ofNat v)) (rest.drop (w - 1))
termination_by bs => bs.length
decreasing_by simp only [List.length_drop, List.length_cons]; omega

/-- Decodes the characters of a chunk of UTF-16, in little- or big-endian byte order, with
surrogate pairs, into `acc`; a unit or pair the chunk cuts off is left over as in
`decodeUtf8`. -/
def decodeUtf16 (littleEndian atEnd : Bool) (acc : Array Char) :
    Bytes → Except String (Array Char × Bytes)
  | [] => .ok (acc, [])
  | [a] => if atEnd then .error "incomplete UTF-16 character" else .ok (acc, [a])
  | a :: b :: rest =>
    let unit := fun (x y : UInt8) =>
      if littleEndian then x.toNat + y.toNat * 256 else x.toNat * 256 + y.toNat
    let v := unit a b
    if v / 1024 == 0xDC00 / 1024 then .error "unexpected low surrogate area"
    else if v / 1024 == 0xD800 / 1024 then
      match rest with
      | c :: d :: more =>
        let w := unit c d
        if w / 1024 != 0xDC00 / 1024 then .error "expected low surrogate area"
        else
          let code := 0x10000 + (v % 1024) * 1024 + w % 1024
          if !allowedCode code then .error "control characters are not allowed"
          else decodeUtf16 littleEndian atEnd (acc.push (Char.ofNat code)) more
      | _ =>
        if atEnd then .error "incomplete UTF-16 surrogate pair" else .ok (acc, a :: b :: rest)
    else if !allowedCode v then .error "control characters are not allowed"
    else decodeUtf16 littleEndian atEnd (acc.push (Char.ofNat v)) rest

/-- How a text is encoded. -/
inductive Encoding where
  | utf8
  | utf16 (littleEndian : Bool)
  deriving DecidableEq, Repr

/-- Decodes a chunk in an encoding. -/
def Encoding.decode (enc : Encoding) (atEnd : Bool) (acc : Array Char) (b : Bytes) :
    Except String (Array Char × Bytes) :=
  match enc with
  | .utf8 => decodeUtf8 atEnd acc b
  | .utf16 le => decodeUtf16 le atEnd acc b

/-- A text as the scanner reads it: the characters of the chunks that decoded, and the error of
the chunk after them, if one failed. The scanner reports the error when it reads past the
characters. -/
structure Source where
  chars : Array Char
  failure : Option YamlError := none
  deriving Repr

/-- Decodes the chunks after the first: each takes the bytes `carry` the chunk before left over
and new bytes up to 512 in all, and the chunk that finds no new bytes ends the text. -/
def readChunks (enc : Encoding) (acc : Array Char) (carry : Bytes) : Bytes → Source
  | [] =>
    match enc.decode true acc carry with
    | .ok (cs, _) => ⟨cs, none⟩
    | .error e => ⟨acc, some (.reader e)⟩
  | b :: rest =>
    let room := 511 - carry.length
    match enc.decode false acc (carry ++ b :: rest.take room) with
    | .ok (cs, left) => readChunks enc cs left (rest.drop room)
    | .error e => ⟨acc, some (.reader e)⟩
termination_by bs => bs.length
decreasing_by simp only [List.length_drop, List.length_cons]; omega

/-- The characters of a YAML text. An empty text reads as one line break. A byte order mark at
the start of the first chunk selects UTF-16 in either byte order, or UTF-8 (the default), and is
dropped. A text of fewer than three bytes is known to end within its first chunk. -/
def readText (b : Bytes) : Source :=
  let b := if b.isEmpty then [0x0A] else b
  let first := b.take 512
  let (enc, skip) : Encoding × Nat :=
    if first.take 2 == [0xFF, 0xFE] then (.utf16 true, 2)
    else if first.take 2 == [0xFE, 0xFF] then (.utf16 false, 2)
    else if first.take 3 == [0xEF, 0xBB, 0xBF] then (.utf8, 3)
    else (.utf8, 0)
  match enc.decode (b.length < 3) #[] (first.drop skip) with
  | .ok (cs, left) => readChunks enc cs left (b.drop 512)
  | .error e => ⟨#[], some (.reader e)⟩

end Yaml
end ClusterAgent
