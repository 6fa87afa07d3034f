import ClusterAgent.Yaml.Parser
import ClusterAgent.Numeric.Binary64

/-!
# Resolving scalars

A plain scalar without a tag gets its type from its text: `true`, `False`, `~`, `null`, `.inf`,
`.NaN` and the like come from a fixed table; text that starts with a digit or a sign may be a
timestamp (`2001-12-14`, with an optional time), an integer (decimal, `0x`, `0o`, `0b` or a
leading `0` for octal, underscores ignored, 64 bits signed or unsigned) or a decimal float;
text that starts with `.` may be a float; anything else is a string. Only the first character
decides which readings are tried, so `yes` and `on` are strings.

A scalar with an explicit tag of one of these types is read the same way and must come out with
that type; an integer may stand for a float. Quoted and block scalars are strings.

Floats are kept as the binary64 value the text rounds to, round half to even, since that value
and not the text decides what an integer setting receives. Text whose value is beyond the
binary64 range is not a float at all.
-/

namespace ClusterAgent
namespace Yaml

/-! ## Tags -/

/-- The standard tags, in their short form. -/
def nullTag : String := "!!null"
def boolTag : String := "!!bool"
def strTag : String := "!!str"
def intTag : String := "!!int"
def floatTag : String := "!!float"
def timestampTag : String := "!!timestamp"
def seqTag : String := "!!seq"
def mapTag : String := "!!map"
def binaryTag : String := "!!binary"
def mergeTag : String := "!!merge"

/-- The short form of a tag: the standard prefix becomes `!!`. -/
def shortTag (tag : String) : String :=
  if tag.startsWith coreTagPrefix then "!!" ++ (tag.drop coreTagPrefix.length).toString else tag

/-- `shortTag` on a tag kept as bytes. -/
def shortTagBytes (tag : Bytes) : Bytes :=
  let core := Bytes.ofString coreTagPrefix
  if tag.take core.length == core then Bytes.ofString "!!" ++ tag.drop core.length else tag

/-- Whether the type of a tag is one that resolution can produce. -/
def resolvableTag (tag : String) : Bool :=
  [nullTag, boolTag, strTag, intTag, floatTag, timestampTag, ""].contains tag

/-! ## Numbers in text -/

/-- The value of a digit in bases up to 36. -/
def digitValue (c : Char) : Option Nat :=
  if '0' ≤ c && c ≤ '9' then some (c.toNat - '0'.toNat)
  else if 'a' ≤ c && c ≤ 'z' then some (c.toNat - 'a'.toNat + 10)
  else if 'A' ≤ c && c ≤ 'Z' then some (c.toNat - 'A'.toNat + 10)
  else none

/-- The value of digits in a base, when every one is a digit of it. -/
def digitsValue (base : Nat) (cs : List Char) : Option Nat :=
  cs.foldlM (fun n c => match digitValue c with
    | some d => if d < base then some (n * base + d) else none
    | none => none) 0

/-- An unsigned integer with its base given by its prefix: `0b`, `0o`, `0x`, or `0` for octal;
at most 2^64 - 1. -/
def parseUnsigned (cs : List Char) : Option Nat :=
  let (base, digits) : Nat × List Char :=
    match cs with
    | '0' :: c :: d :: rest =>
      if c == 'b' || c == 'B' then (2, d :: rest)
      else if c == 'o' || c == 'O' then (8, d :: rest)
      else if c == 'x' || c == 'X' then (16, d :: rest)
      else (8, c :: d :: rest)
    | '0' :: rest => (8, rest)
    | _ => (10, cs)
  if cs.isEmpty then none
  else
    match digitsValue base digits with
    | some n => if n < Nat.pow 2 64 then some n else none
    | none => none

/-- A signed integer: an optional sign, then `parseUnsigned`; within 64 bits. -/
def parseSigned (cs : List Char) : Option Int :=
  let (neg, rest) := match cs with
    | '+' :: r => (false, r)
    | '-' :: r => (true, r)
    | _ => (false, cs)
  match parseUnsigned rest with
  | some n =>
    if neg then (if n ≤ Nat.pow 2 63 then some (-(n : Int)) else none)
    else if n < Nat.pow 2 63 then some n else none
  | none => none

/-- An integer in a base, written without a prefix after an optional sign; within 64 bits. -/
def parseSignedIn (base : Nat) (cs : List Char) : Option Int :=
  let (neg, rest) := match cs with
    | '+' :: r => (false, r)
    | '-' :: r => (true, r)
    | _ => (false, cs)
  if rest.isEmpty then none
  else
    match digitsValue base rest with
    | some n =>
      if neg then (if n ≤ Nat.pow 2 63 then some (-(n : Int)) else none)
      else if n < Nat.pow 2 63 then some n else none
    | none => none

/-- A natural number in a base, written without a prefix or sign; at most 2^64 - 1. -/
def parseUnsignedIn (base : Nat) (cs : List Char) : Option Nat :=
  if cs.isEmpty then none
  else
    match digitsValue base cs with
    | some n => if n < Nat.pow 2 64 then some n else none
    | none => none

/-- Whether underscores in a number sit between digits (a base prefix counts as a digit). -/
def underscoresFit (cs : List Char) : Bool :=
  let cs := match cs with
    | '+' :: r => r
    | '-' :: r => r
    | _ => cs
  let (hex, cs, saw) := match cs with
    | '0' :: c :: r =>
      if c == 'b' || c == 'B' || c == 'o' || c == 'O' then (false, r, '0')
      else if c == 'x' || c == 'X' then (true, r, '0')
      else (false, cs, '^')
    | _ => (false, cs, '^')
  let step (saw : Option Char) (c : Char) : Option Char :=
    saw.bind fun saw =>
      if isDigit c || (hex && (digitValue c).any (· < 16)) then some '0'
      else if c == '_' then (if saw == '0' then some '_' else none)
      else if saw == '_' then none
      else some '!'
  match cs.foldl step (some saw) with
  | some saw => saw != '_'
  | none => false

/-- Reads a decimal float: an optional sign, digits with at most one point, an optional
exponent. Gives the sign, the digits as a number and the power of ten to scale them by. -/
def readDecimal (cs : List Char) : Option (Bool × Nat × Int) :=
  let (neg, cs) := match cs with
    | '+' :: r => (false, r)
    | '-' :: r => (true, r)
    | _ => (false, cs)
  let rec mant (cs : List Char) (m : Nat) (sawDot sawDigits : Bool) (scale : Int) :
      List Char × Nat × Bool × Int :=
    match cs with
    | c :: rest =>
      if c == '_' then mant rest m sawDot sawDigits scale
      else if c == '.' && !sawDot then mant rest m true sawDigits scale
      else if isDigit c then
        mant rest (m * 10 + (c.toNat - '0'.toNat)) sawDot true (if sawDot then scale - 1 else scale)
      else (cs, m, sawDigits, scale)
    | [] => ([], m, sawDigits, scale)
  let (rest, m, sawDigits, scale) := mant cs 0 false false 0
  if !sawDigits then none
  else
    match rest with
    | [] => some (neg, m, scale)
    | e :: more =>
      if e != 'e' && e != 'E' then none
      else
        let (eneg, digits) := match more with
          | '+' :: r => (false, r)
          | '-' :: r => (true, r)
          | _ => (false, more)
        match digits with
        | d :: _ =>
          if !isDigit d then none
          else if !(digits.all fun c => isDigit c || c == '_') then none
          else
            let v := (digits.filter isDigit).foldl (fun v c => v * 10 + (c.toNat - '0'.toNat)) 0
            let v : Int := if eneg then -(v : Int) else v
            some (neg, m, scale + v)
        | [] => none

/-- The binary64 value of a decimal float text; `none` when the text is not one or its value
overflows. -/
def parseFloat (s : String) : Option BinaryFloat :=
  let cs := s.toList
  if cs.contains '_' && !underscoresFit cs then none
  else
    match readDecimal cs with
    | some (neg, m, e) => BinaryFloat.ofDecimal neg m e
    | none => none

/-- Whether a text has the shape of a YAML float:
`[-+]?(\.[0-9]+|[0-9]+(\.[0-9]*)?)([eE][-+]?[0-9]+)?`. -/
def floatShaped (s : String) : Bool :=
  let cs := s.toList
  let cs := match cs with
    | '+' :: r => r
    | '-' :: r => r
    | _ => cs
  let body := cs.takeWhile (fun c => c != 'e' && c != 'E')
  let expo := cs.drop body.length
  let bodyOk := match body with
    | '.' :: frac => !frac.isEmpty && frac.all isDigit
    | _ =>
      let whole := body.takeWhile isDigit
      !whole.isEmpty && (match body.drop whole.length with
        | [] => true
        | '.' :: frac => frac.all isDigit
        | _ => false)
  let expoOk := match expo with
    | [] => true
    | _ :: r =>
      let r := match r with
        | '+' :: t => t
        | '-' :: t => t
        | _ => r
      !r.isEmpty && r.all isDigit
  bodyOk && expoOk

/-! ## Timestamps -/

/-- The pieces of a timestamp layout. -/
inductive Chunk where
  | text (s : List Char)
  | year
  | month
  | day
  | hour
  | minute
  | second
  | fraction
  | zone

/-- One or two digits. -/
def twoDigits : List Char → Option (Nat × List Char)
  | a :: b :: rest =>
    if isDigit a then
      if isDigit b then some ((a.toNat - 48) * 10 + (b.toNat - 48), rest)
      else some (a.toNat - 48, b :: rest)
    else none
  | [a] => if isDigit a then some (a.toNat - 48, []) else none
  | [] => none

/-- Drops leading spaces. -/
def dropSpaces (cs : List Char) : List Char := cs.dropWhile (· == ' ')

/-- Matches literal layout text; a space in the layout matches any run of spaces. -/
def matchText : List Char → List Char → Option (List Char)
  | [], v => some v
  | ' ' :: p, v =>
    match v with
    | c :: _ => if c != ' ' then none else matchText p (dropSpaces v)
    | [] => matchText p []
  | c :: p, v =>
    match v with
    | d :: rest => if c == d then matchText p rest else none
    | [] => none

/-- The fields a timestamp layout reads. -/
structure Stamp where
  year : Nat := 0
  month : Nat := 1
  day : Nat := 1
  ok : Bool := true

/-- Reads a text against a layout. -/
def readStamp (st : Stamp) : List Chunk → List Char → Option Stamp
  | [], [] => some st
  | [], _ :: _ => none
  | c :: cs, v =>
    match c with
    | .text t => (matchText t v).bind (readStamp st cs)
    | .year =>
      let y := v.take 4
      if y.length == 4 && y.all isDigit then
        readStamp { st with year := y.foldl (fun n d => n * 10 + (d.toNat - 48)) 0 } cs (v.drop 4)
      else none
    | .month => (twoDigits v).bind fun (m, r) =>
        readStamp { st with month := m, ok := st.ok && 1 ≤ m && m ≤ 12 } cs r
    | .day => (twoDigits v).bind fun (d, r) => readStamp { st with day := d } cs r
    | .hour => (twoDigits v).bind fun (h, r) => readStamp { st with ok := st.ok && h < 24 } cs r
    | .minute => (twoDigits v).bind fun (m, r) => readStamp { st with ok := st.ok && m < 60 } cs r
    | .second => (twoDigits v).bind fun (s, r) => readStamp { st with ok := st.ok && s < 60 } cs r
    | .fraction =>
      match v with
      | p :: d :: rest =>
        if (p == '.' || p == ',') && isDigit d then
          readStamp st cs (rest.dropWhile isDigit)
        else readStamp st cs v
      | _ => readStamp st cs v
    | .zone =>
      match v with
      | 'Z' :: rest => readStamp st cs rest
      | s :: h1 :: h2 :: ':' :: m1 :: m2 :: rest =>
        if (s == '+' || s == '-') && isDigit h1 && isDigit h2 && isDigit m1 && isDigit m2 then
          let hh := (h1.toNat - 48) * 10 + (h2.toNat - 48)
          let mm := (m1.toNat - 48) * 10 + (m2.toNat - 48)
          readStamp { st with ok := st.ok && hh ≤ 24 && mm ≤ 60 } cs rest
        else none
      | _ => none

/-- The number of days in a month of a year. -/
def daysIn (month year : Nat) : Nat :=
  if month == 2 then
    if year % 4 == 0 && (year % 100 != 0 || year % 400 == 0) then 29 else 28
  else if month == 4 || month == 6 || month == 9 || month == 11 then 30
  else 31

/-- The layouts a timestamp may follow. -/
def stampLayouts : List (List Chunk) :=
  let date := [Chunk.year, .text ['-'], .month, .text ['-'], .day]
  let time := [Chunk.hour, .text [':'], .minute, .text [':'], .second, .fraction]
  [date ++ [.text ['T']] ++ time ++ [.zone],
   date ++ [.text ['t']] ++ time ++ [.zone],
   date ++ [.text [' ']] ++ time,
   date]

/-- Whether a text is a timestamp: four digits and a dash, then one of the layouts, with every
field in range. -/
def isTimestamp (s : String) : Bool :=
  let cs := s.toList
  let lead := cs.takeWhile isDigit
  if lead.length != 4 || (cs.drop 4).head? != some '-' then false
  else stampLayouts.any fun layout =>
    match readStamp {} layout cs with
    | some st => st.ok && 1 ≤ st.day && st.day ≤ daysIn st.month st.year
    | none => false

/-! ## Resolution -/

/-- What a scalar resolves to. -/
inductive Scalar where
  | null
  | bool (b : Bool)
  /-- A value within the signed 64-bit range. -/
  | int (n : Int)
  /-- A value above the signed 64-bit range and within the unsigned one. -/
  | uint (n : Nat)
  | float (f : BinaryFloat)
  | str (s : String)
  /-- The bytes a `!!binary` scalar stands for. -/
  | bytes (b : Bytes)
  | timestamp
  deriving DecidableEq, Repr

/-- The texts with a fixed meaning. -/
def fixedScalars : List (String × String × Scalar) :=
  [("true", boolTag, .bool true), ("True", boolTag, .bool true), ("TRUE", boolTag, .bool true),
   ("false", boolTag, .bool false), ("False", boolTag, .bool false),
   ("FALSE", boolTag, .bool false),
   ("", nullTag, .null), ("~", nullTag, .null), ("null", nullTag, .null),
   ("Null", nullTag, .null), ("NULL", nullTag, .null),
   (".nan", floatTag, .float .nan), (".NaN", floatTag, .float .nan),
   (".NAN", floatTag, .float .nan),
   (".inf", floatTag, .float (.inf false)), (".Inf", floatTag, .float (.inf false)),
   (".INF", floatTag, .float (.inf false)),
   ("+.inf", floatTag, .float (.inf false)), ("+.Inf", floatTag, .float (.inf false)),
   ("+.INF", floatTag, .float (.inf false)),
   ("-.inf", floatTag, .float (.inf true)), ("-.Inf", floatTag, .float (.inf true)),
   ("-.INF", floatTag, .float (.inf true))]

/-- Which readings the first character of a text allows: `'S'` for a sign, `'D'` for a digit,
`'M'` for the fixed table only, `'.'` for a float, `' '` for none. -/
def hintOf (s : String) : Char :=
  match s.toList with
  | [] => 'N'
  | c :: _ =>
    if c == '+' || c == '-' then 'S'
    else if isDigit c then 'D'
    else if "yYnNtTfFoO~".toList.contains c then 'M'
    else if c == '.' then '.'
    else ' '

/-- The last reading of a number with a lower-case `0b` or `0o` prefix: the digits after the
prefix may carry a sign of their own (`0b-101` is -5), and a leading `-` before the prefix
applies to digits that carry none. -/
def prefixedInteger (plain : List Char) : Option Scalar :=
  let reading (base : Nat) (ds : List Char) : Option Scalar :=
    match parseSignedIn base ds with
    | some n => some (.int n)
    | none => (parseUnsignedIn base ds).map .uint
  match plain with
  | '0' :: 'b' :: ds => reading 2 ds
  | '-' :: '0' :: 'b' :: ds => (parseSignedIn 2 ('-' :: ds)).map .int
  | '0' :: 'o' :: ds => reading 8 ds
  | '-' :: '0' :: 'o' :: ds => (parseSignedIn 8 ('-' :: ds)).map .int
  | _ => none

/-- The type and value of a text read under a resolvable tag. -/
def readScalar (tag s : String) : String × Scalar :=
  let hint := hintOf s
  if hint == ' ' || tag == strTag || tag == binaryTag then (strTag, .str s)
  else
    match fixedScalars.find? (·.1 == s) with
    | some (_, t, v) => (t, v)
    | none =>
      if hint == '.' then
        match parseFloat s with
        | some f => (floatTag, .float f)
        | none => (strTag, .str s)
      else if hint == 'D' || hint == 'S' then
        if (tag == "" || tag == timestampTag) && isTimestamp s then (timestampTag, .timestamp)
        else
          let plain := String.ofList (s.toList.filter (· != '_'))
          match parseSigned plain.toList with
          | some n => (intTag, .int n)
          | none =>
            match parseUnsigned plain.toList with
            | some n => (intTag, .uint n)
            | none =>
              match (if floatShaped plain then parseFloat plain else none) with
              | some f => (floatTag, .float f)
              | none =>
                match prefixedInteger plain.toList with
                | some v => (intTag, v)
                | none => (strTag, .str s)
      else (strTag, .str s)

/-- Resolves a scalar under a tag (empty for none). A tag that resolution cannot produce keeps
the text as it is. A resolvable tag must agree with the text's type, except that an integer may
be read as a float. -/
def resolve (tag s : String) : Except String (String × Scalar) :=
  let tag := shortTag tag
  if !resolvableTag tag then .ok (tag, .str s)
  else
    let (rtag, v) := readScalar tag s
    if tag == "" || tag == rtag || tag == strTag || tag == binaryTag then .ok (rtag, v)
    else if tag == floatTag && rtag == intTag then
      match v with
      | .int n => .ok (floatTag, .float (BinaryFloat.ofInt n))
      | _ => .error ("yaml: cannot decode " ++ rtag ++ " `" ++ s ++ "` as a " ++ tag)
    else .error ("yaml: cannot decode " ++ rtag ++ " `" ++ s ++ "` as a " ++ tag)

/-- The tag a text resolves to without an explicit tag. -/
def resolvedTag (s : String) : String := (readScalar "" s).1

/-! ## Base64 -/

/-- The value of a base64 digit. -/
def base64Value (c : Char) : Option Nat :=
  if 'A' ≤ c && c ≤ 'Z' then some (c.toNat - 'A'.toNat)
  else if 'a' ≤ c && c ≤ 'z' then some (c.toNat - 'a'.toNat + 26)
  else if '0' ≤ c && c ≤ '9' then some (c.toNat - '0'.toNat + 52)
  else if c == '+' then some 62
  else if c == '/' then some 63
  else none

/-- Decodes padded base64, ignoring line breaks. -/
def base64Decode (s : String) : Option (List UInt8) :=
  let cs := s.toList.filter fun c => c != '\n' && c != '\r'
  let rec go : List Char → Option (List UInt8)
    | [] => some []
    | a :: b :: c :: d :: rest =>
      match base64Value a, base64Value b with
      | some va, some vb =>
        let n1 := UInt8.ofNat (va * 4 + vb / 16)
        if c == '=' then
          if d == '=' && rest.isEmpty then some [n1] else none
        else
          match base64Value c with
          | none => none
          | some vc =>
            let n2 := UInt8.ofNat ((vb % 16) * 16 + vc / 4)
            if d == '=' then (if rest.isEmpty then some [n1, n2] else none)
            else
              match base64Value d with
              | none => none
              | some vd =>
                let n3 := UInt8.ofNat ((vc % 4) * 64 + vd)
                (go rest).map ([n1, n2, n3] ++ ·)
      | _, _ => none
    | _ => none
  go cs

end Yaml
end ClusterAgent
