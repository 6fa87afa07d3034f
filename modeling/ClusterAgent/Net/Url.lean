import ClusterAgent.Text.Quoted
import ClusterAgent.Protocol.FormEncoding
import ClusterAgent.Net.Literal

/-!
# URLs

The reader of URLs that name a backend to ping (`ajp://10.0.0.5:8009`). It splits a URL into
scheme, user information, host, path, query and fragment by the generic syntax, and checks the
parts the way a strict HTTP client does: no control bytes anywhere before the fragment, a
scheme that does not start with `:`, a port made of digits, percent escapes that are complete,
a host that escapes only non-ASCII bytes (apart from `%25` before an IPv6 zone), a bracketed
host that holds an IPv6 address, and user information drawn from the characters the syntax
allows.

Text is kept as bytes: an escape may decode to a byte that is not UTF-8 on its own.

`Url.text` writes a parsed URL back, escaping what must be escaped; it is the form quoted by
the messages about a URL that parsed but cannot be pinged.
-/

namespace ClusterAgent

/-- The part of a URL a byte stands in; each part escapes its own set of bytes. -/
inductive UrlPart where
  | host
  | zone
  | userInfo
  | path
  | fragment
  deriving DecidableEq

namespace UrlPart

/-- Whether `c` must be written as a percent escape in this part. -/
def mustEscape (part : UrlPart) (c : UInt8) : Bool :=
  if (0x61 ≤ c && c ≤ 0x7A) || (0x41 ≤ c && c ≤ 0x5A) || (0x30 ≤ c && c ≤ 0x39) then false
  else if (part == .host || part == .zone) &&
      [0x21, 0x24, 0x26, 0x27, 0x28, 0x29, 0x2A, 0x2B, 0x2C, 0x3B, 0x3D, 0x3A, 0x5B, 0x5D, 0x3C,
        0x3E, 0x22].contains c then false
  else if [0x2D, 0x5F, 0x2E, 0x7E].contains c then false
  else if [0x24, 0x26, 0x2B, 0x2C, 0x2F, 0x3A, 0x3B, 0x3D, 0x3F, 0x40].contains c then
    match part with
    | .path => c == 0x3F
    | .userInfo => c == 0x40 || c == 0x2F || c == 0x3F || c == 0x3A
    | .fragment => false
    | _ => true
  else if part == .fragment && [0x21, 0x28, 0x29, 0x2A].contains c then false
  else true

end UrlPart

/-- Why a URL was refused. -/
inductive UrlError where
  | controlCharacter
  | missingScheme
  | colonInFirstSegment
  | missingBracket
  | invalidLiteral
  | invalidHost (reason : String)
  | invalidPort (colonPort : Bytes)
  | badEscape (escape : Bytes)
  | badHostCharacter (c : Bytes)
  | badUserInfo
  deriving DecidableEq

/-- The text of a refusal. -/
def UrlError.message : UrlError → String
  | .controlCharacter => "net/url: invalid control character in URL"
  | .missingScheme => "missing protocol scheme"
  | .colonInFirstSegment => "first path segment in URL cannot contain colon"
  | .missingBracket => "missing ']' in host"
  | .invalidLiteral => "invalid IP-literal"
  | .invalidHost r => "invalid host: " ++ r
  | .invalidPort p => "invalid port " ++ Text.quote p ++ " after host"
  | .badEscape s => "invalid URL escape " ++ Text.quote s
  | .badHostCharacter s => "invalid character " ++ Text.quote s ++ " in host name"
  | .badUserInfo => "net/url: invalid userinfo"

/-- A refused URL, with the text that was being read (the URL without its fragment, unless the
fragment itself was at fault). -/
structure UrlParseError where
  url : Bytes
  cause : UrlError
  deriving DecidableEq

/-- The text of a refused URL. -/
def UrlParseError.message (e : UrlParseError) : String :=
  "parse " ++ Text.quote e.url ++ ": " ++ e.cause.message

/-- The user information of a URL: a name and, when a `:` was given, a password. -/
structure UserInfo where
  name : Bytes
  password : Option Bytes
  deriving DecidableEq

/-- A parsed URL. `rawPath` and `rawFragment` keep the text as written when it differs from the
default escaping of the decoded part, and are empty otherwise. -/
structure Url where
  scheme : Bytes := []
  rootless : Bytes := []
  user : Option UserInfo := none
  host : Bytes := []
  path : Bytes := []
  rawPath : Bytes := []
  omitHost : Bool := false
  forceQuery : Bool := false
  rawQuery : Bytes := []
  fragment : Bytes := []
  rawFragment : Bytes := []
  deriving DecidableEq

namespace Url

/-- The value of a hexadecimal digit. -/
def hexValue? (c : UInt8) : Option Nat :=
  if 0x30 ≤ c && c ≤ 0x39 then some (c.toNat - 0x30)
  else if 0x61 ≤ c && c ≤ 0x66 then some (c.toNat - 0x61 + 10)
  else if 0x41 ≤ c && c ≤ 0x46 then some (c.toNat - 0x41 + 10)
  else none

/-- Checks the escapes of a part: each `%` is followed by two hexadecimal digits, a host escapes
only non-ASCII bytes (or `%25`), a zone escapes only bytes it could hold as they are (or a space),
and a host or zone holds no ASCII byte that must be escaped. -/
def checkEscapes (part : UrlPart) : Bytes → Except UrlError Unit
  | [] => .ok ()
  | 0x25 :: rest =>
    match rest with
    | a :: b :: more =>
      match hexValue? a, hexValue? b with
      | some x, some y =>
        let pct := a == 0x32 && b == 0x35
        if part == .host && x < 8 && !pct then .error (.badEscape [0x25, a, b])
        else if part == .zone && !pct && (x * 16 + y) != 0x20 &&
            UrlPart.mustEscape .host (UInt8.ofNat (x * 16 + y)) then
          .error (.badEscape [0x25, a, b])
        else checkEscapes part more
      | _, _ => .error (.badEscape (0x25 :: rest.take 2))
    | _ => .error (.badEscape (0x25 :: rest.take 2))
  | c :: rest =>
    if (part == .host || part == .zone) && c < 0x80 && part.mustEscape c then
      .error (.badHostCharacter [c])
    else checkEscapes part rest

/-- Replaces each escape by the byte it stands for. -/
def decode : Bytes → Bytes
  | c :: a :: b :: more =>
    if c == 0x25 then
      match hexValue? a, hexValue? b with
      | some x, some y => UInt8.ofNat (x * 16 + y) :: decode more
      | _, _ => c :: decode (a :: b :: more)
    else c :: decode (a :: b :: more)
  | s => s
termination_by s => s.length

/-- Decodes a part after checking it. -/
def unescape (part : UrlPart) (s : Bytes) : Except UrlError Bytes :=
  (checkEscapes part s).map fun _ => decode s

/-- Escapes the bytes a part may not hold, as `%XX` with upper-case digits. -/
def escape (part : UrlPart) (s : Bytes) : Bytes :=
  s.flatMap fun c =>
    if part.mustEscape c then
      [0x25, FormEncoding.hexByte (c.toNat / 16), FormEncoding.hexByte (c.toNat % 16)]
    else [c]

/-- Whether written text is a fair escaping of a part: sub-delimiters, `:`, `@`, brackets and
escapes may stand as they are. -/
def fairlyEscaped (part : UrlPart) (s : Bytes) : Bool :=
  s.all fun c =>
    [0x21, 0x24, 0x26, 0x27, 0x28, 0x29, 0x2A, 0x2B, 0x2C, 0x3B, 0x3D, 0x3A, 0x40, 0x5B, 0x5D,
      0x25].contains c || !part.mustEscape c

/-- The position of the first occurrence of a byte. -/
def firstIndex? (c : UInt8) (s : Bytes) : Option Nat := s.findIdx? (· == c)

/-- The position of the last occurrence of a byte. -/
def lastIndex? (c : UInt8) (s : Bytes) : Option Nat :=
  (s.reverse.findIdx? (· == c)).map fun i => s.length - 1 - i

/-- The position of the first occurrence of `%25`. -/
def zoneStart? : Bytes → Option Nat
  | 0x25 :: 0x32 :: 0x35 :: _ => some 0
  | _ :: rest => (zoneStart? rest).map (· + 1)
  | [] => none

/-- A port suffix: empty, or `:` followed by digits only. -/
def validPortSuffix : Bytes → Bool
  | [] => true
  | 0x3A :: digits => digits.all fun b => 0x30 ≤ b && b ≤ 0x39
  | _ => false

/-- Splits off a scheme: letters, then letters, digits, `+`, `-` or `.`, up to the first `:`.
Text that does not start that way has no scheme; a leading `:` is refused. -/
def splitScheme (s : Bytes) : Except UrlError (Bytes × Bytes) :=
  let rec go (seen : Bytes) : Bytes → Except UrlError (Bytes × Bytes)
    | [] => .ok ([], s)
    | c :: rest =>
      if (0x61 ≤ c && c ≤ 0x7A) || (0x41 ≤ c && c ≤ 0x5A) then go (seen ++ [c]) rest
      else if (0x30 ≤ c && c ≤ 0x39) || c == 0x2B || c == 0x2D || c == 0x2E then
        if seen.isEmpty then .ok ([], s) else go (seen ++ [c]) rest
      else if c == 0x3A then
        if seen.isEmpty then .error .missingScheme else .ok (seen, rest)
      else .ok ([], s)
  go [] s

/-- Reads a host with its optional port. A host with a `[` is an IP literal in brackets, the `[`
first and no other after it: between the brackets an IPv6 address (an IPv4 address in IPv6 form
included, a plain IPv4 address not), with an optional zone after `%25`; after them an optional
port. Any other host is a name, whose last `:` starts a port. -/
def parseHost (host : Bytes) : Except UrlError Bytes :=
  match lastIndex? 0x5B host with
  | some opening =>
    if opening > 0 then .error .invalidLiteral
    else
      match lastIndex? 0x5D host with
      | none => .error .missingBracket
      | some closing => do
        let colonPort := host.drop (closing + 1)
        if !validPortSuffix colonPort then throw (.invalidPort colonPort)
        let port ← unescape .host colonPort
        let inner := (host.take closing).drop 1
        let name ← match zoneStart? inner with
          | some z => do
            let address ← unescape .host (inner.take z)
            let zone ← unescape .zone (inner.drop z)
            pure (address ++ zone)
          | none => unescape .host inner
        match readAddrLiteral name with
        | .error e => throw (.invalidHost e.message)
        | .ok l =>
          if l.family == .v4 then throw .invalidLiteral
          else pure ([0x5B] ++ name ++ [0x5D] ++ port)
  | none =>
    match lastIndex? 0x3A host with
    | some i =>
      let colonPort := host.drop i
      if !validPortSuffix colonPort then .error (.invalidPort colonPort) else unescape .host host
    | none => unescape .host host

/-- Whether user information uses only the characters the syntax allows. -/
def validUserInfo (s : Bytes) : Bool :=
  s.all fun c =>
    (0x61 ≤ c && c ≤ 0x7A) || (0x41 ≤ c && c ≤ 0x5A) || (0x30 ≤ c && c ≤ 0x39) ||
      [0x2D, 0x2E, 0x5F, 0x3A, 0x7E, 0x21, 0x24, 0x26, 0x27, 0x28, 0x29, 0x2A, 0x2B, 0x2C, 0x3B,
        0x3D, 0x25, 0x40].contains c

/-- Reads the authority: user information up to the last `@`, then the host. The host is
checked first. -/
def parseAuthority (auth : Bytes) : Except UrlError (Option UserInfo × Bytes) :=
  match lastIndex? 0x40 auth with
  | none => (parseHost auth).map fun h => (none, h)
  | some i => do
    let host ← parseHost (auth.drop (i + 1))
    let info := auth.take i
    if !validUserInfo info then throw .badUserInfo
    match Bytes.cut 0x3A info with
    | none =>
      let name ← unescape .userInfo info
      pure (some ⟨name, none⟩, host)
    | some (n, p) =>
      let name ← unescape .userInfo n
      let password ← unescape .userInfo p
      pure (some ⟨name, some password⟩, host)

/-- Sets the path from its written form. -/
def withPath (u : Url) (p : Bytes) : Except UrlError Url :=
  (unescape .path p).map fun path =>
    { u with path, rawPath := if escape .path path == p then [] else p }

/-- Reads a URL without its fragment. -/
def parseBody (s : Bytes) : Except UrlError Url := do
  if s.any fun c => c < 0x20 || c == 0x7F then throw .controlCharacter
  if s == [0x2A] then return { path := [0x2A] }
  let (scheme, rest) ← splitScheme s
  let scheme := scheme.map fun c => if 0x41 ≤ c && c ≤ 0x5A then c + 0x20 else c
  let questions := rest.countP (· == 0x3F)
  let (rest, forceQuery, rawQuery) :=
    if rest.getLast? == some 0x3F && questions == 1 then (rest.dropLast, true, [])
    else
      match Bytes.cut 0x3F rest with
      | some (a, q) => (a, false, q)
      | none => (rest, false, [])
  let u : Url := { scheme, forceQuery, rawQuery }
  let slash := rest.head? == some 0x2F
  if !slash then
    if !scheme.isEmpty then return { u with rootless := rest }
    if (Bytes.before 0x2F rest).contains 0x3A then throw .colonInFirstSegment
  let twoSlashes := rest.take 2 == [0x2F, 0x2F]
  if (!scheme.isEmpty || rest.take 3 != [0x2F, 0x2F, 0x2F]) && twoSlashes then
    let auth := rest.drop 2
    let (auth, path) :=
      match firstIndex? 0x2F auth with
      | some i => (auth.take i, auth.drop i)
      | none => (auth, [])
    let (user, host) ← parseAuthority auth
    withPath { u with user, host } path
  else
    withPath { u with omitHost := !scheme.isEmpty && slash } rest

/-- Reads a URL. -/
def parse (raw : Bytes) : Except UrlParseError Url :=
  let (body, frag) :=
    match Bytes.cut 0x23 raw with
    | some (b, f) => (b, f)
    | none => (raw, [])
  match parseBody body with
  | .error e => .error ⟨body, e⟩
  | .ok u =>
    if frag.isEmpty then .ok u
    else
      match unescape .fragment frag with
      | .error e => .error ⟨raw, e⟩
      | .ok f =>
        .ok { u with fragment := f, rawFragment := if escape .fragment f == frag then [] else frag }

/-- Splits a host into name and port at its last `:` when digits (or nothing) follow it, and
takes the brackets off an IP literal. -/
def splitHost (host : Bytes) : Bytes × Bytes :=
  let (name, port) :=
    match lastIndex? 0x3A host with
    | some i => if validPortSuffix (host.drop i) then (host.take i, host.drop (i + 1)) else (host, [])
    | none => (host, [])
  if name.head? == some 0x5B && name.getLast? == some 0x5D then (name.drop 1 |>.dropLast, port)
  else (name, port)

/-- The host name, without port or brackets. -/
def hostname (u : Url) : Bytes := (splitHost u.host).1

/-- The port, as written; empty when none was given. -/
def port (u : Url) : Bytes := (splitHost u.host).2

/-- The path as it is written back: the text as given when it is a fair escaping of the path,
otherwise the default escaping. -/
def shownPath (u : Url) : Bytes :=
  if !u.rawPath.isEmpty && fairlyEscaped .path u.rawPath && decode u.rawPath == u.path then u.rawPath
  else escape .path u.path

/-- The fragment as it is written back, by the same rule as the path. -/
def shownFragment (u : Url) : Bytes :=
  if !u.rawFragment.isEmpty && fairlyEscaped .fragment u.rawFragment &&
      decode u.rawFragment == u.fragment then u.rawFragment
  else escape .fragment u.fragment

/-- The written user information. -/
def userText (i : UserInfo) : Bytes :=
  escape .userInfo i.name ++
    match i.password with
    | some p => 0x3A :: escape .userInfo p
    | none => []

/-- Writes a URL back. -/
def text (u : Url) : Bytes :=
  let head := if u.scheme.isEmpty then [] else u.scheme ++ [0x3A]
  let body :=
    if !u.rootless.isEmpty then u.rootless
    else
      let auth :=
        if !u.scheme.isEmpty || !u.host.isEmpty || u.user.isSome then
          if u.omitHost && u.host.isEmpty && u.user.isNone then []
          else
            (if !u.host.isEmpty || !u.path.isEmpty || u.user.isSome then [0x2F, 0x2F] else []) ++
            (match u.user with
              | some i => userText i ++ [0x40]
              | none => []) ++
            escape .host u.host
        else []
      let path := u.shownPath
      let sep := if !path.isEmpty && path.head? != some 0x2F && !u.host.isEmpty then [0x2F] else []
      let dot :=
        if (head ++ auth ++ sep).isEmpty && (Bytes.before 0x2F path).contains 0x3A then [0x2E, 0x2F]
        else []
      auth ++ sep ++ dot ++ path
  let query := if u.forceQuery || !u.rawQuery.isEmpty then 0x3F :: u.rawQuery else []
  let frag := if u.fragment.isEmpty then [] else 0x23 :: u.shownFragment
  head ++ body ++ query ++ frag

end Url

end ClusterAgent
