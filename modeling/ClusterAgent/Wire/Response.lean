import ClusterAgent.Text.Blank
import ClusterAgent.Text.Capitals
import ClusterAgent.Text.Numeral

/-!
# Reading a proxy's answer

A proxy answers each request with an HTTP-style response on a keep-alive stream. `Response.read`
reads one response from the front of the stream and returns the rest of it, so that responses
can be read one after another.

Lines end at a line feed; trailing carriage returns and line feeds are dropped, and a last line
without a line feed still counts. Blank lines before the status line are skipped. The status is
the numeral after the first space (and any further spaces), up to the next space; a status line
without one yields status 500, with no headers read. Headers follow up to a blank line; a line
without `:` is ignored; names and values are trimmed; names are matched in any letter case; a
later header overrides an earlier one. `Version`, `Type` and `Mess` describe an error; a
`Content-Length` must be a non-negative decimal; `Connection: close` (any case) means the stream
ends after this response; `Transfer-Encoding: chunked` (any case) selects chunked framing.

The body is chunked when so framed; else exactly `Content-Length` bytes when that is positive;
else, on a closing response, everything up to the end of the stream; else empty. Chunk sizes
are hex with optional `;` extensions; a zero size ends the body, after trailer lines up to a
blank one. No body may exceed 16 MiB.
-/

namespace ClusterAgent

/-- The largest body a response may carry: 16 MiB. -/
def maxBodySize : Nat := 16 * 1024 * 1024

/-- A decoded response. -/
structure Response where
  status : Int := 500
  version : Bytes := []
  errorType : Bytes := []
  message : Bytes := []
  close : Bool := false
  body : Bytes := []
  deriving DecidableEq, Repr

/-- Why a response could not be read. -/
inductive ReadError where
  /-- The stream ended before anything was read. -/
  | eof
  /-- The stream ended inside a body of known length. -/
  | unexpectedEof
  | bodyTooLarge
  | badContentLength (value : Bytes)
  | badChunkSize (line : Bytes)
  deriving DecidableEq, Repr

/-- The message of a read error. -/
def ReadError.message : ReadError → String
  | .eof => "EOF"
  | .unexpectedEof => "unexpected EOF"
  | .bodyTooLarge => "response body exceeds limit"
  | .badContentLength v => "invalid content-length " ++ Text.quote v
  | .badChunkSize l => "invalid chunk size " ++ Text.quote l

namespace Wire

/-- Drops trailing carriage returns and line feeds. -/
def dropLineEnd (l : Bytes) : Bytes :=
  (l.reverse.dropWhile fun b => b == 0x0D || b == 0x0A).reverse

/-- The next line and the rest of the stream; `none` when the stream is empty. -/
def takeLine (s : Bytes) : Option (Bytes × Bytes) :=
  match s with
  | [] => none
  | _ =>
    match Bytes.cut 0x0A s with
    | some (l, rest) => some (dropLineEnd l, rest)
    | none => some (dropLineEnd s, [])

theorem takeLine_lt {s l r : Bytes} (h : takeLine s = some (l, r)) : r.length < s.length := by
  cases s with
  | nil => simp [takeLine] at h
  | cons b bs =>
    simp only [takeLine] at h
    split at h
    · rename_i heq
      obtain ⟨rfl, rfl⟩ := Prod.mk.inj (Option.some.inj h)
      rw [(Bytes.cut_eq_some heq).1]
      simp only [List.length_append, List.length_cons]
      omega
    · obtain ⟨rfl, rfl⟩ := Prod.mk.inj (Option.some.inj h)
      simp

/-- Reads the status code from a status line. -/
def statusCode? (line : Bytes) : Option Int :=
  match Bytes.cut 0x20 line with
  | none => none
  | some (_, after) => Text.decimal? (Bytes.before 0x20 (after.dropWhile (· == 0x20)))

/-- Reads exactly `n` bytes. -/
def readFixed (n : Nat) (s : Bytes) : Except ReadError (Bytes × Bytes) :=
  if n > maxBodySize then .error .bodyTooLarge
  else if n = 0 then .ok ([], s)
  else if s.length ≥ n then .ok (s.take n, s.drop n)
  else if s.isEmpty then .error .eof
  else .error .unexpectedEof

/-- Reads everything up to the end of the stream. -/
def readToEnd (s : Bytes) : Except ReadError (Bytes × Bytes) :=
  if s.length > maxBodySize then .error .bodyTooLarge else .ok (s, [])

set_option linter.unusedVariables false in
/-- Skips trailer lines up to a blank one. -/
def skipTrailers (s : Bytes) : Except ReadError Bytes :=
  match h : takeLine s with
  | none => .error .eof
  | some (l, rest) => if l.isEmpty then .ok rest else skipTrailers rest
  termination_by s.length
  decreasing_by exact takeLine_lt h

/-- Whether a chunk of `size` bytes, after `read` bytes of the body, takes the body past the limit,
as the reader checks it: the sum is taken in a signed 64-bit word, where it wraps for sizes near
2^63. Such a size is then refused when its bytes are read. -/
def chunkOverLimit (read : Nat) (size : Int) : Bool :=
  decide ((Int64.ofNat read + Int64.ofInt size).toInt > maxBodySize)

set_option linter.unusedVariables false in
/-- Reads a chunked body onto `acc`. -/
def readChunks (acc s : Bytes) : Except ReadError (Bytes × Bytes) :=
  match h : takeLine s with
  | none => .error .eof
  | some (line, rest) =>
    match Text.parseInt64 16 (Bytes.trimBlank (Bytes.before 0x3B line)) with
    | .error _ => .error (.badChunkSize line)
    | .ok size =>
      if size < 0 then .error (.badChunkSize line)
      else if size = 0 then (skipTrailers rest).map fun r => (acc, r)
      else if chunkOverLimit acc.length size then .error .bodyTooLarge
      else
        match hf : readFixed size.toNat rest with
        | .error e => .error e
        | .ok (chunk, after) =>
          match hl : takeLine after with
          | none => .error .eof
          | some (_, next) => readChunks (acc ++ chunk) next
  termination_by s.length
  decreasing_by
    have h1 := takeLine_lt h
    have h2 := takeLine_lt hl
    have h3 : after.length ≤ rest.length := by
      unfold readFixed at hf
      split at hf
      · simp at hf
      · split at hf
        · obtain ⟨-, rfl⟩ := Prod.mk.inj (Except.ok.inj hf)
          exact Nat.le_refl _
        · split at hf
          · obtain ⟨-, rfl⟩ := Prod.mk.inj (Except.ok.inj hf)
            simp
          · split at hf <;> simp at hf
    omega

/-- The headers a response reader keeps. -/
structure Headers where
  response : Response := {}
  contentLength : Nat := 0
  chunked : Bool := false

/-- Applies one header line. -/
def applyHeader (hd : Headers) (line : Bytes) : Except ReadError Headers :=
  match Bytes.cut 0x3A line with
  | none => .ok hd
  | some (n, v) =>
    let name := Bytes.trimBlank n
    let value := Bytes.trimBlank v
    if name.lowerIs "version" then .ok { hd with response := { hd.response with version := value } }
    else if name.lowerIs "type" then .ok { hd with response := { hd.response with errorType := value } }
    else if name.lowerIs "mess" then .ok { hd with response := { hd.response with message := value } }
    else if name.lowerIs "content-length" then
      match Text.decimal? value with
      | some k => if k < 0 then .error (.badContentLength value) else .ok { hd with contentLength := k.toNat }
      | none => .error (.badContentLength value)
    else if name.lowerIs "connection" then
      .ok { hd with response := { hd.response with close := value.foldIs "close" } }
    else if name.lowerIs "transfer-encoding" then .ok { hd with chunked := value.foldIs "chunked" }
    else .ok hd

set_option linter.unusedVariables false in
/-- Reads header lines up to a blank one. -/
def readHeaders (hd : Headers) (s : Bytes) : Except ReadError (Headers × Bytes) :=
  match h : takeLine s with
  | none => .error .eof
  | some (line, rest) =>
    if line.isEmpty then .ok (hd, rest)
    else
      match applyHeader hd line with
      | .error e => .error e
      | .ok hd => readHeaders hd rest
  termination_by s.length
  decreasing_by exact takeLine_lt h

set_option linter.unusedVariables false in
/-- Skips blank lines and returns the first other line. -/
def firstLine (s : Bytes) : Except ReadError (Bytes × Bytes) :=
  match h : takeLine s with
  | none => .error .eof
  | some (line, rest) => if line.isEmpty then firstLine rest else .ok (line, rest)
  termination_by s.length
  decreasing_by exact takeLine_lt h

end Wire

namespace Response

open Wire in
/-- Reads one response from the front of a stream; returns it and the rest of the stream. -/
def read (s : Bytes) : Except ReadError (Response × Bytes) := do
  let (line, rest) ← firstLine s
  match statusCode? line with
  | none => pure ({}, rest)
  | some code =>
    let (hd, rest) ← readHeaders { response := { status := code } } rest
    let r := hd.response
    if hd.chunked then
      let (body, rest) ← readChunks [] rest
      pure ({ r with body := body }, rest)
    else if hd.contentLength > 0 then
      let (body, rest) ← readFixed hd.contentLength rest
      pure ({ r with body := body }, rest)
    else if r.close then
      let (body, rest) ← readToEnd rest
      pure ({ r with body := body }, rest)
    else pure (r, rest)

/-- Reads up to `n` responses one after another; stops at the first error and reports it. -/
def readMany : Nat → Bytes → List Response × Option ReadError
  | 0, _ => ([], none)
  | n + 1, s =>
    match read s with
    | .error e => ([], some e)
    | .ok (r, rest) =>
      let (more, err) := readMany n rest
      (r :: more, err)

end Response

end ClusterAgent
