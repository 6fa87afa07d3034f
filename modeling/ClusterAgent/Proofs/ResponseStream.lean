import ClusterAgent.Proofs.AsciiText
import ClusterAgent.Wire.Response
import Mathlib.Data.List.TakeWhile

/-!
# Reading a stream of written responses

A proxy can write the same response in many ways: blank lines before it, any text around the
status code, headers in any order and letter case, repeated headers of which the last counts,
and a body framed by chunks (split anyhow, with extensions and trailers), by a length, or by the
end of the stream. `Rendering` records those choices, `Rendering.bytes` writes a response with
them, and `Rendering.Writes` says that they describe the response.

Main statement: on a stream of such written responses, in which only the last may close the
connection, reading one response after another gives back every response in order and then the
end of the stream (`Response.readMany_written`). Each read stops exactly where its response ends
(`Response.read_written`), which is what keeps a keep-alive connection in step.

The reader parses every `Content-Length` it meets as a signed 64-bit number, also one that a
later header overrides; a response carrying a length of 2^63 or more is refused
(`Response.read_refuses_overridden_huge_length`), so `HeaderLine.WellFormed` bounds every length.
-/

namespace ClusterAgent

namespace Bytes

theorem cut_append_of_not_mem {sep : UInt8} {a : Bytes} (ha : sep ∉ a) (b : Bytes) :
    cut sep (a ++ b) = (cut sep b).map fun p => (a ++ p.1, p.2) := by
  induction a with
  | nil => simp
  | cons x xs ih =>
    have hx : (x == sep) = false := by
      simp only [beq_eq_false_iff_ne]
      exact fun e => ha (by simp [e])
    rw [List.cons_append, cut, hx, if_neg Bool.false_ne_true, ih fun h => ha (by simp [h])]
    cases cut sep b <;> rfl

theorem cut_cons_self (sep : UInt8) (b : Bytes) : cut sep (sep :: b) = some ([], b) := by
  simp [cut]

theorem cut_of_not_mem {sep : UInt8} {a : Bytes} (ha : sep ∉ a) : cut sep a = none := by
  simpa [cut] using cut_append_of_not_mem ha []

theorem before_append_tagged {sep : UInt8} {a : Bytes} (ha : sep ∉ a) (t : Option Bytes) :
    before sep (a ++ t.elim [] (sep :: ·)) = a := by
  cases t with
  | none => simp [before, cut_of_not_mem ha]
  | some t => simp [before, cut_append_of_not_mem ha, cut_cons_self]

end Bytes

namespace Wire

/-- The end of a written line. -/
def crlf : Bytes := [0x0D, 0x0A]

/-- Bytes that stay on one line: no carriage return and no line feed. -/
def OneLine (b : Bytes) : Prop := ∀ x ∈ b, x ≠ 0x0D ∧ x ≠ 0x0A

instance : DecidablePred OneLine := fun b => inferInstanceAs (Decidable (∀ x ∈ b, x ≠ 0x0D ∧ x ≠ 0x0A))

/-- A header value as the reader keeps it: on one line, with no white space at either end. -/
def FieldValue (v : Bytes) : Prop := OneLine v ∧ v.trimBlank = v

instance : DecidablePred FieldValue := fun v => inferInstanceAs (Decidable (OneLine v ∧ v.trimBlank = v))

/-- An optional part after a separator byte: nothing, or the separator and the part. -/
def tagged (sep : UInt8) (t : Option Bytes) : Bytes := t.elim [] (sep :: ·)

/-- A header line, `name: value`. -/
structure HeaderLine where
  name : Bytes
  value : Bytes
  deriving DecidableEq, Repr

namespace HeaderLine

/-- The line without its end. -/
def text (h : HeaderLine) : Bytes := h.name ++ 0x3A :: 0x20 :: h.value

/-- The line as written. -/
def bytes (h : HeaderLine) : Bytes := h.text ++ crlf

/-- Whether the line's name is the word `w` in some letter case. -/
def names (h : HeaderLine) (w : String) : Bool := h.name.spells w

/-- The value of the last line named `w`: a later line overrides an earlier one. -/
def last (w : String) : List HeaderLine → Option Bytes
  | [] => none
  | h :: hs => (last w hs).or (if h.names w then some h.value else none)

/-- A byte of a header name: a visible ASCII character other than `:`. -/
def NameByte (x : UInt8) : Prop := 0x21 ≤ x.toNat ∧ x.toNat ≤ 0x7E ∧ x ≠ 0x3A

instance : DecidablePred NameByte := fun x =>
  inferInstanceAs (Decidable (0x21 ≤ x.toNat ∧ x.toNat ≤ 0x7E ∧ x ≠ 0x3A))

/-- A header line the format allows. A `Content-Length` is a decimal below 2^63, also when a
later line overrides it; a `Connection` or `Transfer-Encoding` value is ASCII with no white space
at either end. -/
structure WellFormed (h : HeaderLine) : Prop where
  name_ne_nil : h.name ≠ []
  name : ∀ x ∈ h.name, NameByte x
  value : OneLine h.value
  length : h.names "content-length" → ∃ n < 2 ^ 63, h.value.Numeral 10 n
  token : h.names "connection" ∨ h.names "transfer-encoding" → h.value.Ascii ∧ FieldValue h.value

/-- Whether the last `Transfer-Encoding` asks for chunks. -/
def chunked (hs : List HeaderLine) : Bool :=
  ((last "transfer-encoding" hs).map (·.spells "chunked")).getD false

/-- Whether the last `Connection` closes the stream. -/
def closes (hs : List HeaderLine) : Bool :=
  ((last "connection" hs).map (·.spells "close")).getD false

/-- The body length the last `Content-Length` gives, or 0. -/
def contentLength (hs : List HeaderLine) : Nat :=
  ((last "content-length" hs).map fun v => (v.digitsFrom 10 0).getD 0).getD 0

end HeaderLine

/-- A chunk of a chunked body: its size in hex, an optional extension, and its bytes. -/
structure Chunk where
  size : Bytes
  ext : Option Bytes
  data : Bytes
  deriving DecidableEq, Repr

/-- The chunk as written: size line, then the bytes on a line of their own. -/
def Chunk.bytes (c : Chunk) : Bytes := c.size ++ tagged 0x3B c.ext ++ crlf ++ c.data ++ crlf

/-- A chunk the format allows: not empty, its size in hex digits of either case. -/
structure Chunk.WellFormed (c : Chunk) : Prop where
  data_ne_nil : c.data ≠ []
  size : c.size.Numeral 16 c.data.length
  ext : ∀ e ∈ c.ext, OneLine e

/-- How the body is written. -/
inductive Framing where
  /-- Chunks, then a chunk of size zero with its extension, then trailer lines and a blank line. -/
  | chunked (chunks : List Chunk) (lastSize : Bytes) (lastExt : Option Bytes)
      (trailers : List HeaderLine)
  /-- The body as it is: as long as `Content-Length` says, up to the end of a closing stream, or
  nothing. -/
  | plain
  deriving DecidableEq, Repr

/-- The body as written. -/
def Framing.bytes (body : Bytes) : Framing → Bytes
  | .chunked cs z e ts =>
    cs.flatMap Chunk.bytes ++ z ++ tagged 0x3B e ++ crlf ++ ts.flatMap HeaderLine.bytes ++ crlf
  | .plain => body

/-- What the format leaves open when a response is written. -/
structure Rendering where
  blankLines : Nat
  /-- The text of the status line before the code. -/
  protocol : Bytes
  /-- Spaces after the first one, before the code. -/
  gap : Nat
  /-- The status code as written. -/
  code : Bytes
  /-- The text after the code and a space. -/
  reason : Option Bytes
  headers : List HeaderLine
  framing : Framing
  deriving DecidableEq, Repr

namespace Rendering

/-- The status line without its end. -/
def statusLine (x : Rendering) : Bytes :=
  x.protocol ++ 0x20 :: (List.replicate x.gap 0x20 ++ x.code ++ tagged 0x20 x.reason)

/-- A response as written with the choices of `x`. -/
def bytes (x : Rendering) (r : Response) : Bytes :=
  (List.replicate x.blankLines crlf).flatten ++ x.statusLine ++ crlf ++
    x.headers.flatMap HeaderLine.bytes ++ crlf ++ x.framing.bytes r.body

/-- Whether a framing is the one the headers choose and carries the body of `r`. -/
def Frames (hs : List HeaderLine) (r : Response) : Framing → Prop
  | .chunked cs z e ts =>
    HeaderLine.chunked hs = true ∧ (∀ c ∈ cs, c.WellFormed) ∧ cs.flatMap Chunk.data = r.body ∧
      z.Numeral 16 0 ∧ (∀ t ∈ e, OneLine t) ∧ ∀ t ∈ ts, t.WellFormed
  | .plain =>
    HeaderLine.chunked hs = false ∧
      (0 < HeaderLine.contentLength hs → r.body.length = HeaderLine.contentLength hs) ∧
      (HeaderLine.contentLength hs = 0 → r.close = true ∨ r.body = [])

/-- The choices of `x` write the response `r`. -/
structure Writes (x : Rendering) (r : Response) : Prop where
  protocol : ∀ b ∈ x.protocol, b ≠ 0x20 ∧ b ≠ 0x0D ∧ b ≠ 0x0A
  code : x.code.Decimal r.status
  reason : ∀ t ∈ x.reason, OneLine t
  headers : ∀ h ∈ x.headers, h.WellFormed
  version : (HeaderLine.last "version" x.headers).getD [] = r.version
  errorType : (HeaderLine.last "type" x.headers).getD [] = r.errorType
  message : (HeaderLine.last "mess" x.headers).getD [] = r.message
  close : HeaderLine.closes x.headers = r.close
  body : Frames x.headers r x.framing

end Rendering

end Wire

open Wire

/-- A response the format can carry: a 64-bit status, header fields as the reader keeps them,
and a body of at most 16 MiB. -/
structure Response.Writable (r : Response) : Prop where
  status_lo : -2 ^ 63 ≤ r.status
  status_hi : r.status < 2 ^ 63
  version : FieldValue r.version
  errorType : FieldValue r.errorType
  message : FieldValue r.message
  body : r.body.length ≤ maxBodySize

namespace Wire

/-! ### Lines -/

theorem dropLineEnd_line {l : Bytes} (hl : OneLine l) : dropLineEnd (l ++ [0x0D]) = l := by
  have hkeep : l.reverse.dropWhile (fun b => b == 0x0D || b == 0x0A) = l.reverse := by
    apply List.dropWhile_eq_self_iff.mpr
    intro hpos
    have := hl _ (List.mem_reverse.mp (List.getElem_mem hpos))
    simp only [Bool.or_eq_true, beq_iff_eq, not_or]
    exact this
  simp [dropLineEnd, hkeep]

/-- A line written on its own comes back whole, and reading stops right after its end. -/
theorem takeLine_line {l : Bytes} (hl : OneLine l) (rest : Bytes) :
    takeLine (l ++ crlf ++ rest) = some (l, rest) := by
  have hcut : Bytes.cut 0x0A (l ++ crlf ++ rest) = some (l ++ [0x0D], rest) := by
    rw [List.append_assoc, Bytes.cut_append_of_not_mem (fun h => (hl _ h).2 rfl)]
    simp [crlf, Bytes.cut]
  unfold takeLine
  split
  · simp_all [crlf]
  · rw [hcut]
    simp [dropLineEnd_line hl]

theorem takeLine_crlf (rest : Bytes) : takeLine (crlf ++ rest) = some ([], rest) :=
  takeLine_line (l := []) (by simp [OneLine]) rest

theorem firstLine_eq {s l r : Bytes} (h : takeLine s = some (l, r)) :
    firstLine s = if l.isEmpty then firstLine r else .ok (l, r) := by
  rw [firstLine]
  split
  · simp_all
  · rename_i l' r' h'
    rw [h] at h'
    obtain ⟨rfl, rfl⟩ := Prod.mk.inj (Option.some.inj h')
    rfl

theorem readHeaders_eq {hd : Headers} {s l r : Bytes} (h : takeLine s = some (l, r)) :
    readHeaders hd s =
      if l.isEmpty then .ok (hd, r) else (applyHeader hd l).bind (readHeaders · r) := by
  rw [readHeaders]
  split
  · simp_all
  · rename_i l' r' h'
    rw [h] at h'
    obtain ⟨rfl, rfl⟩ := Prod.mk.inj (Option.some.inj h')
    split
    · rfl
    · cases applyHeader hd l <;> rfl

theorem skipTrailers_eq {s l r : Bytes} (h : takeLine s = some (l, r)) :
    skipTrailers s = if l.isEmpty then .ok r else skipTrailers r := by
  rw [skipTrailers]
  split
  · simp_all
  · rename_i l' r' h'
    rw [h] at h'
    obtain ⟨rfl, rfl⟩ := Prod.mk.inj (Option.some.inj h')
    rfl

theorem firstLine_blanks {l : Bytes} (hl : OneLine l) (hne : l ≠ []) (k : Nat) (rest : Bytes) :
    firstLine ((List.replicate k crlf).flatten ++ l ++ crlf ++ rest) = .ok (l, rest) := by
  induction k with
  | zero =>
    rw [List.replicate_zero, List.flatten_nil, List.nil_append, firstLine_eq (takeLine_line hl rest)]
    simp [hne]
  | succ k ih =>
    simp only [List.replicate_succ, List.flatten_cons, List.append_assoc] at ih ⊢
    rw [firstLine_eq (takeLine_crlf _)]
    simpa using ih

/-! ### Header lines -/

namespace HeaderLine

variable {h : HeaderLine}

theorem ascii_name (hw : h.WellFormed) : h.name.Ascii := fun x hx => by
  have := hw.name x hx
  unfold NameByte at this
  omega

theorem oneLine_text (hw : h.WellFormed) : OneLine h.text := by
  intro x hx
  simp only [text, List.mem_append, List.mem_cons] at hx
  rcases hx with hx | rfl | rfl | hx
  · have := hw.name x hx
    unfold NameByte at this
    constructor <;> intro e <;> subst e <;> simp at this
  · decide
  · decide
  · exact hw.value x hx

theorem names_eq_of_names {w : String} (hw : h.names w = true) (w' : String) :
    h.names w' = (w.toList == w'.toList) := by
  simp only [names, Bytes.spells, beq_iff_eq] at hw ⊢
  rw [hw]

theorem last_singleton (w : String) : last w [h] = if h.names w then some h.value else none := by
  simp [last]

end HeaderLine

/-- The headers after reading the lines `hs` onto `hd`: each field comes from the last line that
names it, and the other fields stay. -/
def Headers.after (hs : List HeaderLine) (hd : Headers) : Headers where
  response := { hd.response with
    version := ((HeaderLine.last "version" hs).map Bytes.trimBlank).getD hd.response.version
    errorType := ((HeaderLine.last "type" hs).map Bytes.trimBlank).getD hd.response.errorType
    message := ((HeaderLine.last "mess" hs).map Bytes.trimBlank).getD hd.response.message
    close := ((HeaderLine.last "connection" hs).map (·.spells "close")).getD hd.response.close }
  contentLength :=
    ((HeaderLine.last "content-length" hs).map fun v => (v.digitsFrom 10 0).getD 0).getD
      hd.contentLength
  chunked := ((HeaderLine.last "transfer-encoding" hs).map (·.spells "chunked")).getD hd.chunked

theorem getD_map_or {α β : Type} (a b : Option α) (f : α → β) (d : β) :
    ((a.or b).map f).getD d = (a.map f).getD ((b.map f).getD d) := by
  cases a <;> rfl

theorem Headers.after_cons (h : HeaderLine) (hs : List HeaderLine) (hd : Headers) :
    Headers.after (h :: hs) hd = Headers.after hs (Headers.after [h] hd) := by
  simp only [Headers.after, HeaderLine.last, getD_map_or, Option.none_or]

theorem applyHeader_text {h : HeaderLine} (hw : h.WellFormed) (hd : Headers) :
    applyHeader hd h.text = .ok (Headers.after [h] hd) := by
  have hcut : Bytes.cut 0x3A h.text = some (h.name, 0x20 :: h.value) := by
    rw [HeaderLine.text, Bytes.cut_append_of_not_mem (fun hm => (hw.name _ hm).2.2 rfl),
      Bytes.cut_cons_self]
    simp
  have hname : h.name.trimBlank = h.name :=
    Bytes.trimBlank_visible fun x hx => ⟨(hw.name x hx).1, (hw.name x hx).2.1⟩
  have hlower : ∀ w, h.name.lowerIs w = h.names w := fun w => Bytes.lowerIs_ascii
    (HeaderLine.ascii_name hw) w
  simp only [applyHeader, hcut, hname, Bytes.trimBlank_space_cons, hlower]
  simp only [Headers.after, HeaderLine.last_singleton]
  by_cases hv : h.names "version"
  · simp [HeaderLine.names_eq_of_names hv]
  by_cases ht : h.names "type"
  · simp [HeaderLine.names_eq_of_names ht]
  by_cases hm : h.names "mess"
  · simp [HeaderLine.names_eq_of_names hm]
  by_cases hl : h.names "content-length"
  · obtain ⟨n, hn, hnum⟩ := hw.length hl
    simp [HeaderLine.names_eq_of_names hl, hnum.trimBlank, Text.decimal?_numeral hnum hn,
      hnum.2]
  by_cases hc : h.names "connection"
  · obtain ⟨hascii, -, htrim⟩ := hw.token (Or.inl hc)
    simp [HeaderLine.names_eq_of_names hc, htrim,
      Bytes.foldIs_lower (w := "close") hascii (by decide)]
  by_cases ht' : h.names "transfer-encoding"
  · obtain ⟨hascii, -, htrim⟩ := hw.token (Or.inr ht')
    simp [HeaderLine.names_eq_of_names ht', htrim,
      Bytes.foldIs_lower (w := "chunked") hascii (by decide)]
  simp only [hv, ht, hm, hl, hc, ht', Bool.false_eq_true, if_false, Option.map_none,
    Option.getD_none]

/-- Written header lines read as the headers their last lines give, up to the blank line. -/
theorem readHeaders_written {hs : List HeaderLine} (hw : ∀ h ∈ hs, h.WellFormed) (hd : Headers)
    (rest : Bytes) :
    readHeaders hd (hs.flatMap HeaderLine.bytes ++ crlf ++ rest) = .ok (Headers.after hs hd, rest) := by
  induction hs generalizing hd with
  | nil =>
    rw [List.flatMap_nil, List.nil_append, readHeaders_eq (takeLine_crlf rest)]
    rfl
  | cons h hs ih =>
    have hh := hw h (by simp)
    have htext : h.text ≠ [] := by simp [HeaderLine.text]
    have hline := takeLine_line (HeaderLine.oneLine_text hh) (hs.flatMap HeaderLine.bytes ++ crlf ++ rest)
    simp only [List.flatMap_cons, HeaderLine.bytes, List.append_assoc] at hline ih ⊢
    rw [readHeaders_eq hline]
    simp only [List.isEmpty_iff, htext, if_false, applyHeader_text hh, Except.bind]
    rw [ih (fun t ht => hw t (by simp [ht])), Headers.after_cons h hs]

theorem skipTrailers_written {ts : List HeaderLine} (hw : ∀ t ∈ ts, t.WellFormed) (rest : Bytes) :
    skipTrailers (ts.flatMap HeaderLine.bytes ++ crlf ++ rest) = .ok rest := by
  induction ts with
  | nil =>
    rw [List.flatMap_nil, List.nil_append, skipTrailers_eq (takeLine_crlf rest)]
    rfl
  | cons t ts ih =>
    have ht := hw t (by simp)
    have htext : t.text ≠ [] := by simp [HeaderLine.text]
    have hline := takeLine_line (HeaderLine.oneLine_text ht) (ts.flatMap HeaderLine.bytes ++ crlf ++ rest)
    simp only [List.flatMap_cons, HeaderLine.bytes, List.append_assoc] at hline ih ⊢
    rw [skipTrailers_eq hline]
    simp only [List.isEmpty_iff, htext, if_false]
    rw [ih (fun t' ht' => hw t' (by simp [ht']))]

/-! ### Bodies -/

theorem readFixed_exact {body : Bytes} (hsize : body.length ≤ maxBodySize) (rest : Bytes) :
    readFixed body.length (body ++ rest) = .ok (body, rest) := by
  unfold readFixed
  rw [if_neg (by omega)]
  split
  · rename_i h0
    simp [List.length_eq_zero_iff.mp h0]
  · simp

theorem readToEnd_short {body : Bytes} (hsize : body.length ≤ maxBodySize) :
    readToEnd body = .ok (body, []) := by
  simp [readToEnd, hsize]

/-- Away from the 64-bit wrap, the reader's chunk check is the plain comparison. -/
theorem chunkOverLimit_eq_decide {read : Nat} {size : Int} (h0 : 0 ≤ size)
    (hsmall : read + size < 2 ^ 63) :
    chunkOverLimit read size = decide (read + size > maxBodySize) := by
  have hread : read < 2 ^ 63 := by omega
  have hsize : size < 2 ^ 63 := by omega
  simp only [chunkOverLimit, Int64.toInt_add, Int64.toInt_ofNat_of_lt hread,
    Int64.toInt_ofInt_of_le (by omega) hsize]
  rw [Int.bmod_eq_of_le (by omega) (by omega)]

theorem oneLine_sizeLine {z : Bytes} {n : Nat} (hz : z.Numeral 16 n) {e : Option Bytes}
    (he : ∀ t ∈ e, OneLine t) : OneLine (z ++ tagged 0x3B e) := by
  intro x hx
  rcases List.mem_append.mp hx with hx | hx
  · exact ⟨hz.ne_of_mem hx (by decide), hz.ne_of_mem hx (by decide)⟩
  · cases e with
    | none => simp [tagged] at hx
    | some t =>
      rcases List.mem_cons.mp hx with rfl | hx
      · decide
      · exact he t rfl x hx

theorem sizeOf_sizeLine {z : Bytes} {n : Nat} (hz : z.Numeral 16 n) (hn : n < 2 ^ 63)
    (e : Option Bytes) :
    Text.parseInt64 16 (Bytes.trimBlank (Bytes.before 0x3B (z ++ tagged 0x3B e))) = .ok n := by
  have hsemi : (0x3B : UInt8) ∉ z := fun h => hz.ne_of_mem h (by decide) rfl
  rw [tagged, Bytes.before_append_tagged hsemi, hz.trimBlank, Text.parseInt64_numeral (by decide) hz hn]

theorem readChunks_last {z : Bytes} (hz : z.Numeral 16 0) {e : Option Bytes}
    (he : ∀ t ∈ e, OneLine t) {ts : List HeaderLine} (hts : ∀ t ∈ ts, t.WellFormed)
    (acc rest : Bytes) :
    readChunks acc (z ++ tagged 0x3B e ++ crlf ++ ts.flatMap HeaderLine.bytes ++ crlf ++ rest) =
      .ok (acc, rest) := by
  have hline := takeLine_line (oneLine_sizeLine hz he) (ts.flatMap HeaderLine.bytes ++ crlf ++ rest)
  simp only [List.append_assoc] at hline ⊢
  rw [readChunks]
  split
  · rename_i h
    rw [hline] at h
    cases h
  · rename_i l r h
    rw [hline] at h
    obtain ⟨rfl, rfl⟩ := Prod.mk.inj (Option.some.inj h)
    have htr := skipTrailers_written hts rest
    simp only [List.append_assoc] at htr
    simp [sizeOf_sizeLine hz (by decide) e, htr, Except.map]

theorem readChunks_cons {c : Chunk} (hc : c.WellFormed) {acc : Bytes}
    (hsize : acc.length + c.data.length ≤ maxBodySize) (more : Bytes) :
    readChunks acc (c.bytes ++ more) = readChunks (acc ++ c.data) more := by
  have hlen : c.data.length < 2 ^ 63 := by
    unfold maxBodySize at hsize
    omega
  have hpos : 0 < c.data.length := List.length_pos_iff.mpr hc.data_ne_nil
  have hline := takeLine_line (oneLine_sizeLine hc.size hc.ext) (c.data ++ crlf ++ more)
  have hfixed := readFixed_exact (show c.data.length ≤ maxBodySize by omega) (crlf ++ more)
  simp only [Chunk.bytes, List.append_assoc] at hline ⊢
  rw [readChunks]
  split
  · rename_i h
    rw [hline] at h
    cases h
  rename_i l r h
  rw [hline] at h
  obtain ⟨rfl, rfl⟩ := Prod.mk.inj (Option.some.inj h)
  simp only [sizeOf_sizeLine hc.size hlen c.ext, Int.toNat_natCast]
  have hsmall : (acc.length : Int) + c.data.length < 2 ^ 63 := by
    unfold maxBodySize at hsize
    omega
  rw [if_neg (by omega), if_neg (by omega), chunkOverLimit_eq_decide (by omega) hsmall,
    if_neg (by simp only [decide_eq_true_eq]; omega)]
  split
  · rename_i e he
    rw [hfixed] at he
    cases he
  rename_i chunk after hf
  rw [hfixed] at hf
  obtain ⟨rfl, rfl⟩ := Prod.mk.inj (Except.ok.inj hf)
  split
  · rename_i h
    rw [takeLine_crlf] at h
    cases h
  rename_i x next h
  rw [takeLine_crlf] at h
  obtain ⟨-, rfl⟩ := Prod.mk.inj (Option.some.inj h)
  rfl

/-- A chunked body reads as its chunks put together, and reading stops after its blank line. -/
theorem readChunks_written {cs : List Chunk} (hcs : ∀ c ∈ cs, c.WellFormed) {z : Bytes}
    (hz : z.Numeral 16 0) {e : Option Bytes} (he : ∀ t ∈ e, OneLine t) {ts : List HeaderLine}
    (hts : ∀ t ∈ ts, t.WellFormed) (acc : Bytes)
    (hsize : acc.length + (cs.flatMap Chunk.data).length ≤ maxBodySize) (rest : Bytes) :
    readChunks acc (cs.flatMap Chunk.bytes ++ z ++ tagged 0x3B e ++ crlf ++
      ts.flatMap HeaderLine.bytes ++ crlf ++ rest) = .ok (acc ++ cs.flatMap Chunk.data, rest) := by
  induction cs generalizing acc with
  | nil => simpa using readChunks_last hz he hts acc rest
  | cons c cs ih =>
    simp only [List.flatMap_cons, List.length_append, List.append_assoc] at hsize ih ⊢
    rw [readChunks_cons (hcs c (by simp)) (by omega),
      ih (fun c' hc' => hcs c' (by simp [hc'])) _ (by simp only [List.length_append]; omega),
      List.append_assoc]

/-! ### The status line -/

namespace Rendering

variable {x : Rendering} {r : Response}

theorem statusLine_ne_nil (x : Rendering) : x.statusLine ≠ [] := by
  simp [statusLine]

theorem oneLine_statusLine (hx : x.Writes r) : OneLine x.statusLine := by
  intro b hb
  simp only [statusLine, tagged, List.mem_append, List.mem_cons, List.mem_replicate] at hb
  rcases hb with hb | rfl | (⟨-, rfl⟩ | hb) | hb
  · exact ⟨(hx.protocol b hb).2.1, (hx.protocol b hb).2.2⟩
  · decide
  · decide
  · exact ⟨hx.code.ne_of_mem hb (by decide), hx.code.ne_of_mem hb (by decide)⟩
  · cases hreason : x.reason with
    | none => simp [hreason] at hb
    | some t =>
      simp only [hreason, Option.elim, List.mem_cons] at hb
      rcases hb with rfl | hb
      · decide
      · exact hx.reason t hreason b hb

/-- The code is read from the token after the first run of spaces. -/
theorem statusCode?_statusLine (hr : r.Writable) (hx : x.Writes r) :
    statusCode? x.statusLine = some r.status := by
  have hspace : (0x20 : UInt8) ∉ x.code := fun h => hx.code.ne_of_mem h (by decide) rfl
  have hcut : Bytes.cut 0x20 x.statusLine =
      some (x.protocol, List.replicate x.gap 0x20 ++ x.code ++ tagged 0x20 x.reason) := by
    rw [statusLine, Bytes.cut_append_of_not_mem (fun h => (hx.protocol _ h).1 rfl),
      Bytes.cut_cons_self]
    simp
  have hdrop : (List.replicate x.gap 0x20 ++ x.code ++ tagged 0x20 x.reason).dropWhile
      (· == 0x20) = x.code ++ tagged 0x20 x.reason := by
    rw [List.append_assoc, List.dropWhile_append_of_pos (by simp)]
    obtain ⟨c, cs, hc⟩ := List.exists_cons_of_ne_nil hx.code.ne_nil
    rw [hc, List.cons_append, List.dropWhile_cons_of_neg]
    simpa using fun e => hspace (by simp [hc, e])
  rw [statusCode?, hcut]
  simp only [hdrop]
  rw [tagged, Bytes.before_append_tagged hspace,
    Text.decimal?_of_decimal hx.code hr.status_lo hr.status_hi]

theorem getD_map_trimBlank {o : Option Bytes} {v : Bytes} (h : o.getD [] = v)
    (hv : v.trimBlank = v) : (o.map Bytes.trimBlank).getD [] = v := by
  cases o <;> simp_all

theorem after_headers (hr : r.Writable) (hx : x.Writes r) :
    Headers.after x.headers { response := { status := r.status } } =
      { response := { r with body := [] }, contentLength := HeaderLine.contentLength x.headers,
        chunked := HeaderLine.chunked x.headers } := by
  simp only [Headers.after, getD_map_trimBlank hx.version hr.version.2,
    getD_map_trimBlank hx.errorType hr.errorType.2, getD_map_trimBlank hx.message hr.message.2]
  rw [← hx.close]
  rfl

end Rendering

end Wire

open Wire

namespace Response

variable {r : Response} {x : Rendering}

/-- A written response reads back whole, and reading stops right where it ends. -/
theorem read_written (hr : r.Writable) (hx : x.Writes r) {rest : Bytes}
    (hrest : r.close = true → rest = []) : read (x.bytes r ++ rest) = .ok (r, rest) := by
  have hfirst := firstLine_blanks (Rendering.oneLine_statusLine hx) x.statusLine_ne_nil
    x.blankLines (x.headers.flatMap HeaderLine.bytes ++ crlf ++ x.framing.bytes r.body ++ rest)
  have hheaders := readHeaders_written hx.headers { response := { status := r.status } }
    (x.framing.bytes r.body ++ rest)
  rw [Rendering.after_headers hr hx] at hheaders
  simp only [Rendering.bytes, List.append_assoc] at hfirst hheaders ⊢
  simp only [read, hfirst, Rendering.statusCode?_statusLine hr hx, hheaders, bind, Except.bind]
  have hbody := hx.body
  cases hf : x.framing with
  | chunked cs z e ts =>
    rw [hf] at hbody
    obtain ⟨hch, hcs, hdata, hz, he, hts⟩ := hbody
    have hread := readChunks_written hcs hz he hts [] (by simpa [hdata] using hr.body) rest
    simp only [List.append_assoc] at hread
    simp [hch, Framing.bytes, hread, hdata, pure, Except.pure]
  | plain =>
    rw [hf] at hbody
    obtain ⟨hch, hlen, hzero⟩ := hbody
    simp only [hch, Framing.bytes, Bool.false_eq_true, if_false]
    by_cases hpos : 0 < HeaderLine.contentLength x.headers
    · rw [if_pos hpos, ← hlen hpos, readFixed_exact hr.body]
      rfl
    · rw [if_neg hpos]
      by_cases hc : r.close = true
      · -- a closing response takes the rest of the stream, which is its body
        rw [if_pos hc, hrest hc, List.append_nil, readToEnd_short hr.body]
        rfl
      · rw [if_neg hc]
        have hempty : r.body = [] := (hzero (by omega)).resolve_left hc
        rcases r with ⟨status, version, errorType, message, close, body⟩
        simp_all [pure, Except.pure]

theorem read_nil : read [] = .error .eof := by
  simp [read, firstLine, takeLine, bind, Except.bind]

/-- On a stream of written responses, of which only the last may close the connection, reading
one response after another gives back each response in order, and then the end of the stream. -/
theorem readMany_written (rs : List (Response × Rendering))
    (hw : ∀ p ∈ rs, p.1.Writable ∧ p.2.Writes p.1)
    (hclose : ∀ p ∈ rs.dropLast, p.1.close = false) :
    readMany (rs.length + 1) (rs.flatMap fun p => p.2.bytes p.1) = (rs.map Prod.fst, some .eof) := by
  induction rs with
  | nil => simp [readMany, read_nil]
  | cons p ps ih =>
    obtain ⟨r, x⟩ := p
    have hrest : r.close = true → ps.flatMap (fun p => p.2.bytes p.1) = [] := by
      intro hc
      cases ps with
      | nil => rfl
      | cons q qs =>
        have hlast : r.close = false := hclose (r, x) (by simp)
        simp [hlast] at hc
    have hclose' : ∀ q ∈ ps.dropLast, q.1.close = false := by
      intro q hq
      cases ps with
      | nil => simp at hq
      | cons q' qs => exact hclose q (by simp [hq])
    obtain ⟨hr, hx⟩ := hw (r, x) (by simp)
    rw [List.flatMap_cons, List.length_cons, readMany, read_written hr hx hrest]
    simp only [ih (fun q hq => hw q (by simp [hq])) hclose', List.map_cons]

/-- A chunked keep-alive answer, then a closing error answer whose body runs to the end. -/
theorem readMany_written_chunked_then_closing :
    let ok : Response := { status := 200, body := Bytes.ofString "hello" }
    let bye : Response :=
      { status := 500, errorType := Bytes.ofString "SYNTAX", message := Bytes.ofString "bad",
        close := true, body := Bytes.ofString "bye" }
    let okWay : Rendering :=
      { blankLines := 1, protocol := Bytes.ofString "HTTP/1.1", gap := 0,
        code := Bytes.ofString "200", reason := some (Bytes.ofString "OK"),
        headers := [⟨Bytes.ofString "transfer-ENCODING", Bytes.ofString "Chunked"⟩],
        framing := .chunked
          [⟨Bytes.ofString "3", some (Bytes.ofString "x=1"), Bytes.ofString "hel"⟩,
            ⟨Bytes.ofString "2", none, Bytes.ofString "lo"⟩]
          (Bytes.ofString "0") none [⟨Bytes.ofString "X-Trailer", Bytes.ofString "v"⟩] }
    let byeWay : Rendering :=
      { blankLines := 0, protocol := Bytes.ofString "HTTP/1.1", gap := 1,
        code := Bytes.ofString "500", reason := none,
        headers := [⟨Bytes.ofString "Type", Bytes.ofString "SYNTAX"⟩,
          ⟨Bytes.ofString "MESS", Bytes.ofString "bad"⟩,
          ⟨Bytes.ofString "Connection", Bytes.ofString "close"⟩],
        framing := .plain }
    let stream := [(ok, okWay), (bye, byeWay)]
    (∀ p ∈ stream, p.1.Writable ∧ p.2.Writes p.1) ∧ (∀ p ∈ stream.dropLast, p.1.close = false) ∧
      readMany 3 (stream.flatMap fun p => p.2.bytes p.1) = ([ok, bye], some .eof) := by
  intro ok bye okWay byeWay stream
  have hw : ∀ p ∈ stream, p.1.Writable ∧ p.2.Writes p.1 := by
    intro p hp
    simp only [stream, List.mem_cons, List.not_mem_nil, or_false] at hp
    rcases hp with rfl | rfl
    · refine ⟨⟨by decide, by decide, by decide +kernel, by decide +kernel, by decide +kernel,
        by decide +kernel⟩, ⟨by decide +kernel, by decide +kernel, by decide +kernel, ?_,
        by decide +kernel, by decide +kernel, by decide +kernel, by decide +kernel, ?_⟩⟩
      · intro h hh
        simp only [okWay, List.mem_cons, List.not_mem_nil, or_false] at hh
        subst hh
        exact ⟨by decide +kernel, by decide +kernel, by decide +kernel,
          fun h => absurd h (by decide +kernel), fun _ => ⟨by decide +kernel, by decide +kernel⟩⟩
      · refine ⟨by decide +kernel, ?_, by decide +kernel, by decide +kernel, by decide +kernel, ?_⟩
        · intro c hc
          simp only [List.mem_cons, List.not_mem_nil, or_false] at hc
          rcases hc with rfl | rfl
          all_goals exact ⟨by decide +kernel, by decide +kernel, by decide +kernel⟩
        · intro t ht
          simp only [List.mem_cons, List.not_mem_nil, or_false] at ht
          subst ht
          exact ⟨by decide +kernel, by decide +kernel, by decide +kernel,
            fun h => absurd h (by decide +kernel), fun h => absurd h (by decide +kernel)⟩
    · refine ⟨⟨by decide, by decide, by decide +kernel, by decide +kernel, by decide +kernel,
        by decide +kernel⟩, ⟨by decide +kernel, by decide +kernel, by decide +kernel, ?_,
        by decide +kernel, by decide +kernel, by decide +kernel, by decide +kernel,
        ⟨by decide +kernel, by decide +kernel, by decide +kernel⟩⟩⟩
      intro h hh
      simp only [byeWay, List.mem_cons, List.not_mem_nil, or_false] at hh
      rcases hh with rfl | rfl | rfl
      all_goals exact ⟨by decide +kernel, by decide +kernel, by decide +kernel,
          fun h => absurd h (by decide +kernel), fun _ => ⟨by decide +kernel, by decide +kernel⟩⟩
  have hc : ∀ p ∈ stream.dropLast, p.1.close = false := by decide
  exact ⟨hw, hc, readMany_written stream hw hc⟩

/-- The reader parses every `Content-Length`, also one that a later one overrides, as a signed
64-bit number: a length of 2^63 refuses the response, whose last length says two bytes. -/
theorem read_refuses_overridden_huge_length :
    read (Bytes.ofString
      "HTTP/1.1 200 OK\r\nContent-Length: 9223372036854775808\r\nContent-Length: 2\r\n\r\nok") =
      .error (.badContentLength (Bytes.ofString "9223372036854775808")) := by
  decide +kernel

end Response

end ClusterAgent
