import ClusterAgent.Proofs.ResponseStream

/-!
# The limit on response bodies

A proxy chooses how long the body of its answer is, so the reader bounds every body by 16 MiB
(`maxBodySize`). The limit is checked in three places. A length read from `Content-Length` is
refused by `readFixed` before any byte is read. A chunked body is refused at the first chunk
whose size, added to what has been read, passes the limit; the sum is taken in a signed 64-bit
word and wraps for sizes near 2^63, and such a size is then refused by `readFixed` instead. A
body that runs to the end of the stream is refused when the stream holds more than 16 MiB.

Main statement: `Response.read_bounds_body`. No body read is longer than 16 MiB, each way of
passing the limit gives `bodyTooLarge`, and a body of exactly 16 MiB is read under every framing.
The body is framed by chunks when the headers ask for them, whatever `Content-Length` says, so a
length above the limit refuses only a response without chunked framing
(`Response.read_chunked_ignores_huge_length`).
-/

namespace ClusterAgent

theorem Text.parseInt64_lt {base : Nat} {b : Bytes} {n : Int} (h : Text.parseInt64 base b = .ok n) :
    n < 2 ^ 63 := by
  unfold Text.parseInt64 at h
  split at h
  split at h
  · cases h
  · split at h
    · split at h
      · cases h
      · cases h
        omega
    · split at h
      · cases h
      · cases h
        have : Nat.pow 2 63 = 2 ^ 63 := rfl
        omega

namespace Wire

/-! ### One chunk's size against the limit -/

/-- A chunk size that passes the 64-bit check is a size that `readFixed` accepts, or the sum
wrapped; in both cases the body read so far and the chunk fit the limit, or the chunk alone
does not. -/
theorem chunk_fits_of_not_overLimit {read : Nat} {size : Int} (hread : read ≤ maxBodySize)
    (h0 : 0 ≤ size) (hsize : size < 2 ^ 63) (h : chunkOverLimit read size = false) :
    read + size ≤ maxBodySize ∨ maxBodySize < size := by
  by_cases hbig : maxBodySize < size
  · exact .inr hbig
  · left
    have hsmall : read + size < 2 ^ 63 := by
      unfold maxBodySize at hread hbig
      omega
    rw [chunkOverLimit_eq_decide h0 hsmall] at h
    simpa using h

theorem readFixed_over {n : Nat} (h : maxBodySize < n) (s : Bytes) :
    readFixed n s = .error .bodyTooLarge := by
  simp [readFixed, h]

theorem readFixed_ok {n : Nat} {s b rest : Bytes} (h : readFixed n s = .ok (b, rest)) :
    n ≤ maxBodySize ∧ b.length = n := by
  unfold readFixed at h
  split at h
  · cases h
  · rename_i hle
    split at h
    · cases h
      exact ⟨by omega, by simp_all⟩
    · split at h
      · cases h
        rename_i hlen
        exact ⟨by omega, List.length_take_of_le hlen⟩
      · split at h <;> cases h

theorem readToEnd_length_le {s b rest : Bytes} (h : readToEnd s = .ok (b, rest)) :
    b.length ≤ maxBodySize := by
  unfold readToEnd at h
  split at h
  · cases h
  · cases h
    omega

/-! ### Headers -/

theorem applyHeader_body {hd hd' : Headers} {l : Bytes} (h : applyHeader hd l = .ok hd') :
    hd'.response.body = hd.response.body := by
  unfold applyHeader at h
  split at h
  · cases h
    rfl
  · -- each header sets one field of the response or of the framing, never the body
    dsimp only at h
    repeat' split at h
    all_goals first | (cases h; rfl) | cases h

theorem readHeaders_body {hd hd' : Headers} {s rest : Bytes}
    (h : readHeaders hd s = .ok (hd', rest)) : hd'.response.body = hd.response.body := by
  fun_induction readHeaders hd s generalizing hd' rest with
  | case2 hd s l r hl hempty =>
    cases h
    rfl
  | case4 hd s l r hl hne hd₁ happly ih => exact (ih h).trans (applyHeader_body happly)
  | _ => cases h
/-! ### Chunked bodies -/

theorem readChunks_length_le {acc s b rest : Bytes} (hacc : acc.length ≤ maxBodySize)
    (h : readChunks acc s = .ok (b, rest)) : b.length ≤ maxBodySize := by
  fun_induction readChunks acc s generalizing b rest with
  | case4 acc s l r hl hsize hz =>
    cases hs : skipTrailers r with
    | error e => simp [hs, Except.map] at h
    | ok r' =>
      simp only [hs, Except.map, Except.ok.injEq, Prod.mk.injEq] at h
      exact h.1 ▸ hacc
  | case8 acc s l r hl size hsize hneg hzero hcheck chunk after hf l' r' hl' ih =>
    obtain ⟨hle, hlen⟩ := readFixed_ok hf
    have hfit : acc.length + size ≤ maxBodySize := by
      rcases chunk_fits_of_not_overLimit hacc (by omega) (Text.parseInt64_lt hsize)
        (by simpa using hcheck) with h' | h'
      · exact h'
      · omega
    exact ih (by rw [List.length_append]; omega) h
  | _ => cases h
/-- Well-formed chunks within the limit are read one after another. -/
theorem readChunks_chunks {cs : List Chunk} (hcs : ∀ c ∈ cs, c.WellFormed) {acc : Bytes}
    (hsize : acc.length + (cs.flatMap Chunk.data).length ≤ maxBodySize) (more : Bytes) :
    readChunks acc (cs.flatMap Chunk.bytes ++ more) = readChunks (acc ++ cs.flatMap Chunk.data) more := by
  induction cs generalizing acc with
  | nil => simp
  | cons c cs ih =>
    simp only [List.flatMap_cons, List.length_append, List.append_assoc] at hsize ⊢
    rw [readChunks_cons (hcs c (by simp)) (by omega),
      ih (fun c' hc' => hcs c' (by simp [hc'])) (by simp only [List.length_append]; omega),
      List.append_assoc]

/-- A size line naming a chunk that takes the body past 16 MiB refuses the body, also when the
64-bit sum wraps. -/
theorem readChunks_refuses_oversize {acc s line rest : Bytes} {n : Int}
    (hacc : acc.length ≤ maxBodySize) (hline : takeLine s = some (line, rest))
    (hn : Text.parseInt64 16 (Bytes.trimBlank (Bytes.before 0x3B line)) = .ok n)
    (hover : maxBodySize < acc.length + n) : readChunks acc s = .error .bodyTooLarge := by
  have hpos : 0 < n := by omega
  rw [readChunks]
  split
  · rename_i h
    rw [hline] at h
    cases h
  rename_i l r h
  rw [hline] at h
  obtain ⟨rfl, rfl⟩ := Prod.mk.inj (Option.some.inj h)
  simp only [hn]
  rw [if_neg (by omega), if_neg (by omega)]
  cases hcheck : chunkOverLimit acc.length n with
  | true => rfl
  | false =>
    -- the check let the size through, so the sum wrapped and the size alone is too large
    have hbig : maxBodySize < n := by
      rcases chunk_fits_of_not_overLimit hacc hpos.le (Text.parseInt64_lt hn) hcheck with h | h
      · omega
      · exact h
    rw [if_neg Bool.false_ne_true]
    split
    · rename_i e he
      rw [readFixed_over (by omega)] at he
      exact he ▸ rfl
    · rename_i chunk after hf
      rw [readFixed_over (by omega)] at hf
      cases hf

end Wire

open Wire

namespace Response

/-! ### Whole responses -/

/-- The reader reads the head of `s`, a status line with a code and header lines up to a blank
line, into the headers `hd`, and `rest` is what follows the head. -/
def HeadRead (s : Bytes) (hd : Headers) (rest : Bytes) : Prop :=
  ∃ line after code, firstLine s = .ok (line, after) ∧ statusCode? line = some code ∧
    readHeaders { response := { status := code } } after = .ok (hd, rest)

/-- The body the headers select, read from `rest`: chunks when they ask for chunks, else as
many bytes as a positive `Content-Length` says, else on a closing response the rest of the
stream, else nothing. -/
def bodyOf (hd : Headers) (rest : Bytes) : Except ReadError (Response × Bytes) :=
  let withBody := fun (p : Bytes × Bytes) => ({ hd.response with body := p.1 }, p.2)
  if hd.chunked then (readChunks [] rest).map withBody
  else if hd.contentLength > 0 then (readFixed hd.contentLength rest).map withBody
  else if hd.response.close then (readToEnd rest).map withBody
  else .ok (hd.response, rest)

theorem read_eq_bodyOf {s rest : Bytes} {hd : Headers} (h : HeadRead s hd rest) :
    read s = bodyOf hd rest := by
  obtain ⟨line, after, code, h1, h2, h3⟩ := h
  simp only [read, h1, h2, h3, bind, Except.bind, bodyOf]
  split
  · cases readChunks [] rest <;> rfl
  · split
    · cases readFixed hd.contentLength rest <;> rfl
    · split
      · cases readToEnd rest <;> rfl
      · rfl
/-- The body the headers select is within the limit. -/
theorem bodyOf_body_le {hd : Headers} {rest rest' : Bytes} {r : Response}
    (hbody : hd.response.body = []) (h : bodyOf hd rest = .ok (r, rest')) :
    r.body.length ≤ maxBodySize := by
  unfold bodyOf at h
  dsimp only at h
  split at h
  · cases hc : readChunks [] rest with
    | error e => simp [hc, Except.map] at h
    | ok p =>
      simp only [hc, Except.map, Except.ok.injEq, Prod.mk.injEq] at h
      rw [← h.1]
      exact readChunks_length_le (Nat.zero_le _) hc
  · split at h
    · cases hf : readFixed hd.contentLength rest with
      | error e => simp [hf, Except.map] at h
      | ok p =>
        simp only [hf, Except.map, Except.ok.injEq, Prod.mk.injEq] at h
        rw [← h.1]
        obtain ⟨hle, hlen⟩ := readFixed_ok hf
        exact hlen ▸ hle
    · split at h
      · cases he : readToEnd rest with
        | error e => simp [he, Except.map] at h
        | ok p =>
          simp only [he, Except.map, Except.ok.injEq, Prod.mk.injEq] at h
          rw [← h.1]
          exact readToEnd_length_le he
      · cases h
        simp [hbody]

theorem read_body_le {s rest : Bytes} {r : Response} (h : read s = .ok (r, rest)) :
    r.body.length ≤ maxBodySize := by
  cases h1 : firstLine s with
  | error e => simp [read, h1, bind, Except.bind] at h
  | ok p =>
    obtain ⟨line, after⟩ := p
    cases h2 : statusCode? line with
    | none =>
      simp only [read, h1, h2, bind, Except.bind, pure, Except.pure, Except.ok.injEq,
        Prod.mk.injEq] at h
      rw [← h.1]
      exact Nat.zero_le _
    | some code =>
      cases h3 : readHeaders { response := { status := code } } after with
      | error e => simp [read, h1, h2, h3, bind, Except.bind] at h
      | ok q =>
        obtain ⟨hd, rest0⟩ := q
        rw [read_eq_bodyOf ⟨line, after, code, h1, h2, h3⟩] at h
        exact bodyOf_body_le (readHeaders_body h3) h

variable {s rest : Bytes} {hd : Headers}

/-- Without chunked framing, a `Content-Length` above 16 MiB refuses the response before its
body is read. -/
theorem read_refuses_long_length (h : HeadRead s hd rest) (hch : hd.chunked = false)
    (hlen : maxBodySize < hd.contentLength) : read s = .error .bodyTooLarge := by
  rw [read_eq_bodyOf h, bodyOf]
  simp [hch, readFixed_over hlen, Except.map, show 0 < hd.contentLength by omega]

/-- A closing response with neither chunks nor a length is refused when more than 16 MiB
follow its head. -/
theorem read_refuses_long_tail (h : HeadRead s hd rest) (hch : hd.chunked = false)
    (hlen : hd.contentLength = 0) (hclose : hd.response.close = true)
    (htail : maxBodySize < rest.length) : read s = .error .bodyTooLarge := by
  rw [read_eq_bodyOf h, bodyOf]
  simp [hch, hlen, hclose, readToEnd, htail, Except.map]

/-- A body of at most 16 MiB framed by its length is read. -/
theorem read_fixed_within {body more : Bytes} (h : HeadRead s hd (body ++ more))
    (hch : hd.chunked = false) (hlen : hd.contentLength = body.length) (hpos : 0 < body.length)
    (hsize : body.length ≤ maxBodySize) :
    read s = .ok ({ hd.response with body }, more) := by
  rw [read_eq_bodyOf h, bodyOf]
  simp [hch, hlen, hpos, readFixed_exact hsize, Except.map]

/-- A body of at most 16 MiB that runs to the end of a closing stream is read. -/
theorem read_tail_within {body : Bytes} (h : HeadRead s hd body) (hch : hd.chunked = false)
    (hlen : hd.contentLength = 0) (hclose : hd.response.close = true)
    (hsize : body.length ≤ maxBodySize) : read s = .ok ({ hd.response with body }, []) := by
  rw [read_eq_bodyOf h, bodyOf]
  simp [hch, hlen, hclose, readToEnd_short hsize, Except.map]

/-- A chunked body of at most 16 MiB is read. -/
theorem read_chunked_within {cs : List Chunk} (hcs : ∀ c ∈ cs, c.WellFormed) {z : Bytes}
    (hz : z.Numeral 16 0) {e : Option Bytes} (he : ∀ t ∈ e, OneLine t) {ts : List HeaderLine}
    (hts : ∀ t ∈ ts, t.WellFormed) {more : Bytes}
    (h : HeadRead s hd (cs.flatMap Chunk.bytes ++ z ++ tagged 0x3B e ++ crlf ++
      ts.flatMap HeaderLine.bytes ++ crlf ++ more))
    (hch : hd.chunked = true) (hsize : (cs.flatMap Chunk.data).length ≤ maxBodySize) :
    read s = .ok ({ hd.response with body := cs.flatMap Chunk.data }, more) := by
  have hread := readChunks_written hcs hz he hts [] (by simpa using hsize) more
  simp only [List.append_assoc] at hread
  rw [read_eq_bodyOf h, bodyOf]
  simp [hch, hread, Except.map]

/-- A chunked body is refused at the first chunk whose size takes it past 16 MiB. -/
theorem read_refuses_long_chunks {cs : List Chunk} (hcs : ∀ c ∈ cs, c.WellFormed)
    {more line rest' : Bytes} {n : Int} (h : HeadRead s hd (cs.flatMap Chunk.bytes ++ more))
    (hch : hd.chunked = true) (hsize : (cs.flatMap Chunk.data).length ≤ maxBodySize)
    (hline : takeLine more = some (line, rest'))
    (hn : Text.parseInt64 16 (Bytes.trimBlank (Bytes.before 0x3B line)) = .ok n)
    (hover : maxBodySize < (cs.flatMap Chunk.data).length + n) :
    read s = .error .bodyTooLarge := by
  have hchunks : readChunks [] (cs.flatMap Chunk.bytes ++ more) =
      readChunks ([] ++ cs.flatMap Chunk.data) more :=
    readChunks_chunks hcs (by simpa using hsize) more
  rw [List.nil_append, readChunks_refuses_oversize hsize hline hn hover] at hchunks
  rw [read_eq_bodyOf h, bodyOf]
  simp [hch, hchunks, Except.map]

/-- Response bodies are bounded by 16 MiB. No response read has a longer body, and `readFixed`
refuses a longer length before it reads a byte. Without chunked framing, a `Content-Length`
above 16 MiB refuses the response. A chunked body is refused at the first size line that takes
it past 16 MiB, for every size up to 2^63 - 1, also where the 64-bit sum wraps. A closing
response with more than 16 MiB after its head is refused. A body of at most 16 MiB, 16 MiB
itself included, is read under each framing. -/
theorem read_bounds_body :
    (∀ s rest (r : Response), read s = .ok (r, rest) → r.body.length ≤ maxBodySize) ∧
    (∀ n s, maxBodySize < n → readFixed n s = .error .bodyTooLarge) ∧
    (∀ s hd rest, HeadRead s hd rest → hd.chunked = false → maxBodySize < hd.contentLength →
      read s = .error .bodyTooLarge) ∧
    (∀ acc s line rest (n : Int), acc.length ≤ maxBodySize → takeLine s = some (line, rest) →
      Text.parseInt64 16 (Bytes.trimBlank (Bytes.before 0x3B line)) = .ok n →
      maxBodySize < acc.length + n → readChunks acc s = .error .bodyTooLarge) ∧
    (∀ s hd (cs : List Chunk) more line rest (n : Int), (∀ c ∈ cs, c.WellFormed) →
      HeadRead s hd (cs.flatMap Chunk.bytes ++ more) → hd.chunked = true →
      (cs.flatMap Chunk.data).length ≤ maxBodySize → takeLine more = some (line, rest) →
      Text.parseInt64 16 (Bytes.trimBlank (Bytes.before 0x3B line)) = .ok n →
      maxBodySize < (cs.flatMap Chunk.data).length + n → read s = .error .bodyTooLarge) ∧
    (∀ s hd rest, HeadRead s hd rest → hd.chunked = false → hd.contentLength = 0 →
      hd.response.close = true → maxBodySize < rest.length → read s = .error .bodyTooLarge) ∧
    (∀ s hd body more, HeadRead s hd (body ++ more) → hd.chunked = false →
      hd.contentLength = body.length → 0 < body.length → body.length ≤ maxBodySize →
      read s = .ok ({ hd.response with body }, more)) ∧
    (∀ s hd (cs : List Chunk) z e (ts : List HeaderLine) more, (∀ c ∈ cs, c.WellFormed) →
      z.Numeral 16 0 → (∀ t ∈ e, OneLine t) → (∀ t ∈ ts, t.WellFormed) →
      HeadRead s hd (cs.flatMap Chunk.bytes ++ z ++ tagged 0x3B e ++ crlf ++
        ts.flatMap HeaderLine.bytes ++ crlf ++ more) →
      hd.chunked = true → (cs.flatMap Chunk.data).length ≤ maxBodySize →
      read s = .ok ({ hd.response with body := cs.flatMap Chunk.data }, more)) ∧
    (∀ s hd body, HeadRead s hd body → hd.chunked = false → hd.contentLength = 0 →
      hd.response.close = true → body.length ≤ maxBodySize →
      read s = .ok ({ hd.response with body }, [])) :=
  ⟨fun _ _ _ => read_body_le, fun _ _ hn => readFixed_over hn _,
    fun _ _ _ => read_refuses_long_length,
    fun _ _ _ _ _ hacc hline hn hover => readChunks_refuses_oversize hacc hline hn hover,
    fun _ _ _ _ _ _ _ hcs h hch hsize hline hn hover =>
      read_refuses_long_chunks hcs h hch hsize hline hn hover,
    fun _ _ _ => read_refuses_long_tail, fun _ _ _ _ => read_fixed_within,
    fun _ _ _ _ _ _ _ hcs hz he hts h hch hsize => read_chunked_within hcs hz he hts h hch hsize,
    fun _ _ _ => read_tail_within⟩

/-- The limit at two streams: a head whose length passes 16 MiB by one byte, and a chunked body
whose second size line, 0x1000000 after a chunk of one byte, takes it past 16 MiB. -/
theorem read_bounds_body_past_limit :
    let status : Headers := { response := { status := 200 } }
    let lengthLine : HeaderLine := ⟨Bytes.ofString "Content-Length", Bytes.ofString "16777217"⟩
    let chunkedLine : HeaderLine := ⟨Bytes.ofString "Transfer-Encoding", Bytes.ofString "chunked"⟩
    let first : Chunk := ⟨Bytes.ofString "1", none, Bytes.ofString "x"⟩
    let long := Bytes.ofString "HTTP/1.1 200 OK\r\nContent-Length: 16777217\r\n\r\n"
    let chunked := Bytes.ofString
      "HTTP/1.1 200 OK\r\nTransfer-Encoding: chunked\r\n\r\n1\r\nx\r\n1000000\r\n"
    (HeadRead long (Headers.after [lengthLine] status) [] ∧
      (Headers.after [lengthLine] status).chunked = false ∧
      maxBodySize < (Headers.after [lengthLine] status).contentLength ∧
      read long = .error .bodyTooLarge) ∧
    ((∀ c ∈ [first], c.WellFormed) ∧
      HeadRead chunked (Headers.after [chunkedLine] status)
        ([first].flatMap Chunk.bytes ++ Bytes.ofString "1000000\r\n") ∧
      (Headers.after [chunkedLine] status).chunked = true ∧
      ([first].flatMap Chunk.data).length ≤ maxBodySize ∧
      takeLine (Bytes.ofString "1000000\r\n") = some (Bytes.ofString "1000000", []) ∧
      Text.parseInt64 16 (Bytes.trimBlank (Bytes.before 0x3B (Bytes.ofString "1000000"))) =
        .ok 0x1000000 ∧
      maxBodySize < ([first].flatMap Chunk.data).length + (0x1000000 : Int) ∧
      read chunked = .error .bodyTooLarge) := by
  intro status lengthLine chunkedLine first long chunked
  have hlengthLine : ∀ t ∈ [lengthLine], t.WellFormed := by
    simp only [List.mem_singleton, forall_eq]
    exact ⟨by decide +kernel, by decide +kernel, by decide +kernel,
      fun _ => ⟨16777217, by decide, by decide +kernel⟩, by decide +kernel⟩
  have hchunkedLine : ∀ t ∈ [chunkedLine], t.WellFormed := by
    simp only [List.mem_singleton, forall_eq]
    exact ⟨by decide +kernel, by decide +kernel, by decide +kernel, by decide +kernel,
      fun _ => by decide +kernel⟩
  have hlong : HeadRead long (Headers.after [lengthLine] status) [] :=
    ⟨Bytes.ofString "HTTP/1.1 200 OK", [lengthLine].flatMap HeaderLine.bytes ++ crlf ++ [], 200,
      by decide +kernel, by decide +kernel, readHeaders_written hlengthLine status []⟩
  have hfirst : ∀ c ∈ [first], c.WellFormed := by
    simp only [List.mem_singleton, forall_eq]
    exact ⟨by decide +kernel, by decide +kernel, by simp [first]⟩
  have hchunked : HeadRead chunked (Headers.after [chunkedLine] status)
      ([first].flatMap Chunk.bytes ++ Bytes.ofString "1000000\r\n") :=
    ⟨Bytes.ofString "HTTP/1.1 200 OK",
      [chunkedLine].flatMap HeaderLine.bytes ++ crlf ++
        ([first].flatMap Chunk.bytes ++ Bytes.ofString "1000000\r\n"), 200,
      by decide +kernel, by decide +kernel, readHeaders_written hchunkedLine status _⟩
  have hline : takeLine (Bytes.ofString "1000000\r\n") = some (Bytes.ofString "1000000", []) := by
    decide +kernel
  have hsize : Text.parseInt64 16 (Bytes.trimBlank (Bytes.before 0x3B (Bytes.ofString "1000000"))) =
      .ok 0x1000000 := by
    decide +kernel
  have hlen : ([first].flatMap Chunk.data).length ≤ maxBodySize := by decide +kernel
  have hover : maxBodySize < ([first].flatMap Chunk.data).length + (0x1000000 : Int) := by
    decide +kernel
  have hlongLength : maxBodySize < (Headers.after [lengthLine] status).contentLength := by
    decide +kernel
  exact ⟨⟨hlong, by decide +kernel, hlongLength,
      read_bounds_body.2.2.1 long _ [] hlong (by decide +kernel) hlongLength⟩,
    hfirst, hchunked, by decide +kernel, hlen, hline, hsize, hover,
    read_bounds_body.2.2.2.2.1 chunked _ [first] _ _ _ _ hfirst hchunked (by decide +kernel) hlen
      hline hsize hover⟩

/-- The headers ask for chunks, so the length above 16 MiB that they also give is not used and
the empty chunked body is read. -/
theorem read_chunked_ignores_huge_length :
    read (Bytes.ofString
      "HTTP/1.1 200 OK\r\nContent-Length: 16777217\r\nTransfer-Encoding: chunked\r\n\r\n0\r\n\r\n") =
      .ok ({ status := 200 }, []) := by
  decide +kernel

end Response

end ClusterAgent
