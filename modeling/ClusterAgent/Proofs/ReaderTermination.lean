import ClusterAgent.Proofs.BodyLimit

/-!
# The reader's loops end

None of the reader's loops keeps a count. They end because every round that goes around has
used up part of the stream. Reading a line yields nothing only on an empty stream, and a line
it yields has cost at least one byte, the last line of a stream without a line feed included
(`Wire.takeLine_eq_none_iff`, `Wire.takeLine_consumes`).

`Wire.Loop` is a loop over a stream taken one round at a time, together with that fact: a round
that goes around leaves less of the stream. Given room to go around as many times as the stream
has bytes, such a loop always finishes, with the answer the unbounded loop gives
(`Wire.Loop.within_eq_some`). The reader's four loops are such loops: the blank lines before the
status line, the header lines, the chunks of a chunked body and its trailer lines. So each goes
around at most as many times as there are bytes left when it starts.

A response read from a stream leaves less of it (`Response.read_shrinks`), and an empty stream
reads as its end. Reading one response after another thus stops at an error, the end of the
stream at the latest, after at most as many responses as the stream has bytes
(`reader_loops_end`).
-/

namespace ClusterAgent

namespace Wire

/-! ### Reading a line -/

theorem takeLine_eq_none_iff {s : Bytes} : takeLine s = none ↔ s = [] := by
  constructor
  · intro h
    cases s with
    | nil => rfl
    | cons b bs =>
      simp only [takeLine] at h
      split at h <;> cases h
  · rintro rfl
    rfl

theorem takeLine_consumes {s line rest : Bytes} (h : takeLine s = some (line, rest)) :
    ∃ used, used ≠ [] ∧ s = used ++ rest := by
  cases s with
  | nil => simp [takeLine] at h
  | cons b bs =>
    simp only [takeLine] at h
    split at h
    · rename_i l r hcut
      obtain ⟨-, rfl⟩ := Prod.mk.inj (Option.some.inj h)
      exact ⟨l ++ [0x0A], by simp, by simpa using (Bytes.cut_eq_some hcut).1⟩
    · obtain ⟨-, rfl⟩ := Prod.mk.inj (Option.some.inj h)
      exact ⟨b :: bs, by simp, by simp⟩

theorem readFixed_rest_le {n : Nat} {s b rest : Bytes} (h : readFixed n s = .ok (b, rest)) :
    rest.length ≤ s.length := by
  unfold readFixed at h
  split at h
  · cases h
  split at h
  · cases h
    exact Nat.le_refl _
  split at h
  · cases h
    simp
  · split at h <;> cases h

/-! ### Loops over a stream -/

/-- What a round of a reading loop does: it ends the loop with an answer, or the loop goes
around again from a new state, on what is left of the stream. -/
inductive Round (σ α : Type) where
  | done (answer : Except ReadError α)
  | next (state : σ) (rest : Bytes)

/-- A loop over a stream, taken one round at a time. A round that goes around has used up at
least one byte. -/
structure Loop (σ α : Type) where
  round : σ → Bytes → Round σ α
  consumes : ∀ st s st' rest, round st s = .next st' rest → rest.length < s.length

namespace Loop

variable {σ α : Type} (L : Loop σ α)

/-- The loop with room to go around at most `n` times: `none` when it would go around once
more. -/
def within : Nat → σ → Bytes → Option (Except ReadError α)
  | n, st, s =>
    match L.round st s, n with
    | .done r, _ => some r
    | .next _ _, 0 => none
    | .next st' rest, n + 1 => within n st' rest

/-- `f` runs the loop: it answers what a round answers, and goes around by calling itself. -/
def Runs (f : σ → Bytes → Except ReadError α) : Prop :=
  ∀ st s, f st s = match L.round st s with
    | .done r => r
    | .next st' rest => f st' rest

variable {L}

/-- A loop given room to go around as many times as the stream has bytes finishes, with the
answer of the unbounded loop. -/
theorem within_eq_some {f : σ → Bytes → Except ReadError α} (hf : L.Runs f) :
    ∀ (n : Nat) (st : σ) (s : Bytes), s.length ≤ n → L.within n st s = some (f st s)
  | n, st, s, hn => by
    rw [hf st s, within.eq_def]
    cases hr : L.round st s with
    | done r => simp only [hr]
    | next st' rest =>
      -- the round used up a byte, so the room left still covers what is left
      have hlt := L.consumes st s st' rest hr
      cases n with
      | zero => omega
      | succ n =>
        simp only [hr]
        exact within_eq_some hf n st' rest (by omega)

end Loop

/-! ### The reader's loops -/

/-- The blank lines before a status line: a blank line goes around, another line is the
answer. -/
def blankLines : Loop Unit (Bytes × Bytes) where
  round _ s :=
    match takeLine s with
    | none => .done (.error .eof)
    | some (line, rest) => if line.isEmpty then .next () rest else .done (.ok (line, rest))
  consumes := by
    intro _ s _ rest h
    split at h
    · cases h
    · rename_i line rest' hl
      split at h
      · cases h
        exact takeLine_lt hl
      · cases h

/-- The header lines: a header goes around with the headers it sets, a blank line ends them. -/
def headerLines : Loop Headers (Headers × Bytes) where
  round hd s :=
    match takeLine s with
    | none => .done (.error .eof)
    | some (line, rest) =>
      if line.isEmpty then .done (.ok (hd, rest))
      else
        match applyHeader hd line with
        | .error e => .done (.error e)
        | .ok hd => .next hd rest
  consumes := by
    intro _ s _ rest h
    split at h
    · cases h
    · rename_i line rest' hl
      split at h
      · cases h
      · split at h
        · cases h
        · cases h
          exact takeLine_lt hl

/-- The trailer lines after the last chunk, up to a blank line. -/
def trailerLines : Loop Unit Bytes where
  round _ s :=
    match takeLine s with
    | none => .done (.error .eof)
    | some (line, rest) => if line.isEmpty then .done (.ok rest) else .next () rest
  consumes := by
    intro _ s _ rest h
    split at h
    · cases h
    · rename_i line rest' hl
      split at h
      · cases h
      · cases h
        exact takeLine_lt hl

/-- The chunks of a chunked body, read onto what came before: a chunk of positive size goes
around with its bytes added, the chunk of size zero ends the body after its trailer lines. -/
def chunks : Loop Bytes (Bytes × Bytes) where
  round acc s :=
    match takeLine s with
    | none => .done (.error .eof)
    | some (line, rest) =>
      match Text.parseInt64 16 (Bytes.trimBlank (Bytes.before 0x3B line)) with
      | .error _ => .done (.error (.badChunkSize line))
      | .ok size =>
        if size < 0 then .done (.error (.badChunkSize line))
        else if size = 0 then .done ((skipTrailers rest).map fun r => (acc, r))
        else if chunkOverLimit acc.length size then .done (.error .bodyTooLarge)
        else
          match readFixed size.toNat rest with
          | .error e => .done (.error e)
          | .ok (chunk, after) =>
            match takeLine after with
            | none => .done (.error .eof)
            | some (_, next) => .next (acc ++ chunk) next
  consumes := by
    intro _ s _ next h
    split at h
    · cases h
    · rename_i line rest hl
      repeat' split at h
      all_goals try cases h
      rename_i hf _ _ hl'
      have h1 := takeLine_lt hl
      have h2 := takeLine_lt hl'
      have h3 := readFixed_rest_le hf
      omega

theorem runs_firstLine : blankLines.Runs fun _ s => firstLine s := by
  intro _ s
  dsimp only
  rcases hl : takeLine s with _ | ⟨line, rest⟩
  · rw [takeLine_eq_none_iff.1 hl, firstLine]
    rfl
  · rw [firstLine_eq hl]
    simp only [blankLines, hl]
    split <;> rfl

theorem runs_readHeaders : headerLines.Runs readHeaders := by
  intro hd s
  rcases hl : takeLine s with _ | ⟨line, rest⟩
  · rw [takeLine_eq_none_iff.1 hl, readHeaders]
    rfl
  · rw [readHeaders_eq hl]
    simp only [headerLines, hl]
    split
    · rfl
    · cases applyHeader hd line <;> rfl

theorem runs_skipTrailers : trailerLines.Runs fun _ s => skipTrailers s := by
  intro _ s
  dsimp only
  rcases hl : takeLine s with _ | ⟨line, rest⟩
  · rw [takeLine_eq_none_iff.1 hl, skipTrailers]
    rfl
  · rw [skipTrailers_eq hl]
    simp only [trailerLines, hl]
    split <;> rfl

theorem runs_readChunks : chunks.Runs readChunks := by
  intro acc s
  rcases hl : takeLine s with _ | ⟨line, rest⟩
  · rw [takeLine_eq_none_iff.1 hl, readChunks]
    rfl
  rw [readChunks]
  simp only [chunks]
  split
  · simp_all
  rename_i line' rest' hl'
  rw [hl] at hl'
  obtain ⟨rfl, rfl⟩ := Prod.mk.inj (Option.some.inj hl')
  simp only [hl]
  rcases hp : Text.parseInt64 16 (Bytes.trimBlank (Bytes.before 0x3B line)) with _ | size
  · rfl
  by_cases hneg : size < 0
  · simp [hneg]
  by_cases hzero : size = 0
  · simp [hzero]
  by_cases hover : chunkOverLimit acc.length size = true
  · simp [hneg, hzero, hover]
  simp only [hneg, hzero, hover, Bool.false_eq_true, if_false]
  split
  · rename_i e hf
    simp only [hf]
  · rename_i chunk after hf
    simp only [hf]
    split
    · rename_i hn
      simp only [hn]
    · rename_i l' next hn
      simp only [hn]

end Wire

namespace Response

open Wire

theorem firstLine_shrinks {s line rest : Bytes} (h : firstLine s = .ok (line, rest)) :
    rest.length < s.length := by
  fun_induction firstLine s with
  | case1 => cases h
  | case2 s l r hl _ ih => exact (ih h).trans (takeLine_lt hl)
  | case3 s l r hl _ =>
    cases h
    exact takeLine_lt hl

theorem readHeaders_shrinks {hd hd' : Headers} {s rest : Bytes}
    (h : readHeaders hd s = .ok (hd', rest)) : rest.length ≤ s.length := by
  fun_induction readHeaders hd s with
  | case1 => cases h
  | case2 hd s l r hl _ =>
    cases h
    exact (takeLine_lt hl).le
  | case3 => cases h
  | case4 hd s l r hl _ hd₁ _ ih => exact (ih h).trans (takeLine_lt hl).le

theorem skipTrailers_shrinks {s rest : Bytes} (h : skipTrailers s = .ok rest) :
    rest.length ≤ s.length := by
  fun_induction skipTrailers s with
  | case1 => cases h
  | case2 s l r hl _ =>
    cases h
    exact (takeLine_lt hl).le
  | case3 s l r hl _ ih => exact (ih h).trans (takeLine_lt hl).le

theorem readChunks_shrinks {acc s body rest : Bytes} (h : readChunks acc s = .ok (body, rest)) :
    rest.length ≤ s.length := by
  fun_induction readChunks acc s with
  | case4 acc s l r hl _ _ =>
    cases hs : skipTrailers r with
    | error e => simp [hs, Except.map] at h
    | ok r' =>
      simp only [hs, Except.map, Except.ok.injEq, Prod.mk.injEq] at h
      rw [← h.2]
      exact (skipTrailers_shrinks hs).trans (takeLine_lt hl).le
  | case8 acc s l r hl size _ _ _ _ chunk after hf l' r' hl' ih =>
    have h1 := takeLine_lt hl
    have h2 := takeLine_lt hl'
    have h3 := readFixed_rest_le hf
    have h4 := ih h
    omega
  | _ => cases h

theorem bodyOf_shrinks {hd : Headers} {body rest : Bytes} {r : Response}
    (h : bodyOf hd body = .ok (r, rest)) : rest.length ≤ body.length := by
  unfold bodyOf at h
  split at h
  · rcases hb : readChunks [] body with _ | ⟨b, r'⟩ <;> simp only [hb, Except.map] at h
    · cases h
    · cases h
      exact readChunks_shrinks hb
  split at h
  · rcases hb : readFixed hd.contentLength body with _ | ⟨b, r'⟩ <;> simp only [hb, Except.map] at h
    · cases h
    · cases h
      exact readFixed_rest_le hb
  split at h
  · rcases hb : readToEnd body with _ | ⟨b, r'⟩ <;> simp only [hb, Except.map] at h
    · cases h
    · cases h
      unfold readToEnd at hb
      split at hb <;> cases hb
      exact Nat.zero_le _
  · cases h
    exact Nat.le_refl _

theorem read_shrinks {s rest : Bytes} {r : Response} (h : read s = .ok (r, rest)) :
    rest.length < s.length := by
  rcases hf : firstLine s with _ | ⟨line, after⟩
  · simp [read, hf, bind, Except.bind] at h
  have h1 := firstLine_shrinks hf
  rcases hc : statusCode? line with _ | code
  · -- a line without a status code is the whole response
    simp only [read, hf, hc, bind, Except.bind, pure, Except.pure, Except.ok.injEq,
      Prod.mk.injEq] at h
    rw [← h.2]
    exact h1
  rcases hh : readHeaders { response := { status := code } } after with _ | ⟨hd, body⟩
  · simp [read, hf, hc, hh, bind, Except.bind] at h
  rw [read_eq_bodyOf ⟨line, after, code, hf, hc, hh⟩] at h
  have h2 := readHeaders_shrinks hh
  have h3 := bodyOf_shrinks h
  omega

/-- Reading response after response yields at most as many responses as the stream has bytes,
and more tries than that end at an error. -/
theorem readMany_bounded :
    ∀ (k : Nat) (s : Bytes), (readMany k s).1.length ≤ s.length ∧
      (s.length < k → (readMany k s).2.isSome)
  | 0, s => by simp [readMany]
  | k + 1, s => by
    rcases hr : read s with e | ⟨r, rest⟩
    · simp [readMany, hr]
    · have hlt := read_shrinks hr
      obtain ⟨ih₁, ih₂⟩ := readMany_bounded k rest
      rcases hm : readMany k rest with ⟨more, err⟩
      rw [hm] at ih₁ ih₂
      dsimp only at ih₁ ih₂
      simp only [readMany, hr, hm, List.length_cons]
      exact ⟨by omega, fun hk => ih₂ (by omega)⟩

end Response

open Wire in
/-- The reader's loops end, each within as many rounds that go around as there are bytes left
when it starts: a line read from a stream has cost at least one byte, and only the empty stream
yields none. The blank lines before the status line, the header lines, the chunks of a chunked
body and its trailer lines each finish with room to go around once per byte. Reading response
after response stops at an error, the end of the stream at the latest, after at most as many
responses as the stream has bytes. -/
theorem reader_loops_end (s : Bytes) :
    (takeLine s = none ↔ s = []) ∧
      (∀ line rest, takeLine s = some (line, rest) → ∃ used, used ≠ [] ∧ s = used ++ rest) ∧
      blankLines.within s.length () s = some (firstLine s) ∧
      (∀ hd, headerLines.within s.length hd s = some (readHeaders hd s)) ∧
      (∀ acc, chunks.within s.length acc s = some (readChunks acc s)) ∧
      trailerLines.within s.length () s = some (skipTrailers s) ∧
      Response.read [] = .error .eof ∧
      ∀ k, (Response.readMany k s).1.length ≤ s.length ∧
        (s.length < k → (Response.readMany k s).2.isSome) :=
  ⟨takeLine_eq_none_iff, fun _ _ => takeLine_consumes,
    Loop.within_eq_some runs_firstLine _ () s le_rfl,
    fun hd => Loop.within_eq_some runs_readHeaders _ hd s le_rfl,
    fun acc => Loop.within_eq_some runs_readChunks _ acc s le_rfl,
    Loop.within_eq_some runs_skipTrailers _ () s le_rfl,
    Response.read_nil, fun k => Response.readMany_bounded k s⟩

end ClusterAgent
