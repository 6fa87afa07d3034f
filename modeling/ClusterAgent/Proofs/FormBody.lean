import ClusterAgent.Protocol.Request
import ClusterAgent.Proofs.ResponseStream

/-!
# Reading a request body back

A proxy reads a request body as a form: it splits the body at `&`, splits each piece at its first
`=` and unescapes both sides, `+` as a space and `%XX` as the byte with hex digits `XX`
(`FormEncoding.decodePairs`). Reading the body of any request that way gives back exactly what the
request carries (`Request.body_reads_back`): `JVMRoute` with the route when there is a route, then
the parameters in order, whatever bytes their names and values hold. The body is empty only when
there is nothing to carry, it is written in a small alphabet, and the head announces its length.

What makes the split work is that an encoded component holds neither `&` nor `=`
(`FormEncoding.mem_encode`): every byte of it is unreserved, `%` or `+`.
-/

namespace ClusterAgent.FormEncoding

/-- The value of a hex digit, in either letter case. -/
def hexValue? (b : UInt8) : Option Nat :=
  if 0x30 ≤ b ∧ b ≤ 0x39 then some (b.toNat - 0x30)
  else if 0x41 ≤ b ∧ b ≤ 0x46 then some (b.toNat - 0x37)
  else if 0x61 ≤ b ∧ b ≤ 0x66 then some (b.toNat - 0x57)
  else none

/-- The byte an escape stands for, given what follows its `%`: two hex digits. -/
def escaped? : Bytes → Option UInt8
  | h :: l :: _ => do
    let x ← hexValue? h
    let y ← hexValue? l
    pure (16 * x + y).toUInt8
  | _ => none

/-- Undoes the encoding of a component: `+` is a space and `%XX` the byte with hex digits `XX`; a
`%` not followed by two hex digits is refused. -/
def unescape : Bytes → Option Bytes
  | [] => some []
  | b :: rest =>
    if b = 0x2B then (unescape rest).map (0x20 :: ·)
    else if b = 0x25 then (escaped? rest).bind fun x => (unescape (rest.drop 2)).map (x :: ·)
    else (unescape rest).map (b :: ·)
termination_by b => b.length
decreasing_by all_goals simp only [List.length_drop, List.length_cons]; omega

/-- Reads a form: the pieces between `&`, each split at its first `=`, both sides unescaped. The
empty form has no pairs. -/
def decodePairs (body : Bytes) : Option (List (Bytes × Bytes)) :=
  if body.isEmpty then some []
  else (body.splitOn 0x26).mapM fun piece => do
    let (n, v) ← Bytes.cut 0x3D piece
    pure (← unescape n, ← unescape v)

theorem hexValue?_hexByte_of_mem : ∀ n ∈ List.range 16, hexValue? (hexByte n) = some n := by
  decide

theorem hexValue?_hexByte {n : Nat} (h : n < 16) : hexValue? (hexByte n) = some n :=
  hexValue?_hexByte_of_mem n (List.mem_range.2 h)

theorem isUnreserved_hexByte_of_mem : ∀ n ∈ List.range 16, isUnreserved (hexByte n) = true := by
  decide

theorem isUnreserved_hexByte {n : Nat} (h : n < 16) : isUnreserved (hexByte n) = true :=
  isUnreserved_hexByte_of_mem n (List.mem_range.2 h)

theorem escaped?_hexBytes (x : UInt8) (rest : Bytes) :
    escaped? (hexByte (x.toNat / 16) :: hexByte (x.toNat % 16) :: rest) = some x := by
  have hx : x.toNat < 256 := x.toNat_lt_size
  have hval : (16 * (x.toNat / 16) + x.toNat % 16).toUInt8 = x := by
    rw [show 16 * (x.toNat / 16) + x.toNat % 16 = x.toNat by omega]
    exact UInt8.ofNat_toNat
  simp only [escaped?, hexValue?_hexByte (show x.toNat / 16 < 16 by omega),
    hexValue?_hexByte (show x.toNat % 16 < 16 by omega), Option.bind_eq_bind, Option.bind_some,
    Option.pure_def, hval]

theorem unescape_encodeByte_append (x : UInt8) (rest : Bytes) :
    unescape (encodeByte x ++ rest) = (unescape rest).map (x :: ·) := by
  unfold encodeByte
  split
  · -- an unreserved byte is neither `+` nor `%`, so it is read as itself
    rename_i hu
    have h2B : x ≠ 0x2B := by rintro rfl; simp [isUnreserved] at hu
    have h25 : x ≠ 0x25 := by rintro rfl; simp [isUnreserved] at hu
    simp [unescape, h2B, h25]
  · split
    · rename_i _ hsp
      simp [unescape, beq_iff_eq.1 hsp]
    · simp [unescape, escaped?_hexBytes]

theorem unescape_encode_append (b rest : Bytes) :
    unescape (encode b ++ rest) = (unescape rest).map (b ++ ·) := by
  induction b with
  | nil => simp [encode]
  | cons x b ih =>
    rw [encode, List.flatMap_cons, List.append_assoc, unescape_encodeByte_append, ← encode, ih]
    simp [Option.map_map, Function.comp_def]

@[simp] theorem unescape_encode (b : Bytes) : unescape (encode b) = some b := by
  simpa [unescape] using unescape_encode_append b []

theorem mem_encode {b : Bytes} {x : UInt8} (hx : x ∈ encode b) :
    isUnreserved x = true ∨ x = 0x25 ∨ x = 0x2B := by
  obtain ⟨y, -, hy⟩ := List.mem_flatMap.1 hx
  have hy' : y.toNat < 256 := y.toNat_lt_size
  unfold encodeByte at hy
  split at hy
  · simp_all
  · split at hy
    · simp_all
    · simp only [List.mem_cons, List.not_mem_nil, or_false] at hy
      rcases hy with rfl | rfl | rfl
      · simp
      · exact .inl (isUnreserved_hexByte (by omega))
      · exact .inl (isUnreserved_hexByte (by omega))

theorem amp_not_mem_encode (b : Bytes) : (0x26 : UInt8) ∉ encode b := by
  intro h
  rcases mem_encode h with h | h | h <;> simp_all [isUnreserved]

theorem eq_not_mem_encode (b : Bytes) : (0x3D : UInt8) ∉ encode b := by
  intro h
  rcases mem_encode h with h | h | h <;> simp_all [isUnreserved]

/-- One encoded pair. -/
def encodePair (p : Bytes × Bytes) : Bytes := encode p.1 ++ [0x3D] ++ encode p.2

theorem encodePairs_eq_intercalate (ps : List (Bytes × Bytes)) :
    encodePairs ps = [0x26].intercalate (ps.map encodePair) := rfl

theorem amp_not_mem_encodePair (p : Bytes × Bytes) : (0x26 : UInt8) ∉ encodePair p := by
  simp [encodePair, amp_not_mem_encode]

theorem cut_encodePair (p : Bytes × Bytes) :
    Bytes.cut 0x3D (encodePair p) = some (encode p.1, encode p.2) := by
  simp [encodePair, Bytes.cut_append_of_not_mem (eq_not_mem_encode p.1), Bytes.cut_cons_self]

theorem decodePair_encodePair (p : Bytes × Bytes) :
    (do
      let (n, v) ← Bytes.cut 0x3D (encodePair p)
      pure (← unescape n, ← unescape v)) = some p := by
  simp [cut_encodePair]

theorem decodePairs_encodePairs (ps : List (Bytes × Bytes)) :
    decodePairs (encodePairs ps) = some ps := by
  cases ps with
  | nil => rfl
  | cons p rest =>
    have hsplit : (encodePairs (p :: rest)).splitOn 0x26 = (p :: rest).map encodePair := by
      rw [encodePairs_eq_intercalate]
      refine List.splitOn_intercalate _ ?_ (by simp)
      simp only [List.mem_map]
      rintro _ ⟨q, -, rfl⟩
      exact amp_not_mem_encodePair q
    have hne : (encodePairs (p :: rest)).isEmpty = false := by
      cases rest <;> simp [encodePairs]
    rw [decodePairs, hne, if_neg Bool.false_ne_true, hsplit, List.mapM_map]
    simp only [Function.comp_def, decodePair_encodePair]
    exact List.mapM_pure (f := id) |>.trans (by simp)

theorem encodePairs_eq_nil_iff (ps : List (Bytes × Bytes)) : encodePairs ps = [] ↔ ps = [] := by
  rw [encodePairs_eq_intercalate]
  cases ps with
  | nil => simp
  | cons p rest => cases rest <;> simp [List.intercalate, encodePair]

end ClusterAgent.FormEncoding

namespace ClusterAgent.Request

theorem body_eq_nil_iff (r : Request) : r.body = [] ↔ r.route = [] ∧ r.params = [] := by
  rw [body, FormEncoding.encodePairs_eq_nil_iff, fields]
  cases r.route <;> simp

theorem mem_intersperse_of_mem {α : Type} {sep l : α} :
    ∀ {L : List α}, l ∈ L.intersperse sep → l ∈ L ∨ l = sep
  | [], h => by simp at h
  | [a], h => .inl h
  | a :: b :: L, h => by
    rw [List.intersperse_cons_cons, List.mem_cons, List.mem_cons] at h
    rcases h with rfl | rfl | h
    · simp
    · simp
    · rcases mem_intersperse_of_mem h with h | h
      · exact .inl (List.mem_cons_of_mem _ h)
      · exact .inr h

theorem mem_body {r : Request} {x : UInt8} (hx : x ∈ r.body) :
    FormEncoding.isUnreserved x = true ∨ x = 0x25 ∨ x = 0x2B ∨ x = 0x3D ∨ x = 0x26 := by
  obtain ⟨piece, hpiece, hx⟩ := List.mem_flatten.1 hx
  rcases mem_intersperse_of_mem hpiece with hpiece | rfl
  · -- a piece is an encoded pair
    obtain ⟨p, -, rfl⟩ := List.mem_map.1 hpiece
    simp only [List.append_assoc, List.mem_append, List.mem_singleton] at hx
    rcases hx with hx | rfl | hx
    · rcases FormEncoding.mem_encode hx with h | h | h <;> simp [h]
    · simp
    · rcases FormEncoding.mem_encode hx with h | h | h <;> simp [h]
  · simp_all

/-- The body read back as a form is the route, when there is one, then the parameters. -/
theorem decodePairs_body (r : Request) :
    FormEncoding.decodePairs r.body = some r.fields :=
  FormEncoding.decodePairs_encodePairs r.fields

/-- The head announces the body's length in bytes exactly when there is a body. -/
theorem head_body_length (r : Request) (basePath hostHeader : String) :
    r.head basePath hostHeader r.body.length =
      r.command.verb ++ " " ++ basePath ++ (if r.wildcard then "*" else "") ++ " HTTP/1.1\r\n" ++
        "Host: " ++ hostHeader ++ "\r\n" ++
        (if r.body = [] then "" else "Content-Length: " ++ toString r.body.length ++ "\r\n") ++
        "User-Agent: ClusterListener/1.0\r\n" ++ "Connection: Keep-Alive\r\n" ++ "\r\n" := by
  by_cases hb : r.body = [] <;> simp [head, hb, List.length_pos_iff]

/-- A request's body reads back, as a form, to what the request carries: `JVMRoute` with the route
when there is a route, then each parameter in order. It is empty exactly when there is nothing to
carry, it is written with unreserved bytes, `%`, `+`, `=` and `&` only, and the head carries
`Content-Length` with its length in bytes exactly when it is not empty. -/
theorem body_reads_back (r : Request) (basePath hostHeader : String) :
    FormEncoding.decodePairs r.body =
        some ((if r.route = [] then [] else [(Bytes.ofString "JVMRoute", r.route)]) ++ r.params) ∧
      (r.body = [] ↔ r.route = [] ∧ r.params = []) ∧
      (∀ x ∈ r.body,
        FormEncoding.isUnreserved x = true ∨ x = 0x25 ∨ x = 0x2B ∨ x = 0x3D ∨ x = 0x26) ∧
      r.head basePath hostHeader r.body.length =
        r.command.verb ++ " " ++ basePath ++ (if r.wildcard then "*" else "") ++ " HTTP/1.1\r\n" ++
          "Host: " ++ hostHeader ++ "\r\n" ++
          (if r.body = [] then "" else "Content-Length: " ++ toString r.body.length ++ "\r\n") ++
          "User-Agent: ClusterListener/1.0\r\n" ++ "Connection: Keep-Alive\r\n" ++ "\r\n" := by
  refine ⟨?_, body_eq_nil_iff r, fun _ => mem_body, head_body_length r basePath hostHeader⟩
  rw [decodePairs_body, fields, routeParam]
  simp [List.isEmpty_iff]

end ClusterAgent.Request
