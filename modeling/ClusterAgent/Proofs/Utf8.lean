import ClusterAgent.Proofs.AsciiText
import Mathlib.Data.List.DropRight

/-!
# Reading UTF-8 back

The reader `Bytes.pieces` takes a character exactly where the next bytes are that character's
UTF-8 encoding (`Bytes.leadChar?_eq_some_iff`). Everything else about it follows: the pieces
write back to the bytes they came from (`Bytes.flatten_pieces`), a string reads as its characters
(`Bytes.pieces_ofString`), a byte that continues no character starts a new piece whatever comes
before it (`Bytes.pieces_append_of_not_cont`), and the pieces of a run of pieces read back as
themselves (`Bytes.pieces_ofPieces_of_append`).

So trimming white space is the same on a string and on its bytes (`Bytes.trimBlank_ofString`),
trimming twice is trimming once (`Bytes.trimBlank_trimBlank`), and the normal form of a context
path is one (`Bytes.normalizePath_normalizePath`).
-/

namespace ClusterAgent

theorem toNat_charOfNat {n : Nat} (h : n < 0xD800 ∨ (0xDFFF < n ∧ n < 0x110000)) :
    (Char.ofNat n).toNat = n := by
  rw [Char.ofNat, dif_pos h]
  rfl

theorem toNat_valid (c : Char) : c.toNat < 0xD800 ∨ (0xDFFF < c.toNat ∧ c.toNat < 0x110000) := by
  have h := c.valid
  simp only [UInt32.isValidChar, Nat.isValidChar] at h
  exact h

theorem Piece.bytes_char (c : Char) : (Piece.char c).bytes = String.utf8EncodeChar c := by
  simp only [Piece.bytes, Bytes.ofString, String.toUTF8_eq_toByteArray,
    String.toByteArray_singleton, List.utf8Encode_singleton, ByteArray.toList_eq]
  simp only [List.data_toByteArray, List.toList_toArray]

theorem Bytes.ofString_eq_flatMap (s : String) :
    Bytes.ofString s = s.toList.flatMap String.utf8EncodeChar := by
  conv => lhs; rw [← String.ofList_toList (s := s)]
  rw [Bytes.ofString, String.toUTF8_eq_toByteArray, String.toByteArray_ofList, ByteArray.toList_eq]
  simp [List.utf8Encode]

namespace Bytes

theorem contBits?_some {x : UInt8} (h1 : 0x80 ≤ x.toNat) (h2 : x.toNat ≤ 0xBF) :
    contBits? (some x) = some (x.toNat - 0x80) := by
  simp [contBits?, h1, h2]

theorem contBits?_eq_some {b : Option UInt8} {c : Nat} (h : contBits? b = some c) :
    ∃ x, b = some x ∧ 0x80 ≤ x.toNat ∧ x.toNat ≤ 0xBF ∧ c = x.toNat - 0x80 := by
  cases b with
  | none => simp [contBits?] at h
  | some x =>
    simp only [contBits?] at h
    split_ifs at h with hx
    exact ⟨x, rfl, hx.1, hx.2, (Option.some.inj h).symm⟩

theorem toNat_ofNat_lt {n : Nat} (h : n < 256) : (UInt8.ofNat n).toNat = n := by
  simp [Nat.mod_eq_of_lt h]

/-- Decoding the UTF-8 encoding of a character gives it back, whatever follows. -/
theorem leadChar?_utf8EncodeChar {c : Char} {b0 : UInt8} {t : Bytes}
    (ht : String.utf8EncodeChar c = b0 :: t) (s : Bytes) :
    leadChar? b0 (t ++ s) = some (c, t.length) := by
  have hv := toNat_valid c
  have hc : ∀ n, n = c.toNat → Char.ofNat n = c := fun n hn => hn ▸ Char.ofNat_toNat c
  unfold String.utf8EncodeChar at ht
  simp only [show c.val.toNat = c.toNat from rfl] at ht
  split at ht
  · obtain ⟨rfl, rfl⟩ := List.cons.inj ht
    simp [leadChar?, toNat_ofNat_lt (show c.toNat < 256 by omega), show c.toNat < 0x80 by omega,
      hc c.toNat rfl]
  split at ht
  · obtain ⟨rfl, rfl⟩ := List.cons.inj ht
    have h0 := toNat_ofNat_lt (show c.toNat / 64 % 32 + 0xC0 < 256 by omega)
    have h1 := toNat_ofNat_lt (show c.toNat % 64 + 0x80 < 256 by omega)
    simp only [leadChar?, h0, List.cons_append, List.nil_append, List.getElem?_cons_zero,
      contBits?_some (by omega : 0x80 ≤ (UInt8.ofNat (c.toNat % 64 + 0x80)).toNat) (by omega),
      List.length_cons, List.length_nil, h1]
    rw [if_neg (by omega), if_pos (by omega)]
    simp only [Option.map_some, Option.some.injEq, Prod.mk.injEq]
    exact ⟨hc _ (by omega), trivial⟩
  split at ht
  · obtain ⟨rfl, rfl⟩ := List.cons.inj ht
    have h0 := toNat_ofNat_lt (show c.toNat / 4096 % 16 + 0xE0 < 256 by omega)
    have h1 := toNat_ofNat_lt (show c.toNat / 64 % 64 + 0x80 < 256 by omega)
    have h2 := toNat_ofNat_lt (show c.toNat % 64 + 0x80 < 256 by omega)
    simp only [leadChar?, h0, List.cons_append, List.nil_append, List.getElem?_cons_zero,
      List.getElem?_cons_succ, h1, h2,
      contBits?_some (by omega : 0x80 ≤ (UInt8.ofNat (c.toNat / 64 % 64 + 0x80)).toNat) (by omega),
      contBits?_some (by omega : 0x80 ≤ (UInt8.ofNat (c.toNat % 64 + 0x80)).toNat) (by omega),
      List.length_cons, List.length_nil]
    rw [if_neg (by omega), if_neg (by omega), if_pos (by omega), if_pos (by split_ifs <;> omega)]
    simp only [Option.some.injEq, Prod.mk.injEq]
    exact ⟨hc _ (by omega), trivial⟩
  · obtain ⟨rfl, rfl⟩ := List.cons.inj ht
    have h0 := toNat_ofNat_lt (show c.toNat / 262144 % 8 + 0xF0 < 256 by omega)
    have h1 := toNat_ofNat_lt (show c.toNat / 4096 % 64 + 0x80 < 256 by omega)
    have h2 := toNat_ofNat_lt (show c.toNat / 64 % 64 + 0x80 < 256 by omega)
    have h3 := toNat_ofNat_lt (show c.toNat % 64 + 0x80 < 256 by omega)
    simp only [leadChar?, h0, List.cons_append, List.nil_append, List.getElem?_cons_zero,
      List.getElem?_cons_succ, h1, h2, h3,
      contBits?_some (by omega : 0x80 ≤ (UInt8.ofNat (c.toNat / 4096 % 64 + 0x80)).toNat) (by omega),
      contBits?_some (by omega : 0x80 ≤ (UInt8.ofNat (c.toNat / 64 % 64 + 0x80)).toNat) (by omega),
      contBits?_some (by omega : 0x80 ≤ (UInt8.ofNat (c.toNat % 64 + 0x80)).toNat) (by omega),
      List.length_cons, List.length_nil]
    rw [if_neg (by omega), if_neg (by omega), if_neg (by omega), if_pos (by omega),
      if_pos (by split_ifs <;> omega)]
    simp only [Option.some.injEq, Prod.mk.injEq]
    exact ⟨hc _ (by omega), trivial⟩

theorem ofNat_eq_of_toNat {n : Nat} {x : UInt8} (h : n = x.toNat) : UInt8.ofNat n = x := by
  subst h
  exact UInt8.ofNat_toNat

/-- What the decoder reads is a character's UTF-8 encoding, ending within the bytes. -/
theorem utf8EncodeChar_of_leadChar? {b0 : UInt8} {r : Bytes} {c : Char} {k : Nat}
    (h : leadChar? b0 r = some (c, k)) :
    String.utf8EncodeChar c = b0 :: r.take k ∧ k ≤ r.length := by
  have hb0 : b0.toNat < 256 := b0.toNat_lt_size
  unfold leadChar? at h
  dsimp only at h
  by_cases h1 : b0.toNat < 0x80
  · rw [if_pos h1] at h
    obtain ⟨rfl, rfl⟩ := Prod.mk.inj (Option.some.inj h).symm
    refine ⟨?_, Nat.zero_le _⟩
    rw [← Piece.bytes_char, Piece.bytes_ascii h1]
    rfl
  rw [if_neg h1] at h
  by_cases h2 : 0xC2 ≤ b0.toNat ∧ b0.toNat ≤ 0xDF
  · rw [if_pos h2] at h
    obtain ⟨c1, hc1, hc⟩ := Option.map_eq_some_iff.1 h
    obtain ⟨rfl, rfl⟩ := Prod.mk.inj hc.symm
    obtain ⟨x0, hx0, hlo0, hhi0, hc1⟩ := contBits?_eq_some hc1
    have hlen : 1 ≤ r.length := (List.getElem?_eq_some_iff.1 hx0).1
    have hN : (Char.ofNat ((b0.toNat - 0xC0) * 64 + c1)).val.toNat = (b0.toNat - 0xC0) * 64 + c1 :=
      toNat_charOfNat (by omega)
    refine ⟨?_, hlen⟩
    unfold String.utf8EncodeChar
    simp only [hN]
    rw [if_neg (by omega), if_pos (by omega), ofNat_eq_of_toNat (x := b0) (by omega),
      ofNat_eq_of_toNat (x := x0) (by omega)]
    simp [List.take_add_one, hx0]
  rw [if_neg h2] at h
  by_cases h3 : 0xE0 ≤ b0.toNat ∧ b0.toNat ≤ 0xEF
  · rw [if_pos h3] at h
    split at h
    · rename_i c1 c2 hc1 hc2
      obtain ⟨hr, hc⟩ := Option.ite_none_right_eq_some.1 h
      obtain ⟨rfl, rfl⟩ := Prod.mk.inj (Option.some.inj hc).symm
      obtain ⟨x0, hx0, hlo0, hhi0, hc1⟩ := contBits?_eq_some hc1
      obtain ⟨x1, hx1, hlo1, hhi1, hc2⟩ := contBits?_eq_some hc2
      have hr' : (b0.toNat = 0xE0 → 0x20 ≤ c1) ∧ (b0.toNat = 0xED → c1 ≤ 0x1F) := by
        constructor <;> intro he <;> simp only [he] at hr <;> simp at hr <;> omega
      have hlen : 2 ≤ r.length := (List.getElem?_eq_some_iff.1 hx1).1
      have hN : (Char.ofNat ((b0.toNat - 0xE0) * 4096 + c1 * 64 + c2)).val.toNat =
          (b0.toNat - 0xE0) * 4096 + c1 * 64 + c2 :=
        toNat_charOfNat (by omega)
      refine ⟨?_, hlen⟩
      unfold String.utf8EncodeChar
      simp only [hN]
      rw [if_neg (by omega), if_neg (by omega), if_pos (by omega),
        ofNat_eq_of_toNat (x := b0) (by omega), ofNat_eq_of_toNat (x := x0) (by omega),
        ofNat_eq_of_toNat (x := x1) (by omega)]
      simp [List.take_add_one, hx0, hx1]
    · cases h
  rw [if_neg h3] at h
  by_cases h4 : 0xF0 ≤ b0.toNat ∧ b0.toNat ≤ 0xF4
  · rw [if_pos h4] at h
    split at h
    · rename_i c1 c2 c3 hc1 hc2 hc3
      obtain ⟨hr, hc⟩ := Option.ite_none_right_eq_some.1 h
      obtain ⟨rfl, rfl⟩ := Prod.mk.inj (Option.some.inj hc).symm
      obtain ⟨x0, hx0, hlo0, hhi0, hc1⟩ := contBits?_eq_some hc1
      obtain ⟨x1, hx1, hlo1, hhi1, hc2⟩ := contBits?_eq_some hc2
      obtain ⟨x2, hx2, hlo2, hhi2, hc3⟩ := contBits?_eq_some hc3
      have hr' : (b0.toNat = 0xF0 → 0x10 ≤ c1) ∧ (b0.toNat = 0xF4 → c1 ≤ 0x0F) := by
        constructor <;> intro he <;> simp only [he] at hr <;> simp at hr <;> omega
      have hlen : 3 ≤ r.length := (List.getElem?_eq_some_iff.1 hx2).1
      have hN : (Char.ofNat ((b0.toNat - 0xF0) * 262144 + c1 * 4096 + c2 * 64 + c3)).val.toNat =
          (b0.toNat - 0xF0) * 262144 + c1 * 4096 + c2 * 64 + c3 :=
        toNat_charOfNat (by omega)
      refine ⟨?_, hlen⟩
      unfold String.utf8EncodeChar
      simp only [hN]
      rw [if_neg (by omega), if_neg (by omega), if_neg (by omega),
        ofNat_eq_of_toNat (x := b0) (by omega), ofNat_eq_of_toNat (x := x0) (by omega),
        ofNat_eq_of_toNat (x := x1) (by omega), ofNat_eq_of_toNat (x := x2) (by omega)]
      simp [List.take_add_one, hx0, hx1, hx2]
    · cases h
  rw [if_neg h4] at h
  cases h

/-- The decoder reads `c` from `b0` and `k` more bytes exactly when they are `c`'s encoding. -/
theorem leadChar?_eq_some_iff {b0 : UInt8} {r : Bytes} {c : Char} {k : Nat} :
    leadChar? b0 r = some (c, k) ↔ String.utf8EncodeChar c = b0 :: r.take k ∧ k ≤ r.length := by
  constructor
  · exact utf8EncodeChar_of_leadChar?
  · rintro ⟨he, hk⟩
    have h := leadChar?_utf8EncodeChar he (r.drop k)
    rwa [List.take_append_drop, List.length_take, Nat.min_eq_left hk] at h

theorem leadChar?_append {b0 : UInt8} {r : Bytes} {v : Char × Nat} (h : leadChar? b0 r = some v)
    (s : Bytes) : leadChar? b0 (r ++ s) = some v := by
  obtain ⟨c, k⟩ := v
  obtain ⟨he, hk⟩ := leadChar?_eq_some_iff.1 h
  refine leadChar?_eq_some_iff.2 ⟨?_, by simp; omega⟩
  rw [List.take_append_of_le_length hk, he]

theorem cont_of_mem_utf8EncodeChar {c : Char} {b0 x : UInt8} {t : Bytes}
    (ht : String.utf8EncodeChar c = b0 :: t) (hx : x ∈ t) : 0x80 ≤ x.toNat ∧ x.toNat ≤ 0xBF := by
  have hcont : ∀ n, (UInt8.ofNat (n % 64 + 0x80)).toNat = n % 64 + 0x80 := fun n =>
    toNat_ofNat_lt (by omega)
  unfold String.utf8EncodeChar at ht
  dsimp only at ht
  split at ht
  · obtain ⟨-, rfl⟩ := List.cons.inj ht
    simp at hx
  split at ht
  · obtain ⟨-, rfl⟩ := List.cons.inj ht
    simp only [List.mem_singleton] at hx
    subst hx
    rw [hcont]
    omega
  split at ht
  · obtain ⟨-, rfl⟩ := List.cons.inj ht
    simp only [List.mem_cons, List.not_mem_nil, or_false] at hx
    rcases hx with rfl | rfl <;> rw [hcont] <;> omega
  · obtain ⟨-, rfl⟩ := List.cons.inj ht
    simp only [List.mem_cons, List.not_mem_nil, or_false] at hx
    rcases hx with rfl | rfl | rfl <;> rw [hcont] <;> omega

theorem pieces_nil : pieces [] = [] := by
  rw [pieces]

theorem pieces_cons_of_leadChar? {b0 : UInt8} {rest : Bytes} {c : Char} {k : Nat}
    (h : leadChar? b0 rest = some (c, k)) : pieces (b0 :: rest) = .char c :: pieces (rest.drop k) := by
  rw [pieces, h]

theorem pieces_cons_of_leadChar?_none {b0 : UInt8} {rest : Bytes} (h : leadChar? b0 rest = none) :
    pieces (b0 :: rest) = .stray b0 :: pieces rest := by
  rw [pieces, h]

@[simp] theorem ofPieces_nil : ofPieces [] = [] := rfl

@[simp] theorem ofPieces_cons (p : Piece) (ps : List Piece) :
    ofPieces (p :: ps) = p.bytes ++ ofPieces ps := rfl

theorem ofPieces_append (ps qs : List Piece) : ofPieces (ps ++ qs) = ofPieces ps ++ ofPieces qs :=
  List.flatMap_append

theorem flatten_pieces (b : Bytes) : ofPieces (pieces b) = b := by
  fun_induction pieces b with
  | case1 => rfl
  | case2 b0 rest c k h ih =>
    obtain ⟨he, -⟩ := leadChar?_eq_some_iff.1 h
    rw [ofPieces_cons, ih, Piece.bytes_char, he, List.cons_append, List.take_append_drop]
  | case3 b0 rest h ih => rw [ofPieces_cons, ih]; rfl

/-- A byte that continues no character starts a new piece, whatever comes before it. -/
theorem pieces_append_of_not_cont (x : Bytes) {y : UInt8} (hy : ¬ (0x80 ≤ y.toNat ∧ y.toNat ≤ 0xBF))
    (s : Bytes) : pieces (x ++ y :: s) = pieces x ++ pieces (y :: s) := by
  fun_induction pieces x with
  | case1 => rfl
  | case2 b0 rest c k h ih =>
    have hk := (leadChar?_eq_some_iff.1 h).2
    rw [List.cons_append, pieces_cons_of_leadChar? (leadChar?_append h _),
      List.drop_append_of_le_length hk, ih, List.cons_append]
  | case3 b0 rest h ih =>
    -- a stray byte stays stray: reading a character through `y` would make `y` continue it
    have hnone : leadChar? b0 (rest ++ y :: s) = none := by
      cases hr : leadChar? b0 (rest ++ y :: s) with
      | none => rfl
      | some v =>
        obtain ⟨c, k⟩ := v
        obtain ⟨he, hk⟩ := leadChar?_eq_some_iff.1 hr
        by_cases hkr : k ≤ rest.length
        · rw [List.take_append_of_le_length hkr] at he
          have : leadChar? b0 rest = some (c, k) := leadChar?_eq_some_iff.2 ⟨he, hkr⟩
          rw [h] at this
          cases this
        · have hy' : y ∈ (rest ++ y :: s).take k := by
            rw [List.take_append, List.take_of_length_le (by omega)]
            obtain ⟨j, hj⟩ : ∃ j, k - rest.length = j + 1 := ⟨k - rest.length - 1, by omega⟩
            simp [hj]
          exact absurd (cont_of_mem_utf8EncodeChar he hy') hy
    rw [List.cons_append, pieces_cons_of_leadChar?_none hnone, ih, List.cons_append]

theorem pieces_ofPieces_of_append {b : Bytes} {A B : List Piece} (h : pieces b = A ++ B) :
    pieces (ofPieces A) = A ∧ pieces (ofPieces B) = B := by
  fun_induction pieces b generalizing A with
  | case1 =>
    obtain ⟨rfl, rfl⟩ := List.append_eq_nil_iff.1 h.symm
    exact ⟨pieces_nil, pieces_nil⟩
  | case2 b0 rest c k hl ih =>
    cases A with
    | nil =>
      rw [List.nil_append] at h
      subst h
      rw [← pieces_cons_of_leadChar? hl, flatten_pieces]
      exact ⟨pieces_nil, rfl⟩
    | cons p A =>
      obtain ⟨rfl, hA⟩ := List.cons.inj h
      obtain ⟨ihA, ihB⟩ := ih hA
      refine ⟨?_, ihB⟩
      obtain ⟨he, hk⟩ := leadChar?_eq_some_iff.1 hl
      have hread := leadChar?_utf8EncodeChar he (ofPieces A)
      rw [List.length_take, Nat.min_eq_left hk] at hread
      rw [ofPieces_cons, Piece.bytes_char, he, List.cons_append, pieces_cons_of_leadChar? hread,
        List.drop_append_of_le_length (by simp; omega), List.drop_of_length_le (by simp),
        List.nil_append, ihA]
  | case3 b0 rest hl ih =>
    cases A with
    | nil =>
      rw [List.nil_append] at h
      subst h
      rw [← pieces_cons_of_leadChar?_none hl, flatten_pieces]
      exact ⟨pieces_nil, rfl⟩
    | cons p A =>
      obtain ⟨rfl, hA⟩ := List.cons.inj h
      replace hA : pieces rest = A ++ B := hA
      obtain ⟨ihA, ihB⟩ := ih hA
      refine ⟨?_, ihB⟩
      have hnone : leadChar? b0 (ofPieces A) = none := by
        cases hr : leadChar? b0 (ofPieces A) with
        | none => rfl
        | some v =>
          have := leadChar?_append hr (ofPieces B)
          rw [← ofPieces_append, ← hA, flatten_pieces, hl] at this
          cases this
      rw [ofPieces_cons, show (Piece.stray b0).bytes = [b0] from rfl, List.singleton_append,
        pieces_cons_of_leadChar?_none hnone, ihA]

theorem pieces_ofString (s : String) : pieces (ofString s) = s.toList.map .char := by
  rw [ofString_eq_flatMap]
  induction s.toList with
  | nil => simp [pieces_nil]
  | cons c l ih =>
    obtain ⟨b0, t, ht⟩ := List.exists_cons_of_ne_nil (String.utf8EncodeChar_ne_nil (c := c))
    rw [List.flatMap_cons, ht, List.cons_append,
      pieces_cons_of_leadChar? (leadChar?_utf8EncodeChar ht _), List.drop_left, ih, List.map_cons]

theorem ofPieces_map_char (l : List Char) : ofPieces (l.map .char) = l.flatMap String.utf8EncodeChar := by
  simp [ofPieces, List.flatMap_map, Piece.bytes_char]

theorem ofString_eq_nil_iff {s : String} : ofString s = [] ↔ s = "" := by
  rw [ofString_eq_flatMap, List.flatMap_eq_nil_iff, ← String.toList_eq_nil_iff]
  constructor
  · intro h
    cases hs : s.toList with
    | nil => rfl
    | cons c l => exact absurd (h c (by simp [hs])) String.utf8EncodeChar_ne_nil
  · intro h c hc
    simp [h] at hc

/-! ## Trimming -/

/-- Trimming drops blank pieces at the front, then at the end. -/
theorem trimBlank_eq (b : Bytes) :
    b.trimBlank = ofPieces (((pieces b).dropWhile Text.Piece.isBlank).rdropWhile Text.Piece.isBlank) :=
  rfl

/-- Trimmed bytes read as the trimmed pieces. -/
theorem pieces_trimBlank (b : Bytes) :
    pieces b.trimBlank =
      ((pieces b).dropWhile Text.Piece.isBlank).rdropWhile Text.Piece.isBlank := by
  have hsplit : pieces b = (pieces b).takeWhile Text.Piece.isBlank ++
      ((((pieces b).dropWhile Text.Piece.isBlank).rdropWhile Text.Piece.isBlank) ++
        ((pieces b).dropWhile Text.Piece.isBlank).rtakeWhile Text.Piece.isBlank) := by
    rw [List.rdropWhile_append_rtakeWhile, List.takeWhile_append_dropWhile]
  rw [trimBlank_eq]
  exact (pieces_ofPieces_of_append (pieces_ofPieces_of_append hsplit).2).1

theorem dropWhile_rdropWhile_dropWhile {α : Type} (p : α → Bool) (l : List α) :
    ((l.dropWhile p).rdropWhile p).dropWhile p = (l.dropWhile p).rdropWhile p := by
  cases h : l.dropWhile p with
  | nil => simp
  | cons x xs =>
    have hx : p x = false := by
      simpa [h] using List.head_dropWhile_not p (l := l) (by simp [h])
    cases hr : (x :: xs).rdropWhile p with
    | nil => rfl
    | cons y ys =>
      have hpre := List.rdropWhile_prefix (p := p) (l := x :: xs)
      rw [hr, List.cons_prefix_cons] at hpre
      rw [hpre.1]
      exact List.dropWhile_cons_of_neg (by simp [hx])

theorem trimBlank_trimBlank (b : Bytes) : b.trimBlank.trimBlank = b.trimBlank := by
  rw [trimBlank_eq b.trimBlank, pieces_trimBlank, dropWhile_rdropWhile_dropWhile,
    List.rdropWhile_idempotent, ← trimBlank_eq]

theorem trimBlank_ofString (s : String) : (ofString s).trimBlank = ofString s.trimBlank := by
  have hblank : (Text.Piece.isBlank ∘ Piece.char) = Text.isBlank := rfl
  rw [trimBlank_eq, pieces_ofString, String.trimBlank, ofString_eq_flatMap (String.ofList _),
    String.toList_ofList]
  unfold List.rdropWhile
  rw [List.dropWhile_map, hblank, ← List.map_reverse, List.dropWhile_map, hblank, ← List.map_reverse,
    ofPieces_map_char]

theorem normalizePath_ofString (s : String) :
    Bytes.normalizePath (ofString s) = ofString (ClusterAgent.normalizePath s) := by
  unfold Bytes.normalizePath ClusterAgent.normalizePath
  rw [trimBlank_ofString]
  by_cases h : s.trimBlank = ""
  · have hroot : ofString "/" = [0x2F] := by decide +kernel
    simp [h, hroot, ofString_eq_nil_iff]
  · have h' : (ofString s.trimBlank).isEmpty = false := by
      simpa [List.isEmpty_iff, ofString_eq_nil_iff] using h
    simp [h', String.isEmpty_iff, h]

theorem normalizePath_normalizePath (p : Bytes) :
    Bytes.normalizePath (Bytes.normalizePath p) = Bytes.normalizePath p := by
  unfold Bytes.normalizePath
  by_cases h : p.trimBlank.isEmpty
  · have hroot : Bytes.trimBlank [0x2F] = [0x2F] := trimBlank_visible (by simp)
    simp [h, hroot]
  · simp [h, trimBlank_trimBlank]

end Bytes

end ClusterAgent
