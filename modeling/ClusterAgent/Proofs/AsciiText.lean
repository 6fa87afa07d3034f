import ClusterAgent.Proofs.Aliases
import ClusterAgent.Text.Blank
import ClusterAgent.Text.Capitals
import ClusterAgent.Text.Numeral
import Mathlib.Algebra.Group.Int.Defs

/-!
# ASCII text reads as itself

Protocol words, header names, numerals and line separators are ASCII. On ASCII bytes the UTF-8
reading is one character per byte (`Bytes.pieces_ascii`), and each such character writes back to
its byte, so trimming keeps a word with no white space in it (`Bytes.trimBlank_visible`), and the
case tests come down to comparing the bytes, in lower case, with the word (`Bytes.lowerIs_ascii`,
`Bytes.foldIs_ascii`).

A numeral is read digit by digit onto an accumulator that only grows, so the reader's two
overflow checks pass whenever the final value fits a word (`Text.readDigits_of_digitsFrom`), and
`parseInt64` gives the value of every numeral below 2^63 (`Text.parseInt64_numeral`).
-/

namespace ClusterAgent

namespace Bytes

/-- Every byte lies in the ASCII range. -/
def Ascii (b : Bytes) : Prop := ∀ x ∈ b, x.toNat < 0x80

instance : DecidablePred Ascii := fun b => inferInstanceAs (Decidable (∀ x ∈ b, _))

/-- The character an ASCII byte stands for, in lower case. -/
def lowerChar (x : UInt8) : Char := (Char.ofNat x.toNat).toLower

/-- Whether the bytes are the ASCII word `w`, given in lower case, in any mix of letter cases. -/
def spells (b : Bytes) (w : String) : Bool := b.map lowerChar == w.toList

/-- Reads digits of `base` onto `acc`, most significant first; `none` at a byte that is no digit. -/
def digitsFrom (base acc : Nat) (b : Bytes) : Option Nat :=
  b.foldlM (fun acc x => (Text.digitValue? base x).map (acc * base + ·)) acc

/-- `b` writes `n` in `base`: at least one digit and nothing else, leading zeros allowed. -/
def Numeral (base : Nat) (b : Bytes) (n : Nat) : Prop := b ≠ [] ∧ b.digitsFrom base 0 = some n

instance (base : Nat) (b : Bytes) (n : Nat) : Decidable (b.Numeral base n) :=
  inferInstanceAs (Decidable (b ≠ [] ∧ _))

/-- `t` writes the integer `z` in decimal: the digits of its magnitude, after a `-` when it is
negative. -/
def Decimal (t : Bytes) (z : Int) : Prop :=
  if z < 0 then t.head? = some 0x2D ∧ Bytes.Numeral 10 t.tail z.natAbs else t.Numeral 10 z.toNat

instance (t : Bytes) (z : Int) : Decidable (t.Decimal z) :=
  inferInstanceAs (Decidable (if z < 0 then _ else _))

end Bytes

section Ascii

variable {x : UInt8}

theorem toNat_charOfNat_ascii (hx : x.toNat < 0x80) : (Char.ofNat x.toNat).toNat = x.toNat := by
  rw [Char.ofNat, dif_pos (Or.inl (by omega))]
  rfl

theorem Bytes.leadChar?_ascii (hx : x.toNat < 0x80) (rest : Bytes) :
    Bytes.leadChar? x rest = some (Char.ofNat x.toNat, 0) := by
  simp [Bytes.leadChar?, hx]

theorem Bytes.pieces_cons_ascii (hx : x.toNat < 0x80) (rest : Bytes) :
    Bytes.pieces (x :: rest) = .char (Char.ofNat x.toNat) :: Bytes.pieces rest := by
  rw [Bytes.pieces, Bytes.leadChar?_ascii hx]
  simp

theorem Bytes.pieces_ascii {b : Bytes} (hb : b.Ascii) :
    b.pieces = b.map fun x => .char (Char.ofNat x.toNat) := by
  induction b with
  | nil => simp [Bytes.pieces]
  | cons x rest ih =>
    rw [Bytes.pieces_cons_ascii (hb x (by simp)), ih fun y hy => hb y (by simp [hy])]
    rfl

theorem Piece.bytes_ascii (hx : x.toNat < 0x80) : (Piece.char (Char.ofNat x.toNat)).bytes = [x] := by
  have hn := toNat_charOfNat_ascii hx
  have hsize : (Char.ofNat x.toNat).utf8Size = 1 :=
    Char.utf8Size_eq_one_iff.mpr (UInt32.le_iff_toNat_le.mpr (by
      change (Char.ofNat x.toNat).toNat ≤ 127
      omega))
  simp only [Piece.bytes, Bytes.ofString, String.toUTF8_eq_toByteArray, String.toByteArray_singleton,
    List.utf8Encode_singleton, String.utf8EncodeChar_eq_singleton hsize, ByteArray.toList_eq]
  simp only [List.data_toByteArray, List.toList_toArray, List.cons.injEq, and_true]
  apply UInt8.toNat_inj.mp
  change (Char.ofNat x.toNat).toNat % 256 = x.toNat
  omega

theorem Bytes.ofPieces_ascii {b : Bytes} (hb : b.Ascii) :
    Bytes.ofPieces (b.map fun x => .char (Char.ofNat x.toNat)) = b := by
  induction b with
  | nil => rfl
  | cons x rest ih =>
    simp only [Bytes.ofPieces, List.map_cons, List.flatMap_cons] at ih ⊢
    rw [Piece.bytes_ascii (hb x (by simp)), ih fun y hy => hb y (by simp [hy])]
    rfl

theorem isBlank_visible (hlo : 0x21 ≤ x.toNat) (hhi : x.toNat ≤ 0x7E) :
    Text.Piece.isBlank (.char (Char.ofNat x.toNat)) = false := by
  simp only [Text.Piece.isBlank, Text.isBlank, toNat_charOfNat_ascii (by omega : x.toNat < 0x80)]
  simp only [Bool.or_eq_false_iff, Bool.and_eq_false_iff, beq_eq_false_iff_ne, decide_eq_false_iff_not]
  omega

theorem Bytes.trimBlank_visible {b : Bytes} (hb : ∀ x ∈ b, 0x21 ≤ x.toNat ∧ x.toNat ≤ 0x7E) :
    b.trimBlank = b := by
  have hascii : b.Ascii := fun x hx => by have := hb x hx; omega
  have hkeep : ∀ ps : List Piece, (∀ p ∈ ps, Text.Piece.isBlank p = false) →
      ps.dropWhile Text.Piece.isBlank = ps := by
    intro ps hps
    cases ps with
    | nil => rfl
    | cons p ps => exact List.dropWhile_cons_of_neg (by simp [hps p (by simp)])
  have hnone : ∀ p ∈ b.map (fun x => Piece.char (Char.ofNat x.toNat)), Text.Piece.isBlank p = false := by
    intro p hp
    obtain ⟨x, hx, rfl⟩ := List.mem_map.mp hp
    exact isBlank_visible (hb x hx).1 (hb x hx).2
  rw [Bytes.trimBlank, Bytes.pieces_ascii hascii, hkeep _ hnone,
    hkeep _ (fun p hp => hnone p (List.mem_reverse.mp hp)), List.reverse_reverse,
    Bytes.ofPieces_ascii hascii]

theorem Bytes.trimBlank_space_cons (v : Bytes) : Bytes.trimBlank (0x20 :: v) = v.trimBlank := by
  have hblank : Text.Piece.isBlank (.char (Char.ofNat (0x20 : UInt8).toNat)) = true := by decide
  simp only [Bytes.trimBlank, Bytes.pieces_cons_ascii (by decide : (0x20 : UInt8).toNat < 0x80),
    List.dropWhile_cons_of_pos hblank]

theorem Bytes.lowerAscii?_ascii (hx : x.toNat < 0x80) :
    Text.Piece.lowerAscii? (.char (Char.ofNat x.toNat)) = some (Bytes.lowerChar x) := by
  simp [Text.Piece.lowerAscii?, toNat_charOfNat_ascii hx, hx, Bytes.lowerChar]

theorem Bytes.foldAscii?_ascii (hx : x.toNat < 0x80) :
    Text.Piece.foldAscii? (.char (Char.ofNat x.toNat)) = some (Bytes.lowerChar x) := by
  simp [Text.Piece.foldAscii?, toNat_charOfNat_ascii hx, hx, Bytes.lowerChar]

theorem Bytes.lowerIs_ascii {b : Bytes} (hb : b.Ascii) (w : String) : b.lowerIs w = b.spells w := by
  have hmap : b.pieces.map Text.Piece.lowerAscii? = (b.map Bytes.lowerChar).map some := by
    rw [Bytes.pieces_ascii hb, List.map_map, List.map_map]
    exact List.map_congr_left fun x hx => Bytes.lowerAscii?_ascii (hb x hx)
  rw [Bytes.lowerIs, Bytes.spells, hmap]
  apply Bool.eq_iff_iff.mpr
  simp only [beq_iff_eq]
  exact List.map_inj_right fun _ _ h => Option.some.inj h

theorem Bytes.foldIs_ascii {b : Bytes} (hb : b.Ascii) (w : String) :
    b.foldIs w = (b.map Bytes.lowerChar == w.toList.map Char.toLower) := by
  have hmap : b.pieces.map Text.Piece.foldAscii? = (b.map Bytes.lowerChar).map some := by
    rw [Bytes.pieces_ascii hb, List.map_map, List.map_map]
    exact List.map_congr_left fun x hx => Bytes.foldAscii?_ascii (hb x hx)
  have hw : (w.toList.map fun c => some c.toLower) = (w.toList.map Char.toLower).map some := by
    simp
  rw [Bytes.foldIs, hmap, hw]
  apply Bool.eq_iff_iff.mpr
  simp only [beq_iff_eq]
  exact List.map_inj_right fun _ _ h => Option.some.inj h

theorem Bytes.foldIs_lower {b : Bytes} (hb : b.Ascii) {w : String}
    (hw : w.toList.map Char.toLower = w.toList) : b.foldIs w = b.spells w := by
  rw [Bytes.foldIs_ascii hb, hw, Bytes.spells]

end Ascii

section Numerals

variable {base acc v : Nat}

/-- A digit of any base is a decimal digit or a letter. -/
theorem Text.digitValue?_range {x : UInt8} {d : Nat} (h : Text.digitValue? base x = some d) :
    (0x30 ≤ x.toNat ∧ x.toNat ≤ 0x39) ∨ (0x41 ≤ x.toNat ∧ x.toNat ≤ 0x5A) ∨
      (0x61 ≤ x.toNat ∧ x.toNat ≤ 0x7A) := by
  simp only [Text.digitValue?] at h
  split_ifs at h <;> omega

theorem Bytes.digitsFrom_cons (x : UInt8) (xs : Bytes) :
    Bytes.digitsFrom base acc (x :: xs) =
      (Text.digitValue? base x).bind fun d => Bytes.digitsFrom base (acc * base + d) xs := by
  simp only [Bytes.digitsFrom, List.foldlM_cons]
  cases Text.digitValue? base x <;> rfl

theorem Bytes.le_of_digitsFrom {b : Bytes} (hbase : 0 < base)
    (h : Bytes.digitsFrom base acc b = some v) : acc ≤ v := by
  induction b generalizing acc with
  | nil => simp_all [Bytes.digitsFrom]
  | cons x xs ih =>
    rw [Bytes.digitsFrom_cons] at h
    obtain ⟨d, -, hd⟩ := Option.bind_eq_some_iff.mp h
    have := ih hd
    have : acc ≤ acc * base := Nat.le_mul_of_pos_right acc hbase
    omega

theorem Bytes.digit_of_digitsFrom {b : Bytes} (h : Bytes.digitsFrom base acc b = some v) :
    ∀ x ∈ b, ∃ d, Text.digitValue? base x = some d := by
  induction b generalizing acc with
  | nil => simp
  | cons x xs ih =>
    rw [Bytes.digitsFrom_cons] at h
    obtain ⟨d, hx, hd⟩ := Option.bind_eq_some_iff.mp h
    intro y hy
    rcases List.mem_cons.mp hy with rfl | hy
    · exact ⟨d, hx⟩
    · exact ih hd y hy

/-- Every byte of a numeral is a decimal digit or a letter. -/
theorem Bytes.Numeral.alnum {b : Bytes} {n : Nat} (h : b.Numeral base n) :
    ∀ x ∈ b, (0x30 ≤ x.toNat ∧ x.toNat ≤ 0x39) ∨ (0x41 ≤ x.toNat ∧ x.toNat ≤ 0x5A) ∨
      (0x61 ≤ x.toNat ∧ x.toNat ≤ 0x7A) := by
  intro x hx
  obtain ⟨d, hd⟩ := Bytes.digit_of_digitsFrom h.2 x hx
  exact Text.digitValue?_range hd

/-- A byte of a numeral is none of the given punctuation or control bytes. -/
theorem Bytes.Numeral.ne_of_mem {b : Bytes} {n : Nat} (h : b.Numeral base n) {x : UInt8}
    (hx : x ∈ b) {y : UInt8}
    (hy : y.toNat < 0x30 ∨ (0x39 < y.toNat ∧ y.toNat < 0x41) ∨ (0x5A < y.toNat ∧ y.toNat < 0x61)) :
    x ≠ y := by
  rintro rfl
  have := h.alnum x hx
  omega

theorem Bytes.Numeral.trimBlank {b : Bytes} {n : Nat} (h : b.Numeral base n) : b.trimBlank = b :=
  Bytes.trimBlank_visible fun x hx => by
    have := h.alnum x hx
    omega

/-- The reader's overflow checks pass on digits whose value fits a word. -/
theorem Text.readDigits_of_digitsFrom {b : Bytes} (hbase : 0 < base)
    (h : Bytes.digitsFrom base acc b = some v) (hv : v ≤ Text.wordMax) :
    Text.readDigits base acc b = .ok v := by
  induction b generalizing acc with
  | nil => simp_all [Bytes.digitsFrom, Text.readDigits]
  | cons x xs ih =>
    rw [Bytes.digitsFrom_cons] at h
    obtain ⟨d, hx, hd⟩ := Option.bind_eq_some_iff.mp h
    have hle := Bytes.le_of_digitsFrom hbase hd
    -- the accumulator times the base stays below the final value, hence below the word
    have hfit : ¬ acc ≥ Text.wordMax / base + 1 := by
      have : acc ≤ Text.wordMax / base := (Nat.le_div_iff_mul_le hbase).mpr (by omega)
      omega
    simp only [Text.readDigits, hx, hfit, if_false, show ¬ acc * base + d > Text.wordMax by omega]
    exact ih hd

theorem Text.parseInt64_numeral {b : Bytes} {n : Nat} (hbase : 0 < base) (h : b.Numeral base n)
    (hn : n < 2 ^ 63) : Text.parseInt64 base b = .ok n := by
  obtain ⟨hne, hv⟩ := h
  obtain ⟨x, xs, rfl⟩ := List.exists_cons_of_ne_nil hne
  have hx := Bytes.Numeral.alnum ⟨hne, hv⟩ x (by simp)
  have hread : Text.readDigits base 0 (x :: xs) = .ok n :=
    Text.readDigits_of_digitsFrom hbase hv (by unfold Text.wordMax; simp only [Nat.pow_eq]; omega)
  have h43 : x ≠ 43 := fun e => by subst e; simp at hx
  have h45 : x ≠ 45 := fun e => by subst e; simp at hx
  simp [Text.parseInt64, h43, h45, Text.readUnsigned, hread]
  omega

theorem Text.parseInt64_minus {u : Bytes} {n : Nat} (hbase : 0 < base) (h : u.Numeral base n)
    (hn : n ≤ 2 ^ 63) : Text.parseInt64 base (0x2D :: u) = .ok (-(n : Int)) := by
  obtain ⟨hne, hv⟩ := h
  obtain ⟨x, xs, rfl⟩ := List.exists_cons_of_ne_nil hne
  have hread : Text.readDigits base 0 (x :: xs) = .ok n :=
    Text.readDigits_of_digitsFrom hbase hv (by unfold Text.wordMax; simp only [Nat.pow_eq]; omega)
  simp [Text.parseInt64, Text.readUnsigned, hread]
  omega

theorem Text.decimal?_numeral {b : Bytes} {n : Nat} (h : b.Numeral 10 n) (hn : n < 2 ^ 63) :
    Text.decimal? b = some n := by
  simp [Text.decimal?, Text.parseDecimal, Text.parseInt64_numeral (by decide) h hn]

theorem Text.decimal?_of_decimal {t : Bytes} {z : Int} (h : t.Decimal z) (hlo : -2 ^ 63 ≤ z)
    (hhi : z < 2 ^ 63) : Text.decimal? t = some z := by
  unfold Bytes.Decimal at h
  split_ifs at h with hz
  · obtain ⟨hhead, hu⟩ := h
    obtain ⟨a, u, rfl⟩ := List.exists_cons_of_ne_nil (fun e : t = [] => by simp [e] at hhead)
    simp only [List.head?_cons, List.tail_cons, Option.some.injEq] at hhead hu
    subst hhead
    have hread := Text.parseInt64_minus (by decide) hu (by omega)
    simp only [Text.decimal?, Text.parseDecimal, hread, Option.some.injEq]
    omega
  · have hread := Text.parseInt64_numeral (by decide) h (by omega)
    simp only [Text.decimal?, Text.parseDecimal, hread, Option.some.injEq]
    omega

theorem Bytes.Decimal.ne_nil {t : Bytes} {z : Int} (h : t.Decimal z) : t ≠ [] := by
  unfold Bytes.Decimal at h
  split_ifs at h
  · rintro rfl
    simp at h
  · exact h.1

theorem Bytes.Decimal.ne_of_mem {t : Bytes} {z : Int} (h : t.Decimal z) {x : UInt8} (hx : x ∈ t)
    {y : UInt8} (hy : y.toNat < 0x2D) : x ≠ y := by
  unfold Bytes.Decimal at h
  split_ifs at h
  · obtain ⟨hhead, hu⟩ := h
    obtain ⟨a, u, rfl⟩ := List.exists_cons_of_ne_nil (fun e : t = [] => by simp [e] at hhead)
    simp only [List.head?_cons, List.tail_cons, Option.some.injEq] at hhead hu
    subst hhead
    rcases List.mem_cons.mp hx with rfl | hx
    · intro e
      have := congrArg UInt8.toNat e
      simp at this
      omega
    · exact hu.ne_of_mem hx (by omega)
  · exact h.ne_of_mem hx (by omega)

end Numerals

end ClusterAgent
