import ClusterAgent.Text.Bytes
import ClusterAgent.Text.Quoted

/-!
# Form encoding

Request bodies are `name=value` pairs joined by `&`, each side form-encoded: the unreserved
bytes `A-Z a-z 0-9 - _ . ~` stand for themselves, a space becomes `+`, and every other byte
becomes `%XX` with upper-case hex digits. An encoded component therefore never contains `&`
or `=`, which is what makes the body split back into its pairs.
-/

namespace ClusterAgent.FormEncoding

/-- Whether a byte is written as itself. -/
def isUnreserved (b : UInt8) : Bool :=
  (0x41 ≤ b && b ≤ 0x5A) || (0x61 ≤ b && b ≤ 0x7A) || (0x30 ≤ b && b ≤ 0x39) ||
    b == 0x2D || b == 0x5F || b == 0x2E || b == 0x7E

/-- The upper-case hex digit of a value below 16, as a byte. -/
def hexByte (n : Nat) : UInt8 :=
  if n < 10 then (48 + n).toUInt8 else (55 + n).toUInt8

/-- The encoding of one byte. -/
def encodeByte (b : UInt8) : Bytes :=
  if isUnreserved b then [b]
  else if b == 0x20 then [0x2B]
  else [0x25, hexByte (b.toNat / 16), hexByte (b.toNat % 16)]

/-- The encoding of a component. -/
def encode (b : Bytes) : Bytes := b.flatMap encodeByte

/-- Joins pairs as `name=value` separated by `&`, each side encoded. -/
def encodePairs (ps : List (Bytes × Bytes)) : Bytes :=
  (ps.map fun p => encode p.1 ++ [0x3D] ++ encode p.2).intersperse [0x26] |>.flatten

end ClusterAgent.FormEncoding
