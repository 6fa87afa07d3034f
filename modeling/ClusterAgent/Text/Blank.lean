import ClusterAgent.Text.Bytes

/-!
# White space

The white space that names, paths and protocol fields are trimmed of: the ASCII controls tab,
line feed, vertical tab, form feed and carriage return, the space, next line (U+0085), the
no-break space (U+00A0), and the Unicode spaces U+1680, U+2000 to U+200A, U+2028, U+2029,
U+202F, U+205F and U+3000. A zero-width space (U+200B) is not white space.

Trimming a byte string removes whole characters only: a stray byte is never white space, so a
byte string that is not UTF-8 keeps every byte that is not part of an encoded space at an end.
-/

namespace ClusterAgent

namespace Text

/-- Whether a character is white space. -/
def isBlank (c : Char) : Bool :=
  let n := c.toNat
  (0x09 ≤ n && n ≤ 0x0D) || n == 0x20 || n == 0x85 || n == 0xA0 || n == 0x1680 ||
    (0x2000 ≤ n && n ≤ 0x200A) || n == 0x2028 || n == 0x2029 || n == 0x202F ||
    n == 0x205F || n == 0x3000

/-- Whether a piece of a byte string is a white-space character. -/
def Piece.isBlank : Piece → Bool
  | .char c => Text.isBlank c
  | .stray _ => false

end Text

/-- Removes white-space characters at both ends of a byte string. -/
def Bytes.trimBlank (b : Bytes) : Bytes :=
  Bytes.ofPieces (((Bytes.pieces b).dropWhile Text.Piece.isBlank).reverse.dropWhile
    Text.Piece.isBlank).reverse

/-- Whether a byte string holds nothing but white space. -/
def Bytes.isBlank (b : Bytes) : Bool := (Bytes.pieces b).all Text.Piece.isBlank

end ClusterAgent

/-- Removes white space at both ends of a string. -/
def String.trimBlank (s : String) : String :=
  String.ofList ((s.toList.dropWhile ClusterAgent.Text.isBlank).reverse.dropWhile
    ClusterAgent.Text.isBlank).reverse

/-- Removes white space at the start of a string. -/
def String.trimBlankLeft (s : String) : String :=
  String.ofList (s.toList.dropWhile ClusterAgent.Text.isBlank)
