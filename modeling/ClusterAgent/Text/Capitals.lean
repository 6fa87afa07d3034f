import ClusterAgent.Text.Bytes

/-!
# Case-insensitive matching against ASCII words

The protocol's keywords (`ENABLED`, `close`, `chunked`, `SYNTAX`, header names, log levels) are
ASCII, and a peer's text is compared with them after a case map. Under the simple Unicode case
maps only a few non-ASCII characters land on an ASCII letter: dotless `ı` and long `ſ` upper-case
to `I` and `S`; dotted `İ` and the Kelvin sign lower-case to `i` and `k`; and `ſ` and the Kelvin
sign fold together with `s` and `k`. Every other non-ASCII character, and every stray byte, maps
to something that is not ASCII, so it can never match. Each test below therefore decides
exactly whether the case-mapped text equals the ASCII word.
-/

namespace ClusterAgent

namespace Text

/-- The ASCII character a piece upper-cases to, if it upper-cases to one. -/
def Piece.upperAscii? : Piece → Option Char
  | .char c =>
    if c.toNat < 0x80 then some c.toUpper
    else if c.toNat = 0x131 then some 'I'
    else if c.toNat = 0x17F then some 'S'
    else none
  | .stray _ => none

/-- The ASCII character a piece lower-cases to, if it lower-cases to one. -/
def Piece.lowerAscii? : Piece → Option Char
  | .char c =>
    if c.toNat < 0x80 then some c.toLower
    else if c.toNat = 0x130 then some 'i'
    else if c.toNat = 0x212A then some 'k'
    else none
  | .stray _ => none

/-- The lower-case ASCII letter a piece folds together with, if any. -/
def Piece.foldAscii? : Piece → Option Char
  | .char c =>
    if c.toNat < 0x80 then some c.toLower
    else if c.toNat = 0x17F then some 's'
    else if c.toNat = 0x212A then some 'k'
    else none
  | .stray _ => none

end Text

namespace Bytes

/-- Whether the text upper-cases to the ASCII word `w` (given in upper case). -/
def upperIs (b : Bytes) (w : String) : Bool :=
  (pieces b).map Text.Piece.upperAscii? == w.toList.map some

/-- Whether the text lower-cases to the ASCII word `w` (given in lower case). -/
def lowerIs (b : Bytes) (w : String) : Bool :=
  (pieces b).map Text.Piece.lowerAscii? == w.toList.map some

/-- Whether the text equals the ASCII word `w` up to case. -/
def foldIs (b : Bytes) (w : String) : Bool :=
  (pieces b).map Text.Piece.foldAscii? == w.toList.map fun c => some c.toLower

end Bytes

end ClusterAgent
