import ClusterAgent.Text.Bytes
import ClusterAgent.Text.Printable

/-!
# Quoted literals

Error messages show an offending value as a double-quoted literal, so that blanks, control
characters and stray bytes stay visible. A quote and a backslash are escaped with a backslash,
a printable character stands for itself, the seven named controls get their letter escapes
(`\a \b \f \n \r \t \v`), and any other character is written by its code point: `\xNN` below
U+0020 and for U+007F, `\uNNNN` up to U+FFFF, `\UNNNNNNNN` beyond. A byte that starts no
well-formed UTF-8 character is written `\xNN`. Hex digits are lower case.
-/

namespace ClusterAgent.Text

/-- The lower-case hex digit of a value below 16. -/
def hexDigit (n : Nat) : Char :=
  if n < 10 then Char.ofNat (48 + n) else Char.ofNat (87 + n)

/-- The last `width` hex digits of `n`, with leading zeros. -/
def hexFixed : Nat → Nat → List Char
  | 0, _ => []
  | w + 1, n => hexFixed w (n / 16) ++ [hexDigit (n % 16)]

/-- The escape a character is written as inside a quoted literal. -/
def escapeChar (c : Char) : String :=
  if c = '"' then "\\\""
  else if c = '\\' then "\\\\"
  else if isPrintable c then String.singleton c
  else
    match c.toNat with
    | 7 => "\\a"
    | 8 => "\\b"
    | 9 => "\\t"
    | 10 => "\\n"
    | 11 => "\\v"
    | 12 => "\\f"
    | 13 => "\\r"
    | n =>
      if n < 0x20 ∨ n = 0x7F then "\\x" ++ String.ofList (hexFixed 2 n)
      else if n < 0x10000 then "\\u" ++ String.ofList (hexFixed 4 n)
      else "\\U" ++ String.ofList (hexFixed 8 n)

/-- The escape a piece of a byte string is written as. -/
def escapePiece : Piece → String
  | .char c => escapeChar c
  | .stray b => "\\x" ++ String.ofList (hexFixed 2 b.toNat)

/-- A byte string as a double-quoted literal. -/
def quote (b : Bytes) : String :=
  "\"" ++ String.join ((Bytes.pieces b).map escapePiece) ++ "\""

/-- A string as a double-quoted literal. -/
def quoteString (s : String) : String := quote (Bytes.ofString s)

end ClusterAgent.Text
