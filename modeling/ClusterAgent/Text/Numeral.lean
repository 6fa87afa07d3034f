import ClusterAgent.Text.Bytes
import ClusterAgent.Text.Quoted

/-!
# Integer numerals

Counts, lengths, ports and chunk sizes arrive as text. A numeral here is an optional `+` or `-`
followed by at least one digit of the base and nothing else (no blanks, no prefix such as `0x`,
no digit separators); leading zeros are allowed. Its value must fit a signed 64-bit word.

Reading stops at the first fault, left to right: a byte that is no digit of the base is a
syntax error, and a value that has grown past 2^64 - 1 is a range error, whichever comes first;
a complete value outside the signed 64-bit range is a range error too.
-/

namespace ClusterAgent.Text

/-- Why a numeral could not be read. -/
inductive NumeralError where
  /-- Not of the form sign, digits. -/
  | malformed
  /-- Too large for a signed 64-bit word. -/
  | range
  deriving DecidableEq, Repr

/-- The value of a byte as a digit of `base`, if it is one (`0-9`, then letters in either case). -/
def digitValue? (base : Nat) (b : UInt8) : Option Nat :=
  let n := b.toNat
  let d :=
    if 48 ≤ n ∧ n ≤ 57 then n - 48
    else if 97 ≤ n ∧ n ≤ 122 then n - 87
    else if 65 ≤ n ∧ n ≤ 90 then n - 55
    else base
  if d < base then some d else none

/-- The largest value an unsigned 64-bit word holds. -/
def wordMax : Nat := Nat.pow 2 64 - 1

/-- Reads digits onto the accumulator `acc`. -/
def readDigits (base : Nat) (acc : Nat) : Bytes → Except NumeralError Nat
  | [] => .ok acc
  | b :: bs =>
    match digitValue? base b with
    | none => .error .malformed
    | some d =>
      if acc ≥ wordMax / base + 1 then .error .range
      else if acc * base + d > wordMax then .error .range
      else readDigits base (acc * base + d) bs

/-- Reads an unsigned numeral of at least one digit. -/
def readUnsigned (base : Nat) : Bytes → Except NumeralError Nat
  | [] => .error .malformed
  | bs => readDigits base 0 bs

/-- Reads a signed numeral of the given base into a signed 64-bit value. -/
def parseInt64 (base : Nat) (b : Bytes) : Except NumeralError Int :=
  let (neg, digits) :=
    match b with
    | 43 :: rest => (false, rest)
    | 45 :: rest => (true, rest)
    | _ => (false, b)
  match readUnsigned base digits with
  | .error e => .error e
  | .ok u =>
    if neg then (if u > Nat.pow 2 63 then .error .range else .ok (-(u : Int)))
    else if u ≥ Nat.pow 2 63 then .error .range else .ok (u : Int)

/-- Reads a signed decimal numeral. -/
def parseDecimal (b : Bytes) : Except NumeralError Int := parseInt64 10 b

/-- Reads a signed decimal numeral, or `none`. -/
def decimal? (b : Bytes) : Option Int :=
  match parseDecimal b with
  | .ok n => some n
  | .error _ => none

/-- The message for a numeral that could not be read, naming the reader and the input. -/
def NumeralError.message (e : NumeralError) (input : String) : String :=
  "strconv.Atoi: parsing " ++ quoteString input ++ ": " ++
    match e with
    | .malformed => "invalid syntax"
    | .range => "value out of range"

end ClusterAgent.Text
