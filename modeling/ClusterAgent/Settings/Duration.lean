import ClusterAgent.Numeric.Binary64
import ClusterAgent.Text.Bytes

/-!
# Durations

Durations are signed nanosecond counts within 64 bits, written as a sequence of decimal numbers
with units: `1h30m`, `1.5s`, `-250ms`, `2us` (also `µs` and `μs`), `10ns`. A sign may lead, and
`0` needs no unit.

A fractional part is scaled in binary64 arithmetic, so `0.1h` is exactly the nanosecond count
that computation gives; fraction digits beyond what 63 bits hold are ignored.

A duration is read as bytes: every part of its syntax is ASCII, and a unit is the bytes between
a number and the next digit or dot. A refusal quotes the text with every byte outside printable
ASCII escaped, so refusals are plain text whatever bytes were given.

A duration is shown with hours, minutes and seconds (`1h2m3.5s`, the largest units first,
seconds with up to nine fraction digits and no trailing zeros), or, below one second, in `ms`,
`µs` or `ns`; zero is `0s`.
-/

namespace ClusterAgent

namespace Duration

/-- Nanoseconds per unit. -/
def units : List (String × Nat) :=
  [("ns", 1), ("us", 1000), ("µs", 1000), ("μs", 1000), ("ms", 1000000),
   ("s", 1000000000), ("m", 60000000000), ("h", 3600000000000)]

/-- The hex digit of a value below 16, lower case. -/
def hexDigit (n : Nat) : Char := if n < 10 then Char.ofNat (48 + n) else Char.ofNat (87 + n)

/-- A text in double quotes for a message: a quote and a backslash are escaped, and every byte
below `0x20` or from `0x80` on is written `\xNN`. -/
def quote (s : Bytes) : String :=
  "\"" ++ String.join (s.map fun b =>
    if b ≥ 0x80 || b < 0x20 then
      "\\x" ++ String.ofList [hexDigit (b.toNat / 16), hexDigit (b.toNat % 16)]
    else if b == 0x22 || b == 0x5C then "\\" ++ String.singleton (Char.ofNat b.toNat)
    else String.singleton (Char.ofNat b.toNat)) ++ "\""

/-- The refusal of a text that is not a duration. -/
def invalid (orig : Bytes) : String := "time: invalid duration " ++ quote orig

/-- Whether a byte is a decimal digit. -/
def isDigitChar (c : UInt8) : Bool := 0x30 ≤ c && c ≤ 0x39

/-- Reads leading digits; `none` when the value exceeds 2^63. -/
def leadingInt (cs : Bytes) : Option (Nat × Bytes) :=
  let digits := cs.takeWhile isDigitChar
  let v := digits.foldl (fun acc c => acc.bind fun x =>
    if x > Nat.pow 2 63 / 10 then none
    else
      let y := x * 10 + (c.toNat - 48)
      if y > Nat.pow 2 63 then none else some y) (some 0)
  v.map fun x => (x, cs.drop digits.length)

/-- Reads leading fraction digits: their value and its power-of-ten scale, ignoring digits once
the value would pass 2^63. The scale is a binary64 value multiplied by ten for each digit kept,
rounding at every step (so past 10^22 it is not the nearest value to the power), and infinite
once it overflows. -/
def leadingFraction (cs : Bytes) : Nat × BinaryFloat × Bytes :=
  let digits := cs.takeWhile isDigitChar
  let ten := BinaryFloat.ofInt 10
  let (x, scale, _) := digits.foldl (fun (x, scale, overflow) c =>
    if overflow then (x, scale, true)
    else if x > (Nat.pow 2 63 - 1) / 10 then (x, scale, true)
    else
      let y := x * 10 + (c.toNat - 48)
      if y > Nat.pow 2 63 then (x, scale, true)
      else (y, (scale.mul ten).getD (.inf false), false)) (0, BinaryFloat.ofInt 1, false)
  (x, scale, cs.drop digits.length)

/-- The nanoseconds a fraction `f / scale` of a unit adds, computed in binary64:
`f × (unit / scale)`, cut towards zero. -/
def fractionNanos (f : Nat) (scale : BinaryFloat) (unit : Nat) : Nat :=
  match BinaryFloat.ofRatio false f 1, (BinaryFloat.ofInt unit).div scale with
  | some a, some b => ((a.mul b).map BinaryFloat.truncNat).getD 0
  | _, _ => 0

/-- Reads the segments of a duration after its sign; the total in nanoseconds. -/
def segments (orig : Bytes) : Bytes → Nat → Nat → Except String Nat
  | [], total, _ => .ok total
  | _ :: _, _, 0 => .error (invalid orig)
  | c :: rest, total, fuel + 1 =>
    let cs := c :: rest
    if !(c == 0x2E || isDigitChar c) then .error (invalid orig)
    else
      match leadingInt cs with
      | none => .error (invalid orig)
      | some (v, afterInt) =>
        let pre := afterInt.length != cs.length
        let (f, scale, afterFrac, post) := match afterInt with
          | 0x2E :: more =>
            let (f, scale, r) := leadingFraction more
            (f, scale, r, r.length != more.length)
          | _ => (0, BinaryFloat.ofInt 1, afterInt, false)
        if !pre && !post then .error (invalid orig)
        else
          let unitChars := afterFrac.takeWhile fun c => !(c == 0x2E || isDigitChar c)
          let remaining := afterFrac.drop unitChars.length
          if unitChars.isEmpty then .error ("time: missing unit in duration " ++ quote orig)
          else
            match (units.find? fun (name, _) => Bytes.ofString name == unitChars).map (·.2) with
            | none =>
              .error ("time: unknown unit " ++ quote unitChars ++ " in duration " ++ quote orig)
            | some unit =>
              if v > Nat.pow 2 63 / unit then .error (invalid orig)
              else
                let v := v * unit
                let v := if f > 0 then v + fractionNanos f scale unit else v
                if v > Nat.pow 2 63 then .error (invalid orig)
                else
                  let total := total + v
                  if total > Nat.pow 2 63 then .error (invalid orig)
                  else segments orig remaining total fuel

end Duration

/-- Reads a duration; the nanoseconds, or the refusal message. -/
def parseDuration (orig : Bytes) : Except String Int :=
  let (neg, cs) := match orig with
    | 0x2D :: r => (true, r)
    | 0x2B :: r => (false, r)
    | cs => (false, cs)
  if cs == [0x30] then .ok 0
  else if cs.isEmpty then .error (Duration.invalid orig)
  else
    match Duration.segments orig cs 0 (cs.length + 1) with
    | .error e => .error e
    | .ok d =>
      if neg then .ok (-(d : Int))
      else if d > Nat.pow 2 63 - 1 then .error (Duration.invalid orig)
      else .ok d

namespace Duration

/-- The fraction digits of `v / 10^prec` without trailing zeros (with the point, or empty when
they are all zero), and the whole part. -/
def fraction (v prec : Nat) : String × Nat :=
  let digits := (List.range prec).map fun i => (v / Nat.pow 10 (prec - 1 - i)) % 10
  let kept := (digits.reverse.dropWhile (· == 0)).reverse
  ((if kept.isEmpty then "" else "." ++ String.join (kept.map toString)), v / Nat.pow 10 prec)

end Duration

/-- The text of a duration in nanoseconds. -/
def durationText (d : Int) : String :=
  let sign := if d < 0 then "-" else ""
  let u := d.natAbs
  if u < 1000000000 then
    if u == 0 then "0s"
    else
      let (unit, prec) :=
        if u < 1000 then ("ns", 0) else if u < 1000000 then ("µs", 3) else ("ms", 6)
      let (frac, whole) := Duration.fraction u prec
      sign ++ toString whole ++ frac ++ unit
  else
    let (frac, secs) := Duration.fraction u 9
    let text := toString (secs % 60) ++ frac ++ "s"
    let mins := secs / 60
    if mins == 0 then sign ++ text
    else
      let text := toString (mins % 60) ++ "m" ++ text
      let hours := mins / 60
      if hours == 0 then sign ++ text else sign ++ toString hours ++ "h" ++ text

end ClusterAgent
