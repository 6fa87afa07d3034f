/-!
# Binary64 values

The double precision values settings are computed in: a value is kept exactly, as an integer
times a power of two, and every operation rounds its exact result to the nearest representable
value, ties to the even one, the way the hardware does. Results beyond the largest finite value
are reported as overflow rather than rounded to infinity, since every caller treats them so.
-/

namespace ClusterAgent

/-- A binary64 value: `finite neg q e` is `± q × 2^e`. -/
inductive BinaryFloat where
  | nan
  | inf (neg : Bool)
  | finite (neg : Bool) (q : Nat) (e : Int)
  deriving DecidableEq, Repr

namespace BinaryFloat

/-- Whether `n / d ≥ 2^k`. -/
def atLeastPow (n d : Nat) (k : Int) : Bool :=
  if k ≥ 0 then n ≥ d * Nat.pow 2 k.toNat else n * Nat.pow 2 (-k).toNat ≥ d

/-- `n / d × 2^t` rounded to the nearest integer, ties to even. -/
def roundScaled (n d : Nat) (t : Int) : Nat :=
  let (num, den) := if t ≥ 0 then (n * Nat.pow 2 t.toNat, d) else (n, d * Nat.pow 2 (-t).toNat)
  let q := num / den
  let r := num % den
  if 2 * r > den || (2 * r == den && q % 2 == 1) then q + 1 else q

/-- The binary64 value nearest to `± n / d` (`d > 0`); `none` when it is beyond the largest
finite value. -/
def ofRatio (neg : Bool) (n d : Nat) : Option BinaryFloat :=
  if n = 0 then some (finite neg 0 0)
  else
    let k0 : Int := (Nat.log2 n : Int) - (Nat.log2 d : Int)
    let k := if atLeastPow n d k0 then (if atLeastPow n d (k0 + 1) then k0 + 1 else k0) else k0 - 1
    let s : Int := if k < -1022 then -1074 else k - 52
    let q := roundScaled n d (-s)
    let (q, s) := if q = Nat.pow 2 53 then (Nat.pow 2 52, s + 1) else (q, s)
    if s + 52 > 1023 then none else some (finite neg q s)

/-- The binary64 value nearest to `± m × 10^e`; `none` on overflow. Values far below the
smallest subnormal are zero and values far above the largest finite value overflow, without
computing the powers. -/
def ofDecimal (neg : Bool) (m : Nat) (e : Int) : Option BinaryFloat :=
  if m = 0 then some (finite neg 0 0)
  else
    let digits : Int := (toString m).length
    if digits + e > 310 then none
    else if digits + e < -330 then some (finite neg 0 0)
    else if e ≥ 0 then ofRatio neg (m * Nat.pow 10 e.toNat) 1
    else ofRatio neg m (Nat.pow 10 (-e).toNat)

/-- The binary64 value of an integer. -/
def ofInt (n : Int) : BinaryFloat := (ofRatio (n < 0) n.natAbs 1).getD (inf (n < 0))

/-- The product of two finite values, rounded; `none` on overflow. -/
def mul : BinaryFloat → BinaryFloat → Option BinaryFloat
  | finite n₁ q₁ e₁, finite n₂ q₂ e₂ =>
    let e := e₁ + e₂
    if e ≥ 0 then ofRatio (n₁ != n₂) (q₁ * q₂ * Nat.pow 2 e.toNat) 1
    else ofRatio (n₁ != n₂) (q₁ * q₂) (Nat.pow 2 (-e).toNat)
  | _, _ => none

/-- The quotient of two values, rounded: a finite value over a non-zero finite one, or over an
infinite one (which gives zero); `none` on overflow and in the other cases. -/
def div : BinaryFloat → BinaryFloat → Option BinaryFloat
  | finite n₁ q₁ e₁, finite n₂ q₂ e₂ =>
    if q₂ = 0 then none
    else
      let e := e₁ - e₂
      if e ≥ 0 then ofRatio (n₁ != n₂) (q₁ * Nat.pow 2 e.toNat) q₂
      else ofRatio (n₁ != n₂) q₁ (q₂ * Nat.pow 2 (-e).toNat)
  | finite n₁ _ _, inf n₂ => some (finite (n₁ != n₂) 0 0)
  | _, _ => none

/-- The magnitude of a finite value cut towards zero. -/
def truncNat : BinaryFloat → Nat
  | finite _ q e => if e ≥ 0 then q * Nat.pow 2 e.toNat else q / Nat.pow 2 (-e).toNat
  | _ => 0

/-- What a signed 64-bit conversion gives for a value that is at most 2^63, or `none` for a
value above it or not a number. Out of range values give the most negative integer, as the
conversion instruction does. -/
def toInt64? : BinaryFloat → Option Int
  | nan => none
  | inf false => none
  | inf true => some (-(Nat.pow 2 63))
  | finite neg q e =>
    let t := if e ≥ 0 then q * Nat.pow 2 e.toNat else q / Nat.pow 2 (-e).toNat
    if !neg then
      if t > Nat.pow 2 63 then none else if t = Nat.pow 2 63 then some (-(Nat.pow 2 63)) else some t
    else if t ≥ Nat.pow 2 63 then some (-(Nat.pow 2 63)) else some (-(t : Int))

end BinaryFloat

end ClusterAgent
