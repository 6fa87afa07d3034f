import ClusterAgent.Text.Quoted

/-!
# Address literals

The reader of IP address literals, over bytes. The first `.`, `:` or `%` of a text decides how
it is read:

* `.`: an IPv4 address, four decimal fields from 0 to 255 without leading zeros;
* `:`: an IPv6 address, hex groups of one to four digits separated by `:`, at most one `::`
  standing for one or more zero groups, an optional IPv4 address in place of the last two
  groups, and an optional zone after the first `%`, which must not be empty;
* `%` first, or none of them: not an address.

A refusal names the text, the reason and, for most reasons, the unread rest of the text at which
reading stopped; its message is `ParseAddr("text"): reason (at "rest")`.
-/

namespace ClusterAgent

/-- The family a literal is written in. An IPv4 address written in IPv6 form (`::ffff:1.2.3.4`)
is of the IPv6 family. -/
inductive AddrFamily where
  | v4
  | v6
  deriving DecidableEq, Repr

/-- An address read from a literal: its sixteen octets (an IPv4 address in its v4-mapped form),
the family it was written in, and its zone (empty for none). -/
structure AddrLiteral where
  octets : List UInt8
  family : AddrFamily
  zone : Bytes
  deriving DecidableEq, Repr

/-- Why a text is not an address literal: the text, the reason, and the rest of the text at
which reading stopped (empty when the reason names no place). -/
structure AddrLiteralError where
  input : Bytes
  reason : String
  rest : Bytes
  deriving DecidableEq, Repr

/-- The message of a refused literal. -/
def AddrLiteralError.message (e : AddrLiteralError) : String :=
  "ParseAddr(" ++ Text.quote e.input ++ "): " ++ e.reason ++
    (if e.rest.isEmpty then "" else " (at " ++ Text.quote e.rest ++ ")")

namespace AddrLiteral

/-- A refusal of `input` for `reason`, at `rest`. -/
def refuse {α : Type} (input : Bytes) (reason : String) (rest : Bytes) :
    Except AddrLiteralError α :=
  .error ⟨input, reason, rest⟩

/-- Reads dotted IPv4 fields. `prev` is the byte before `s` (none at the start), `val` and
`digits` the value and length of the field being read, and `fields` the fields already closed;
`input` is the whole text, for refusals. -/
def v4Fields (input : Bytes) : Bytes → Option UInt8 → Nat → Nat → List UInt8 →
    Except AddrLiteralError (List UInt8)
  | [], _, val, _, fields =>
    if fields.length < 3 then refuse input "IPv4 address too short" []
    else .ok (fields ++ [val.toUInt8])
  | c :: rest, prev, val, digits, fields =>
    if 0x30 ≤ c && c ≤ 0x39 then
      if digits == 1 && val == 0 then refuse input "IPv4 field has octet with leading zero" []
      else
        let v := val * 10 + (c.toNat - 0x30)
        if v > 255 then refuse input "IPv4 field has value >255" []
        else v4Fields input rest (some c) v (digits + 1) fields
    else if c == 0x2E then
      if prev.isNone || rest.isEmpty || prev == some 0x2E then
        refuse input "IPv4 field must have at least one digit" (c :: rest)
      else if fields.length == 3 then refuse input "IPv4 address too long" []
      else v4Fields input rest (some c) 0 0 (fields ++ [val.toUInt8])
    else refuse input "unexpected character" (c :: rest)

/-- The value of a hex digit. -/
def hexDigit? (c : UInt8) : Option Nat :=
  if 0x30 ≤ c && c ≤ 0x39 then some (c.toNat - 0x30)
  else if 0x61 ≤ c && c ≤ 0x66 then some (c.toNat - 0x61 + 10)
  else if 0x41 ≤ c && c ≤ 0x46 then some (c.toNat - 0x41 + 10)
  else none

/-- Reads the hex digits of a group from `s`: the value, the number of digits and the rest. A
fifth digit is refused, at `group`, where the group starts. -/
def hexGroup (input group : Bytes) : Bytes → Nat → Nat →
    Except AddrLiteralError (Nat × Nat × Bytes)
  | [], acc, n => .ok (acc, n, [])
  | c :: rest, acc, n =>
    match hexDigit? c with
    | some d =>
      if n + 1 > 4 then refuse input "each colon-separated field must have at most 4 hex digits" group
      else hexGroup input group rest (acc * 16 + d) (n + 1)
    | none => .ok (acc, n, c :: rest)

/-- Reads IPv6 groups from `s`: `acc` holds the octets read so far and `gap` the octet count at
which a `::` stood. One group is read a round, so eight rounds reach sixteen octets; reading
also stops at the end of the text, after a `::` that ends it, and after an IPv4 tail. Returns the
unread text, the octets and the gap. -/
def v6Groups (input : Bytes) : Nat → Bytes → List UInt8 → Option Nat →
    Except AddrLiteralError (Bytes × List UInt8 × Option Nat)
  | 0, s, acc, gap => .ok (s, acc, gap)
  | fuel + 1, s, acc, gap => do
    let (v, n, after) ← hexGroup input s s 0 0
    if n == 0 then refuse input "each colon-separated field must have at least one digit" s
    else
      match after with
      | 0x2E :: _ =>
        if gap.isNone && acc.length != 12 then
          refuse input "embedded IPv4 address must replace the final 2 fields of the address" s
        else if acc.length + 4 > 16 then
          refuse input "too many hex fields to fit an embedded IPv4 at the end of the address" s
        else
          let q ← v4Fields input s none 0 0 []
          .ok ([], acc ++ q, gap)
      | _ =>
        let acc := acc ++ [(v / 256).toUInt8, (v % 256).toUInt8]
        match after with
        | [] => .ok ([], acc, gap)
        | [0x3A] => refuse input "colon must be followed by more characters" after
        | 0x3A :: 0x3A :: more =>
          if gap.isSome then refuse input "multiple :: in address" (0x3A :: more)
          else if more.isEmpty then .ok ([], acc, some acc.length)
          else v6Groups input fuel more acc (some acc.length)
        | 0x3A :: more => v6Groups input fuel more acc gap
        | _ => refuse input "unexpected character, want colon" after

/-- Reads an IPv6 literal, with its zone. -/
def readV6 (input : Bytes) : Except AddrLiteralError AddrLiteral :=
  let (s, zone) := match Bytes.cut 0x25 input with
    | some (s, z) => (s, some z)
    | none => (input, none)
  if zone == some [] then refuse input "zone must be a non-empty string" []
  else
    let zone := zone.getD []
    let (gap, s) := match s with
      | 0x3A :: 0x3A :: rest => (some 0, rest)
      | _ => (none, s)
    if gap.isSome && s.isEmpty then .ok ⟨List.replicate 16 0, .v6, zone⟩
    else do
      let (rest, acc, gap) ← v6Groups input 8 s [] gap
      if !rest.isEmpty then refuse input "trailing garbage after address" rest
      else if acc.length < 16 then
        match gap with
        | none => refuse input "address string too short" []
        | some g => .ok ⟨acc.take g ++ List.replicate (16 - acc.length) 0 ++ acc.drop g, .v6, zone⟩
      else if gap.isSome then refuse input "the :: must expand to at least one field of zeros" []
      else .ok ⟨acc, .v6, zone⟩

end AddrLiteral

/-- Reads an address literal; the first `.`, `:` or `%` decides the family. -/
def readAddrLiteral (input : Bytes) : Except AddrLiteralError AddrLiteral :=
  match input.find? fun c => c == 0x2E || c == 0x3A || c == 0x25 with
  | some 0x2E => do
    let q ← AddrLiteral.v4Fields input input none 0 0 []
    .ok ⟨List.replicate 10 0 ++ [0xFF, 0xFF] ++ q, .v4, []⟩
  | some 0x3A => AddrLiteral.readV6 input
  | some _ => AddrLiteral.refuse input "missing IPv6 address" []
  | none => AddrLiteral.refuse input "unable to parse IP" []

end ClusterAgent
