import ClusterAgent.Settings.Duration
import ClusterAgent.Settings.Zones
import ClusterAgent.Text.Blank
import ClusterAgent.Text.Quoted

/-!
# Status schedules

The status report runs on a cron schedule in the standard five-field form — minute, hour, day
of month, month, day of week — or a descriptor: `@yearly` (`@annually`), `@monthly`, `@weekly`,
`@daily` (`@midnight`), `@hourly`, or `@every <duration>`. A schedule may start with
`TZ=<zone> ` or `CRON_TZ=<zone> `.

A field is a comma-separated list of ranges; a range is `*` or `?`, a number, a name (months
`jan`…`dec`, weekdays `sun`…`sat`, any letter case) or `low-high`, optionally followed by
`/step`. `n/step` runs from `n` to the field's maximum. Checking a schedule reports the first
problem, in field order.

A schedule is read as bytes, and its refusals quote the parts of it they name as they were
given.
-/

namespace ClusterAgent

namespace Schedule

/-- The range of a field and the names it accepts. -/
structure Bounds where
  low : Nat
  high : Nat
  names : List (String × Nat) := []

/-- The bounds of the five fields, in order. -/
def fieldBounds : List Bounds :=
  [⟨0, 59, []⟩, ⟨0, 23, []⟩, ⟨1, 31, []⟩,
   ⟨1, 12, [("jan", 1), ("feb", 2), ("mar", 3), ("apr", 4), ("may", 5), ("jun", 6),
            ("jul", 7), ("aug", 8), ("sep", 9), ("oct", 10), ("nov", 11), ("dec", 12)]⟩,
   ⟨0, 6, [("sun", 0), ("mon", 1), ("tue", 2), ("wed", 3), ("thu", 4), ("fri", 5),
           ("sat", 6)]⟩]

/-- Splits bytes at a separator, keeping empty pieces. -/
def splitOn (s : Bytes) (sep : UInt8) : List Bytes := s.splitOn sep

/-- Joins words with single spaces. -/
def unwords (ws : List Bytes) : Bytes := (ws.intersperse [0x20]).flatten

/-- The refusal of a text that is not a decimal integer within 64 bits, worded as the
conversion reports it. -/
def intError (expr : Bytes) (why : String) : Bytes :=
  Bytes.ofString "failed to parse int from " ++ expr ++
    Bytes.ofString (": strconv.Atoi: parsing " ++ Text.quote expr ++ ": " ++ why)

/-- Reads a decimal integer with an optional sign within 64 bits. Digits are read in order, so
a value that overflows before a stray character is out of range. -/
def parseInt (expr : Bytes) : Except Bytes Int :=
  let (neg, digits) := match expr with
    | 0x2D :: r => (true, r)
    | 0x2B :: r => (false, r)
    | cs => (false, cs)
  if digits.isEmpty then .error (intError expr "invalid syntax")
  else
    let step (acc : Except Bool Nat) (c : UInt8) : Except Bool Nat :=
      match acc with
      | .error e => .error e
      | .ok n =>
        if !(0x30 ≤ c && c ≤ 0x39) then .error false
        else
          let m := n * 10 + (c.toNat - 48)
          if m ≥ Nat.pow 2 64 then .error true else .ok m
    match digits.foldl step (.ok 0) with
    | .error false => .error (intError expr "invalid syntax")
    | .error true => .error (intError expr "value out of range")
    | .ok n =>
      if neg then (if n ≤ Nat.pow 2 63 then .ok (-(n : Int)) else .error (intError expr "value out of range"))
      else if n < Nat.pow 2 63 then .ok n else .error (intError expr "value out of range")

/-- Reads a non-negative number. -/
def parseCount (expr : Bytes) : Except Bytes Nat := do
  let n ← parseInt expr
  if n < 0 then .error (Bytes.ofString ("negative number (" ++ toString n ++ ") not allowed: ") ++ expr)
  else pure n.toNat

/-- A character in lower case, as far as the names need: ASCII letters, and the dotted capital
`İ`, whose lower case is `i`. -/
def lowerChar (c : Char) : Char := if c.toNat = 0x130 then 'i' else c.toLower

/-- Reads a number or a name of the field; names are matched in any letter case, and bytes
that are not UTF-8 match no name. -/
def parseValue (expr : Bytes) (b : Bounds) : Except Bytes Nat :=
  match (Bytes.toString? expr).bind fun s => b.names.lookup (String.ofList (s.toList.map lowerChar)) with
  | some n => .ok n
  | none => parseCount expr

/-- A refusal naming a range of a field. -/
def rangeError (why : String) (expr : Bytes) : Except Bytes Unit :=
  .error (Bytes.ofString why ++ expr)

/-- Checks one range of a field. -/
def checkRange (expr : Bytes) (b : Bounds) : Except Bytes Unit := do
  let rangeAndStep := splitOn expr 0x2F
  let lowAndHigh := splitOn (rangeAndStep.headD []) 0x2D
  let first := lowAndHigh.headD []
  let (start, stop) ←
    if first == [0x2A] || first == [0x3F] then pure (b.low, b.high)
    else do
      let start ← parseValue first b
      match lowAndHigh with
      | [_] => pure (start, start)
      | [_, hi] => pure (start, ← parseValue hi b)
      | _ => .error (Bytes.ofString "too many hyphens: " ++ expr)
  let (stop, step) ←
    match rangeAndStep with
    | [_] => pure (stop, 1)
    | [_, s] => do
      let step ← parseCount s
      pure (if lowAndHigh.length == 1 then b.high else stop, step)
    | _ => .error (Bytes.ofString "too many slashes: " ++ expr)
  if start < b.low then
    rangeError ("beginning of range (" ++ toString start ++ ") below minimum (" ++
      toString b.low ++ "): ") expr
  else if stop > b.high then
    rangeError ("end of range (" ++ toString stop ++ ") above maximum (" ++ toString b.high ++
      "): ") expr
  else if start > stop then
    rangeError ("beginning of range (" ++ toString start ++ ") beyond end of range (" ++
      toString stop ++ "): ") expr
  else if step == 0 then rangeError "step of range should be a positive number: " expr
  else pure ()

/-- Checks a field: each of its comma-separated ranges, empty pieces skipped. -/
def checkField (field : Bytes) (b : Bounds) : Except Bytes Unit :=
  ((splitOn field 0x2C).filter (· != [])).forM fun r => checkRange r b

/-- Splits bytes into their words, separated by white-space characters; a byte that is not
UTF-8 is not white space. -/
def words (s : Bytes) : List Bytes :=
  let (cur, acc) := (Bytes.pieces s).foldr (fun p (cur, acc) =>
    if Text.Piece.isBlank p then (([] : List Piece), if cur.isEmpty then acc else cur :: acc)
    else (p :: cur, acc)) (([] : List Piece), ([] : List (List Piece)))
  (if cur.isEmpty then acc else cur :: acc).map Bytes.ofPieces

/-- The descriptors other than `@every`. -/
def descriptors : List String :=
  ["@yearly", "@annually", "@monthly", "@weekly", "@daily", "@midnight", "@hourly"]

/-- Whether bytes hold two dots in a row. -/
def hasDotDot : Bytes → Bool
  | a :: b :: rest => (a == 0x2E && b == 0x2E) || hasDotDot (b :: rest)
  | _ => false

/-- Loads a zone name as the zone files are looked up. The empty name, `UTC` and `Local` are
built in, and a name with `..` or a leading slash is refused; any other name is read from the
zone directory (`Zones.load`). -/
def loadZone (name : Bytes) : Except Bytes Unit :=
  if name.isEmpty || name == Bytes.ofString "UTC" || name == Bytes.ofString "Local" then .ok ()
  else if hasDotDot name || name.head? == some 0x2F || name.head? == some 0x5C then
    .error (Bytes.ofString "time: invalid location name")
  else Zones.load name

end Schedule

/-- How checking a schedule fails: the schedule is refused, with the reason; or the check itself
breaks down, with the runtime's report. It breaks down on a zone prefix with no space after it,
where the zone name would end before it starts. -/
inductive ScheduleFailure where
  | refused (reason : Bytes)
  | broken (report : String)
  deriving DecidableEq, Repr

namespace Schedule

/-- Checks a schedule without a zone prefix: a descriptor, or five fields. -/
def checkSpec (spec : Bytes) : Except Bytes Unit :=
  if spec.head? == some 0x40 then
    if descriptors.any (Bytes.ofString · == spec) then .ok ()
    else if (Bytes.ofString "@every ").isPrefixOf spec then
      match parseDuration (spec.drop 7) with
      | .ok _ => .ok ()
      | .error e => .error (Bytes.ofString "failed to parse duration " ++ spec ++ Bytes.ofString (": " ++ e))
    else .error (Bytes.ofString "unrecognized descriptor: " ++ spec)
  else
    let fields := words spec
    if fields.length != 5 then
      .error (Bytes.ofString ("expected exactly 5 fields, found " ++ toString fields.length ++ ": [") ++
        unwords fields ++ [0x5D])
    else (fields.zip fieldBounds).forM fun (f, b) => checkField f b

end Schedule

/-- Checks a schedule in the standard form; the first problem found. -/
def checkSchedule (spec : Bytes) : Except ScheduleFailure Unit :=
  if spec.isEmpty then .error (.refused (Bytes.ofString "empty spec string"))
  else if (Bytes.ofString "TZ=").isPrefixOf spec || (Bytes.ofString "CRON_TZ=").isPrefixOf spec then
    let eq := spec.findIdx (· == 0x3D)
    match spec.findIdx? (· == 0x20) with
    | none => .error (.broken "runtime error: slice bounds out of range [:-1]")
    | some sp =>
      let name := (spec.take sp).drop (eq + 1)
      match Schedule.loadZone name with
      | .error e => .error (.refused (Bytes.ofString "provided bad location " ++ name ++ Bytes.ofString ": " ++ e))
      | .ok () => (Schedule.checkSpec (Bytes.trimBlank (spec.drop sp))).mapError .refused
  else (Schedule.checkSpec spec).mapError .refused

end ClusterAgent
