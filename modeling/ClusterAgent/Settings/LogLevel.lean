import ClusterAgent.Text.Blank
import ClusterAgent.Text.Capitals

/-!
# Log levels

A log level is named in any letter case, with surrounding white space; `WARN` and `WARNING` are
the same level, and a name that is none of the five means `INFO`.
-/

namespace ClusterAgent

/-- How much the agent logs. -/
inductive LogLevel where
  | debug
  | info
  | warn
  | error
  | fatal
  deriving DecidableEq, Repr

namespace LogLevel

/-- The level's rank, from 0 for `DEBUG` to 4 for `FATAL`. -/
def rank : LogLevel → Nat
  | debug => 0
  | info => 1
  | warn => 2
  | error => 3
  | fatal => 4

/-- The level a name denotes. -/
def ofName (s : String) : LogLevel :=
  let b := (Bytes.ofString s).trimBlank
  if b.upperIs "DEBUG" then debug
  else if b.upperIs "WARN" || b.upperIs "WARNING" then warn
  else if b.upperIs "ERROR" then error
  else if b.upperIs "FATAL" then fatal
  else info

end LogLevel

end ClusterAgent
