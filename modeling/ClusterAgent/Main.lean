import ClusterAgent.Settings.Config

/-!
# The agent's command line

`-config <path>` names the configuration file (`/config/mcmp-agent.yaml` by default) and
`-log-level <level>` overrides the level the file sets. A flag may also be written with two
dashes, and its value after `=`. Reading stops at the first argument that is not a flag.

The command loads the configuration, with the `MCMP_*` environment overrides, and reports what
the agent would start with: the engines it announces, the proxies it announces them to and the
status schedule. It has no name service, so the addresses it checks must be IP literals. A configuration that is refused is reported with exit status 1; a bad command
line, or a check that breaks down, with exit status 2.
-/

namespace ClusterAgent

namespace CommandLine

/-- The settings the command line gives. -/
structure Options where
  configFile : String := "/config/mcmp-agent.yaml"
  logLevel : String := ""

/-- The name of a flag argument and the value written after its `=`; `none` for an argument
that ends the flags. -/
def flagOf (arg : String) : Option (String × Option String) :=
  if !arg.startsWith "-" || arg == "-" || arg == "--" then none
  else
    let body := if arg.startsWith "--" then (arg.drop 2).toString else (arg.drop 1).toString
    match body.splitOn "=" with
    | n :: v :: vs => some (n, some ("=".intercalate (v :: vs)))
    | _ => some (body, none)

/-- Sets the option a flag names. -/
def Options.set (opts : Options) (name value : String) : Options :=
  if name == "config" then { opts with configFile := value } else { opts with logLevel := value }

/-- Refuses a flag the command does not know. -/
def checkName (name : String) : Except String Unit :=
  if name == "config" || name == "log-level" then .ok ()
  else .error ("flag provided but not defined: -" ++ name)

/-- Reads the flags, each with its value: after its `=`, or else the next argument. -/
def readFlags (opts : Options) : List String → Except String Options
  | [] => .ok opts
  | [arg] =>
    match flagOf arg with
    | none => .ok opts
    | some (name, inline) => do
      checkName name
      match inline with
      | some v => .ok (opts.set name v)
      | none => .error ("flag needs an argument: -" ++ name)
  | arg :: tl@(next :: rest) =>
    match flagOf arg with
    | none => .ok opts
    | some (name, inline) => do
      checkName name
      match inline with
      | some v => readFlags (opts.set name v) tl
      | none => readFlags (opts.set name next) rest

/-- A log line as the console shows it: the level, then the message. -/
def logLine (level message : String) : String := level ++ " " ++ message

/-- A log line whose message is bytes. -/
def logBytes (level : String) (message : Bytes) : Bytes := Bytes.ofString (level ++ " ") ++ message

/-- The report of a configuration that loaded. -/
def startupReport (cfg : Config) : List Bytes :=
  [Bytes.ofString (logLine "INFO" ("🚀 Announcing " ++ toString cfg.topology.length ++
      " engine(s) to " ++ toString cfg.proxy.list.length ++ " proxy(ies)")),
   logBytes "INFO" (Bytes.ofString "✅ Agent is running (status schedule " ++ cfg.statusSchedule ++
      Bytes.ofString ")")]

end CommandLine

end ClusterAgent

open ClusterAgent in
/-- Loads the configuration the command line names and reports the agent's start. -/
def main (args : List String) : IO UInt32 := do
  let out ← IO.getStdout
  let putBytes := fun (line : Bytes) => out.write (ByteArray.mk (line ++ [0x0A]).toArray)
  match CommandLine.readFlags {} args with
  | .error e =>
    out.putStrLn e
    pure 2
  | .ok opts =>
    out.putStrLn (CommandLine.logLine "INFO" "🤖 MCMP agent starting")
    out.putStrLn (CommandLine.logLine "INFO" ("🔧 Loading configuration from: " ++ opts.configFile))
    let names := ["MCMP_PROXY_LIST", "MCMP_LOG_LEVEL", "MCMP_LOG_FORMAT", "MCMP_STATUS_INTERVAL"]
    let values ← names.mapM fun n => do pure (n, (← IO.getEnv n).getD "")
    let env := fun n => (values.lookup n).getD ""
    let loaded : Except ConfigFailure Config ←
      try
        let data ← IO.FS.readBinFile opts.configFile
        pure (parseConfig Resolver.empty data.toList opts.configFile env)
      catch e =>
        let why := match e with
          | .noFileOrDirectory .. => "open " ++ opts.configFile ++ ": no such file or directory"
          | .permissionDenied .. => "open " ++ opts.configFile ++ ": permission denied"
          | .otherError _ msg => "read " ++ opts.configFile ++ ": " ++ msg
          | other => toString other
        pure (.error (.refused (Bytes.ofString ("failed to read config file: " ++ why))))
    match loaded with
    | .error (.refused e) =>
      putBytes (CommandLine.logBytes "ERROR" (Bytes.ofString "❌ Failed to load configuration: " ++ e))
      pure 1
    | .error (.broken r) =>
      (← IO.getStderr).putStrLn ("panic: " ++ r)
      pure 2
    | .ok cfg =>
      let cfg := if opts.logLevel != "" then
        { cfg with logging := { cfg.logging with level := Bytes.ofString opts.logLevel } } else cfg
      match cfg.proxyConnection Resolver.empty with
      | .error e =>
        putBytes (CommandLine.logBytes "ERROR" (Bytes.ofString "❌ " ++ e))
        pure 1
      | .ok _ =>
        (CommandLine.startupReport cfg).forM putBytes
        pure 0
