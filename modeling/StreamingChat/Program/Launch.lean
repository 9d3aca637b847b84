import StreamingChat.Log.Event
import StreamingChat.Program.DataDir
import StreamingChat.Program.Help

/-!
How a run of the program begins: what the arguments ask for is printed, or the data directory is
made, the log is opened and the configuration is loaded.
-/

namespace StreamingChat.Program

/-- What a run finds when it begins. -/
structure Launch where
  arguments : List String
  environment : Environment
  /-- The home directory of the user's account, if it is known. -/
  account : Option String := none
  files : Files
  /-- Whether what is printed goes to a terminal. -/
  isTerminal : Bool := false
  /-- Names the run if the environment does not. -/
  runId : String

/-- The exit statuses. -/
inductive Status where
  | success
  | failure
  | misuse
  | broken
  deriving DecidableEq, Repr

def Status.code : Status → Nat
  | success => 0
  | failure => 1
  | misuse => 2
  | broken => 101

inductive Beginning where
  /-- Nothing is left to do but to print a text. -/
  | shown (text : String)
  /-- The arguments cannot be understood. -/
  | misused (m : Misuse)
  /-- A completion script is to be printed. -/
  | script (shell : Shell)
  /-- The run ends with an error. -/
  | failed (message : String) (log : Option Log)
  /-- The log cannot be opened, and without it nothing can be told. -/
  | broken
  | ready (c : Config) (log : Log)

namespace Launch

def filterName : String := "CHATSTREAM_LOG_FILTER"

def commonFilterName : String := "RUST_LOG"

/-- Opens the log, if its filter can be read and its file can be written; the first event says
how. -/
def openLog? (l : Launch) (d : DataDir) (files : Files) : Option Log := do
  let env := l.environment
  let (source, filter) ← Log.Filter.select?
    [(filterName, env filterName), (commonFilterName, env commonFilterName)]
  let format := (env "CHATSTREAM_LOG_FORMAT").getD "json"
  let runId := (env "CHATSTREAM_RUN_ID").getD l.runId
  let log : Log := { path := d.logFile, format := .ofText format, filter, runId }
  let opened : Log.Event :=
    { level := .info, target := "chatstream::logging", component := "logging"
      name := "logging.initialized"
      fields := [("run_id", runId), ("log_path", d.logFile), ("format", format),
        ("filter", filter.text), ("filter_source", source)] }
  if files.isWritable d.logFile then some (log.write opened) else none

def starting (log : Log) (c : Config) : Log.Event where
  level := .info
  target := "chatstream"
  component := "cli"
  name := "cli.starting"
  message := some "Starting chatstream"
  fields := [("run_id", log.runId), ("url", c.url), ("session_id", c.session), ("mode", c.mode)]

def leaving : Log.Event where
  level := .info
  target := "chatstream"
  component := "cli"
  name := "cli.exit"
  message := some "Exiting"

/-- Only what parses as a command is logged. -/
def commandEvent (c : Terminal.Command) : Log.Event where
  level := .debug
  target := "chatstream::repl"
  component := "repl"
  name := "repl.command"
  message := some "REPL command"
  fields := [("command", Log.describe c)]

/-- The work begins once the arguments are read and no script is wanted. -/
def work (l : Launch) (a : Arguments) : Beginning :=
  match DataDir.find? (a.get? .dataDir) (l.environment "HOME") l.account with
  | none => .failed DataDir.homelessText none
  | some d =>
    match d.make? l.files with
    | none => .failed d.unmadeText none
    | some files =>
      match l.openLog? d files with
      | none => .broken
      | some log =>
        match loadConfig a l.environment d files with
        | .error e => .failed e.message (some log)
        | .ok c => .ready c (log.write (starting log c))

/-- The directory and the files that a run of some arguments works with. -/
def places (arguments : List String) (env : Environment) : Option (DataDir × List String) :=
  match Arguments.read arguments env with
  | .ok a =>
    if a.script.isSome then none
    else
      (DataDir.find? (a.get? .dataDir) (env "HOME") none).map fun d =>
        (d, (a.get? .config).toList ++ [d.config])
  | .error _ => none

/-- The variables that a run looks at. -/
def variableNames : List String :=
  ["HOME", "CHATSTREAM_URL", "CHATSTREAM_SESSION", "CHATSTREAM_CONFIG", "CHATSTREAM_DATA_DIR",
    filterName, commonFilterName, "CHATSTREAM_LOG_FORMAT", "CHATSTREAM_RUN_ID", "CLICOLOR",
    "CLICOLOR_FORCE", "NO_COLOR", "TERM", "CI"]

def start (l : Launch) : Beginning :=
  match Arguments.read l.arguments l.environment with
  | .error (.help page) => .shown (page.text l.environment l.isTerminal)
  | .error .version => .shown (versionText ++ "\n")
  | .error (.misuse m) => .misused m
  | .ok a =>
    match a.script with
    | some shell => .script shell
    | none => l.work a

end Launch

end StreamingChat.Program
