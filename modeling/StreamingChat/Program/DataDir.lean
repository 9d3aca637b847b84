import StreamingChat.Config.Reader
import StreamingChat.Program.Arguments
import StreamingChat.Program.Files

/-!
Where the program keeps its data, and the configuration it works with: the file if there is one,
over it the environment, and over that the arguments.
-/

namespace StreamingChat.Program

structure DataDir where
  root : String

namespace DataDir

def logs (d : DataDir) : String :=
  Path.join d.root "logs"

def logFile (d : DataDir) : String :=
  Path.join d.logs "client.log"

def config (d : DataDir) : String :=
  Path.join d.root "config.toml"

/-- The directory that was named, or one in the home directory: that of the environment, or, if it
has none, that of the user's account. -/
def find? (named home account : Option String) : Option DataDir :=
  match named with
  | some root => some ⟨root⟩
  | none =>
    ((home.filter (!·.isEmpty)) <|> account).map fun home => ⟨Path.join home ".chatstream"⟩

/-- What is said when no directory is named and there is no home directory. -/
def homelessText : String :=
  "HOME directory not found; pass --data-dir"

/-- What is said when the directory cannot be made. -/
def unmadeText (d : DataDir) : String :=
  "creating data dir " ++ d.root

/-- Makes the directory and the one for logs in it. -/
def make? (d : DataDir) (f : Files) : Option Files :=
  (f.makeDirectory? d.root).bind (·.makeDirectory? d.logs)

end DataDir

/-- Why there is no configuration to work with. -/
inductive LoadError where
  /-- A file that was asked for is not there. -/
  | missing (path : String)
  | malformed (path : String)
  | invalid (p : Config.Problem)
  deriving DecidableEq, Repr

def LoadError.message : LoadError → String
  | missing path => "config file not found: " ++ path
  | malformed path => "loading config " ++ path
  | invalid p => p.message

/-- The file to read: one that was asked for must be there, the usual one may be missing. -/
def configFile (named : Option String) (d : DataDir) (f : Files) :
    Except LoadError (Option (String × String)) :=
  match named with
  | some path =>
    match f.text? path with
    | some text => .ok (some (path, text))
    | none => .error (.missing path)
  | none => .ok ((f.text? d.config).map fun text => (d.config, text))

/-- What the file says, or the defaults. -/
def fileConfig (file : Option (String × String)) : Except LoadError Config :=
  match file with
  | none => .ok {}
  | some (path, text) =>
    match Config.read? text with
    | some c => .ok c
    | none => .error (.malformed path)

/-- Arguments count as they are written, blanks included. -/
def withArguments (c : Config) (a : Arguments) : Config :=
  { c with
    url := (a.get? .url).getD c.url
    session := (a.get? .session).getD c.session
    mode := (a.get? .mode).getD c.mode }

/-- The configuration of a run, checked after everything has been put over the file. -/
def loadConfig (a : Arguments) (env : Environment) (d : DataDir) (f : Files) :
    Except LoadError Config := do
  let file ← configFile (a.get? .config) d f
  let c ← fileConfig file
  let c := withArguments
    (c.overriddenBy (env "CHATSTREAM_URL") (env "CHATSTREAM_SESSION")) a
  match c.problem? with
  | some p => .error (.invalid p)
  | none => return c

end StreamingChat.Program
