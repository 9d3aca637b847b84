import StreamingChat.Text.Blank

/-!
The arguments of the program. There are settings that take one value each, flags for help and for
the version, and two commands: one prints a completion script and one prints help. A value is
checked when the word after it is read, so of two mistakes the one that is noticed first counts.
-/

namespace StreamingChat.Program

inductive Shell where
  | bash
  | elvish
  | fish
  | powershell
  | zsh
  deriving DecidableEq, Repr

namespace Shell

def name : Shell → String
  | bash => "bash"
  | elvish => "elvish"
  | fish => "fish"
  | powershell => "powershell"
  | zsh => "zsh"

def all : List Shell := [bash, elvish, fish, powershell, zsh]

def ofName? (name : String) : Option Shell :=
  all.find? (·.name == name)

end Shell

inductive Setting where
  | url
  | session
  | mode
  | config
  | dataDir
  deriving DecidableEq, Repr

namespace Setting

def name : Setting → String
  | url => "url"
  | session => "session"
  | mode => "mode"
  | config => "config"
  | dataDir => "data-dir"

/-- The environment variable that stands in for a setting. -/
def environmentName : Setting → Option String
  | config => some "CHATSTREAM_CONFIG"
  | dataDir => some "CHATSTREAM_DATA_DIR"
  | url | session | mode => none

/-- A path must not be empty. -/
def accepts (s : Setting) (value : String) : Bool :=
  match s with
  | config | dataDir => !value.isEmpty
  | url | session | mode => true

end Setting

/-- Where a word stands: before a command or after the one for completions. -/
inductive Scope where
  | main
  | completions
  deriving DecidableEq, Repr

namespace Scope

def settings : Scope → List Setting
  | main => [.url, .session, .mode, .config, .dataDir]
  | completions => [.dataDir]

def setting? (s : Scope) (name : String) : Option Setting :=
  s.settings.find? (·.name == name)

def hasVersion (s : Scope) : Bool :=
  s == .main

end Scope

inductive Misuse where
  | unknownArgument
  | unknownCommand
  | invalidValue
  | unexpectedValue
  | missingArgument
  | repeated
  deriving DecidableEq, Repr

def Misuse.message : Misuse → String
  | unknownArgument => "unexpected argument"
  | unknownCommand => "unrecognized subcommand"
  | invalidValue => "invalid or missing value"
  | unexpectedValue => "unexpected value for a flag"
  | missingArgument => "a required argument is missing"
  | repeated => "an argument was given more than once"

/-- A page of help. -/
inductive Page where
  | main
  | completions
  | help
  deriving DecidableEq, Repr

/-- Why the program does not get to its work. -/
inductive Stop where
  | help (page : Page)
  | version
  | misuse (m : Misuse)
  deriving DecidableEq, Repr

abbrev Environment := String → Option String

/-- A word by its shape. -/
inductive Word where
  | dashes
  | long (name : String) (value : Option String)
  | short (letter : Char)
  | plain

def Word.of (text : String) : Word :=
  match text.toList with
  | ['-', '-'] => .dashes
  | '-' :: '-' :: rest =>
    let name := rest.takeWhile (· != '=')
    let value := if rest.contains '=' then some (rest.drop (name.length + 1)) else none
    .long (String.ofList name) (value.map String.ofList)
  | '-' :: letter :: _ => .short letter
  | _ => .plain

/-- What has been read and not yet been checked. -/
inductive Pending where
  | setting (s : Setting) (value : Option String)
  | shell (name : String)

/-- What has been read in one scope. -/
structure Reading where
  values : List (Setting × String) := []
  shell : Option Shell := none
  pending : Option Pending := none
  /-- The place of the shell is taken. -/
  hasShell : Bool := false
  /-- After two dashes there are no options. -/
  plainOnly : Bool := false

namespace Reading

abbrev Outcome (α : Type) := Except Stop α

def refuse (m : Misuse) : Outcome α :=
  .error (.misuse m)

/-- Checks what is pending. -/
def settle (r : Reading) : Outcome Reading :=
  match r.pending with
  | none => .ok r
  | some (.setting _ none) => refuse .invalidValue
  | some (.setting s (some value)) =>
    if (r.values.lookup s).isSome then refuse .repeated
    else if s.accepts value then
      .ok { r with values := r.values ++ [(s, value)], pending := none }
    else refuse .invalidValue
  | some (.shell name) =>
    match Shell.ofName? name with
    | some shell => .ok { r with shell := some shell, pending := none }
    | none => refuse .invalidValue

/-- Whether a setting waits for its value. -/
def awaitsValue (r : Reading) : Bool :=
  match r.pending with
  | some (.setting _ none) => true
  | _ => false

def expect (r : Reading) (p : Pending) : Outcome Reading := do
  let r ← r.settle
  return { r with pending := some p }

def stopFor (r : Reading) (s : Stop) : Outcome Reading := do
  let _ ← r.settle
  .error s

def pageOf : Scope → Page
  | .main => .main
  | .completions => .completions

/-- A flag or a setting with two dashes. -/
def long (r : Reading) (scope : Scope) (name : String) (value : Option String) :
    Outcome Reading :=
  match scope.setting? name with
  | some s => do
    let r ← r.expect (.setting s value)
    if value.isSome then r.settle else return r
  | none =>
    if name = "help" then
      if value.isSome then refuse .unexpectedValue else r.stopFor (.help (pageOf scope))
    else if name = "version" ∧ scope.hasVersion then
      if value.isSome then refuse .unexpectedValue else r.stopFor .version
    else refuse .unknownArgument

/-- A flag with one dash. -/
def short (r : Reading) (scope : Scope) (letter : Char) : Outcome Reading :=
  if letter = 'h' then r.stopFor (.help (pageOf scope))
  else if letter = 'V' ∧ scope.hasVersion then r.stopFor .version
  else refuse .unknownArgument

def commandNames : List String := ["completions", "help"]

/-- A word that is no option and no value of one. -/
def place (r : Reading) (scope : Scope) (word : String) : Outcome Reading :=
  match scope with
  | .main =>
    if r.plainOnly && commandNames.contains word then refuse .unknownArgument
    else refuse .unknownCommand
  | .completions =>
    if r.hasShell then refuse .unknownArgument
    else do
      let r ← r.expect (.shell word)
      return { r with hasShell := true }

/-- Takes a word that is no command. -/
def take (r : Reading) (scope : Scope) (word : String) : Outcome Reading :=
  if r.plainOnly then r.place scope word
  else
    match Word.of word with
    | .dashes => .ok { r with plainOnly := true }
    | .long name value => r.long scope name value
    | .short letter => r.short scope letter
    | .plain =>
      match r.pending with
      | some (.setting s none) => .ok { r with pending := some (.setting s (some word)) }
      | _ => r.place scope word

/-- The values that the environment has for what was not given. -/
def fromEnvironment (r : Reading) (scope : Scope) (env : Environment) :
    Outcome (List (Setting × String)) :=
  let found := scope.settings.filterMap fun s =>
    if (r.values.lookup s).isSome then none
    else (s.environmentName.bind env).map fun value => (s, value)
  if found.all fun f => f.1.accepts f.2 then .ok found else refuse .invalidValue

/-- The words after the command for help. -/
def helpOn : List String → Stop
  | [] => .help .main
  | ["completions"] => .help .completions
  | ["help"] => .help .help
  | _ => .misuse .unknownCommand

/-- The words before a command, and those after the command for completions if it is there. -/
def split (r : Reading) : List String → Outcome (Reading × Option (List String))
  | [] => .ok (r, none)
  | word :: rest =>
    if !r.plainOnly && !r.awaitsValue && word == "help" then .error (helpOn rest)
    else if !r.plainOnly && !r.awaitsValue && word == "completions" then .ok (r, some rest)
    else do
      let r ← r.take .main word
      r.split rest

end Reading

/-- The values of the settings, and the shell if a script for it is wanted. -/
structure Arguments where
  values : List (Setting × String)
  script : Option Shell

namespace Arguments

def get? (a : Arguments) (s : Setting) : Option String :=
  a.values.lookup s

/-- The words after the command for completions. -/
def script? (words : List String) (env : Environment) :
    Reading.Outcome (List (Setting × String) × Shell) := do
  let r ← words.foldlM (fun (r : Reading) word => r.take .completions word) {}
  let r ← r.settle
  let _ ← r.fromEnvironment .completions env
  match r.shell with
  | some shell => return (r.values, shell)
  | none => Reading.refuse .missingArgument

/-- Reads the words of the command line. A value after the command counts before one that precedes
it, and both before the environment. -/
def read (words : List String) (env : Environment) : Reading.Outcome Arguments := do
  let (r, after) ← ({} : Reading).split words
  let script ← after.mapM (script? · env)
  let r ← r.settle
  let found ← r.fromEnvironment .main env
  return {
    values := ((script.map Prod.fst).getD []) ++ r.values ++ found
    script := script.map Prod.snd }

end Arguments

end StreamingChat.Program
