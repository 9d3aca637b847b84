import StreamingChat.Program.Arguments
import StreamingChat.Terminal.Style
import StreamingChat.Terminal.Visible

/-!
The pages of help and the version.
-/

namespace StreamingChat.Program

open StreamingChat.Terminal (Palette Style)

def versionText : String := "chatstream 0.3.0"

namespace Page

/-- A word that is typed as it stands. -/
def word (p : Palette) (text : String) : String :=
  { weight := some .bold : Style }.paint p text

def heading (p : Palette) (text : String) : String :=
  { weight := some .bold, isUnderlined := true : Style }.paint p (text ++ ":")

def usage (p : Palette) (command rest : String) : String :=
  heading p "Usage" ++ " " ++ word p command ++ " " ++ rest

def spaces (n : Nat) : String :=
  String.ofList (List.replicate n ' ')

/-- The column in which options are explained. -/
def column : Nat := 29

/-- An option with its explanation; further lines of that begin in the same column. -/
def option (p : Palette) (short : Option Char) (name value about : String) : String :=
  let before := match short with
    | some c => "  " ++ word p (String.ofList ['-', c]) ++ ", "
    | none => spaces 6
  let width := 6 + name.length + value.length
  let lines := Text.split '\n' about
  before ++ word p name ++ value ++ spaces (column - width) ++
    String.intercalate ("\n" ++ spaces column) lines

/-- An explanation with a variable and its present value. -/
def withVariable (env : Environment) (about name : String) : String :=
  about ++ " [env: " ++ name ++ "=" ++ (env name).getD "" ++ "]"

def dataDirLine (p : Palette) (env : Environment) : String :=
  option p none "--data-dir" " <DATA_DIR>"
    (withVariable env "Data directory (default: ~/.chatstream)" "CHATSTREAM_DATA_DIR")

def helpFlagLine (p : Palette) : String :=
  option p (some 'h') "--help" "" "Print help"

/-- The lines of a page; a value of a variable may bring further lines into one. -/
def lines (p : Palette) (env : Environment) : Page → List String
  | main => [
    "Chat with the inference backend from the terminal",
    "",
    usage p "chatstream" "[OPTIONS] [COMMAND]",
    "",
    heading p "Commands",
    "  " ++ word p "completions" ++ "  Generate shell completion scripts",
    "  " ++ word p "help" ++
      "         Print this message or the help of the given subcommand(s)",
    "",
    heading p "Options",
    option p none "--url" " <URL>" "Backend WebSocket URL (overrides config and CHATSTREAM_URL)",
    option p none "--session" " <SESSION>"
      "Session to open (overrides config and CHATSTREAM_SESSION)",
    option p none "--mode" " <MODE>" "Generation mode sent with each message",
    option p none "--config" " <CONFIG>" (withVariable env "Config file" "CHATSTREAM_CONFIG"),
    dataDirLine p env,
    helpFlagLine p,
    option p (some 'V') "--version" "" "Print version"]
  | completions => [
    "Generate shell completion scripts",
    "",
    usage p "chatstream completions" "[OPTIONS] <SHELL>",
    "",
    heading p "Arguments",
    "  <SHELL>  [possible values: " ++ String.intercalate ", " (Shell.all.map Shell.name) ++ "]",
    "",
    heading p "Options",
    dataDirLine p env,
    helpFlagLine p]
  | help => [
    "Print this message or the help of the given subcommand(s)",
    "",
    usage p "chatstream help" "[COMMAND]...",
    "",
    heading p "Arguments",
    "  [COMMAND]...  Print help for the subcommand(s)"]

/-- Whether help is coloured: a wish against it counts before one for it, and both before what the
output is. -/
def palette (env : Environment) (isTerminal : Bool) : Palette :=
  let isSet := fun name => (env name).any (!·.isEmpty)
  let isCapable := (env "TERM").any (· != "dumb") || (env "CLICOLOR").isSome || (env "CI").isSome
  if isSet "NO_COLOR" then .plain
  else if isSet "CLICOLOR_FORCE" then .coloured
  else if env "CLICOLOR" == some "0" then .plain
  else if isTerminal && isCapable then .coloured
  else .plain

/-- A page as it is printed. Without colours nothing is printed that a terminal would not show. -/
def text (env : Environment) (isTerminal : Bool) (page : Page) : String :=
  let p := palette env isTerminal
  let text := String.join ((page.lines p env).map (· ++ "\n"))
  match p with
  | .plain => Terminal.visible text
  | .coloured => text

end Page

end StreamingChat.Program
