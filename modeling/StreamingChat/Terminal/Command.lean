import StreamingChat.Text.Blank

/-!
The lines a user types. A line that begins with a slash is a command of blank-separated words; any
other line is a message, and a blank one is nothing.
-/

namespace StreamingChat.Terminal

inductive Command where
  | nothing
  | say (text : String)
  | stop
  | stats
  | session (id : String)
  | approve (id : String) (remember : Bool)
  | deny (id : String)
  | help
  | quit
  deriving DecidableEq, Repr

namespace Command

/-- Why a line is no command. -/
inductive Misuse where
  | unknown (name : String)
  /-- A command that takes one id was given something else. -/
  | wantsId (name : String)
  | approve
  deriving DecidableEq, Repr

def rememberOption : String := "--remember"

def Misuse.message : Misuse → String
  | unknown name => "unknown command /" ++ name ++ ", try /help"
  | wantsId name => "usage: /" ++ name ++ " <id>"
  | approve => "usage: /approve <id> [--remember]"

/-- The words of an approval: an id, with the option before or after it if it is given. -/
def approval? : List String → Option Command
  | [id] => if id = rememberOption then none else some (.approve id false)
  | [first, second] =>
    if second = rememberOption then some (.approve first true)
    else if first = rememberOption then some (.approve second true)
    else none
  | _ => none

/-- A command that takes one id. -/
def withId (name : String) (command : String → Command) : List String → Except Misuse Command
  | [id] => .ok (command id)
  | _ => .error (.wantsId name)

/-- A command that takes nothing. -/
def alone (name : String) (command : Command) (arguments : List String) : Except Misuse Command :=
  if arguments.isEmpty then .ok command else .error (.unknown name)

/-- The command of a name with the words after it. -/
def ofWords (name : String) (arguments : List String) : Except Misuse Command :=
  if name = "stop" then alone name .stop arguments
  else if name = "stats" then alone name .stats arguments
  else if name = "help" then alone name .help arguments
  else if name = "quit" ∨ name = "exit" then alone name .quit arguments
  else if name = "session" then withId name .session arguments
  else if name = "deny" then withId name .deny arguments
  else if name = "approve" then
    match approval? arguments with
    | some c => .ok c
    | none => .error .approve
  else .error (.unknown name)

/-- The command of a line without blanks at its ends. -/
def ofTrimmed : List Char → Except Misuse Command
  | [] => .ok .nothing
  | '/' :: rest =>
    match (Text.wordChars rest).map String.ofList with
    | [] => .error (.unknown "")
    | name :: arguments => ofWords name arguments
  | text => .ok (.say (String.ofList text))

def ofLine (line : String) : Except Misuse Command :=
  ofTrimmed (Text.trimChars line.toList)

/-- What `/help` prints. -/
def helpText : String :=
  "<text>                      send a message\n" ++
  "  /stop                       stop the current generation\n" ++
  "  /stats                      request memory statistics\n" ++
  "  /session <id>               switch session\n" ++
  "  /approve <id> [--remember]  approve a tool call\n" ++
  "  /deny <id>                  deny a tool call\n" ++
  "  /quit                       exit"

end Command

end StreamingChat.Terminal
