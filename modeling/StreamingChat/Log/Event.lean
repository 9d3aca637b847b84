import StreamingChat.Log.Filter
import StreamingChat.Terminal.Command
import StreamingChat.Text.Quoted

/-!
What is written into the log of the program, in order and as far as the filter lets it through.
-/

namespace StreamingChat

namespace Log

structure Event where
  level : Level
  /-- The part of the program the event comes from. -/
  target : String
  component : String
  name : String
  message : Option String := none
  /-- What the event says besides. -/
  fields : List (String × String) := []

inductive Format where
  | lines
  | pretty
  deriving DecidableEq, Repr

/-- The pretty format has to be asked for, in any case. -/
def Format.ofText (text : String) : Format :=
  if Level.lowerCase text = "pretty" then .pretty else .lines

/-- The text of a command in the log. -/
def describe : Terminal.Command → String
  | .nothing => "Empty"
  | .say text => "Chat(" ++ Text.Quoted.encode text ++ ")"
  | .stop => "Stop"
  | .stats => "Stats"
  | .session id => "Session(" ++ Text.Quoted.encode id ++ ")"
  | .approve id remember =>
    "Approve \x7b request_id: " ++ Text.Quoted.encode id ++ ", remember: " ++
      (if remember then "true" else "false") ++ " \x7d"
  | .deny id => "Deny \x7b request_id: " ++ Text.Quoted.encode id ++ " \x7d"
  | .help => "Help"
  | .quit => "Quit"

end Log

structure Log where
  path : String
  format : Log.Format
  filter : Log.Filter
  /-- Tells apart the runs of the program. -/
  runId : String
  /-- Oldest first. -/
  events : List Log.Event := []

/-- The names of all that an event says. -/
def Log.Event.fieldNames (e : Log.Event) : List String :=
  e.message.toList.map (fun _ => "message") ++ "component" :: "event" :: e.fields.map Prod.fst

/-- Takes an event unless the filter holds it back. -/
def Log.write (l : Log) (e : Log.Event) : Log :=
  if l.filter.allows e.target e.fieldNames e.level then { l with events := l.events ++ [e] } else l

end StreamingChat
