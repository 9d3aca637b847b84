import StreamingChat.Calendar.Instant
import StreamingChat.Json.Reader
import StreamingChat.Log.Event

/-!
How an event is written down. In the format of lines it is one JSON object; in the pretty format it
is a text for readers, with an empty line after it.
-/

namespace StreamingChat.Log

def Level.capitals (l : Level) : String :=
  String.ofList (l.name.toList.map Char.toUpper)

namespace Event

/-- The members of an event besides its time. -/
def members (e : Event) : List (String × Json) :=
  ("level", .string e.level.capitals) :: (e.message.map fun m => ("message", .string m)).toList ++
    [("component", .string e.component), ("event", .string e.name)] ++
    e.fields.map (fun f => (f.1, .string f.2)) ++ [("target", .string e.target)]

/-- An event as one line of JSON. -/
def line (time : Calendar.Instant) (e : Event) : String :=
  (Json.object (("timestamp", .string time.text) :: e.members)).render

/-- An event for readers. -/
def pretty (time : Calendar.Instant) (e : Event) : String :=
  let named := ("component", e.component) :: ("event", e.name) :: e.fields
  let parts := e.message.toList ++ named.map fun f => f.1 ++ ": " ++ f.2
  "  " ++ time.text ++ "  " ++ e.level.capitals ++ " " ++ e.target ++ ": " ++
    String.intercalate ", " parts ++ "\n"

def text (f : Format) (time : Calendar.Instant) (e : Event) : String :=
  match f with
  | .lines => e.line time
  | .pretty => e.pretty time

end Event

end StreamingChat.Log
