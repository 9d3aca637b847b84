import StreamingChat.Json.Record

/-!
Frames that the client sends. A control frame carries its type; a turn of the user carries none
and is told by its own fields, so reading tries control frames first.
-/

namespace StreamingChat.Wire

inductive Control where
  | stop
  | stats
  | setSession (session : String)
  | answer (request : String) (approved : Bool)
  deriving DecidableEq, Repr

/-- What the user says, with how it is to be answered. -/
structure Turn where
  message : String
  mode : String
  attachments : List Value := []
  skipWebSearch : Option Bool := none
  session : String

inductive Outbound where
  | control (c : Control)
  | turn (t : Turn)

namespace Control

def stopType : String := "stop"

def statsType : String := "get_stats"

def setSessionType : String := "set_session"

def answerType : String := "tool_confirmation_response"

def types : List String := [stopType, statsType, setSessionType, answerType]

/-- The type of a control frame, by name or by its number among the types. -/
def type? : Json → Option String
  | .string s => some s
  | .number (.integer n _) => if n < 0 then none else types[n.toNat]?
  | _ => none

def json : Control → Json
  | stop => .object [("type", .string stopType)]
  | stats => .object [("type", .string statsType)]
  | setSession session =>
    .object [("type", .string setSessionType), ("sessionId", .string session)]
  | answer request approved =>
    .object [("type", .string answerType), ("requestId", .string request),
      ("approved", .bool approved)]

def ofBody? (type : String) (body : Json) : Option Control :=
  if type = stopType then body.noFields?.map fun _ => stop
  else if type = statsType then body.noFields?.map fun _ => stats
  else if type = setSessionType then do
    let f ← body.fields? ["sessionId"]
    return setSession (← f.required "sessionId" Json.string?)
  else if type = answerType then do
    let f ← body.fields? ["requestId", "approved"]
    return answer (← f.required "requestId" Json.string?) (← f.required "approved" Json.bool?)
  else none

def ofJson? (j : Json) : Option Control := do
  let (tag, body) ← j.tagged? "type"
  ofBody? (← type? tag) body

end Control

namespace Turn

def fieldNames : List String := ["message", "mode", "attachments", "skipWebSearch", "sessionId"]

/-- An empty list of attachments is left out. -/
def json (t : Turn) : Json :=
  .object <|
    [("message", .string t.message), ("mode", .string t.mode)] ++
    (if t.attachments.isEmpty then [] else [("attachments", Json.ofValues t.attachments)]) ++
    Json.optionalMember "skipWebSearch" .bool t.skipWebSearch ++
    [("sessionId", .string t.session)]

def ofJson? (j : Json) : Option Turn := do
  let f ← j.fields? fieldNames
  return {
    message := ← f.required "message" Json.string?
    mode := ← f.required "mode" Json.string?
    attachments := ← f.withDefault "attachments" [] Json.values?
    skipWebSearch := ← f.optional "skipWebSearch" Json.bool?
    session := ← f.required "sessionId" Json.string? }

end Turn

namespace Outbound

def json : Outbound → Json
  | control c => c.json
  | turn t => t.json

/-- The text that goes over the wire. -/
def render (f : Outbound) : String :=
  f.json.render

def ofJson? (j : Json) : Option Outbound :=
  (Control.ofJson? j).map control <|> (Turn.ofJson? j).map turn

def read? (text : String) : Option Outbound :=
  (Json.read? text).bind ofJson?

def stop : Outbound := control .stop

def stats : Outbound := control .stats

def setSession (session : String) : Outbound :=
  control (.setSession session)

def answer (request : String) (approved : Bool) : Outbound :=
  control (.answer request approved)

end Outbound

end StreamingChat.Wire
