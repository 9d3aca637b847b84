import StreamingChat.Chat.Activity
import StreamingChat.Chat.Approval
import StreamingChat.Chat.Message

/-!
Frames that the backend sends. The type decides which fields a frame has; a type that is not known
makes a frame of its own, so that a newer backend can be listened to.
-/

namespace StreamingChat.Wire

open StreamingChat.Chat

inductive Inbound where
  | chunk (text : Option String) (origin : Origin)
  | done
  | stopped
  | status
  | error (message : Option String)
  | stats (data : Value)
  | searchResults (data : List Value)
  | activity (update : Activity.Update)
  | confirmation (request : Approval.Request)
  /-- The entries stay as they came, so that one bad entry does not spoil the others. -/
  | history (entries : List Value) (session : Option String)
  | sessionChanged (session : String)
  | downloadProgress (data : Value)
  | unknown

namespace Inbound

def kind : Inbound → String
  | chunk .. => "chunk"
  | done => "done"
  | stopped => "stopped"
  | status => "status"
  | error _ => "error"
  | stats _ => "stats"
  | searchResults _ => "search_results"
  | activity _ => "activity"
  | confirmation _ => "tool_confirmation_request"
  | history .. => "history"
  | sessionChanged _ => "session_changed"
  | downloadProgress _ => "download_progress"
  | unknown => "unknown"

def chunk? (body : Json) : Option Inbound := do
  let f ← body.fields? ("message" :: Origin.fieldNames)
  return chunk (← f.optional "message" Json.string?) (← Origin.ofFields? f)

def error? (body : Json) : Option Inbound := do
  let f ← body.fields? ["message"]
  return error (← f.optional "message" Json.string?)

/-- The one field of the frames that carry data. -/
def data? (body : Json) : Option Json.Fields :=
  body.fields? ["data"]

def history? (body : Json) : Option Inbound := do
  let f ← body.fields? ["messages", "sessionId"]
  return history (← f.withDefault "messages" [] Json.values?)
    (← f.optional "sessionId" Json.string?)

def sessionChanged? (body : Json) : Option Inbound := do
  let f ← body.fields? ["sessionId"]
  return sessionChanged (← f.required "sessionId" Json.string?)

/-- The frame of a type with the given body. -/
def ofBody? (type : String) (body : Json) : Option Inbound :=
  match type with
  | "chunk" => chunk? body
  | "done" => body.noFields?.map fun _ => done
  | "stopped" => body.noFields?.map fun _ => stopped
  | "status" => body.noFields?.map fun _ => status
  | "error" => error? body
  | "stats" => do return stats (← (← data? body).withDefault "data" .null Json.value?)
  | "search_results" => do
    return searchResults (← (← data? body).withDefault "data" [] Json.values?)
  | "activity" => do
    return activity (← (← data? body).required "data" (Activity.Update.ofJson? .nullOrObject))
  | "tool_confirmation_request" => do
    return confirmation (← (← data? body).required "data" Approval.Request.ofJson?)
  | "history" => history? body
  | "session_changed" => sessionChanged? body
  | "download_progress" => do
    return downloadProgress (← (← data? body).withDefault "data" .null Json.value?)
  | _ => body.noFields?.map fun _ => unknown

def ofJson? (j : Json) : Option Inbound := do
  let (tag, body) ← j.tagged? "type"
  ofBody? (← tag.string?) body

def read? (text : String) : Option Inbound :=
  (Json.read? text).bind ofJson?

/-- The members after the type, those without a value left out. -/
def members : Inbound → List (String × Json)
  | chunk text origin => Json.optionalMember "message" .string text ++ origin.members
  | error message => Json.optionalMember "message" .string message
  | stats data | downloadProgress data => [("data", data.json)]
  | searchResults data => [("data", Json.ofValues data)]
  | activity update => [("data", update.json)]
  | confirmation request => [("data", request.json)]
  | history entries session =>
    ("messages", Json.ofValues entries) :: Json.optionalMember "sessionId" .string session
  | sessionChanged session => [("sessionId", .string session)]
  | done | stopped | status | unknown => []

def json (f : Inbound) : Json :=
  .object (("type", .string f.kind) :: f.members)

end Inbound

end StreamingChat.Wire
