import StreamingChat.Calendar.Timestamp
import StreamingChat.Json.Record

/-!
Messages of a conversation and the entries a backend replays them from.
-/

namespace StreamingChat.Chat

inductive Role where
  | user
  | assistant
  | system
  deriving DecidableEq, Repr

namespace Role

def name : Role → String
  | user => "user"
  | assistant => "assistant"
  | system => "system"

def ofName? (name : String) : Option Role :=
  [user, assistant, system].find? (·.name == name)

theorem ofName?_name (r : Role) : ofName? r.name = some r := by
  cases r <;> decide

end Role

/-- Ids that the backend gave and ids that the client made up are never equal. -/
inductive MessageId where
  | given (id : String)
  | generated (serial : Nat)
  deriving DecidableEq, Repr

/-- Where a text comes from, as far as the backend says. -/
structure Origin where
  mode : Option String := none
  agent : Option String := none
  node : Option String := none
  deriving DecidableEq, Repr

namespace Origin

/-- Keeps what is known and takes what is missing from another origin. -/
def fillFrom (known other : Origin) : Origin where
  mode := known.mode <|> other.mode
  agent := known.agent <|> other.agent
  node := known.node <|> other.node

def members (o : Origin) : List (String × Json) :=
  Json.optionalMember "mode" .string o.mode ++
    Json.optionalMember "agentName" .string o.agent ++
    Json.optionalMember "nodeId" .string o.node

def fieldNames : List String := ["mode", "agentName", "nodeId"]

def ofFields? (f : Json.Fields) : Option Origin := do
  return {
    mode := ← f.optional "mode" Json.string?
    agent := ← f.optional "agentName" Json.string?
    node := ← f.optional "nodeId" Json.string? }

theorem fillFrom_assoc (a b c : Origin) :
    (a.fillFrom b).fillFrom c = a.fillFrom (b.fillFrom c) := by
  rcases a with ⟨_ | _, _ | _, _ | _⟩ <;> rfl

theorem fillFrom_empty (o : Origin) : o.fillFrom {} = o := by
  rcases o with ⟨_ | _, _ | _, _ | _⟩ <;> rfl

theorem empty_fillFrom (o : Origin) : ({} : Origin).fillFrom o = o := rfl

end Origin

structure Message where
  id : MessageId
  role : Role
  content : String
  time : Calendar.Instant
  origin : Origin := {}
  isComplete : Bool
  deriving DecidableEq, Repr

/-- A stored message as the backend replays it; the timestamp may be written in any notation. -/
structure Entry where
  id : Option String
  role : Role
  content : String
  timestamp : Option Value
  origin : Origin

namespace Entry

def fieldNames : List String := ["id", "role", "content", "timestamp"] ++ Origin.fieldNames

def role? (j : Json) : Option Role :=
  (Json.choice? .null j).bind Role.ofName?

def ofJson? (j : Json) : Option Entry := do
  let f ← j.fields? fieldNames
  return {
    id := ← f.optional "id" Json.string?
    role := ← f.required "role" role?
    content := ← f.withDefault "content" "" Json.string?
    timestamp := ← f.optional "timestamp" Json.value?
    origin := ← Origin.ofFields? f }

def ofValue? (v : Value) : Option Entry :=
  ofJson? v.json

def json (e : Entry) : Json :=
  .object <|
    Json.optionalMember "id" .string e.id ++
    ("role", .string e.role.name) :: ("content", .string e.content) ::
    Json.optionalMember "timestamp" Value.json e.timestamp ++ e.origin.members

end Entry

/-- The instant a free-form timestamp stands for: text in one of the notations, or whole
milliseconds since 1970. -/
def timestamp? (v : Value) : Option Calendar.Instant :=
  match v.json with
  | .string s => Calendar.Timestamp.ofText? s
  | .number (.integer n _) => Calendar.Instant.ofMillis? n
  | _ => none

namespace Entry

def time? (e : Entry) : Option Calendar.Instant :=
  e.timestamp.bind timestamp?

/-- The complete message of an entry. Without an id of its own it takes `fresh`, and without a
timestamp that is understood the `fallback`. -/
def toMessage (e : Entry) (fresh : MessageId) (fallback : Calendar.Instant) : Message where
  id := (e.id.map .given).getD fresh
  role := e.role
  content := e.content
  time := e.time?.getD fallback
  origin := e.origin
  isComplete := true

end Entry

end StreamingChat.Chat
