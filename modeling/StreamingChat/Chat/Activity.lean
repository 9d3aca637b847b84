import StreamingChat.Json.Record

/-!
What the agents of the backend report while they work: a table with one row per agent, in the
order in which the agents first reported, that keeps the last report of each.
-/

namespace StreamingChat.Chat.Activity

inductive Status where
  | pending
  | processing
  | completed
  | error
  deriving DecidableEq, Repr

namespace Status

def name : Status → String
  | pending => "pending"
  | processing => "processing"
  | completed => "completed"
  | error => "error"

/-- Every name a backend may use for a status, its own one first. -/
def names : List (String × Status) :=
  [("pending", pending), ("processing", processing), ("running", processing),
   ("completed", completed), ("done", completed), ("complete", completed),
   ("error", error), ("failed", error)]

def ofName? (name : String) : Option Status :=
  names.lookup name

theorem ofName?_name (s : Status) : ofName? s.name = some s := by
  cases s <;> decide

end Status

/-- A report. The id names a step of the backend, not the agent that is shown. -/
structure Update where
  id : String
  status : Status
  message : String
  deriving DecidableEq, Repr

namespace Update

def fieldNames : List String := ["id", "status", "message"]

def ofJson? (body : Json.EmptyBody) (j : Json) : Option Update := do
  let f ← j.fields? fieldNames
  return {
    id := ← f.required "id" Json.string?
    status := ← f.required "status" fun j => (Json.choice? body j).bind Status.ofName?
    message := ← f.withDefault "message" "" Json.string? }

def json (u : Update) : Json :=
  .object [("id", .string u.id), ("status", .string u.status.name), ("message", .string u.message)]

end Update

/-- The agents behind the steps that are known. -/
def agents : List (String × String) :=
  [("router", "Router"), ("planner", "Planner"), ("researcher", "Researcher"),
   ("web_search", "Web Search"), ("memory_retrieval", "Memory"), ("memory_update", "Memory"),
   ("tool_executor", "Tool Executor"), ("code_executor", "Code Executor"), ("critic", "Critic"),
   ("synthesizer", "Synthesizer")]

/-- The name shown for a step; a step that is not known is shown under its id. -/
def agentOf (step : String) : String :=
  (agents.lookup step).getD step

structure Row where
  agent : String
  status : Status
  details : String
  step : Nat
  deriving DecidableEq, Repr

/-- The largest step number; later rows all have it. -/
def maxStep : Nat := 4294967295

/-- The table in the order of first reports. -/
structure Log where
  rows : List Row := []

namespace Log

/-- Overwrites the first row of an agent, or gives the next step number to a new one. -/
def put (agent : String) (status : Status) (details : String) (taken : Nat) :
    List Row → List Row
  | [] => [{ agent, status, details, step := min (taken + 1) maxStep }]
  | row :: rest =>
    if row.agent = agent then { row with status, details } :: rest
    else row :: put agent status details (taken + 1) rest

def upsert (log : Log) (u : Update) : Log :=
  ⟨put (agentOf u.id) u.status u.message 0 log.rows⟩

def clear (_ : Log) : Log :=
  {}

end Log

end StreamingChat.Chat.Activity
