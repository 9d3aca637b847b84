import StreamingChat.Json.Record

/-!
The user's consent to the tools that the backend wants to run. The newest request that was not
answered is the visible one; requests that it pushed aside can still be answered, the last sixteen
of them. A tool approved for good is approved without asking from then on.
-/

namespace StreamingChat.Chat.Approval

structure Request where
  id : String
  tool : String
  args : Value
  description : Option String

namespace Request

def fieldNames : List String := ["requestId", "toolName", "toolArgs", "description"]

def ofJson? (j : Json) : Option Request := do
  let f ← j.fields? fieldNames
  return {
    id := ← f.required "requestId" Json.string?
    tool := ← f.required "toolName" Json.string?
    args := ← f.withDefault "toolArgs" .null Json.value?
    description := ← f.optional "description" Json.string? }

def json (r : Request) : Json :=
  .object <|
    [("requestId", .string r.id), ("toolName", .string r.tool), ("toolArgs", r.args.json)] ++
    Json.optionalMember "description" .string r.description

end Request

/-- How many requests can be answered at a time. -/
def capacity : Nat := 16

/-- A request that was shown and not yet answered. -/
structure Outstanding where
  id : String
  tool : String
  deriving DecidableEq, Repr

structure Gate where
  pending : Option Request := none
  /-- Tools approved for good, the latest first. -/
  remembered : List String := []
  /-- Oldest first. -/
  outstanding : List Outstanding := []

inductive Offered where
  /-- The request is the visible one now. -/
  | surfaced
  /-- The request is to be approved without asking. -/
  | approved (id : String)
  deriving DecidableEq, Repr

namespace Gate

def isRemembered (g : Gate) (tool : String) : Bool :=
  g.remembered.contains tool

/-- Queues a request behind the others, once for each id; a full queue drops its oldest. -/
def enqueue (queue : List Outstanding) (o : Outstanding) : List Outstanding :=
  let others := queue.filter (·.id != o.id)
  (if others.length = capacity then others.drop 1 else others) ++ [o]

def offer (g : Gate) (r : Request) : Gate × Offered :=
  if g.isRemembered r.tool then (g, .approved r.id)
  else
    ({ g with pending := some r, outstanding := enqueue g.outstanding ⟨r.id, r.tool⟩ }, .surfaced)

/-- The tool of the first outstanding request with an id. -/
def toolOf? (g : Gate) (id : String) : Option String :=
  (g.outstanding.find? (·.id == id)).map (·.tool)

/-- Records an answer. Only the visible request that was answered goes away; a tool is remembered
only if it was approved under a request that is still outstanding. -/
def resolve (g : Gate) (id : String) (approved remember : Bool) : Gate where
  pending := g.pending.filter (·.id != id)
  remembered :=
    match approved && remember, g.toolOf? id with
    | true, some tool => if g.isRemembered tool then g.remembered else tool :: g.remembered
    | _, _ => g.remembered
  outstanding := g.outstanding.eraseP (·.id == id)

def reset (_ : Gate) : Gate :=
  {}

theorem length_enqueue (queue : List Outstanding) (o : Outstanding)
    (h : queue.length ≤ capacity) : (enqueue queue o).length ≤ capacity := by
  have := List.length_filter_le (fun q : Outstanding => q.id != o.id) queue
  unfold enqueue
  simp only
  split
  · simp [capacity] at *; omega
  · simp [capacity] at *; omega

end Gate

end StreamingChat.Chat.Approval
