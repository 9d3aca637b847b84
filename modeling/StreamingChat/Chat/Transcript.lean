import StreamingChat.Chat.Message

/-!
The messages of a conversation in order. Complete messages are never changed; at most one message
still receives text, and it stands last. Main statements: what each operation does to the visible
sequence.
-/

namespace StreamingChat.Chat

structure Transcript where
  committed : List Message := []
  inProgress : Option Message := none
  /-- How many ids have been generated. -/
  issued : Nat := 0

namespace Transcript

/-- The messages a reader sees. -/
def visible (t : Transcript) : List Message :=
  t.committed ++ t.inProgress.toList

def length (t : Transcript) : Nat :=
  t.committed.length + t.inProgress.toList.length

def isEmpty (t : Transcript) : Bool :=
  t.length == 0

/-- The node the message in progress belongs to. -/
def node (t : Transcript) : Option String :=
  t.inProgress.bind (·.origin.node)

def completed (m : Message) : Message :=
  { m with isComplete := true }

/-- Adds a complete message. -/
def push (t : Transcript) (m : Message) : Transcript :=
  { t with committed := t.committed ++ [completed m] }

/-- Completes the message in progress. -/
def complete (t : Transcript) : Transcript :=
  { t with committed := t.committed ++ (t.inProgress.map completed).toList, inProgress := none }

/-- Starts a message that receives text; the one before it is completed. -/
def start (t : Transcript) (m : Message) : Transcript :=
  { t.complete with inProgress := some { m with isComplete := false } }

/-- Adds text to the message in progress, and what was not yet known of its origin. -/
def append (t : Transcript) (text : String) (origin : Origin) : Transcript :=
  { t with
    inProgress := t.inProgress.map fun m =>
      { m with content := m.content ++ text, origin := m.origin.fillFrom origin } }

/-- Puts other messages in the place of all. -/
def replace (t : Transcript) (messages : List Message) : Transcript :=
  { t with committed := messages.map completed, inProgress := none }

def clear (t : Transcript) : Transcript :=
  { t with committed := [], inProgress := none }

/-- An id that was not generated before. -/
def freshId (t : Transcript) : MessageId :=
  .generated t.issued

def issue (t : Transcript) (count : Nat) : Transcript :=
  { t with issued := t.issued + count }

/-- Adds a complete message under a fresh id. -/
def say (t : Transcript) (role : Role) (content : String) (time : Calendar.Instant) : Transcript :=
  (t.push { id := t.freshId, role, content, time, isComplete := true }).issue 1

/-- Starts an answer of the assistant under a fresh id. -/
def startAnswer (t : Transcript) (text : String) (origin : Origin) (time : Calendar.Instant) :
    Transcript :=
  (t.start { id := t.freshId, role := .assistant, content := text, time, origin,
             isComplete := false }).issue 1

/-- Converts replayed entries in order, each with a fresh id at hand. -/
def messagesOf (t : Transcript) (entries : List Entry) (time : Calendar.Instant) : List Message :=
  entries.mapIdx fun i e => e.toMessage (.generated (t.issued + i)) time

/-- Puts replayed entries in the place of all messages. -/
def replay (t : Transcript) (entries : List Entry) (time : Calendar.Instant) : Transcript :=
  (t.replace (t.messagesOf entries time)).issue entries.length

theorem visible_push (t : Transcript) (m : Message) (h : t.inProgress = none) :
    (t.push m).visible = t.visible ++ [completed m] := by
  simp [push, visible, h]

theorem visible_complete (t : Transcript) :
    t.complete.visible = t.committed ++ (t.inProgress.map completed).toList := by
  simp [complete, visible]

theorem visible_start (t : Transcript) (m : Message) :
    (t.start m).visible = t.complete.visible ++ [{ m with isComplete := false }] := by
  simp [start, complete, visible]

theorem visible_replace (t : Transcript) (messages : List Message) :
    (t.replace messages).visible = messages.map completed := by
  simp [replace, visible]

theorem visible_clear (t : Transcript) : t.clear.visible = [] := by
  simp [clear, visible]

theorem visible_issue (t : Transcript) (count : Nat) : (t.issue count).visible = t.visible := rfl

theorem isComplete_of_mem_messagesOf {t : Transcript} {entries : List Entry}
    {time : Calendar.Instant} {m : Message} (h : m ∈ t.messagesOf entries time) :
    m.isComplete = true := by
  obtain ⟨i, inside, rfl⟩ := List.mem_mapIdx.1 h
  rfl

/-- The messages of entries are complete as they are. -/
theorem visible_replay (t : Transcript) (entries : List Entry) (time : Calendar.Instant) :
    (t.replay entries time).visible = t.messagesOf entries time := by
  have same {m : Message} (h : m ∈ t.messagesOf entries time) : completed m = m := by
    rw [completed, ← isComplete_of_mem_messagesOf h]
  rw [replay, visible_issue, visible_replace, List.map_congr_left fun m => same, List.map_id']

theorem length_visible (t : Transcript) : t.visible.length = t.length := by
  simp [visible, length]

theorem complete_complete (t : Transcript) : t.complete.complete = t.complete := by
  simp [complete]

end Transcript

end StreamingChat.Chat
