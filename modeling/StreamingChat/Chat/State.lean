import StreamingChat.Chat.Feed
import StreamingChat.Chat.Session
import StreamingChat.Wire.Inbound

/-!
The state of the conversation. Each input, a frame, an event of the link or a command, takes one
state to the next and yields the effects to be carried out; nothing else happens. A visible change
marks the state, and taking the changes turns the mark into a new revision.
-/

namespace StreamingChat.Chat

open StreamingChat.Calendar (Moment)
open StreamingChat.Wire

/-- What a reader sees of the conversation. -/
structure Snapshot where
  messages : List Message
  isConnected : Bool
  error : Option String
  isProcessing : Bool
  isLoadingHistory : Bool
  pending : Option Approval.Request
  stats : Option Value
  searchResults : List Value
  activity : List Activity.Row
  session : String
  revision : Nat

/-- What is to be done on behalf of the state. -/
inductive Effect where
  | send (frame : Outbound)
  /-- Progress of a download is told to listeners as it came. -/
  | progress (data : Value)

structure State where
  feed : Feed
  session : Session
  gate : Approval.Gate := {}
  activity : Activity.Log := {}
  isConnected : Bool := false
  isProcessing : Bool := false
  error : Option String := none
  stats : Option Value := none
  searchResults : List Value := []
  revision : Nat := 0
  /-- Something visible has changed since the last revision. -/
  isDirty : Bool := false

namespace State

def undecodableMessage : String := "Failed to parse server message"

def unknownErrorMessage : String := "Unknown error"

def initial (session : String) (interval : Nat) : State where
  feed := { interval }
  session := .initial session

def snapshot (s : State) : Snapshot where
  messages := s.feed.transcript.visible
  isConnected := s.isConnected
  error := s.error
  isProcessing := s.isProcessing
  isLoadingHistory := s.session.loading
  pending := s.gate.pending
  stats := s.stats
  searchResults := s.searchResults
  activity := s.activity.rows
  session := s.session.current
  revision := s.revision

/-- The snapshot of a new revision if anything visible has changed since the last one. -/
def takeChanges (s : State) : State × Option Snapshot :=
  if s.isDirty then
    let s := { s with isDirty := false, revision := s.revision + 1 }
    (s, some s.snapshot)
  else (s, none)

def touched (s : State) : State :=
  { s with isDirty := true }

def touchedIf (s : State) (changed : Bool) : State :=
  { s with isDirty := s.isDirty || changed }

/-- The message of an error of the backend; without one, or with a blank one, it is unknown. -/
def errorText (message : Option String) : String :=
  let text := Text.trim (message.getD "")
  if text.isEmpty then unknownErrorMessage else text

def pushChunk (s : State) (text : String) (origin : Origin) (now : Moment) : State :=
  let pushed := s.feed.push { text, origin } now
  { s with feed := pushed.1 }.touchedIf (pushed.2 == Feed.Pushed.newNode)

/-- The answer has ended. -/
def finish (s : State) (now : Moment) : State :=
  { s with feed := s.feed.close now.clock, isProcessing := false }.touchedIf
    (s.feed.isOpen || s.isProcessing)

def fail (s : State) (message : Option String) (now : Moment) : State :=
  let text := errorText message
  let closed := s.feed.close now.clock
  { s with
    feed := { closed with transcript := closed.transcript.say .system text now.clock }
    error := some text
    isProcessing := false }.touched

/-- Entries that cannot be decoded are left out. -/
def replay (s : State) (entries : List Value) (now : Moment) : State :=
  let feed := s.feed.discard
  { s with
    feed :=
      { feed with
        transcript := feed.transcript.replay (entries.filterMap Entry.ofValue?) now.clock }
    session := s.session.historyLoaded }.touched

def offer (s : State) (r : Approval.Request) : State × List Effect :=
  match s.gate.offer r with
  | (gate, .surfaced) => ({ s with gate }.touched, [])
  | (gate, .approved id) => ({ s with gate }, [.send (.answer id true)])

def dispatch (s : State) (frame : Inbound) (now : Moment) : State × List Effect :=
  match frame with
  | .chunk none _ => (s, [])
  | .chunk (some text) origin => (s.pushChunk text origin now, [])
  | .done | .stopped => (s.finish now, [])
  | .error message => (s.fail message now, [])
  | .stats data => ({ s with stats := some data }.touched, [])
  | .searchResults data => ({ s with searchResults := data }.touched, [])
  | .activity update => ({ s with activity := s.activity.upsert update }.touched, [])
  | .confirmation request => s.offer request
  | .history entries session =>
    if s.session.accepts session then (s.replay entries now, []) else (s, [])
  | .downloadProgress data => (s, [.progress data])
  | .status | .sessionChanged _ | .unknown => (s, [])

/-- Whether a text that cannot be decoded at least says that it is a history. -/
def claimsHistory (text : String) : Bool :=
  match Value.read? text with
  | some ⟨.object members, _⟩ =>
    match members.lookup "type" with
    | some (.string type) => type == "history"
    | _ => false
  | _ => false

/-- A text that cannot be decoded becomes a visible error; if it says that it is a history, a
history is no longer waited for. -/
def refuse (s : State) (text : String) : State :=
  { s with
    error := some undecodableMessage
    session :=
      if claimsHistory text && s.session.loading then s.session.historyLoaded
      else s.session }.touched

/-- One text from the backend. -/
def receive (s : State) (text : String) (now : Moment) : State × List Effect :=
  match Inbound.read? text with
  | some frame => s.dispatch frame now
  | none => (s.refuse text, [])

/-- Shows the gathered text if its deadline has passed. -/
def flushDue (s : State) (now : Moment) : State :=
  if s.feed.isDue now.tick then
    { s with feed := s.feed.flush now.clock }.touchedIf s.feed.hasGathered
  else s

def sends (frame : Option Outbound) : List Effect :=
  (frame.map Effect.send).toList

def opened (s : State) : State × List Effect :=
  let session := s.session.opened
  ({ s with session := session.1, isConnected := true }.touched, sends session.2)

def disconnected (s : State) (now : Moment) : State :=
  { s with
    feed := s.feed.close now.clock
    session := s.session.disconnected
    isConnected := false
    isProcessing := false }.touched

/-- Shows what is left before the program ends. -/
def ended (s : State) (now : Moment) : State :=
  { s with
    feed := s.feed.close now.clock
    isConnected := false
    isProcessing := false }.touched

/-- Records a turn of the user that was sent. -/
def recordTurn (s : State) (content : String) (now : Moment) : State :=
  let closed := s.feed.close now.clock
  { s with
    feed := { closed with transcript := closed.transcript.say .user content now.clock }
    isProcessing := true
    error := none
    activity := s.activity.clear }.touched

/-- Points at another session. All that belongs to the old one is dropped; the statistics stay. -/
def switchSession (s : State) (id : String) (connected : Bool) : State × List Effect :=
  let session := s.session.switch id connected
  let feed := s.feed.discard
  ({ s with
      feed := { feed with transcript := feed.transcript.clear }
      session := session.1
      gate := s.gate.reset
      activity := s.activity.clear
      searchResults := []
      isProcessing := false
      error := none }.touched,
    sends session.2)

/-- Records an answer to a request that was sent. -/
def resolve (s : State) (id : String) (approved remember : Bool) : State :=
  { s with gate := s.gate.resolve id approved remember }.touched

variable (s : State)

theorem feed_takeChanges : s.takeChanges.1.feed = s.feed := by
  unfold takeChanges
  split
  · rfl
  · rfl

theorem session_takeChanges : s.takeChanges.1.session = s.session := by
  unfold takeChanges
  split
  · rfl
  · rfl

theorem feed_offer (request : Approval.Request) : (s.offer request).1.feed = s.feed := by
  unfold offer
  split
  · rfl
  · rfl

theorem session_offer (request : Approval.Request) : (s.offer request).1.session = s.session := by
  unfold offer
  split
  · rfl
  · rfl

end State

end StreamingChat.Chat
