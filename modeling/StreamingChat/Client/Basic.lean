import StreamingChat.Chat.State
import StreamingChat.Link.Connection

/-!
The client: the state of the conversation together with its link. It takes one input at a time,
a command, something that happened on the link, or a deadline, and after each it publishes the
snapshot if anything visible has changed. An input makes the client hand at most one frame to the
transport.
-/

namespace StreamingChat

open StreamingChat.Chat
open StreamingChat.Link
open StreamingChat.Wire

namespace Client

/-- A turn as the user asks for it; session and usual mode are filled in. -/
structure Request where
  message : String
  mode : Option String := none
  attachments : List Value := []
  skipWebSearch : Option Bool := none

inductive Command where
  | say (request : Request)
  | stop
  | stats
  | setSession (id : String)
  | answer (id : String) (approved remember : Bool)
  | shutDown

/-- Why a command was not carried out. -/
inductive Refusal where
  | notConnected
  | transport (fault : Fault)
  | shutDown
  deriving DecidableEq, Repr

def Refusal.message : Refusal → String
  | notConnected => "Not connected"
  | transport fault => "Transport error: " ++ fault.message
  | shutDown => "Client is shut down"

def Refusal.ofSendError : SendError → Refusal
  | .notConnected => notConnected
  | .transport fault => transport fault

/-- What listeners are told. -/
inductive Notice where
  | stateChanged (revision : Nat)
  | progress (data : Value)

end Client

structure Client where
  state : State
  connection : Connection
  /-- The mode of turns that do not name one. -/
  mode : String
  /-- The snapshot that readers get. -/
  published : Snapshot
  isRunning : Bool := true

namespace Client

inductive Input where
  | command (c : Command)
  /-- The attempt to connect has ended. -/
  | attempted (result : Except Fault Unit)
  /-- The timer for the next attempt has fired. -/
  | timer
  | received (item : Received)
  /-- The deadline of gathered text has passed. -/
  | flush
  /-- Nobody is left to give commands. -/
  | abandoned

/-- What a client does and learns, one thing after the other. -/
inductive Act where
  /-- It learned what happened on its link. -/
  | learned (event : Event)
  /-- A frame was handed to the transport. -/
  | handed (frame : Outbound)
  /-- A snapshot was stored for readers. -/
  | stored (snapshot : Snapshot)
  /-- Listeners were told. -/
  | told (notice : Notice)
  /-- A command was answered. -/
  | replied (reply : Except Refusal Unit)

/-- A client together with what it has done so far. -/
structure Step where
  client : Client
  acts : List Act := []

def initial (session mode : String) (interval : Nat) (backoff : Backoff) : Client :=
  let state := State.initial session interval
  { state, connection := { backoff }, mode, published := state.snapshot }

/-- The first thing a client does. -/
def start (c : Client) : Client :=
  { c with connection := c.connection.connect }

/-- Whether an attempt to connect is under way. -/
def isConnecting (c : Client) : Bool :=
  c.connection.isConnecting

namespace Act

def frame? : Act → Option Outbound
  | handed frame => some frame
  | _ => none

def notice? : Act → Option Notice
  | told notice => some notice
  | _ => none

def reply? : Act → Option (Except Refusal Unit)
  | replied reply => some reply
  | _ => none

end Act

namespace Step

/-- The frames that were handed to the transport. -/
def offered (s : Step) : List Outbound :=
  s.acts.filterMap Act.frame?

/-- What listeners were told. -/
def notices (s : Step) : List Notice :=
  s.acts.filterMap Act.notice?

/-- The answer to the last command. -/
def reply (s : Step) : Option (Except Refusal Unit) :=
  (s.acts.filterMap Act.reply?).getLast?

def did (s : Step) (act : Act) : Step :=
  { s with acts := s.acts ++ [act] }

def withState (s : Step) (state : State) : Step :=
  { s with client := { s.client with state } }

def withConnection (s : Step) (connection : Connection) : Step :=
  { s with client := { s.client with connection } }

/-- Hands a frame to the transport. If that loses the link, the conversation learns of it. -/
def send (s : Step) (frame : Outbound) (r : Reading) : Step × Except SendError Unit :=
  let wasOpen := s.client.connection.isOpen
  let sent := s.client.connection.send r
  let handed := if wasOpen then s.did (.handed frame) else s
  let state :=
    if wasOpen && !sent.1.isOpen then s.client.state.disconnected r.now else s.client.state
  ((handed.withConnection sent.1).withState state, sent.2)

/-- Carries out an effect; a frame that cannot be sent is given up. -/
def effect (s : Step) (r : Reading) : Effect → Step
  | .send frame => (s.send frame r).1
  | .progress data => s.did (.told (.progress data))

def perform (s : Step) (effects : List Effect) (r : Reading) : Step :=
  effects.foldl (fun s e => s.effect r e) s

/-- Takes over a state and carries out the effects that came with it. -/
def become (s : Step) (next : State × List Effect) (r : Reading) : Step :=
  (s.withState next.1).perform next.2 r

/-- Stores and then announces a new snapshot if anything visible has changed. -/
def publish (s : Step) : Step :=
  match s.client.state.takeChanges with
  | (state, some snapshot) =>
    (({ s with client := { s.client with state, published := snapshot } }.did (.stored snapshot)).did
      (.told (.stateChanged snapshot.revision)))
  | (state, none) => s.withState state

/-- Sends a frame and, once it was taken, records what it said. -/
def sendThen (s : Step) (frame : Outbound) (record : State → State) (r : Reading) :
    Step × Except Refusal Unit :=
  match s.send frame r with
  | (s, .ok ()) => (s.withState (record s.client.state), .ok ())
  | (s, .error e) => (s, .error (.ofSendError e))

/-- The frame of a turn in the current session. -/
def turnOf (c : Client) (q : Request) : Outbound :=
  .turn {
    message := q.message
    mode := q.mode.getD c.mode
    attachments := q.attachments
    skipWebSearch := q.skipWebSearch
    session := c.state.session.current }

/-- Closes the link and stops; what is left is shown. -/
def finish (s : Step) (r : Reading) : Step :=
  let c := s.client
  { s with
    client := { c with
      connection := c.connection.close, state := c.state.ended r.now, isRunning := false } }

/-- Carries out a command; the answer is not yet given. -/
def carryOut (s : Step) (c : Command) (r : Reading) : Step × Except Refusal Unit :=
  match c with
  | .say request =>
    s.sendThen (turnOf s.client request) (·.recordTurn request.message r.now) r
  | .stop => s.sendThen .stop id r
  | .stats => s.sendThen .stats id r
  | .setSession session =>
    (s.become (s.client.state.switchSession session s.client.connection.isOpen) r, .ok ())
  | .answer request approved remember =>
    s.sendThen (.answer request approved) (·.resolve request approved remember) r
  | .shutDown => (s.finish r, .ok ())

/-- A command up to its answer. What it changed is published first, so that whoever waits for the
answer reads the effect. -/
def commanded (s : Step) (c : Command) (r : Reading) : Step × Except Refusal Unit :=
  let done := s.carryOut c r
  (done.1.publish, done.2)

def command (s : Step) (c : Command) (r : Reading) : Step :=
  let answer := s.commanded c r
  answer.1.did (.replied answer.2)

/-- The conversation learns what happened on the link. -/
def linkEvent (s : Step) (e : Event) (r : Reading) : Step :=
  match e with
  | .opened => s.become s.client.state.opened r
  | .frame text => s.become (s.client.state.receive text r.now) r
  | .lost _ _ => s.become (s.client.state.disconnected r.now, []) r

def link (s : Step) (next : Connection × Option Event) (r : Reading) : Step :=
  match next.2 with
  | some e => ((s.withConnection next.1).did (.learned e)).linkEvent e r
  | none => s.withConnection next.1

/-- What a client that runs does on an input, up to publishing. -/
def react (s : Step) (input : Input) (r : Reading) : Step :=
  match input with
  | .command command => s.command command r
  | .attempted result => s.link (s.client.connection.attempted result r) r
  | .timer => s.link (s.client.connection.timerFired, none) r
  | .received item => s.link (s.client.connection.received item r) r
  | .flush => s.withState (s.client.state.flushDue r.now)
  | .abandoned => s.finish r

/-- One input more. A client that has stopped refuses every command. -/
def next (s : Step) (input : Input) (r : Reading) : Step :=
  if s.client.isRunning then (s.react input r).publish
  else
    match input with
    | .command _ => s.did (.replied (.error .shutDown))
    | _ => s

theorem next_of_running {s : Step} (running : s.client.isRunning = true) (input : Input)
    (r : Reading) : s.next input r = (s.react input r).publish := by
  unfold next
  rw [if_pos running]

end Step

/-- One input by itself. -/
def step (c : Client) (input : Input) (r : Reading) : Step :=
  ({ client := c } : Step).next input r

/-- One input after the other, with all that was done. -/
def run (c : Client) (inputs : List (Input × Reading)) : Step :=
  inputs.foldl (fun s i => s.next i.1 i.2) { client := c }

@[simp]
theorem run_nil (c : Client) : c.run [] = { client := c } := rfl

@[simp]
theorem run_concat (c : Client) (inputs : List (Input × Reading)) (input : Input × Reading) :
    c.run (inputs ++ [input]) = (c.run inputs).next input.1 input.2 := by
  simp [run]

end Client

end StreamingChat
