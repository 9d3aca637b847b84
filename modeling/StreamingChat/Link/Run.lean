import StreamingChat.Link.Connection

/-!
A connection as a run of calls. Its owner asks for a connection, sends a frame, looks for an event
or closes. Looking ends at once, with an event or without one, and may be given up and taken up
again at any time; what was done and learned is kept beside the connection.
-/

namespace StreamingChat.Link.Connection

open StreamingChat.Calendar (ceilMilli)

/-- What the transport has to say to one who looks for an event: how the attempt has ended and what
the open link yields, as far as they have. -/
structure Answers where
  attempt : Option (Except Fault Unit) := none
  item : Option Received := none

inductive Call where
  | connect
  | send
  | look (answers : Answers)
  | close

/-- What a connection does and its owner learns, one thing after the other. -/
inductive Act where
  /-- An attempt to connect began. -/
  | began
  /-- The timer fired. -/
  | fired
  | told (event : Event)
  | sent (result : Except SendError Unit)
  | closed

/-- Whether the armed timer has expired; timers fire on whole milliseconds. -/
def isDue (c : Connection) (tick : Nat) : Bool :=
  c.isAlive && c.deadline.any (fun deadline => ceilMilli deadline ≤ tick)

/-- Lets the timer fire if it has expired. The next attempt begins with it. -/
def awaken (c : Connection) (tick : Nat) : Connection × List Act :=
  if c.isDue tick then (c.timerFired, [.fired, .began]) else (c, [])

/-- Takes what the transport has to say. -/
def heed (c : Connection) (answers : Answers) (r : Reading) : Connection × Option Event :=
  if c.isConnecting then
    match answers.attempt with
    | some result => c.attempted result r
    | none => (c, none)
  else
    match answers.item with
    | some item => c.received item r
    | none => (c, none)

/-- One call, and what comes of it. -/
def handle (c : Connection) (call : Call) (r : Reading) : Connection × List Act :=
  match call with
  | .connect => (c.connect, if c.canConnect then [.began] else [])
  | .send =>
    let sent := c.send r
    (sent.1, [.sent sent.2])
  | .look answers =>
    let woken := c.awaken r.now.tick
    let heeded := woken.1.heed answers r
    (heeded.1, woken.2 ++ (heeded.2.map Act.told).toList)
  | .close => (c.close, [.closed])

/-- A connection together with what it has done so far. -/
structure Trace where
  connection : Connection
  acts : List Act := []

namespace Trace

def step (t : Trace) (call : Call) (r : Reading) : Trace :=
  let handled := t.connection.handle call r
  { connection := handled.1, acts := t.acts ++ handled.2 }

/-- One call after the other. -/
def run (t : Trace) (calls : List (Call × Reading)) : Trace :=
  calls.foldl (fun t i => t.step i.1 i.2) t

@[simp]
theorem run_nil (t : Trace) : t.run [] = t := rfl

@[simp]
theorem run_concat (t : Trace) (calls : List (Call × Reading)) (call : Call × Reading) :
    t.run (calls ++ [call]) = (t.run calls).step call.1 call.2 := by
  simp [run]

end Trace

end StreamingChat.Link.Connection
