import StreamingChat.Link.Backoff

/-!
The life of the one link to the backend. There is at most one attempt or link at a time; when an
attempt fails or an open link is lost a timer is armed, and when it fires the next attempt begins.
What the transport answers is an input here, so that a run is a list of inputs.
-/

namespace StreamingChat.Link

open StreamingChat.Calendar (Moment)

/-- Why a transport failed. -/
inductive Fault where
  | refused (text : String)
  | broken (text : String)
  | closed
  deriving DecidableEq, Repr

def Fault.message : Fault → String
  | refused text => "Connection failed: " ++ text
  | broken text => "WebSocket error: " ++ text
  | closed => "Connection closed"

/-- What surrounds a step: the clocks, the number that chance gives, and what the transport answers
to a frame that is handed to it. -/
structure Reading where
  now : Moment
  sample : Float
  sink : Except Fault Unit

inductive Phase where
  | idle
  | connecting
  | opened
  /-- A timer is armed for the given tick. -/
  | waiting (deadline : Nat)
  deriving DecidableEq, Repr

/-- What an open link yields. -/
inductive Received where
  | text (text : String)
  | failed (fault : Fault)
  | ended
  deriving DecidableEq, Repr

/-- Why a link is lost with what it yields, if it is. -/
def Received.fault? : Received → Option Fault
  | text _ => none
  | failed fault => some fault
  | ended => some .closed

/-- What happened on the link, as far as its owner is told. -/
inductive Event where
  | opened
  | frame (text : String)
  | lost (fault : Fault) (retryIn : Nat)
  deriving DecidableEq, Repr

inductive SendError where
  | notConnected
  | transport (fault : Fault)
  deriving DecidableEq, Repr

structure Connection where
  backoff : Backoff
  /-- Timers that fired since the link was last open. -/
  retries : Nat := 0
  phase : Phase := .idle
  /-- Cleared by closing, after which nothing happens any more. -/
  isAlive : Bool := true

namespace Connection

/-- Where the count of retries stops. -/
def maxRetries : Nat := 4294967295

def isOpen (c : Connection) : Bool :=
  c.isAlive && c.phase == .opened

def isConnecting (c : Connection) : Bool :=
  c.isAlive && c.phase == .connecting

/-- When the armed timer fires. -/
def deadline (c : Connection) : Option Nat :=
  match c.phase with
  | .waiting tick => some tick
  | _ => none

/-- Whether asking for a connection begins an attempt. -/
def canConnect (c : Connection) : Bool :=
  c.isAlive && c.phase != .connecting && c.phase != .opened

/-- Asks for a connection; an armed timer is given up for it. -/
def connect (c : Connection) : Connection :=
  if c.canConnect then { c with phase := .connecting } else c

/-- Arms the timer; one that is already armed is kept as it is. -/
def schedule (c : Connection) (r : Reading) : Connection × Nat :=
  match c.phase with
  | .waiting deadline => (c, deadline - r.now.tick)
  | _ =>
    let delay := c.backoff.delay c.retries r.sample
    ({ c with phase := .waiting (r.now.tick + delay) }, delay)

def lose (c : Connection) (fault : Fault) (r : Reading) : Connection × Event :=
  let scheduled := c.schedule r
  (scheduled.1, .lost fault scheduled.2)

/-- The attempt has ended. -/
def attempted (c : Connection) (result : Except Fault Unit) (r : Reading) :
    Connection × Option Event :=
  if c.isConnecting then
    match result with
    | .ok () => ({ c with phase := .opened, retries := 0 }, some .opened)
    | .error fault =>
      let lost := c.lose fault r
      (lost.1, some lost.2)
  else (c, none)

/-- The timer has fired: the next attempt begins. -/
def timerFired (c : Connection) : Connection :=
  match c.isAlive, c.phase with
  | true, .waiting _ => { c with phase := .connecting, retries := min (c.retries + 1) maxRetries }
  | _, _ => c

/-- The open link has yielded something. -/
def received (c : Connection) (item : Received) (r : Reading) : Connection × Option Event :=
  if c.isOpen then
    match item with
    | .text text => (c, some (.frame text))
    | .failed fault =>
      let lost := c.lose fault r
      (lost.1, some lost.2)
    | .ended =>
      let lost := c.lose .closed r
      (lost.1, some lost.2)
  else (c, none)

/-- Hands one frame to the transport if the link is open. A link that does not take it is lost, and
the sender is told instead of the owner. -/
def send (c : Connection) (r : Reading) : Connection × Except SendError Unit :=
  if c.isOpen then
    match r.sink with
    | .ok () => (c, .ok ())
    | .error fault => ((c.schedule r).1, .error (.transport fault))
  else (c, .error .notConnected)

def close (c : Connection) : Connection :=
  { c with isAlive := false, phase := .idle }

theorem connect_of_open (c : Connection) (h : c.isOpen = true) : c.connect = c := by
  simp [isOpen] at h
  simp [connect, canConnect, h]

theorem not_open_of_connecting {c : Connection} (connecting : c.isConnecting = true) :
    c.isOpen = false := by
  simp only [isConnecting, Bool.and_eq_true, beq_iff_eq] at connecting
  simp [isOpen, connecting]

theorem attempted_of_not_connecting {c : Connection} (idle : c.isConnecting = false)
    (result : Except Fault Unit) (r : Reading) : c.attempted result r = (c, none) := by
  simp [attempted, idle]

theorem attempted_ok {c : Connection} (connecting : c.isConnecting = true) (r : Reading) :
    c.attempted (.ok ()) r = ({ c with phase := .opened, retries := 0 }, some .opened) := by
  simp [attempted, connecting]

theorem attempted_error {c : Connection} (connecting : c.isConnecting = true) (fault : Fault)
    (r : Reading) :
    c.attempted (.error fault) r = ((c.schedule r).1, some (.lost fault (c.schedule r).2)) := by
  simp [attempted, connecting, lose]

theorem received_of_not_open {c : Connection} (closed : c.isOpen = false) (item : Received)
    (r : Reading) : c.received item r = (c, none) := by
  simp [received, closed]

theorem received_text {c : Connection} (open_ : c.isOpen = true) (text : String) (r : Reading) :
    c.received (.text text) r = (c, some (.frame text)) := by
  simp [received, open_]

theorem received_fault {c : Connection} (open_ : c.isOpen = true) {item : Received} {fault : Fault}
    (faulty : item.fault? = some fault) (r : Reading) :
    c.received item r = ((c.schedule r).1, some (.lost fault (c.schedule r).2)) := by
  cases item with
  | text text => cases faulty
  | failed fault =>
    cases faulty
    simp [received, open_, lose]
  | ended =>
    cases faulty
    simp [received, open_, lose]

theorem deadline_of_open {c : Connection} (open_ : c.isOpen = true) : c.deadline = none := by
  simp only [isOpen, Bool.and_eq_true, beq_iff_eq] at open_
  rw [deadline, open_.2]

theorem deadline_of_connecting {c : Connection} (connecting : c.isConnecting = true) :
    c.deadline = none := by
  simp only [isConnecting, Bool.and_eq_true, beq_iff_eq] at connecting
  rw [deadline, connecting.2]

/-- Where no timer is armed one is armed for the delay of the retries so far. -/
theorem schedule_of_unarmed {c : Connection} (unarmed : c.deadline = none) (r : Reading) :
    (c.schedule r).1 =
      { c with phase := .waiting (r.now.tick + c.backoff.delay c.retries r.sample) } := by
  unfold schedule
  split
  · next tick waiting =>
    rw [deadline, waiting] at unarmed
    cases unarmed
  · rfl

theorem isOpen_schedule (c : Connection) (r : Reading) : (c.schedule r).1.isOpen = false := by
  unfold schedule
  split
  · next tick waiting =>
    rw [isOpen, waiting]
    exact Bool.and_false _
  · exact Bool.and_false _

theorem isOpen_timerFired (c : Connection) : c.timerFired.isOpen = c.isOpen := by
  unfold timerFired
  split
  · next deadline alive waiting =>
    rw [isOpen, isOpen, alive, waiting]
    rfl
  · rfl

theorem isOpen_close (c : Connection) : c.close.isOpen = false := rfl

theorem canConnect_close (c : Connection) : c.close.canConnect = false := rfl

end Connection

end StreamingChat.Link
