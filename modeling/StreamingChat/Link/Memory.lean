import StreamingChat.Link.Connection

/-!
A link inside one process: two queues of texts and the state of the four ends. The client holds a
sink and a stream, the peer the other ends of both.
-/

namespace StreamingChat.Link

structure MemoryLink where
  /-- What the peer has sent and the client not yet taken, oldest first. -/
  inbound : List (Except Fault String) := []
  /-- The peer sends no more. -/
  inboundClosed : Bool := false
  /-- The client takes no more. -/
  streamDropped : Bool := false
  /-- What the client has sent and the peer not yet taken, oldest first. -/
  outbound : List String := []
  /-- The client sends no more. -/
  sinkClosed : Bool := false
  /-- The peer takes no more. -/
  peerDropped : Bool := false

namespace MemoryLink

/-- The peer sends; whether anybody is there to take it. -/
def deliver (l : MemoryLink) (item : Except Fault String) : MemoryLink × Bool :=
  if l.inboundClosed || l.streamDropped then (l, false)
  else ({ l with inbound := l.inbound ++ [item] }, true)

/-- The peer sends no more; what it has sent still arrives. -/
def closeInbound (l : MemoryLink) : MemoryLink :=
  { l with inboundClosed := true }

def dropPeer (l : MemoryLink) : MemoryLink :=
  { l with inboundClosed := true, peerDropped := true }

/-- The client takes what comes next, if there is anything. -/
def take (l : MemoryLink) : MemoryLink × Option Received :=
  match l.inbound with
  | .ok text :: rest => ({ l with inbound := rest }, some (.text text))
  | .error fault :: rest => ({ l with inbound := rest }, some (.failed fault))
  | [] => (l, if l.inboundClosed then some .ended else none)

/-- The client sends. -/
def send (l : MemoryLink) (text : String) : MemoryLink × Except Fault Unit :=
  if l.sinkClosed || l.peerDropped then (l, .error .closed)
  else ({ l with outbound := l.outbound ++ [text] }, .ok ())

def closeSink (l : MemoryLink) : MemoryLink :=
  { l with sinkClosed := true }

/-- The client gives up both its ends. -/
def dropClient (l : MemoryLink) : MemoryLink :=
  { l with inbound := [], streamDropped := true, sinkClosed := true }

/-- What the peer finds when it looks for the next text of the client. -/
inductive Sent where
  | text (text : String)
  | nothing
  | ended
  deriving DecidableEq, Repr

def nextSent (l : MemoryLink) : MemoryLink × Sent :=
  match l.outbound with
  | text :: rest => ({ l with outbound := rest }, .text text)
  | [] => (l, if l.sinkClosed then .ended else .nothing)

def drainSent (l : MemoryLink) : MemoryLink × List String :=
  ({ l with outbound := [] }, l.outbound)

end MemoryLink

/-- Opens memory links, except for some attempts that are to fail. -/
structure MemoryConnector where
  failures : Nat := 0
  /-- Nobody takes the peer's ends of new links any more. -/
  isAbandoned : Bool := false

namespace MemoryConnector

def connect (c : MemoryConnector) : MemoryConnector × Except Fault MemoryLink :=
  if 0 < c.failures then
    ({ c with failures := c.failures - 1 }, .error (.refused "scripted failure"))
  else if c.isAbandoned then (c, .error (.refused "memory peer dropped"))
  else (c, .ok {})

end MemoryConnector

end StreamingChat.Link
