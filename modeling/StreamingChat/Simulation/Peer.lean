import StreamingChat.Link.Memory

/-!
A backend that follows a script, and the clock that goes with it. The peer holds the other end of
the link that was opened last; it decides how attempts to connect end and which frames get lost.
-/

namespace StreamingChat.Simulation

open StreamingChat.Calendar (Instant Moment nanosPerMilli)
open StreamingChat.Link

/-- One thing the peer does. -/
inductive PeerStep where
  | push (text : String)
  | pushAll (texts : List String)
  | failLink (fault : Fault)
  | closeLink
  | dropLink
  | failConnects (count : Nat)
  | failSends (count : Nat)
  | connectDelay (millis : Nat)
  | sample (x : Float)

inductive PeerAnswer where
  | done
  | noLink
  | delivered (d : Bool)
  | deliveredAll (ds : List Bool)

/-- An attempt to connect that is under way. Its delay runs from the moment somebody waits for
it. -/
structure Attempt where
  delay : Nat
  ready : Option Nat := none

/-- What connects the client: the peer, or a transport that refuses every attempt. -/
inductive Connector where
  | peer
  | refusing (fault : Fault)

structure World where
  connector : Connector := .peer
  tick : Nat := 0
  clock : Instant
  attempt : Option Attempt := none
  /-- The link that was opened last. -/
  link : Option MemoryLink := none
  connects : MemoryConnector := {}
  failingSends : Nat := 0
  delay : Nat := 0
  sample : Float := 0.0
  /-- What has happened since the last report. -/
  attempts : Nat := 0
  newLinks : Nat := 0
  sent : List String := []

namespace World

/-- The link as long as the peer holds its end. -/
def heldLink (w : World) : Option MemoryLink :=
  w.link.filter (!·.peerDropped)

def onLink (w : World) (f : MemoryLink → MemoryLink × PeerAnswer) : World × PeerAnswer :=
  match w.heldLink with
  | some link =>
    let next := f link
    ({ w with link := some next.1 }, next.2)
  | none => (w, .noLink)

def deliverAll (link : MemoryLink) : List String → MemoryLink × List Bool
  | [] => (link, [])
  | text :: rest =>
    let first := link.deliver (.ok text)
    let later := deliverAll first.1 rest
    (later.1, first.2 :: later.2)

def peerStep (w : World) : PeerStep → World × PeerAnswer
  | .push text => w.onLink fun link =>
    let next := link.deliver (.ok text)
    (next.1, .delivered next.2)
  | .pushAll texts => w.onLink fun link =>
    let next := deliverAll link texts
    (next.1, .deliveredAll next.2)
  | .failLink fault => w.onLink fun link =>
    let next := link.deliver (.error fault)
    (next.1, .delivered next.2)
  | .closeLink => w.onLink fun link => (link.closeInbound, .done)
  | .dropLink =>
    ({ w with link := w.link.map MemoryLink.dropPeer }, .delivered w.heldLink.isSome)
  | .failConnects count => ({ w with connects := { w.connects with failures := count } }, .done)
  | .failSends count => ({ w with failingSends := count }, .done)
  | .connectDelay millis => ({ w with delay := millis * nanosPerMilli }, .done)
  | .sample x => ({ w with sample := x }, .done)

/-- The client has given up its end of the link that the peer holds. -/
def linkEnded (w : World) : Bool :=
  w.heldLink.any (·.sinkClosed)

/-- An attempt begins; its delay is settled now. -/
def beginAttempt (w : World) : World :=
  match w.connector with
  | .peer => { w with attempts := w.attempts + 1, attempt := some { delay := w.delay } }
  | .refusing _ => { w with attempt := some { delay := 0 } }

/-- Somebody waits for the attempt. -/
def awaitAttempt (w : World) : World :=
  { w with
    attempt := w.attempt.map fun a => { a with ready := some (a.ready.getD (w.tick + a.delay)) } }

/-- How the attempt ends. -/
def endAttempt (w : World) : World × Except Fault Unit :=
  let w := { w with attempt := none }
  match w.connector with
  | .refusing fault => (w, .error fault)
  | .peer =>
    match w.connects.connect with
    | (connects, .ok link) =>
      ({ w with connects, link := some link, newLinks := w.newLinks + 1 }, .ok ())
    | (connects, .error fault) => ({ w with connects }, .error fault)

def take (w : World) : World × Option Received :=
  match w.link with
  | some link =>
    let next := link.take
    ({ w with link := some next.1 }, next.2)
  | none => (w, none)

/-- What the link says to a frame. -/
def linkAnswer (w : World) : Except Fault Unit :=
  match w.link with
  | some link => (link.send "").2
  | none => .error .closed

/-- What the transport would say to a frame. Only a link that is open can fail by the script. -/
def sink (w : World) : Except Fault Unit := do
  w.linkAnswer
  if 0 < w.failingSends then throw (.broken "scripted send failure")

/-- A frame is handed to the transport. -/
def offer (w : World) (text : String) : World :=
  match w.linkAnswer with
  | .ok () =>
    if 0 < w.failingSends then { w with failingSends := w.failingSends - 1 }
    else { w with sent := w.sent ++ [text] }
  | .error _ => w

/-- The client gives up its end of the link. -/
def dropClient (w : World) : World :=
  { w with link := w.link.map MemoryLink.dropClient }

def reading (w : World) : Reading where
  now := ⟨w.tick, w.clock⟩
  sample := w.sample
  sink := w.sink

/-- Forgets what was reported. -/
def reported (w : World) : World :=
  { w with attempts := 0, newLinks := 0, sent := [] }

end World

end StreamingChat.Simulation
