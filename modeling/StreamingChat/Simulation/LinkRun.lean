import StreamingChat.Link.Run
import StreamingChat.Simulation.Peer

/-!
A connection to the scripted peer, driven by hand: nothing happens in it but what a step asks for,
and waiting for an event lets time pass.
-/

namespace StreamingChat.Simulation

open StreamingChat.Calendar (ceilMilli nanosPerMilli)
open StreamingChat.Link

inductive LinkStep where
  | connect
  | next (timeoutMillis : Nat)
  | send (payload : String)
  | advance (millis : Nat)
  | close
  | peer (step : PeerStep)

inductive LinkAnswer where
  | done
  | event (e : Event)
  | timedOut
  | sent (result : Except SendError Unit)
  | peer (answer : PeerAnswer)

structure LinkRun where
  world : World
  connection : Connection

namespace LinkRun

/-- The transport keeps the client's end of a link only while the connection is open. -/
def settle (r : LinkRun) : LinkRun :=
  if r.connection.isOpen then r else { r with world := r.world.dropClient }

/-- Waits until a tick, unless the deadline comes first. -/
def wait (r : LinkRun) (tick deadline : Nat) : Option LinkRun :=
  if max tick r.world.tick ≤ deadline then
    some { r with world := { r.world with tick := max tick r.world.tick } }
  else none

def timeOut (r : LinkRun) (deadline : Nat) : LinkRun × LinkAnswer :=
  ({ r with world := { r.world with tick := deadline } }, .timedOut)

/-- What the peer's end makes of an act: an attempt begins there, or is given up. -/
def follow (w : World) : Connection.Act → World
  | .began => w.beginAttempt
  | .closed => { w with attempt := none }
  | .fired | .told _ | .sent _ => w

/-- What a call is answered with: the last thing that was learned. -/
def answerOf (acts : List Connection.Act) : LinkAnswer :=
  match acts.getLast? with
  | some (.told e) => .event e
  | some (.sent result) => .sent result
  | _ => .done

/-- One call at this moment. -/
def call (r : LinkRun) (c : Connection.Call) : LinkRun × LinkAnswer :=
  let handled := r.connection.handle c r.world.reading
  (settle { world := handled.2.foldl follow r.world, connection := handled.1 }, answerOf handled.2)

/-- Waits for the end of the attempt that is under way. -/
def nextOfAttempt (r : LinkRun) (deadline : Nat) : LinkRun × LinkAnswer :=
  let world := r.world.awaitAttempt
  let r := { r with world }
  match r.wait ((world.attempt.bind (·.ready)).getD world.tick) deadline with
  | none => r.timeOut deadline
  | some r =>
    let ended := r.world.endAttempt
    { r with world := ended.1 }.call (.look { attempt := some ended.2 })

/-- Waits for what the open link yields. -/
def nextOfLink (r : LinkRun) (deadline : Nat) : LinkRun × LinkAnswer :=
  match r.world.take with
  | (_, none) => r.timeOut deadline
  | (world, some item) => { r with world }.call (.look { item := some item })

/-- Waits for the next event. -/
def next (r : LinkRun) (deadline : Nat) : LinkRun × LinkAnswer :=
  match r.connection.phase with
  | .idle => r.timeOut deadline
  | .connecting => r.nextOfAttempt deadline
  | .opened => r.nextOfLink deadline
  | .waiting tick =>
    match r.wait (ceilMilli tick) deadline with
    | none => r.timeOut deadline
    | some r => (r.call (.look {})).1.nextOfAttempt deadline

def send (r : LinkRun) (payload : String) : LinkRun × LinkAnswer :=
  let world := if r.connection.isOpen then r.world.offer payload else r.world
  let handled := r.connection.handle .send r.world.reading
  (settle { world, connection := handled.1 }, answerOf handled.2)

def step (r : LinkRun) : LinkStep → LinkRun × LinkAnswer
  | .connect => r.call .connect
  | .next timeout => r.next (r.world.tick + timeout * nanosPerMilli)
  | .send payload => r.send payload
  | .advance millis =>
    ({ r with world := { r.world with tick := r.world.tick + millis * nanosPerMilli } }, .done)
  | .close => r.call .close
  | .peer step =>
    let next := r.world.peerStep step
    ({ r with world := next.1 }, .peer next.2)

end LinkRun

end StreamingChat.Simulation
