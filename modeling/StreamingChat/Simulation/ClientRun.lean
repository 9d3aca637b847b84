import StreamingChat.Client.Subscription
import StreamingChat.Simulation.Peer

/-!
A client that talks to the scripted peer. After every step the client works until it has nothing
left to do without time passing; letting time pass runs its timers in their order.
-/

namespace StreamingChat.Simulation

open StreamingChat.Calendar (ceilMilli nanosPerMilli)
open StreamingChat.Client (Command Input Notice Refusal Subscription)
open StreamingChat.Link

structure ClientRun where
  world : World
  client : Client
  /-- What the client has told and nobody has yet heard. -/
  heard : Subscription := {}

namespace ClientRun

/-- Gives the client one input and lets the transport have what the client hands to it. -/
def give (r : ClientRun) (input : Input) : ClientRun × Option (Except Refusal Unit) :=
  let step := r.client.step input r.world.reading
  let world := step.offered.foldl (fun w frame => w.offer frame.render) r.world
  let before := r.client.connection
  let after := step.client.connection
  let world := if after.isOpen then world else world.dropClient
  let world :=
    if !before.isConnecting && after.isConnecting then world.beginAttempt
    else if !after.isConnecting then { world with attempt := none }
    else world
  ({ world := world.awaitAttempt, client := step.client
     heard := r.heard.pushAll step.notices }, step.reply)

/-- The tick at which the client has something to do, if its timers say so. -/
def alarms (r : ClientRun) : List Nat :=
  if r.client.isRunning then
    (r.client.connection.deadline.map ceilMilli).toList ++
      (r.client.state.feed.deadline.map ceilMilli).toList ++
      (r.world.attempt.bind (·.ready)).toList
  else []

/-- What the client does next without time passing. -/
def due (r : ClientRun) : Option ClientRun :=
  if !r.client.isRunning then none
  else
    match r.client.connection.phase with
    | .connecting =>
      if (r.world.attempt.bind (·.ready)).any (· ≤ r.world.tick) then
        let ended := r.world.endAttempt
        some ({ r with world := ended.1 }.give (.attempted ended.2)).1
      else none
    | .waiting tick =>
      if ceilMilli tick ≤ r.world.tick then some (r.give .timer).1 else none
    | .opened =>
      match r.world.take with
      | (world, some item) => some ({ r with world }.give (.received item)).1
      | (_, none) =>
        if r.client.state.feed.deadline.any (fun tick => ceilMilli tick ≤ r.world.tick) then
          some (r.give .flush).1
        else none
    | .idle => none

/-- Works off what is due, at most `left` inputs of it. -/
def settleWith (r : ClientRun) : Nat → ClientRun
  | 0 => r
  | left + 1 =>
    match r.due with
    | some next => next.settleWith left
    | none => r

/-- A bound on what can be due at one tick: everything that was sent, and the failures that the
script has in store. -/
def budget (r : ClientRun) : Nat :=
  (r.world.link.map (·.inbound.length)).getD 0 +
    4 * (r.world.connects.failures + r.world.failingSends + 4)

/-- Works off everything that is due. -/
def settle (r : ClientRun) : ClientRun :=
  r.settleWith r.budget

def atTick (r : ClientRun) (tick : Nat) : ClientRun :=
  { r with world := { r.world with tick } }

/-- Lets time pass until `tick`, stopping at most `stops` times for a timer. -/
def advanceWith (r : ClientRun) (tick : Nat) : Nat → ClientRun
  | 0 => (r.atTick tick).settle
  | stops + 1 =>
    match r.alarms.min? with
    | some alarm =>
      if alarm < tick then ((r.atTick (max alarm r.world.tick)).settle).advanceWith tick stops
      else (r.atTick tick).settle
    | none => (r.atTick tick).settle

/-- Lets time pass; timers fire on whole milliseconds. -/
def advance (r : ClientRun) (millis : Nat) : ClientRun :=
  r.advanceWith (r.world.tick + millis * nanosPerMilli) millis

/-- The client begins to connect. -/
def start (world : World) (client : Client) : ClientRun :=
  let r : ClientRun := { world := world.beginAttempt.awaitAttempt, client := client.start }
  r.settle

def command (r : ClientRun) (c : Command) : ClientRun × Option (Except Refusal Unit) :=
  let given := r.give (.command c)
  (given.1.settle, given.2)

def abandon (r : ClientRun) : ClientRun :=
  (r.give .abandoned).1

def peer (r : ClientRun) (step : PeerStep) : ClientRun × PeerAnswer :=
  let next := r.world.peerStep step
  ({ r with world := next.1 }.settle, next.2)

end ClientRun

end StreamingChat.Simulation
