import StreamingChat.Link.Memory
import StreamingChat.Link.Run

/-!
A connection and the peers at the far ends of its links. Every attempt to connect has a link of its
own, which its peer holds from the moment the attempt begins. What the peer puts on it arrives in
order; when it arrives, how the attempt ends and whether a frame is taken comes with the calls of
the owner.
-/

namespace StreamingChat.Link

/-- What has become of an attempt and of the link that came of it. -/
inductive Fate where
  | pending
  | refused (fault : Fault)
  | opened
  /-- The link has yielded a failure, or has ended. -/
  | broken (fault : Fault)
  /-- The link has not taken a frame. -/
  | unsent (fault : Fault)
  /-- The owner closed while the attempt was under way. -/
  | givenUp
  /-- The owner closed the open link. -/
  | closed
  deriving DecidableEq, Repr

/-- The link of one attempt, with what passed over it. -/
structure Lane where
  link : MemoryLink := {}
  fate : Fate := .pending
  /-- What the peer has put on the link, oldest first. -/
  pushed : List (Except Fault String) := []
  /-- The texts that the client has taken off it, oldest first. -/
  taken : List String := []

namespace Lane

/-- The peer puts something on the link, if there is anybody to take it. -/
def push (l : Lane) (item : Except Fault String) : Lane :=
  let delivered := l.link.deliver item
  if delivered.2 then { l with link := delivered.1, pushed := l.pushed ++ [item] } else l

/-- The peer puts nothing more on the link. -/
def hangUp (l : Lane) : Lane :=
  { l with link := l.link.closeInbound }

/-- The client gives up its end; what is still on the link is lost. -/
def leave (l : Lane) (fate : Fate) : Lane :=
  { l with link := l.link.dropClient, fate }

/-- The attempt ends. -/
def settle (l : Lane) : Except Fault Unit → Lane
  | .ok () => { l with fate := .opened }
  | .error fault => l.leave (.refused fault)

/-- The client takes what comes next on the link. -/
def yield (l : Lane) : Received → Lane
  | .text text => { l with link := l.link.take.1, taken := l.taken ++ [text] }
  | .failed fault => l.leave (.broken fault)
  | .ended => l.leave (.broken .closed)

/-- What a call of the owner comes to on the link of the latest attempt. -/
def meet (l : Lane) (call : Connection.Call) (sink : Except Fault Unit) : Lane :=
  match l.fate, call with
  | .pending, .look answers =>
    match answers.attempt with
    | some result => l.settle result
    | none => l
  | .opened, .look answers =>
    match answers.item with
    | some item => l.yield item
    | none => l
  | .opened, .send =>
    match sink with
    | .ok () => l
    | .error fault => l.leave (.unsent fault)
  | .pending, .close => l.leave .givenUp
  | .opened, .close => l.leave .closed
  | _, _ => l

end Lane

/-- A connection with what it has done, and its lanes, that of the latest attempt first. -/
structure Traffic where
  trace : Connection.Trace
  lanes : List Lane := []

namespace Traffic

inductive Move where
  | connects (r : Reading)
  | sends (r : Reading)
  /-- The owner looks for an event. The attempt that is under way may have ended, and what comes
  next on the open link may have arrived. -/
  | looks (ended : Option (Except Fault Unit)) (arrived : Bool) (r : Reading)
  | closes (r : Reading)
  /-- A peer puts something on the link of the attempt that lies so many behind the latest. -/
  | pushes (behind : Nat) (item : Except Fault String)
  | hangsUp (behind : Nat)

/-- Every attempt that begins has a lane of its own. -/
def begin (lanes : List Lane) : Connection.Act → List Lane
  | .began => {} :: lanes
  | .fired | .told _ | .sent _ | .closed => lanes

def call (t : Traffic) (call : Connection.Call) (r : Reading) : Traffic where
  trace := t.trace.step call r
  lanes := ((t.trace.connection.handle call r).2.foldl begin t.lanes).modifyHead
    (·.meet call r.sink)

/-- What the latest link has to yield. -/
def next? (t : Traffic) : Option Received :=
  t.lanes.head?.bind (·.link.take.2)

def step (t : Traffic) : Move → Traffic
  | .connects r => t.call .connect r
  | .sends r => t.call .send r
  | .looks attempt arrived r =>
    t.call (.look { attempt, item := if arrived then t.next? else none }) r
  | .closes r => t.call .close r
  | .pushes behind item => { t with lanes := t.lanes.modify behind (·.push item) }
  | .hangsUp behind => { t with lanes := t.lanes.modify behind Lane.hangUp }

/-- One move after the other. -/
def run (t : Traffic) (moves : List Move) : Traffic :=
  moves.foldl step t

@[simp]
theorem run_nil (t : Traffic) : t.run [] = t := rfl

@[simp]
theorem run_concat (t : Traffic) (moves : List Move) (move : Move) :
    t.run (moves ++ [move]) = (t.run moves).step move := by
  simp [run]

end Traffic

end StreamingChat.Link
