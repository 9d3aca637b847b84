import StreamingChat.Client.Subscription
import StreamingChat.Terminal.Renderer

/-!
A display that watches a client. It subscribes to the notices of the client, loads and renders the
snapshot that is stored for readers, and then takes one notice after the other. Whatever the client
does may come between any two of these steps.
-/

namespace StreamingChat.Terminal

open StreamingChat.Chat (Snapshot)
open StreamingChat.Client (Act Heard Notice Subscription)

/-- What a display does about what it hears. -/
inductive Response where
  /-- It loads the snapshot that is stored and renders it. -/
  | render
  | print (line : String)

/-- A change has a display render, and so does a loss of notices, since changes may be among
them. -/
def responseTo (p : Palette) : Heard → Response
  | .notice (.stateChanged _) | .lagged _ => .render
  | .notice (.progress data) => .print (progressLine p data)

/-- Where a display stands. -/
inductive Stage where
  /-- It has not yet subscribed. -/
  | starting
  /-- It is about to load and render. -/
  | rendering
  | waiting
  deriving DecidableEq, Repr

structure Watch where
  palette : Palette
  /-- The snapshot that readers get. -/
  stored : Snapshot
  /-- A snapshot was stored and is not yet announced. -/
  isPublishing : Bool := false
  stage : Stage := .starting
  /-- What was told since the display has subscribed and it has not yet heard. -/
  heard : Subscription := {}
  renderer : Renderer := {}
  /-- The snapshots that were rendered, oldest first. -/
  rendered : List Snapshot := []
  printed : List String := []

namespace Watch

/-- Listeners are told; a display listens once it has subscribed. -/
def tell (w : Watch) (notice : Notice) : Watch :=
  if w.stage = .starting then w else { w with heard := w.heard.push notice }

/-- The client does something. -/
def follow (w : Watch) : Act → Watch
  | .stored snapshot => { w with stored := snapshot, isPublishing := true }
  | .told (.stateChanged revision) =>
    { w.tell (.stateChanged revision) with isPublishing := false }
  | .told (.progress data) => w.tell (.progress data)
  | .learned _ | .handed _ | .replied _ => w

def render (w : Watch) : Watch :=
  let next := w.renderer.render w.palette w.stored
  { w with
    stage := .waiting
    renderer := next.1
    rendered := w.rendered ++ [w.stored]
    printed := w.printed ++ next.2 }

def hear (w : Watch) (heard : Heard) : Watch :=
  match responseTo w.palette heard with
  | .render => { w with stage := .rendering }
  | .print line => { w with printed := w.printed ++ [line] }

/-- The next step of the display. It waits while there is nothing to hear. -/
def proceed (w : Watch) : Watch :=
  match w.stage with
  | .starting => { w with stage := .rendering }
  | .rendering => w.render
  | .waiting =>
    match w.heard.next? with
    | some (heard, rest) => { w with heard := rest }.hear heard
    | none => w

/-- The display waits and there is nothing to hear. -/
def isIdle (w : Watch) : Bool :=
  w.stage = .waiting && w.heard.next?.isNone

/-- A move of the client or of the display. -/
inductive Move where
  | client (act : Act)
  | display

def step (w : Watch) : Move → Watch
  | .client act => w.follow act
  | .display => w.proceed

/-- One move after the other. -/
def run (w : Watch) (moves : List Move) : Watch :=
  moves.foldl step w

@[simp]
theorem run_nil (w : Watch) : w.run [] = w := rfl

@[simp]
theorem run_concat (w : Watch) (moves : List Move) (move : Move) :
    w.run (moves ++ [move]) = (w.run moves).step move := by
  simp [run]

end Watch

end StreamingChat.Terminal
