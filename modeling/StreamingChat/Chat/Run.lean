import StreamingChat.Chat.State

/-!
A conversation as a run. An input is a text from the backend, an event of the link, a deadline, a
command that was carried out, or the taking of the changes; each comes at a moment of its own, and
a run takes one after the other.
-/

namespace StreamingChat.Chat.State

open StreamingChat.Calendar (Moment)

inductive Input where
  | received (text : String)
  | flushDue
  | opened
  | disconnected
  | ended
  | turn (content : String)
  | switched (session : String) (connected : Bool)
  | answered (request : String) (approved remember : Bool)
  | takeChanges
  deriving DecidableEq, Repr

def step (s : State) (input : Input) (now : Moment) : State × List Effect :=
  match input with
  | .received text => s.receive text now
  | .flushDue => (s.flushDue now, [])
  | .opened => s.opened
  | .disconnected => (s.disconnected now, [])
  | .ended => (s.ended now, [])
  | .turn content => (s.recordTurn content now, [])
  | .switched session connected => s.switchSession session connected
  | .answered request approved remember => (s.resolve request approved remember, [])
  | .takeChanges => (s.takeChanges.1, [])

def run (s : State) (inputs : List (Input × Moment)) : State :=
  inputs.foldl (fun s i => (s.step i.1 i.2).1) s

@[simp]
theorem run_nil (s : State) : s.run [] = s := rfl

@[simp]
theorem run_concat (s : State) (inputs : List (Input × Moment)) (input : Input × Moment) :
    s.run (inputs ++ [input]) = ((s.run inputs).step input.1 input.2).1 := by
  simp [run]

end StreamingChat.Chat.State
