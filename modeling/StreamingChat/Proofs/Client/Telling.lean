import StreamingChat.Chat.Run
import StreamingChat.Proofs.Client.Sending

/-!
# What a client tells its conversation

An input tells the conversation of a client at most one thing.  What happens to the conversation
besides is that it learns that the link was lost with a frame, and that its changes are taken.
Whatever these two leave alone can be followed along a run of a client by what it is told.
-/

namespace StreamingChat.Chat

open StreamingChat.Calendar (Moment)

namespace State

/-- A state after losses of the link and the taking of changes. -/
inductive Follows (s : State) : State → Prop where
  | same : Follows s s
  | disconnected {t : State} (before : Follows s t) (now : Moment) : Follows s (t.disconnected now)
  | takeChanges {t : State} (before : Follows s t) : Follows s t.takeChanges.1

/-- A state after what it is told, if it is told anything. -/
def hear (s : State) (told : Option Input) (now : Moment) : State :=
  match told with
  | none => s
  | some input => (s.step input now).1

end State

end StreamingChat.Chat

namespace StreamingChat.Client

open StreamingChat.Chat
open StreamingChat.Link
open StreamingChat.Wire

/-- Whether a frame that is handed over now would be taken. -/
def delivers (c : Client) (r : Reading) : Bool :=
  c.connection.isOpen && r.sink.isOk

/-- What an input tells the conversation.  A turn and an answer are told once their frame was
taken. -/
def told (c : Client) (input : Input) (r : Reading) : Option State.Input :=
  if c.isRunning then
    match input with
    | .command (.say request) => if c.delivers r then some (.turn request.message) else none
    | .command (.setSession session) => some (.switched session c.connection.isOpen)
    | .command (.answer request approved remember) =>
      if c.delivers r then some (.answered request approved remember) else none
    | .command .shutDown | .abandoned => some .ended
    | .command .stop | .command .stats | .timer => none
    | .attempted (.ok ()) => if c.isConnecting then some .opened else none
    | .attempted (.error _) => if c.isConnecting then some .disconnected else none
    | .received (.text text) => if c.connection.isOpen then some (.received text) else none
    | .received (.failed _) | .received .ended =>
      if c.connection.isOpen then some .disconnected else none
    | .flush => some .flushDue
  else none

/-- What the conversation is told by each input, and on what link. -/
inductive Tells (c : Client) : Input → State.Input → Prop where
  | turn (request : Request) : Tells c (.command (.say request)) (.turn request.message)
  | switched (session : String) :
      Tells c (.command (.setSession session)) (.switched session c.connection.isOpen)
  | answered (request : String) (approved remember : Bool) :
      Tells c (.command (.answer request approved remember))
        (.answered request approved remember)
  | shutDown : Tells c (.command .shutDown) .ended
  | abandoned : Tells c .abandoned .ended
  | opened : Tells c (.attempted (.ok ())) .opened
  | unreached (fault : Fault) : Tells c (.attempted (.error fault)) .disconnected
  | received (text : String) (open_ : c.connection.isOpen = true) :
      Tells c (.received (.text text)) (.received text)
  | failed (fault : Fault) : Tells c (.received (.failed fault)) .disconnected
  | ended : Tells c (.received .ended) .disconnected
  | flush : Tells c .flush .flushDue

/-- Only a client that runs tells anything. -/
theorem tells_of_told {c : Client} {input : Input} {r : Reading} {heard : State.Input}
    (told : c.told input r = some heard) : c.isRunning = true ∧ c.Tells input heard := by
  obtain ⟨running, told⟩ := Option.ite_none_right_eq_some.mp told
  refine ⟨running, ?_⟩
  cases input with
  | command command =>
      cases command with
      | say request =>
          cases (Option.ite_none_right_eq_some.mp told).2
          exact .turn request
      | stop => cases told
      | stats => cases told
      | setSession session =>
          cases told
          exact .switched session
      | answer request approved remember =>
          cases (Option.ite_none_right_eq_some.mp told).2
          exact .answered request approved remember
      | shutDown =>
          cases told
          exact .shutDown
  | attempted result =>
      cases result with
      | ok =>
          cases (Option.ite_none_right_eq_some.mp told).2
          exact .opened
      | error fault =>
          cases (Option.ite_none_right_eq_some.mp told).2
          exact .unreached fault
  | timer => cases told
  | received item =>
      cases item with
      | text text =>
          obtain ⟨open_, same⟩ := Option.ite_none_right_eq_some.mp told
          cases same
          exact .received text open_
      | failed fault =>
          cases (Option.ite_none_right_eq_some.mp told).2
          exact .failed fault
      | ended =>
          cases (Option.ite_none_right_eq_some.mp told).2
          exact .ended
  | flush =>
      cases told
      exact .flush
  | abandoned =>
      cases told
      exact .abandoned

namespace Step

variable {s : Step} {r : Reading}

theorem state_publish (s : Step) : s.publish.client.state = s.client.state.takeChanges.1 := by
  unfold publish
  generalize s.client.state.takeChanges = taken
  obtain ⟨state, shown⟩ := taken
  cases shown with
  | none => rfl
  | some snapshot => rfl

/-- A frame is reported as sent if it is taken. -/
theorem sendThen_ok_iff (s : Step) (frame : Outbound) (record : State → State) (r : Reading) :
    (s.sendThen frame record r).2 = .ok () ↔ s.client.delivers r = true := by
  cases open_ : s.client.connection.isOpen with
  | false =>
      rw [delivers, open_, sendThen, send_of_closed open_]
      exact iff_of_false (fun same => by cases same) Bool.false_ne_true
  | true =>
      cases answer : r.sink with
      | ok =>
          rw [delivers, open_, answer, sendThen, send_of_taken open_ answer]
          exact iff_of_true rfl rfl
      | error fault =>
          rw [delivers, open_, answer, sendThen, send_of_lost open_ answer]
          exact iff_of_false (fun same => by cases same) Bool.false_ne_true

/-- A conversation that is told something on a condition only. -/
theorem hear_ite (state : State) (condition : Bool) (input : State.Input) (r : Reading) :
    state.hear (if condition then some input else none) r.now =
      if condition then (state.step input r.now).1 else state := by
  cases condition with
  | true => rfl
  | false => rfl

end Step

/-- A client that has just begun. -/
def fresh : Client :=
  (initial "default" "chat" 50 ⟨1, 1, 0.0⟩).start

/-- No time has passed, and every frame is taken. -/
def calm : Reading where
  now := ⟨0, ⟨0, 0⟩⟩
  sample := 0.0
  sink := .ok ()

end StreamingChat.Client
