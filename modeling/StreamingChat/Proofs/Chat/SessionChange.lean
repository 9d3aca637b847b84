import StreamingChat.Chat.Run

/-!
# What a text does to the session

A text from the backend leaves the session as it is, or it says that a history is no longer waited
for: a history that is accepted, or, while one is waited for, a text that cannot be decoded and says
that it is a history.  It makes the state ask for at most one effect, and never points the backend
at a session.
-/

namespace StreamingChat.Chat

open StreamingChat.Calendar (Moment)
open StreamingChat.Wire

/-- An effect that does not point the backend at a session. -/
inductive Effect.IsReply : Effect → Prop where
  | progress (data : Value) : IsReply (.progress data)
  | answer (request : String) (approved : Bool) : IsReply (.send (.answer request approved))

namespace State

/-- Whether a text from the backend ends the wait for a history. -/
def loads (s : State) (text : String) : Bool :=
  match Inbound.read? text with
  | some (.history _ session) => s.session.accepts session
  | some _ => false
  | none => claimsHistory text && s.session.loading

/-- A text either ends the wait and has no effect, or it leaves the session alone and has at most
one effect, which does not point the backend at a session. -/
inductive Heard (s : State) : Bool → State × List Effect → Prop where
  | loaded (t : State) (session : t.session = s.session.historyLoaded) : Heard s true (t, [])
  | silent (t : State) (session : t.session = s.session) : Heard s false (t, [])
  | replied (t : State) (session : t.session = s.session) (effect : Effect)
      (reply : effect.IsReply) : Heard s false (t, [effect])

variable (s : State) (now : Moment)

theorem heard_offer (request : Approval.Request) : s.Heard false (s.offer request) := by
  unfold offer
  split
  · exact .silent _ rfl
  · refine .replied _ ?_ _ (.answer _ true)
    rfl

theorem heard_receive (text : String) : s.Heard (s.loads text) (s.receive text now) := by
  unfold loads receive
  cases Inbound.read? text with
  | none =>
      simp only [refuse]
      cases claimsHistory text && s.session.loading with
      | true => exact .loaded _ rfl
      | false => exact .silent _ rfl
  | some frame =>
      cases frame with
      | history entries session =>
          simp only [dispatch]
          cases s.session.accepts session with
          | true => exact .loaded _ rfl
          | false => exact .silent _ rfl
      | chunk text origin =>
          cases text with
          | none => exact .silent _ rfl
          | some text => exact .silent _ rfl
      | confirmation request => exact heard_offer s request
      | downloadProgress data => exact .replied _ rfl _ (.progress data)
      | done => exact .silent _ rfl
      | stopped => exact .silent _ rfl
      | error message => exact .silent _ rfl
      | stats data => exact .silent _ rfl
      | searchResults data => exact .silent _ rfl
      | activity update => exact .silent _ rfl
      | status => exact .silent _ rfl
      | sessionChanged session => exact .silent _ rfl
      | unknown => exact .silent _ rfl

theorem session_flushDue : (s.flushDue now).session = s.session := by
  unfold flushDue
  split
  · rfl
  · rfl

end State

end StreamingChat.Chat
