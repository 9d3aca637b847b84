import StreamingChat.Chat.Run

/-!
# What an input does to the feed

Every input leaves the feed as it is or changes it in one of six ways.  Two of them, a history that
is accepted and a switch of the session, put other messages in the place of all; they are resets.
What holds of the feed in every reachable state is derived from this list.
-/

namespace StreamingChat.Chat

open StreamingChat.Calendar (Moment)
open StreamingChat.Wire

/-- The ways in which a feed changes at a moment, and whether it is a reset. -/
inductive Feed.Change (f : Feed) (now : Moment) : Bool → Feed → Prop where
  | kept : Change f now false f
  | pushed (fragment : Fragment) : Change f now false (f.push fragment now).1
  | flushed : Change f now false (f.flush now.clock)
  | closed : Change f now false (f.close now.clock)
  | said (role : Role) (line : String) :
      Change f now false
        { f.close now.clock with
          transcript := (f.close now.clock).transcript.say role line now.clock }
  | replayed (entries : List Entry) :
      Change f now true
        { f.discard with transcript := f.discard.transcript.replay entries now.clock }
  | cleared : Change f now true { f.discard with transcript := f.discard.transcript.clear }

namespace State

/-- Whether a frame is a history that is accepted. -/
def replaces (s : State) : Inbound → Bool
  | .history _ session => s.session.accepts session
  | _ => false

/-- Whether an input puts other messages in the place of all: a history that is accepted, and a
switch of the session. -/
def resets (s : State) : Input → Bool
  | .received text => (Inbound.read? text).any s.replaces
  | .switched .. => true
  | _ => false

variable (s : State) (now : Moment)

theorem change_dispatch (frame : Inbound) :
    s.feed.Change now (s.replaces frame) (s.dispatch frame now).1.feed := by
  cases frame with
  | chunk text origin =>
      cases text with
      | none => exact .kept
      | some text => exact .pushed ⟨text, origin⟩
  | done => exact .closed
  | stopped => exact .closed
  | error message => exact .said .system (errorText message)
  | confirmation request =>
      change s.feed.Change now false (s.offer request).1.feed
      rw [feed_offer]
      exact .kept
  | history entries session =>
      simp only [dispatch, replaces]
      cases s.session.accepts session with
      | true => exact .replayed _
      | false => exact .kept
  | stats data => exact .kept
  | searchResults data => exact .kept
  | activity update => exact .kept
  | status => exact .kept
  | sessionChanged session => exact .kept
  | downloadProgress data => exact .kept
  | unknown => exact .kept

/-- What an input can do to the feed. -/
theorem change_step (input : Input) :
    s.feed.Change now (s.resets input) (s.step input now).1.feed := by
  cases input with
  | received text =>
      simp only [step, resets, receive]
      cases Inbound.read? text with
      | none => exact .kept
      | some frame => exact change_dispatch s now frame
  | flushDue =>
      change s.feed.Change now false (s.flushDue now).feed
      unfold flushDue
      split
      · exact .flushed
      · exact .kept
  | opened => exact .kept
  | disconnected => exact .closed
  | ended => exact .closed
  | turn content => exact .said .user content
  | switched session connected => exact .cleared
  | answered request approved remember => exact .kept
  | takeChanges =>
      change s.feed.Change now false s.takeChanges.1.feed
      rw [feed_takeChanges]
      exact .kept

end State

end StreamingChat.Chat
