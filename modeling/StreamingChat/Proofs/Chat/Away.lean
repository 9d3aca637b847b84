import StreamingChat.Chat.State

/-!
# A conversation without a link

While the link is away nothing is under way in the conversation: no answer, no deadline, no gathered
text and no message in progress.  A loss of the link brings this about, and what can be heard
without a link leaves it so.
-/

namespace StreamingChat.Chat

open StreamingChat.Calendar (Instant Moment)
open StreamingChat.Wire

/-- A feed with nothing under way. -/
structure Feed.Quiet (f : Feed) : Prop where
  deadline : f.deadline = none
  gathered : f.gathered = none
  inProgress : f.transcript.inProgress = none

theorem Feed.quiet_close (f : Feed) (clock : Instant) : (f.close clock).Quiet where
  deadline := deadline_flush f clock
  gathered := gathered_flush f clock
  inProgress := inProgress_close f clock

namespace State

/-- A state that agrees with a link that is open or not. -/
structure Fits (s : State) (isOpen : Bool) : Prop where
  connected : s.isConnected = isOpen
  idle : isOpen = false → s.isProcessing = false
  quiet : isOpen = false → s.feed.Quiet

variable {s : State} {isOpen : Bool}

theorem fits_of_connected (connected : s.isConnected = true) : s.Fits true where
  connected := connected
  idle closed := by cases closed
  quiet closed := by cases closed

theorem fits_initial (session : String) (interval : Nat) :
    (initial session interval).Fits false where
  connected := rfl
  idle _ := rfl
  quiet _ := ⟨rfl, rfl, rfl⟩

theorem fits_disconnected (s : State) (now : Moment) : (s.disconnected now).Fits false where
  connected := rfl
  idle _ := rfl
  quiet _ := Feed.quiet_close s.feed now.clock

theorem fits_ended (s : State) (now : Moment) : (s.ended now).Fits false where
  connected := rfl
  idle _ := rfl
  quiet _ := Feed.quiet_close s.feed now.clock

theorem isConnected_receive (s : State) (text : String) (now : Moment) :
    (s.receive text now).1.isConnected = s.isConnected := by
  unfold receive
  cases Inbound.read? text with
  | none => rfl
  | some frame =>
      cases frame with
      | chunk text origin =>
          cases text with
          | none => rfl
          | some text => rfl
      | confirmation request =>
          simp only [dispatch, offer]
          split
          · rfl
          · rfl
      | history entries session =>
          simp only [dispatch]
          split
          · rfl
          · rfl
      | done => rfl
      | stopped => rfl
      | error message => rfl
      | stats data => rfl
      | searchResults data => rfl
      | activity update => rfl
      | downloadProgress data => rfl
      | status => rfl
      | sessionChanged session => rfl
      | unknown => rfl

namespace Fits

theorem receive (fits : s.Fits true) (text : String) (now : Moment) :
    (s.receive text now).1.Fits true :=
  fits_of_connected ((isConnected_receive s text now).trans fits.connected)

/-- Without a link no deadline is armed, so none passes. -/
theorem flushDue (fits : s.Fits isOpen) (now : Moment) : (s.flushDue now).Fits isOpen := by
  cases isOpen with
  | true =>
      refine fits_of_connected ?_
      unfold State.flushDue
      split
      · exact fits.connected
      · exact fits.connected
  | false =>
      have unarmed : s.feed.isDue now.tick = false := by
        rw [Feed.isDue, (fits.quiet rfl).deadline]
        rfl
      rw [State.flushDue, unarmed]
      exact fits

theorem switchSession (fits : s.Fits isOpen) (session : String) (connected : Bool) :
    (s.switchSession session connected).1.Fits isOpen where
  connected := fits.connected
  idle _ := rfl
  quiet _ := ⟨rfl, rfl, rfl⟩

theorem takeChanges (fits : s.Fits isOpen) : s.takeChanges.1.Fits isOpen := by
  unfold State.takeChanges
  split
  · exact ⟨fits.connected, fits.idle, fits.quiet⟩
  · exact fits

end Fits

end State

end StreamingChat.Chat
