import StreamingChat.Proofs.Chat.Away
import StreamingChat.Proofs.Client.Course

/-!
# The conversation agrees with the link

However a link is lost, with an attempt that fails, by itself or with a frame, the conversation
learns of it in the same input.  So it shows an open link just when there is one, and without one
nothing is under way: no answer, no deadline, no gathered text and no message in progress.
-/

namespace StreamingChat.Client

open StreamingChat.Chat
open StreamingChat.Link

/-- The conversation agrees with the link. -/
def Agrees (c : Client) : Prop :=
  c.state.Fits c.connection.isOpen

namespace Agrees

variable {c : Client} {r : Reading}

/-- What is heard on a condition that holds of an open link only. -/
theorem hear_of_delivers (agrees : c.Agrees) {input : State.Input} (r : Reading)
    (kept : (c.state.step input r.now).1.isConnected = c.state.isConnected) :
    (c.state.hear (if c.delivers r then some input else none) r.now).Fits c.connection.isOpen := by
  cases delivers : c.delivers r with
  | false => exact agrees
  | true =>
      obtain ⟨open_, -⟩ := Bool.and_eq_true_iff.mp delivers
      have connected := agrees.connected
      rw [open_] at connected ⊢
      exact State.fits_of_connected (kept.trans connected)

theorem hear_command (agrees : c.Agrees) (running : c.isRunning = true) (command : Command)
    (r : Reading) :
    (c.state.hear (c.told (.command command) r) r.now).Fits
      (c.linked (.command command) r).isOpen := by
  unfold told
  rw [if_pos running]
  cases command with
  | say request => exact agrees.hear_of_delivers r rfl
  | stop => exact agrees
  | stats => exact agrees
  | setSession session => exact State.Fits.switchSession agrees session _
  | answer request approved remember => exact agrees.hear_of_delivers r rfl
  | shutDown => exact State.fits_ended c.state r.now

theorem hear_attempted (agrees : c.Agrees) (running : c.isRunning = true)
    (result : Except Fault Unit) (r : Reading) :
    (c.state.hear (c.told (.attempted result) r) r.now).Fits
      (c.linked (.attempted result) r).isOpen := by
  unfold told
  rw [if_pos running]
  change State.Fits _ (c.connection.attempted result r).1.isOpen
  cases connecting : c.connection.isConnecting with
  | false =>
      rw [Connection.attempted_of_not_connecting connecting, isConnecting, connecting]
      cases result with
      | ok => exact agrees
      | error fault => exact agrees
  | true =>
      rw [isConnecting, connecting]
      cases result with
      | ok =>
          obtain ⟨alive, -⟩ := Bool.and_eq_true_iff.mp connecting
          rw [Connection.attempted_ok connecting]
          simp only [Connection.isOpen, alive]
          exact State.fits_of_connected rfl
      | error fault =>
          rw [Connection.attempted_error connecting, Connection.isOpen_schedule]
          exact State.fits_disconnected c.state r.now

theorem hear_received (agrees : c.Agrees) (running : c.isRunning = true) (item : Received)
    (r : Reading) :
    (c.state.hear (c.told (.received item) r) r.now).Fits
      (c.linked (.received item) r).isOpen := by
  unfold told
  rw [if_pos running]
  change State.Fits _ (c.connection.received item r).1.isOpen
  cases open_ : c.connection.isOpen with
  | false =>
      rw [Connection.received_of_not_open open_]
      cases item with
      | text text => exact agrees
      | failed fault => exact agrees
      | ended => exact agrees
  | true =>
      have fits : c.state.Fits true := open_ ▸ agrees
      cases item with
      | text text =>
          rw [Connection.received_text open_, open_]
          exact fits.receive text r.now
      | failed fault =>
          rw [Connection.received_fault open_ rfl, Connection.isOpen_schedule]
          exact State.fits_disconnected c.state r.now
      | ended =>
          rw [Connection.received_fault open_ rfl, Connection.isOpen_schedule]
          exact State.fits_disconnected c.state r.now

/-- What is heard of the link is what becomes of it. -/
theorem hear (agrees : c.Agrees) (running : c.isRunning = true) (input : Input) (r : Reading) :
    (c.state.hear (c.told input r) r.now).Fits (c.linked input r).isOpen := by
  cases input with
  | command command => exact agrees.hear_command running command r
  | attempted result => exact agrees.hear_attempted running result r
  | timer =>
      rw [told, if_pos running, linked, Connection.isOpen_timerFired]
      exact agrees
  | received item => exact agrees.hear_received running item r
  | flush =>
      rw [told, if_pos running]
      exact State.Fits.flushDue agrees r.now
  | abandoned =>
      rw [told, if_pos running]
      exact State.fits_ended c.state r.now

/-- A link that is lost with a frame is lost to the conversation too. -/
theorem outcome (agrees : c.Agrees) (running : c.isRunning = true) (input : Input) (r : Reading) :
    (c.outcome input r).Fits (drop (c.linked input r) (c.hands? input r) r).isOpen := by
  unfold Client.outcome lose drop
  cases drops (c.hands? input r) r with
  | false => exact agrees.hear running input r
  | true =>
      rw [if_pos rfl, if_pos rfl, Connection.isOpen_schedule]
      exact State.fits_disconnected _ r.now

end Agrees

/-- One input keeps the conversation in agreement with the link. -/
theorem agrees_next {s : Step} (agrees : s.client.Agrees) (input : Input) (r : Reading) :
    (s.next input r).client.Agrees := by
  cases running : s.client.isRunning with
  | false =>
      rw [Step.client_next_of_stopped running]
      exact agrees
  | true =>
      have course := Step.course_next running input r
      rw [Agrees, course.state, course.connection]
      exact (agrees.outcome running input r).takeChanges

theorem agrees_run (session mode : String) (interval : Nat) (backoff : Backoff)
    (inputs : List (Input × Reading)) :
    ((initial session mode interval backoff).start.run inputs).client.Agrees := by
  induction inputs using List.reverseRecOn with
  | nil => exact State.fits_initial session interval
  | append_singleton inputs input agrees =>
      rw [run_concat]
      exact agrees_next agrees input.1 input.2

/-- After every input of every run, an open link is shown just when there is one.  Without one no
answer is under way, no deadline is armed, no text is gathered, and every message is complete. -/
theorem connected_just_when_open (session mode : String) (interval : Nat) (backoff : Backoff)
    (inputs : List (Input × Reading)) :
    let c := ((initial session mode interval backoff).start.run inputs).client
    c.state.isConnected = c.connection.isOpen ∧
      (c.connection.isOpen = false →
        c.state.isProcessing = false ∧ c.state.feed.deadline = none ∧
          c.state.feed.gathered = none ∧
          ∀ m ∈ c.state.feed.transcript.visible, m.isComplete = true) := by
  intro c
  have agrees : c.Agrees := agrees_run session mode interval backoff inputs
  refine ⟨agrees.connected, ?_⟩
  intro closed
  obtain ⟨unarmed, nothing, still⟩ := agrees.quiet closed
  refine ⟨agrees.idle closed, unarmed, nothing, ?_⟩
  have sound := (sound_run session mode interval backoff inputs).transcript
  intro m member
  rw [Transcript.visible, still, Option.toList_none, List.append_nil] at member
  exact sound.committed m member

/-- The link is lost with a frame while the first text of an answer is gathered. -/
def lostWhileGathering : List (Input × Reading) :=
  [(.attempted (.ok ()), calm), (.command (.say { message := "hi" }), calm),
    (.received (.text State.chunkOfOne), calm),
    (.command .stop, { calm with sink := .error .closed })]

theorem connected_just_when_open_of_lost :
    let before := (fresh.run lostWhileGathering.dropLast).client
    let c := (fresh.run lostWhileGathering).client
    before.state.isConnected = true ∧ before.state.isProcessing = true ∧
      before.state.feed.gathered.isSome = true ∧ c.connection.isOpen = false ∧
      c.state.isConnected = false ∧ c.state.isProcessing = false ∧
      c.state.feed.transcript.visible.length = 2 ∧
      ∀ m ∈ c.state.feed.transcript.visible, m.isComplete = true := by
  intro before c
  have first :=
    connected_just_when_open "default" "chat" 50 ⟨1, 1, 0.0⟩ lostWhileGathering.dropLast
  have second := connected_just_when_open "default" "chat" 50 ⟨1, 1, 0.0⟩ lostWhileGathering
  have closed : c.connection.isOpen = false := rfl
  obtain ⟨idle, -, -, complete⟩ := second.2 closed
  exact ⟨first.1, rfl, rfl, closed, second.1.trans closed, idle, rfl, complete⟩

end StreamingChat.Client
