import StreamingChat.Proofs.Chat.SessionChange
import StreamingChat.Proofs.Client.Sending

/-!
# How a client stands

Of a client only a few things decide whether a history is asked for: whether it runs, whether its
link is open, its session, and what was handed to that link.  As long as it runs, every input
changes them in one of ten ways.
-/

namespace StreamingChat.Client

open StreamingChat.Chat
open StreamingChat.Link
open StreamingChat.Wire

/-- An act starts the list of frames of a link anew, adds to it, or leaves it. -/
def Act.onto (frames : List Outbound) : Act → List Outbound
  | learned .opened => []
  | handed frame => frames ++ [frame]
  | _ => frames

/-- The frames that were handed to the link since it was last opened. -/
def onLink (acts : List Act) : List Outbound :=
  acts.foldl Act.onto []

/-- What decides whether a history is asked for. -/
structure Standing where
  isRunning : Bool
  isOpen : Bool
  session : Session
  onLink : List Outbound

/-- What an input comes to. -/
inductive Happening where
  /-- The link opens. -/
  | opening
  /-- A text ends the wait for a history. -/
  | loading
  /-- The client is pointed at a session. -/
  | switching (session : String)
  | other
  deriving DecidableEq

/-- What an input comes to for a client. -/
def happening (c : Client) : Input → Happening
  | .attempted (.ok ()) => if c.isRunning && c.isConnecting then .opening else .other
  | .received (.text text) =>
    if c.isRunning && c.connection.isOpen && c.state.loads text then .loading else .other
  | .command (.setSession session) => .switching session
  | _ => .other

/-- The ways in which the standing of a client that runs changes.  What was handed to a link that is
lost no longer counts. -/
inductive Standing.Shift (p : Standing) : Happening → Standing → Prop where
  | kept : Shift p .other p
  | sent (frame : Outbound) (other : ∀ session, frame ≠ .setSession session) :
      Shift p .other { p with onLink := p.onLink ++ [frame] }
  | lost (frames : List Outbound) :
      Shift p .other { p with isOpen := false, session := p.session.disconnected, onLink := frames }
  | stopped : Shift p .other { p with isRunning := false, isOpen := false }
  | opened (closed : p.isOpen = false) :
      Shift p .opening
        { p with
          isOpen := true, session := p.session.opened.1, onLink := p.session.opened.2.toList }
  | openedLost (closed : p.isOpen = false) (owed : p.session.owed = true) (frames : List Outbound) :
      Shift p .opening
        { p with
          isOpen := false, session := p.session.opened.1.disconnected, onLink := frames }
  | loaded (open_ : p.isOpen = true) :
      Shift p .loading { p with session := p.session.historyLoaded }
  | switched (session : String) (closed : p.isOpen = false) :
      Shift p (.switching session) { p with session := (p.session.switch session false).1 }
  | pointed (session : String) (open_ : p.isOpen = true) :
      Shift p (.switching session)
        { p with
          session := (p.session.switch session true).1
          onLink := p.onLink ++ [.setSession session] }
  | pointedLost (session : String) (open_ : p.isOpen = true) (frames : List Outbound) :
      Shift p (.switching session)
        { p with
          isOpen := false
          session := (p.session.switch session true).1.disconnected
          onLink := frames }

namespace Step

/-- How a client stands. -/
def standing (s : Step) : Standing where
  isRunning := s.client.isRunning
  isOpen := s.client.connection.isOpen
  session := s.client.state.session
  onLink := onLink s.acts

variable {s : Step} {r : Reading}

theorem standing_did (s : Step) (act : Act) :
    (s.did act).standing = { s.standing with onLink := act.onto s.standing.onLink } := by
  simp only [standing, did, onLink, List.foldl_append, List.foldl_cons, List.foldl_nil]

theorem standing_withState (s : Step) (state : State) :
    (s.withState state).standing = { s.standing with session := state.session } := rfl

theorem standing_withConnection (s : Step) (connection : Connection) :
    (s.withConnection connection).standing = { s.standing with isOpen := connection.isOpen } := rfl

theorem standing_publish (s : Step) : s.publish.standing = s.standing := by
  have session := State.session_takeChanges s.client.state
  unfold publish
  generalize s.client.state.takeChanges = taken at session
  obtain ⟨state, shown⟩ := taken
  cases shown with
  | none =>
      rw [standing_withState, session]
      rfl
  | some snapshot =>
      rw [standing_did, standing_did]
      change { s.standing with session := state.session } = s.standing
      rw [session]
      rfl

theorem standing_losing (s : Step) (frame : Outbound) (r : Reading) :
    (s.losing frame r).standing =
      { s.standing with
        isOpen := false
        session := s.standing.session.disconnected
        onLink := s.standing.onLink ++ [frame] } := by
  have closed := s.client.connection.isOpen_schedule r
  rw [losing, standing_withState, standing_withConnection, standing_did, closed]
  rfl

/-! ## What an input does to it -/

/-- A frame that does not point the backend at a session leaves the session alone. -/
theorem shift_send {frame : Outbound} (other : ∀ session, frame ≠ .setSession session)
    (r : Reading) : s.standing.Shift .other (s.send frame r).1.standing := by
  rcases send_cases s frame r with ⟨-, sent⟩ | ⟨-, sent⟩ | ⟨fault, -, sent⟩
  · rw [sent]
    exact .kept
  · rw [sent, standing_did]
    exact .sent frame other
  · rw [sent, standing_losing]
    exact .lost _

theorem shift_sendThen {frame : Outbound} (other : ∀ session, frame ≠ .setSession session)
    {record : State → State} (same : (record s.client.state).session = s.client.state.session)
    (r : Reading) : s.standing.Shift .other (s.sendThen frame record r).1.standing := by
  rcases sendThen_cases s frame record r with ⟨-, sent⟩ | ⟨-, sent⟩ | ⟨fault, -, sent⟩
  · rw [sent]
    exact .kept
  · rw [sent, standing_withState, standing_did, same]
    exact .sent frame other
  · rw [sent, standing_losing]
    exact .lost _

theorem shift_effect {effect : Effect} (reply : effect.IsReply) (r : Reading) :
    s.standing.Shift .other (s.effect r effect).standing := by
  cases reply with
  | progress data =>
      change s.standing.Shift .other (s.did (.told (.progress data))).standing
      rw [standing_did]
      exact .kept
  | answer request approved => exact shift_send (fun session same => by cases same) r

theorem shift_heard {loads : Bool} {next : State × List Effect}
    (heard : s.client.state.Heard loads next) (open_ : s.client.connection.isOpen = true)
    (r : Reading) :
    s.standing.Shift (if loads then .loading else .other) (s.become next r).standing := by
  cases heard with
  | loaded t session =>
      change s.standing.Shift .loading (s.withState t).standing
      rw [standing_withState, session]
      exact .loaded open_
  | silent t session =>
      change s.standing.Shift .other (s.withState t).standing
      rw [standing_withState, session]
      exact .kept
  | replied t session effect reply =>
      have shift := shift_effect (s := s.withState t) reply r
      rw [standing_withState, session] at shift
      exact shift

theorem shift_setSession (s : Step) (session : String) (r : Reading) :
    s.standing.Shift (.switching session)
      (s.become (s.client.state.switchSession session s.client.connection.isOpen) r).standing := by
  cases open_ : s.client.connection.isOpen with
  | false => exact .switched session open_
  | true =>
      let t := s.withState (s.client.state.switchSession session true).1
      change s.standing.Shift (.switching session) (t.send (.setSession session) r).1.standing
      rcases send_cases t (.setSession session) r with
        ⟨closed, -⟩ | ⟨-, sent⟩ | ⟨fault, -, sent⟩
      · cases open_.symm.trans closed
      · rw [sent, standing_did]
        exact .pointed session open_
      · rw [sent, standing_losing]
        exact .pointedLost session open_ _

theorem shift_lost {connection : Connection} (closed : connection.isOpen = false) (fault : Fault)
    (retryIn : Nat) (r : Reading) :
    s.standing.Shift .other (s.link (connection, some (.lost fault retryIn)) r).standing := by
  let t := (s.withConnection connection).did (.learned (.lost fault retryIn))
  change s.standing.Shift .other (t.withState (s.client.state.disconnected r.now)).standing
  rw [standing_withState, standing_did, standing_withConnection, closed]
  exact .lost _

/-- A step after the conversation learned that the link opened, before a frame is sent. -/
def reached (s : Step) (connection : Connection) : Step :=
  ((s.withConnection connection).did (.learned .opened)).withState s.client.state.opened.1

theorem standing_reached {connection : Connection} (open_ : connection.isOpen = true) :
    (s.reached connection).standing =
      { s.standing with
        isOpen := true, session := s.standing.session.opened.1, onLink := [] } := by
  rw [reached, standing_withState, standing_did, standing_withConnection, open_]
  rfl

theorem link_opened_of_owed (owed : s.client.state.session.owed = true) (connection : Connection)
    (r : Reading) :
    s.link (connection, some .opened) r =
      ((s.reached connection).send (.setSession s.client.state.session.current) r).1 := by
  have opened := Session.opened_of_owed owed
  simp only [link, linkEvent, become, reached, did, withConnection, State.opened, opened]
  rfl

theorem link_opened_of_not_owed (owed : s.client.state.session.owed = false)
    (connection : Connection) (r : Reading) :
    s.link (connection, some .opened) r = s.reached connection := by
  have opened := Session.opened_of_not_owed owed
  simp only [link, linkEvent, become, reached, did, withConnection, State.opened, opened]
  rfl

theorem shift_opened {connection : Connection} (closed : s.client.connection.isOpen = false)
    (open_ : connection.isOpen = true) (r : Reading) :
    s.standing.Shift .opening (s.link (connection, some .opened) r).standing := by
  have stands := standing_reached (s := s) open_
  cases owed : s.client.state.session.owed with
  | false =>
      have opened : s.standing.session.opened = (s.standing.session, none) :=
        Session.opened_of_not_owed owed
      have shift := Standing.Shift.opened (p := s.standing) closed
      rw [opened] at shift
      rw [link_opened_of_not_owed owed, stands, opened]
      exact shift
  | true =>
      have opened := Session.opened_of_owed owed
      rw [link_opened_of_owed owed]
      rcases send_cases (s.reached connection) (.setSession s.client.state.session.current) r with
        ⟨broken, -⟩ | ⟨-, sent⟩ | ⟨fault, -, sent⟩
      · cases open_.symm.trans broken
      · have shift := Standing.Shift.opened (p := s.standing) closed
        have asked : s.standing.session.opened.2.toList =
            [.setSession s.client.state.session.current] := congrArg (·.2.toList) opened
        rw [asked] at shift
        rw [sent, standing_did, stands]
        exact shift
      · rw [sent, standing_losing, stands]
        exact .openedLost closed owed _

theorem standing_next_command (running : s.client.isRunning = true) (command : Command)
    (r : Reading) :
    (s.next (.command command) r).standing = (s.carryOut command r).1.standing := by
  have replied := standing_did (s.commanded command r).1 (.replied (s.commanded command r).2)
  rw [next_of_running running, standing_publish]
  exact replied.trans (standing_publish _)

theorem standing_next_of_stopped (stopped : s.client.isRunning = false) (input : Input)
    (r : Reading) : (s.next input r).standing = s.standing := by
  unfold next
  rw [stopped, if_neg Bool.false_ne_true]
  split
  · exact standing_did s _
  · rfl

theorem shift_attempted (running : s.client.isRunning = true) (result : Except Fault Unit)
    (r : Reading) :
    s.standing.Shift (s.client.happening (.attempted result))
      (s.link (s.client.connection.attempted result r) r).standing := by
  cases connecting : s.client.connection.isConnecting with
  | false =>
      have idle : s.client.connection.attempted result r = (s.client.connection, none) := by
        simp only [Connection.attempted, connecting, if_neg Bool.false_ne_true]
      have other : s.client.happening (.attempted result) = .other := by
        cases result with
        | ok => simp only [happening, isConnecting, connecting, Bool.and_false]; rfl
        | error fault => rfl
      rw [idle, other]
      exact .kept
  | true =>
      have closed := Connection.not_open_of_connecting connecting
      cases result with
      | ok =>
          have opening : s.client.happening (.attempted (.ok ())) = .opening := by
            simp only [happening, isConnecting, connecting, running]
            rfl
          obtain ⟨alive, -⟩ := Bool.and_eq_true_iff.mp connecting
          rw [opening]
          simp only [Connection.attempted, connecting]
          exact shift_opened closed (by simp only [Connection.isOpen, alive]; rfl) r
      | error fault =>
          simp only [Connection.attempted, connecting]
          exact shift_lost (s.client.connection.isOpen_schedule r) fault _ r

theorem shift_received (running : s.client.isRunning = true) (item : Received) (r : Reading) :
    s.standing.Shift (s.client.happening (.received item))
      (s.link (s.client.connection.received item r) r).standing := by
  cases open_ : s.client.connection.isOpen with
  | false =>
      have idle : s.client.connection.received item r = (s.client.connection, none) := by
        simp only [Connection.received, open_, if_neg Bool.false_ne_true]
      have other : s.client.happening (.received item) = .other := by
        cases item with
        | text text => simp only [happening, open_, Bool.and_false, Bool.false_and]; rfl
        | failed fault => rfl
        | ended => rfl
      rw [idle, other]
      exact .kept
  | true =>
      cases item with
      | text text =>
          let t := s.did (.learned (.frame text))
          have stands : t.standing = s.standing := standing_did s _
          have shift := shift_heard (s := t) (State.heard_receive s.client.state r.now text) open_ r
          have what : s.client.happening (.received (.text text)) =
              if s.client.state.loads text then .loading else .other := by
            simp only [happening, running, open_, Bool.true_and]
          rw [stands] at shift
          rw [what]
          simp only [Connection.received, open_]
          exact shift
      | failed fault =>
          simp only [Connection.received, open_]
          exact shift_lost (s.client.connection.isOpen_schedule r) fault _ r
      | ended =>
          simp only [Connection.received, open_]
          exact shift_lost (s.client.connection.isOpen_schedule r) .closed _ r

/-- What an input can do to the standing of a client that runs. -/
theorem shift_next (running : s.client.isRunning = true) (input : Input) (r : Reading) :
    s.standing.Shift (s.client.happening input) (s.next input r).standing := by
  cases input with
  | command command =>
      rw [standing_next_command running]
      cases command with
      | say request => exact shift_sendThen (fun session same => by cases same) rfl r
      | stop => exact shift_sendThen (fun session same => by cases same) rfl r
      | stats => exact shift_sendThen (fun session same => by cases same) rfl r
      | setSession session => exact shift_setSession s session r
      | answer request approved remember =>
          exact shift_sendThen (fun session same => by cases same) rfl r
      | shutDown => exact .stopped
  | attempted result =>
      rw [next_of_running running, standing_publish]
      exact shift_attempted running result r
  | timer =>
      have still := s.client.connection.isOpen_timerFired
      rw [next_of_running running, standing_publish]
      change s.standing.Shift .other (s.withConnection s.client.connection.timerFired).standing
      rw [standing_withConnection, still]
      exact .kept
  | received item =>
      rw [next_of_running running, standing_publish]
      exact shift_received running item r
  | flush =>
      have same := State.session_flushDue s.client.state r.now
      rw [next_of_running running, standing_publish]
      change s.standing.Shift .other (s.withState (s.client.state.flushDue r.now)).standing
      rw [standing_withState, same]
      exact .kept
  | abandoned =>
      rw [next_of_running running, standing_publish]
      exact .stopped

end Step

end StreamingChat.Client
