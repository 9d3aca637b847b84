import StreamingChat.Proofs.Chat.OpenMessage
import StreamingChat.Proofs.Chat.SessionChange
import StreamingChat.Proofs.Client.Publishing
import StreamingChat.Proofs.Client.Telling

/-!
# The course of an input

An input changes the link, tells the conversation at most one thing and makes the client hand over
at most one frame.  If that frame is not taken, the link is lost and the conversation learns of it.
Then the changes are published.  Everything that is shown of a client input by input is derived from
this account of it.
-/

namespace StreamingChat.Chat

open StreamingChat.Wire

/-- The frame that an effect sends. -/
def Effect.frame? : Effect → Option Outbound
  | send frame => some frame
  | progress _ => none

/-- The one frame of a list of effects that asks for at most one. -/
def frameOf? (effects : List Effect) : Option Outbound :=
  effects.head?.bind Effect.frame?

theorem frameOf?_sends (frame : Option Outbound) : frameOf? (State.sends frame) = frame := by
  cases frame with
  | none => rfl
  | some frame => rfl

/-- A text has one effect at most. -/
theorem State.Heard.length_le {s : State} {loads : Bool} {next : State × List Effect}
    (heard : s.Heard loads next) : next.2.length ≤ 1 := by
  cases heard with
  | loaded t session => exact Nat.zero_le 1
  | silent t session => exact Nat.zero_le 1
  | replied t session effect reply => exact Nat.le_refl 1

theorem State.length_sends (frame : Option Outbound) : (sends frame).length ≤ 1 := by
  cases frame with
  | none => exact Nat.zero_le 1
  | some frame => exact Nat.le_refl 1

end StreamingChat.Chat

namespace StreamingChat.Client

open StreamingChat.Calendar (Moment)
open StreamingChat.Chat
open StreamingChat.Link
open StreamingChat.Wire

/-- The frame that a command asks the client to send. -/
def asking? (c : Client) : Command → Option Outbound
  | .say request => some (Step.turnOf c request)
  | .stop => some .stop
  | .stats => some .stats
  | .setSession session => some (.setSession session)
  | .answer request approved _ => some (.answer request approved)
  | .shutDown => none

/-- The frame that an input makes a client hand over. -/
def hands? (c : Client) (input : Input) (r : Reading) : Option Outbound :=
  if c.isRunning then
    match input with
    | .command command => if c.connection.isOpen then c.asking? command else none
    | .attempted (.ok ()) => if c.isConnecting then c.state.session.opened.2 else none
    | .received (.text text) =>
      if c.connection.isOpen then frameOf? (c.state.receive text r.now).2 else none
    | _ => none
  else none

/-- A client that has stopped tells nothing and hands nothing over. -/
theorem told_of_stopped {c : Client} (stopped : c.isRunning = false) (input : Input)
    (r : Reading) : c.told input r = none :=
  if_neg (by rw [stopped]; exact Bool.false_ne_true)

theorem hands_of_stopped {c : Client} (stopped : c.isRunning = false) (input : Input)
    (r : Reading) : c.hands? input r = none :=
  if_neg (by rw [stopped]; exact Bool.false_ne_true)

/-- The link after an input, before a frame is handed over. -/
def linked (c : Client) (input : Input) (r : Reading) : Connection :=
  match input with
  | .attempted result => (c.connection.attempted result r).1
  | .timer => c.connection.timerFired
  | .received item => (c.connection.received item r).1
  | .command .shutDown | .abandoned => c.connection.close
  | .command _ | .flush => c.connection

/-- Whether a frame is handed over and not taken. -/
def drops (frame : Option Outbound) (r : Reading) : Bool :=
  frame.isSome && !r.sink.isOk

theorem drops_of_ok {r : Reading} (taken : r.sink = .ok ()) (frame : Option Outbound) :
    drops frame r = false := by
  rw [drops, taken]
  exact Bool.and_false _

theorem drops_of_error {r : Reading} {fault : Fault} (lost : r.sink = .error fault)
    (frame : Outbound) : drops (some frame) r = true := by
  rw [drops, lost]
  rfl

/-- A state after a frame was handed over. -/
def lose (state : State) (frame : Option Outbound) (r : Reading) : State :=
  if drops frame r then state.disconnected r.now else state

/-- A link after a frame was handed over. -/
def drop (connection : Connection) (frame : Option Outbound) (r : Reading) : Connection :=
  if drops frame r then (connection.schedule r).1 else connection

/-- What an input makes of the state, up to taking the changes. -/
def outcome (c : Client) (input : Input) (r : Reading) : State :=
  lose (c.state.hear (c.told input r) r.now) (c.hands? input r) r

/-- What the conversation hears in an input of a client that runs: what it is told, that the link is
lost with a frame, and that its changes are taken. -/
def hearing (c : Client) (input : Input) (r : Reading) : List (State.Input × Moment) :=
  if c.isRunning then
    (c.told input r).toList.map (·, r.now) ++
      (if drops (c.hands? input r) r then [(.disconnected, r.now)] else []) ++
      [(.takeChanges, r.now)]
  else []

namespace Step

/-- A step that comes from another when the conversation and the link come to be as given and then
a frame is handed over, if there is one. -/
structure Leads (s t : Step) (state : State) (connection : Connection) (frame : Option Outbound)
    (r : Reading) : Prop where
  offered : t.offered = s.offered ++ frame.toList
  state : t.client.state = lose state frame r
  connection : t.client.connection = drop connection frame r
  snapshots : t.snapshots = s.snapshots
  published : t.client.published = s.client.published

variable {s : Step} {r : Reading}

theorem offered_quiet (s : Step) {act : Act} (quiet : act.frame? = none) :
    (s.did act).offered = s.offered := by
  rw [offered_did, quiet]
  exact List.append_nil _

theorem snapshots_quiet (s : Step) {act : Act} (quiet : act.snapshot? = none) :
    (s.did act).snapshots = s.snapshots := by
  rw [snapshots_did, quiet]
  exact List.append_nil _

/-- Nothing is handed over. -/
theorem leads_kept (s : Step) (r : Reading) :
    s.Leads s s.client.state s.client.connection none r where
  offered := (List.append_nil _).symm
  state := rfl
  connection := rfl
  snapshots := rfl
  published := rfl

theorem leads_withState (s : Step) (state : State) (r : Reading) :
    s.Leads (s.withState state) state s.client.connection none r where
  offered := (List.append_nil _).symm
  state := rfl
  connection := rfl
  snapshots := rfl
  published := rfl

theorem leads_taken (taken : r.sink = .ok ()) (frame : Outbound) (state : State) :
    s.Leads ((s.did (.handed frame)).withState state) state s.client.connection (some frame) r where
  offered := offered_did s (.handed frame)
  state := by rw [lose, drops_of_ok taken]; rfl
  connection := by rw [drop, drops_of_ok taken]; rfl
  snapshots := snapshots_quiet s rfl
  published := rfl

theorem leads_lost {fault : Fault} (lost : r.sink = .error fault) (frame : Outbound) :
    s.Leads (s.losing frame r) s.client.state s.client.connection (some frame) r where
  offered := offered_did s (.handed frame)
  state := by rw [lose, drops_of_error lost]; rfl
  connection := by rw [drop, drops_of_error lost]; rfl
  snapshots := snapshots_quiet s rfl
  published := rfl

theorem leads_send (open_ : s.client.connection.isOpen = true) (frame : Outbound) (r : Reading) :
    s.Leads (s.send frame r).1 s.client.state s.client.connection (some frame) r := by
  cases answer : r.sink with
  | ok =>
      rw [send_of_taken open_ answer]
      exact leads_taken answer frame s.client.state
  | error fault =>
      rw [send_of_lost open_ answer]
      exact leads_lost answer frame

/-- A frame is recorded if it is taken. -/
theorem leads_sendThen (s : Step) (frame : Outbound) (record : State → State) (r : Reading) :
    s.Leads (s.sendThen frame record r).1
      (if s.client.delivers r then record s.client.state else s.client.state) s.client.connection
      (if s.client.connection.isOpen then some frame else none) r := by
  cases open_ : s.client.connection.isOpen with
  | false =>
      rw [delivers, open_, sendThen, send_of_closed open_]
      exact leads_kept s r
  | true =>
      cases answer : r.sink with
      | ok =>
          rw [delivers, open_, answer, sendThen, send_of_taken open_ answer]
          exact leads_taken answer frame _
      | error fault =>
          rw [delivers, open_, answer, sendThen, send_of_lost open_ answer]
          exact leads_lost answer frame

/-- The effects of a state are carried out on an open link. -/
theorem leads_become (next : State × List Effect) (few : next.2.length ≤ 1)
    (open_ : s.client.connection.isOpen = true) (r : Reading) :
    s.Leads (s.become next r) next.1 s.client.connection (frameOf? next.2) r := by
  obtain ⟨state, effects⟩ := next
  have moved := leads_withState s state r
  match effects, few with
  | [], _ => exact moved
  | [.progress data], _ =>
      refine ⟨?_, rfl, rfl, snapshots_quiet (s.withState state) rfl, rfl⟩
      exact (offered_quiet (s.withState state) rfl).trans moved.offered
  | [.send frame], _ =>
      have sent := leads_send (s := s.withState state) open_ frame r
      exact ⟨sent.offered, sent.state, sent.connection, sent.snapshots, sent.published⟩

theorem leads_finish (s : Step) (r : Reading) :
    s.Leads (s.finish r) (s.client.state.ended r.now) s.client.connection.close none r where
  offered := (List.append_nil _).symm
  state := rfl
  connection := rfl
  snapshots := rfl
  published := rfl

theorem leads_command (running : s.client.isRunning = true) (command : Command) (r : Reading) :
    s.Leads (s.carryOut command r).1
      (s.client.state.hear (s.client.told (.command command) r) r.now)
      (s.client.linked (.command command) r) (s.client.hands? (.command command) r) r := by
  unfold told hands?
  rw [if_pos running, if_pos running]
  cases command with
  | say request =>
      rw [hear_ite]
      exact leads_sendThen s _ (·.recordTurn request.message r.now) r
  | stop =>
      have sent := leads_sendThen s .stop id r
      rw [id, ite_self] at sent
      exact sent
  | stats =>
      have sent := leads_sendThen s .stats id r
      rw [id, ite_self] at sent
      exact sent
  | setSession session =>
      cases open_ : s.client.connection.isOpen with
      | false =>
          change s.Leads (s.become (s.client.state.switchSession session _) r) _ _ none r
          rw [open_]
          exact leads_withState s _ r
      | true =>
          have few := State.length_sends (s.client.state.session.switch session true).2
          have moved := leads_become (s.client.state.switchSession session true) few open_ r
          change s.Leads (s.become (s.client.state.switchSession session _) r) _ _
            (some (.setSession session)) r
          rw [open_]
          exact moved
  | answer request approved remember =>
      rw [hear_ite]
      exact leads_sendThen s _ (·.resolve request approved remember) r
  | shutDown =>
      change s.Leads (s.finish r) _ _ (if s.client.connection.isOpen then none else none) r
      rw [ite_self]
      exact leads_finish s r

/-- What is learned of the link is heard on the link as it is then. -/
theorem leads_learned {connection : Connection} (event : Event) (next : State × List Effect)
    (few : next.2.length ≤ 1) (open_ : connection.isOpen = true) (r : Reading) :
    s.Leads (((s.withConnection connection).did (.learned event)).become next r) next.1 connection
      (frameOf? next.2) r := by
  let t := (s.withConnection connection).did (.learned event)
  have moved := leads_become (s := t) next few open_ r
  have handed : t.offered = s.offered := offered_quiet (s.withConnection connection) rfl
  have shown : t.snapshots = s.snapshots := snapshots_quiet (s.withConnection connection) rfl
  exact ⟨handed ▸ moved.offered, moved.state, moved.connection, shown ▸ moved.snapshots,
    moved.published⟩

theorem leads_away (s : Step) (connection : Connection) (fault : Fault) (retryIn : Nat)
    (r : Reading) :
    s.Leads (s.link (connection, some (.lost fault retryIn)) r) (s.client.state.disconnected r.now)
      connection none r where
  offered := (offered_quiet (s.withConnection connection) rfl).trans (List.append_nil _).symm
  state := rfl
  connection := rfl
  snapshots := snapshots_quiet (s.withConnection connection) rfl
  published := rfl

theorem leads_attempted (running : s.client.isRunning = true) (result : Except Fault Unit)
    (r : Reading) :
    s.Leads (s.link (s.client.connection.attempted result r) r)
      (s.client.state.hear (s.client.told (.attempted result) r) r.now)
      (s.client.linked (.attempted result) r) (s.client.hands? (.attempted result) r) r := by
  unfold told hands?
  rw [if_pos running, if_pos running]
  change s.Leads _ _ (s.client.connection.attempted result r).1 _ r
  cases connecting : s.client.connection.isConnecting with
  | false =>
      rw [Connection.attempted_of_not_connecting connecting, isConnecting, connecting]
      cases result with
      | ok => exact leads_kept s r
      | error fault => exact leads_kept s r
  | true =>
      rw [isConnecting, connecting]
      cases result with
      | ok =>
          obtain ⟨alive, -⟩ := Bool.and_eq_true_iff.mp connecting
          let connection : Connection := { s.client.connection with phase := .opened, retries := 0 }
          have open_ : connection.isOpen = true := Bool.and_eq_true_iff.mpr ⟨alive, rfl⟩
          have few := State.length_sends s.client.state.session.opened.2
          have moved := leads_learned (s := s) .opened s.client.state.opened few open_ r
          have frame : frameOf? s.client.state.opened.2 = s.client.state.session.opened.2 :=
            frameOf?_sends _
          rw [frame] at moved
          rw [Connection.attempted_ok connecting]
          exact moved
      | error fault =>
          rw [Connection.attempted_error connecting]
          exact leads_away s _ fault _ r

theorem leads_received (running : s.client.isRunning = true) (item : Received) (r : Reading) :
    s.Leads (s.link (s.client.connection.received item r) r)
      (s.client.state.hear (s.client.told (.received item) r) r.now)
      (s.client.linked (.received item) r) (s.client.hands? (.received item) r) r := by
  unfold told hands?
  rw [if_pos running, if_pos running]
  change s.Leads _ _ (s.client.connection.received item r).1 _ r
  cases open_ : s.client.connection.isOpen with
  | false =>
      rw [Connection.received_of_not_open open_]
      cases item with
      | text text => exact leads_kept s r
      | failed fault => exact leads_kept s r
      | ended => exact leads_kept s r
  | true =>
      cases item with
      | text text =>
          have few := (State.heard_receive s.client.state r.now text).length_le
          rw [Connection.received_text open_]
          exact leads_learned (.frame text) _ few open_ r
      | failed fault =>
          rw [Connection.received_fault open_ rfl]
          exact leads_away s _ fault _ r
      | ended =>
          rw [Connection.received_fault open_ rfl]
          exact leads_away s _ .closed _ r

/-! ## Publishing -/

/-- What an input comes to, all told. -/
structure Course (s : Step) (input : Input) (r : Reading) (t : Step) : Prop where
  offered : t.offered = s.offered ++ (s.client.hands? input r).toList
  state : t.client.state = (s.client.outcome input r).takeChanges.1
  connection : t.client.connection = drop (s.client.linked input r) (s.client.hands? input r) r
  snapshots : t.snapshots = s.snapshots ++ (s.client.outcome input r).takeChanges.2.toList

theorem snapshots_publish (s : Step) :
    s.publish.snapshots = s.snapshots ++ s.client.state.takeChanges.2.toList := by
  unfold publish
  generalize s.client.state.takeChanges = taken
  obtain ⟨state, shown⟩ := taken
  cases shown with
  | none => exact (List.append_nil _).symm
  | some snapshot =>
      rw [snapshots_did, snapshots_did]
      exact List.append_nil _

theorem connection_publish (s : Step) : s.publish.client.connection = s.client.connection := by
  unfold publish
  split
  · rfl
  · rfl

theorem takeChanges_takeChanges (state : State) :
    state.takeChanges.1.takeChanges = (state.takeChanges.1, none) := by
  cases dirty : state.isDirty with
  | false => rw [State.takeChanges_of_clean dirty, State.takeChanges_of_clean dirty]
  | true => rw [State.takeChanges_of_dirty dirty, State.takeChanges_of_clean rfl]

variable {t : Step} {input : Input}

/-- What an input comes to is published. -/
theorem Leads.course
    (leads : s.Leads t (s.client.state.hear (s.client.told input r) r.now)
      (s.client.linked input r) (s.client.hands? input r) r) : s.Course input r t.publish where
  offered := (offered_publish t).trans leads.offered
  state := (state_publish t).trans (congrArg (·.takeChanges.1) leads.state)
  connection := (connection_publish t).trans leads.connection
  snapshots := by
    rw [snapshots_publish, leads.snapshots, leads.state]
    rfl

/-- The answer to a command changes nothing more. -/
theorem Course.answered (course : s.Course input r t) (answer : Except Refusal Unit) :
    s.Course input r (t.did (.replied answer)).publish := by
  have clean : (t.did (.replied answer)).client.state.takeChanges = (t.client.state, none) := by
    change t.client.state.takeChanges = _
    rw [course.state]
    exact takeChanges_takeChanges _
  refine ⟨?_, ?_, ?_, ?_⟩
  · rw [offered_publish, offered_quiet t rfl]
    exact course.offered
  · rw [state_publish, clean]
    exact course.state
  · rw [connection_publish]
    exact course.connection
  · rw [snapshots_publish, clean, snapshots_quiet t rfl]
    exact (List.append_nil _).trans course.snapshots

/-- What an input comes to for a client that runs. -/
theorem course_next (running : s.client.isRunning = true) (input : Input) (r : Reading) :
    s.Course input r (s.next input r) := by
  rw [next_of_running running]
  cases input with
  | command command => exact (leads_command running command r).course.answered _
  | attempted result => exact (leads_attempted running result r).course
  | timer =>
      have told : s.client.told .timer r = none := if_pos running
      have handed : s.client.hands? .timer r = none := if_pos running
      refine Leads.course (t := s.withConnection s.client.connection.timerFired) ?_
      rw [told, handed]
      exact ⟨(List.append_nil _).symm, rfl, rfl, rfl, rfl⟩
  | received item => exact (leads_received running item r).course
  | flush =>
      have told : s.client.told .flush r = some .flushDue := if_pos running
      have handed : s.client.hands? .flush r = none := if_pos running
      refine Leads.course (t := s.withState (s.client.state.flushDue r.now)) ?_
      rw [told, handed]
      exact leads_withState s _ r
  | abandoned =>
      have told : s.client.told .abandoned r = some .ended := if_pos running
      have handed : s.client.hands? .abandoned r = none := if_pos running
      refine Leads.course (t := s.finish r) ?_
      rw [told, handed]
      exact leads_finish s r

/-- An input changes nothing of a client that has stopped. -/
theorem client_next_of_stopped (stopped : s.client.isRunning = false) (input : Input)
    (r : Reading) : (s.next input r).client = s.client := by
  unfold next
  rw [stopped, if_neg Bool.false_ne_true]
  split
  · rfl
  · rfl

/-- A client that has stopped stores nothing more. -/
theorem snapshots_next_of_stopped (stopped : s.client.isRunning = false) (input : Input)
    (r : Reading) : (s.next input r).snapshots = s.snapshots := by
  unfold next
  rw [stopped, if_neg Bool.false_ne_true]
  split
  · exact snapshots_quiet s rfl
  · rfl

/-- The conversation of a client goes on from what it is told. -/
theorem follows_next (s : Step) (input : Input) (r : Reading) :
    (s.client.state.hear (s.client.told input r) r.now).Follows (s.next input r).client.state := by
  cases running : s.client.isRunning with
  | false =>
      rw [client_next_of_stopped running, told_of_stopped running]
      exact .same
  | true =>
      rw [(course_next running input r).state]
      refine .takeChanges ?_
      unfold outcome lose
      split
      · exact .disconnected .same r.now
      · exact .same

/-! ## The conversation as a run -/

/-- What the conversation of a client hears in inputs, one after the other. -/
def heard (s : Step) : List (Input × Reading) → List (State.Input × Moment)
  | [] => []
  | i :: rest => s.client.hearing i.1 i.2 ++ (s.next i.1 i.2).heard rest

/-- What an input comes to is what the conversation makes of what it hears before its changes are
taken. -/
theorem outcome_eq_run (c : Client) (input : Input) (r : Reading) :
    c.outcome input r = c.state.run ((c.told input r).toList.map (·, r.now) ++
      if drops (c.hands? input r) r then [(.disconnected, r.now)] else []) := by
  rw [outcome, lose]
  cases c.told input r with
  | none =>
      cases drops (c.hands? input r) r with
      | false => rfl
      | true => rfl
  | some told =>
      cases drops (c.hands? input r) r with
      | false => rfl
      | true => rfl

theorem state_next (s : Step) (input : Input) (r : Reading) :
    (s.next input r).client.state = s.client.state.run (s.client.hearing input r) := by
  cases running : s.client.isRunning with
  | false =>
      rw [client_next_of_stopped running, hearing, running]
      rfl
  | true =>
      rw [(course_next running input r).state, hearing, if_pos running, State.run_concat,
        ← outcome_eq_run]
      rfl

theorem state_foldl (s : Step) (inputs : List (Input × Reading)) :
    (inputs.foldl (fun s i => s.next i.1 i.2) s).client.state =
      s.client.state.run (s.heard inputs) := by
  induction inputs generalizing s with
  | nil => rfl
  | cons i rest ih =>
      rw [List.foldl_cons, ih, state_next, heard, State.run, State.run, State.run,
        List.foldl_append]

end Step

/-- The conversation of a client goes through a run of its own. -/
theorem state_run (c : Client) (inputs : List (Input × Reading)) :
    (c.run inputs).client.state = c.state.run (({ client := c } : Step).heard inputs) :=
  Step.state_foldl { client := c } inputs

/-- In every run only the message in progress is incomplete, and what is gathered is text. -/
theorem sound_run (session mode : String) (interval : Nat) (backoff : Backoff)
    (inputs : List (Input × Reading)) :
    ((initial session mode interval backoff).start.run inputs).client.state.feed.Sound := by
  rw [state_run]
  exact State.sound_run session interval _

end StreamingChat.Client
