import StreamingChat.Proofs.Client.Course

/-!
# Commands are all or nothing

A command that sends a frame ends in one of three ways.  Without an open link it is refused and
nothing else happens.  If its frame is not taken, the link is lost and the conversation is left as
by any loss of the link: nothing of the command is recorded.  If its frame is taken, the record is
made on top of what was there.  So the turns that the transport took are the turns that were
recorded.
-/

namespace StreamingChat.Chat

open StreamingChat.Calendar (Instant Moment)

namespace Transcript

/-- The turns of the user among the messages. -/
def turns (t : Transcript) : List Message :=
  t.visible.filter (·.role == .user)

variable {t : Transcript}

/-- The message in progress is no turn of the user. -/
theorem Sound.turns (sound : t.Sound) : t.turns = t.committed.filter (·.role == .user) := by
  rw [Transcript.turns, visible, List.filter_append]
  cases open_ : t.inProgress with
  | none => exact List.append_nil _
  | some m =>
      have other : (m.role == .user) = false := by
        rw [(sound.inProgress m open_).role]
        rfl
      have dropped : [m].filter (·.role == .user) = [] :=
        List.filter_cons_of_neg (by rw [other]; exact Bool.false_ne_true)
      rw [Option.toList_some, dropped, List.append_nil]

theorem Sound.turns_complete (sound : t.Sound) : t.complete.turns = t.turns := by
  have committed : t.complete.committed =
      t.committed ++ (t.inProgress.map completed).toList := rfl
  rw [sound.complete.turns, sound.turns, committed, List.filter_append]
  cases open_ : t.inProgress with
  | none => exact List.append_nil _
  | some m =>
      have other : ((completed m).role == .user) = false := by
        rw [completed, (sound.inProgress m open_).role]
        rfl
      have dropped : [completed m].filter (·.role == .user) = [] :=
        List.filter_cons_of_neg (by rw [other]; exact Bool.false_ne_true)
      rw [Option.map_some, Option.toList_some, dropped, List.append_nil]

theorem turns_say (closed : t.inProgress = none) (content : String) (clock : Instant) :
    (t.say .user content clock).turns.map (·.content) = t.turns.map (·.content) ++ [content] := by
  unfold turns say
  rw [visible_issue, visible_push _ _ closed, List.filter_append, List.map_append]
  rfl

end Transcript

/-- Showing what is gathered adds no turn. -/
theorem Feed.Sound.turns_flush {f : Feed} (sound : f.Sound) (clock : Instant) :
    (f.flush clock).transcript.turns = f.transcript.turns := by
  rw [(sound.transcript_flush clock).turns]
  cases gathered : f.gathered with
  | none =>
      rw [transcript_flush_of_none gathered]
      exact sound.transcript.turns.symm
  | some fragment =>
      cases open_ : f.transcript.inProgress with
      | none =>
          rw [transcript_flush_start gathered open_, ← sound.transcript.turns_complete]
          exact sound.transcript.complete.turns.symm
      | some m =>
          rw [transcript_flush_append gathered open_]
          exact sound.transcript.turns.symm

theorem Feed.Sound.turns_close {f : Feed} (sound : f.Sound) (clock : Instant) :
    (f.close clock).transcript.turns = f.transcript.turns :=
  (sound.transcript_flush clock).turns_complete.trans (sound.turns_flush clock)

namespace State

/-- The turns of the user that are shown. -/
def turns (s : State) : List Message :=
  s.feed.transcript.turns

/-- A turn that an input records: what it says, and the session that is current. -/
def recording? (s : State) : Input → Option (String × String)
  | .turn content => some (content, s.session.current)
  | _ => none

/-- The turns that are recorded in inputs, one after the other. -/
def recorded (s : State) : List (Input × Moment) → List (String × String)
  | [] => []
  | i :: rest => (s.recording? i.1).toList ++ (s.step i.1 i.2).1.recorded rest

theorem recorded_append (s : State) (inputs more : List (Input × Moment)) :
    s.recorded (inputs ++ more) = s.recorded inputs ++ (s.run inputs).recorded more := by
  induction inputs generalizing s with
  | nil => rfl
  | cons i rest ih =>
      rw [List.cons_append, recorded, ih, recorded, List.append_assoc]
      rfl

theorem turns_takeChanges (s : State) : s.takeChanges.1.turns = s.turns :=
  congrArg (·.transcript.turns) s.feed_takeChanges

theorem turns_recordTurn {s : State} (sound : s.feed.Sound) (content : String) (now : Moment) :
    (s.recordTurn content now).turns.map (·.content) = s.turns.map (·.content) ++ [content] :=
  (Transcript.turns_say rfl content now.clock).trans
    (congrArg (·.map (·.content) ++ [content]) (sound.turns_close now.clock))

end State

end StreamingChat.Chat

namespace StreamingChat.Client

open StreamingChat.Calendar (Moment)
open StreamingChat.Chat
open StreamingChat.Link
open StreamingChat.Wire

/-! ## The ends of a command -/

/-- What a command records of its frame once that was taken.  Pointing at a session and shutting
down do not wait for the transport. -/
def Command.record? (command : Command) (now : Moment) : Option (State → State) :=
  match command with
  | say request => some (·.recordTurn request.message now)
  | stop | stats => some id
  | answer request approved remember => some (·.resolve request approved remember)
  | setSession _ | shutDown => none

/-- The turn that a command takes. -/
def Command.turn? : Command → Option String
  | say request => some request.message
  | _ => none

/-- The frames that the transport takes in an input. -/
def accepts (c : Client) (input : Input) (r : Reading) : List Outbound :=
  if r.sink.isOk then (c.step input r).offered else []

/-- A command whose frame was not taken.  The link is lost, and nothing of the command is there. -/
structure Lost (s : Step) (command : Command) (fault : Fault) (r : Reading) (t : Step) : Prop where
  sink : r.sink = .error fault
  accepts : s.client.accepts (.command command) r = []
  state : t.client.state = (s.client.state.disconnected r.now).revised
  turns : t.client.state.turns = s.client.state.turns
  error : t.client.state.error = s.client.state.error
  activity : t.client.state.activity = s.client.state.activity
  gate : t.client.state.gate = s.client.state.gate
  connection : t.client.connection =
    { s.client.connection with
      phase := .waiting (r.now.tick +
        s.client.connection.backoff.delay s.client.connection.retries r.sample) }

/-- A command whose frame was taken.  The record is all that changes. -/
structure Taken (s : Step) (command : Command) (frame : Outbound) (record : State → State)
    (r : Reading) (t : Step) : Prop where
  sink : r.sink = .ok ()
  accepts : s.client.accepts (.command command) r = [frame]
  state : t.client.state = (record s.client.state).takeChanges.1
  turns : t.client.state.turns.map (·.content) =
    s.client.state.turns.map (·.content) ++ command.turn?.toList
  connection : t.client.connection = s.client.connection

/-- The answer to a command that sends a frame, and what it comes to. -/
inductive Settles (s : Step) (command : Command) (frame : Outbound) (record : State → State)
    (r : Reading) : Except Refusal Unit → Step → Prop where
  | stopped {t : Step} (stopped : s.client.isRunning = false)
      (kept : t = s.did (.replied (.error .shutDown))) :
      Settles s command frame record r (.error .shutDown) t
  | refused {t : Step} (closed : s.client.connection.isOpen = false)
      (kept : t = s.did (.replied (.error .notConnected))) :
      Settles s command frame record r (.error .notConnected) t
  | lost (fault : Fault) {t : Step} (lost : Lost s command fault r t) :
      Settles s command frame record r (.error (.transport fault)) t
  | taken {t : Step} (taken : Taken s command frame record r t) :
      Settles s command frame record r (.ok ()) t

namespace Step

variable {s : Step} {command : Command} {record : State → State} {r : Reading} {first : Snapshot}

/-- Commands that send a frame do so in one way. -/
theorem carryOut_of_record (sends : command.record? r.now = some record) :
    ∃ frame, s.client.asking? command = some frame ∧
      s.carryOut command r = s.sendThen frame record r := by
  cases command with
  | say request =>
      cases sends
      exact ⟨_, rfl, rfl⟩
  | stop =>
      cases sends
      exact ⟨_, rfl, rfl⟩
  | stats =>
      cases sends
      exact ⟨_, rfl, rfl⟩
  | setSession session => cases sends
  | answer request approved remember =>
      cases sends
      exact ⟨_, rfl, rfl⟩
  | shutDown => cases sends

theorem turns_record {state : State} (sound : state.feed.Sound)
    (sends : command.record? r.now = some record) :
    (record state).turns.map (·.content) =
      state.turns.map (·.content) ++ command.turn?.toList := by
  cases command with
  | say request =>
      cases sends
      exact State.turns_recordTurn sound request.message r.now
  | stop =>
      cases sends
      exact (List.append_nil _).symm
  | stats =>
      cases sends
      exact (List.append_nil _).symm
  | setSession session => cases sends
  | answer request approved remember =>
      cases sends
      exact (List.append_nil _).symm
  | shutDown => cases sends

/-- What a client offers in one input by itself. -/
theorem offered_step (c : Client) (input : Input) (r : Reading) :
    (c.step input r).offered = (c.hands? input r).toList := by
  cases running : c.isRunning with
  | false =>
      rw [hands_of_stopped running]
      unfold step next
      rw [if_neg (by rw [running]; exact Bool.false_ne_true)]
      split
      · rfl
      · rfl
  | true => exact (course_next (s := { client := c }) running input r).offered

theorem accepts_eq (c : Client) (input : Input) (r : Reading) :
    c.accepts input r = (if r.sink.isOk then c.hands? input r else none).toList := by
  rw [accepts, offered_step]
  split
  · rfl
  · rfl

theorem hands_of_asking (running : s.client.isRunning = true)
    (open_ : s.client.connection.isOpen = true) {frame : Outbound}
    (asks : s.client.asking? command = some frame) (r : Reading) :
    s.client.hands? (.command command) r = some frame := by
  rw [hands?, if_pos running]
  exact (if_pos open_).trans asks

/-- A client that runs carries out such a command, publishes and answers. -/
theorem next_of_sending (settled : s.Settled first) (running : s.client.isRunning = true)
    {frame : Outbound} (carried : s.carryOut command r = s.sendThen frame record r) :
    s.next (.command command) r =
      (s.sendThen frame record r).1.publish.did (.replied (s.sendThen frame record r).2) := by
  rw [settled.next_command, answering, if_pos running, commanded, carried]

theorem lost_next (settled : s.Settled first) (sound : s.client.state.feed.Sound)
    (running : s.client.isRunning = true) (open_ : s.client.connection.isOpen = true)
    {frame : Outbound} (carried : s.carryOut command r = s.sendThen frame record r)
    {fault : Fault} (lost : r.sink = .error fault) :
    Lost s command fault r (s.next (.command command) r) := by
  have next := next_of_sending settled running carried
  rw [sendThen, send_of_lost open_ lost] at next
  have state : (s.next (.command command) r).client.state =
      (s.client.state.disconnected r.now).revised := by
    have marked := congrArg Prod.fst (State.takeChanges_of_dirty
      (s := (s.losing frame r).client.state) rfl)
    rw [next]
    exact (state_publish (s.losing frame r)).trans marked
  exact {
    sink := lost
    accepts := by
      rw [accepts, lost]
      rfl
    state := state
    turns := by
      rw [state]
      exact sound.turns_close r.now.clock
    error := congrArg (·.error) state
    activity := congrArg (·.activity) state
    gate := congrArg (·.gate) state
    connection := by
      rw [next, ← Connection.schedule_of_unarmed (Connection.deadline_of_open open_)]
      exact connection_publish (s.losing frame r) }

theorem taken_next (settled : s.Settled first) (sound : s.client.state.feed.Sound)
    (sends : command.record? r.now = some record)
    (running : s.client.isRunning = true) (open_ : s.client.connection.isOpen = true)
    {frame : Outbound} (asks : s.client.asking? command = some frame)
    (carried : s.carryOut command r = s.sendThen frame record r) (taken : r.sink = .ok ()) :
    Taken s command frame record r (s.next (.command command) r) := by
  have next := next_of_sending settled running carried
  rw [sendThen, send_of_taken open_ taken] at next
  have state : (s.next (.command command) r).client.state =
      (record s.client.state).takeChanges.1 := by
    rw [next]
    exact state_publish ((s.did (.handed frame)).withState (record s.client.state))
  exact {
    sink := taken
    accepts := by
      rw [accepts_eq, taken, hands_of_asking running open_ asks]
      rfl
    state := state
    turns := by
      rw [state, State.turns_takeChanges]
      exact turns_record sound sends
    connection := by
      rw [next]
      exact connection_publish ((s.did (.handed frame)).withState (record s.client.state)) }

/-- A command that sends a frame ends in one of the ways. -/
theorem settles_next (settled : s.Settled first) (sound : s.client.state.feed.Sound)
    (sends : command.record? r.now = some record) :
    ∃ frame answer, s.client.asking? command = some frame ∧
      (s.next (.command command) r).reply = some answer ∧
      Settles s command frame record r answer (s.next (.command command) r) := by
  obtain ⟨frame, asks, carried⟩ := carryOut_of_record (s := s) sends
  cases running : s.client.isRunning with
  | false =>
      have next : s.next (.command command) r = s.did (.replied (.error .shutDown)) := by
        unfold next
        rw [running, if_neg Bool.false_ne_true]
      exact ⟨frame, .error .shutDown, asks, reply_next_of_stopped running command r,
        .stopped running next⟩
  | true =>
      have replied := reply_next_command running command r
      rw [carried] at replied
      cases open_ : s.client.connection.isOpen with
      | false =>
          have next := next_of_sending settled running carried
          rw [sendThen, send_of_closed open_] at replied next
          rw [publish_of_clean settled.clean] at next
          exact ⟨frame, .error .notConnected, asks, replied, .refused open_ next⟩
      | true =>
          cases answer : r.sink with
          | ok =>
              rw [sendThen, send_of_taken open_ answer] at replied
              exact ⟨frame, .ok (), asks, replied,
                .taken (taken_next settled sound sends running open_ asks carried answer)⟩
          | error fault =>
              rw [sendThen, send_of_lost open_ answer] at replied
              exact ⟨frame, .error (.transport fault), asks, replied,
                .lost fault (lost_next settled sound running open_ carried answer)⟩

end Step

/-! ## Turns that were taken and turns that were recorded -/

/-- What a turn says, and the session that it is for. -/
def turn? : Outbound → Option (String × String)
  | .turn turn => some (turn.message, turn.session)
  | .control _ => none

theorem turn_switch (session : Session) : session.opened.2.bind turn? = none := by
  unfold Session.opened
  split
  · rfl
  · rfl

/-- What is sent on account of a text is no turn. -/
theorem turn_heard {state : State} {loads : Bool} {next : State × List Effect}
    (heard : state.Heard loads next) : (frameOf? next.2).bind turn? = none := by
  cases heard with
  | loaded t session => rfl
  | silent t session => rfl
  | replied t session effect reply =>
      cases reply with
      | progress data => rfl
      | answer request approved => rfl

theorem bind_ite_none {α β : Type} {x : Option α} {f : α → Option β} (nothing : x.bind f = none)
    (condition : Bool) : (if condition then x else none).bind f = none := by
  cases condition with
  | true => exact nothing
  | false => rfl

/-- A command that takes a turn has its frame taken just when the turn is recorded. -/
theorem turn_say (c : Client) (request : Request) (r : Reading) :
    (if r.sink.isOk then (if c.connection.isOpen then c.asking? (.say request) else none)
      else none).bind turn? =
      (if c.delivers r then some (State.Input.turn request.message) else none).bind
        c.state.recording? := by
  rw [delivers]
  cases c.connection.isOpen with
  | false => exact bind_ite_none rfl r.sink.isOk
  | true =>
      rw [Bool.true_and]
      cases r.sink.isOk with
      | false => rfl
      | true => rfl

/-- A turn is taken in an input just when it is recorded in it. -/
theorem turn_taken {c : Client} (running : c.isRunning = true) (input : Input) (r : Reading) :
    (if r.sink.isOk then c.hands? input r else none).bind turn? =
      (c.told input r).bind c.state.recording? := by
  unfold hands? told
  rw [if_pos running, if_pos running]
  cases input with
  | command command =>
      cases command with
      | say request => exact turn_say c request r
      | stop => exact bind_ite_none (bind_ite_none rfl _) _
      | stats => exact bind_ite_none (bind_ite_none rfl _) _
      | setSession session => exact bind_ite_none (bind_ite_none rfl _) _
      | answer request approved remember =>
          exact (bind_ite_none (bind_ite_none rfl _) _).trans (bind_ite_none rfl _).symm
      | shutDown => exact bind_ite_none (bind_ite_none rfl _) _
  | attempted result =>
      cases result with
      | ok =>
          have switch := turn_switch c.state.session
          exact (bind_ite_none (bind_ite_none switch _) _).trans (bind_ite_none rfl _).symm
      | error fault => exact (bind_ite_none rfl _).trans (bind_ite_none rfl _).symm
  | timer => exact bind_ite_none rfl _
  | received item =>
      cases item with
      | text text =>
          have heard := turn_heard (State.heard_receive c.state r.now text)
          exact (bind_ite_none (bind_ite_none heard _) _).trans (bind_ite_none rfl _).symm
      | failed fault => exact (bind_ite_none rfl _).trans (bind_ite_none rfl _).symm
      | ended => exact (bind_ite_none rfl _).trans (bind_ite_none rfl _).symm
  | flush => exact bind_ite_none rfl _
  | abandoned => exact bind_ite_none rfl _

/-- Of what the conversation hears in an input only what it is told can be a turn. -/
theorem recorded_hearing {c : Client} (running : c.isRunning = true) (input : Input)
    (r : Reading) :
    c.state.recorded (c.hearing input r) =
      ((c.told input r).bind c.state.recording?).toList := by
  rw [hearing, if_pos running, List.append_assoc, State.recorded_append]
  -- A loss of the link and the taking of the changes record no turn.
  have rest : ∀ state : State, state.recorded
      ((if drops (c.hands? input r) r then [(State.Input.disconnected, r.now)] else []) ++
        [(.takeChanges, r.now)]) = [] := by
    intro state
    cases drops (c.hands? input r) r with
    | false => rfl
    | true => rfl
  rw [rest, List.append_nil]
  cases c.told input r with
  | none => rfl
  | some heard => exact List.append_nil _

theorem filterMap_turn (frame : Option Outbound) :
    frame.toList.filterMap turn? = (frame.bind turn?).toList := by
  cases frame with
  | none => rfl
  | some frame =>
      rw [Option.toList_some, Option.bind_some, List.filterMap_cons]
      cases turn? frame with
      | none => rfl
      | some turn => rfl

theorem recorded_next (c : Client) (input : Input) (r : Reading) :
    (c.accepts input r).filterMap turn? = c.state.recorded (c.hearing input r) := by
  rw [Step.accepts_eq, filterMap_turn]
  cases running : c.isRunning with
  | true => rw [turn_taken running, recorded_hearing running]
  | false =>
      rw [hands_of_stopped running, ite_self, hearing, running]
      rfl

/-- The frames that the transport takes in inputs, one after the other, over all links. -/
def Step.accepted (s : Step) : List (Input × Reading) → List Outbound
  | [] => []
  | i :: rest => s.client.accepts i.1 i.2 ++ (s.next i.1 i.2).accepted rest

/-- The turns that were taken are the turns that were recorded. -/
theorem Step.recorded_heard (s : Step) (inputs : List (Input × Reading)) :
    (s.accepted inputs).filterMap turn? = s.client.state.recorded (s.heard inputs) := by
  induction inputs generalizing s with
  | nil => rfl
  | cons i rest ih =>
      rw [accepted, List.filterMap_append, ih, recorded_next, heard, State.recorded_append,
        state_next]

/-- Commands that send a frame are all or nothing.  After every run, such a command ends in one of
the ways of `Settles`: refused, it leaves everything as it was; without its frame taken, it leaves
what a loss of the link leaves; and with its frame taken, it adds its record.  Over the whole run,
the turns that the transport took are the turns that the conversation went through, in order, with
what they say and the session that was current. -/
theorem commands_all_or_nothing (session mode : String) (interval : Nat) (backoff : Backoff)
    (inputs : List (Input × Reading)) :
    let c := (initial session mode interval backoff).start
    let s := c.run inputs
    let heard := ({ client := c } : Step).heard inputs
    (∀ command record r, Command.record? command r.now = some record →
      ∃ frame answer, s.client.asking? command = some frame ∧
        (s.next (.command command) r).reply = some answer ∧
        Settles s command frame record r answer (s.next (.command command) r)) ∧
      s.client.state = c.state.run heard ∧
      (({ client := c } : Step).accepted inputs).filterMap turn? = c.state.recorded heard := by
  intro c s heard
  refine ⟨?_, state_run c inputs, Step.recorded_heard _ inputs⟩
  intro command record r sends
  have settled := settled_run session mode interval backoff inputs
  exact Step.settles_next settled (sound_run session mode interval backoff inputs) sends

/-- A turn is taken, and the next one is lost together with the link. -/
def takenThenLost : List (Input × Reading) :=
  [(.attempted (.ok ()), calm), (.command (.say { message := "hi" }), calm),
    (.command (.say { message := "again" }), { calm with sink := .error .closed })]

theorem commands_all_or_nothing_of_lost :
    let before := fresh.run takenThenLost.dropLast
    let s := fresh.run takenThenLost
    (before.client.state.isProcessing = true ∧
      Lost before (.say { message := "again" }) .closed { calm with sink := .error .closed } s) ∧
      s.next (.command .stop) calm = s.did (.replied (.error .notConnected)) ∧
      s.client.state.turns.map (·.content) = ["hi"] ∧
      (({ client := fresh } : Step).accepted takenThenLost).filterMap turn? =
        [("hi", "default")] := by
  intro before s
  have first :=
    commands_all_or_nothing "default" "chat" 50 ⟨1, 1, 0.0⟩ takenThenLost.dropLast
  have second := commands_all_or_nothing "default" "chat" 50 ⟨1, 1, 0.0⟩ takenThenLost
  refine ⟨⟨rfl, ?_⟩, ?_, rfl, second.2.2.trans rfl⟩
  · obtain ⟨frame, answer, -, replied, settles⟩ :=
      first.1 (.say { message := "again" }) _ { calm with sink := .error .closed } rfl
    have reply : s.reply = some (.error (.transport .closed)) := rfl
    cases replied.symm.trans reply
    cases settles with
    | lost fault lost => exact lost
  · obtain ⟨frame, answer, -, replied, settles⟩ := second.1 .stop _ calm rfl
    have reply : (s.next (.command .stop) calm).reply = some (.error .notConnected) := rfl
    cases replied.symm.trans reply
    cases settles with
    | refused closed kept => exact kept

end StreamingChat.Client
