import Mathlib.Data.List.Induction
import StreamingChat.Proofs.Chat.Consent
import StreamingChat.Proofs.Client.Course

/-!
# Tools are approved without asking by consent only

Of its own accord a client answers nothing but requests for remembered tools, and those it approves.
What its gate holds rests on what has happened to the requests of the session, whatever happened to
the link, so a remembered tool was approved for good since the last switch, and it stays remembered
until the next one.
-/

namespace StreamingChat.Chat.State

open StreamingChat.Calendar (Moment)

variable {s t : State}

theorem Follows.gate (follows : s.Follows t) : t.gate = s.gate := by
  induction follows with
  | same => rfl
  | disconnected _ _ ih => exact ih
  | takeChanges _ ih => exact (gate_takeChanges _).trans ih

theorem gate_hear (s : State) (told : Option Input) (now : Moment) :
    (s.hear told now).gate = (told.bind s.occurrence?).elim s.gate s.gate.after := by
  cases told with
  | none => rfl
  | some input => exact gate_step s input now

end StreamingChat.Chat.State

namespace StreamingChat.Link.Connection

/-- A link that was attempted does not yield a text. -/
theorem no_text_of_attempted (c : Connection) (result : Except Fault Unit) (r : Reading)
    (text : String) : (c.attempted result r).2 ≠ some (.frame text) := by
  unfold attempted
  split
  · cases result with
    | ok =>
        intro same
        cases same
    | error fault =>
        intro same
        cases same
  · intro same
    cases same

/-- A text that is told is the one that the link yielded. -/
theorem text_of_received {c : Connection} {item : Received} {r : Reading} {text : String}
    (told : (c.received item r).2 = some (.frame text)) : item = .text text := by
  unfold received at told
  split at told
  · cases item with
    | text yielded =>
        cases told
        rfl
    | failed fault => cases told
    | ended => cases told
  · cases told

end StreamingChat.Link.Connection

namespace StreamingChat.Client

open StreamingChat.Chat
open StreamingChat.Link
open StreamingChat.Wire

/-- What an input means for the requests of the session. -/
def occurrence? (c : Client) (input : Input) (r : Reading) : Option Approval.Occurrence :=
  (c.told input r).bind c.state.occurrence?

namespace Step

variable {s : Step} {r : Reading}

/-- What inputs mean for the requests, one after the other. -/
def occurrences (s : Step) : List (Input × Reading) → List Approval.Occurrence
  | [] => []
  | i :: rest => (s.client.occurrence? i.1 i.2).toList ++ (s.next i.1 i.2).occurrences rest

theorem occurrences_concat (s : Step) (inputs : List (Input × Reading)) (input : Input)
    (r : Reading) :
    s.occurrences (inputs ++ [(input, r)]) =
      s.occurrences inputs ++
        ((inputs.foldl (fun s i => s.next i.1 i.2) s).client.occurrence? input r).toList := by
  induction inputs generalizing s with
  | nil => exact List.append_nil _
  | cons i rest ih =>
      rw [List.cons_append, occurrences, ih, ← List.append_assoc]
      rfl

/-- The gate changes only by what an input means for it. -/
theorem gate_next (s : Step) (input : Input) (r : Reading) :
    (s.next input r).client.state.gate =
      (s.client.occurrence? input r).elim s.client.state.gate s.client.state.gate.after := by
  have heard := State.gate_hear s.client.state (s.client.told input r) r.now
  exact (follows_next s input r).gate.trans heard

/-! ## The answers that are handed over -/

/-- A command makes a client hand over an answer only if it gives that answer. -/
theorem answer_of_carryOut {id : String} {approved : Bool} {command : Command}
    (offered : .answer id approved ∈ (s.carryOut command r).1.offered) :
    .answer id approved ∈ s.offered ∨ ∃ remember, command = .answer id approved remember := by
  cases command with
  | say request =>
      rcases mem_offered_sendThen offered with old | same
      · exact .inl old
      · cases same
  | stop =>
      rcases mem_offered_sendThen offered with old | same
      · exact .inl old
      · cases same
  | stats =>
      rcases mem_offered_sendThen offered with old | same
      · exact .inl old
      · cases same
  | setSession session =>
      rcases mem_offered_become offered with old | effect
      · exact .inl old
      · cases open_ : s.client.connection.isOpen with
        | true =>
            rw [open_] at effect
            cases List.mem_singleton.mp effect
        | false =>
            rw [open_] at effect
            cases effect
  | answer request consent remember =>
      rcases mem_offered_sendThen offered with old | same
      · exact .inl old
      · cases same
        exact .inr ⟨remember, rfl⟩
  | shutDown => exact .inl offered

/-- What happened on the link makes a client hand over an answer only as an effect of a text. -/
theorem answer_of_linkEvent {id : String} {approved : Bool} {event : Event}
    (offered : .answer id approved ∈ (s.linkEvent event r).offered) :
    .answer id approved ∈ s.offered ∨
      ∃ text, event = .frame text ∧
        .send (.answer id approved) ∈ (s.client.state.receive text r.now).2 := by
  cases event with
  | opened =>
      rcases mem_offered_become offered with old | effect
      · exact .inl old
      · change _ ∈ State.sends s.client.state.session.opened.2 at effect
        cases owed : s.client.state.session.owed with
        | true =>
            rw [Session.opened_of_owed owed] at effect
            cases List.mem_singleton.mp effect
        | false =>
            rw [Session.opened_of_not_owed owed] at effect
            cases effect
  | frame text =>
      rcases mem_offered_become offered with old | effect
      · exact .inl old
      · exact .inr ⟨text, rfl, effect⟩
  | lost fault retryIn =>
      rcases mem_offered_become offered with old | effect
      · exact .inl old
      · cases effect

theorem answer_of_link {id : String} {approved : Bool} {next : Connection × Option Event}
    (offered : .answer id approved ∈ (s.link next r).offered) :
    .answer id approved ∈ s.offered ∨
      ∃ text, next.2 = some (.frame text) ∧
        .send (.answer id approved) ∈ (s.client.state.receive text r.now).2 := by
  obtain ⟨connection, event⟩ := next
  cases event with
  | none => exact .inl offered
  | some event =>
      rcases answer_of_linkEvent offered with old | ⟨text, rfl, effect⟩
      · rw [offered_did] at old
        rcases List.mem_append.mp old with before | learned
        · exact .inl before
        · cases learned
      · exact .inr ⟨text, rfl, effect⟩

end Step

/-- An answer that is handed over without the command to give it is an effect of a text. -/
theorem answer_of_step {c : Client} {input : Input} {r : Reading} {id : String} {approved : Bool}
    (offered : .answer id approved ∈ (c.step input r).offered) :
    (∃ remember, input = .command (.answer id approved remember)) ∨
      ∃ text, input = .received (.text text) ∧
        .send (.answer id approved) ∈ (c.state.receive text r.now).2 := by
  let s : Step := { client := c }
  have nothing : .answer id approved ∉ s.offered := List.not_mem_nil
  cases running : c.isRunning with
  | false =>
      have quiet : (s.next input r).offered = [] := by
        unfold Step.next
        rw [running, if_neg Bool.false_ne_true]
        split
        · rfl
        · rfl
      rw [step, quiet] at offered
      cases offered
  | true =>
      rw [step, Step.next_of_running running, Step.offered_publish] at offered
      cases input with
      | command command =>
          change _ ∈ ((s.commanded command r).1.did (.replied (s.commanded command r).2)).offered
            at offered
          rw [Step.offered_did] at offered
          have done := (List.mem_append.mp offered).resolve_right List.not_mem_nil
          rw [Step.commanded, Step.offered_publish] at done
          rcases Step.answer_of_carryOut done with old | ⟨remember, rfl⟩
          · exact absurd old nothing
          · exact .inl ⟨remember, rfl⟩
      | attempted result =>
          rcases Step.answer_of_link offered with old | ⟨text, frame, -⟩
          · exact absurd old nothing
          · exact absurd frame (c.connection.no_text_of_attempted result r text)
      | timer => exact absurd offered nothing
      | received item =>
          rcases Step.answer_of_link offered with old | ⟨text, frame, effect⟩
          · exact absurd old nothing
          · refine .inr ⟨text, ?_, effect⟩
            rw [Connection.text_of_received frame]
      | flush => exact absurd offered nothing
      | abandoned => exact absurd offered nothing

/-- An answer is told to the conversation just when its command is answered well. -/
theorem reply_answer (c : Client) (id : String) (approved remember : Bool) (r : Reading) :
    (c.step (.command (.answer id approved remember)) r).reply = some (.ok ()) ↔
      c.told (.command (.answer id approved remember)) r =
        some (.answered id approved remember) := by
  unfold told
  cases running : c.isRunning with
  | false =>
      rw [step, Step.reply_next_of_stopped running, if_neg Bool.false_ne_true]
      exact iff_of_false (fun same => by cases same) (fun same => by cases same)
  | true =>
      have sent := Step.sendThen_ok_iff { client := c } (.answer id approved)
        (·.resolve id approved remember) r
      rw [step, Step.reply_next_command running, if_pos rfl, Option.some_inj]
      refine sent.trans ?_
      cases c.delivers r with
      | true => exact iff_of_true rfl rfl
      | false => exact iff_of_false Bool.false_ne_true (fun same => by cases same)

/-! ## Runs -/

/-- What has happened to the requests in a run. -/
def occurrences (c : Client) (inputs : List (Input × Reading)) : List Approval.Occurrence :=
  ({ client := c } : Step).occurrences inputs

variable {c : Client} {inputs : List (Input × Reading)}

theorem restsOn_run (fresh : c.state.gate = {}) (inputs : List (Input × Reading)) :
    (c.run inputs).client.state.gate.RestsOn (c.occurrences inputs) := by
  induction inputs using List.reverseRecOn with
  | nil =>
      change c.state.gate.RestsOn []
      rw [fresh]
      exact Approval.Gate.restsOn_reset {} []
  | append_singleton inputs input ih =>
      obtain ⟨input, r⟩ := input
      have more : c.occurrences (inputs ++ [(input, r)]) =
          c.occurrences inputs ++ ((c.run inputs).client.occurrence? input r).toList :=
        Step.occurrences_concat _ inputs input r
      rw [run_concat, Step.gate_next, more]
      cases (c.run inputs).client.occurrence? input r with
      | none =>
          rw [Option.toList_none, List.append_nil]
          exact ih
      | some event => exact ih.after event

/-- Only being pointed at a session means a switch. -/
theorem occurrence?_eq_switched {input : Input} {r : Reading}
    (event : c.occurrence? input r = some .switched) :
    ∃ session, input = .command (.setSession session) := by
  obtain ⟨heard, told, means⟩ := Option.bind_eq_some_iff.mp event
  cases (tells_of_told told).2 with
  | switched session => exact ⟨session, rfl⟩
  | received text =>
      obtain ⟨request, -, same⟩ := Option.map_eq_some_iff.mp means
      cases same
  | turn request => cases means
  | answered request approved remember => cases means
  | shutDown => cases means
  | abandoned => cases means
  | opened => cases means
  | unreached fault => cases means
  | failed fault => cases means
  | ended => cases means
  | flush => cases means

theorem remembered_run {tool : String} {more : List (Input × Reading)}
    (remembered : (c.run inputs).client.state.gate.isRemembered tool = true)
    (stays : ∀ later ∈ more, ∀ session, later.1 ≠ .command (.setSession session)) :
    (c.run (inputs ++ more)).client.state.gate.isRemembered tool = true := by
  induction more using List.reverseRecOn with
  | nil =>
      rw [List.append_nil]
      exact remembered
  | append_singleton more last ih =>
      have before := ih fun later member => stays later (List.mem_append_left _ member)
      have kept := stays last (List.mem_append_right _ (List.mem_singleton_self _))
      rw [← List.append_assoc, run_concat, Step.gate_next]
      cases event : (c.run (inputs ++ more)).client.occurrence? last.1 last.2 with
      | none => exact before
      | some event =>
          refine Approval.Gate.isRemembered_after before ?_
          rintro rfl
          obtain ⟨session, switch⟩ := occurrence?_eq_switched event
          exact kept session switch

/-- A request for a remembered tool makes an open link carry its approval, and nothing else. -/
theorem offered_of_remembered {text : String} {request : Approval.Request}
    (asks : Inbound.read? text = some (.confirmation request))
    (remembered : c.state.gate.isRemembered request.tool = true) (running : c.isRunning = true)
    (open_ : c.connection.isOpen = true) (r : Reading) :
    (c.step (.received (.text text)) r).offered = [.answer request.id true] := by
  have received : c.connection.received (.text text) r = (c.connection, some (.frame text)) := by
    rw [Connection.received, open_]
    rfl
  have heard := State.receive_of_remembered asks remembered r.now
  rw [step, Step.next_of_running running, Step.offered_publish]
  change (Step.link _ (c.connection.received (.text text) r) r).offered = _
  rw [received]
  change (Step.become _ (c.state.receive text r.now) r).offered = _
  rw [heard]
  exact Step.offered_send_of_open open_ _ r

/-- A request for a remembered tool leaves the gate alone, also if its approval is lost. -/
theorem gate_of_remembered {text : String} {request : Approval.Request}
    (asks : Inbound.read? text = some (.confirmation request))
    (remembered : c.state.gate.isRemembered request.tool = true) (r : Reading) :
    (c.step (.received (.text text)) r).client.state.gate = c.state.gate := by
  have silent : c.state.shown? text = none := by
    unfold State.shown?
    rw [asks]
    simp only [Approval.Gate.offer_of_remembered remembered, reduceCtorEq, if_false]
  have nothing : c.occurrence? (.received (.text text)) r = none := by
    unfold occurrence? told
    cases c.isRunning with
    | false => rfl
    | true =>
        cases c.connection.isOpen with
        | false => rfl
        | true => exact congrArg (Option.map Approval.Occurrence.surfaced) silent
  rw [step, Step.gate_next, nothing]
  rfl

/-- A tool is approved without asking by consent only, and by consent always.  An answer that is
handed over without the command to give it approves a request for a tool that was approved for good
since the last switch.  As long as the session is not switched, every request for a remembered tool
has one effect, its own approval, and leaves the state alone; on an open link that approval is
handed over.  And an answer that was sent and approves the visible request for good makes its tool a
remembered one. -/
theorem approved_by_consent (session mode : String) (interval : Nat) (backoff : Backoff)
    (inputs : List (Input × Reading)) :
    let c := (initial session mode interval backoff).start
    let s := c.run inputs
    (∀ input r id approved, .answer id approved ∈ (s.client.step input r).offered →
      (∀ remember, input ≠ .command (.answer id approved remember)) →
        approved = true ∧ ∃ text request, input = .received (.text text) ∧
          Inbound.read? text = some (.confirmation request) ∧ request.id = id ∧
            Approval.Consented request.tool (c.occurrences inputs)) ∧
      (∀ tool more, s.client.state.gate.isRemembered tool = true →
        (∀ later ∈ more, ∀ session, later.1 ≠ .command (.setSession session)) →
          let t := (c.run (inputs ++ more)).client
          ∀ text request, Inbound.read? text = some (.confirmation request) →
            request.tool = tool →
              (∀ now, t.state.receive text now = (t.state, [.send (.answer request.id true)])) ∧
                (t.isRunning = true → t.connection.isOpen = true → ∀ r,
                  let u := t.step (.received (.text text)) r
                  u.offered = [.answer request.id true] ∧
                    u.client.state.gate = t.state.gate)) ∧
      ∀ request r, s.client.state.snapshot.pending = some request →
        let t := s.client.step (.command (.answer request.id true true)) r
        t.reply = some (.ok ()) → t.client.state.gate.isRemembered request.tool = true := by
  intro c s
  have rests : s.client.state.gate.RestsOn (c.occurrences inputs) := restsOn_run rfl inputs
  refine ⟨?_, ?_, ?_⟩
  · intro input r id approved offered unasked
    rcases answer_of_step offered with ⟨remember, asked⟩ | ⟨text, received, effect⟩
    · exact absurd asked (unasked remember)
    · obtain ⟨consent, request, asks, named, remembered⟩ := State.remembered_of_answer effect
      have member := List.contains_iff_mem.mp remembered
      exact ⟨consent, text, request, received, asks, named, rests.remembered request.tool member⟩
  · intro tool more known stays t text request asks wanted
    have remembered : t.state.gate.isRemembered request.tool = true := by
      rw [wanted]
      exact remembered_run known stays
    refine ⟨State.receive_of_remembered asks remembered, ?_⟩
    intro running open_ r
    exact ⟨offered_of_remembered asks remembered running open_ r,
      gate_of_remembered asks remembered r⟩
  · intro request r visible t sent
    have told := (reply_answer s.client request.id true true r).mp sent
    have answered : s.client.occurrence? (.command (.answer request.id true true)) r =
        some (.answered request.id true true) := by
      rw [occurrence?, told]
      rfl
    have gate : t.client.state.gate = s.client.state.gate.resolve request.id true true := by
      change (Step.next _ _ r).client.state.gate = _
      rw [Step.gate_next, answered]
      rfl
    rw [gate]
    exact Approval.Gate.isRemembered_resolve (rests.pending request visible)

/-- A request for a shell. -/
def shellRequest : String :=
  "\x7b\"type\":\"tool_confirmation_request\",\"data\":[\"r1\",\"shell\"]\x7d"

/-- Another request for a shell. -/
def shellAgain : String :=
  "\x7b\"type\":\"tool_confirmation_request\",\"data\":[\"r2\",\"shell\"]\x7d"

def shellConsent : Input := .command (.answer "r1" true true)

def shellAsked : List (Input × Reading) :=
  [(.attempted (.ok ()), calm), (.received (.text shellRequest), calm)]

def shellApproved : List (Input × Reading) :=
  shellAsked ++ [(shellConsent, calm)]

/-- The link is lost and opens again. -/
def reopening : List (Input × Reading) :=
  [(.received .ended, calm), (.timer, calm), (.attempted (.ok ()), calm)]

theorem approved_by_consent_of_shell :
    ((fresh.run shellAsked).client.step shellConsent calm).client.state.gate.isRemembered
        "shell" = true ∧
      Approval.Consented "shell" (fresh.occurrences shellApproved) ∧
        ((fresh.run (shellApproved ++ reopening)).client.step (.received (.text shellAgain))
          calm).offered = [.answer "r2" true] := by
  have asked := approved_by_consent "default" "chat" 50 ⟨1, 1, 0.0⟩ shellAsked
  have approved := approved_by_consent "default" "chat" 50 ⟨1, 1, 0.0⟩ shellApproved
  let first : Approval.Request := ⟨"r1", "shell", .null, none⟩
  let second : Approval.Request := ⟨"r2", "shell", .null, none⟩
  have visible : (fresh.run shellAsked).client.state.snapshot.pending = some first := rfl
  have sent : ((fresh.run shellAsked).client.step shellConsent calm).reply = some (.ok ()) := rfl
  have known : (fresh.run shellApproved).client.state.gate.isRemembered "shell" = true := by
    decide +kernel
  have reads : Inbound.read? shellAgain = some (.confirmation second) := rfl
  refine ⟨asked.2.2 first calm visible sent, ?_, ?_⟩
  · have running : (fresh.run shellApproved).client.isRunning = true := by decide +kernel
    have open_ : (fresh.run shellApproved).client.connection.isOpen = true := by decide +kernel
    have handed := offered_of_remembered reads known running open_ calm
    have own : .answer "r2" true ∈
        ((fresh.run shellApproved).client.step (.received (.text shellAgain)) calm).offered := by
      rw [handed]
      exact List.mem_singleton_self _
    obtain ⟨-, text, request, received, asks, -, consented⟩ :=
      approved.1 (.received (.text shellAgain)) calm "r2" true own
        (fun remember same => by cases same)
    cases received
    cases reads.symm.trans asks
    exact consented
  · have running : (fresh.run (shellApproved ++ reopening)).client.isRunning = true := by
      decide +kernel
    have open_ : (fresh.run (shellApproved ++ reopening)).client.connection.isOpen = true := by
      decide +kernel
    have stays : ∀ later ∈ reopening, ∀ session, later.1 ≠ .command (.setSession session) := by
      intro later member session
      rcases member with _ | ⟨_, _ | ⟨_, _ | ⟨_, member⟩⟩⟩
      · exact fun same => by cases same
      · exact fun same => by cases same
      · exact fun same => by cases same
      · cases member
    have honoured := approved.2.1 "shell" reopening known stays shellAgain second reads rfl
    exact (honoured.2 running open_ calm).1

end StreamingChat.Client
