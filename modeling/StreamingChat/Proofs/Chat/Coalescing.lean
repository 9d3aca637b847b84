import StreamingChat.Proofs.Chat.Flushing
import StreamingChat.Proofs.Chat.Ledger

/-!
# Gathering leaves no trace

A conversation that gathers its text is held against the one that writes every chunk at once.  The
two keep in step: flushed, the transcript of the first is that of the second up to made-up ids and
times, and apart from the feed, the count of revisions and the mark of a change the two are equal.
So it does not matter when gathered text was shown, and none of it is lost or shown twice.
-/

namespace StreamingChat.Chat

open StreamingChat.Calendar (Instant Moment)
open StreamingChat.Chat.Transcript (Alike)
open StreamingChat.Wire

namespace Feed

/-- A feed that gathers, and one that never does: flushed, the first holds what the second does. -/
structure Refines (f d : Feed) : Prop where
  coherent : f.Coherent
  ungathered : d.gathered = none
  alike : ∀ clock, Alike (f.flush clock).transcript d.transcript

namespace Refines

variable {f d : Feed}

theorem of_alike (idle : f.gathered = none) (ungathered : d.gathered = none)
    (alike : Alike f.transcript d.transcript) : Refines f d where
  coherent := coherent_of_none idle
  ungathered := ungathered
  alike clock := by
    rw [transcript_flush_of_none idle]
    exact alike

theorem push (refines : Refines f d) (fragment : Fragment) (now : Moment) :
    Refines (f.push fragment now).1
      { d with transcript := d.transcript.write fragment now.clock } where
  coherent := coherent_push refines.coherent fragment now
  ungathered := refines.ungathered
  alike clock :=
    (flush_push refines.coherent fragment now clock now.clock).trans
      ((refines.alike clock).write fragment now.clock now.clock)

theorem flush (refines : Refines f d) (clock : Instant) : Refines (f.flush clock) d :=
  of_alike (gathered_flush f clock) refines.ungathered (refines.alike clock)

theorem alike_close (refines : Refines f d) (clock : Instant) :
    Alike (f.close clock).transcript (d.close clock).transcript := by
  rw [Feed.close, Feed.close]
  apply Alike.complete
  rw [transcript_flush_of_none refines.ungathered]
  exact refines.alike clock

theorem close (refines : Refines f d) (clock : Instant) :
    Refines (f.close clock) (d.close clock) :=
  of_alike (gathered_flush f clock) (gathered_flush d clock) (refines.alike_close clock)

/-- A line said once the answer before it is closed. -/
theorem close_say (refines : Refines f d) (role : Role) (content : String) (clock : Instant) :
    Refines
      { f.close clock with transcript := (f.close clock).transcript.say role content clock }
      { d.close clock with transcript := (d.close clock).transcript.say role content clock } :=
  of_alike (gathered_flush f clock) (gathered_flush d clock)
    ((refines.alike_close clock).say role content clock clock)

end Refines

end Feed

namespace State

/-- The state without its feed, its count of revisions and its mark. -/
def aside (s : State) : State :=
  { s with feed := { interval := 0 }, revision := 0, isDirty := false }

theorem aside_eq_iff (s d : State) :
    s.aside = d.aside ↔
      s.session = d.session ∧ s.gate = d.gate ∧ s.activity = d.activity ∧
        s.isConnected = d.isConnected ∧ s.isProcessing = d.isProcessing ∧ s.error = d.error ∧
        s.stats = d.stats ∧ s.searchResults = d.searchResults := by
  simp [aside]

theorem aside_takeChanges (s : State) : s.takeChanges.1.aside = s.aside := by
  unfold takeChanges
  split
  · rfl
  · rfl

/-- A state that gathers its text, and one that writes it at once. -/
structure Refines (s d : State) : Prop where
  feed : s.feed.Refines d.feed
  aside : s.aside = d.aside

namespace Refines

variable {s d : State}

theorem session (refines : Refines s d) : s.session = d.session :=
  ((aside_eq_iff s d).mp refines.aside).1

theorem pushChunk (refines : Refines s d) (text : String) (origin : Origin) (now : Moment) :
    Refines (s.pushChunk text origin now) (d.writeChunk text origin now) :=
  ⟨refines.feed.push ⟨text, origin⟩ now, refines.aside⟩

theorem flushDue (refines : Refines s d) (now : Moment) : Refines (s.flushDue now) d := by
  unfold State.flushDue
  split
  · exact ⟨refines.feed.flush now.clock, refines.aside⟩
  · exact refines

theorem finish (refines : Refines s d) (now : Moment) :
    Refines (s.finish now) (d.finish now) :=
  ⟨refines.feed.close now.clock,
    congrArg (fun a : State => { a with isProcessing := false }) refines.aside⟩

theorem fail (refines : Refines s d) (message : Option String) (now : Moment) :
    Refines (s.fail message now) (d.fail message now) :=
  ⟨refines.feed.close_say .system (errorText message) now.clock,
    congrArg (fun a : State =>
      { a with error := some (errorText message), isProcessing := false }) refines.aside⟩

theorem replay (refines : Refines s d) (entries : List Value) (now : Moment) :
    Refines (s.replay entries now) (d.replay entries now) :=
  ⟨.of_alike rfl rfl (.replay _ _ _ _ _),
    congrArg (fun a : State => { a with session := a.session.historyLoaded }) refines.aside⟩

/-- A request meets the same gate on both sides. -/
theorem offer (refines : Refines s d) (request : Approval.Request) :
    Refines (s.offer request).1 (d.offer request).1 ∧
      (s.offer request).2 = (d.offer request).2 := by
  have gate : s.gate = d.gate := ((aside_eq_iff s d).mp refines.aside).2.1
  unfold State.offer
  rw [gate]
  split
  · rename_i gate _
    exact ⟨⟨refines.feed, congrArg (fun a : State => { a with gate }) refines.aside⟩, rfl⟩
  · rename_i gate id _
    exact ⟨⟨refines.feed, congrArg (fun a : State => { a with gate }) refines.aside⟩, rfl⟩

/-- Every frame but a chunk does the same on both sides. -/
theorem dispatch (refines : Refines s d) (frame : Inbound) (now : Moment)
    (notChunk : ∀ text origin, frame ≠ .chunk (some text) origin) :
    Refines (s.dispatch frame now).1 (d.dispatch frame now).1 ∧
      (s.dispatch frame now).2 = (d.dispatch frame now).2 := by
  cases frame with
  | chunk text origin =>
      cases text with
      | none => exact ⟨refines, rfl⟩
      | some text => exact absurd rfl (notChunk text origin)
  | done => exact ⟨refines.finish now, rfl⟩
  | stopped => exact ⟨refines.finish now, rfl⟩
  | error message => exact ⟨refines.fail message now, rfl⟩
  | stats data =>
      exact ⟨⟨refines.feed,
        congrArg (fun a : State => { a with stats := some data }) refines.aside⟩, rfl⟩
  | searchResults data =>
      exact ⟨⟨refines.feed,
        congrArg (fun a : State => { a with searchResults := data }) refines.aside⟩, rfl⟩
  | activity update =>
      exact ⟨⟨refines.feed, congrArg (fun a : State =>
        { a with activity := a.activity.upsert update }) refines.aside⟩, rfl⟩
  | confirmation request => exact refines.offer request
  | history entries session =>
      unfold State.dispatch
      simp only [refines.session]
      split
      · exact ⟨refines.replay entries now, rfl⟩
      · exact ⟨refines, rfl⟩
  | status => exact ⟨refines, rfl⟩
  | sessionChanged session => exact ⟨refines, rfl⟩
  | downloadProgress data => exact ⟨refines, rfl⟩
  | unknown => exact ⟨refines, rfl⟩

theorem refuse (refines : Refines s d) (text : String) :
    Refines (s.refuse text) (d.refuse text) :=
  ⟨refines.feed, congrArg (fun a : State =>
    { a with
      error := some undecodableMessage
      session :=
        if claimsHistory text && a.session.loading then a.session.historyLoaded
        else a.session }) refines.aside⟩

/-- A text from the backend: a chunk is gathered on one side and written on the other, anything
else is taken alike. -/
theorem received (refines : Refines s d) (text : String) (now : Moment) :
    Refines (s.step (.received text) now).1 (d.stepDirectly (.received text) now).1 ∧
      (s.step (.received text) now).2 = (d.stepDirectly (.received text) now).2 := by
  cases read : Inbound.read? text with
  | none =>
      simp only [step, stepDirectly, receive, read]
      exact ⟨refines.refuse text, trivial⟩
  | some frame =>
      by_cases chunk : ∃ piece origin, frame = .chunk (some piece) origin
      · obtain ⟨piece, origin, rfl⟩ := chunk
        simp only [step, stepDirectly, receive, read, State.dispatch]
        exact ⟨refines.pushChunk piece origin now, trivial⟩
      · have direct : d.stepDirectly (.received text) now = d.receive text now := by
          simp only [stepDirectly, read]
          split
          · rename_i piece origin found
            exact absurd ⟨piece, origin, Option.some.inj found⟩ chunk
          · rfl
        rw [direct]
        simp only [step, receive, read]
        exact refines.dispatch frame now fun piece origin found => chunk ⟨piece, origin, found⟩

/-- One input keeps the two in step, and asks for the same effects on both sides. -/
theorem step (refines : Refines s d) (input : Input) (now : Moment) :
    Refines (s.step input now).1 (d.stepDirectly input now).1 ∧
      (s.step input now).2 = (d.stepDirectly input now).2 := by
  cases input with
  | received text => exact refines.received text now
  | flushDue => exact ⟨refines.flushDue now, rfl⟩
  | opened =>
      have session := refines.session
      refine ⟨⟨refines.feed, ?_⟩, ?_⟩
      · exact congrArg (fun a : State =>
          { a with session := a.session.opened.1, isConnected := true }) refines.aside
      · exact congrArg (fun session : Session => sends session.opened.2) session
  | disconnected =>
      exact ⟨⟨refines.feed.close now.clock, congrArg (fun a : State =>
        { a with
          session := a.session.disconnected
          isConnected := false
          isProcessing := false }) refines.aside⟩, rfl⟩
  | ended =>
      exact ⟨⟨refines.feed.close now.clock, congrArg (fun a : State =>
        { a with isConnected := false, isProcessing := false }) refines.aside⟩, rfl⟩
  | turn content =>
      exact ⟨⟨refines.feed.close_say .user content now.clock, congrArg (fun a : State =>
        { a with isProcessing := true, error := none, activity := {} }) refines.aside⟩, rfl⟩
  | switched session connected =>
      exact ⟨⟨.of_alike rfl rfl (.clear _ _), congrArg (fun a : State =>
        { a with
          session := (a.session.switch session connected).1
          gate := {}
          activity := {}
          searchResults := []
          isProcessing := false
          error := none }) refines.aside⟩, rfl⟩
  | answered request approved remember =>
      exact ⟨⟨refines.feed, congrArg (fun a : State =>
        { a with gate := a.gate.resolve request approved remember }) refines.aside⟩, rfl⟩
  | takeChanges =>
      refine ⟨⟨?_, ?_⟩, rfl⟩
      · change s.takeChanges.1.feed.Refines d.takeChanges.1.feed
        rw [feed_takeChanges, feed_takeChanges]
        exact refines.feed
      · change s.takeChanges.1.aside = d.takeChanges.1.aside
        rw [aside_takeChanges, aside_takeChanges]
        exact refines.aside

theorem run (refines : Refines s d) (inputs : List (Input × Moment)) :
    Refines (s.run inputs) (d.runDirectly inputs) := by
  induction inputs generalizing s d with
  | nil => exact refines
  | cons head rest ih => exact ih (refines.step head.1 head.2).1

theorem initial (session : String) (interval : Nat) :
    Refines (.initial session interval) (.initial session interval) :=
  ⟨.of_alike rfl rfl (Alike.refl _), rfl⟩

end Refines

/-- What the messages say once the gathered text is shown. -/
def bodies (s : State) (clock : Instant) : List Message.Body :=
  (s.feed.flush clock).transcript.visible.map Message.body

theorem Refines.bodies_eq {s d : State} (refines : Refines s d) (clock : Instant) :
    s.bodies clock = d.feed.transcript.visible.map Message.body :=
  (refines.feed.alike clock).visible

/-- The text of messages is read off what they say. -/
theorem text_eq_of_bodies {t u : Transcript}
    (same : t.visible.map Message.body = u.visible.map Message.body) : t.text = u.text := by
  have read (v : Transcript) :
      v.text = (v.visible.map Message.body).flatMap (·.content.toList) := by
    rw [List.flatMap_map]
    rfl
  rw [read t, read u, same]

/-- Gathering text is invisible in the result.  After any inputs at any moments the messages, with
the gathered text shown, say what they say when every chunk is written at once, and all else is
equal; erasing the deadlines that passed changes nothing; and the text that the messages hold is
the text that was said, once and in order, since the last history or switch of the session. -/
theorem gathering_invisible (session : String) (interval : Nat)
    (inputs : List (Input × Moment)) (clock : Instant) :
    ((initial session interval).run inputs).bodies clock =
        ((initial session interval).runDirectly inputs).feed.transcript.visible.map Message.body ∧
      ((initial session interval).run inputs).aside =
        ((initial session interval).runDirectly inputs).aside ∧
      ((initial session interval).run (inputs.filter (·.1 ≠ .flushDue))).bodies clock =
        ((initial session interval).run inputs).bodies clock ∧
      (((initial session interval).run inputs).feed.flush clock).transcript.text =
        (Ledger.enterAll { session } inputs).text := by
  have start := Refines.initial session interval
  have whole := start.run inputs
  have erased := start.run (inputs.filter (·.1 ≠ .flushDue))
  refine ⟨whole.bodies_eq clock, whole.aside, ?_, ?_⟩
  · rw [erased.bodies_eq clock, whole.bodies_eq clock, runDirectly_erase_flushes]
  · have ledger := (Kept.initial session interval).run inputs
    rw [← ledger.text]
    exact text_eq_of_bodies (whole.bodies_eq clock)

end State

end StreamingChat.Chat
