import StreamingChat.Proofs.Chat.Away
import StreamingChat.Proofs.Chat.Marking
import StreamingChat.Proofs.Chat.OpenMessage

/-!
# Marks without a visible change

What changes visibly is marked, but not all that is marked changes visibly.  Some inputs mark the
state whatever they find: a loss of a link that is not there, a report that is already shown, an
error that is already shown, an answer to a request that is not the visible one.  These are all the
ways; every other input that marks the state changes what is seen.
-/

namespace StreamingChat.Chat

open StreamingChat.Calendar (Instant Moment)
open StreamingChat.Wire

/-! ## Messages that differ -/

namespace Transcript

theorem length_visible_complete (t : Transcript) :
    t.complete.visible.length = t.visible.length := by
  rw [length_visible, length_visible, complete, length, length, List.length_append]
  cases t.inProgress with
  | none => rfl
  | some m => rfl

theorem length_visible_startAnswer (t : Transcript) (text : String) (origin : Origin)
    (clock : Instant) :
    (t.startAnswer text origin clock).visible.length = t.visible.length + 1 := by
  rw [startAnswer, visible_issue, visible_start, List.length_append, length_visible_complete]
  rfl

theorem length_visible_append (t : Transcript) (text : String) (origin : Origin) :
    (t.append text origin).visible.length = t.visible.length := by
  rw [length_visible, length_visible, append, length, length]
  cases t.inProgress with
  | none => rfl
  | some m => rfl

theorem length_visible_say {t : Transcript} (closed : t.inProgress = none) (role : Role)
    (line : String) (clock : Instant) :
    (t.say role line clock).visible.length = t.visible.length + 1 := by
  rw [say, visible_issue, visible_push _ _ closed, List.length_append]
  rfl

end Transcript

namespace Feed

variable {f : Feed} {g : Fragment} {clock : Instant}

theorem length_visible_flush_le (f : Feed) (clock : Instant) :
    f.transcript.visible.length ≤ (f.flush clock).transcript.visible.length := by
  cases gathered : f.gathered with
  | none => exact Nat.le_of_eq (by rw [transcript_flush_of_none gathered])
  | some g =>
      cases open_ : f.transcript.inProgress with
      | none =>
          rw [transcript_flush_start gathered open_, Transcript.length_visible_startAnswer]
          exact Nat.le_add_right _ 1
      | some m =>
          have same := Transcript.length_visible_append f.transcript g.text g.origin
          rw [transcript_flush_append gathered open_]
          exact Nat.le_of_eq same.symm

theorem length_visible_close (f : Feed) (clock : Instant) :
    (f.close clock).transcript.visible.length = (f.flush clock).transcript.visible.length :=
  Transcript.length_visible_complete (f.flush clock).transcript

/-- Gathered text that is shown changes the messages. -/
theorem visible_flush_ne (sound : f.Sound) (gathered : f.gathered = some g) (clock : Instant) :
    (f.flush clock).transcript.visible ≠ f.transcript.visible := by
  intro same
  cases open_ : f.transcript.inProgress with
  | none =>
      have longer := Transcript.length_visible_startAnswer f.transcript g.text g.origin clock
      rw [← transcript_flush_start gathered open_ clock, same] at longer
      omega
  | some m =>
      rw [transcript_flush_append gathered open_, Transcript.append, Transcript.visible,
        Transcript.visible, open_] at same
      have last := List.append_cancel_left same
      have content : m.content ++ g.text = m.content :=
        congrArg Message.content (List.singleton_inj.mp last)
      exact sound.gathered g gathered (String.append_eq_left_iff.mp content)

/-- An open feed that is closed shows other messages. -/
theorem visible_close_ne (sound : f.Sound) (busy : f.isOpen = true) (clock : Instant) :
    (f.close clock).transcript.visible ≠ f.transcript.visible := by
  intro same
  cases open_ : f.transcript.inProgress with
  | some m =>
      -- The message in progress would be among those that are complete.
      have member : m ∈ (f.close clock).transcript.visible := by
        rw [same, Transcript.visible, open_]
        exact List.mem_append_right _ (List.mem_singleton.mpr rfl)
      rw [Transcript.visible, inProgress_close, Option.toList_none, List.append_nil] at member
      have complete := (sound.close clock).transcript.committed m member
      rw [(sound.transcript.inProgress m open_).incomplete] at complete
      cases complete
  | none =>
      have some_ : f.gathered.isSome = true := by
        rw [isOpen, open_] at busy
        exact (Bool.or_false _).symm.trans busy
      obtain ⟨g, gathered⟩ := Option.isSome_iff_exists.mp some_
      have longer := length_visible_close f clock
      rw [transcript_flush_start gathered open_, Transcript.length_visible_startAnswer,
        same] at longer
      omega

/-- A line that is added is seen. -/
theorem visible_say_ne (f : Feed) (role : Role) (line : String) (clock : Instant) :
    ((f.close clock).transcript.say role line clock).visible ≠ f.transcript.visible := by
  intro same
  have longer := Transcript.length_visible_say (inProgress_close f clock) role line clock
  have shorter := length_visible_flush_le f clock
  rw [same, length_visible_close] at longer
  omega

/-- A message that begins is seen. -/
theorem visible_push_ne {fragment : Fragment} {now : Moment}
    (begun : (f.push fragment now).2 = .newNode) :
    (f.push fragment now).1.transcript.visible ≠ f.transcript.visible := by
  intro same
  cases text : fragment.text.isEmpty with
  | true =>
      rw [push_of_isEmpty text] at begun
      cases begun
  | false =>
      cases differ : f.isNewNode fragment with
      | false =>
          rw [push_of_gather text differ] at begun
          cases begun
      | true =>
          obtain ⟨-, started, -⟩ := push_of_isNewNode text differ now
          have longer := Transcript.length_visible_startAnswer (f.flush now.clock).transcript
            fragment.text fragment.origin now.clock
          have shorter := length_visible_flush_le f now.clock
          rw [← started, same] at longer
          omega

end Feed

namespace State

variable {s t : State} {now : Moment}

/-! ## Frames -/

/-- A frame that marks the state and reports what is already shown. -/
inductive Restates (s : State) (now : Moment) : Inbound → Prop where
  | stats (data : Value) (shown : s.stats = some data) : Restates s now (.stats data)
  | searchResults (data : List Value) (shown : s.searchResults = data) :
      Restates s now (.searchResults data)
  | activity (update : Activity.Update)
      (shown : (s.activity.upsert update).rows = s.activity.rows) :
      Restates s now (.activity update)
  | confirmation (request : Approval.Request)
      (asked : s.gate.isRemembered request.tool = false) (shown : s.gate.pending = some request) :
      Restates s now (.confirmation request)
  | history (entries : List Value) (session : Option String)
      (accepted : s.session.accepts session = true) (came : s.session.loading = false)
      (shown : (s.feed.transcript.replay (entries.filterMap Entry.ofValue?) now.clock).visible =
        s.feed.transcript.visible) : Restates s now (.history entries session)

/-- A state that is marked although the same is seen of it as before. -/
structure Repeating (s t : State) : Prop where
  dirty : t.isDirty = true
  alike : t.snapshot.unnumbered = s.snapshot.unnumbered

theorem Repeating.not_of_clean (clean : t.isDirty = false) : ¬s.Repeating t := by
  intro repeating
  cases clean.symm.trans repeating.dirty

theorem Repeating.not_of_messages
    (differ : t.feed.transcript.visible ≠ s.feed.transcript.visible) : ¬s.Repeating t := by
  intro repeating
  exact differ (congrArg Snapshot.messages repeating.alike)

theorem Repeating.not_of_processing (differ : t.isProcessing ≠ s.isProcessing) :
    ¬s.Repeating t := by
  intro repeating
  exact differ (congrArg Snapshot.isProcessing repeating.alike)

theorem Repeating.not_of_connected (differ : t.isConnected ≠ s.isConnected) :
    ¬s.Repeating t := by
  intro repeating
  exact differ (congrArg Snapshot.isConnected repeating.alike)

/-- The end of an answer marks the state only if there is something to end. -/
theorem not_repeating_finish (clean : s.isDirty = false) (sound : s.feed.Sound) (now : Moment) :
    ¬s.Repeating (s.finish now) := by
  cases processing : s.isProcessing with
  | true =>
      refine Repeating.not_of_processing ?_
      rw [processing]
      exact Bool.false_ne_true
  | false =>
      cases busy : s.feed.isOpen with
      | true => exact Repeating.not_of_messages (Feed.visible_close_ne sound busy now.clock)
      | false =>
          refine Repeating.not_of_clean ?_
          simp only [finish, touchedIf, clean, busy, processing, Bool.or_false]

theorem not_repeating_pushChunk (clean : s.isDirty = false) (text : String) (origin : Origin)
    (now : Moment) : ¬s.Repeating (s.pushChunk text origin now) := by
  cases begun : (s.feed.push ⟨text, origin⟩ now).2 == Feed.Pushed.newNode with
  | true => exact Repeating.not_of_messages (Feed.visible_push_ne (beq_iff_eq.mp begun))
  | false =>
      refine Repeating.not_of_clean ?_
      simp only [pushChunk, touchedIf, clean, begun, Bool.or_false]

theorem not_repeating_flushDue (clean : s.isDirty = false) (sound : s.feed.Sound) (now : Moment) :
    ¬s.Repeating (s.flushDue now) := by
  unfold flushDue
  cases due : s.feed.isDue now.tick with
  | false => exact Repeating.not_of_clean clean
  | true =>
      cases gathered : s.feed.gathered with
      | none =>
          refine Repeating.not_of_clean ?_
          simp only [touchedIf, clean, Feed.hasGathered, gathered, Bool.false_or]
          rfl
      | some g =>
          exact Repeating.not_of_messages (Feed.visible_flush_ne sound gathered now.clock)

theorem repeating_offer (clean : s.isDirty = false) (request : Approval.Request) :
    s.Repeating (s.offer request).1 ↔
      s.gate.isRemembered request.tool = false ∧ s.gate.pending = some request := by
  unfold offer Approval.Gate.offer
  cases remembered : s.gate.isRemembered request.tool with
  | true =>
      refine iff_of_false (Repeating.not_of_clean clean) ?_
      rintro ⟨asked, -⟩
      cases asked
  | false =>
      rw [if_neg Bool.false_ne_true]
      constructor
      · intro repeating
        have pending : some request = s.gate.pending :=
          congrArg Snapshot.pending repeating.alike
        exact ⟨rfl, pending.symm⟩
      · rintro ⟨-, shown⟩
        refine ⟨rfl, ?_⟩
        simp only [snapshot, touched, shown, Snapshot.unnumbered]

theorem repeating_replay (entries : List Value) (now : Moment) :
    s.Repeating (s.replay entries now) ↔ s.session.loading = false ∧
      (s.feed.transcript.replay (entries.filterMap Entry.ofValue?) now.clock).visible =
        s.feed.transcript.visible := by
  constructor
  · intro repeating
    have came : false = s.session.loading := congrArg Snapshot.isLoadingHistory repeating.alike
    exact ⟨came.symm, congrArg Snapshot.messages repeating.alike⟩
  · rintro ⟨came, shown⟩
    refine ⟨rfl, ?_⟩
    simp only [snapshot, replay, touched, Feed.discard, Session.historyLoaded, shown, came,
      Snapshot.unnumbered]

/-- The frames that repeat what is shown. -/
theorem repeating_dispatch (clean : s.isDirty = false) (sound : s.feed.Sound) (frame : Inbound)
    (now : Moment) : s.Repeating (s.dispatch frame now).1 ↔ s.Restates now frame := by
  constructor
  · intro repeating
    cases frame with
    | chunk text origin =>
        cases text with
        | none => exact absurd repeating (Repeating.not_of_clean clean)
        | some text => exact absurd repeating (not_repeating_pushChunk clean text origin now)
    | done => exact absurd repeating (not_repeating_finish clean sound now)
    | stopped => exact absurd repeating (not_repeating_finish clean sound now)
    | status => exact absurd repeating (Repeating.not_of_clean clean)
    | error message =>
        have seen := Feed.visible_say_ne s.feed .system (errorText message) now.clock
        exact absurd repeating (Repeating.not_of_messages seen)
    | stats data =>
        have shown : some data = s.stats := congrArg Snapshot.stats repeating.alike
        exact .stats data shown.symm
    | searchResults data =>
        have shown : data = s.searchResults := congrArg Snapshot.searchResults repeating.alike
        exact .searchResults data shown.symm
    | activity update => exact .activity update (congrArg Snapshot.activity repeating.alike)
    | confirmation request =>
        obtain ⟨asked, shown⟩ := (repeating_offer clean request).mp repeating
        exact .confirmation request asked shown
    | history entries session =>
        simp only [dispatch] at repeating
        cases accepted : s.session.accepts session with
        | true =>
            rw [accepted] at repeating
            obtain ⟨came, shown⟩ := (repeating_replay entries now).mp repeating
            exact .history entries session accepted came shown
        | false =>
            rw [accepted] at repeating
            exact absurd repeating (Repeating.not_of_clean clean)
    | sessionChanged session => exact absurd repeating (Repeating.not_of_clean clean)
    | downloadProgress data => exact absurd repeating (Repeating.not_of_clean clean)
    | unknown => exact absurd repeating (Repeating.not_of_clean clean)
  · intro restates
    cases restates with
    | stats data shown =>
        refine ⟨rfl, ?_⟩
        simp only [dispatch, snapshot, touched, shown, Snapshot.unnumbered]
    | searchResults data shown =>
        refine ⟨rfl, ?_⟩
        simp only [dispatch, snapshot, touched, shown, Snapshot.unnumbered]
    | activity update shown =>
        refine ⟨rfl, ?_⟩
        simp only [dispatch, snapshot, touched, shown, Snapshot.unnumbered]
    | confirmation request asked shown => exact (repeating_offer clean request).mpr ⟨asked, shown⟩
    | history entries session accepted came shown =>
        simp only [dispatch, accepted]
        exact (repeating_replay entries now).mpr ⟨came, shown⟩

/-! ## Inputs -/

/-- Of a session that is pointed at, nothing has come yet. -/
structure Awaits (s : State) (session : String) : Prop where
  session : s.session.current = session
  loading : s.session.loading = true
  messages : s.feed.transcript.visible = []
  pending : s.gate.pending = none
  activity : s.activity.rows = []
  searchResults : s.searchResults = []
  idle : s.isProcessing = false
  error : s.error = none

/-- An input that marks the state and changes nothing that is seen: a frame that restates what is
shown, a text that cannot be decoded under the same error, an opening or a loss of the link that is
already shown, a switch to the session that is already waited for, and an answer to a request that
is not the visible one. -/
inductive Repeats (s : State) (now : Moment) : Input → Prop where
  | frame {text : String} {frame : Inbound} (read : Inbound.read? text = some frame)
      (restates : s.Restates now frame) : Repeats s now (.received text)
  | undecodable {text : String} (unread : Inbound.read? text = none)
      (shown : s.error = some undecodableMessage)
      (kept : claimsHistory text = false ∨ s.session.loading = false) :
      Repeats s now (.received text)
  | opened (connected : s.isConnected = true)
      (asked : s.session.owed = true → s.session.loading = true) : Repeats s now .opened
  | disconnected (away : s.isConnected = false) : Repeats s now .disconnected
  | ended (away : s.isConnected = false) : Repeats s now .ended
  | switched {session : String} (connected : Bool) (awaits : s.Awaits session) :
      Repeats s now (.switched session connected)
  | answered {request : String} (approved remember : Bool)
      (other : ∀ p, s.gate.pending = some p → p.id ≠ request) :
      Repeats s now (.answered request approved remember)

theorem repeating_refuse (text : String) :
    s.Repeating (s.refuse text) ↔
      s.error = some undecodableMessage ∧
        (claimsHistory text = false ∨ s.session.loading = false) := by
  constructor
  · intro repeating
    have shown : some undecodableMessage = s.error := congrArg Snapshot.error repeating.alike
    refine ⟨shown.symm, ?_⟩
    have loading : (if claimsHistory text && s.session.loading then s.session.historyLoaded
        else s.session).loading = s.session.loading :=
      congrArg Snapshot.isLoadingHistory repeating.alike
    cases claims : claimsHistory text with
    | false => exact .inl rfl
    | true =>
        cases waits : s.session.loading with
        | false => exact .inr rfl
        | true =>
            rw [claims, waits] at loading
            cases loading
  · rintro ⟨shown, kept⟩
    have same : (claimsHistory text && s.session.loading) = false := by
      rcases kept with claims | came
      · rw [claims, Bool.false_and]
      · rw [came, Bool.and_false]
    refine ⟨rfl, ?_⟩
    simp only [snapshot, refuse, touched, shown, same, Snapshot.unnumbered]
    rfl

theorem visible_close_of_away (fits : s.Fits s.isConnected) (away : s.isConnected = false)
    (clock : Instant) : (s.feed.close clock).transcript.visible = s.feed.transcript.visible := by
  obtain ⟨-, nothing, still⟩ := fits.quiet away
  refine Feed.visible_close_of_not_isOpen ?_ clock
  rw [Feed.isOpen, Feed.hasGathered, nothing, still]
  rfl

/-- Without a link a loss of it changes nothing that is seen. -/
theorem repeating_disconnected (fits : s.Fits s.isConnected) (now : Moment) :
    s.Repeating (s.disconnected now) ↔ s.isConnected = false := by
  constructor
  · intro repeating
    have away : false = s.isConnected := congrArg Snapshot.isConnected repeating.alike
    exact away.symm
  · intro away
    refine ⟨rfl, ?_⟩
    simp only [snapshot, disconnected, touched, Session.disconnected, away, fits.idle away,
      visible_close_of_away fits away, Snapshot.unnumbered]

theorem repeating_ended (fits : s.Fits s.isConnected) (now : Moment) :
    s.Repeating (s.ended now) ↔ s.isConnected = false := by
  constructor
  · intro repeating
    have away : false = s.isConnected := congrArg Snapshot.isConnected repeating.alike
    exact away.symm
  · intro away
    refine ⟨rfl, ?_⟩
    simp only [snapshot, ended, touched, away, fits.idle away, visible_close_of_away fits away,
      Snapshot.unnumbered]

theorem repeating_opened :
    s.Repeating s.opened.1 ↔
      s.isConnected = true ∧ (s.session.owed = true → s.session.loading = true) := by
  constructor
  · intro repeating
    have connected : true = s.isConnected := congrArg Snapshot.isConnected repeating.alike
    have loading : s.session.opened.1.loading = s.session.loading :=
      congrArg Snapshot.isLoadingHistory repeating.alike
    refine ⟨connected.symm, ?_⟩
    intro owed
    rw [Session.opened_of_owed owed] at loading
    exact loading.symm
  · rintro ⟨connected, asked⟩
    have session : s.session.opened.1.loading = s.session.loading ∧
        s.session.opened.1.current = s.session.current := by
      cases owed : s.session.owed with
      | true =>
          rw [Session.opened_of_owed owed]
          exact ⟨(asked owed).symm, rfl⟩
      | false =>
          rw [Session.opened_of_not_owed owed]
          exact ⟨rfl, rfl⟩
    refine ⟨rfl, ?_⟩
    simp only [snapshot, opened, touched, connected, session, Snapshot.unnumbered]

/-- A link that opens and is lost at once leaves a history to be waited for. -/
theorem repeating_opened_disconnected (fits : s.Fits false) (owed : s.session.owed = true)
    (now : Moment) :
    s.Repeating (s.opened.1.disconnected now) ↔ s.session.loading = true := by
  have away := fits.connected
  have loading : s.session.opened.1.loading = true := by
    rw [Session.opened_of_owed owed]
  constructor
  · intro repeating
    have same : s.session.opened.1.loading = s.session.loading :=
      congrArg Snapshot.isLoadingHistory repeating.alike
    exact same.symm.trans loading
  · intro waits
    have current : s.session.opened.1.current = s.session.current := by
      rw [Session.opened_of_owed owed]
    rw [← away] at fits
    refine ⟨rfl, ?_⟩
    simp only [snapshot, disconnected, opened, touched, Session.disconnected, away, waits,
      loading, fits.idle away, visible_close_of_away fits away, current, Snapshot.unnumbered]

theorem repeating_switchSession (session : String) (connected : Bool) :
    s.Repeating (s.switchSession session connected).1 ↔ s.Awaits session := by
  constructor
  · intro repeating
    have alike := repeating.alike
    exact {
      session := (congrArg Snapshot.session alike).symm
      loading := (congrArg Snapshot.isLoadingHistory alike).symm
      messages := (congrArg Snapshot.messages alike).symm
      pending := (congrArg Snapshot.pending alike).symm
      activity := (congrArg Snapshot.activity alike).symm
      searchResults := (congrArg Snapshot.searchResults alike).symm
      idle := (congrArg Snapshot.isProcessing alike).symm
      error := (congrArg Snapshot.error alike).symm }
  · intro awaits
    refine ⟨rfl, ?_⟩
    obtain ⟨current, loading, messages, pending, activity, searchResults, idle, error⟩ := awaits
    simp only [snapshot, current, loading, messages, pending, activity, searchResults, idle, error,
      Snapshot.unnumbered]
    rfl

theorem repeating_resolve (request : String) (approved remember : Bool) :
    s.Repeating (s.resolve request approved remember) ↔
      ∀ p, s.gate.pending = some p → p.id ≠ request := by
  constructor
  · intro repeating p pending same
    have kept : s.gate.pending.filter (·.id != request) = s.gate.pending :=
      congrArg Snapshot.pending repeating.alike
    rw [pending, Option.filter_eq_some_iff] at kept
    exact (bne_iff_ne.mp kept.2) same
  · intro other
    have kept : s.gate.pending.filter (·.id != request) = s.gate.pending := by
      cases pending : s.gate.pending with
      | none => rfl
      | some p => exact Option.filter_eq_some_iff.mpr ⟨rfl, bne_iff_ne.mpr (other p pending)⟩
    refine ⟨rfl, ?_⟩
    simp only [snapshot, resolve, touched, Approval.Gate.resolve, kept, Snapshot.unnumbered]

/-- The inputs that mark a state without a visible change. -/
theorem repeating_step (clean : s.isDirty = false) (sound : s.feed.Sound)
    (fits : s.Fits s.isConnected) (input : Input) (now : Moment) :
    s.Repeating (s.step input now).1 ↔ s.Repeats now input := by
  cases input with
  | received text =>
      change s.Repeating (s.receive text now).1 ↔ _
      unfold receive
      cases read : Inbound.read? text with
      | none =>
          refine (repeating_refuse text).trans ⟨?_, ?_⟩
          · rintro ⟨shown, kept⟩
            exact .undecodable read shown kept
          · intro repeats
            cases repeats with
            | frame readToo restates => cases read.symm.trans readToo
            | undecodable unread shown kept => exact ⟨shown, kept⟩
      | some frame =>
          refine (repeating_dispatch clean sound frame now).trans ⟨.frame read, ?_⟩
          intro repeats
          cases repeats with
          | frame readToo restates =>
              cases read.symm.trans readToo
              exact restates
          | undecodable unread shown kept => cases read.symm.trans unread
  | flushDue =>
      refine iff_of_false (not_repeating_flushDue clean sound now) ?_
      intro repeats
      cases repeats
  | opened =>
      refine repeating_opened.trans ⟨?_, ?_⟩
      · rintro ⟨connected, asked⟩
        exact .opened connected asked
      · intro repeats
        cases repeats with
        | opened connected asked => exact ⟨connected, asked⟩
  | disconnected =>
      refine (repeating_disconnected fits now).trans ⟨.disconnected, ?_⟩
      intro repeats
      cases repeats with
      | disconnected away => exact away
  | ended =>
      refine (repeating_ended fits now).trans ⟨.ended, ?_⟩
      intro repeats
      cases repeats with
      | ended away => exact away
  | turn content =>
      have seen := Feed.visible_say_ne s.feed .user content now.clock
      refine iff_of_false (Repeating.not_of_messages seen) ?_
      intro repeats
      cases repeats
  | switched session connected =>
      refine (repeating_switchSession session connected).trans ⟨.switched connected, ?_⟩
      intro repeats
      cases repeats with
      | switched connected awaits => exact awaits
  | answered request approved remember =>
      refine (repeating_resolve request approved remember).trans ⟨.answered approved remember, ?_⟩
      intro repeats
      cases repeats with
      | answered approved remember other => exact other
  | takeChanges =>
      have settled : s.takeChanges.1.isDirty = false := by
        rw [takeChanges_of_clean clean]
        exact clean
      refine iff_of_false (Repeating.not_of_clean settled) ?_
      intro repeats
      cases repeats

end State

end StreamingChat.Chat
