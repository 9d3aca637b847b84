import StreamingChat.Proofs.Chat.Flushing

/-!
# Visible changes are marked

Nothing that a reader sees changes without a mark.  Most inputs mark the state in any case; a few
mark it on a condition only: the end of an answer, a deadline, a chunk, a request that is approved
without asking, and a history of another session.  For these, what a reader sees is unchanged when
the condition fails.
-/

namespace StreamingChat.Chat

open StreamingChat.Calendar (Instant Moment)
open StreamingChat.Wire

/-- What a reader sees, whatever the revision. -/
def Snapshot.unnumbered (shown : Snapshot) : Snapshot :=
  { shown with revision := 0 }

namespace Feed

variable {f : Feed}

theorem gathered_of_not_hasGathered (nothing : f.hasGathered = false) : f.gathered = none :=
  Option.isNone_iff_eq_none.mp (Option.isSome_eq_false_iff.mp nothing)

/-- Closing a feed that is not open shows nothing new. -/
theorem visible_close_of_not_isOpen (closed : f.isOpen = false) (clock : Instant) :
    (f.close clock).transcript.visible = f.transcript.visible := by
  obtain ⟨nothing, still⟩ := Bool.or_eq_false_iff.mp closed
  have idle : f.transcript.inProgress = none :=
    Option.isNone_iff_eq_none.mp (Option.isSome_eq_false_iff.mp still)
  change (f.flush clock).transcript.complete.visible = f.transcript.visible
  rw [transcript_flush_of_none (gathered_of_not_hasGathered nothing),
    Transcript.visible_complete, Transcript.visible, idle]
  rfl

/-- A fragment that does not begin another message is not yet seen. -/
theorem transcript_push_of_not_newNode {fragment : Fragment} {now : Moment}
    (same : (f.push fragment now).2 ≠ .newNode) :
    (f.push fragment now).1.transcript = f.transcript := by
  cases text : fragment.text.isEmpty with
  | true => rw [push_of_isEmpty text]
  | false =>
      cases differ : f.isNewNode fragment with
      | true =>
          obtain ⟨-, -, begun⟩ := push_of_isNewNode text differ now
          exact absurd begun same
      | false => rw [push_of_gather text differ, transcript_gather]

end Feed

namespace State

/-- A state that comes from another without a revision.  If it is not marked, the other was not
either, and the same is seen of both. -/
structure Marks (s t : State) : Prop where
  revision : t.revision = s.revision
  unmarked : t.isDirty = false → s.isDirty = false ∧ t.snapshot = s.snapshot

variable {s t : State}

theorem marks_refl (s : State) : s.Marks s :=
  ⟨rfl, fun clean => ⟨clean, rfl⟩⟩

theorem marks_touched (revision : t.revision = s.revision) : s.Marks t.touched where
  revision := revision
  unmarked clean := by cases clean

/-- A change that is marked on a condition is right if nothing is seen of it otherwise. -/
theorem marks_touchedIf {changed : Bool} (dirty : t.isDirty = s.isDirty)
    (revision : t.revision = s.revision) (same : changed = false → t.snapshot = s.snapshot) :
    s.Marks (t.touchedIf changed) where
  revision := revision
  unmarked clean := by
    obtain ⟨before, unchanged⟩ := Bool.or_eq_false_iff.mp clean
    rw [dirty] at before
    exact ⟨before, same unchanged⟩

/-- Of a feed only the visible messages are seen. -/
theorem snapshot_with_feed {feed : Feed}
    (same : feed.transcript.visible = s.feed.transcript.visible) :
    { s with feed }.snapshot = s.snapshot := by
  simp only [snapshot, same]

section

variable (s) (now : Moment)

theorem marks_pushChunk (text : String) (origin : Origin) :
    s.Marks (s.pushChunk text origin now) := by
  refine marks_touchedIf rfl rfl ?_
  intro unchanged
  have same : (s.feed.push ⟨text, origin⟩ now).2 ≠ .newNode := by
    intro begun
    rw [begun] at unchanged
    cases unchanged
  refine snapshot_with_feed ?_
  rw [Feed.transcript_push_of_not_newNode same]

theorem marks_finish : s.Marks (s.finish now) := by
  refine marks_touchedIf rfl rfl ?_
  intro unchanged
  obtain ⟨closed, idle⟩ := Bool.or_eq_false_iff.mp unchanged
  simp only [snapshot, Feed.visible_close_of_not_isOpen closed, idle]

theorem marks_offer (request : Approval.Request) : s.Marks (s.offer request).1 := by
  unfold offer Approval.Gate.offer
  cases s.gate.isRemembered request.tool with
  | true => exact marks_refl s
  | false => exact marks_touched rfl

theorem marks_dispatch (frame : Inbound) : s.Marks (s.dispatch frame now).1 := by
  cases frame with
  | chunk text origin =>
      cases text with
      | none => exact marks_refl s
      | some text => exact marks_pushChunk s now text origin
  | done => exact marks_finish s now
  | stopped => exact marks_finish s now
  | confirmation request => exact marks_offer s request
  | history entries session =>
      simp only [dispatch]
      cases s.session.accepts session with
      | true => exact marks_touched rfl
      | false => exact marks_refl s
  | error message => exact marks_touched rfl
  | stats data => exact marks_touched rfl
  | searchResults data => exact marks_touched rfl
  | activity update => exact marks_touched rfl
  | downloadProgress data => exact marks_refl s
  | status => exact marks_refl s
  | sessionChanged session => exact marks_refl s
  | unknown => exact marks_refl s

theorem marks_receive (text : String) : s.Marks (s.receive text now).1 := by
  unfold receive
  cases Inbound.read? text with
  | none => exact marks_touched rfl
  | some frame => exact marks_dispatch s now frame

theorem marks_flushDue : s.Marks (s.flushDue now) := by
  unfold flushDue
  cases s.feed.isDue now.tick with
  | false => exact marks_refl s
  | true =>
      refine marks_touchedIf rfl rfl ?_
      intro nothing
      refine snapshot_with_feed ?_
      rw [Feed.transcript_flush_of_none (Feed.gathered_of_not_hasGathered nothing)]

end

theorem marks_opened (s : State) : s.Marks s.opened.1 := marks_touched rfl

theorem marks_disconnected (s : State) (now : Moment) : s.Marks (s.disconnected now) :=
  marks_touched rfl

theorem marks_ended (s : State) (now : Moment) : s.Marks (s.ended now) := marks_touched rfl

theorem marks_recordTurn (s : State) (content : String) (now : Moment) :
    s.Marks (s.recordTurn content now) := marks_touched rfl

theorem marks_switchSession (s : State) (session : String) (connected : Bool) :
    s.Marks (s.switchSession session connected).1 := marks_touched rfl

theorem marks_resolve (s : State) (request : String) (approved remember : Bool) :
    s.Marks (s.resolve request approved remember) := marks_touched rfl

/-! ## Taking the changes -/

theorem takeChanges_of_clean (clean : s.isDirty = false) : s.takeChanges = (s, none) := by
  rw [takeChanges, clean]
  rfl

/-- The same state in the next revision. -/
def revised (s : State) : State :=
  { s with isDirty := false, revision := s.revision + 1 }

/-- A marked state yields the snapshot of the next revision. -/
theorem takeChanges_of_dirty (dirty : s.isDirty = true) :
    s.takeChanges = (s.revised, some s.revised.snapshot) := by
  rw [takeChanges, dirty]
  rfl

theorem unnumbered_takeChanges (s : State) :
    s.takeChanges.1.snapshot.unnumbered = s.snapshot.unnumbered := by
  cases dirty : s.isDirty with
  | true => rw [takeChanges_of_dirty dirty]; rfl
  | false => rw [takeChanges_of_clean dirty]

/-- Every input but the taking of the changes marks what it changes. -/
theorem marks_step (s : State) {input : Input} (now : Moment) (keeps : input ≠ .takeChanges) :
    s.Marks (s.step input now).1 := by
  cases input with
  | received text => exact marks_receive s now text
  | flushDue => exact marks_flushDue s now
  | opened => exact marks_opened s
  | disconnected => exact marks_disconnected s now
  | ended => exact marks_ended s now
  | turn content => exact marks_recordTurn s content now
  | switched session connected => exact marks_switchSession s session connected
  | answered request approved remember => exact marks_resolve s request approved remember
  | takeChanges => exact absurd rfl keeps

/-- Whatever the state and the input, a state of which something else is seen is marked. -/
theorem dirty_of_changed {input : Input} {now : Moment}
    (changed : (s.step input now).1.snapshot.unnumbered ≠ s.snapshot.unnumbered) :
    (s.step input now).1.isDirty = true := by
  have taken : input ≠ .takeChanges := by
    rintro rfl
    exact changed (unnumbered_takeChanges s)
  cases dirty : (s.step input now).1.isDirty with
  | true => rfl
  | false =>
      obtain ⟨-, same⟩ := (marks_step s now taken).unmarked dirty
      exact absurd (congrArg Snapshot.unnumbered same) changed

end State

end StreamingChat.Chat
