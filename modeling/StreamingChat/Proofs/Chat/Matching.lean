import Mathlib.Data.List.Forall2
import StreamingChat.Proofs.Chat.Flushing

/-!
# Two feeds side by side

Two feeds are given the same, each with a clock of its own.  They match when their messages say the
same at the same times, where two readings that the clocks gave at one and the same input count as
the same time, and when nothing tells apart what is gathered and when it will be shown.  Every
operation of a feed keeps the match and answers alike on both sides.
-/

namespace StreamingChat.Chat

open StreamingChat.Calendar (Instant Moment)

/-- Two times are the same, or they were read from the two clocks together. -/
def SameTime (readings : List (Instant × Instant)) (left right : Instant) : Prop :=
  left = right ∨ (left, right) ∈ readings

/-- Two messages say the same at the same time. -/
structure Message.Matches (readings : List (Instant × Instant)) (m n : Message) : Prop where
  body : m.body = n.body
  time : SameTime readings m.time n.time

/-! ## The times of a transcript -/

namespace Transcript

/-- The times of the visible messages. -/
def times (t : Transcript) : List Instant :=
  t.visible.map (·.time)

theorem times_issue (t : Transcript) (count : Nat) : (t.issue count).times = t.times := rfl

theorem times_complete (t : Transcript) : t.complete.times = t.times := by
  rw [times, times, visible_complete, visible, List.map_append, List.map_append]
  cases t.inProgress with
  | none => rfl
  | some m => rfl

theorem times_append (t : Transcript) (text : String) (origin : Origin) :
    (t.append text origin).times = t.times := by
  rw [times, times, visible, visible, List.map_append, List.map_append, append]
  cases t.inProgress with
  | none => rfl
  | some m => rfl

theorem times_startAnswer (t : Transcript) (text : String) (origin : Origin) (clock : Instant) :
    (t.startAnswer text origin clock).times = t.times ++ [clock] := by
  rw [startAnswer, times_issue, times, visible_start, List.map_append]
  exact congrArg (· ++ [clock]) (times_complete t)

theorem times_say {t : Transcript} (idle : t.inProgress = none) (role : Role) (line : String)
    (clock : Instant) : (t.say role line clock).times = t.times ++ [clock] := by
  rw [say, times_issue, times, visible_push _ _ idle, List.map_append]
  rfl

/-- A replayed message has the time that its entry gives, or else that of the replay. -/
theorem times_replay (t : Transcript) (entries : List Entry) (clock : Instant) :
    (t.replay entries clock).times = entries.map fun e => e.time?.getD clock := by
  rw [times, visible_replay]
  apply List.ext_getElem
  · simp [messagesOf]
  · intro i left right
    simp [messagesOf, Entry.toMessage]

/-! ## Transcripts -/

/-- The messages of two transcripts say the same at the same times. -/
structure Matches (readings : List (Instant × Instant)) (t u : Transcript) : Prop
    extends Alike t u where
  times : List.Forall₂ (SameTime readings) t.times u.times

namespace Matches

variable {readings : List (Instant × Instant)} {t u : Transcript} {here there : Instant}

theorem complete (both : Matches readings t u) : Matches readings t.complete u.complete where
  toAlike := both.toAlike.complete
  times := by
    rw [times_complete, times_complete]
    exact both.times

theorem append (both : Matches readings t u) (text : String) (origin : Origin) :
    Matches readings (t.append text origin) (u.append text origin) where
  toAlike := both.toAlike.append text origin
  times := by
    rw [times_append, times_append]
    exact both.times

theorem startAnswer (both : Matches readings t u) (together : SameTime readings here there)
    (text : String) (origin : Origin) :
    Matches readings (t.startAnswer text origin here) (u.startAnswer text origin there) where
  toAlike := both.toAlike.startAnswer text origin here there
  times := by
    rw [times_startAnswer, times_startAnswer]
    exact List.rel_append both.times (.cons together .nil)

theorem say (both : Matches readings t u) (together : SameTime readings here there)
    (left : t.inProgress = none) (right : u.inProgress = none) (role : Role) (line : String) :
    Matches readings (t.say role line here) (u.say role line there) where
  toAlike := both.toAlike.say role line here there
  times := by
    rw [times_say left, times_say right]
    exact List.rel_append both.times (.cons together .nil)

theorem clear (readings : List (Instant × Instant)) (t u : Transcript) :
    Matches readings t.clear u.clear :=
  ⟨Alike.clear t u, .nil⟩

/-- Whatever was there before, the same entries give messages that match. -/
theorem replay (together : SameTime readings here there) (t u : Transcript)
    (entries : List Entry) :
    Matches readings (t.replay entries here) (u.replay entries there) where
  toAlike := Alike.replay t u entries here there
  times := by
    rw [times_replay, times_replay, List.forall₂_map_left_iff, List.forall₂_map_right_iff]
    apply List.forall₂_same.mpr
    intro e _
    cases e.time? with
    | none => exact together
    | some written => exact .inl rfl

/-- Messages that say the same, and have the same times, match one by one. -/
theorem visible (both : Matches readings t u) :
    List.Forall₂ (Message.Matches readings) t.visible u.visible := by
  have bodies := both.toAlike.visible
  have times := both.times
  rw [Transcript.times, Transcript.times, List.forall₂_map_left_iff,
    List.forall₂_map_right_iff] at times
  generalize t.visible = left at bodies times
  generalize u.visible = right at bodies times
  induction times with
  | nil => exact .nil
  | cons time rest ih =>
      obtain ⟨body, bodies⟩ := List.cons_eq_cons.mp bodies
      exact .cons ⟨body, time⟩ (ih bodies)

end Matches

end Transcript

/-! ## Feeds -/

namespace Feed

/-- The transcripts match, and the same text is gathered for the same deadline. -/
structure Matches (readings : List (Instant × Instant)) (f g : Feed) : Prop where
  transcript : Transcript.Matches readings f.transcript g.transcript
  gathered : f.gathered = g.gathered
  deadline : f.deadline = g.deadline
  interval : f.interval = g.interval

theorem interval_flush (f : Feed) (clock : Instant) : (f.flush clock).interval = f.interval := by
  unfold flush
  split
  · rfl
  · rfl

namespace Matches

variable {readings : List (Instant × Instant)} {f g : Feed}

/-! ### What a feed answers -/

theorem node (both : Matches readings f g) : f.node = g.node := by
  rw [Feed.node, Feed.node, both.gathered, both.transcript.node]

theorem isNewNode (both : Matches readings f g) (fragment : Fragment) :
    f.isNewNode fragment = g.isNewNode fragment := by
  rw [Feed.isNewNode, Feed.isNewNode, both.node]

theorem isDue (both : Matches readings f g) (tick : Nat) : f.isDue tick = g.isDue tick := by
  rw [Feed.isDue, Feed.isDue, both.deadline]

theorem hasGathered (both : Matches readings f g) : f.hasGathered = g.hasGathered := by
  rw [Feed.hasGathered, Feed.hasGathered, both.gathered]

theorem isOpen (both : Matches readings f g) : f.isOpen = g.isOpen := by
  rw [Feed.isOpen, Feed.isOpen, both.hasGathered]
  obtain ⟨left, right⟩ | ⟨m, n, left, right, -⟩ := both.transcript.inProgress_cases
  · rw [left, right]
  · rw [left, right]
    rfl

/-! ### What is done to a feed -/

theorem flush (both : Matches readings f g) {here there : Instant}
    (together : SameTime readings here there) :
    Matches readings (f.flush here) (g.flush there) where
  transcript := by
    have same := both.gathered
    cases left : f.gathered with
    | none =>
        have right : g.gathered = none := same.symm.trans left
        rw [transcript_flush_of_none left, transcript_flush_of_none right]
        exact both.transcript
    | some fragment =>
        have right : g.gathered = some fragment := same.symm.trans left
        obtain ⟨idle, still⟩ | ⟨m, n, writing, also, -⟩ := both.transcript.inProgress_cases
        · rw [transcript_flush_start left idle, transcript_flush_start right still]
          exact both.transcript.startAnswer together fragment.text fragment.origin
        · rw [transcript_flush_append left writing, transcript_flush_append right also]
          exact both.transcript.append fragment.text fragment.origin
  gathered := by rw [gathered_flush, gathered_flush]
  deadline := by rw [deadline_flush, deadline_flush]
  interval := by rw [interval_flush, interval_flush, both.interval]

theorem close (both : Matches readings f g) {here there : Instant}
    (together : SameTime readings here there) :
    Matches readings (f.close here) (g.close there) :=
  { both.flush together with transcript := (both.flush together).transcript.complete }

/-- A line said once the answer before it is closed. -/
theorem close_say (both : Matches readings f g) {here there : Instant}
    (together : SameTime readings here there) (role : Role) (line : String) :
    Matches readings
      { f.close here with transcript := (f.close here).transcript.say role line here }
      { g.close there with transcript := (g.close there).transcript.say role line there } :=
  { both.close together with
    transcript := (both.close together).transcript.say together rfl rfl role line }

theorem gather (both : Matches readings f g) (fragment : Fragment) (tick : Nat) :
    Matches readings (f.gather fragment tick) (g.gather fragment tick) where
  transcript := both.transcript
  gathered := by rw [Feed.gather, Feed.gather, both.gathered]
  deadline := by rw [Feed.gather, Feed.gather, both.deadline, both.interval]
  interval := both.interval

theorem push (both : Matches readings f g) (fragment : Fragment) {now later : Moment}
    (tick : now.tick = later.tick) (together : SameTime readings now.clock later.clock) :
    Matches readings (f.push fragment now).1 (g.push fragment later).1 ∧
      (f.push fragment now).2 = (g.push fragment later).2 := by
  have same := both.isNewNode fragment
  cases text : fragment.text.isEmpty with
  | true =>
      rw [push_of_isEmpty text, push_of_isEmpty text]
      exact ⟨both, rfl⟩
  | false =>
      cases left : f.isNewNode fragment with
      | true =>
          have right : g.isNewNode fragment = true := same.symm.trans left
          have shown := both.flush together
          simp only [Feed.push, text, left, right, if_true, Bool.false_eq_true, if_false,
            and_true]
          exact { shown with
            transcript := shown.transcript.startAnswer together fragment.text fragment.origin }
      | false =>
          have right : g.isNewNode fragment = false := same.symm.trans left
          rw [push_of_gather text left, push_of_gather text right, tick]
          exact ⟨both.gather fragment later.tick, rfl⟩

/-- Nothing of what was there before is left of a feed that is cleared. -/
theorem cleared (readings : List (Instant × Instant)) (interval : f.interval = g.interval) :
    Matches readings { f.discard with transcript := f.discard.transcript.clear }
      { g.discard with transcript := g.discard.transcript.clear } where
  transcript := Transcript.Matches.clear readings _ _
  gathered := rfl
  deadline := rfl
  interval := interval

/-- Nor is it of a feed that is given the entries of a history. -/
theorem replayed (interval : f.interval = g.interval) {here there : Instant}
    (together : SameTime readings here there) (entries : List Entry) :
    Matches readings { f.discard with transcript := f.discard.transcript.replay entries here }
      { g.discard with transcript := g.discard.transcript.replay entries there } where
  transcript := Transcript.Matches.replay together _ _ entries
  gathered := rfl
  deadline := rfl
  interval := interval

end Matches

end Feed

end StreamingChat.Chat
