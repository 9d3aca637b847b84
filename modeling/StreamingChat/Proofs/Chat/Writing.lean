import StreamingChat.Proofs.Chat.FeedChange
import StreamingChat.Proofs.Chat.Flushing

/-!
# Writing at the end of a transcript

Whatever an input does to a feed but a reset, it writes at the end of the transcript: it adds text
to the message in progress, completes it, starts another one, or adds a complete message when none
is in progress.  What holds of these four holds of every input that is no reset.
-/

namespace StreamingChat.Chat

open StreamingChat.Calendar (Instant Moment)

/-- The transcripts that come from one by writing at its end. -/
inductive Transcript.Written (t : Transcript) : Transcript → Prop where
  | unchanged : Written t t
  | appended {u : Transcript} (before : Written t u) (text : String) (origin : Origin) :
      Written t (u.append text origin)
  | completed {u : Transcript} (before : Written t u) : Written t u.complete
  | started {u : Transcript} (before : Written t u) (text : String) (origin : Origin)
      (clock : Instant) : Written t (u.startAnswer text origin clock)
  | said {u : Transcript} (before : Written t u) (idle : u.inProgress = none) (role : Role)
      (line : String) (clock : Instant) : Written t (u.say role line clock)

namespace Feed

open StreamingChat.Chat.Transcript (Written)

variable {f g : Feed}

theorem written_flush (f : Feed) (clock : Instant) :
    Written f.transcript (f.flush clock).transcript := by
  cases gathered : f.gathered with
  | none =>
      rw [transcript_flush_of_none gathered]
      exact .unchanged
  | some fragment =>
      cases open_ : f.transcript.inProgress with
      | none =>
          rw [transcript_flush_start gathered open_]
          exact .started .unchanged _ _ _
      | some m =>
          rw [transcript_flush_append gathered open_]
          exact .appended .unchanged _ _

theorem written_close (f : Feed) (clock : Instant) :
    Written f.transcript (f.close clock).transcript :=
  .completed (written_flush f clock)

theorem written_push (f : Feed) (fragment : Fragment) (now : Moment) :
    Written f.transcript (f.push fragment now).1.transcript := by
  cases text : fragment.text.isEmpty with
  | true =>
      rw [push_of_isEmpty text]
      exact .unchanged
  | false =>
      cases differ : f.isNewNode fragment with
      | true =>
          rw [(push_of_isNewNode text differ now).2.1]
          exact .started (written_flush f now.clock) _ _ _
      | false =>
          rw [push_of_gather text differ, transcript_gather]
          exact .unchanged

/-- Whatever an input does to the feed but a reset, it writes at the end of the transcript. -/
theorem written_of_change {now : Moment} (change : f.Change now false g) :
    Written f.transcript g.transcript := by
  cases change with
  | kept => exact .unchanged
  | pushed fragment => exact written_push f fragment now
  | flushed => exact written_flush f now.clock
  | closed => exact written_close f now.clock
  | said role line => exact .said (written_close f now.clock) rfl role line now.clock

end Feed

end StreamingChat.Chat
