import StreamingChat.Proofs.Chat.Separation

/-!
# A history takes the place of all that was there

What is seen after a history was accepted are the entries of it that can be decoded, in order and
complete; the others might as well be missing.  The transcript, the gathered text and the deadline
from before are gone, so that conversations that differ in nothing else cannot be told apart from
then on, whatever is received.
-/

namespace StreamingChat.Chat

open StreamingChat.Calendar (Instant Moment)
open StreamingChat.Wire

namespace State

variable {s t : State} {session : Option String}

/-! ## What a history does -/

theorem dispatch_of_accepts (accepted : s.session.accepts session = true)
    (entries : List Value) (now : Moment) :
    s.dispatch (.history entries session) now = (s.replay entries now, []) := by
  simp only [dispatch]
  rw [if_pos accepted]

/-- Histories with the same entries that can be decoded do the same. -/
theorem dispatch_of_same_entries {entries others : List Value}
    (same : others.filterMap Entry.ofValue? = entries.filterMap Entry.ofValue?)
    (session : Option String) (now : Moment) :
    s.dispatch (.history others session) now = s.dispatch (.history entries session) now := by
  simp only [dispatch, replay, same]

/-! ## What was there before -/

/-- Two states that agree aside of their feeds match once both were given a history. -/
theorem matches_replay {readings : List (Instant × Instant)} {now later : Moment}
    (together : SameTime readings now.clock later.clock)
    (interval : s.feed.interval = t.feed.interval) (aside : s.aside = t.aside)
    (entries : List Value) :
    Matches readings (s.replay entries now) (t.replay entries later) where
  feed := .replayed interval together (entries.filterMap Entry.ofValue?)
  isDirty := rfl
  aside := by
    have parts := (aside_eq_iff s t).mp aside
    apply (aside_eq_iff _ _).mpr
    exact ⟨congrArg Session.historyLoaded parts.1, parts.2⟩

/-- They go on to match as long as they are given the same. -/
theorem matches_run_replay (s t : State) {now later : Moment}
    (interval : s.feed.interval = t.feed.interval) (aside : s.aside = t.aside)
    (entries : List Value) (cues : List Cue) :
    Matches ((now.clock, later.clock) :: Cue.clocks cues)
      ((s.replay entries now).run (cues.map Cue.left))
      ((t.replay entries later).run (cues.map Cue.right)) := by
  apply (matches_replay (.inr List.mem_cons_self) interval aside entries).run
  intro cue member
  exact List.mem_cons_of_mem _ (List.mem_map_of_mem member)

/-- A history that belongs to the current session replaces all that was received before.  The
visible messages are its entries that can be decoded, in order and complete; it is no longer waited
for, nothing is asked for, and besides the feed and the mark of a change nothing else is written.
An entry that cannot be decoded does not make a difference wherever it stands.  Another feed in the
place of the one before does not either: the messages and the deadline are the same after all that
may be received later, up to ids that the client made up and what the clocks showed at the same
input. -/
theorem history_replaces_all (s : State) (entries : List Value) (session : Option String)
    (accepted : s.session.accepts session = true) (now : Moment) :
    let next := (s.dispatch (.history entries session) now).1
    (s.dispatch (.history entries session) now).2 = [] ∧
      next.snapshot.messages =
        (entries.filterMap Entry.ofValue?).mapIdx (fun i e =>
          e.toMessage (.generated (s.feed.transcript.issued + i)) now.clock) ∧
      (∀ m ∈ next.snapshot.messages, m.isComplete = true) ∧
      next = { s with
        feed := next.feed, session := { s.session with loading := false }, isDirty := true } ∧
      (∀ before bad after, entries = before ++ after → Entry.ofValue? bad = none →
        s.dispatch (.history (before ++ bad :: after) session) now =
          s.dispatch (.history entries session) now) ∧
      ∀ (other : Feed) (later : Moment) (cues : List Cue), other.interval = s.feed.interval →
        let there := ({ s with feed := other }.dispatch (.history entries session) later).1
        let left := next.run (cues.map Cue.left)
        let right := there.run (cues.map Cue.right)
        left.snapshot.Matches ((now.clock, later.clock) :: Cue.clocks cues) right.snapshot ∧
          left.feed.deadline = right.feed.deadline := by
  intro next
  have here : next = s.replay entries now :=
    congrArg Prod.fst (dispatch_of_accepts accepted entries now)
  have messages : next.snapshot.messages =
      s.feed.transcript.messagesOf (entries.filterMap Entry.ofValue?) now.clock := by
    rw [here]
    exact s.feed.transcript.visible_replay _ now.clock
  refine ⟨congrArg Prod.snd (dispatch_of_accepts accepted entries now), messages, ?_, ?_, ?_, ?_⟩
  · intro m seen
    rw [messages] at seen
    exact Transcript.isComplete_of_mem_messagesOf seen
  · rw [here]
    rfl
  · rintro before bad after rfl spoilt
    apply dispatch_of_same_entries
    rw [List.filterMap_append, List.filterMap_append, List.filterMap_cons_none spoilt]
  · intro other later cues interval there left right
    have also : there = { s with feed := other }.replay entries later :=
      congrArg Prod.fst
        (dispatch_of_accepts (s := { s with feed := other }) accepted entries later)
    have both : Matches ((now.clock, later.clock) :: Cue.clocks cues) left right := by
      change Matches _ (next.run _) (there.run _)
      rw [here, also]
      exact matches_run_replay s { s with feed := other } interval.symm rfl entries cues
    exact ⟨both.snapshot, both.feed.deadline⟩

/-- An answer is in progress, and more of it is gathered. -/
def midway : State :=
  (initial "default" 50).run
    [(.opened, ⟨0, ⟨0, 0⟩⟩), (.received chunkOfAnswer, ⟨1, ⟨0, 1⟩⟩), (.flushDue, ⟨60, ⟨0, 60⟩⟩),
      (.received chunkOfAnswer, ⟨70, ⟨0, 70⟩⟩)]

def entryOf (role content : String) : Value :=
  .ofJson (.object [("content", .string content), ("role", .string role)])

/-- The answer goes on. -/
def goesOn : Cue := ⟨.received chunkOfAnswer, 90, ⟨0, 90⟩, ⟨9, 0⟩⟩

theorem history_replaces_all_of_midway :
    midway.session.accepts none = true ∧
      midway.feed.transcript.inProgress.isSome = true ∧ midway.feed.deadline = some 120 ∧
      Entry.ofValue? (entryOf "tool" "t") = none ∧
      let entries := [entryOf "user" "q", entryOf "assistant" "a"]
      let next := (midway.dispatch (.history entries none) ⟨80, ⟨0, 80⟩⟩).1
      let there :=
        ({ midway with feed := { interval := 50 } }.dispatch (.history entries none)
          ⟨80, ⟨8, 0⟩⟩).1
      next.snapshot.messages.map (·.content) = ["q", "a"] ∧
        midway.dispatch
            (.history [entryOf "user" "q", entryOf "tool" "t", entryOf "assistant" "a"] none)
            ⟨80, ⟨0, 80⟩⟩ =
          midway.dispatch (.history entries none) ⟨80, ⟨0, 80⟩⟩ ∧
        (next.run [goesOn.left]).snapshot.Matches [(⟨0, 80⟩, ⟨8, 0⟩), (⟨0, 90⟩, ⟨9, 0⟩)]
          (there.run [goesOn.right]).snapshot ∧
        (next.run [goesOn.left]).feed.deadline = (there.run [goesOn.right]).feed.deadline := by
  have spoilt : Entry.ofValue? (entryOf "tool" "t") = none := rfl
  obtain ⟨-, messages, -, -, inserted, apart⟩ :=
    history_replaces_all midway [entryOf "user" "q", entryOf "assistant" "a"] none rfl
      ⟨80, ⟨0, 80⟩⟩
  have shown := apart { interval := 50 } ⟨80, ⟨8, 0⟩⟩ [goesOn] rfl
  refine ⟨rfl, rfl, rfl, spoilt, ?_, ?_, shown.1, shown.2⟩
  · rw [messages]
    rfl
  · exact inserted [entryOf "user" "q"] (entryOf "tool" "t") [entryOf "assistant" "a"] rfl spoilt

end State

end StreamingChat.Chat
