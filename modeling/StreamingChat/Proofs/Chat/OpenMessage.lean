import StreamingChat.Proofs.Chat.Growth

/-!
# Complete messages and the open one

In every reachable state the message in progress is the only incomplete one; it is an answer with
text in it, and it stands last.  So what a reader sees only grows between two resets, and when the
text of another node comes to be seen, the message before it is complete.
-/

namespace StreamingChat.Chat

open StreamingChat.Calendar (Instant Moment)
open StreamingChat.Wire

/-- A message in progress: an answer with text in it. -/
structure Message.IsOpen (m : Message) : Prop where
  incomplete : m.isComplete = false
  role : m.role = .assistant
  content : m.content ≠ ""

/-- Only the message in progress is incomplete. -/
structure Transcript.Sound (t : Transcript) : Prop where
  committed : ∀ m ∈ t.committed, m.isComplete = true
  inProgress : ∀ m, t.inProgress = some m → m.IsOpen

namespace Transcript.Sound

variable {t : Transcript}

theorem complete (sound : Sound t) : Sound t.complete where
  committed m member := by
    rcases List.mem_append.mp member with old | new
    · exact sound.committed m old
    · obtain ⟨n, -, rfl⟩ := Option.map_eq_some_iff.mp (Option.mem_toList.mp new)
      rfl
  inProgress m open_ := by cases open_

theorem startAnswer (sound : Sound t) {text : String} (nonempty : text ≠ "") (origin : Origin)
    (clock : Instant) : Sound (t.startAnswer text origin clock) where
  committed := sound.complete.committed
  inProgress m open_ := by
    obtain rfl := Option.some.inj open_
    exact ⟨rfl, rfl, nonempty⟩

theorem append (sound : Sound t) (text : String) (origin : Origin) :
    Sound (t.append text origin) where
  committed := sound.committed
  inProgress m open_ := by
    obtain ⟨n, before, rfl⟩ := Option.map_eq_some_iff.mp open_
    obtain ⟨incomplete, role, content⟩ := sound.inProgress n before
    exact ⟨incomplete, role, fun empty => content (String.append_eq_empty_iff.mp empty).1⟩

theorem say (sound : Sound t) (role : Role) (line : String) (clock : Instant) :
    Sound (t.say role line clock) where
  committed m member := by
    rcases List.mem_append.mp member with old | new
    · exact sound.committed m old
    · obtain rfl := List.mem_singleton.mp new
      rfl
  inProgress := sound.inProgress

theorem replay (t : Transcript) (entries : List Entry) (clock : Instant) :
    Sound (t.replay entries clock) where
  committed m member := by
    obtain ⟨n, -, rfl⟩ := List.mem_map.mp member
    rfl
  inProgress m open_ := by cases open_

theorem clear (t : Transcript) : Sound t.clear where
  committed m member := by cases member
  inProgress m open_ := by cases open_

end Transcript.Sound

/-- Only the message in progress is incomplete, and what is gathered is text. -/
structure Feed.Sound (f : Feed) : Prop where
  transcript : f.transcript.Sound
  gathered : ∀ g, f.gathered = some g → g.text ≠ ""

namespace Feed.Sound

variable {f g : Feed}

theorem of_none {f : Feed} (transcript : f.transcript.Sound) (idle : f.gathered = none) :
    f.Sound where
  transcript := transcript
  gathered g gathered := by
    rw [idle] at gathered
    cases gathered

theorem transcript_flush (sound : f.Sound) (clock : Instant) :
    (f.flush clock).transcript.Sound := by
  cases gathered : f.gathered with
  | none =>
      rw [transcript_flush_of_none gathered]
      exact sound.transcript
  | some g =>
      cases open_ : f.transcript.inProgress with
      | none =>
          rw [transcript_flush_start gathered open_]
          exact sound.transcript.startAnswer (sound.gathered g gathered) _ _
      | some m =>
          rw [transcript_flush_append gathered open_]
          exact sound.transcript.append _ _

theorem ne_empty {text : String} (piece : text.isEmpty = false) : text ≠ "" := by
  rintro rfl
  cases piece

theorem gather (sound : f.Sound) {fragment : Fragment} (text : fragment.text ≠ "")
    (tick : Nat) : (f.gather fragment tick).Sound where
  transcript := sound.transcript
  gathered g gathered := by
    cases before : f.gathered with
    | none =>
        rw [gathered_gather_of_none before] at gathered
        obtain rfl := Option.some.inj gathered
        exact text
    | some old =>
        rw [gathered_gather_of_some before] at gathered
        obtain rfl := Option.some.inj gathered
        exact fun empty => text (String.append_eq_empty_iff.mp empty).2

theorem push (sound : f.Sound) (fragment : Fragment) (now : Moment) :
    (f.push fragment now).1.Sound := by
  cases text : fragment.text.isEmpty with
  | true =>
      rw [push_of_isEmpty text]
      exact sound
  | false =>
      cases differ : f.isNewNode fragment with
      | true =>
          obtain ⟨idle, begun, -⟩ := push_of_isNewNode text differ now
          refine of_none ?_ idle
          rw [begun]
          exact (sound.transcript_flush now.clock).startAnswer (ne_empty text) _ _
      | false =>
          rw [push_of_gather text differ]
          exact sound.gather (ne_empty text) now.tick

theorem close (sound : f.Sound) (clock : Instant) : (f.close clock).Sound :=
  of_none (sound.transcript_flush clock).complete (gathered_flush f clock)

/-- Whatever an input does to the feed keeps it sound. -/
theorem change (sound : f.Sound) {now : Moment} {reset : Bool} (change : f.Change now reset g) :
    g.Sound := by
  cases change with
  | kept => exact sound
  | pushed fragment => exact sound.push fragment now
  | flushed => exact of_none (sound.transcript_flush now.clock) (gathered_flush f now.clock)
  | closed => exact sound.close now.clock
  | said role line =>
      exact of_none ((sound.close now.clock).transcript.say _ _ _) (gathered_flush f now.clock)
  | replayed entries => exact of_none (.replay _ _ _) rfl
  | cleared => exact of_none (.clear _) rfl

end Feed.Sound

/-- The nodes of gathered and shown text agree after whatever an input does to the feed. -/
theorem Feed.Coherent.change {f g : Feed} (coherent : f.Coherent) {now : Moment} {reset : Bool}
    (change : f.Change now reset g) : g.Coherent := by
  cases change with
  | kept => exact coherent
  | pushed fragment => exact coherent_push coherent fragment now
  | flushed => exact coherent_of_none (gathered_flush f now.clock)
  | closed => exact coherent_of_none (gathered_flush f now.clock)
  | said role line => exact coherent_of_none (gathered_flush f now.clock)
  | replayed entries => exact coherent_of_none rfl
  | cleared => exact coherent_of_none rfl

namespace State

theorem run_induction {motive : Feed → Prop} {s : State} (start : motive s.feed)
    (change : ∀ {f g : Feed} {now : Moment} {reset : Bool}, motive f → f.Change now reset g →
      motive g) (inputs : List (Input × Moment)) : motive (s.run inputs).feed := by
  induction inputs generalizing s with
  | nil => exact start
  | cons head rest ih => exact ih (change start (change_step s head.2 head.1))

variable (session : String) (interval : Nat) (inputs : List (Input × Moment))

theorem sound_run : ((initial session interval).run inputs).feed.Sound :=
  run_induction (.of_none (.clear {}) rfl) (fun sound change => sound.change change) inputs

theorem coherent_run : ((initial session interval).run inputs).feed.Coherent :=
  run_induction (Feed.coherent_of_none rfl) (fun coherent change => coherent.change change) inputs

end State

/-! ## What a reader sees -/

/-- Messages that were complete come first and unchanged, and one that was not has grown at its
place. -/
structure Grown (before after : List Message) : Prop where
  complete : before.filter (·.isComplete) <+: after
  incomplete : ∀ (i : Nat) (m : Message), before[i]? = some m → m.isComplete = false →
    ∃ n, after[i]? = some n ∧ m.Grows n

/-- An incomplete message is the last one, and an answer with text in it. -/
def OpenLast (messages : List Message) : Prop :=
  ∀ (i : Nat) (m : Message), messages[i]? = some m → m.isComplete = false →
    i + 1 = messages.length ∧ m.IsOpen

namespace Transcript.Sound

variable {t u : Transcript}

theorem filter_visible (sound : Sound t) : t.visible.filter (·.isComplete) = t.committed := by
  have kept : t.committed.filter (·.isComplete) = t.committed :=
    List.filter_eq_self.mpr sound.committed
  rw [visible, List.filter_append, kept]
  cases open_ : t.inProgress with
  | none => exact List.append_nil _
  | some m =>
      have incomplete := (sound.inProgress m open_).incomplete
      have dropped : [m].filter (·.isComplete) = [] :=
        List.filter_cons_of_neg (by rw [incomplete]; exact Bool.false_ne_true)
      rw [Option.toList_some, dropped, List.append_nil]

/-- An incomplete message stands at the place of the message in progress. -/
theorem at_incomplete (sound : Sound t) {i : Nat} {m : Message} (here : t.visible[i]? = some m)
    (incomplete : m.isComplete = false) :
    i = t.committed.length ∧ t.inProgress = some m := by
  rcases Nat.lt_trichotomy i t.committed.length with inside | last | beyond
  · rw [visible_getElem?_of_lt inside] at here
    have complete := sound.committed m (List.mem_of_getElem? here)
    rw [incomplete] at complete
    cases complete
  · rw [last, visible_getElem?_length] at here
    exact ⟨last, here⟩
  · obtain ⟨bound, -⟩ := List.getElem?_eq_some_iff.mp here
    rw [length_visible, length] at bound
    cases open_ : t.inProgress with
    | none => simp only [open_, Option.toList_none, List.length_nil] at bound; omega
    | some m => simp only [open_, Option.toList_some, List.length_singleton] at bound; omega

theorem openLast (sound : Sound t) : OpenLast t.visible := by
  intro i m here incomplete
  obtain ⟨last, open_⟩ := sound.at_incomplete here incomplete
  refine ⟨?_, sound.inProgress m open_⟩
  rw [length_visible, length, open_, last]
  rfl

theorem grown (sound : Sound t) (grows : Grows t u) : Grown t.visible u.visible where
  complete := by
    rw [sound.filter_visible]
    exact grows.committed.trans (List.prefix_append _ _)
  incomplete i m here incomplete := by
    obtain ⟨rfl, open_⟩ := sound.at_incomplete here incomplete
    exact grows.inProgress m open_

end Transcript.Sound

/-- The last message has just begun with a fragment; the one before it is complete, as are all
others, and comes from the given node. -/
def BegunBehind (messages : List Message) (fragment : Fragment) (node : Option String) : Prop :=
  ∃ earlier old new, messages = earlier ++ [old, new] ∧ (∀ m ∈ earlier, m.isComplete = true) ∧
    old.isComplete = true ∧ old.origin.node = node ∧
    new.isComplete = false ∧ new.content = fragment.text ∧ new.origin = fragment.origin

/-- A fragment of another node is seen at once, behind a message that is complete. -/
theorem Feed.begunBehind_push {f : Feed} (sound : f.Sound) (coherent : f.Coherent)
    {fragment : Fragment} (text : fragment.text ≠ "") (differ : f.isNewNode fragment = true)
    (now : Moment) :
    BegunBehind (f.push fragment now).1.transcript.visible fragment f.node := by
  have nonempty : fragment.text.isEmpty = false := by
    cases empty : fragment.text.isEmpty with
    | true => exact absurd (String.isEmpty_iff.mp empty) text
    | false => rfl
  obtain ⟨-, begun, -⟩ := push_of_isNewNode nonempty differ now
  obtain ⟨new, current, -, known, -⟩ := isNewNode_eq_true_iff.mp differ
  have shown := sound.transcript_flush now.clock
  have node := (node_flush coherent now.clock).trans known
  obtain ⟨m, open_, here⟩ := Option.bind_eq_some_iff.mp node
  let answer : Message :=
    { id := (f.flush now.clock).transcript.freshId, role := .assistant, content := fragment.text
      time := now.clock, origin := fragment.origin, isComplete := false }
  refine ⟨(f.flush now.clock).transcript.committed, Transcript.completed m, answer, ?_,
    shown.committed, rfl, here.trans known.symm, rfl, rfl, rfl⟩
  rw [begun, Transcript.startAnswer, Transcript.visible_issue, Transcript.visible_start,
    Transcript.visible_complete, open_, List.append_assoc]
  rfl

namespace State

/-- What a reader sees only grows between resets: in every reachable state and for every input but a
history that is accepted and a switch of the session, complete messages are seen again first and
unchanged, and an incomplete one has grown at its place.  An incomplete message is the last one, an
answer with text in it.  And when a chunk brings text of another node, it is seen behind a message
that is complete. -/
theorem seen_grows_between_resets (session : String) (interval : Nat)
    (inputs : List (Input × Moment)) (input : Input) (now : Moment) :
    let s := (initial session interval).run inputs
    let next := (s.step input now).1
    (s.resets input = false → Grown s.snapshot.messages next.snapshot.messages) ∧
      OpenLast s.snapshot.messages ∧
      ∀ text piece origin, input = .received text →
        Inbound.read? text = some (.chunk (some piece) origin) → piece ≠ "" →
        s.feed.isNewNode ⟨piece, origin⟩ = true →
        BegunBehind next.snapshot.messages ⟨piece, origin⟩ s.feed.node := by
  intro s next
  have sound : s.feed.Sound := sound_run session interval inputs
  refine ⟨?_, sound.transcript.openLast, ?_⟩
  · intro keeps
    have change := change_step s now input
    rw [keeps] at change
    exact sound.transcript.grown (Feed.grows_of_change change)
  · rintro text piece origin rfl read nonempty differ
    have pushed : next = s.pushChunk piece origin now := by
      simp only [next, step, receive, read, dispatch]
    rw [pushed]
    exact Feed.begunBehind_push sound (coherent_run session interval inputs) nonempty differ now

def chunkOfOne : String := "\x7b\"type\":\"chunk\",\"message\":\"a\",\"nodeId\":\"1\"\x7d"

def chunkOfTwo : String := "\x7b\"type\":\"chunk\",\"message\":\"b\",\"nodeId\":\"2\"\x7d"

/-- A text of one node has been gathered and is not yet seen. -/
def gatheringOne : State :=
  (initial "default" 50).run [(.received chunkOfOne, ⟨0, ⟨0, 0⟩⟩)]

theorem seen_grows_behind_gathered_chunk :
    gatheringOne.resets (.received chunkOfTwo) = false ∧
      Grown gatheringOne.snapshot.messages
        (gatheringOne.step (.received chunkOfTwo) ⟨1, ⟨0, 1⟩⟩).1.snapshot.messages ∧
      gatheringOne.feed.isNewNode ⟨"b", { node := some "2" }⟩ = true ∧
      BegunBehind (gatheringOne.step (.received chunkOfTwo) ⟨1, ⟨0, 1⟩⟩).1.snapshot.messages
        ⟨"b", { node := some "2" }⟩ gatheringOne.feed.node := by
  have keeps : gatheringOne.resets (.received chunkOfTwo) = false := rfl
  have differ : gatheringOne.feed.isNewNode ⟨"b", { node := some "2" }⟩ = true := rfl
  have read : Inbound.read? chunkOfTwo = some (.chunk (some "b") { node := some "2" }) := rfl
  have law := seen_grows_between_resets "default" 50 [(.received chunkOfOne, ⟨0, ⟨0, 0⟩⟩)]
    (.received chunkOfTwo) ⟨1, ⟨0, 1⟩⟩
  exact ⟨keeps, law.1 keeps, differ, law.2.2 _ _ _ rfl read (by decide) differ⟩

end State

end StreamingChat.Chat
