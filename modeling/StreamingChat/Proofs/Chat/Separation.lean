import StreamingChat.Proofs.Chat.Coalescing
import StreamingChat.Proofs.Chat.Matching

/-!
# Sessions are kept apart

After a switch of the session nothing of the old one can be told.  Two conversations that may differ
in everything but the interval of their feeds, the statistics and the state of the link are pointed
at the same session and then given the same inputs at the same ticks.  They show the same, ask for
the same effects, wait for the same deadlines and mark the same changes.  Ids that the client made
up, the count of revisions and readings of the two clocks are left out of account.
-/

namespace StreamingChat.Chat

open StreamingChat.Calendar (Instant Moment)
open StreamingChat.Wire

namespace State

/-! ## What lies aside of the feed

It goes its own way: neither the feed nor the clock decides what becomes of it, nor which effects
are asked for. -/

theorem aside_offer (s : State) (request : Approval.Request) :
    (s.offer request).1.aside = (s.aside.offer request).1.aside ∧
      (s.offer request).2 = (s.aside.offer request).2 := by
  have gate : s.aside.gate = s.gate := rfl
  unfold offer
  rw [gate]
  split
  · exact ⟨rfl, rfl⟩
  · exact ⟨rfl, rfl⟩

theorem aside_dispatch (s : State) (frame : Inbound) (now later : Moment) :
    (s.dispatch frame now).1.aside = (s.aside.dispatch frame later).1.aside ∧
      (s.dispatch frame now).2 = (s.aside.dispatch frame later).2 := by
  cases frame with
  | chunk text origin =>
      cases text with
      | none => exact ⟨rfl, rfl⟩
      | some text => exact ⟨rfl, rfl⟩
  | confirmation request => exact aside_offer s request
  | history entries session =>
      have session : s.aside.session = s.session := rfl
      simp only [dispatch, session]
      split
      · exact ⟨rfl, rfl⟩
      · exact ⟨rfl, rfl⟩
  | done => exact ⟨rfl, rfl⟩
  | stopped => exact ⟨rfl, rfl⟩
  | error message => exact ⟨rfl, rfl⟩
  | stats data => exact ⟨rfl, rfl⟩
  | searchResults data => exact ⟨rfl, rfl⟩
  | activity update => exact ⟨rfl, rfl⟩
  | status => exact ⟨rfl, rfl⟩
  | sessionChanged session => exact ⟨rfl, rfl⟩
  | downloadProgress data => exact ⟨rfl, rfl⟩
  | unknown => exact ⟨rfl, rfl⟩

theorem aside_flushDue (s : State) (now : Moment) : (s.flushDue now).aside = s.aside := by
  unfold flushDue
  split
  · rfl
  · rfl

theorem aside_step (s : State) (input : Input) (now later : Moment) :
    (s.step input now).1.aside = (s.aside.step input later).1.aside ∧
      (s.step input now).2 = (s.aside.step input later).2 := by
  cases input with
  | received text =>
      simp only [step, receive]
      cases Inbound.read? text with
      | none => exact ⟨rfl, rfl⟩
      | some frame => exact aside_dispatch s frame now later
  | flushDue =>
      refine ⟨?_, rfl⟩
      change (s.flushDue now).aside = (s.aside.flushDue later).aside
      rw [aside_flushDue, aside_flushDue]
      rfl
  | takeChanges =>
      refine ⟨?_, rfl⟩
      change s.takeChanges.1.aside = s.aside.takeChanges.1.aside
      rw [aside_takeChanges, aside_takeChanges]
      rfl
  | opened => exact ⟨rfl, rfl⟩
  | disconnected => exact ⟨rfl, rfl⟩
  | ended => exact ⟨rfl, rfl⟩
  | turn content => exact ⟨rfl, rfl⟩
  | switched session connected => exact ⟨rfl, rfl⟩
  | answered request approved remember => exact ⟨rfl, rfl⟩

/-! ## Feed and mark -/

/-- Two states whose feeds match and that are marked alike. -/
structure InStep (readings : List (Instant × Instant)) (s t : State) : Prop where
  feed : s.feed.Matches readings t.feed
  isDirty : s.isDirty = t.isDirty

/-- Two states that match in all that a reader sees and in all that decides what follows. -/
structure Matches (readings : List (Instant × Instant)) (s t : State) : Prop
    extends InStep readings s t where
  aside : s.aside = t.aside

namespace InStep

variable {readings : List (Instant × Instant)} {s t : State}

/-- A visible change marks both. -/
theorem touched {s t : State} (feed : s.feed.Matches readings t.feed) :
    InStep readings s.touched t.touched :=
  ⟨feed, rfl⟩

theorem touchedIf (both : InStep readings s t) {here there : Bool} (same : here = there) :
    InStep readings (s.touchedIf here) (t.touchedIf there) where
  feed := both.feed
  isDirty := by rw [State.touchedIf, State.touchedIf, both.isDirty, same]

theorem takeChanges (both : InStep readings s t) :
    InStep readings s.takeChanges.1 t.takeChanges.1 where
  feed := by
    rw [feed_takeChanges, feed_takeChanges]
    exact both.feed
  isDirty := by
    have same := both.isDirty
    cases left : s.isDirty with
    | true =>
        have right : t.isDirty = true := same.symm.trans left
        rw [State.takeChanges, State.takeChanges, if_pos left, if_pos right]
    | false =>
        have right : t.isDirty = false := same.symm.trans left
        rw [State.takeChanges, State.takeChanges, left, right]
        exact same

end InStep

namespace Matches

variable {readings : List (Instant × Instant)} {s t : State}

theorem session (both : Matches readings s t) : s.session = t.session :=
  ((aside_eq_iff s t).mp both.aside).1

theorem gate (both : Matches readings s t) : s.gate = t.gate :=
  ((aside_eq_iff s t).mp both.aside).2.1

theorem isProcessing (both : Matches readings s t) : s.isProcessing = t.isProcessing :=
  ((aside_eq_iff s t).mp both.aside).2.2.2.2.1

theorem offer (both : Matches readings s t) (request : Approval.Request) :
    InStep readings (s.offer request).1 (t.offer request).1 := by
  unfold State.offer
  rw [both.gate]
  split
  · exact .touched both.feed
  · exact ⟨both.feed, both.isDirty⟩

variable {now later : Moment} (tick : now.tick = later.tick)
  (together : SameTime readings now.clock later.clock)

include together in
theorem finish (both : Matches readings s t) :
    InStep readings (s.finish now) (t.finish later) := by
  apply InStep.touchedIf
  · exact ⟨both.feed.close together, both.isDirty⟩
  · rw [both.feed.isOpen, both.isProcessing]

include tick together

theorem pushChunk (both : Matches readings s t) (text : String) (origin : Origin) :
    InStep readings (s.pushChunk text origin now) (t.pushChunk text origin later) := by
  obtain ⟨feed, same⟩ := both.feed.push ⟨text, origin⟩ tick together
  apply InStep.touchedIf
  · exact ⟨feed, both.isDirty⟩
  · rw [same]

theorem dispatch (both : Matches readings s t) (frame : Inbound) :
    InStep readings (s.dispatch frame now).1 (t.dispatch frame later).1 := by
  cases frame with
  | chunk text origin =>
      cases text with
      | none => exact both.toInStep
      | some text => exact both.pushChunk tick together text origin
  | done => exact both.finish together
  | stopped => exact both.finish together
  | error message => exact .touched (both.feed.close_say together .system (errorText message))
  | confirmation request => exact both.offer request
  | history entries session =>
      simp only [State.dispatch, both.session]
      split
      · exact .touched
          (.replayed both.feed.interval together (entries.filterMap Entry.ofValue?))
      · exact both.toInStep
  | stats data => exact .touched both.feed
  | searchResults data => exact .touched both.feed
  | activity update => exact .touched both.feed
  | status => exact both.toInStep
  | sessionChanged session => exact both.toInStep
  | downloadProgress data => exact both.toInStep
  | unknown => exact both.toInStep

theorem flushDue (both : Matches readings s t) :
    InStep readings (s.flushDue now) (t.flushDue later) := by
  unfold State.flushDue
  rw [both.feed.isDue, tick]
  split
  · apply InStep.touchedIf
    · exact ⟨both.feed.flush together, both.isDirty⟩
    · exact both.feed.hasGathered
  · exact both.toInStep

theorem inStep_step (both : Matches readings s t) (input : Input) :
    InStep readings (s.step input now).1 (t.step input later).1 := by
  cases input with
  | received text =>
      simp only [State.step, receive]
      cases Inbound.read? text with
      | none => exact .touched both.feed
      | some frame => exact both.dispatch tick together frame
  | flushDue => exact both.flushDue tick together
  | opened => exact .touched both.feed
  | disconnected => exact .touched (both.feed.close together)
  | ended => exact .touched (both.feed.close together)
  | turn content => exact .touched (both.feed.close_say together .user content)
  | switched session connected => exact .touched (.cleared readings both.feed.interval)
  | answered request approved remember => exact .touched both.feed
  | takeChanges => exact both.toInStep.takeChanges

/-- One input keeps the match, and asks for the same effects on both sides. -/
theorem step (both : Matches readings s t) (input : Input) :
    Matches readings (s.step input now).1 (t.step input later).1 ∧
      (s.step input now).2 = (t.step input later).2 := by
  obtain ⟨left, here⟩ := aside_step s input now now
  obtain ⟨right, there⟩ := aside_step t input later now
  refine ⟨⟨both.inStep_step tick together input, ?_⟩, ?_⟩
  · rw [left, right, both.aside]
  · rw [here, there, both.aside]

end Matches

/-- A switch of the session leaves nothing to tell two states apart but what it keeps. -/
theorem matches_switchSession (readings : List (Instant × Instant)) {s t : State}
    (interval : s.feed.interval = t.feed.interval) (stats : s.stats = t.stats)
    (connected : s.isConnected = t.isConnected) (session : String) (isOpen : Bool) :
    Matches readings (s.switchSession session isOpen).1 (t.switchSession session isOpen).1 where
  feed := .cleared readings interval
  isDirty := rfl
  aside := by
    apply (aside_eq_iff _ _).mpr
    exact ⟨rfl, rfl, rfl, connected, rfl, rfl, stats, rfl⟩

/-! ## What can be told of a state -/

end State

/-- Two snapshots show the same but for the count of revisions. -/
structure Snapshot.Matches (readings : List (Instant × Instant)) (left right : Snapshot) :
    Prop where
  messages : List.Forall₂ (Message.Matches readings) left.messages right.messages
  rest : { left with messages := [], revision := 0 } = { right with messages := [], revision := 0 }

namespace State

variable {readings : List (Instant × Instant)} {s t : State}

theorem Matches.snapshot (both : Matches readings s t) :
    s.snapshot.Matches readings t.snapshot where
  messages := both.feed.transcript.visible
  rest := congrArg (fun a : State => { a.snapshot with messages := [], revision := 0 }) both.aside

/-- Either nothing has changed on both sides, or both take a snapshot and these match. -/
theorem Matches.takeChanges (both : Matches readings s t) :
    Option.Rel (Snapshot.Matches readings) s.takeChanges.2 t.takeChanges.2 := by
  have same := both.isDirty
  cases left : s.isDirty with
  | true =>
      have right : t.isDirty = true := same.symm.trans left
      rw [State.takeChanges, State.takeChanges, if_pos left, if_pos right]
      have shown := both.snapshot
      exact .some ⟨shown.messages, shown.rest⟩
  | false =>
      have right : t.isDirty = false := same.symm.trans left
      rw [State.takeChanges, State.takeChanges, left, right]
      exact .none

/-- An input that two conversations are given at one tick, with what the clock of each shows. -/
structure Cue where
  input : Input
  tick : Nat
  here : Instant
  there : Instant

namespace Cue

def left (cue : Cue) : Input × Moment :=
  (cue.input, ⟨cue.tick, cue.here⟩)

def right (cue : Cue) : Input × Moment :=
  (cue.input, ⟨cue.tick, cue.there⟩)

/-- What the two clocks show at the inputs. -/
def clocks (cues : List Cue) : List (Instant × Instant) :=
  cues.map fun cue => (cue.here, cue.there)

end Cue

theorem Matches.cue (both : Matches readings s t) (cue : Cue)
    (read : (cue.here, cue.there) ∈ readings) :
    Matches readings (s.step cue.left.1 cue.left.2).1 (t.step cue.right.1 cue.right.2).1 ∧
      (s.step cue.left.1 cue.left.2).2 = (t.step cue.right.1 cue.right.2).2 := by
  have together : SameTime readings cue.left.2.clock cue.right.2.clock := .inr read
  have tick : cue.left.2.tick = cue.right.2.tick := rfl
  exact both.step tick together cue.input

theorem Matches.run (both : Matches readings s t) (cues : List Cue)
    (read : ∀ cue ∈ cues, (cue.here, cue.there) ∈ readings) :
    Matches readings (s.run (cues.map Cue.left)) (t.run (cues.map Cue.right)) := by
  induction cues generalizing s t with
  | nil => exact both
  | cons cue rest ih =>
      have next := (both.cue cue (read cue List.mem_cons_self)).1
      exact ih next fun later member => read later (List.mem_cons_of_mem _ member)

/-- Sessions do not leak into each other.  Whatever else two states hold, once both are pointed at
the same session and given the same inputs at the same ticks, they show the same, the deadlines of
their feeds are the same, the one has changed if the other has, and they ask for the same effects,
at the switch as at every input that may follow. -/
theorem sessions_apart (s t : State) (interval : s.feed.interval = t.feed.interval)
    (stats : s.stats = t.stats) (connected : s.isConnected = t.isConnected) (session : String)
    (isOpen : Bool) (cues : List Cue) :
    let here := s.switchSession session isOpen
    let there := t.switchSession session isOpen
    let left := here.1.run (cues.map Cue.left)
    let right := there.1.run (cues.map Cue.right)
    here.2 = there.2 ∧
      left.snapshot.Matches (Cue.clocks cues) right.snapshot ∧
      left.feed.deadline = right.feed.deadline ∧
      Option.Rel (Snapshot.Matches (Cue.clocks cues)) left.takeChanges.2 right.takeChanges.2 ∧
      ∀ next : Cue,
        (left.step next.left.1 next.left.2).2 = (right.step next.right.1 next.right.2).2 := by
  intro here there left right
  have switched (readings : List (Instant × Instant)) : Matches readings here.1 there.1 :=
    matches_switchSession readings interval stats connected session isOpen
  have both : Matches (Cue.clocks cues) left right := by
    apply (switched (Cue.clocks cues)).run
    intro cue member
    exact List.mem_map_of_mem member
  refine ⟨rfl, both.snapshot, both.feed.deadline, both.takeChanges, ?_⟩
  intro next
  -- What the clocks show at the next input is read together as well.
  have longer : Matches (Cue.clocks (cues ++ [next])) left right := by
    apply (switched (Cue.clocks (cues ++ [next]))).run
    intro cue member
    exact List.mem_map_of_mem (List.mem_append_left _ member)
  have read : (next.here, next.there) ∈ Cue.clocks (cues ++ [next]) :=
    List.mem_map_of_mem (List.mem_append_right _ (List.mem_singleton_self next))
  exact (longer.cue next read).2

def askedForShell : String :=
  "\x7b\"type\":\"tool_confirmation_request\",\"data\":" ++
    "\x7b\"requestId\":\"1\",\"toolName\":\"shell\"\x7d\x7d"

def chunkOfAnswer : String := "\x7b\"type\":\"chunk\",\"message\":\"a\",\"nodeId\":\"1\"\x7d"

/-- A tool is approved for good, text is gathered, and the history is awaited. -/
def busy : State :=
  (initial "first" 50).run
    [(.opened, ⟨0, ⟨0, 0⟩⟩), (.received askedForShell, ⟨1, ⟨0, 1⟩⟩),
      (.answered "1" true true, ⟨2, ⟨0, 2⟩⟩), (.received chunkOfAnswer, ⟨3, ⟨0, 3⟩⟩)]

/-- The link has opened and that is all. -/
def idle : State :=
  (initial "second" 50).run [(.opened, ⟨0, ⟨0, 0⟩⟩), (.takeChanges, ⟨0, ⟨0, 0⟩⟩)]

/-- The backend asks for the tool again. -/
def askedAgain : Cue := ⟨.received askedForShell, 4, ⟨0, 4⟩, ⟨9, 0⟩⟩

theorem sessions_apart_of_busy :
    busy.feed.interval = idle.feed.interval ∧ busy.stats = idle.stats ∧
      busy.isConnected = idle.isConnected ∧
      busy.gate.isRemembered "shell" = true ∧
      busy.feed.gathered = some ⟨"a", { node := some "1" }⟩ ∧
      ((busy.switchSession "third" true).1.run [askedAgain.left]).snapshot.Matches
        (Cue.clocks [askedAgain])
        ((idle.switchSession "third" true).1.run [askedAgain.right]).snapshot ∧
      ((busy.switchSession "third" true).1.step askedAgain.left.1 askedAgain.left.2).2 =
        ((idle.switchSession "third" true).1.step askedAgain.right.1 askedAgain.right.2).2 := by
  have asked := sessions_apart busy idle rfl rfl rfl "third" true [askedAgain]
  have effects := sessions_apart busy idle rfl rfl rfl "third" true []
  exact ⟨rfl, rfl, rfl, rfl, rfl, asked.2.1, effects.2.2.2.2 askedAgain⟩

end State

end StreamingChat.Chat
