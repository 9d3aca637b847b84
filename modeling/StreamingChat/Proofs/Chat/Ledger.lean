import StreamingChat.Proofs.Chat.Direct

/-!
# What was said altogether

A ledger enters what every input adds to the text of a conversation: the text of a chunk, the text
of an error, the words of the user.  A history puts its own text in the place of what was there, and
another session begins with none.  The messages of a conversation without gathering, read one after
the other, say what the ledger says.
-/

namespace StreamingChat.Chat

open StreamingChat.Calendar (Instant Moment)
open StreamingChat.Wire

/-! ## The text of a transcript -/

namespace Transcript

/-- The messages read one after the other. -/
def text (t : Transcript) : List Char :=
  t.visible.flatMap (·.content.toList)

variable {t u : Transcript}

theorem text_issue (t : Transcript) (count : Nat) : (t.issue count).text = t.text := rfl

theorem text_clear (t : Transcript) : t.clear.text = [] := rfl

theorem text_complete (t : Transcript) : t.complete.text = t.text := by
  cases open_ : t.inProgress with
  | none => simp only [text, visible, complete, open_, Option.map_none, Option.toList_none,
      List.append_nil]
  | some m => simp only [text, visible, complete, open_, Option.map_some, Option.toList_some,
      Option.toList_none, List.append_nil, List.flatMap_append, List.flatMap_singleton, completed]

theorem text_startAnswer (t : Transcript) (piece : String) (origin : Origin) (clock : Instant) :
    (t.startAnswer piece origin clock).text = t.text ++ piece.toList := by
  rw [startAnswer, text_issue, text, visible_start, List.flatMap_append, List.flatMap_singleton]
  exact congrArg (· ++ piece.toList) (text_complete t)

theorem text_append {m : Message} (open_ : t.inProgress = some m) (piece : String)
    (origin : Origin) : (t.append piece origin).text = t.text ++ piece.toList := by
  simp only [text, visible, append, open_, Option.map_some, Option.toList_some,
    List.flatMap_append, List.flatMap_singleton, String.toList_append, List.append_assoc]

theorem text_say (idle : t.inProgress = none) (role : Role) (line : String) (clock : Instant) :
    (t.say role line clock).text = t.text ++ line.toList := by
  rw [say, text_issue, text, visible_push _ _ idle, List.flatMap_append, List.flatMap_singleton]
  rfl

theorem text_replay (t : Transcript) (entries : List Entry) (clock : Instant) :
    (t.replay entries clock).text = entries.flatMap (·.content.toList) := by
  rw [text, visible_replay, List.flatMap_def, List.flatMap_def]
  apply congrArg List.flatten
  apply List.ext_getElem
  · simp [messagesOf]
  · intro i left right
    simp [messagesOf, Entry.toMessage]

/-- Writing a fragment adds its text at the end. -/
theorem text_write (t : Transcript) (fragment : Fragment) (clock : Instant) :
    (t.write fragment clock).text = t.text ++ fragment.text.toList := by
  cases piece : fragment.text.isEmpty with
  | true =>
      rw [write_of_isEmpty piece, String.isEmpty_iff.mp piece]
      exact (List.append_nil _).symm
  | false =>
      cases open_ : t.inProgress with
      | none =>
          rw [write_of_none piece open_]
          exact text_startAnswer t _ _ _
      | some m =>
          by_cases goesOn : GoesOn fragment m
          · rw [write_of_goesOn piece open_ goesOn]
            exact text_append open_ _ _
          · obtain ⟨new, current, here, there, differ⟩ := not_goesOn_iff.mp goesOn
            rw [write_of_ne piece open_ here there differ]
            exact text_startAnswer t _ _ _

end Transcript

/-! ## The ledger -/

structure Ledger where
  session : String
  text : List Char := []

namespace Ledger

def add (l : Ledger) (more : String) : Ledger :=
  { l with text := l.text ++ more.toList }

/-- A history of another session is not entered. -/
def replace (l : Ledger) (entries : List Value) (session : Option String) : Ledger :=
  if session.all (· == l.session) then
    { l with text := (entries.filterMap Entry.ofValue?).flatMap (·.content.toList) }
  else l

def enter (l : Ledger) : State.Input → Ledger
  | .received text =>
    match Inbound.read? text with
    | some (.chunk (some piece) _) => l.add piece
    | some (.error message) => l.add (State.errorText message)
    | some (.history entries session) => l.replace entries session
    | _ => l
  | .turn content => l.add content
  | .switched session _ => { session }
  | _ => l

/-- What inputs say one after the other. -/
def enterAll (l : Ledger) (inputs : List (State.Input × Moment)) : Ledger :=
  inputs.foldl (fun l i => l.enter i.1) l

end Ledger

namespace State

/-- A conversation without gathering, and a ledger that says the same. -/
structure Kept (s : State) (l : Ledger) : Prop where
  ungathered : s.feed.gathered = none
  session : s.session.current = l.session
  text : s.feed.transcript.text = l.text

namespace Kept

variable {s : State} {l : Ledger}

theorem close (kept : Kept s l) (clock : Instant) :
    (s.feed.close clock).transcript.text = l.text := by
  rw [Feed.close, Transcript.text_complete, Feed.flush, kept.ungathered]
  exact kept.text

theorem close_say (kept : Kept s l) (role : Role) (line : String) (clock : Instant) :
    ((s.feed.close clock).transcript.say role line clock).text = l.text ++ line.toList := by
  rw [Transcript.text_say rfl, kept.close]

theorem gathered_close (s : State) (clock : Instant) : (s.feed.close clock).gathered = none :=
  Feed.gathered_flush s.feed clock

theorem dispatch (kept : Kept s l) (frame : Inbound) (now : Moment)
    (notChunk : ∀ text origin, frame ≠ .chunk (some text) origin) :
    Kept (s.dispatch frame now).1
      (match frame with
        | .error message => l.add (errorText message)
        | .history entries session => l.replace entries session
        | _ => l) := by
  cases frame with
  | chunk text origin =>
      cases text with
      | none => exact kept
      | some text => exact absurd rfl (notChunk text origin)
  | done => exact ⟨gathered_close s now.clock, kept.session, kept.close now.clock⟩
  | stopped => exact ⟨gathered_close s now.clock, kept.session, kept.close now.clock⟩
  | error message =>
      exact ⟨gathered_close s now.clock, kept.session, kept.close_say .system _ now.clock⟩
  | confirmation request =>
      change Kept (s.offer request).1 l
      refine ⟨?_, ?_, ?_⟩
      · rw [feed_offer]
        exact kept.ungathered
      · rw [session_offer]
        exact kept.session
      · rw [feed_offer]
        exact kept.text
  | history entries session =>
      simp only [State.dispatch, Ledger.replace, Session.accepts, kept.session]
      split
      · exact ⟨rfl, kept.session, Transcript.text_replay _ _ _⟩
      · exact kept
  | stats data => exact ⟨kept.ungathered, kept.session, kept.text⟩
  | searchResults data => exact ⟨kept.ungathered, kept.session, kept.text⟩
  | activity update => exact ⟨kept.ungathered, kept.session, kept.text⟩
  | status => exact kept
  | sessionChanged session => exact kept
  | downloadProgress data => exact kept
  | unknown => exact kept

theorem refuse (kept : Kept s l) (text : String) : Kept (s.refuse text) l := by
  refine ⟨kept.ungathered, ?_, kept.text⟩
  rw [← kept.session]
  simp only [State.refuse, touched]
  split <;> rfl

theorem received (kept : Kept s l) (text : String) (now : Moment) :
    Kept (s.stepDirectly (.received text) now).1 (l.enter (.received text)) := by
  cases read : Inbound.read? text with
  | none =>
      simp only [stepDirectly, receive, Ledger.enter, read]
      exact kept.refuse text
  | some frame =>
      by_cases chunk : ∃ piece origin, frame = .chunk (some piece) origin
      · obtain ⟨piece, origin, rfl⟩ := chunk
        simp only [stepDirectly, Ledger.enter, read]
        refine ⟨kept.ungathered, kept.session, ?_⟩
        exact (Transcript.text_write _ _ _).trans (congrArg (· ++ piece.toList) kept.text)
      · have notChunk (piece : String) (origin : Origin) : frame ≠ .chunk (some piece) origin :=
          fun found => chunk ⟨piece, origin, found⟩
        have next := kept.dispatch frame now notChunk
        cases frame with
        | chunk text origin =>
            cases text with
            | none => simpa only [stepDirectly, receive, Ledger.enter, read] using next
            | some text => exact absurd rfl (notChunk text origin)
        | _ => simpa only [stepDirectly, receive, Ledger.enter, read] using next

theorem step (kept : Kept s l) (input : Input) (now : Moment) :
    Kept (s.stepDirectly input now).1 (l.enter input) := by
  cases input with
  | received text => exact kept.received text now
  | flushDue => exact kept
  | opened =>
      refine ⟨kept.ungathered, ?_, kept.text⟩
      have same : s.session.opened.1.current = s.session.current := by
        unfold Session.opened
        split <;> rfl
      exact same.trans kept.session
  | disconnected => exact ⟨gathered_close s now.clock, kept.session, kept.close now.clock⟩
  | ended => exact ⟨gathered_close s now.clock, kept.session, kept.close now.clock⟩
  | turn content =>
      exact ⟨gathered_close s now.clock, kept.session, kept.close_say .user _ now.clock⟩
  | switched session connected => exact ⟨rfl, rfl, Transcript.text_clear _⟩
  | answered request approved remember => exact ⟨kept.ungathered, kept.session, kept.text⟩
  | takeChanges =>
      change Kept s.takeChanges.1 l
      refine ⟨?_, ?_, ?_⟩
      · rw [feed_takeChanges]
        exact kept.ungathered
      · rw [session_takeChanges]
        exact kept.session
      · rw [feed_takeChanges]
        exact kept.text

/-- The ledger of a run says what its messages say. -/
theorem run (kept : Kept s l) (inputs : List (Input × Moment)) :
    Kept (s.runDirectly inputs) (l.enterAll inputs) := by
  induction inputs generalizing s l with
  | nil => exact kept
  | cons head rest ih => exact ih (kept.step head.1 head.2)

theorem initial (session : String) (interval : Nat) :
    Kept (.initial session interval) { session } :=
  ⟨rfl, rfl, rfl⟩

end Kept

end State

end StreamingChat.Chat
