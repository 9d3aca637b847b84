import StreamingChat.Proofs.Chat.Repetition
import StreamingChat.Proofs.Client.Agreement

/-!
# When readers get the same again

A snapshot is stored when the state is marked.  Where a mark comes without a visible change, readers
get under a new revision what they have already.  Besides the inputs that repeat what is shown, that
is a link which opens and is lost at once while a history is waited for.
-/

namespace StreamingChat.Client

open StreamingChat.Chat
open StreamingChat.Link
open StreamingChat.Wire

/-- An input on which readers get what they have already. -/
inductive Repeats (c : Client) (r : Reading) (input : Input) : Prop where
  | told {heard : State.Input} (told : c.told input r = some heard)
      (kept : drops (c.hands? input r) r = false) (repeats : c.state.Repeats r.now heard)
  | lostAtOnce (running : c.isRunning = true) (opens : input = .attempted (.ok ()))
      (connecting : c.isConnecting = true) (owed : c.state.session.owed = true)
      (loading : c.state.session.loading = true) (lost : r.sink.isOk = false)

variable {c : Client} {input : Input} {r : Reading}

/-- Without a link a frame is handed over only when the link opens. -/
theorem opens_of_hands {frame : Outbound} (hands : c.hands? input r = some frame)
    (closed : c.connection.isOpen = false) :
    input = .attempted (.ok ()) ∧ c.isConnecting = true ∧ c.state.session.owed = true := by
  obtain ⟨running, hands⟩ := Option.ite_none_right_eq_some.mp hands
  cases input with
  | command command =>
      obtain ⟨open_, -⟩ := Option.ite_none_right_eq_some.mp hands
      cases closed.symm.trans open_
  | attempted result =>
      cases result with
      | ok =>
          obtain ⟨connecting, opened⟩ := Option.ite_none_right_eq_some.mp hands
          refine ⟨rfl, connecting, ?_⟩
          cases owed : c.state.session.owed with
          | true => rfl
          | false =>
              rw [Session.opened_of_not_owed owed] at opened
              cases opened
      | error fault => cases hands
  | timer => cases hands
  | received item =>
      cases item with
      | text text =>
          obtain ⟨open_, -⟩ := Option.ite_none_right_eq_some.mp hands
          cases closed.symm.trans open_
      | failed fault => cases hands
      | ended => cases hands
  | flush => cases hands
  | abandoned => cases hands

/-- A link that opens while the history is owed is handed the frame that asks for it. -/
theorem hands_of_opening (running : c.isRunning = true) (connecting : c.isConnecting = true)
    (owed : c.state.session.owed = true) (r : Reading) :
    c.hands? (.attempted (.ok ())) r = some (.setSession c.state.session.current) := by
  have opened := congrArg Prod.snd (Session.opened_of_owed owed)
  rw [hands?, if_pos running]
  exact (if_pos connecting).trans opened

/-- A frame that is not taken loses an open link, which is seen. -/
theorem not_repeating_of_open (agrees : c.Agrees) (open_ : c.connection.isOpen = true)
    (dropped : drops (c.hands? input r) r = true) : ¬c.state.Repeating (c.outcome input r) := by
  have connected : c.state.isConnected = true := agrees.connected.trans open_
  refine State.Repeating.not_of_connected ?_
  rw [outcome, lose, if_pos dropped, connected]
  exact Bool.false_ne_true

/-- Where the link stays, an input repeats what is shown if what it tells does. -/
theorem repeating_of_kept (agrees : c.Agrees) (clean : c.state.isDirty = false)
    (sound : c.state.feed.Sound) (kept : drops (c.hands? input r) r = false) :
    c.state.Repeating (c.outcome input r) ↔ c.Repeats r input := by
  have fits : c.state.Fits c.state.isConnected := agrees.connected.symm ▸ agrees
  have came : c.outcome input r = c.state.hear (c.told input r) r.now := by
    rw [outcome, lose, kept]
    rfl
  rw [came]
  constructor
  · intro repeating
    cases told : c.told input r with
    | none =>
        rw [told] at repeating
        exact absurd repeating (State.Repeating.not_of_clean clean)
    | some heard =>
        rw [told] at repeating
        have repeats := (State.repeating_step clean sound fits heard r.now).mp repeating
        exact .told told kept repeats
  · intro repeats
    cases repeats with
    | told told kept repeats =>
        rw [told]
        exact (State.repeating_step clean sound fits _ r.now).mpr repeats
    | lostAtOnce running opens connecting owed loading lost =>
        rw [opens, hands_of_opening running connecting owed, drops, lost] at kept
        cases kept

/-- Where the link is lost with a frame, an input repeats what is shown if the link was only just
opened and a history is waited for. -/
theorem repeating_of_dropped (agrees : c.Agrees) (running : c.isRunning = true)
    (dropped : drops (c.hands? input r) r = true) :
    c.state.Repeating (c.outcome input r) ↔ c.Repeats r input := by
  obtain ⟨some_, lost⟩ := Bool.and_eq_true_iff.mp dropped
  obtain ⟨frame, hands⟩ := Option.isSome_iff_exists.mp some_
  cases open_ : c.connection.isOpen with
  | true =>
      refine iff_of_false (not_repeating_of_open agrees open_ dropped) ?_
      intro repeats
      cases repeats with
      | told told kept repeats => cases dropped.symm.trans kept
      | lostAtOnce running opens connecting owed loading lost =>
          cases open_.symm.trans (Connection.not_open_of_connecting connecting)
  | false =>
      -- Without a link the frame is the first one of a link that has just opened.
      obtain ⟨rfl, connecting, owed⟩ := opens_of_hands hands open_
      have fits : c.state.Fits false := open_ ▸ agrees
      have told : c.told (.attempted (.ok ())) r = some .opened := by
        rw [Client.told, if_pos running]
        exact if_pos connecting
      have came : c.outcome (.attempted (.ok ())) r =
          c.state.opened.1.disconnected r.now := by
        rw [outcome, lose, if_pos dropped, told]
        rfl
      rw [came, State.repeating_opened_disconnected fits owed]
      constructor
      · intro loading
        exact .lostAtOnce running rfl connecting owed loading (Bool.not_eq_true' _ ▸ lost)
      · intro repeats
        cases repeats with
        | told told kept repeats => cases dropped.symm.trans kept
        | lostAtOnce running opens connecting owed loading lost => exact loading

namespace Step

variable {s : Step} {first : Snapshot}

/-- A state that repeats what is shown has the same stored again. -/
theorem takeChanges_iff (state t : State) :
    (∃ shown, t.takeChanges.2 = some shown ∧ shown.unnumbered = state.snapshot.unnumbered) ↔
      state.Repeating t := by
  constructor
  · rintro ⟨shown, taken, alike⟩
    cases dirty : t.isDirty with
    | false =>
        rw [State.takeChanges_of_clean dirty] at taken
        cases taken
    | true =>
        rw [State.takeChanges_of_dirty dirty] at taken
        cases taken
        exact ⟨dirty, alike⟩
  · intro repeating
    exact ⟨t.revised.snapshot, congrArg Prod.snd (State.takeChanges_of_dirty repeating.dirty),
      repeating.alike⟩

theorem stored_next (settled : s.Settled first) (agrees : s.client.Agrees)
    (sound : s.client.state.feed.Sound) (input : Input) (r : Reading) :
    ∃ stored : Option Snapshot, (s.next input r).snapshots = s.snapshots ++ stored.toList ∧
      ((∃ shown, stored = some shown ∧
          shown.unnumbered = s.client.published.unnumbered) ↔ s.client.Repeats r input) := by
  cases running : s.client.isRunning with
  | false =>
      refine ⟨none, ?_, ?_⟩
      · rw [snapshots_next_of_stopped running, Option.toList_none, List.append_nil]
      · refine iff_of_false (fun ⟨shown, stored, _⟩ => by cases stored) ?_
        intro repeats
        cases repeats with
        | told told kept repeats => cases running.symm.trans (tells_of_told told).1
        | lostAtOnce still opens connecting owed loading lost => cases running.symm.trans still
  | true =>
      have course := course_next running input r
      refine ⟨(s.client.outcome input r).takeChanges.2, course.snapshots, ?_⟩
      rw [settled.current, takeChanges_iff]
      cases dropped : drops (s.client.hands? input r) r with
      | false => exact repeating_of_kept agrees settled.clean sound dropped
      | true => exact repeating_of_dropped agrees running dropped

end Step

/-- An input has at most one snapshot stored, and that shows something else than the one before it
unless the input repeats what is shown.  In the ways of `Repeats`, and only in those, readers get
again what they have. -/
theorem same_stored_just_when_repeated (session mode : String) (interval : Nat) (backoff : Backoff)
    (inputs : List (Input × Reading)) (input : Input) (r : Reading) :
    let first := (State.initial session interval).snapshot
    let s := (initial session mode interval backoff).start.run inputs
    s.client.published = s.snapshots.getLast?.getD first ∧
      ∃ stored : Option Snapshot, (s.next input r).snapshots = s.snapshots ++ stored.toList ∧
        ((∃ shown, stored = some shown ∧
            shown.unnumbered = s.client.published.unnumbered) ↔ s.client.Repeats r input) := by
  intro first s
  have settled : s.Settled first := settled_run session mode interval backoff inputs
  have agrees : s.client.Agrees := agrees_run session mode interval backoff inputs
  have sound := sound_run session mode interval backoff inputs
  exact ⟨settled.held, Step.stored_next settled agrees sound input r⟩

/-- The link ends, and the attempt to open another is refused. -/
def lostThenRefused : List (Input × Reading) :=
  [(.attempted (.ok ()), calm), (.received .ended, calm), (.timer, calm),
    (.attempted (.error (.refused "no answer")), calm)]

theorem same_stored_just_when_repeated_of_refused :
    let s := fresh.run lostThenRefused.dropLast
    let refused : Input := .attempted (.error (.refused "no answer"))
    s.client.Repeats calm refused ∧
      ∃ shown, (s.next refused calm).snapshots = s.snapshots ++ [shown] ∧
        shown.unnumbered = s.client.published.unnumbered := by
  intro s refused
  have repeats : s.client.Repeats calm refused := .told rfl rfl (.disconnected rfl)
  obtain ⟨-, stored, appended, repeated⟩ :=
    same_stored_just_when_repeated "default" "chat" 50 ⟨1, 1, 0.0⟩ lostThenRefused.dropLast
      refused calm
  obtain ⟨shown, rfl, alike⟩ := repeated.mpr repeats
  exact ⟨repeats, shown, appended, alike⟩

/-- A refused attempt has readers get the loss of the link again, under a new revision. -/
theorem same_stored_twice :
    ∃ opened lost again, (fresh.run lostThenRefused).snapshots = [opened, lost, again] ∧
      lost.isConnected = false ∧ again.revision = lost.revision + 1 ∧
      again.unnumbered = lost.unnumbered :=
  ⟨_, _, _, rfl, rfl, rfl, rfl⟩

end StreamingChat.Client
