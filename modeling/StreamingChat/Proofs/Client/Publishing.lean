import Mathlib.Data.List.Induction
import StreamingChat.Proofs.Chat.Marking
import StreamingChat.Proofs.Client.Sending

/-!
# What readers get is current

Between two publications a client stays faithful: as long as its state is not marked, readers get
what the state shows.  Publishing settles it.  Since every input ends with a publication and every
answer comes after one, readers get the current snapshot after each input and with each answer.
-/

namespace StreamingChat.Client

open StreamingChat.Chat
open StreamingChat.Chat.State (Marks)
open StreamingChat.Link

/-- The revision that is announced. -/
def Act.revision? : Act → Option Nat
  | told (.stateChanged revision) => some revision
  | _ => none

/-- The snapshot that is stored. -/
def Act.snapshot? : Act → Option Snapshot
  | stored snapshot => some snapshot
  | _ => none

/-- An act that neither stores nor announces a snapshot. -/
structure Act.Quiet (act : Act) : Prop where
  revision : act.revision? = none
  snapshot : act.snapshot? = none

/-- Each revision was announced right after its snapshot was stored. -/
def StoredFirst (acts : List Act) : Prop :=
  ∀ before revision, before ++ [.told (.stateChanged revision)] <+: acts →
    ∃ snapshot, before.getLast? = some (.stored snapshot) ∧ snapshot.revision = revision

section

variable {acts : List Act}

theorem storedFirst_nil : StoredFirst [] := by
  intro before revision announced
  cases List.append_eq_nil_iff.mp (List.prefix_nil.mp announced) |>.2

theorem StoredFirst.concat (first : StoredFirst acts) {act : Act} (silent : act.revision? = none) :
    StoredFirst (acts ++ [act]) := by
  intro before revision announced
  rcases List.prefix_concat_iff.mp announced with last | earlier
  · obtain ⟨-, rfl⟩ := List.append_singleton_inj.mp last
    cases silent
  · exact first before revision earlier

theorem StoredFirst.concat_announced (first : StoredFirst acts) (snapshot : Snapshot) :
    StoredFirst (acts ++ [.stored snapshot] ++ [.told (.stateChanged snapshot.revision)]) := by
  intro before revision announced
  rcases List.prefix_concat_iff.mp announced with last | earlier
  · obtain ⟨rfl, same⟩ := List.append_singleton_inj.mp last
    cases same
    exact ⟨snapshot, List.getLast?_concat, rfl⟩
  · exact first.concat rfl before revision earlier

end

namespace Step

/-- The revisions that were announced. -/
def revisions (s : Step) : List Nat :=
  s.acts.filterMap Act.revision?

/-- The snapshots that were stored. -/
def snapshots (s : Step) : List Snapshot :=
  s.acts.filterMap Act.snapshot?

theorem revisions_did (s : Step) (act : Act) :
    (s.did act).revisions = s.revisions ++ act.revision?.toList :=
  filterMap_did Act.revision? s act

theorem snapshots_did (s : Step) (act : Act) :
    (s.did act).snapshots = s.snapshots ++ act.snapshot?.toList :=
  filterMap_did Act.snapshot? s act

/-- What was stored last is what readers get, and the revisions were announced one by one. -/
structure InOrder (first : Snapshot) (s : Step) : Prop where
  held : s.client.published = s.snapshots.getLast?.getD first
  revisions : s.revisions = List.range' 1 s.client.state.revision
  storedFirst : StoredFirst s.acts

/-- Readers get what the state shows unless the state is marked. -/
structure Faithful (first : Snapshot) (s : Step) : Prop extends InOrder first s where
  current : s.client.state.isDirty = false → s.client.published = s.client.state.snapshot

/-- Readers get what the state shows. -/
structure Settled (first : Snapshot) (s : Step) : Prop extends InOrder first s where
  clean : s.client.state.isDirty = false
  current : s.client.published = s.client.state.snapshot

variable {first : Snapshot} {s : Step}

theorem Settled.faithful (settled : s.Settled first) : s.Faithful first :=
  ⟨settled.toInOrder, fun _ => settled.current⟩

theorem Faithful.settled (faithful : s.Faithful first)
    (clean : s.client.state.isDirty = false) : s.Settled first :=
  ⟨faithful.toInOrder, clean, faithful.current clean⟩

namespace Faithful

/-! ## Between two publications -/

theorem did (faithful : s.Faithful first) {act : Act} (quiet : act.Quiet) :
    (s.did act).Faithful first where
  current := faithful.current
  held := by
    rw [snapshots_did, quiet.snapshot, Option.toList_none, List.append_nil]
    exact faithful.held
  revisions := by
    rw [revisions_did, quiet.revision, Option.toList_none, List.append_nil]
    exact faithful.revisions
  storedFirst := faithful.storedFirst.concat quiet.revision

theorem withConnection (faithful : s.Faithful first) (connection : Connection) :
    (s.withConnection connection).Faithful first :=
  ⟨⟨faithful.held, faithful.revisions, faithful.storedFirst⟩, faithful.current⟩

/-- A state that marks what it changes can be taken over. -/
theorem withState (faithful : s.Faithful first) {state : State}
    (marks : s.client.state.Marks state) : (s.withState state).Faithful first where
  current clean := by
    obtain ⟨before, same⟩ := marks.unmarked clean
    exact (faithful.current before).trans same.symm
  held := faithful.held
  revisions := by
    have same : (s.withState state).client.state.revision = s.client.state.revision :=
      marks.revision
    rw [same]
    exact faithful.revisions
  storedFirst := faithful.storedFirst

theorem losing (faithful : s.Faithful first) (frame : Wire.Outbound) (r : Reading) :
    (s.losing frame r).Faithful first :=
  ((faithful.did ⟨rfl, rfl⟩).withConnection _).withState (State.marks_disconnected _ r.now)

theorem send (faithful : s.Faithful first) (frame : Wire.Outbound) (r : Reading) :
    (s.send frame r).1.Faithful first := by
  rcases send_cases s frame r with ⟨-, sent⟩ | ⟨-, sent⟩ | ⟨fault, -, sent⟩
  · rw [sent]
    exact faithful
  · rw [sent]
    exact faithful.did ⟨rfl, rfl⟩
  · rw [sent]
    exact faithful.losing frame r

theorem perform (faithful : s.Faithful first) (effects : List Effect) (r : Reading) :
    (s.perform effects r).Faithful first := by
  induction effects generalizing s with
  | nil => exact faithful
  | cons effect rest ih =>
      cases effect with
      | send frame => exact ih (faithful.send frame r)
      | progress data => exact ih (faithful.did ⟨rfl, rfl⟩)

theorem become (faithful : s.Faithful first) {next : State × List Effect}
    (marks : s.client.state.Marks next.1) (r : Reading) : (s.become next r).Faithful first :=
  (faithful.withState marks).perform next.2 r

theorem sendThen (faithful : s.Faithful first) (frame : Wire.Outbound) {record : State → State}
    (marks : s.client.state.Marks (record s.client.state)) (r : Reading) :
    (s.sendThen frame record r).1.Faithful first := by
  rcases sendThen_cases s frame record r with ⟨-, sent⟩ | ⟨-, sent⟩ | ⟨fault, -, sent⟩
  · rw [sent]
    exact faithful
  · rw [sent]
    exact (faithful.did ⟨rfl, rfl⟩).withState marks
  · rw [sent]
    exact faithful.losing frame r

theorem finish (faithful : s.Faithful first) (r : Reading) : (s.finish r).Faithful first := by
  have ended := faithful.withState (State.marks_ended s.client.state r.now)
  exact ⟨⟨ended.held, ended.revisions, ended.storedFirst⟩, ended.current⟩

theorem carryOut (faithful : s.Faithful first) (command : Command) (r : Reading) :
    (s.carryOut command r).1.Faithful first := by
  cases command with
  | say request => exact faithful.sendThen _ (State.marks_recordTurn _ request.message r.now) r
  | stop => exact faithful.sendThen _ (State.marks_refl _) r
  | stats => exact faithful.sendThen _ (State.marks_refl _) r
  | setSession session => exact faithful.become (State.marks_switchSession _ session _) r
  | answer request approved remember =>
      exact faithful.sendThen _ (State.marks_resolve _ request approved remember) r
  | shutDown => exact faithful.finish r

theorem linkEvent (faithful : s.Faithful first) (event : Event) (r : Reading) :
    (s.linkEvent event r).Faithful first := by
  cases event with
  | opened => exact faithful.become (State.marks_opened _) r
  | frame text => exact faithful.become (State.marks_receive _ r.now text) r
  | lost fault retryIn => exact faithful.become (State.marks_disconnected _ r.now) r

theorem link (faithful : s.Faithful first) (next : Connection × Option Event) (r : Reading) :
    (s.link next r).Faithful first := by
  have linked := faithful.withConnection next.1
  unfold Step.link
  cases next.2 with
  | none => exact linked
  | some event => exact (linked.did ⟨rfl, rfl⟩).linkEvent event r

end Faithful

/-! ## Publishing -/

theorem publish_of_clean (clean : s.client.state.isDirty = false) : s.publish = s := by
  unfold publish
  rw [State.takeChanges_of_clean clean]
  rfl

/-- The snapshot of the next revision is stored and then announced. -/
theorem publish_of_dirty (dirty : s.client.state.isDirty = true) :
    let state := s.client.state.revised
    let renewed : Step := { s with client := { s.client with state, published := state.snapshot } }
    s.publish =
      (renewed.did (.stored state.snapshot)).did (.told (.stateChanged state.revision)) := by
  unfold publish
  rw [State.takeChanges_of_dirty dirty]
  rfl

/-- Publishing settles a client. -/
theorem Faithful.publish (faithful : s.Faithful first) : s.publish.Settled first := by
  cases dirty : s.client.state.isDirty with
  | false =>
      rw [publish_of_clean dirty]
      exact faithful.settled dirty
  | true =>
      rw [publish_of_dirty dirty]
      refine ⟨⟨?_, ?_, faithful.storedFirst.concat_announced _⟩, rfl, rfl⟩
      · rw [snapshots_did, snapshots_did]
        change s.client.state.revised.snapshot =
          (s.snapshots ++ [s.client.state.revised.snapshot] ++ []).getLast?.getD first
        rw [List.append_nil, List.getLast?_concat]
        rfl
      · rw [revisions_did, revisions_did]
        change s.revisions ++ [] ++ [s.client.state.revision + 1] =
          List.range' 1 (s.client.state.revision + 1)
        rw [List.append_nil, faithful.revisions, List.range'_1_concat, Nat.add_comm]

theorem Settled.did (settled : s.Settled first) {act : Act} (quiet : act.Quiet) :
    (s.did act).Settled first :=
  (settled.faithful.did quiet).settled settled.clean

/-! ## Inputs and answers -/

/-- A step at the moment a command is answered, and the answer. -/
def answering (s : Step) (command : Command) (r : Reading) : Step × Except Refusal Unit :=
  if s.client.isRunning then s.commanded command r else (s, .error .shutDown)

/-- Whoever waits for an answer reads the effect of the command. -/
theorem Settled.answering (settled : s.Settled first) (command : Command) (r : Reading) :
    (s.answering command r).1.Settled first := by
  unfold Step.answering
  cases s.client.isRunning with
  | true => exact (settled.faithful.carryOut command r).publish
  | false => exact settled

theorem Faithful.react (faithful : s.Faithful first) (input : Input) (r : Reading) :
    (s.react input r).Faithful first := by
  cases input with
  | command command =>
      have answered : (s.commanded command r).1.Settled first :=
        (faithful.carryOut command r).publish
      exact answered.faithful.did ⟨rfl, rfl⟩
  | attempted result => exact faithful.link _ r
  | timer => exact faithful.withConnection _
  | received item => exact faithful.link _ r
  | flush => exact faithful.withState (State.marks_flushDue _ r.now)
  | abandoned => exact faithful.finish r

/-- Every input leaves a settled client settled. -/
theorem Settled.next (settled : s.Settled first) (input : Input) (r : Reading) :
    (s.next input r).Settled first := by
  cases running : s.client.isRunning with
  | true =>
      rw [next_of_running running]
      exact (settled.faithful.react input r).publish
  | false =>
      unfold Step.next
      rw [running, if_neg Bool.false_ne_true]
      split
      · exact settled.did ⟨rfl, rfl⟩
      · exact settled

/-- After the answer a command does nothing more. -/
theorem Settled.next_command (settled : s.Settled first) (command : Command) (r : Reading) :
    s.next (.command command) r =
      (s.answering command r).1.did (.replied (s.answering command r).2) := by
  have answered := settled.answering command r
  unfold Step.answering at answered ⊢
  cases running : s.client.isRunning with
  | true =>
      rw [running] at answered
      rw [next_of_running running]
      exact publish_of_clean (answered.did ⟨rfl, rfl⟩).clean
  | false =>
      unfold Step.next
      rw [running]
      rfl

end Step

/-! ## Runs -/

theorem settled_run (session mode : String) (interval : Nat) (backoff : Backoff)
    (inputs : List (Input × Reading)) :
    ((initial session mode interval backoff).start.run inputs).Settled
      (State.initial session interval).snapshot := by
  induction inputs using List.reverseRecOn with
  | nil => exact ⟨⟨rfl, rfl, storedFirst_nil⟩, rfl, rfl⟩
  | append_singleton inputs input settled =>
      rw [run_concat]
      exact settled.next input.1 input.2

/-- No visible change is missed.  After every input of every run, and whenever a command is
answered, readers get the snapshot of the state; the revisions from the first to the current one
were announced in order, each right after its snapshot was stored.  And in whatever state, an input
that changes what is seen leaves a mark. -/
theorem readers_get_current (session mode : String) (interval : Nat) (backoff : Backoff)
    (inputs : List (Input × Reading)) :
    let first := (State.initial session interval).snapshot
    let s := (initial session mode interval backoff).start.run inputs
    s.Settled first ∧
      (∀ command r, (s.answering command r).1.Settled first ∧
        s.next (.command command) r =
          (s.answering command r).1.did (.replied (s.answering command r).2)) ∧
      ∀ (state : State) (input : State.Input) (now : Calendar.Moment),
        (state.step input now).1.snapshot.unnumbered ≠ state.snapshot.unnumbered →
          (state.step input now).1.isDirty = true := by
  intro first s
  have settled : s.Settled first := settled_run session mode interval backoff inputs
  refine ⟨settled, ?_, ?_⟩
  · intro command r
    exact ⟨settled.answering command r, settled.next_command command r⟩
  · intro state input now changed
    exact State.dirty_of_changed changed

/-- A link that opens is seen and marked. -/
theorem readers_get_current_of_opening :
    let state := State.initial "default" 50
    let opened := (state.step .opened ⟨0, ⟨0, 0⟩⟩).1
    opened.snapshot.unnumbered ≠ state.snapshot.unnumbered ∧ opened.isDirty = true := by
  intro state opened
  have changed : opened.snapshot.unnumbered ≠ state.snapshot.unnumbered := by
    intro same
    have connected : true = false := congrArg Snapshot.isConnected same
    cases connected
  have law := readers_get_current "default" "chat" 50 ⟨1, 1, 0.0⟩ []
  exact ⟨changed, law.2.2 state .opened ⟨0, ⟨0, 0⟩⟩ changed⟩

end StreamingChat.Client
