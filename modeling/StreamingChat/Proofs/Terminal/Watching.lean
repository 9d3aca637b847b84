import StreamingChat.Proofs.Chat.Published
import StreamingChat.Proofs.Client.Course
import StreamingChat.Terminal.Watch

/-!
# A display that is not left behind

A display subscribes before it loads for the first time, and a client stores before it announces.
So a display that waits has rendered what is stored, or something that will make it render is on the
way: the announcement that the client owes, one that is waiting to be heard, or the news that some
were lost.  This holds whatever else the client tells and however the two take turns.
-/

namespace StreamingChat.Client

open StreamingChat.Chat
open StreamingChat.Link

/-! ## What a client stores -/

namespace Step

/-- What an input has a client store is what its conversation publishes. -/
theorem snapshots_next (s : Step) (input : Input) (r : Reading) :
    (s.next input r).snapshots =
      s.snapshots ++ s.client.state.published (s.client.hearing input r) := by
  cases running : s.client.isRunning with
  | false =>
      rw [snapshots_next_of_stopped running, hearing, running]
      exact (List.append_nil _).symm
  | true =>
      have quiet : s.client.state.published
          ((s.client.told input r).toList.map (·, r.now)) = [] := by
        cases told : s.client.told input r with
        | none => rfl
        | some heard => cases (tells_of_told told).2 <;> rfl
      have lost : ∀ state : State, state.published
          (if drops (s.client.hands? input r) r then [(.disconnected, r.now)] else []) = [] := by
        intro state
        split
        · rfl
        · rfl
      rw [(course_next running input r).snapshots, hearing, if_pos running,
        State.published_append, ← outcome_eq_run, State.published_append, quiet, lost]
      exact congrArg (s.snapshots ++ ·) (List.append_nil _).symm

theorem snapshots_foldl (s : Step) (inputs : List (Input × Reading)) :
    (inputs.foldl (fun s i => s.next i.1 i.2) s).snapshots =
      s.snapshots ++ s.client.state.published (s.heard inputs) := by
  induction inputs generalizing s with
  | nil => exact (List.append_nil _).symm
  | cons i rest ih =>
      rw [List.foldl_cons, ih, snapshots_next, heard, State.published_append, ← state_next,
        List.append_assoc]

end Step

/-- What a client stores is what its conversation publishes. -/
theorem snapshots_run (c : Client) (inputs : List (Input × Reading)) :
    (c.run inputs).snapshots = c.state.published (({ client := c } : Step).heard inputs) :=
  Step.snapshots_foldl { client := c } inputs

/-! ## What a listener has yet to hear -/

/-- What makes a listener load again: a loss of notices, or a change among those that wait. -/
def Subscription.Wakes (s : Subscription) : Prop :=
  0 < s.missed ∨ ∃ revision, .stateChanged revision ∈ s.waiting

namespace Subscription

variable {s rest : Subscription} {heard : Heard}

/-- A notice that is pushed out counts as lost. -/
theorem wakes_push (wakes : s.Wakes) (notice : Notice) : (s.push notice).Wakes := by
  unfold push
  split
  · rcases wakes with missed | ⟨revision, waits⟩
    · exact .inl missed
    · exact .inr ⟨revision, List.mem_append_left _ waits⟩
  · exact .inl (Nat.succ_pos _)

theorem wakes_push_stateChanged (s : Subscription) (revision : Nat) :
    (s.push (.stateChanged revision)).Wakes := by
  unfold push
  split
  · exact .inr ⟨revision, List.mem_append_right _ (List.mem_singleton_self _)⟩
  · exact .inl (Nat.succ_pos _)

/-- Whatever is heard next, it makes the listener load again or what does is yet to come. -/
theorem wakes_next (wakes : s.Wakes) (next : s.next? = some (heard, rest)) :
    (∃ count, heard = .lagged count) ∨ (∃ revision, heard = .notice (.stateChanged revision)) ∨
      rest.Wakes := by
  unfold next? at next
  split at next
  · cases next
    exact .inl ⟨_, rfl⟩
  · next kept =>
    split at next
    · cases next
    · next notice later waiting =>
      cases next
      rcases wakes with missed | ⟨revision, waits⟩
      · exact absurd missed kept
      · rw [waiting] at waits
        rcases List.mem_cons.mp waits with rfl | waits
        · exact .inr (.inl ⟨revision, rfl⟩)
        · exact .inr (.inr (.inr ⟨revision, waits⟩))

theorem not_wakes_of_nothing (nothing : s.next? = none) : ¬s.Wakes := by
  unfold next? at nothing
  split at nothing
  · cases nothing
  · next kept =>
    split at nothing
    · next waiting =>
      rintro (missed | ⟨revision, waits⟩)
      · exact kept missed
      · rw [waiting] at waits
        cases waits
    · cases nothing

end Subscription

/-- Progress of a download is told. -/
def Act.isProgress : Act → Bool
  | told (.progress _) => true
  | _ => false

theorem snapshot?_of_isProgress {act : Act} (progress : act.isProgress = true) :
    act.snapshot? = none := by
  cases act with
  | told notice => rfl
  | learned | handed | stored | replied => cases progress

/-- Progress of downloads is no matter for what is stored. -/
theorem filterMap_snapshot?_filter (acts : List Act) :
    (acts.filter (!·.isProgress)).filterMap Act.snapshot? = acts.filterMap Act.snapshot? := by
  induction acts with
  | nil => rfl
  | cons act rest ih =>
      cases progress : act.isProgress with
      | true =>
          rw [List.filter_cons_of_neg (by simp [progress]), ih,
            List.filterMap_cons_none (snapshot?_of_isProgress progress)]
      | false =>
          rw [List.filter_cons_of_pos (by simp [progress]), List.filterMap_cons,
            List.filterMap_cons, ih]

end StreamingChat.Client

namespace StreamingChat.Terminal.Watch

open StreamingChat.Chat
open StreamingChat.Client
open StreamingChat.Link (Backoff Reading)

/-- What the client does in a move. -/
def Move.act? : Move → Option Act
  | .client act => some act
  | .display => none

/-- The snapshots that are stored in some moves. -/
def storedIn (moves : List Move) : List Snapshot :=
  (moves.filterMap Move.act?).filterMap Act.snapshot?

/-- A display that waits has rendered what is stored, or the client has yet to announce it, or the
display has yet to hear of it. -/
def Current (w : Watch) : Prop :=
  w.stage = .waiting →
    w.rendered.getLast? = some w.stored ∨ w.isPublishing = true ∨ w.heard.Wakes

/-- The snapshots that a display has rendered are a sample of those that readers got. -/
structure Follows (w : Watch) (seen : List Snapshot) : Prop where
  stored : seen.getLast? = some w.stored
  samples : Samples w.rendered seen

variable {w : Watch} {seen : List Snapshot}

/-! ## One move -/

theorem heard_tell (waits : w.stage = .waiting) (notice : Notice) :
    (w.tell notice).heard = w.heard.push notice := by
  unfold tell
  rw [waits]
  rfl

/-! Telling a display changes only what it has yet to hear. -/

@[simp]
theorem stage_tell (w : Watch) (notice : Notice) : (w.tell notice).stage = w.stage := by
  unfold tell
  split <;> rfl

@[simp]
theorem stored_tell (w : Watch) (notice : Notice) : (w.tell notice).stored = w.stored := by
  unfold tell
  split <;> rfl

@[simp]
theorem rendered_tell (w : Watch) (notice : Notice) : (w.tell notice).rendered = w.rendered := by
  unfold tell
  split <;> rfl

@[simp]
theorem isPublishing_tell (w : Watch) (notice : Notice) :
    (w.tell notice).isPublishing = w.isPublishing := by
  unfold tell
  split <;> rfl

theorem Current.follow (current : w.Current) (act : Act) : (w.follow act).Current := by
  cases act with
  | stored snapshot => exact fun _ => .inr (.inl rfl)
  | told notice =>
      intro waits
      cases notice with
      | stateChanged revision =>
          simp only [Watch.follow, stage_tell] at waits
          refine .inr (.inr ?_)
          simp only [Watch.follow, heard_tell waits]
          exact w.heard.wakes_push_stateChanged revision
      | progress data =>
          simp only [Watch.follow, stage_tell] at waits
          simp only [Watch.follow, stored_tell, rendered_tell, isPublishing_tell, heard_tell waits]
          refine (current waits).imp_right (Or.imp_right ?_)
          exact fun wakes => Subscription.wakes_push wakes _
  | learned | handed | replied => exact current

/-- What a display hears has it load, or leaves it waiting for what does. -/
theorem Current.hear (current : w.Current) (waits : w.stage = .waiting) {heard : Heard}
    {rest : Subscription} (next : w.heard.next? = some (heard, rest)) :
    ({ w with heard := rest }.hear heard).Current := by
  unfold Watch.hear
  split
  · intro again
    cases again
  · next line prints =>
    intro _
    refine (current waits).imp_right (Or.imp_right ?_)
    intro wakes
    rcases Subscription.wakes_next wakes next with ⟨count, rfl⟩ | ⟨revision, rfl⟩ | later
    · cases prints
    · cases prints
    · exact later

theorem Current.step (current : w.Current) (move : Move) : (w.step move).Current := by
  cases move with
  | client act => exact current.follow act
  | display =>
      change w.proceed.Current
      unfold proceed
      split
      · intro waits
        cases waits
      · exact fun _ => .inl List.getLast?_concat
      · next waits =>
        split
        · next heard rest next => exact current.hear waits next
        · exact current

namespace Follows

/-- A move in which nothing is stored and nothing is rendered. -/
theorem of_same (follows : w.Follows seen) {v : Watch} (stored : v.stored = w.stored)
    (rendered : v.rendered = w.rendered) : v.Follows (seen ++ []) where
  stored := by
    rw [List.append_nil, stored]
    exact follows.stored
  samples := by
    rw [List.append_nil, rendered]
    exact follows.samples

theorem render (follows : w.Follows seen) : w.render.Follows (seen ++ []) := by
  rw [List.append_nil]
  obtain ⟨before, rfl⟩ := List.getLast?_eq_some_iff.mp follows.stored
  exact ⟨follows.stored, .again follows.samples⟩

theorem step (follows : w.Follows seen) (move : Move) :
    (w.step move).Follows (seen ++ storedIn [move]) := by
  cases move with
  | client act =>
      cases act with
      | stored snapshot => exact ⟨List.getLast?_concat, .skip follows.samples snapshot⟩
      | told notice =>
          cases notice with
          | stateChanged revision => exact follows.of_same (stored_tell w _) (rendered_tell w _)
          | progress data => exact follows.of_same (stored_tell w _) (rendered_tell w _)
      | learned | handed | replied => exact follows.of_same rfl rfl
  | display =>
      change w.proceed.Follows (seen ++ [])
      unfold proceed
      split
      · exact follows.of_same rfl rfl
      · exact follows.render
      · split
        · unfold Watch.hear
          split
          · exact follows.of_same rfl rfl
          · exact follows.of_same rfl rfl
        · exact follows.of_same rfl rfl

end Follows

/-! ## All moves -/

theorem current_run (w : Watch) (current : w.Current) (moves : List Move) :
    (w.run moves).Current := by
  induction moves using List.reverseRecOn with
  | nil => exact current
  | append_singleton moves move ih =>
      rw [run_concat]
      exact ih.step move

theorem follows_run (palette : Palette) (first : Snapshot) (moves : List Move) :
    (({ palette, stored := first } : Watch).run moves).Follows (first :: storedIn moves) := by
  induction moves using List.reverseRecOn with
  | nil => exact ⟨rfl, .skip .nil first⟩
  | append_singleton moves move ih =>
      have apart : storedIn (moves ++ [move]) = storedIn moves ++ storedIn [move] := by
        simp only [storedIn, List.filterMap_append]
      rw [run_concat, apart]
      exact ih.step move

/-- A display that is idle has rendered what is stored, unless the client is about to announce
it. -/
theorem rendered_of_idle (current : w.Current) (idle : w.isIdle = true)
    (announced : w.isPublishing = false) : w.rendered.getLast? = some w.stored := by
  obtain ⟨waits, nothing⟩ := Bool.and_eq_true_iff.mp idle
  rcases current (of_decide_eq_true waits) with rendered | publishing | wakes
  · exact rendered
  · cases announced.symm.trans publishing
  · exact absurd wakes (Subscription.not_wakes_of_nothing (Option.isNone_iff_eq_none.mp nothing))

/-- The first snapshot and those that a run stores bear revisions in order. -/
theorem revisions_run (session mode : String) (interval : Nat) (backoff : Backoff)
    (inputs : List (Client.Input × Reading)) :
    let first := (State.initial session interval).snapshot
    let s := (initial session mode interval backoff).start.run inputs
    (first :: s.snapshots).Pairwise (fun before after => before.revision ≤ after.revision) := by
  intro first s
  let c := (initial session mode interval backoff).start
  have snapshots : s.snapshots = c.state.published (({ client := c } : Step).heard inputs) :=
    snapshots_run c inputs
  have numbered : (first :: s.snapshots).map (·.revision) =
      List.range' 0 (s.snapshots.length + 1) := by
    rw [List.map_cons, snapshots, State.revisions_published, List.range'_succ]
    rfl
  refine List.pairwise_map.mp ?_
  rw [numbered]
  exact List.pairwise_le_range' 1

/-- A display does not miss the latest state.  Let a display watch a client in any run; whatever
the client does may come between any two steps of the display, and progress of downloads may be told
besides, at any time.  Then the revisions that are rendered never decrease.  And whenever the
display waits and there is nothing to hear, it has rendered last what is stored, unless the client
has stored a snapshot that it has yet to announce. -/
theorem display_shows_latest (session mode : String) (interval : Nat) (backoff : Backoff)
    (inputs : List (Client.Input × Reading)) (palette : Palette) (moves : List Move)
    (watched : (moves.filterMap Move.act?).filter (!·.isProgress) <+:
      ((initial session mode interval backoff).start.run inputs).acts.filter (!·.isProgress)) :
    let first := (State.initial session interval).snapshot
    let w := ({ palette, stored := first } : Watch).run moves
    (w.rendered.map (·.revision)).Pairwise (· ≤ ·) ∧
      (w.isIdle = true → w.isPublishing = false → w.rendered.getLast? = some w.stored) := by
  intro first w
  constructor
  · have follows : w.Follows (first :: storedIn moves) := follows_run palette first moves
    have stored : storedIn moves <+:
        ((initial session mode interval backoff).start.run inputs).snapshots := by
      have within := watched.filterMap Act.snapshot?
      rw [filterMap_snapshot?_filter, filterMap_snapshot?_filter] at within
      exact within
    have ordered := (revisions_run session mode interval backoff inputs).sublist
      (stored.sublist.cons_cons first)
    exact List.pairwise_map.mpr (follows.samples.pairwise (fun _ => Nat.le_refl _) ordered)
  · intro idle announced
    have start : ({ palette, stored := first } : Watch).Current := fun waits => by cases waits
    exact rendered_of_idle (current_run _ start moves) idle announced

/-- The display subscribes before the client does anything, and renders between the storing of a
snapshot and its announcement; there a download makes progress. -/
def meantime (acts : List Act) : List Move :=
  [.display] ++ (acts.take 3).map .client ++ [.display, .client (.told (.progress .null))] ++
    (acts.drop 3).map .client ++ [.display, .display, .display]

theorem display_shows_latest_of_opening :
    let s := fresh.run [(.attempted (.ok ()), calm)]
    let moves := meantime s.acts
    let w := ({ palette := .plain, stored := (State.initial "default" 50).snapshot } : Watch).run
      moves
    (moves.filterMap Move.act?).filter (!·.isProgress) <+: s.acts.filter (!·.isProgress) ∧
      w.isIdle = true ∧ w.isPublishing = false ∧ w.rendered.getLast? = some w.stored ∧
      w.rendered.map (·.revision) = [1, 1] := by
  intro s moves w
  have watched : (moves.filterMap Move.act?).filter (!·.isProgress) <+:
      s.acts.filter (!·.isProgress) := List.prefix_rfl
  have law := display_shows_latest "default" "chat" 50 ⟨1, 1, 0.0⟩ [(.attempted (.ok ()), calm)]
    .plain moves watched
  exact ⟨watched, rfl, rfl, law.2 rfl rfl, rfl⟩

end StreamingChat.Terminal.Watch
