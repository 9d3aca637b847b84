import StreamingChat.Proofs.Chat.Marking
import StreamingChat.Proofs.Chat.Numbering
import StreamingChat.Proofs.Chat.SessionChange

/-!
# What is published in a run

The snapshots that a run publishes bear one revision after the other.  As long as no other messages
are put in the place of all, each of them continues the ones before it: it is of the same session,
and what was complete is there again, first and unchanged.  Whoever samples the published snapshots,
however rarely or often, samples snapshots of which the same holds.
-/

namespace StreamingChat.Chat

open StreamingChat.Calendar (Moment)

/-! ## Samples -/

/-- The first list goes through the second one in order.  It leaves out what it likes, and stays
with the rest for as long as it likes. -/
inductive Samples {α : Type} : List α → List α → Prop where
  | nil : Samples [] []
  | skip {shown all : List α} (before : Samples shown all) (x : α) : Samples shown (all ++ [x])
  | again {shown all : List α} {x : α} (before : Samples shown (all ++ [x])) :
      Samples (shown ++ [x]) (all ++ [x])

namespace Samples

variable {α : Type} {shown all : List α}

theorem subset (samples : Samples shown all) : shown ⊆ all := by
  induction samples with
  | nil => exact List.Subset.refl []
  | skip before x inside => exact fun y seen => List.mem_append_left [x] (inside seen)
  | again before inside =>
      refine List.append_subset.mpr ⟨inside, ?_⟩
      exact List.subset_append_right _ _

/-- What holds between any of the second list and itself and all that follow holds along the
first. -/
theorem pairwise {R : α → α → Prop} (refl : ∀ x, R x x) (samples : Samples shown all)
    (ordered : all.Pairwise R) : shown.Pairwise R := by
  induction samples with
  | nil => exact ordered
  | skip before x along => exact along (List.pairwise_append.mp ordered).1
  | @again shown all x before along =>
      obtain ⟨-, -, toLast⟩ := List.pairwise_append.mp ordered
      refine List.pairwise_append.mpr ⟨along ordered, List.pairwise_singleton R x, ?_⟩
      intro y seen z last
      obtain rfl := List.mem_singleton.mp last
      rcases List.mem_append.mp (before.subset seen) with earlier | same
      · exact toLast y earlier z last
      · rw [List.mem_singleton.mp same]
        exact refl z

end Samples

/-! ## Snapshots that continue one another -/

/-- The messages that are complete. -/
def Snapshot.completed (shown : Snapshot) : List Message :=
  shown.messages.filter (·.isComplete)

def Snapshot.ids (shown : Snapshot) : List MessageId :=
  shown.messages.map (·.id)

/-- The second snapshot is of the same session, and shows first what is complete in the first. -/
structure Snapshot.Continues (before after : Snapshot) : Prop where
  session : after.session = before.session
  completed : before.completed <+: after.completed

namespace Snapshot.Continues

theorem refl (shown : Snapshot) : shown.Continues shown :=
  ⟨rfl, List.prefix_rfl⟩

theorem trans {one two three : Snapshot} (first : one.Continues two)
    (second : two.Continues three) : one.Continues three :=
  ⟨second.session.trans first.session, first.completed.trans second.completed⟩

end Snapshot.Continues

namespace State

/-- The snapshot that an input publishes. -/
def yields? (s : State) : Input → Option Snapshot
  | .takeChanges => s.takeChanges.2
  | _ => none

/-- The snapshots that a run publishes, oldest first. -/
def published (s : State) : List (Input × Moment) → List Snapshot
  | [] => []
  | i :: rest => (s.yields? i.1).toList ++ (s.step i.1 i.2).1.published rest

/-- No input of a run puts other messages in the place of all. -/
def KeepsMessages (s : State) : List (Input × Moment) → Prop
  | [] => True
  | i :: rest => s.resets i.1 = false ∧ (s.step i.1 i.2).1.KeepsMessages rest

theorem published_append (s : State) (earlier later : List (Input × Moment)) :
    s.published (earlier ++ later) = s.published earlier ++ (s.run earlier).published later := by
  induction earlier generalizing s with
  | nil => rfl
  | cons i rest ih =>
      rw [List.cons_append, published, published, ih, List.append_assoc]
      rfl

/-- An input either publishes what it leads to, in the next revision, or publishes nothing. -/
theorem yields_cases (s : State) (input : Input) (now : Moment) :
    s.yields? input = none ∧ (s.step input now).1.revision = s.revision ∨
      s.yields? input = some (s.step input now).1.snapshot ∧
        (s.step input now).1.revision = s.revision + 1 := by
  by_cases taken : input = .takeChanges
  · subst taken
    change s.takeChanges.2 = none ∧ s.takeChanges.1.revision = s.revision ∨
      s.takeChanges.2 = some s.takeChanges.1.snapshot ∧ s.takeChanges.1.revision = s.revision + 1
    cases dirty : s.isDirty with
    | false =>
        rw [takeChanges_of_clean dirty]
        exact .inl ⟨rfl, rfl⟩
    | true =>
        rw [takeChanges_of_dirty dirty]
        exact .inr ⟨rfl, rfl⟩
  · refine .inl ⟨?_, (marks_step s now taken).revision⟩
    cases input with
    | takeChanges => exact absurd rfl taken
    | received | flushDue | opened | disconnected | ended | turn | switched | answered => rfl

/-- What an input publishes is what it leads to. -/
theorem eq_of_mem_yields {s : State} {input : Input} {shown : Snapshot}
    (yielded : shown ∈ (s.yields? input).toList) (now : Moment) :
    shown = (s.step input now).1.snapshot := by
  rcases yields_cases s input now with ⟨nothing, -⟩ | ⟨here, -⟩
  · rw [nothing] at yielded
    cases yielded
  · rw [here] at yielded
    exact List.mem_singleton.mp yielded

/-- Each published snapshot bears the next revision. -/
theorem revisions_published (s : State) (inputs : List (Input × Moment)) :
    (s.published inputs).map (·.revision) =
      List.range' (s.revision + 1) (s.published inputs).length := by
  induction inputs generalizing s with
  | nil => rfl
  | cons i rest ih =>
      have later := ih (s.step i.1 i.2).1
      rw [published]
      rcases yields_cases s i.1 i.2 with ⟨nothing, same⟩ | ⟨shown, next⟩
      · rw [same] at later
        rw [nothing]
        exact later
      · rw [next] at later
        rw [shown, Option.toList_some, List.singleton_append, List.map_cons, later,
          List.length_cons, List.range'_succ]
        exact congrArg (· :: _) next

/-- The session is switched by no input that keeps the messages. -/
theorem current_step {s : State} {input : Input} (keeps : s.resets input = false) (now : Moment) :
    (s.step input now).1.session.current = s.session.current := by
  cases input with
  | received text =>
      change (s.receive text now).1.session.current = s.session.current
      have heard := heard_receive s now text
      generalize s.loads text = loads, s.receive text now = next at heard ⊢
      cases heard with
      | loaded t session => exact (congrArg Session.current session).trans rfl
      | silent t session => exact congrArg Session.current session
      | replied t session effect reply => exact congrArg Session.current session
  | flushDue => exact congrArg Session.current (session_flushDue s now)
  | opened =>
      change s.session.opened.1.current = s.session.current
      cases owed : s.session.owed with
      | false => rw [Session.opened_of_not_owed owed]
      | true => rw [Session.opened_of_owed owed]
  | switched session connected => cases keeps
  | takeChanges => exact congrArg Session.current (session_takeChanges s)
  | disconnected | ended | turn | answered => rfl

/-- What an input leads to continues what was seen before, if it keeps the messages. -/
theorem continues_step {s : State} (sound : s.feed.Sound) {input : Input}
    (keeps : s.resets input = false) (now : Moment) :
    s.snapshot.Continues (s.step input now).1.snapshot where
  session := current_step keeps now
  completed := by
    have change := change_step s now input
    rw [keeps] at change
    change s.feed.transcript.visible.filter (·.isComplete) <+:
      (s.step input now).1.feed.transcript.visible.filter (·.isComplete)
    rw [sound.transcript.filter_visible, (sound.change change).transcript.filter_visible]
    exact (Feed.grows_of_change change).committed

/-- A state whose feed is sound and whose messages are told apart by their ids. -/
structure Distinct (s : State) : Prop where
  sound : s.feed.Sound
  counted : s.feed.transcript.IsCounted
  nodup : s.snapshot.ids.Nodup

theorem Distinct.step {s : State} (distinct : s.Distinct) {input : Input}
    (keeps : s.resets input = false) (now : Moment) : (s.step input now).1.Distinct := by
  have change := change_step s now input
  rw [keeps] at change
  have on := (Feed.written_of_change change).countsOn
  exact ⟨distinct.sound.change change, on.isCounted distinct.counted,
    on.nodup distinct.counted distinct.nodup⟩

/-- All that is published continues what was seen before, and its ids differ. -/
theorem continues_of_mem {s : State} (distinct : s.Distinct) {inputs : List (Input × Moment)}
    (keeps : s.KeepsMessages inputs) {shown : Snapshot} (published : shown ∈ s.published inputs) :
    s.snapshot.Continues shown ∧ shown.ids.Nodup := by
  induction inputs generalizing s with
  | nil => cases published
  | cons i rest ih =>
      have next := distinct.step keeps.1 i.2
      have goesOn := continues_step distinct.sound keeps.1 i.2
      rcases List.mem_append.mp published with here | later
      · rw [eq_of_mem_yields here i.2]
        exact ⟨goesOn, next.nodup⟩
      · obtain ⟨more, nodup⟩ := ih next keeps.2 later
        exact ⟨goesOn.trans more, nodup⟩

/-- Of the published snapshots each continues all before it. -/
theorem pairwise_published {s : State} (distinct : s.Distinct) {inputs : List (Input × Moment)}
    (keeps : s.KeepsMessages inputs) : (s.published inputs).Pairwise Snapshot.Continues := by
  induction inputs generalizing s with
  | nil => exact .nil
  | cons i rest ih =>
      have next := distinct.step keeps.1 i.2
      refine List.pairwise_append.mpr ⟨?_, ih next keeps.2, ?_⟩
      · cases s.yields? i.1 with
        | none => exact .nil
        | some shown => exact List.pairwise_singleton _ shown
      · intro before here after later
        rw [eq_of_mem_yields here i.2]
        exact (continues_of_mem next keeps.2 later).1

end State

end StreamingChat.Chat
