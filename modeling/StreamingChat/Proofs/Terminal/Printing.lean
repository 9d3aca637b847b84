import Mathlib.Data.List.Induction
import StreamingChat.Proofs.Chat.Published
import StreamingChat.Terminal.Renderer

/-!
# What a renderer prints

A renderer remembers the ids of the messages that it has printed.  Since messages that are complete
stay as they are and ids are never used again, it does not matter which of the published snapshots
it is given, as long as the last one is among them: all in all it prints the complete messages of
that one, in order and each once.
-/

namespace StreamingChat.Terminal

open StreamingChat.Calendar (Moment)
open StreamingChat.Chat

/-- What a line tells. -/
inductive Line where
  | link (isConnected : Bool)
  | session (id : String)
  | loading
  | message (m : Message)
  | error (text : String)
  | request (r : Approval.Request)

namespace Line

def text (p : Palette) : Line → String
  | link isConnected => linkLine p isConnected
  | session id => sessionLine p id
  | loading => loadingLine p
  | message m => messageLine p m
  | error text => errorLine p text
  | request r => confirmationText p r

def message? : Line → Option Message
  | message m => some m
  | _ => none

def request? : Line → Option Approval.Request
  | request r => some r
  | _ => none

/-- A line if a condition holds. -/
def onlyIf (condition : Bool) (line : Line) : List Line :=
  if condition then [line] else []

theorem map_onlyIf (p : Palette) (condition : Bool) (line : Line) :
    (onlyIf condition line).map (text p) = Renderer.lineIf condition (line.text p) := by
  cases condition <;> rfl

theorem filterMap_onlyIf {α : Type} (f : Line → Option α) (line : Line) (silent : f line = none)
    (condition : Bool) : (onlyIf condition line).filterMap f = [] := by
  cases condition with
  | false => rfl
  | true => exact List.filterMap_cons_none silent

end Line

/-! ## Messages that are new -/

section

variable {known : List MessageId} {messages : List Message}

theorem freshMessages_cons_of_fresh {m : Message} (complete : m.isComplete = true)
    (new : m.id ∉ known) :
    freshMessages known (m :: messages) = m :: freshMessages (m.id :: known) messages := by
  have absent : known.contains m.id = false := by simpa using new
  rw [freshMessages, complete, absent]
  rfl

theorem freshMessages_cons_of_stale {m : Message}
    (stale : m.isComplete = true → m.id ∈ known) :
    freshMessages known (m :: messages) = freshMessages known messages := by
  cases complete : m.isComplete with
  | false => rw [freshMessages, complete, Bool.false_and, if_neg Bool.false_ne_true]
  | true =>
      have present : known.contains m.id = true := List.contains_iff_mem.mpr (stale complete)
      rw [freshMessages, complete, present]
      rfl

theorem freshMessages_eq_nil (stale : ∀ m ∈ messages, m.isComplete = true → m.id ∈ known) :
    freshMessages known messages = [] := by
  induction messages with
  | nil => rfl
  | cons m rest ih =>
      rw [freshMessages_cons_of_stale (stale m List.mem_cons_self)]
      exact ih fun n member => stale n (List.mem_cons_of_mem m member)

/-- All that is complete is known afterwards. -/
theorem known_of_complete {m : Message} (seen : m ∈ messages) (complete : m.isComplete = true) :
    m.id ∈ known ++ (freshMessages known messages).map (·.id) := by
  induction messages generalizing known with
  | nil => cases seen
  | cons first rest ih =>
      by_cases fresh : first.isComplete = true ∧ first.id ∉ known
      · rw [freshMessages_cons_of_fresh fresh.1 fresh.2, List.map_cons]
        rcases List.mem_cons.mp seen with rfl | later
        · exact List.mem_append_right _ List.mem_cons_self
        · have after : m.id ∈ (first.id :: known) ++
              (freshMessages (first.id :: known) rest).map (·.id) := ih later
          simp only [List.mem_append, List.mem_cons] at after ⊢
          rcases after with (same | old) | new
          · exact .inr (.inl same)
          · exact .inl old
          · exact .inr (.inr new)
      · have stale : first.isComplete = true → first.id ∈ known := by
          intro whole
          by_contra unknown
          exact fresh ⟨whole, unknown⟩
        rw [freshMessages_cons_of_stale stale]
        rcases List.mem_cons.mp seen with rfl | later
        · exact List.mem_append_left _ (stale complete)
        · exact ih later

/-- With ids that differ, one complete message does not hide another. -/
theorem freshMessages_eq_filter (distinct : (messages.map (·.id)).Nodup) :
    freshMessages known messages =
      (messages.filter (·.isComplete)).filter (fun m => !known.contains m.id) := by
  induction messages generalizing known with
  | nil => rfl
  | cons m rest ih =>
      obtain ⟨unlike, others⟩ := List.nodup_cons.mp distinct
      by_cases complete : m.isComplete = true
      · rw [List.filter_cons_of_pos complete]
        by_cases old : m.id ∈ known
        · rw [freshMessages_cons_of_stale fun _ => old, ih others,
            List.filter_cons_of_neg (by simpa using old)]
        · rw [freshMessages_cons_of_fresh complete old, ih others,
            List.filter_cons_of_pos (by simpa using old)]
          congr 1
          refine List.filter_congr ?_
          intro n later
          have differs : n.id ≠ m.id := by
            intro same
            refine unlike (List.mem_map.mpr ⟨n, ?_, same⟩)
            exact (List.mem_filter.mp later).1
          simp [differs]
      · rw [List.filter_cons_of_neg complete,
          freshMessages_cons_of_stale fun whole => absurd whole complete]
        exact ih others

/-- If the known ones are the first complete messages, the others are new. -/
theorem freshMessages_of_completed {old more : List Message}
    (completed : messages.filter (·.isComplete) = old ++ more)
    (distinct : (messages.map (·.id)).Nodup) :
    freshMessages (old.map (·.id)) messages = more := by
  have differ : ((old ++ more).map (·.id)).Nodup := by
    rw [← completed]
    exact distinct.sublist (List.filter_sublist.map _)
  rw [List.map_append] at differ
  rw [freshMessages_eq_filter distinct, completed, List.filter_append]
  have hidden : old.filter (fun m => !(old.map (·.id)).contains m.id) = [] := by
    refine List.filter_eq_nil_iff.mpr ?_
    intro m member
    have known : m.id ∈ old.map (·.id) := List.mem_map_of_mem member
    simp [known]
  have kept : more.filter (fun m => !(old.map (·.id)).contains m.id) = more := by
    refine List.filter_eq_self.mpr ?_
    intro m member
    have unknown : m.id ∉ old.map (·.id) := by
      intro known
      exact List.disjoint_of_nodup_append differ known (List.mem_map_of_mem member)
    simp [unknown]
  rw [hidden, kept, List.nil_append]

end

namespace Renderer

/-! ## Snapshot by snapshot -/

/-- The error that is new in a snapshot. -/
def errors (r : Renderer) (s : Snapshot) : List String :=
  if s.error = r.error then [] else s.error.toList

/-- The request that counts as new in a snapshot. -/
def requests (r : Renderer) (s : Snapshot) : List Approval.Request :=
  if s.pending.map (·.id) = r.pending then [] else s.pending.toList

/-- What the lines for a snapshot tell. -/
def tells (r : Renderer) (s : Snapshot) : List Line :=
  Line.onlyIf (r.isConnected != some s.isConnected) (.link s.isConnected) ++
    Line.onlyIf (r.session != some s.session) (.session s.session) ++
    Line.onlyIf (s.isLoadingHistory && !r.isLoading) .loading ++
    (r.fresh s).map .message ++ (r.errors s).map .error ++ (r.requests s).map .request

theorem errorLines_eq (r : Renderer) (p : Palette) (s : Snapshot) :
    r.errorLines p s = (r.errors s).map (errorLine p) := by
  unfold errorLines errors
  split
  · rfl
  · cases s.error <;> rfl

theorem confirmationLines_eq (r : Renderer) (p : Palette) (s : Snapshot) :
    r.confirmationLines p s = (r.requests s).map (confirmationText p) := by
  unfold confirmationLines requests
  split
  · rfl
  · cases s.pending <;> rfl

theorem lines_eq (r : Renderer) (p : Palette) (s : Snapshot) :
    r.lines p s = (r.tells s).map (Line.text p) := by
  simp only [lines, tells, List.map_append, Line.map_onlyIf, List.map_map, messageLines,
    errorLines_eq, confirmationLines_eq]
  rfl

/-- The messages in the lines for a snapshot are those that are new. -/
theorem messages_tells (r : Renderer) (s : Snapshot) :
    (r.tells s).filterMap Line.message? = r.fresh s := by
  simp only [tells, List.filterMap_append, List.filterMap_map]
  rw [Line.filterMap_onlyIf Line.message? (.link _) rfl,
    Line.filterMap_onlyIf Line.message? (.session _) rfl,
    Line.filterMap_onlyIf Line.message? .loading rfl]
  have messages : (r.fresh s).filterMap (Line.message? ∘ .message) = r.fresh s :=
    List.filterMap_some
  have errors : (r.errors s).filterMap (Line.message? ∘ .error) = [] :=
    List.filterMap_eq_nil_iff.mpr fun _ _ => rfl
  have requests : (r.requests s).filterMap (Line.message? ∘ .request) = [] :=
    List.filterMap_eq_nil_iff.mpr fun _ _ => rfl
  rw [messages, errors, requests]
  simp only [List.nil_append, List.append_nil]

/-- The request in the lines for a snapshot is the one that counts as new. -/
theorem requests_tells (r : Renderer) (s : Snapshot) :
    (r.tells s).filterMap Line.request? = r.requests s := by
  simp only [tells, List.filterMap_append, List.filterMap_map]
  rw [Line.filterMap_onlyIf Line.request? (.link _) rfl,
    Line.filterMap_onlyIf Line.request? (.session _) rfl,
    Line.filterMap_onlyIf Line.request? .loading rfl]
  have messages : (r.fresh s).filterMap (Line.request? ∘ .message) = [] :=
    List.filterMap_eq_nil_iff.mpr fun _ _ => rfl
  have errors : (r.errors s).filterMap (Line.request? ∘ .error) = [] :=
    List.filterMap_eq_nil_iff.mpr fun _ _ => rfl
  have requests : (r.requests s).filterMap (Line.request? ∘ .request) = r.requests s :=
    List.filterMap_some
  rw [messages, errors, requests]
  rfl

theorem known_after (r : Renderer) (s : Snapshot) : (r.after s).known s = (r.after s).printed :=
  if_pos rfl

theorem fresh_after (r : Renderer) (s : Snapshot) : (r.after s).fresh s = [] := by
  rw [fresh, known_after]
  exact freshMessages_eq_nil fun m seen complete => known_of_complete seen complete

/-- A snapshot that was just rendered leaves no trace. -/
theorem render_render (r : Renderer) (p : Palette) (s : Snapshot) :
    (r.render p s).1.render p s = ((r.render p s).1, []) := by
  have printed : ((r.after s).after s).printed = (r.after s).printed := by
    change (r.after s).known s ++ ((r.after s).fresh s).map (·.id) = _
    rw [fresh_after, known_after]
    exact List.append_nil _
  have nothing : (r.after s).tells s = [] := by
    have failed : (r.after s).errors s = [] := if_pos rfl
    have asks : (r.after s).requests s = [] := if_pos rfl
    rw [tells, fresh_after, failed, asks]
    simp [after, Line.onlyIf]
  refine Prod.ext ?_ ?_
  · change (r.after s).after s = r.after s
    simp only [after] at printed ⊢
    rw [printed]
  · change (r.after s).lines p s = []
    rw [lines_eq, nothing]
    rfl

/-! ## Several snapshots -/

/-- The renderer after some snapshots. -/
def afterAll (r : Renderer) (shown : List Snapshot) : Renderer :=
  shown.foldl after r

/-- What the lines for some snapshots tell, one after the other. -/
def tellsAll (r : Renderer) : List Snapshot → List Line
  | [] => []
  | s :: rest => r.tells s ++ (r.after s).tellsAll rest

/-- The renderer after some snapshots, and all the lines for them. -/
def renderAll (r : Renderer) (p : Palette) : List Snapshot → Renderer × List String
  | [] => (r, [])
  | s :: rest =>
    let next := r.render p s
    let later := next.1.renderAll p rest
    (later.1, next.2 ++ later.2)

theorem renderAll_eq (r : Renderer) (p : Palette) (shown : List Snapshot) :
    r.renderAll p shown = (r.afterAll shown, (r.tellsAll shown).map (Line.text p)) := by
  induction shown generalizing r with
  | nil => rfl
  | cons s rest ih =>
      rw [renderAll, tellsAll, List.map_append, ← lines_eq]
      simp only [render, ih]
      rfl

theorem afterAll_concat (r : Renderer) (shown : List Snapshot) (s : Snapshot) :
    r.afterAll (shown ++ [s]) = (r.afterAll shown).after s := by
  simp [afterAll]

theorem tellsAll_concat (r : Renderer) (shown : List Snapshot) (s : Snapshot) :
    r.tellsAll (shown ++ [s]) = r.tellsAll shown ++ (r.afterAll shown).tells s := by
  induction shown generalizing r with
  | nil => exact List.append_nil _
  | cons first rest ih =>
      rw [List.cons_append, tellsAll, tellsAll, ih, List.append_assoc]
      rfl

/-! ## Samples of what is published -/

/-- A fresh renderer has told the complete messages of the snapshot that it was given last, and
knows them. -/
structure UpTo (last : Snapshot) (shown : List Snapshot) : Prop where
  told : (({} : Renderer).tellsAll shown).filterMap Line.message? = last.completed
  printed : (({} : Renderer).afterAll shown).printed = last.completed.map (·.id)
  session : (({} : Renderer).afterAll shown).session = some last.session

variable {shown : List Snapshot} {last next : Snapshot}

/-- The first snapshot is told in full. -/
theorem upTo_singleton (distinct : next.ids.Nodup) : UpTo next [next] := by
  have completed : next.completed = [] ++ next.completed := rfl
  have fresh : ({} : Renderer).fresh next = next.completed :=
    freshMessages_of_completed completed distinct
  constructor
  · rw [tellsAll, tellsAll, List.append_nil, messages_tells, fresh]
  · change (({} : Renderer).fresh next).map (·.id) = _
    rw [fresh]
  · rfl

/-- Of a snapshot that continues the last one, what has become complete is told. -/
theorem UpTo.concat (upTo : UpTo last shown) (continues : last.Continues next)
    (distinct : next.ids.Nodup) : UpTo next (shown ++ [next]) := by
  obtain ⟨more, completed⟩ := continues.completed
  have known : (({} : Renderer).afterAll shown).known next = last.completed.map (·.id) := by
    rw [Renderer.known, upTo.session, continues.session, if_pos rfl, upTo.printed]
  have fresh : (({} : Renderer).afterAll shown).fresh next = more := by
    rw [Renderer.fresh, known]
    exact freshMessages_of_completed completed.symm distinct
  constructor
  · rw [tellsAll_concat, List.filterMap_append, upTo.told, messages_tells, fresh, completed]
  · rw [afterAll_concat]
    change Renderer.known _ next ++ (Renderer.fresh _ next).map (·.id) = _
    rw [known, fresh, ← List.map_append, completed]
  · rw [afterAll_concat]
    rfl

/-- Snapshots that continue one another are told up to the last one. -/
theorem upTo_of_pairwise (distinct : ∀ s ∈ shown, s.ids.Nodup)
    (continues : shown.Pairwise Snapshot.Continues) (ending : shown.getLast? = some last) :
    UpTo last shown := by
  induction shown using List.reverseRecOn generalizing last with
  | nil => cases ending
  | append_singleton before next ih =>
      rw [List.getLast?_concat] at ending
      obtain rfl := Option.some.inj ending
      obtain ⟨earlier, -, toNext⟩ := List.pairwise_append.mp continues
      have differ := distinct next (List.mem_append_right before (List.mem_singleton_self next))
      cases previous : before.getLast? with
      | none =>
          rw [List.getLast?_eq_none_iff.mp previous]
          exact upTo_singleton differ
      | some last =>
          have upTo := ih (fun s seen => distinct s (List.mem_append_left _ seen)) earlier previous
          have goesOn := toNext last (List.mem_of_getLast? previous) next
            (List.mem_singleton_self next)
          exact upTo.concat goesOn differ

/-- What is printed of the messages does not depend on which snapshots were skipped.  In every
reachable state in which the messages are told apart by their ids, and for every way of going on
that puts no other messages in their place, let a fresh renderer be given any of the published
snapshots, in order and each as often as one likes.  Its lines about messages tell exactly the
complete messages of the snapshot that it was given last, in order and each once.  And whatever a
renderer was given before, the same snapshot given twice changes nothing the second time and prints
nothing. -/
theorem printed_whatever_is_skipped (session : String) (interval : Nat)
    (inputs later : List (State.Input × Moment)) (p : Palette) :
    let s := (State.initial session interval).run inputs
    (∀ shown last, s.snapshot.ids.Nodup → s.KeepsMessages later →
      Samples shown (s.published later) → shown.getLast? = some last →
        let told := ({} : Renderer).tellsAll shown
        (({} : Renderer).renderAll p shown).2 = told.map (Line.text p) ∧
          told.filterMap Line.message? = last.completed) ∧
      ∀ (r : Renderer) (snapshot : Snapshot),
        (r.render p snapshot).1.render p snapshot = ((r.render p snapshot).1, []) := by
  intro s
  refine ⟨?_, fun r snapshot => render_render r p snapshot⟩
  intro shown last differ keeps samples ending told
  have distinct : s.Distinct :=
    ⟨State.sound_run session interval inputs, State.isCounted_run session interval inputs, differ⟩
  have continues : shown.Pairwise Snapshot.Continues :=
    samples.pairwise .refl (State.pairwise_published distinct keeps)
  have apart : ∀ snapshot ∈ shown, snapshot.ids.Nodup := by
    intro snapshot seen
    exact (State.continues_of_mem distinct keeps (samples.subset seen)).2
  have upTo : UpTo last shown := upTo_of_pairwise apart continues ending
  exact ⟨congrArg Prod.snd (renderAll_eq {} p shown), upTo.told⟩

/-- The first snapshot is given twice, the one with the unfinished answer not at all. -/
theorem printed_whatever_is_skipped_of_answer :
    let now : Moment := ⟨0, ⟨0, 0⟩⟩
    let s := (State.initial "default" 50).run [(.turn "hi", now)]
    let later : List (State.Input × Moment) :=
      [(.takeChanges, now), (.received State.chunkOfOne, now), (.flushDue, ⟨50, ⟨0, 0⟩⟩),
        (.takeChanges, now), (.disconnected, now), (.takeChanges, now)]
    let first := (s.run (later.take 1)).snapshot
    let last := (s.run later).snapshot
    s.snapshot.ids.Nodup ∧ s.KeepsMessages later ∧
      Samples [first, first, last] (s.published later) ∧
      (({} : Renderer).tellsAll [first, first, last]).filterMap Line.message? = last.completed ∧
      last.completed.map (·.content) = ["hi", "a"] := by
  intro now s later first last
  have distinct : s.snapshot.ids.Nodup := List.nodup_singleton _
  have keeps : s.KeepsMessages later := ⟨rfl, rfl, rfl, rfl, rfl, rfl, trivial⟩
  have samples := Samples.again (.skip (.skip (.again (.again (.skip .nil first)))
    (s.run (later.take 4)).snapshot) last)
  have told := (printed_whatever_is_skipped "default" 50 [(.turn "hi", now)] later .plain).1
    [first, first, last] last distinct keeps samples rfl
  exact ⟨distinct, keeps, samples, told.2, rfl⟩

end Renderer

end StreamingChat.Terminal
