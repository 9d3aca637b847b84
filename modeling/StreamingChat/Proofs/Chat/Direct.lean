import StreamingChat.Proofs.Chat.Likeness

/-!
# The conversation without gathering

The same conversation with the text of every chunk put into the transcript at once.  Nothing is
gathered, so that a deadline has nothing to show.  It is what a conversation that gathers its text
is held against.
-/

namespace StreamingChat.Chat

open StreamingChat.Calendar (Instant Moment)
open StreamingChat.Wire

/-- Puts a fragment into the transcript at once.  It goes to the message in progress, which keeps
the origin it has; but if both are known to come from nodes, and from different ones, that message
is completed and a new one begins. -/
def Transcript.write (t : Transcript) (fragment : Fragment) (clock : Instant) : Transcript :=
  if fragment.text.isEmpty then t
  else
    match t.inProgress with
    | none => t.startAnswer fragment.text fragment.origin clock
    | some m =>
      match fragment.origin.node, m.origin.node with
      | some new, some current =>
        if new = current then t.append fragment.text fragment.origin
        else t.startAnswer fragment.text fragment.origin clock
      | _, _ => t.append fragment.text fragment.origin

namespace State

def writeChunk (s : State) (text : String) (origin : Origin) (now : Moment) : State :=
  { s with feed := { s.feed with
      transcript := s.feed.transcript.write ⟨text, origin⟩ now.clock } }.touchedIf (!text.isEmpty)

/-- As `step`, but for chunks and deadlines. -/
def stepDirectly (s : State) (input : Input) (now : Moment) : State × List Effect :=
  match input with
  | .received text =>
    match Inbound.read? text with
    | some (.chunk (some piece) origin) => (s.writeChunk piece origin now, [])
    | _ => s.receive text now
  | .flushDue => (s, [])
  | input => s.step input now

def runDirectly (s : State) (inputs : List (Input × Moment)) : State :=
  inputs.foldl (fun s i => (s.stepDirectly i.1 i.2).1) s

@[simp]
theorem runDirectly_nil (s : State) : s.runDirectly [] = s := rfl

@[simp]
theorem runDirectly_concat (s : State) (inputs : List (Input × Moment))
    (input : Input × Moment) :
    s.runDirectly (inputs ++ [input]) =
      ((s.runDirectly inputs).stepDirectly input.1 input.2).1 := by
  simp [runDirectly]

/-- Deadlines that have passed leave no trace in a run without gathering. -/
theorem runDirectly_erase_flushes (s : State) (inputs : List (Input × Moment)) :
    s.runDirectly (inputs.filter (·.1 ≠ .flushDue)) = s.runDirectly inputs := by
  induction inputs generalizing s with
  | nil => rfl
  | cons head rest ih =>
      obtain ⟨input, now⟩ := head
      by_cases flush : input = .flushDue
      · rw [List.filter_cons_of_neg (by simp [flush]), ih]
        subst flush
        rfl
      · rw [List.filter_cons_of_pos (by simp [flush])]
        exact ih (s.stepDirectly input now).1

end State

namespace Transcript

variable {t : Transcript} {m : Message} {fragment : Fragment}

theorem append_append (t : Transcript) (text more : String) (origin other : Origin) :
    (t.append text origin).append more other =
      t.append (text ++ more) (origin.fillFrom other) := by
  cases open_ : t.inProgress with
  | none => simp only [append, open_, Option.map_none]
  | some m => simp only [append, open_, Option.map_some, Origin.fillFrom_assoc, String.append_assoc]

theorem write_of_isEmpty (empty : fragment.text.isEmpty = true) (clock : Instant) :
    t.write fragment clock = t := by
  rw [write, if_pos empty]

theorem write_of_none (text : fragment.text.isEmpty = false) (idle : t.inProgress = none)
    (clock : Instant) :
    t.write fragment clock = t.startAnswer fragment.text fragment.origin clock := by
  rw [write, text, idle]
  rfl

/-- Whether a fragment goes on with a message: not if both are known to come from nodes, and from
different ones. -/
def GoesOn (fragment : Fragment) (m : Message) : Prop :=
  ∀ new current, fragment.origin.node = some new → m.origin.node = some current → new = current

theorem not_goesOn_iff :
    ¬ GoesOn fragment m ↔
      ∃ new current, fragment.origin.node = some new ∧ m.origin.node = some current ∧
        new ≠ current := by
  simp [GoesOn]

theorem write_of_goesOn (text : fragment.text.isEmpty = false) (open_ : t.inProgress = some m)
    (goesOn : GoesOn fragment m) (clock : Instant) :
    t.write fragment clock = t.append fragment.text fragment.origin := by
  simp only [write, text, open_, Bool.false_eq_true, if_false]
  split
  · rename_i new current left right
    exact if_pos (goesOn new current left right)
  · rfl

theorem write_of_ne {new current : String} (text : fragment.text.isEmpty = false)
    (open_ : t.inProgress = some m) (left : fragment.origin.node = some new)
    (right : m.origin.node = some current) (differ : new ≠ current) (clock : Instant) :
    t.write fragment clock = t.startAnswer fragment.text fragment.origin clock := by
  simp only [write, text, open_, left, right, Bool.false_eq_true, if_false, if_neg differ]

/-- Like transcripts stay alike when the same fragment is written to them. -/
theorem Alike.write {u : Transcript} (alike : Alike t u) (fragment : Fragment)
    (clock other : Instant) : Alike (t.write fragment clock) (u.write fragment other) := by
  cases text : fragment.text.isEmpty with
  | true =>
      rw [write_of_isEmpty text, write_of_isEmpty text]
      exact alike
  | false =>
      obtain ⟨left, right⟩ | ⟨m, n, left, right, same⟩ := alike.inProgress_cases
      · rw [write_of_none text left, write_of_none text right]
        exact alike.startAnswer _ _ _ _
      · have origin := ((Message.body_eq_iff m n).mp same).2.2.2.1
        by_cases goesOn : GoesOn fragment m
        · rw [write_of_goesOn text left goesOn,
            write_of_goesOn text right (by rw [GoesOn, ← origin]; exact goesOn)]
          exact alike.append _ _
        · obtain ⟨new, current, here, there, differ⟩ := not_goesOn_iff.mp goesOn
          rw [write_of_ne text left here there differ,
            write_of_ne text right here (by rw [← origin]; exact there) differ]
          exact alike.startAnswer _ _ _ _

end Transcript

end StreamingChat.Chat
