import StreamingChat.Chat.Run

/-!
# Likeness of transcripts

Two transcripts are alike when their messages say the same: the same role, text, origin and
completeness, and the same id where the backend gave one.  Ids that the client made up and times
that it read from its clock are left out of account.  Every operation of a transcript keeps
likeness, whatever clock it reads.
-/

namespace StreamingChat.Chat

open StreamingChat.Calendar (Instant)

/-- The id that the backend gave, if it gave one. -/
def MessageId.given? : MessageId → Option String
  | given id => some id
  | generated _ => none

namespace Message

/-- What a message says, whatever id and time the client gave it. -/
structure Body where
  id : Option String
  role : Role
  content : String
  origin : Origin
  isComplete : Bool
  deriving DecidableEq, Repr

def body (m : Message) : Body where
  id := m.id.given?
  role := m.role
  content := m.content
  origin := m.origin
  isComplete := m.isComplete

theorem body_eq_iff (m n : Message) :
    m.body = n.body ↔
      m.id.given? = n.id.given? ∧ m.role = n.role ∧ m.content = n.content ∧
        m.origin = n.origin ∧ m.isComplete = n.isComplete := by
  simp [body]

theorem body_completed {m n : Message} (same : m.body = n.body) :
    (Transcript.completed m).body = (Transcript.completed n).body := by
  obtain ⟨id, role, content, origin, -⟩ := (body_eq_iff m n).mp same
  exact (body_eq_iff _ _).mpr ⟨id, role, content, origin, rfl⟩

theorem body_appended {m n : Message} (same : m.body = n.body) (text : String)
    (more : Origin) :
    ({ m with content := m.content ++ text, origin := m.origin.fillFrom more } : Message).body =
      ({ n with
          content := n.content ++ text, origin := n.origin.fillFrom more } : Message).body := by
  obtain ⟨id, role, content, origin, complete⟩ := (body_eq_iff m n).mp same
  refine (body_eq_iff _ _).mpr ⟨id, role, ?_, ?_, complete⟩
  · exact congrArg (· ++ text) content
  · exact congrArg (·.fillFrom more) origin

end Message

namespace Transcript

/-- The messages of two transcripts say the same. -/
structure Alike (t u : Transcript) : Prop where
  committed : t.committed.map Message.body = u.committed.map Message.body
  inProgress : t.inProgress.map Message.body = u.inProgress.map Message.body

namespace Alike

variable {t u v : Transcript}

theorem refl (t : Transcript) : Alike t t := ⟨rfl, rfl⟩

theorem trans (first : Alike t u) (second : Alike u v) : Alike t v :=
  ⟨first.committed.trans second.committed, first.inProgress.trans second.inProgress⟩

theorem visible (alike : Alike t u) :
    t.visible.map Message.body = u.visible.map Message.body := by
  have tail (o : Option Message) : o.toList.map Message.body = (o.map Message.body).toList := by
    cases o <;> rfl
  rw [Transcript.visible, Transcript.visible, List.map_append, List.map_append, tail, tail,
    alike.committed, alike.inProgress]

/-- Either no message is in progress on both sides, or one is on each, and they say the same. -/
theorem inProgress_cases (alike : Alike t u) :
    (t.inProgress = none ∧ u.inProgress = none) ∨
      ∃ m n, t.inProgress = some m ∧ u.inProgress = some n ∧ m.body = n.body := by
  have same := alike.inProgress
  cases left : t.inProgress with
  | none =>
      cases right : u.inProgress with
      | none => exact .inl ⟨rfl, rfl⟩
      | some n => rw [left, right] at same; cases same
  | some m =>
      cases right : u.inProgress with
      | none => rw [left, right] at same; cases same
      | some n =>
          rw [left, right] at same
          exact .inr ⟨m, n, rfl, rfl, Option.some.inj same⟩

theorem node (alike : Alike t u) : t.node = u.node := by
  obtain ⟨left, right⟩ | ⟨m, n, left, right, same⟩ := alike.inProgress_cases
  · rw [Transcript.node, Transcript.node, left, right]
  · rw [Transcript.node, Transcript.node, left, right]
    exact congrArg (·.node) ((Message.body_eq_iff m n).mp same).2.2.2.1

theorem issue (alike : Alike t u) (count other : Nat) :
    Alike (t.issue count) (u.issue other) :=
  ⟨alike.committed, alike.inProgress⟩

theorem push (alike : Alike t u) {m n : Message} (same : m.body = n.body) :
    Alike (t.push m) (u.push n) where
  committed := by
    rw [Transcript.push, Transcript.push, List.map_append, List.map_append, alike.committed]
    exact congrArg (_ ++ [·]) (Message.body_completed same)
  inProgress := alike.inProgress

theorem complete (alike : Alike t u) : Alike t.complete u.complete where
  committed := by
    rw [Transcript.complete, Transcript.complete, List.map_append, List.map_append,
      alike.committed]
    obtain ⟨left, right⟩ | ⟨m, n, left, right, same⟩ := alike.inProgress_cases
    · rw [left, right]
    · rw [left, right]
      exact congrArg (_ ++ [·]) (Message.body_completed same)
  inProgress := rfl

theorem start (alike : Alike t u) {m n : Message} (same : m.body = n.body) :
    Alike (t.start m) (u.start n) where
  committed := alike.complete.committed
  inProgress := by
    obtain ⟨id, role, content, origin, -⟩ := (Message.body_eq_iff m n).mp same
    exact congrArg some ((Message.body_eq_iff _ _).mpr ⟨id, role, content, origin, rfl⟩)

theorem append (alike : Alike t u) (text : String) (origin : Origin) :
    Alike (t.append text origin) (u.append text origin) where
  committed := alike.committed
  inProgress := by
    obtain ⟨left, right⟩ | ⟨m, n, left, right, same⟩ := alike.inProgress_cases
    · rw [Transcript.append, Transcript.append, left, right]
    · rw [Transcript.append, Transcript.append, left, right]
      exact congrArg some (Message.body_appended same text origin)

/-- Nothing that a clock shows or that the client makes up tells two answers apart. -/
theorem startAnswer (alike : Alike t u) (text : String) (origin : Origin)
    (clock other : Instant) :
    Alike (t.startAnswer text origin clock) (u.startAnswer text origin other) := by
  apply Alike.issue
  apply alike.start
  rfl

theorem say (alike : Alike t u) (role : Role) (content : String) (clock other : Instant) :
    Alike (t.say role content clock) (u.say role content other) := by
  apply Alike.issue
  apply alike.push
  rfl

theorem clear (t u : Transcript) : Alike t.clear u.clear := ⟨rfl, rfl⟩

theorem body_toMessage (e : Entry) (serial other : Nat) (clock later : Instant) :
    (e.toMessage (.generated serial) clock).body = (e.toMessage (.generated other) later).body := by
  have id : ((e.id.map MessageId.given).getD (.generated serial)).given? =
      ((e.id.map MessageId.given).getD (.generated other)).given? := by
    cases e.id <;> rfl
  exact (Message.body_eq_iff _ _).mpr ⟨id, rfl, rfl, rfl, rfl⟩

/-- Replayed entries give the same messages whatever was there before. -/
theorem replay (t u : Transcript) (entries : List Entry) (clock other : Instant) :
    Alike (t.replay entries clock) (u.replay entries other) where
  committed := by
    simp only [Transcript.replay, Transcript.replace, Transcript.issue, messagesOf, List.map_map]
    apply List.ext_getElem
    · simp
    · intro i left right
      simp only [List.getElem_map, List.getElem_mapIdx, Function.comp_apply]
      exact Message.body_completed (body_toMessage _ _ _ _ _)
  inProgress := rfl

end Alike

end Transcript

end StreamingChat.Chat
