import StreamingChat.Proofs.Chat.Writing

/-!
# Growth of a transcript

A transcript grows when its complete messages stay as they are and where they are, and the message
in progress only gains text and what was not yet known of its origin, whether or not it is completed
on the way.  Whatever an input does to a feed but a reset, the transcript grows.
-/

namespace StreamingChat.Chat

open StreamingChat.Calendar (Instant Moment)

/-! ## Growth of one message -/

/-- What is known of the first origin is the same in the second. -/
structure Origin.Keeps (o p : Origin) : Prop where
  mode : ∀ x, o.mode = some x → p.mode = some x
  agent : ∀ x, o.agent = some x → p.agent = some x
  node : ∀ x, o.node = some x → p.node = some x

namespace Origin.Keeps

theorem refl (o : Origin) : Keeps o o := ⟨fun _ => id, fun _ => id, fun _ => id⟩

theorem trans {o p q : Origin} (first : Keeps o p) (second : Keeps p q) : Keeps o q where
  mode x known := second.mode x (first.mode x known)
  agent x known := second.agent x (first.agent x known)
  node x known := second.node x (first.node x known)

theorem fillFrom (o p : Origin) : Keeps o (o.fillFrom p) where
  mode x known := by rw [Origin.fillFrom, known]; rfl
  agent x known := by rw [Origin.fillFrom, known]; rfl
  node x known := by rw [Origin.fillFrom, known]; rfl

end Origin.Keeps

/-- The second message is the first with text added at its end and more known of its origin. -/
structure Message.Grows (m n : Message) : Prop where
  id : n.id = m.id
  role : n.role = m.role
  time : n.time = m.time
  content : ∃ more, n.content = m.content ++ more
  origin : m.origin.Keeps n.origin

namespace Message.Grows

theorem trans {l m n : Message} (first : Grows l m) (second : Grows m n) : Grows l n where
  id := second.id.trans first.id
  role := second.role.trans first.role
  time := second.time.trans first.time
  content := by
    obtain ⟨text, here⟩ := first.content
    obtain ⟨more, there⟩ := second.content
    exact ⟨text ++ more, by rw [there, here, String.append_assoc]⟩
  origin := first.origin.trans second.origin

/-- The same text and origin, complete or not. -/
theorem completeness (m : Message) (isComplete : Bool) : Grows m { m with isComplete } where
  id := rfl
  role := rfl
  time := rfl
  content := ⟨"", String.append_empty.symm⟩
  origin := Origin.Keeps.refl _

theorem appended (m : Message) (text : String) (origin : Origin) :
    Grows m { m with content := m.content ++ text, origin := m.origin.fillFrom origin } where
  id := rfl
  role := rfl
  time := rfl
  content := ⟨text, rfl⟩
  origin := Origin.Keeps.fillFrom _ _

end Message.Grows

/-! ## Growth of a transcript -/

namespace Transcript

theorem visible_getElem?_of_lt {t : Transcript} {i : Nat} (inside : i < t.committed.length) :
    t.visible[i]? = t.committed[i]? :=
  List.getElem?_append_left inside

theorem visible_getElem?_length (t : Transcript) :
    t.visible[t.committed.length]? = t.inProgress := by
  rw [visible, List.getElem?_append_right (Nat.le_refl _), Nat.sub_self]
  cases t.inProgress <;> rfl

/-- Complete messages stay, and the message in progress has a successor at its place. -/
structure Grows (t u : Transcript) : Prop where
  committed : t.committed <+: u.committed
  inProgress : ∀ m, t.inProgress = some m →
    ∃ n, u.visible[t.committed.length]? = some n ∧ m.Grows n

namespace Grows

variable {t u v : Transcript}

/-- Nothing is completed, and the message in progress gives way to one that it grew to. -/
theorem of_committed_eq (committed : u.committed = t.committed)
    (inProgress : ∀ m, t.inProgress = some m → ∃ n, u.inProgress = some n ∧ m.Grows n) :
    Grows t u where
  committed := ⟨[], by rw [List.append_nil, committed]⟩
  inProgress := by rw [← committed, visible_getElem?_length]; exact inProgress

theorem refl (t : Transcript) : Grows t t :=
  of_committed_eq rfl fun m open_ => ⟨m, open_, .completeness m m.isComplete⟩

theorem trans (first : Grows t u) (second : Grows u v) : Grows t v where
  committed := first.committed.trans second.committed
  inProgress m open_ := by
    obtain ⟨n, here, grown⟩ := first.inProgress m open_
    rcases Nat.lt_or_eq_of_le first.committed.length_le with inside | last
    · -- The message has been completed on the way.
      refine ⟨n, ?_, grown⟩
      obtain ⟨rest, whole⟩ := second.committed
      rw [visible_getElem?_of_lt inside] at here
      rw [visible, ← whole, List.append_assoc, List.getElem?_append_left inside]
      exact here
    · rw [last, visible_getElem?_length] at here
      obtain ⟨l, there, more⟩ := second.inProgress n here
      exact ⟨l, by rw [last]; exact there, grown.trans more⟩

theorem append (t : Transcript) (text : String) (origin : Origin) :
    Grows t (t.append text origin) := by
  refine of_committed_eq (t := t) rfl fun m open_ => ?_
  exact ⟨_, by rw [Transcript.append, open_]; rfl, .appended m text origin⟩

theorem complete (t : Transcript) : Grows t t.complete where
  committed := List.prefix_append _ _
  inProgress m open_ := by
    refine ⟨completed m, ?_, .completeness m true⟩
    rw [visible_complete, open_]
    exact List.getElem?_concat_length

/-- A message added behind complete ones. -/
theorem of_committed_append (idle : t.inProgress = none)
    (committed : t.committed <+: u.committed) : Grows t u where
  committed := committed
  inProgress m open_ := by
    rw [idle] at open_
    cases open_

theorem startAnswer (t : Transcript) (text : String) (origin : Origin) (clock : Instant) :
    Grows t (t.startAnswer text origin clock) :=
  (complete t).trans (of_committed_append rfl List.prefix_rfl)

theorem say (idle : t.inProgress = none) (role : Role) (line : String) (clock : Instant) :
    Grows t (t.say role line clock) :=
  of_committed_append idle (List.prefix_append _ _)

end Grows

/-- A transcript grows when it is written at its end. -/
theorem Written.grows {t u : Transcript} (written : t.Written u) : Grows t u := by
  induction written with
  | unchanged => exact Grows.refl t
  | appended before text origin grown => exact grown.trans (Grows.append _ text origin)
  | completed before grown => exact grown.trans (Grows.complete _)
  | started before text origin clock grown =>
      exact grown.trans (Grows.startAnswer _ text origin clock)
  | said before idle role line clock grown =>
      exact grown.trans (Grows.say idle role line clock)

end Transcript

/-! ## Growth of what a feed shows -/

namespace Feed

open StreamingChat.Chat.Transcript (Grows)

variable {f g : Feed}

theorem grows_close (f : Feed) (clock : Instant) :
    Grows f.transcript (f.close clock).transcript :=
  (written_close f clock).grows

/-- Whatever an input does to the feed but a reset, the transcript grows. -/
theorem grows_of_change {now : Moment} (change : f.Change now false g) :
    Grows f.transcript g.transcript :=
  (written_of_change change).grows

end Feed

end StreamingChat.Chat
