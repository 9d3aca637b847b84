import StreamingChat.Proofs.Chat.Direct

/-!
# What a flush makes of gathered text

A flush continues the message in progress or begins one.  As long as the node of the gathered text
and that of the message in progress agree, gathering a fragment and flushing later gives what
flushing first and writing the fragment at once gives, up to ids and times.
-/

namespace StreamingChat.Chat.Feed

open StreamingChat.Calendar (Instant Moment)
open StreamingChat.Chat.Transcript (Alike GoesOn)

variable {f : Feed} {g fragment : Fragment} {m : Message}

/-! ## The transcript after a flush -/

theorem transcript_flush_of_none (idle : f.gathered = none) (clock : Instant) :
    (f.flush clock).transcript = f.transcript := by
  rw [flush, idle]

theorem transcript_flush_start (gathered : f.gathered = some g)
    (idle : f.transcript.inProgress = none) (clock : Instant) :
    (f.flush clock).transcript = f.transcript.startAnswer g.text g.origin clock := by
  rw [flush, gathered]
  simp only [idle]

theorem transcript_flush_append (gathered : f.gathered = some g)
    (open_ : f.transcript.inProgress = some m) (clock : Instant) :
    (f.flush clock).transcript = f.transcript.append g.text g.origin := by
  rw [flush, gathered]
  simp only [open_]

/-- The clock decides nothing but the time that is written down. -/
theorem alike_flush (f : Feed) (clock other : Instant) :
    Alike (f.flush clock).transcript (f.flush other).transcript := by
  cases gathered : f.gathered with
  | none =>
      rw [transcript_flush_of_none gathered, transcript_flush_of_none gathered]
      exact Alike.refl _
  | some g =>
      cases open_ : f.transcript.inProgress with
      | none =>
          rw [transcript_flush_start gathered open_, transcript_flush_start gathered open_]
          exact (Alike.refl _).startAnswer _ _ _ _
      | some m =>
          rw [transcript_flush_append gathered open_, transcript_flush_append gathered open_]
          exact Alike.refl _

/-! ## Agreement of nodes -/

/-- The gathered text and the message in progress come from one node, if both nodes are known. -/
def Coherent (f : Feed) : Prop :=
  ∀ g m, f.gathered = some g → f.transcript.inProgress = some m → GoesOn g m

theorem coherent_of_none (idle : f.gathered = none) : f.Coherent := by
  intro g m gathered
  rw [idle] at gathered
  cases gathered

theorem node_of_gathered (gathered : f.gathered = some g) :
    f.node = (g.origin.node <|> f.transcript.node) := by
  rw [node, gathered]
  rfl

/-- With nodes that agree, fragments are held against the same node before and after a flush. -/
theorem node_flush (coherent : f.Coherent) (clock : Instant) :
    (f.flush clock).transcript.node = f.node := by
  cases gathered : f.gathered with
  | none =>
      rw [transcript_flush_of_none gathered, node, gathered]
      rfl
  | some g =>
      rw [node_of_gathered gathered]
      cases open_ : f.transcript.inProgress with
      | none =>
          rw [transcript_flush_start gathered open_, Transcript.node, Transcript.node, open_]
          cases node : g.origin.node <;> exact node
      | some m =>
          rw [transcript_flush_append gathered open_, Transcript.node, Transcript.node,
            Transcript.append, open_]
          have agree := coherent g m gathered open_
          change (m.origin.node <|> g.origin.node) = (g.origin.node <|> m.origin.node)
          cases left : g.origin.node with
          | none => cases m.origin.node <;> rfl
          | some new =>
              cases right : m.origin.node with
              | none => rfl
              | some current => exact congrArg some (agree new current left right).symm

theorem isNewNode_eq_true_iff :
    f.isNewNode fragment = true ↔
      ∃ new current, fragment.origin.node = some new ∧ f.node = some current ∧ new ≠ current := by
  unfold isNewNode
  constructor
  · intro differ
    split at differ
    · rename_i new current left right
      exact ⟨new, current, left, right, bne_iff_ne.mp differ⟩
    · cases differ
  · rintro ⟨new, current, left, right, differ⟩
    rw [left, right]
    exact bne_iff_ne.mpr differ

/-- A fragment that begins no new node goes on with whatever it is held against. -/
theorem eq_of_isNewNode_eq_false (same : f.isNewNode fragment = false) {new current : String}
    (left : fragment.origin.node = some new) (right : f.node = some current) :
    new = current := by
  apply Decidable.byContradiction
  intro differ
  rw [isNewNode_eq_true_iff.mpr ⟨new, current, left, right, differ⟩] at same
  cases same

/-! ## Gathering -/

theorem push_of_isEmpty (empty : fragment.text.isEmpty = true) (now : Moment) :
    f.push fragment now = (f, .ignored) := by
  rw [push, if_pos empty]

theorem push_of_isNewNode (text : fragment.text.isEmpty = false)
    (differ : f.isNewNode fragment = true) (now : Moment) :
    (f.push fragment now).1.gathered = none ∧
      (f.push fragment now).1.transcript =
        (f.flush now.clock).transcript.startAnswer fragment.text fragment.origin now.clock ∧
      (f.push fragment now).2 = .newNode := by
  rw [push, text, if_neg Bool.false_ne_true, if_pos differ]
  exact ⟨gathered_flush f now.clock, rfl, rfl⟩

theorem push_of_gather (text : fragment.text.isEmpty = false)
    (same : f.isNewNode fragment = false) (now : Moment) :
    f.push fragment now = (f.gather fragment now.tick, .gathered) := by
  rw [push, text, same, if_neg Bool.false_ne_true, if_neg Bool.false_ne_true]

theorem gathered_gather_of_none (idle : f.gathered = none) (tick : Nat) :
    (f.gather fragment tick).gathered = some fragment := by
  rw [gather, idle]

theorem gathered_gather_of_some (gathered : f.gathered = some g) (tick : Nat) :
    (f.gather fragment tick).gathered =
      some { text := g.text ++ fragment.text, origin := g.origin.fillFrom fragment.origin } := by
  rw [gather, gathered]

theorem transcript_gather (f : Feed) (fragment : Fragment) (tick : Nat) :
    (f.gather fragment tick).transcript = f.transcript := rfl

theorem coherent_gather (coherent : f.Coherent) (same : f.isNewNode fragment = false)
    (tick : Nat) : (f.gather fragment tick).Coherent := by
  intro h m gathered open_ new current left right
  rw [transcript_gather] at open_
  have node : f.transcript.node = some current := by rw [Transcript.node, open_]; exact right
  cases before : f.gathered with
  | none =>
      rw [gathered_gather_of_none before] at gathered
      obtain rfl := Option.some.inj gathered
      apply eq_of_isNewNode_eq_false same left
      rw [Feed.node, before]
      exact node
  | some g =>
      rw [gathered_gather_of_some before] at gathered
      obtain rfl := Option.some.inj gathered
      cases old : g.origin.node with
      | some known =>
          -- The gathered text keeps the node it has.
          have kept : some known = some new := by rw [← left, Origin.fillFrom, old]; rfl
          exact coherent g m before open_ new current (old.trans kept) right
      | none =>
          have taken : fragment.origin.node = some new := by rw [← left, Origin.fillFrom, old]; rfl
          apply eq_of_isNewNode_eq_false same taken
          rw [node_of_gathered before, old]
          exact node

theorem coherent_push (coherent : f.Coherent) (fragment : Fragment) (now : Moment) :
    (f.push fragment now).1.Coherent := by
  cases text : fragment.text.isEmpty with
  | true =>
      rw [push_of_isEmpty text]
      exact coherent
  | false =>
      cases differ : f.isNewNode fragment with
      | true =>
          exact coherent_of_none (push_of_isNewNode text differ now).1
      | false =>
          rw [push_of_gather text differ]
          exact coherent_gather coherent differ now.tick

/-- A message that holds the flushed text is one that a fragment of the same node goes on with. -/
theorem goesOn_flush (coherent : f.Coherent) (same : f.isNewNode fragment = false)
    (clock : Instant) (open_ : (f.flush clock).transcript.inProgress = some m) :
    GoesOn fragment m := by
  intro new current left right
  apply eq_of_isNewNode_eq_false same left
  rw [← node_flush coherent clock, Transcript.node, open_]
  exact right

/-- Gathering a fragment and then flushing writes it behind what was to be flushed before. -/
theorem flush_gather (text : fragment.text.isEmpty = false) (coherent : f.Coherent)
    (same : f.isNewNode fragment = false) (tick : Nat) (clock other : Instant) :
    Alike ((f.gather fragment tick).flush clock).transcript
      ((f.flush clock).transcript.write fragment other) := by
  have goesOn {m} (open_ : (f.flush clock).transcript.inProgress = some m) :=
    Transcript.write_of_goesOn text open_ (goesOn_flush coherent same clock open_) other
  cases before : f.gathered with
  | none =>
      have after : (f.gather fragment tick).gathered = some fragment :=
        gathered_gather_of_none before tick
      cases open_ : f.transcript.inProgress with
      | none =>
          rw [transcript_flush_start after open_, transcript_flush_of_none before,
            Transcript.write_of_none text open_]
          exact (Alike.refl _).startAnswer _ _ _ _
      | some m =>
          rw [goesOn (by rw [transcript_flush_of_none before]; exact open_),
            transcript_flush_append after open_, transcript_flush_of_none before]
          exact Alike.refl _
  | some g =>
      have after : (f.gather fragment tick).gathered = some
          { text := g.text ++ fragment.text, origin := g.origin.fillFrom fragment.origin } :=
        gathered_gather_of_some before tick
      cases open_ : f.transcript.inProgress with
      | none =>
          rw [goesOn (by rw [transcript_flush_start before open_]; rfl),
            transcript_flush_start after open_, transcript_flush_start before open_]
          exact Alike.refl _
      | some m =>
          rw [goesOn (by rw [transcript_flush_append before open_, Transcript.append, open_]; rfl),
            transcript_flush_append after open_, transcript_flush_append before open_,
            Transcript.append_append]
          exact Alike.refl _

/-- Pushing and then flushing is flushing and then writing. -/
theorem flush_push (coherent : f.Coherent) (fragment : Fragment) (now : Moment)
    (clock other : Instant) :
    Alike ((f.push fragment now).1.flush clock).transcript
      ((f.flush clock).transcript.write fragment other) := by
  cases text : fragment.text.isEmpty with
  | true =>
      rw [push_of_isEmpty text, Transcript.write_of_isEmpty text]
      exact Alike.refl _
  | false =>
      cases differ : f.isNewNode fragment with
      | false =>
          rw [push_of_gather text differ]
          exact flush_gather text coherent differ now.tick clock other
      | true =>
          obtain ⟨new, current, left, right, ne⟩ := isNewNode_eq_true_iff.mp differ
          obtain ⟨idle, begun, -⟩ := push_of_isNewNode text differ now
          rw [transcript_flush_of_none idle, begun]
          have node := (node_flush coherent clock).trans right
          obtain ⟨m, open_, here⟩ := Option.bind_eq_some_iff.mp node
          rw [Transcript.write_of_ne text open_ left here ne]
          exact (alike_flush f now.clock clock).startAnswer _ _ _ _

end StreamingChat.Chat.Feed
