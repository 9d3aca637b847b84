import StreamingChat.Proofs.Chat.FeedChange
import StreamingChat.Proofs.Chat.SessionChange

/-!
# What a backend that behaves well sends

A backend that behaves well answers a frame that points it at a session with a history of that
session.  What it sends besides neither is a history nor claims to be one.  Of its texts, those that
end the wait for a history are the histories that are accepted, and they are histories of the
current session.
-/

namespace StreamingChat.Wire

/-- The session that a frame points the backend at. -/
def Outbound.target? : Outbound → Option String
  | .control (.setSession session) => some session
  | _ => none

/-- Whether a frame points the backend at a session. -/
def Outbound.seeks (session : String) (frame : Outbound) : Bool :=
  frame.target? == some session

theorem Outbound.seeks_setSession (session : String) :
    (setSession session).seeks session = true :=
  beq_self_eq_true (some session)

theorem Outbound.not_seeks {frame : Outbound} (other : ∀ session, frame ≠ .setSession session)
    (session : String) : frame.seeks session = false := by
  cases frame with
  | turn t => rfl
  | control c =>
      cases c with
      | setSession session => exact absurd rfl (other session)
      | stop => rfl
      | stats => rfl
      | answer request approved => rfl

/-- Whether a text is the history of a session. -/
def isHistoryOf (session text : String) : Bool :=
  match Inbound.read? text with
  | some (.history _ (some other)) => other == session
  | _ => false

/-- Whether a text neither is a history nor claims to be one. -/
def isTalk (text : String) : Bool :=
  match Inbound.read? text with
  | some (.history _ _) => false
  | some _ => true
  | none => !Chat.State.claimsHistory text

end StreamingChat.Wire

namespace StreamingChat.Chat.State

open StreamingChat.Wire

variable {s : State} {text session : String}

/-- A text that claims to be a history only if it is one ends the wait just if it is accepted. -/
theorem loads_of_honest (honest : Inbound.read? text = none → claimsHistory text = false) :
    s.loads text = (Inbound.read? text).any s.replaces := by
  unfold loads
  cases read : Inbound.read? text with
  | none => simp only [honest read, Bool.false_and, Option.any_none]
  | some frame =>
      change _ = s.replaces frame
      split
      · next same =>
        cases same
        rfl
      · next other same =>
        cases same
        unfold replaces
        split
        · next entries session => exact absurd rfl (other entries session)
        · rfl
      · next none => cases none

theorem honest_of_talk (talk : isTalk text = true) :
    Inbound.read? text = none → claimsHistory text = false := by
  intro none
  unfold isTalk at talk
  rw [none] at talk
  exact Bool.not_eq_true' _ ▸ talk

theorem not_replaces_of_talk (talk : isTalk text = true) :
    (Inbound.read? text).any s.replaces = false := by
  unfold isTalk at talk
  cases read : Inbound.read? text with
  | none => rfl
  | some frame =>
      rw [read] at talk
      change s.replaces frame = false
      unfold replaces
      split
      · cases talk
      · rfl

theorem history_of_isHistoryOf (history : isHistoryOf session text = true) :
    ∃ entries, Inbound.read? text = some (.history entries (some session)) := by
  unfold isHistoryOf at history
  split at history
  · next entries other read =>
    rw [read, eq_of_beq history]
    exact ⟨entries, rfl⟩
  · cases history

/-- A text from a backend that behaves well ends the wait for a history just if it is the history of
the current session, and then it is accepted. -/
theorem loads_of_fair (fair : isTalk text = true ∨ ∃ session, isHistoryOf session text = true) :
    s.loads text = (Inbound.read? text).any s.replaces ∧
      (s.loads text = true → isHistoryOf s.session.current text = true) := by
  rcases fair with talk | ⟨session, history⟩
  · have same := loads_of_honest (s := s) (honest_of_talk talk)
    refine ⟨same, ?_⟩
    intro accepted
    cases (not_replaces_of_talk talk).symm.trans (same.symm.trans accepted)
  · obtain ⟨entries, read⟩ := history_of_isHistoryOf history
    have honest : Inbound.read? text = none → claimsHistory text = false := by
      intro none
      cases read.symm.trans none
    have same : s.loads text = (session == s.session.current) := by
      rw [loads, read]
      rfl
    refine ⟨loads_of_honest honest, ?_⟩
    intro accepted
    rw [← eq_of_beq (same.symm.trans accepted)]
    exact history

end StreamingChat.Chat.State
