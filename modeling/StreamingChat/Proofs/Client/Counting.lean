import StreamingChat.Proofs.Chat.Answering
import StreamingChat.Proofs.Client.HistoryRequest

/-!
# Counting histories

From the moment that a client is pointed at a session, the histories that it accepts are counted
together with those of that session that are still under way on its link.  An input moves a history
from the second kind to the first, and adds one only if nothing was asked for on the link that is
open.
-/

namespace StreamingChat.Client

open StreamingChat.Chat
open StreamingChat.Link
open StreamingChat.Wire

namespace Standing

variable {p q : Standing} {bound applied under fewer : Nat}

/-- How many histories of a session are under way on the open link, those that the backend has yet
to send counted by the frames that it has yet to read. -/
def underway (p : Standing) (read : Nat) (incoming : List String) (session : String) : Nat :=
  if p.isOpen then
    (p.onLink.drop read).countP (Outbound.seeks session) + incoming.countP (isHistoryOf session)
  else 0

/-- How a count of accepted histories stands to a bound, with some more under way. -/
inductive Counted (p : Standing) (bound applied under : Nat) : Prop where
  | stopped (stopped : p.isRunning = false) (closed : p.isOpen = false) (within : applied ≤ bound)
  | came (running : p.isRunning = true) (owed : p.session.owed = false)
      (loading : p.session.loading = false) (some_ : 1 ≤ applied)
      (within : applied + under ≤ bound)
  | owed (running : p.isRunning = true) (closed : p.isOpen = false) (owed : p.session.owed = true)
      (due : applied + 1 ≤ bound)
  | asked (running : p.isRunning = true) (open_ : p.isOpen = true) (owed : p.session.owed = false)
      (loading : p.session.loading = true) (due : applied + 1 ≤ bound)
      (within : applied + under ≤ bound)

theorem Counted.le (counted : p.Counted bound applied under) : applied ≤ bound := by
  cases counted with
  | stopped _ _ within => exact within
  | came _ _ _ _ within => omega
  | owed _ _ _ due => omega
  | asked _ _ _ _ due _ => omega

theorem Counted.mono (counted : p.Counted bound applied under) (less : fewer ≤ under) :
    p.Counted bound applied fewer := by
  cases counted with
  | stopped stopped closed within => exact .stopped stopped closed within
  | came running owed loading some_ within => exact .came running owed loading some_ (by omega)
  | owed running closed owed due => exact .owed running closed owed due
  | asked running open_ owed loading due within =>
      exact .asked running open_ owed loading due (by omega)

/-- An input that neither opens the link nor ends a wait nor switches the session. -/
theorem Shift.counted_other (shift : p.Shift .other q) (counted : p.Counted bound applied under)
    (running : p.isRunning = true) : q.Counted bound applied under := by
  cases counted with
  | stopped stopped => cases running.symm.trans stopped
  | came _ owed loading some_ within =>
      cases shift with
      | kept => exact .came running owed loading some_ within
      | sent frame other => exact .came running owed loading some_ within
      | lost frames =>
          have settled : p.session.disconnected.owed = false := by
            simp only [Session.disconnected, owed, loading, Bool.or_false]
          exact .came running settled loading some_ within
      | stopped => exact .stopped rfl rfl (by omega)
  | owed _ closed owed due =>
      cases shift with
      | kept => exact .owed running closed owed due
      | sent frame other => exact .owed running closed owed due
      | lost frames => exact .owed running rfl (Session.owed_disconnected_of_owed owed) due
      | stopped => exact .stopped rfl rfl (by omega)
  | asked _ open_ owed loading due within =>
      cases shift with
      | kept => exact .asked running open_ owed loading due within
      | sent frame other => exact .asked running open_ owed loading due within
      | lost frames => exact .owed running rfl (Session.owed_disconnected_of_loading loading) due
      | stopped => exact .stopped rfl rfl (by omega)

/-- The link opens: nothing is under way on it but what is asked for at once. -/
theorem Shift.counted_opening (shift : p.Shift .opening q)
    (counted : p.Counted bound applied under) (running : p.isRunning = true) :
    q.Counted bound applied (q.underway 0 [] q.session.current) := by
  cases counted with
  | stopped stopped => cases running.symm.trans stopped
  | came _ owed loading some_ within =>
      cases shift with
      | opened closed =>
          rw [Session.opened_of_not_owed owed]
          refine .came running owed loading some_ ?_
          simp only [underway, Option.toList_none, List.drop_nil, List.countP_nil, if_true]
          omega
      | openedLost closed due frames => cases owed.symm.trans due
  | owed _ closed owed due =>
      cases shift with
      | opened _ =>
          rw [Session.opened_of_owed owed]
          refine .asked running rfl rfl rfl due ?_
          have one : [Outbound.setSession p.session.current].countP
              (Outbound.seeks p.session.current) = 1 :=
            List.countP_eq_length.mpr fun frame member => by
              rw [List.mem_singleton.mp member, Outbound.seeks_setSession]
          simp only [underway, Option.toList_some, List.drop_zero, List.countP_nil, if_true, one]
          omega
      | openedLost _ _ frames =>
          rw [Session.opened_of_owed owed]
          exact .owed running rfl rfl due
  | asked _ open_ _ _ _ _ =>
      cases shift with
      | opened closed => cases closed.symm.trans open_
      | openedLost closed _ frames => cases closed.symm.trans open_

/-- A history is accepted: one more has come, and one less is under way. -/
theorem Shift.counted_loading (shift : p.Shift .loading q)
    (counted : p.Counted bound applied under) (running : p.isRunning = true)
    (less : fewer + 1 ≤ under) : q.Counted bound (applied + 1) fewer := by
  cases shift with
  | loaded open_ =>
      cases counted with
      | stopped stopped => cases running.symm.trans stopped
      | came _ owed _ some_ within => exact .came running owed rfl (by omega) (by omega)
      | owed _ closed => cases closed.symm.trans open_
      | asked _ _ owed _ due within => exact .came running owed rfl (by omega) (by omega)

/-- The session is switched: what is under way of the new one comes on top of what is asked for. -/
theorem Shift.counted_switching {session : String} (shift : p.Shift (.switching session) q)
    (running : p.isRunning = true) (less : fewer ≤ under + 1) : q.Counted (under + 1) 0 fewer := by
  cases shift with
  | switched _ closed => exact .owed running closed rfl (by omega)
  | pointed _ open_ => exact .asked running open_ rfl rfl (by omega) (by omega)
  | pointedLost _ open_ frames => exact .owed running rfl rfl (by omega)

end Standing

/-- One frame more adds at most itself to those that were not read. -/
theorem countP_drop_concat {α : Type} (p : α → Bool) (frames : List α) (frame : α) (read : Nat) :
    ((frames ++ [frame]).drop read).countP p ≤
      (frames.drop read).countP p + if p frame then 1 else 0 := by
  have last : ([frame].drop (read - frames.length)).countP p ≤ if p frame then 1 else 0 := by
    rw [← List.countP_singleton]
    exact (List.drop_sublist _ _).countP_le
  rw [List.drop_append, List.countP_append]
  omega

namespace Standing

variable {p q : Standing}

theorem underway_of_closed (closed : p.isOpen = false) (read : Nat) (incoming : List String)
    (session : String) : p.underway read incoming session = 0 := by
  rw [underway, closed, if_neg Bool.false_ne_true]

theorem Shift.underway_other (shift : p.Shift .other q) (read : Nat) (incoming : List String)
    (session : String) : q.underway read incoming session ≤ p.underway read incoming session := by
  cases shift with
  | kept => exact Nat.le_refl _
  | sent frame other =>
      have more := countP_drop_concat (Outbound.seeks session) p.onLink frame read
      rw [Outbound.not_seeks other, if_neg Bool.false_ne_true] at more
      unfold underway
      split
      · exact Nat.add_le_add_right more _
      · exact Nat.le_refl _
  | lost frames => exact Nat.zero_le _
  | stopped => exact Nat.zero_le _

theorem Shift.underway_switching {session : String} (shift : p.Shift (.switching session) q)
    (read : Nat) (incoming : List String) :
    q.underway read incoming session ≤ p.underway read incoming session + 1 := by
  cases shift with
  | switched _ closed =>
      have nothing := underway_of_closed
        (p := { p with session := (p.session.switch session false).1 }) closed read incoming session
      rw [nothing]
      exact Nat.zero_le _
  | pointed _ open_ =>
      have more := countP_drop_concat (Outbound.seeks session) p.onLink (.setSession session) read
      rw [Outbound.seeks_setSession, if_pos rfl] at more
      simp only [underway, open_, if_true]
      omega
  | pointedLost _ open_ frames => exact Nat.zero_le _

end Standing

end StreamingChat.Client
