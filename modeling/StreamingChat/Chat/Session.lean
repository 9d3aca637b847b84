import StreamingChat.Wire.Outbound

/-!
The session that the conversation belongs to, and the history that has to be asked for. A request
for the history is the frame that points the backend at the session; it is owed until it was sent,
and owed again when the link is lost before the answer came.
-/

namespace StreamingChat.Chat

open StreamingChat.Wire

structure Session where
  current : String
  /-- The history of the current session was asked for, or will be, and has not come. -/
  loading : Bool
  /-- The history has to be asked for on the next opening of the link. -/
  owed : Bool
  deriving DecidableEq, Repr

namespace Session

def initial (id : String) : Session where
  current := id
  loading := false
  owed := true

/-- Points at another session; the frame to send if the link is open. -/
def switch (_ : Session) (id : String) (connected : Bool) : Session × Option Outbound :=
  ({ current := id, loading := true, owed := !connected },
    if connected then some (.setSession id) else none)

/-- The link has opened; the frame to send if the history is owed. -/
def opened (s : Session) : Session × Option Outbound :=
  if s.owed then ({ s with loading := true, owed := false }, some (.setSession s.current))
  else (s, none)

/-- Whether a history belongs to the current session; one without a session does. -/
def accepts (s : Session) (id : Option String) : Bool :=
  id.all (· == s.current)

def historyLoaded (s : Session) : Session :=
  { s with loading := false }

def disconnected (s : Session) : Session :=
  { s with owed := s.owed || s.loading }

theorem opened_of_owed {s : Session} (owed : s.owed = true) :
    s.opened = ({ s with loading := true, owed := false }, some (.setSession s.current)) := by
  rw [opened, if_pos owed]

/-- What was owed stays owed when the link is lost. -/
theorem owed_disconnected_of_owed {s : Session} (owed : s.owed = true) :
    s.disconnected.owed = true := by
  rw [disconnected, owed, Bool.true_or]

/-- What was asked for and has not come is owed again when the link is lost. -/
theorem owed_disconnected_of_loading {s : Session} (loading : s.loading = true) :
    s.disconnected.owed = true := by
  rw [disconnected, loading, Bool.or_true]

theorem opened_of_not_owed {s : Session} (owed : s.owed = false) : s.opened = (s, none) := by
  rw [opened, owed, if_neg Bool.false_ne_true]

end Session

end StreamingChat.Chat
