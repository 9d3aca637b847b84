import StreamingChat.Client.Basic

/-!
# What sending does

A frame goes one of three ways.  On a link that is not open nothing happens.  On an open one it is
handed to the transport, and either it is taken, or the link is lost and the conversation learns of
it.
-/

namespace StreamingChat.Client

open StreamingChat.Chat
open StreamingChat.Link
open StreamingChat.Wire

namespace Step

variable {s : Step} {r : Reading}

/-- What one more act adds to a reading of all acts. -/
theorem filterMap_did {α : Type} (f : Act → Option α) (s : Step) (act : Act) :
    (s.did act).acts.filterMap f = s.acts.filterMap f ++ (f act).toList := by
  rw [did, List.filterMap_append, List.filterMap_cons]
  cases f act with
  | none => rfl
  | some value => rfl

theorem send_of_closed (closed : s.client.connection.isOpen = false) (frame : Outbound) :
    s.send frame r = (s, .error .notConnected) := by
  simp only [send, Connection.send, closed]
  rfl

theorem send_of_taken (open_ : s.client.connection.isOpen = true) (taken : r.sink = .ok ())
    (frame : Outbound) : s.send frame r = (s.did (.handed frame), .ok ()) := by
  simp only [send, Connection.send, open_, taken, if_true, Bool.not_true, Bool.and_false]
  rfl

/-- A step after a frame with which the link was lost. -/
def losing (s : Step) (frame : Outbound) (r : Reading) : Step :=
  ((s.did (.handed frame)).withConnection (s.client.connection.schedule r).1).withState
    (s.client.state.disconnected r.now)

theorem send_of_lost (open_ : s.client.connection.isOpen = true) {fault : Fault}
    (lost : r.sink = .error fault) (frame : Outbound) :
    s.send frame r = (s.losing frame r, .error (.transport fault)) := by
  have closed := s.client.connection.isOpen_schedule r
  simp only [send, Connection.send, open_, lost, if_true, closed]
  rfl

/-- The three ways of a frame. -/
theorem send_cases (s : Step) (frame : Outbound) (r : Reading) :
    (s.client.connection.isOpen = false ∧ s.send frame r = (s, .error .notConnected)) ∨
      (s.client.connection.isOpen = true ∧ s.send frame r = (s.did (.handed frame), .ok ())) ∨
      ∃ fault, s.client.connection.isOpen = true ∧
        s.send frame r = (s.losing frame r, .error (.transport fault)) := by
  cases open_ : s.client.connection.isOpen with
  | false => exact .inl ⟨rfl, send_of_closed open_ frame⟩
  | true =>
      cases answer : r.sink with
      | ok => exact .inr (.inl ⟨rfl, send_of_taken open_ answer frame⟩)
      | error fault => exact .inr (.inr ⟨fault, rfl, send_of_lost open_ answer frame⟩)

/-- A record is made only of a frame that was taken. -/
theorem sendThen_cases (s : Step) (frame : Outbound) (record : State → State) (r : Reading) :
    (s.client.connection.isOpen = false ∧
        s.sendThen frame record r = (s, .error .notConnected)) ∨
      (s.client.connection.isOpen = true ∧
        s.sendThen frame record r =
          ((s.did (.handed frame)).withState (record s.client.state), .ok ())) ∨
      ∃ fault, s.client.connection.isOpen = true ∧
        s.sendThen frame record r = (s.losing frame r, .error (.transport fault)) := by
  rcases send_cases s frame r with ⟨closed, sent⟩ | ⟨open_, sent⟩ | ⟨fault, open_, sent⟩
  · refine .inl ⟨closed, ?_⟩
    rw [sendThen, sent]
    rfl
  · refine .inr (.inl ⟨open_, ?_⟩)
    rw [sendThen, sent]
    rfl
  · refine .inr (.inr ⟨fault, open_, ?_⟩)
    rw [sendThen, sent]
    rfl

/-! ## The frames that were handed over -/

theorem offered_did (s : Step) (act : Act) :
    (s.did act).offered = s.offered ++ act.frame?.toList :=
  filterMap_did Act.frame? s act

theorem offered_publish (s : Step) : s.publish.offered = s.offered := by
  unfold publish
  split
  · rw [offered_did, offered_did]
    exact (List.append_nil _).trans (List.append_nil _)
  · rfl

theorem offered_send_of_open (open_ : s.client.connection.isOpen = true) (frame : Outbound)
    (r : Reading) : (s.send frame r).1.offered = s.offered ++ [frame] := by
  rcases send_cases s frame r with ⟨closed, -⟩ | ⟨-, sent⟩ | ⟨fault, -, sent⟩
  · cases open_.symm.trans closed
  · rw [sent, offered_did]
    rfl
  · rw [sent]
    exact offered_did s (.handed frame)

/-- A frame that was handed over by a sending is the one that was sent. -/
theorem mem_offered_send {frame sent : Outbound}
    (offered : frame ∈ (s.send sent r).1.offered) : frame ∈ s.offered ∨ frame = sent := by
  rcases send_cases s sent r with ⟨-, same⟩ | ⟨-, handed⟩ | ⟨fault, -, lost⟩
  · rw [same] at offered
    exact .inl offered
  · rw [handed, offered_did] at offered
    exact (List.mem_append.mp offered).imp_right List.mem_singleton.mp
  · rw [lost] at offered
    change frame ∈ (s.did (.handed sent)).offered at offered
    rw [offered_did] at offered
    exact (List.mem_append.mp offered).imp_right List.mem_singleton.mp

theorem mem_offered_sendThen {frame sent : Outbound} {record : State → State}
    (offered : frame ∈ (s.sendThen sent record r).1.offered) :
    frame ∈ s.offered ∨ frame = sent := by
  rcases sendThen_cases s sent record r with ⟨-, same⟩ | ⟨-, handed⟩ | ⟨fault, -, lost⟩
  · rw [same] at offered
    exact .inl offered
  · rw [handed] at offered
    change frame ∈ (s.did (.handed sent)).offered at offered
    rw [offered_did] at offered
    exact (List.mem_append.mp offered).imp_right List.mem_singleton.mp
  · rw [lost] at offered
    change frame ∈ (s.did (.handed sent)).offered at offered
    rw [offered_did] at offered
    exact (List.mem_append.mp offered).imp_right List.mem_singleton.mp

/-- A frame that was handed over by carrying out effects is one of them. -/
theorem mem_offered_perform {frame : Outbound} {effects : List Effect}
    (offered : frame ∈ (s.perform effects r).offered) :
    frame ∈ s.offered ∨ .send frame ∈ effects := by
  induction effects generalizing s with
  | nil => exact .inl offered
  | cons effect rest ih =>
      rcases ih offered with before | later
      · cases effect with
        | send sent =>
            rcases mem_offered_send before with old | rfl
            · exact .inl old
            · exact .inr List.mem_cons_self
        | progress data =>
            change frame ∈ (s.did (.told (.progress data))).offered at before
            rw [offered_did] at before
            exact .inl ((List.mem_append.mp before).resolve_right List.not_mem_nil)
      · exact .inr (List.mem_cons_of_mem effect later)

theorem mem_offered_become {frame : Outbound} {next : State × List Effect}
    (offered : frame ∈ (s.become next r).offered) : frame ∈ s.offered ∨ .send frame ∈ next.2 :=
  mem_offered_perform (s := s.withState next.1) offered

/-! ## The answers to commands -/

theorem reply_publish (s : Step) : s.publish.reply = s.reply := by
  have same : s.publish.acts.filterMap Act.reply? = s.acts.filterMap Act.reply? := by
    unfold publish
    split
    · rw [filterMap_did, filterMap_did]
      exact (List.append_nil _).trans (List.append_nil _)
    · rfl
  rw [reply, same, reply]

/-- A client that runs answers a command with what carrying it out came to. -/
theorem reply_next_command (running : s.client.isRunning = true) (command : Command)
    (r : Reading) : (s.next (.command command) r).reply = some (s.carryOut command r).2 := by
  have replied : ((s.commanded command r).1.did (.replied (s.commanded command r).2)).reply =
      some (s.commanded command r).2 := by
    rw [reply, filterMap_did]
    exact List.getLast?_concat
  rw [next_of_running running, reply_publish]
  exact replied

theorem reply_next_of_stopped (stopped : s.client.isRunning = false) (command : Command)
    (r : Reading) : (s.next (.command command) r).reply = some (.error .shutDown) := by
  unfold next
  rw [stopped, if_neg Bool.false_ne_true, reply, filterMap_did]
  exact List.getLast?_concat

end Step

end StreamingChat.Client
