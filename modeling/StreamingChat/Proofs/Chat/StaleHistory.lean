import StreamingChat.Proofs.Chat.SessionChange
import StreamingChat.Proofs.Wire.Naming

/-!
# Histories of other sessions

The history of a session that is not current is ignored if it is a frame.  A text that only says
that it is such a history is refused, and refusing it does not ask whose history it is: if a history
is waited for, the wait ends, and the history of the current session is not asked for again.
-/

namespace StreamingChat.Chat.State

open StreamingChat.Calendar (Moment)
open StreamingChat.Wire

variable {s : State} {session text : String}

/-- A history of another session that is a frame changes nothing. -/
theorem receive_of_stale {frame : Inbound} (names : NamesHistoryOf session text)
    (stale : session ≠ s.session.current) (decodes : Inbound.read? text = some frame)
    (now : Moment) : s.receive text now = (s, []) := by
  obtain ⟨entries, rfl⟩ := Inbound.eq_history_of_names names decodes
  have refused : s.session.accepts (some session) = false := beq_eq_false_iff_ne.mpr stale
  unfold receive
  rw [decodes]
  simp only [dispatch, refused, if_neg Bool.false_ne_true]

theorem claimsHistory_of_names (names : NamesHistoryOf session text) :
    claimsHistory text = true := by
  obtain ⟨members, canonical, free, type, -⟩ := names
  unfold claimsHistory
  rw [free]
  simp only [type]
  rfl

theorem historyLoaded_of_idle (idle : s.session.loading = false) :
    s.session.historyLoaded = s.session := by
  rw [Session.historyLoaded, ← idle]

/-- A text that only says that it is a history becomes an error, and ends the wait for a history. -/
theorem receive_of_refused (names : NamesHistoryOf session text)
    (refused : Inbound.read? text = none) (now : Moment) :
    s.receive text now =
      ({ s with
          error := some undecodableMessage
          session := s.session.historyLoaded
          isDirty := true }, []) := by
  have ended : (if s.session.loading then s.session.historyLoaded else s.session) =
      s.session.historyLoaded := by
    cases loading : s.session.loading with
    | true => rw [if_pos rfl]
    | false =>
        rw [if_neg Bool.false_ne_true]
        exact (historyLoaded_of_idle loading).symm
  unfold receive
  rw [refused]
  simp only [refuse, claimsHistory_of_names names, Bool.true_and, ended]
  rfl

/-! ## Asking again -/

/-- What a state asks for when its link is lost and opens again. -/
def asksAgain (s : State) (lost : Moment) : List Effect :=
  (s.disconnected lost).opened.2

/-- The wait for the history of the current session ends with an input, or another session becomes
current. -/
def Answers (s : State) : Input → Prop
  | .received text => s.loads text = true
  | .switched _ _ => True
  | _ => False

/-- None of the inputs of a run answers. -/
def Unanswered (s : State) : List (Input × Moment) → Prop
  | [] => True
  | i :: rest => ¬s.Answers i.1 ∧ (s.step i.1 i.2).1.Unanswered rest

theorem asksAgain_of_loading (loading : s.session.loading = true) (lost : Moment) :
    s.asksAgain lost = [.send (.setSession s.session.current)] := by
  have owed := Session.owed_disconnected_of_loading loading
  have opened := Session.opened_of_owed owed
  unfold asksAgain State.opened
  change sends s.session.disconnected.opened.2 = _
  rw [opened]
  rfl

theorem session_receive (quiet : s.loads text = false) (now : Moment) :
    (s.receive text now).1.session = s.session := by
  have heard := s.heard_receive now text
  rw [quiet] at heard
  generalize s.receive text now = next at heard
  cases heard with
  | silent t same => exact same
  | replied t same effect reply => exact same

/-- A history that is waited for stays so over an input that does not answer it. -/
theorem loading_step (loading : s.session.loading = true) {input : Input}
    (unanswered : ¬s.Answers input) (now : Moment) :
    (s.step input now).1.session.loading = true ∧
      (s.step input now).1.session.current = s.session.current := by
  cases input with
  | received text =>
      have same := session_receive (eq_false_of_ne_true unanswered) now
      exact ⟨(congrArg Session.loading same).trans loading, congrArg Session.current same⟩
  | flushDue =>
      have same := s.session_flushDue now
      exact ⟨(congrArg Session.loading same).trans loading, congrArg Session.current same⟩
  | opened =>
      change s.session.opened.1.loading = true ∧ s.session.opened.1.current = s.session.current
      cases owed : s.session.owed with
      | true =>
          rw [Session.opened_of_owed owed]
          exact ⟨rfl, rfl⟩
      | false =>
          rw [Session.opened_of_not_owed owed]
          exact ⟨loading, rfl⟩
  | disconnected => exact ⟨loading, rfl⟩
  | ended => exact ⟨loading, rfl⟩
  | turn content => exact ⟨loading, rfl⟩
  | switched session connected => exact absurd trivial unanswered
  | answered request approved remember => exact ⟨loading, rfl⟩
  | takeChanges =>
      have same := s.session_takeChanges
      exact ⟨(congrArg Session.loading same).trans loading, congrArg Session.current same⟩

theorem loading_run {inputs : List (Input × Moment)} (loading : s.session.loading = true)
    (unanswered : s.Unanswered inputs) :
    (s.run inputs).session.loading = true ∧
      (s.run inputs).session.current = s.session.current := by
  induction inputs generalizing s with
  | nil => exact ⟨loading, rfl⟩
  | cons first rest ih =>
      obtain ⟨quiet, later⟩ := unanswered
      obtain ⟨waiting, current⟩ := loading_step loading quiet first.2
      obtain ⟨stays, same⟩ := ih waiting later
      exact ⟨stays, same.trans current⟩

theorem not_answers_of_frame {frame : Inbound} (names : NamesHistoryOf session text)
    (stale : session ≠ s.session.current) (decodes : Inbound.read? text = some frame) :
    ¬s.Answers (.received text) := by
  obtain ⟨entries, rfl⟩ := Inbound.eq_history_of_names names decodes
  have refused : s.loads text = s.session.accepts (some session) := by rw [loads, decodes]
  intro answers
  exact stale (eq_of_beq (refused.symm.trans answers))

theorem not_answers_of_idle (refused : Inbound.read? text = none)
    (idle : s.session.loading = false) : ¬s.Answers (.received text) := by
  have quiet : s.loads text = false := by rw [loads, refused, idle, Bool.and_false]
  intro answers
  cases quiet.symm.trans answers

/-- A text that says that it is the history of a session that is not current has no effect, and
leaves the transcript, the gathered text with its deadline, and what is owed alone.  A frame leaves
all else alone too.  What is not a frame becomes an error, and no history is waited for any more.
So the wait for a history goes on over such a text unless the text is not a frame, and a history is
asked for again when the link is lost and opens again as long as the wait for it goes on. -/
theorem stale_history_ignored (s : State) (text session : String)
    (names : NamesHistoryOf session text) (stale : session ≠ s.session.current) (now : Moment) :
    let t := (s.receive text now).1
    (s.receive text now).2 = [] ∧ t.feed = s.feed ∧ t.session.owed = s.session.owed ∧
      (∀ frame, Inbound.read? text = some frame → t = s) ∧
      (Inbound.read? text = none →
        t = { s with
          error := some undecodableMessage, session := s.session.historyLoaded, isDirty := true }) ∧
      (Inbound.read? text ≠ none ∨ s.session.loading = false →
        ¬s.Answers (.received text) ∧ t.session = s.session) ∧
      (s.session.loading = true → ∀ inputs, s.Unanswered inputs → ∀ lost,
        (s.run inputs).asksAgain lost = [.send (.setSession s.session.current)]) := by
  intro t
  have again : s.session.loading = true → ∀ inputs, s.Unanswered inputs → ∀ lost,
      (s.run inputs).asksAgain lost = [.send (.setSession s.session.current)] := by
    intro loading inputs unanswered lost
    obtain ⟨waiting, current⟩ := loading_run loading unanswered
    rw [asksAgain_of_loading waiting, current]
  cases read : Inbound.read? text with
  | some frame =>
      have received := receive_of_stale names stale read now
      have same : t = s := congrArg Prod.fst received
      have unanswered := not_answers_of_frame names stale read
      rw [received, same]
      refine ⟨rfl, rfl, rfl, fun _ _ => rfl, ?_, fun _ => ⟨unanswered, rfl⟩, again⟩
      intro missing
      cases missing
  | none =>
      have received := receive_of_refused (s := s) names read now
      have refused : t = { s with
          error := some undecodableMessage
          session := s.session.historyLoaded
          isDirty := true } := congrArg Prod.fst received
      rw [received, refused]
      refine ⟨rfl, rfl, rfl, ?_, fun _ => rfl, ?_, again⟩
      · intro frame decodes
        cases decodes
      · rintro (decodes | idle)
        · exact absurd rfl decodes
        · exact ⟨not_answers_of_idle read idle, historyLoaded_of_idle idle⟩

/-- The history of the first session. -/
def oldHistory : String :=
  "\x7b\"type\":\"history\",\"sessionId\":\"default\",\"messages\":[]\x7d"

/-- The history of the first session, with a field that cannot be decoded. -/
def spoiltHistory : String :=
  "\x7b\"type\":\"history\",\"sessionId\":\"default\",\"messages\":null\x7d"

/-- The link has opened, and the history of a second session was asked for on it. -/
def askedForSecond : State :=
  (initial "default" 50).run [(.opened, ⟨0, ⟨0, 0⟩⟩), (.switched "second" true, ⟨0, ⟨0, 0⟩⟩)]

theorem oldHistory_names : NamesHistoryOf "default" oldHistory := by
  have document : Json.read? oldHistory = some (.object [("type", .string "history"),
      ("sessionId", .string "default"), ("messages", .array [])]) := rfl
  exact namesHistoryOf_of_read document (by decide) List.mem_cons_self
    (List.mem_cons_of_mem _ List.mem_cons_self)

theorem spoiltHistory_names : NamesHistoryOf "default" spoiltHistory := by
  have document : Json.read? spoiltHistory = some (.object [("type", .string "history"),
      ("sessionId", .string "default"), ("messages", .null)]) := rfl
  exact namesHistoryOf_of_read document (by decide) List.mem_cons_self
    (List.mem_cons_of_mem _ List.mem_cons_self)

theorem stale_history_ignored_of_old :
    NamesHistoryOf "default" oldHistory ∧ "default" ≠ askedForSecond.session.current ∧
      (askedForSecond.receive oldHistory ⟨1, ⟨1, 0⟩⟩).1 = askedForSecond ∧
      (askedForSecond.run [(.received oldHistory, ⟨1, ⟨1, 0⟩⟩)]).asksAgain ⟨2, ⟨2, 0⟩⟩ =
        [.send (.setSession "second")] := by
  have stale : "default" ≠ askedForSecond.session.current := by decide
  have decodes : Inbound.read? oldHistory = some (.history [] (some "default")) := rfl
  obtain ⟨-, -, -, kept, -, waits, again⟩ :=
    stale_history_ignored askedForSecond oldHistory "default" oldHistory_names stale ⟨1, ⟨1, 0⟩⟩
  have unanswered : askedForSecond.Unanswered [(.received oldHistory, ⟨1, ⟨1, 0⟩⟩)] :=
    ⟨(waits (.inl fun none => by cases decodes.symm.trans none)).1, trivial⟩
  exact ⟨oldHistory_names, stale, kept _ decodes, again rfl _ unanswered _⟩

/-- The history of the second session is waited for and would be asked for again; then a text comes
that names the first session, and neither is so. -/
theorem stale_history_not_ignored :
    NamesHistoryOf "default" spoiltHistory ∧ "default" ≠ askedForSecond.session.current ∧
      askedForSecond.session.loading = true ∧
      askedForSecond.asksAgain ⟨2, ⟨2, 0⟩⟩ = [.send (.setSession "second")] ∧
      let t := (askedForSecond.receive spoiltHistory ⟨1, ⟨1, 0⟩⟩).1
      t.session.loading = false ∧ t.asksAgain ⟨2, ⟨2, 0⟩⟩ = [] := by
  have refused : Inbound.read? spoiltHistory = none := rfl
  have received := receive_of_refused (s := askedForSecond) spoiltHistory_names refused
    ⟨1, ⟨1, 0⟩⟩
  rw [received]
  exact ⟨spoiltHistory_names, by decide, rfl, rfl, rfl, rfl⟩

end StreamingChat.Chat.State
